import SqlRender.Decimal.Shortest

/-!
# Layouts of decimal numbers

How the digits of a number are set out: in positional notation or with an exponent.
-/

namespace SqlRender

/-- The choices of a number format. Numbers whose leading digit stands for a power of ten from
`lowest` to `highest` are positional, others have an exponent of at least `exponentWidth` digits. -/
structure NumberLayout where
  lowest : Int
  highest : Int
  exponentWidth : Nat
  infinity : String
  notANumber : String

namespace NumberLayout

/-- Zeros. -/
private def zeros (n : Nat) : List Char :=
  List.replicate n '0'

/-- Positional notation. A whole number keeps one zero after the point. -/
def positional (digits : List Char) (power : Int) : List Char :=
  if power < 0 then '0' :: '.' :: zeros (-power - 1).toNat ++ digits
  else
    let whole := power.toNat + 1
    if digits.length ≤ whole then digits ++ zeros (whole - digits.length) ++ ['.', '0']
    else digits.take whole ++ '.' :: digits.drop whole

/-- Notation with an exponent, whose sign is always written. -/
def scientific (width : Nat) (digits : List Char) (power : Int) : List Char :=
  let exponent := Nat.toDigits 10 power.natAbs
  let mantissa :=
    match digits with
    | d :: rest@(_ :: _) => d :: '.' :: rest
    | ds => ds
  mantissa ++ 'e' :: (if power < 0 then '-' else '+') ::
    zeros (width - exponent.length) ++ exponent

/-- The text of a decimal. -/
def decimal (layout : NumberLayout) (d : Decimal) : List Char :=
  let digits := Nat.toDigits 10 d.coefficient
  let power := d.exponent + digits.length - 1
  if layout.lowest ≤ power && power ≤ layout.highest then positional digits power
  else scientific layout.exponentWidth digits power

/-- The text of a floating-point number: the shortest one that reads back. -/
def float (layout : NumberLayout) (x : Float) : String :=
  let sign (negative : Bool) := if negative then "-" else ""
  match FloatKind.ofFloat x with
  | .finite b =>
    sign b.negative ++ String.ofList (layout.decimal (Decimal.shortest b.significand b.exponent))
  | .infinite negative => sign negative ++ layout.infinity
  | .notANumber => layout.notANumber

end NumberLayout

end SqlRender
