/-!
# The shortest decimal that reads back

A binary floating-point number stands for every real that rounds to it. Among the decimals in that
interval this module picks one with the fewest digits, and of those the nearest to the number
itself. All arithmetic is exact, on natural numbers.
-/

namespace SqlRender

/-- The decimal `coefficient · 10 ^ exponent`. -/
structure Decimal where
  coefficient : Nat
  exponent : Int
  deriving DecidableEq, Repr

/-- A finite binary number `± significand · 2 ^ exponent`. -/
structure Binary where
  negative : Bool
  significand : Nat
  exponent : Int
  deriving DecidableEq, Repr

/-- What a floating-point number stands for. -/
inductive FloatKind where
  | finite (b : Binary)
  | infinite (negative : Bool)
  | notANumber

/-- The parts of a double-precision number. -/
def FloatKind.ofFloat (x : Float) : FloatKind :=
  let bits := x.toBits.toNat
  let negative := bits / Nat.pow 2 63 == 1
  let exponent : Nat := bits / Nat.pow 2 52 % Nat.pow 2 11
  let fraction : Nat := bits % Nat.pow 2 52
  if exponent = 2047 then
    if fraction = 0 then .infinite negative else .notANumber
  else if exponent = 0 then .finite ⟨negative, fraction, -1074⟩
  else .finite ⟨negative, fraction + Nat.pow 2 52, exponent - 1075⟩

namespace Decimal

/-- The integer on the grid of multiples of `10 ^ k` that is nearest to `m · 2 ^ q`, if it lies in
the interval of reals that round to that number. The interval reaches half a unit in the last place
to both sides, but only a quarter below a power of two; its ends belong to it if `m` is even. An
exact tie goes to the even integer. -/
def onGrid? (m : Nat) (q k : Int) : Option Nat :=
  let num := Nat.pow 2 (q - 2).toNat * Nat.pow 10 (-k).toNat
  let den := Nat.pow 2 (2 - q).toNat * Nat.pow 10 k.toNat
  let below := if m = Nat.pow 2 52 && q ≠ -1074 then 1 else 2
  let least := (4 * m - below) * num
  let most := (4 * m + 2) * num
  let inside (d : Nat) : Bool :=
    if m % 2 = 0 then least ≤ d * den && d * den ≤ most else least < d * den && d * den < most
  let value := 4 * m * num
  let low := value / den
  let high := low + 1
  let lowDistance := value - low * den
  let highDistance := high * den - value
  let lowFirst := lowDistance < highDistance || (lowDistance = highDistance && low % 2 = 0)
  let nearer := if lowFirst then low else high
  let farther := if lowFirst then high else low
  if inside nearer then some nearer
  else if inside farther then some farther
  else none

/-- The first grid with a hit, from `10 ^ k` to finer ones. -/
def search (m : Nat) (q : Int) : Nat → Int → Decimal
  | 0, k => ⟨0, k⟩
  | tries + 1, k =>
    match onGrid? m q k with
    | some d => ⟨d, k⟩
    | none => search m q tries (k - 1)

/-- The shortest decimal that rounds to `m · 2 ^ q`. The first grid tried is no finer than the
number's leading digit, and seventeen digits are always enough. -/
def shortest (m : Nat) (q : Int) : Decimal :=
  if m = 0 then ⟨0, 0⟩ else search m q 20 ((m.log2 + q) * 30103 / 100000 + 1)

end Decimal

end SqlRender
