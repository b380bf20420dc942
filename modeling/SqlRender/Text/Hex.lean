/-!
# Hexadecimal digits
-/

namespace SqlRender.Text

/-- A number in hexadecimal, lower case, with at least `width` digits. -/
def hex (width n : Nat) : String :=
  let digits := Nat.toDigits 16 n
  String.ofList (List.replicate (width - digits.length) '0' ++ digits)

end SqlRender.Text
