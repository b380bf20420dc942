/-!
# Decimal digits

The number that a run of decimal digits stands for. A run that is too long is refused whatever its
digits are, leading zeros included.
-/

namespace SqlRender.Digits

/-- The most digits of a number. -/
def maxCount : Nat :=
  4300

/-- The text of the error for a number of too many digits. -/
def tooManyMessage (count : Nat) : String :=
  "Exceeds the limit (" ++ toString maxCount ++
    " digits) for integer string conversion: value has " ++ toString count ++
    " digits; use sys.set_int_max_str_digits() to increase the limit"

/-- The number that digits stand for. -/
def number (cs : List Char) : Nat :=
  cs.foldl (fun n c => 10 * n + (c.toNat - 48)) 0

/-- The number that digits stand for, or how many they are if they are too many. -/
def read (cs : List Char) : Except Nat Nat :=
  if cs.length > maxCount then .error cs.length else .ok (number cs)

end SqlRender.Digits
