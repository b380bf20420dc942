/-!
# Sets of characters given by ranges of code points

The character classes of the Unicode standard are given as lists of closed ranges of code points.
-/

namespace SqlRender.Text

/-- A set of characters, as closed ranges of code points. -/
abbrev CodeRanges := List (Nat × Nat)

/-- Whether the character lies in one of the ranges. -/
def CodeRanges.has (ranges : CodeRanges) (c : Char) : Bool :=
  ranges.any fun range => range.1 ≤ c.toNat && c.toNat ≤ range.2

end SqlRender.Text
