/-!
# Searching text
-/

namespace SqlRender.Text

/-- Whether a list has the pattern as a run of consecutive members. -/
def hasRun {α : Type} [BEq α] (pattern : List α) : List α → Bool
  | [] => pattern.isEmpty
  | c :: rest => pattern.isPrefixOf (c :: rest) || hasRun pattern rest

/-- Whether a text contains another. -/
def contains (text pattern : String) : Bool :=
  hasRun pattern.toList text.toList

/-- A list up to the first member that is the mark, and what follows it if there is one. -/
def cut {α : Type} [BEq α] (mark : α) : List α → List α × Option (List α)
  | [] => ([], none)
  | c :: rest =>
    if c == mark then ([], some rest)
    else
      let (before, after) := cut mark rest
      (c :: before, after)

/-- A list up to the last member that is the mark, if there is one, and what follows it. -/
def cutLast {α : Type} [BEq α] (mark : α) (cs : List α) : Option (List α) × List α :=
  let (last, before) := cut mark cs.reverse
  (before.map List.reverse, last.reverse)

/-- The parts of a list between marks. -/
def splitOn {α : Type} [BEq α] (mark : α) : List α → List (List α)
  | [] => [[]]
  | c :: rest =>
    if c == mark then [] :: splitOn mark rest
    else
      match splitOn mark rest with
      | part :: parts => (c :: part) :: parts
      | [] => [[c]]

end SqlRender.Text
