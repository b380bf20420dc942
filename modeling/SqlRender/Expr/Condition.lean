import SqlRender.Render.Piece

/-!
# Conditions

Ranges, cases, and the pairs that cases consist of.
-/

namespace SqlRender

/-- An operand between two bounds. -/
def Draft.between (operand lower upper : Piece) : Draft :=
  .phrase (operand.part ++ .text "BETWEEN" :: lower.part ++ .text "AND" :: upper.part)

/-- The two pieces of a pair. -/
def Piece.pair : List Piece → Except Fault (Piece × Piece)
  | [first, second] => .ok (first, second)
  | pieces => .error (if pieces.length < 2 then .tooFewParts pieces.length else .tooManyParts)

/-- The pieces of pairs, up to the first that is none. -/
def Piece.pairs : List (List Piece) → Except Fault (List (Piece × Piece))
  | [] => .ok []
  | pieces :: rest =>
    match Piece.pair pieces with
    | .error fault => .error fault
    | .ok p => (Piece.pairs rest).map (p :: ·)

/-- Results by condition, or by the value of an operand. A case that is no pair is a fault before
anything is written. -/
def Draft.case (cases : List (List Piece)) (operand alternative : Piece) : Draft :=
  match Piece.pairs cases with
  | .error fault => .fail fault
  | .ok pairs =>
    .phrase (.text "CASE" :: operand.part ++
      (pairs.flatMap fun p => .text "WHEN" :: p.1.part ++ .text "THEN" :: p.2.part) ++
      (if alternative.isAbsent then [] else .text "ELSE" :: alternative.part) ++
      [.text "END"])

end SqlRender
