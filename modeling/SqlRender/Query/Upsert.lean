import SqlRender.Dialect.Basic
import SqlRender.Render.Piece

/-!
# Upserts

What becomes of rows that an insertion finds there already. A strategy is written in two places: an
early word after `INSERT` in some dialects, and a clause at the end.
-/

namespace SqlRender

/-- A new value for a column. -/
def Draft.assignment (column value : Piece) : Draft :=
  .seq [column.draft, .text " = ", value.draft]

/-- What a strategy is made from, of an action's assignments and filter. -/
def ConflictParts.ofPieces (assignments : Option (List Piece)) (filter : Piece) :
    ConflictParts where
  assignments := assignments.map Piece.drafts
  filter := if filter.isAbsent then none else some filter.draft

namespace ConflictParts

/-- Whether rows are updated. -/
def isUpdate (p : ConflictParts) : Bool :=
  p.assignments.isSome

/-- The clause at the end, for a conflict on the targets. -/
def draft (g : Grammar) (targets : List Draft) (p : ConflictParts) : Draft :=
  match p.assignments with
  | some [] => .fail (.broken .updateNotEmpty)
  | some assignments =>
    if g.upsertStyle = .onDuplicateKey then
      .phrase [.text "ON DUPLICATE KEY UPDATE", .join ", " assignments]
    else
      .phrase (.text "ON CONFLICT" :: (if targets.isEmpty then [] else [.group targets]) ++
        [.text "DO UPDATE SET", .join ", " assignments] ++
        p.filter.toList.map (.clause "WHERE"))
  | none =>
    if g.upsertStyle = .onDuplicateKey then .empty
    else
      .phrase (.text "ON CONFLICT" :: (if targets.isEmpty then [] else [.group targets]) ++
        [.text "DO NOTHING"])

end ConflictParts

/-- The parts of a conflict action, if the piece is one. -/
def Piece.conflictParts (p : Piece) : Except Fault ConflictParts :=
  match p.shape with
  | .conflictAction parts => .ok parts
  | _ => .error (.lacks p.typeName .updating)

/-- The clause at the end of an insertion, for a conflict on the targets. -/
def Draft.conflictStrategy (g : Grammar) (targets : List Piece) (action : Piece) : Draft :=
  if g.upsertStyle = .unsupported then .warn (.noUpsert g.name)
  else
    match action.conflictParts with
    | .ok parts => parts.draft g (Piece.drafts targets)
    | .error fault => .fail fault

/-- Whether an insertion with this action has the early word, which says that conflicting rows are
ignored. -/
def Piece.asksToIgnore (g : Grammar) (action : Piece) : Except Fault Bool :=
  if g.upsertStyle = .onDuplicateKey then action.conflictParts.map (!·.isUpdate) else .ok false

end SqlRender
