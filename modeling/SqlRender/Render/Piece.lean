import SqlRender.Expr.Wording

/-!
# Pieces

A node is drafted from the pieces that its parts have been drafted to. A piece holds what rendering
the part on its own does, and the little that a surrounding node may tell about the part: whether it
is there at all, a plain text, in parentheses already, and the like. Messages about the part are
made from its outline.
-/

namespace SqlRender

/-- What a conflict clause is made from: assignments if rows are updated, and a filter. -/
structure ConflictParts where
  assignments : Option (List Draft)
  filter : Option Draft

/-- What a surrounding node may tell about a part. -/
inductive Shape where
  | absent
  | verbatim (text : String)
  | items (parts : List Draft)
  | identifier (name : Wording)
  | keyword (k : Keyword)
  /-- In parentheses by itself. -/
  | bracketed
  /-- A common table that may refer to itself. -/
  | recursiveTable
  | conflictAction (parts : ConflictParts)
  /-- What follows an insertion, with the early word that goes with it, if it can be told. -/
  | conflictStrategy (ignoresEarly : Except Fault Bool)
  | plain

/-- A part as a surrounding node sees it. -/
structure Piece where
  draft : Draft
  shape : Shape
  outline : Outline

namespace Piece

/-- The name of the part's type, as messages give it. -/
def typeName (p : Piece) : String :=
  p.outline.typeName

/-- The draft of something that is no expression. -/
def unrenderable (typeName : String) : Draft :=
  .fail (.lacks typeName .rendering)

/-- Whether there is a part at all. -/
def isAbsent (p : Piece) : Bool :=
  match p.shape with
  | .absent => true
  | _ => false

/-- Whether a part is the given keyword. -/
def isKeyword (p : Piece) (k : Keyword) : Bool :=
  match p.shape with
  | .keyword k' => k' = k
  | _ => false

/-- The part in a phrase: nothing if it is absent, and a plain text as it is. -/
def part (p : Piece) : List Draft :=
  match p.shape with
  | .absent => []
  | .verbatim text => [.text text]
  | _ => [p.draft]

/-- The parts of a phrase. -/
def parts (ps : List Piece) : List Draft :=
  ps.flatMap part

/-- A clause with the part as its body, if there is one. -/
def clause (keyword : String) (p : Piece) : List Draft :=
  if p.isAbsent then [] else [.clause keyword p.draft]

/-- The part in parentheses. A sequence gives its items. -/
def grouped (p : Piece) : Draft :=
  match p.shape with
  | .items ds => .group ds
  | _ => .group [p.draft]

/-- The drafts of pieces on their own. -/
def drafts (ps : List Piece) : List Draft :=
  ps.map draft

mutual

/-- A value in place of an expression. Values cannot be rendered, but a text may be part of a phrase
and a sequence may stand in parentheses. -/
def ofValue : Value → Piece
  | .null => ⟨unrenderable "NoneType", .absent, .value .null⟩
  | .text s => ⟨unrenderable "str", .verbatim s, .text s⟩
  | .list items => ⟨unrenderable "list", .items (ofValues items), .value (.list items)⟩
  | .tuple items => ⟨unrenderable "tuple", .items (ofValues items), .value (.tuple items)⟩
  | v => ⟨unrenderable v.typeName, .plain, .value v⟩

/-- The drafts of values in place of expressions. -/
def ofValues : List Value → List Draft
  | [] => []
  | v :: vs => (ofValue v).draft :: ofValues vs

end

end Piece

end SqlRender
