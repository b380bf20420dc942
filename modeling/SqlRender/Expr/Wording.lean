import SqlRender.Expr.Printer
import SqlRender.Render.Draft

/-!
# Wordings

A wording is what stands where a text is expected. It should be a text, but a tree takes anything
when it is built. Something else that counts as false is written as nothing; anything else spoils
the text that it is written into, and it is a fault when it is quoted.
-/

namespace SqlRender

/-- What stands where a text is expected. -/
inductive Wording where
  | text (s : String)
  /-- Something else in place of a text. -/
  | other (o : Outline)
  deriving Inhabited

instance : Coe String Wording :=
  ⟨.text⟩

namespace Wording

/-- The wording that an outline is. -/
def ofOutline : Outline → Wording
  | .value (.text s) => .text s
  | o => .other o

/-- The outline of a wording. -/
def outline : Wording → Outline
  | .text s => .text s
  | .other o => o

/-- The text of a wording inside a text. -/
def display : Wording → String
  | .text s => s
  | .other o => o.display

/-- The wording as it is written. -/
def written : Wording → Draft
  | .text s => .text s
  | .other o => if o.truthy then .stray o.typeName else .empty

/-- The wording between the items of a list. -/
def separator : Wording → Separator
  | .text s => .text s
  | .other o => if o.truthy then .stray o.typeName else .text ""

/-- The wording as a quoted token. -/
def quoted (quote : String → String) : Wording → Draft
  | .text s => .text (quote s)
  | .other (.value (.bytes _)) | .other (.value (.buffer _)) => .fail .bytesForText
  | .other o => .fail (.lacks o.typeName .quoting)

/-- The texts that wordings are, or the fault at the first that is none, the first of all being at
the given position. -/
def texts (position : Nat) : List Wording → Except Fault (List String)
  | [] => .ok []
  | .text s :: ws => (texts (position + 1) ws).map (s :: ·)
  | .other o :: _ => .error (.notText position o.typeName)

end Wording

end SqlRender
