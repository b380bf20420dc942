/-!
# Quoted text

A quoted token is a text between two marks; each mark inside the text is written twice, so that a
reader can tell it from the closing one. A mark may have any number of characters. Marks inside the
text are found from left to right and do not overlap.
-/

namespace SqlRender.Text

/-- The text with every mark written twice. `copying` counts the characters of a mark that has been
found and is still being copied. -/
def doubleMarks (mark : List Char) (copying : Nat) : List Char → List Char
  | [] => []
  | c :: rest =>
    match copying with
    | n + 1 => c :: doubleMarks mark n rest
    | 0 =>
      if !mark.isEmpty && mark.isPrefixOf (c :: rest) then
        mark ++ c :: doubleMarks mark (mark.length - 1) rest
      else c :: doubleMarks mark 0 rest

/-- The quoted token for a text. -/
def quote (mark text : String) : String :=
  mark ++ String.ofList (doubleMarks mark.toList 0 text.toList) ++ mark

end SqlRender.Text
