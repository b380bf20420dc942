/-!
# Placeholders

A bound value is not part of the text of a query: a placeholder stands for it. Drivers differ in
how they write the placeholder at a position, and each way has a name.
-/

namespace SqlRender.Placeholder

/-- A question mark for every value. -/
def qmark (_ : Int) : String :=
  "?"

/-- A colon and the position. -/
def numeric (position : Int) : String :=
  ":" ++ toString position

/-- A dollar sign and the position. -/
def dollar (position : Int) : String :=
  "$" ++ toString position

/-- A percent sign and an s for every value. -/
def format (_ : Int) : String :=
  "%s"

/-- The styles by name. Drivers with named percent placeholders take positional ones too. -/
def styles : List (String × (Int → String)) :=
  [("qmark", qmark), ("numeric", numeric), ("dollar", dollar), ("format", format),
    ("pyformat", format)]

/-- The style with a name. -/
def style? (name : String) : Option (Int → String) :=
  styles.lookup name

end SqlRender.Placeholder
