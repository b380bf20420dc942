import SqlRender.Dialect.Basic
import SqlRender.Expr.Flag
import SqlRender.Render.Piece

/-!
# Creation of triggers

Triggers differ more between databases than anything else. Which clauses are written is decided by
the dialect's features alone; options it does not know are left out, but for the body, the procedure
and the definer, which have to be what it takes.
-/

namespace SqlRender

/-- The creation of a trigger. -/
structure CreateTrigger (ε : Type) where
  name : ε
  table : ε
  time : ε
  event : ε
  columns : List ε := []
  isConstraint : Flag := .bool false
  timing : ε
  referencedTable : ε
  each : ε
  condition : ε
  procedure : ε
  definer : ε
  body : Option (List ε) := none
  order : ε
  orderTrigger : ε

namespace CreateTrigger

/-- Apply a function to every part. -/
def map {α β : Type} (f : α → β) (c : CreateTrigger α) : CreateTrigger β where
  name := f c.name
  table := f c.table
  time := f c.time
  event := f c.event
  columns := c.columns.map f
  isConstraint := c.isConstraint
  timing := f c.timing
  referencedTable := f c.referencedTable
  each := f c.each
  condition := f c.condition
  procedure := f c.procedure
  definer := f c.definer
  body := c.body.map (·.map f)
  order := f c.order
  orderTrigger := f c.orderTrigger

/-- The rules that a trigger must keep under a set of features, each with whether it is kept. -/
def rules (features : FeatureSet TriggerCreateFeature) (c : CreateTrigger Piece) :
    List (Bool × Rule) :=
  let insteadOf := c.time.isKeyword (.triggerTime .insteadOf)
  let onUpdate := c.event.isKeyword (.triggerEvent .update)
  let forEachRow := c.each.isKeyword (.triggerEach .row)
  let noColumns := c.columns.isEmpty
  (if !features.has .consistency then []
   else
    [(!(insteadOf && onUpdate && !noColumns), .insteadOfWithoutColumns),
      (!insteadOf || forEachRow, .insteadOfForEachRow),
      (!features.has .updateColumns || noColumns || onUpdate, .columnsOnUpdate),
      (!features.has .condition || !insteadOf || c.condition.isAbsent,
        .insteadOfWithoutCondition)] ++
    if !features.has .constraints then []
    else
      [(!c.isConstraint.holds || c.time.isKeyword (.triggerTime .after), .constraintAfter),
        (!c.isConstraint.holds || forEachRow, .constraintForEachRow),
        (c.isConstraint.holds || c.timing.isAbsent, .timingOnConstraint)]) ++
  [(features.has .definer || c.definer.isAbsent, .definerUnderstood),
    (!features.has .body || c.body.isSome, .bodyGiven),
    (features.has .body || !c.procedure.isAbsent, .procedureGiven)]

/-- The first rule that is broken. -/
def broken? (features : FeatureSet TriggerCreateFeature) (c : CreateTrigger Piece) :
    Option Rule :=
  ((c.rules features).find? fun rule => !rule.1).map (·.2)

/-- The clause that says what the trigger runs for. -/
def eachClause (features : FeatureSet TriggerCreateFeature) (c : CreateTrigger Piece) :
    List Draft :=
  if features.has .rowRequired ||
      (features.has .forEach && features.has .constraints && c.isConstraint.holds) then
    [.text TriggerEach.row.text]
  else if features.has .forEach then c.each.part
  else []

/-- The condition, in parentheses if the dialect asks for them. -/
def conditionClause (features : FeatureSet TriggerCreateFeature) (c : CreateTrigger Piece) :
    List Draft :=
  if !c.condition.isAbsent && features.has .condition then
    .text "WHEN" :: if features.has .parenthesizedCondition then [c.condition.grouped]
      else c.condition.part
  else []

/-- What the trigger does: the statements of its body, or a procedure. -/
def action (features : FeatureSet TriggerCreateFeature) (c : CreateTrigger Piece) : List Draft :=
  match features.has .body, c.body with
  | true, some statements =>
    [.text "BEGIN", .join " " (Piece.drafts statements), .text "END;"]
  | _, _ =>
    if c.procedure.isAbsent then [] else .text "EXECUTE PROCEDURE" :: c.procedure.part

/-- The clauses in the order in which they are written. -/
def clauses (features : FeatureSet TriggerCreateFeature) (c : CreateTrigger Piece) : List Draft :=
  .text "CREATE" ::
    Draft.wordIf (features.has .constraints && c.isConstraint.holds) "CONSTRAINT" ++
    .text "TRIGGER" :: c.name.part ++
    (if !c.definer.isAbsent && features.has .definer then .text "DEFINER =" :: c.definer.part
      else []) ++
    c.time.part ++ c.event.part ++
    (if !c.columns.isEmpty && features.has .updateColumns then
      [.text "OF", .join ", " (Piece.drafts c.columns)] else []) ++
    .text "ON" :: c.table.part ++
    (if features.has .constraints then c.referencedTable.clause "FROM" ++ c.timing.part else []) ++
    c.eachClause features ++
    c.conditionClause features ++
    (if !c.order.isAbsent && !c.orderTrigger.isAbsent && features.has .order then
      c.order.part ++ c.orderTrigger.part else []) ++
    c.action features

/-- The statement, unless a rule is broken. -/
def draft (g : Grammar) (c : CreateTrigger Piece) : Draft :=
  match c.broken? g.triggers.create with
  | some rule => .fail (.broken rule)
  | none => .phrase (c.clauses g.triggers.create)

/-- The fields by name. -/
def outline (c : CreateTrigger Outline) : Outline :=
  .record "CreateTrigger"
    [("name", c.name), ("table", c.table), ("when", c.time), ("event", c.event),
      ("columns", .tuple c.columns), ("is_constraint", c.isConstraint.outline),
      ("timing", c.timing), ("referenced_table", c.referencedTable), ("each", c.each),
      ("condition", c.condition), ("procedure", c.procedure), ("definer", c.definer),
      ("body", (c.body.map Outline.tuple).getD (.value .null)), ("order", c.order),
      ("order_trigger_name", c.orderTrigger)]

end CreateTrigger

end SqlRender
