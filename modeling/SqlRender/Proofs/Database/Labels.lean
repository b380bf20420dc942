import SqlRender.Proofs.Database.Report

/-!
# Labels of databases

A database is labelled with its connection string, and the label goes into its text and into every
record of a query. The main statement is `Database.ofConfig_alikeButSecrets`: two connection strings
that differ only in the password and in what stands under telling names of options give databases
that cannot be told apart. So neither secret is in the label, nor does it decide on anything that
can be seen of the database.
-/

namespace SqlRender

/-! ## Options -/

namespace Redaction

/-- Options with the same names in the same order, and with the same values but under telling
names. -/
abbrev AlikeOptions (os os' : List (String × String)) : Prop :=
  List.Forall₂ (fun o o' => o.1 = o'.1 ∧ (isSensitiveKey o.1 = false → o.2 = o'.2)) os os'

variable {os os' : List (String × String)}

/-- What is left of options for the log tells nothing of what stands under telling names. -/
theorem redactOptions_eq (h : AlikeOptions os os') : redactOptions os = redactOptions os' := by
  induction h with
  | nil => rfl
  | @cons o o' os os' hname _ ih =>
      obtain ⟨name, value⟩ := o
      obtain ⟨name', value'⟩ := o'
      obtain ⟨rfl, hvalue⟩ := hname
      have head : (if isSensitiveKey name then mask else value) =
          if isSensitiveKey name then mask else value' := by
        cases hkey : isSensitiveKey name with
        | true => rfl
        | false => exact hvalue hkey
      exact congrArg₂ List.cons (congrArg (Prod.mk name) head) ih

/-- The value of an option that is not telling. -/
theorem lookup_eq (h : AlikeOptions os os') {name : String} (plain : isSensitiveKey name = false) :
    os.lookup name = os'.lookup name := by
  induction h with
  | nil => rfl
  | @cons o o' os os' hname _ ih =>
      obtain ⟨key, value⟩ := o
      obtain ⟨key', value'⟩ := o'
      obtain ⟨rfl, hvalue⟩ := hname
      rw [List.lookup_cons, List.lookup_cons, ih]
      cases hkey : name == key with
      | false => rfl
      | true =>
          rw [eq_of_beq hkey] at plain
          exact congrArg some (hvalue plain)

end Redaction

/-! ## Connection strings -/

namespace Dsn.Config

/-- Connection strings that say the same, up to the password, which both have or both lack, and up
to what stands under telling names of options. -/
structure AlikeButSecrets (c c' : Config) : Prop where
  scheme : c.scheme = c'.scheme
  username : c.username = c'.username
  password : (given c.password).isSome = (given c'.password).isSome
  host : c.host = c'.host
  port : c.port = c'.port
  database : c.database = c'.database
  path : c.path = c'.path
  options : Redaction.AlikeOptions c.options c'.options

variable {c c' : Config}

/-- The text of a connection string without secrets is the same whatever the secrets are. -/
theorem redacted_eq (h : c.AlikeButSecrets c') : c.redacted = c'.redacted := by
  have huser : c.redactedUser = c'.redactedUser := by
    rw [redactedUser, redactedUser, h.username, h.password]
  have hoptions : c.options.isEmpty = c'.options.isEmpty := by
    rw [Bool.eq_iff_iff, List.isEmpty_iff_length_eq_zero, List.isEmpty_iff_length_eq_zero,
      h.options.length_eq]
  rw [redacted, redacted, huser, hoptions, h.scheme, h.host, h.port, h.path,
    Redaction.redactOptions_eq h.options]

end Dsn.Config

/-! ## Databases -/

/-- The labels under which a report names the database of a query. -/
def Report.databases (r : Report) : List (Option String) :=
  r.records.filterMap fun record =>
    match record.event with
    | .query _ _ _ database => some database
    | _ => none

namespace Database

/-- Every record of a query has the label of the database. -/
theorem eq_label_of_mem_databases {db : Database} {elapsed : Float} {e : Expr}
    {label : Option String} (h : label ∈ (db.render elapsed e).databases) : label = db.label := by
  obtain ⟨record, hrecord, hlabel⟩ := List.mem_filterMap.1 h
  rw [records_eq] at hrecord
  unfold logged at hrecord
  simp only [List.mem_append] at hrecord
  rcases hrecord with (hwarning | htiming) | hquery
  · obtain ⟨w, -, rfl⟩ := List.mem_map.1 hwarning
    cases hlabel
  · rw [List.mem_singleton.1 htiming] at hlabel
    cases hlabel
  · split at hquery
    · rw [List.mem_singleton.1 hquery] at hlabel
      exact (Option.some.inj hlabel).symm
    · cases hquery

/-- The name of the option for placeholders is not a telling one. -/
theorem isSensitiveKey_paramstyle : Redaction.isSensitiveKey "paramstyle" = false := by
  decide +kernel

variable {c c' : Dsn.Config}

/-- **Labels hide secrets.** Connection strings that differ in their secrets only have the same text
without secrets, and give databases with the same dialect, the same label and the same text.
Whatever else is set for these databases and whatever they render, each record of a query names
either of them by that text. -/
theorem ofConfig_alikeButSecrets (r : Registry) (h : c.AlikeButSecrets c') :
    c.redacted = c'.redacted ∧
      ∀ db, ofConfig r c = .ok db → ∃ db', ofConfig r c' = .ok db' ∧
        db'.dialect = db.dialect ∧ db'.label = db.label ∧ db'.describe = db.describe ∧
        ∀ (level : Option Log.Level) (slow elapsed : Float) (e : Expr), ∀ label,
          label ∈ ({ db with queryLevel := level, slowMs := slow }.render elapsed e).databases ∨
            label ∈ ({ db' with queryLevel := level, slowMs := slow }.render elapsed e).databases →
          label = some c.redacted := by
  have hredacted := Dsn.Config.redacted_eq h
  refine ⟨hredacted, fun db hdb => ?_⟩
  unfold ofConfig at hdb ⊢
  have hdialect : dialectOf r c = dialectOf r c' :=
    dialectOf_congr r h.scheme (Redaction.lookup_eq h.options isSensitiveKey_paramstyle)
  rw [← hdialect, ← hredacted]
  cases hchosen : dialectOf r c with
  | error e =>
      rw [hchosen] at hdb
      cases hdb
  | ok d =>
      rw [hchosen] at hdb
      cases hdb
      refine ⟨_, rfl, rfl, rfl, rfl, ?_⟩
      rintro level slow elapsed e label (hlabel | hlabel) <;>
        exact eq_label_of_mem_databases hlabel

end Database

/-- A connection string with a password, and with a key under a name that is written in a way of its
own. -/
def Dsn.Config.keyed (password key : String) : Dsn.Config where
  scheme := "postgresql+asyncpg"
  username := some "alice"
  password := some password
  host := some "db"
  port := some 5432
  database := some "app"
  path := "/app"
  options := [("X_Api.Key", key), ("paramstyle", "format")]

theorem Database.ofConfig_alikeButSecrets_keyed :
    (Dsn.Config.keyed "s3cret" "k1").AlikeButSecrets (.keyed "hunter2" "") ∧
      (Dsn.Config.keyed "hunter2" "").redacted =
        "postgresql+asyncpg://alice:***@db:5432/app?X_Api.Key=%2A%2A%2A&paramstyle=format" ∧
      ∃ db db', Database.ofConfig .builtin (.keyed "s3cret" "k1") = .ok db ∧
        Database.ofConfig .builtin (.keyed "hunter2" "") = .ok db' ∧
        db'.dialect.paramStyle = "format" ∧
        db'.label = some (Dsn.Config.keyed "s3cret" "k1").redacted ∧
        db'.describe = db.describe := by
  have alike : (Dsn.Config.keyed "s3cret" "k1").AlikeButSecrets (.keyed "hunter2" "") :=
    ⟨rfl, rfl, rfl, rfl, rfl, rfl, rfl,
      .cons ⟨rfl, by decide +kernel⟩ (.cons ⟨rfl, fun _ => rfl⟩ .nil)⟩
  obtain ⟨hredacted, hdatabase⟩ := Database.ofConfig_alikeButSecrets .builtin alike
  have hdialect : Database.dialectOf .builtin (.keyed "s3cret" "k1") =
      .ok { Dialect.postgresql with
        paramStyle := "format", placeholder := Placeholder.format } := by
    rfl
  have hgiven : Database.ofConfig .builtin (.keyed "s3cret" "k1") = .ok
      { dialect :=
          { Dialect.postgresql with paramStyle := "format", placeholder := Placeholder.format }
        label := some (Dsn.Config.keyed "s3cret" "k1").redacted } := by
    rw [Database.ofConfig, hdialect]
  obtain ⟨db', hdb', hsame, hlabel, htext, -⟩ := hdatabase _ hgiven
  refine ⟨alike, ?_, _, db', hgiven, hdb', by rw [hsame], hlabel, htext⟩
  rw [← hredacted]
  decide +kernel

end SqlRender
