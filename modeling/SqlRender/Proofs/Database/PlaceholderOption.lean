import Mathlib
import SqlRender.Database
import SqlRender.Proofs.Dialect.Legible
import SqlRender.Proofs.Dialect.Registered

/-!
# Placeholders by option

A connection string may name the style of the placeholders in an option, which counts more than the
driver in its scheme. The dialect then has that style by name, and is otherwise the one that was
registered. It writes the placeholders of the style unless the registered dialect has the style by
name already: such a dialect is taken as it is, with whatever placeholders it writes
(`Database.ofConfig_explicitStyle`). Dialects whose placeholders are those of their style are
*faithful*. The built-in ones are, and a registry stays faithful while faithful dialects are
registered (`Registry.IsFaithful.registerAll`).
-/

namespace SqlRender

theorem Placeholder.ne_empty_of_style? {style : String} {placeholder : Int → String}
    (h : style? style = some placeholder) : style ≠ "" := by
  rintro rfl
  cases h

/-! ## Faithful dialects -/

namespace Dialect

variable {style : String} {placeholder : Int → String}

/-- Whether a dialect writes the placeholders of its style, if that is a style. -/
def IsFaithful (d : Dialect) : Prop :=
  ∀ placeholder, Placeholder.style? d.paramStyle = some placeholder → d.placeholder = placeholder

theorem isFaithful_of_mem_builtin {d : Dialect} (h : d ∈ builtin) : d.IsFaithful := by
  intro placeholder hstyle
  simp only [builtin, List.mem_cons, List.not_mem_nil, or_false] at h
  rcases h with rfl | rfl | rfl | rfl
  all_goals exact Option.some.inj hstyle

theorem withParamStyle_of_style? (hstyle : Placeholder.style? style = some placeholder)
    (d : Dialect) :
    d.withParamStyle style = .ok { d with paramStyle := style, placeholder := placeholder } := by
  rw [withParamStyle, hstyle]

/-- A dialect that is given its own style stays as it is exactly if it is faithful to it. -/
theorem withParamStyle_self_iff {d : Dialect}
    (hstyle : Placeholder.style? d.paramStyle = some placeholder) :
    d.withParamStyle d.paramStyle = .ok d ↔ d.placeholder = placeholder := by
  rw [withParamStyle_of_style? hstyle]
  constructor
  · intro h
    exact (congrArg Dialect.placeholder (Except.ok.inj h)).symm
  · rintro rfl
    rfl

/-- What comes of a dialect that is asked for a style: the style by name, and everything else but
the placeholders as it was. The placeholders are those of the style unless the dialect had the style
by name and other ones; such a dialect stays as it is. -/
theorem exists_ensureParamStyle (hstyle : Placeholder.style? style = some placeholder)
    (d : Dialect) :
    ∃ d', d.ensureParamStyle style = .ok d' ∧ d'.paramStyle = style ∧
      d'.toGrammar = d.toGrammar ∧ (d.paramStyle = style → d' = d) ∧
      (∀ position, d'.placeholder position = placeholder position ↔
        (d.paramStyle = style → d.placeholder position = placeholder position)) ∧
      (d.withParamStyle style = .ok d' ↔ (d.paramStyle = style → d.placeholder = placeholder)) := by
  by_cases h : style = d.paramStyle
  · subst h
    refine ⟨d, if_pos rfl, rfl, rfl, fun _ => rfl, fun position => ?_, ?_⟩
    · exact ⟨fun hwritten _ => hwritten, fun hwritten => hwritten rfl⟩
    · rw [withParamStyle_self_iff hstyle]
      exact ⟨fun hwritten _ => hwritten, fun hwritten => hwritten rfl⟩
  · have hchanged := withParamStyle_of_style? hstyle d
    have hother : d.paramStyle ≠ style := Ne.symm h
    refine ⟨_, (if_neg h).trans hchanged, rfl, rfl, fun hsame => absurd hsame hother,
      fun position => ?_, ?_⟩
    · exact iff_of_true rfl fun hsame => absurd hsame hother
    · exact iff_of_true hchanged fun hsame => absurd hsame hother

end Dialect

/-! ## Faithful registries -/

namespace Registry

/-- Whether all dialects of a registry are faithful. -/
def IsFaithful (r : Registry) : Prop :=
  ∀ key d, r.dialect? key = some d → d.IsFaithful

namespace IsFaithful

variable {r : Registry}

theorem empty : Registry.empty.IsFaithful :=
  fun _ _ h => absurd h (by simp [dialect?, Registry.empty])

theorem insert (hr : r.IsFaithful) {d : Dialect} (hd : d.IsFaithful) (key : String) :
    (r.insert key d).IsFaithful := by
  intro other d' hfound
  rw [dialect?_insert] at hfound
  split at hfound
  · cases hfound
    exact hd
  · exact hr other d' hfound

/-- One registration of a faithful dialect, under any names. -/
theorem register (hr : r.IsFaithful) {d : Dialect} (hd : d.IsFaithful) (aliases : List String) :
    (r.register d aliases).IsFaithful := by
  unfold Registry.register
  generalize d.name :: aliases = names
  induction names generalizing r with
  | nil => exact hr
  | cons own names ih => exact ih (hr.insert hd (registrationKey own))

/-- Any number of registrations of faithful dialects. -/
theorem registerAll (hr : r.IsFaithful) {calls : List Registration}
    (hcalls : ∀ call ∈ calls, call.dialect.IsFaithful) : (r.registerAll calls).IsFaithful := by
  induction calls generalizing r with
  | nil => exact hr
  | cons call calls ih =>
      rw [List.forall_mem_cons] at hcalls
      exact ih (hr.register hcalls.1 call.aliases) hcalls.2

theorem builtin : Registry.builtin.IsFaithful := by
  rw [builtin_eq_registerAll]
  exact empty.registerAll fun call hcall =>
    Dialect.isFaithful_of_mem_builtin (List.mem_map_of_mem hcall)

end IsFaithful

end Registry

/-! ## Connections -/

namespace Dsn.Config

/-- A driver is no part of the name of a dialect. -/
theorem plus_not_mem_dialectName (c : Config) : '+' ∉ c.dialectName.toList := by
  have hbreak : Text.isBreak '+' = true := by decide +kernel
  rw [dialectName, Text.mem_lower_iff (Text.isCaseless_of_isBreak hbreak), String.toList_ofList]
  exact fun hmem => (Text.mem_of_mem_cut_fst hmem).2 rfl

theorem lower_dialectName (c : Config) : Text.lower c.dialectName = c.dialectName :=
  Text.lower_lower _

end Dsn.Config

/-- A connection finds the dialect whose key is the name in its scheme. -/
theorem Registry.get_dialectName_iff {r : Registry} {c : Dsn.Config} {d : Dialect} :
    r.get c.dialectName = .ok d ↔ r.dialect? c.dialectName = some d := by
  rw [get_eq_ok_iff, shortName_of_not_mem c.plus_not_mem_dialectName, c.lower_dialectName]

namespace Database

/-- The style in the option of a connection counts, whatever the driver. -/
theorem chosenStyle_of_option {c : Dsn.Config} {style : String}
    (hoption : c.option? "paramstyle" = some style) (hne : style ≠ "") :
    chosenStyle c = some style := by
  rw [chosenStyle, hoption, Dsn.given_of_ne hne, Option.some_or]

/-- The dialect of a connection with a style in its option. -/
theorem dialectOf_of_option {r : Registry} {c : Dsn.Config} {d : Dialect} {style : String}
    (hfound : r.get c.dialectName = .ok d) (hoption : c.option? "paramstyle" = some style)
    (hne : style ≠ "") : dialectOf r c = d.ensureParamStyle style := by
  rw [dialectOf, hfound, chosenStyle_of_option hoption hne]

/-- **The placeholders of an option.** After any registrations, a connection to a dialect that is
registered, with a style in its option, gives a database, whatever driver it names. Its dialect has
that style by name, and apart from its placeholders it is the one that was registered last under the
name. At any position it writes the placeholder of the style, unless the registered dialect has this
style by name and another placeholder there: only then is it not what the registered dialect is with
that style. This does not happen while faithful dialects are registered. -/
theorem ofConfig_explicitStyle (calls : List Registration) (c : Dsn.Config)
    (hregistered : c.dialectName ∈ (Registry.builtin.registerAll calls).available)
    {style : String} (hoption : c.option? "paramstyle" = some style)
    {placeholder : Int → String} (hstyle : Placeholder.style? style = some placeholder) :
    let r := Registry.builtin.registerAll calls
    ∃ d db, r.get c.dialectName = .ok d ∧ ofConfig r c = .ok db ∧
      (∀ before call after, calls = before ++ call :: after → call.Covers c.dialectName →
        (∀ later ∈ after, ¬ later.Covers c.dialectName) → d = call.dialect) ∧
      db.dialect.paramStyle = style ∧ db.dialect.toGrammar = d.toGrammar ∧
      (d.paramStyle = style → db.dialect = d) ∧
      (∀ position, db.dialect.placeholder position = placeholder position ↔
        (d.paramStyle = style → d.placeholder position = placeholder position)) ∧
      (d.withParamStyle style = .ok db.dialect ↔
        (d.paramStyle = style → d.placeholder = placeholder)) ∧
      ((∀ call ∈ calls, call.dialect.IsFaithful) → d.withParamStyle style = .ok db.dialect) ∧
      ∀ c' : Dsn.Config, c'.dialectName = c.dialectName → c'.option? "paramstyle" = some style →
        (ofConfig r c').map (·.dialect) = .ok db.dialect := by
  intro r
  have hne := Placeholder.ne_empty_of_style? hstyle
  obtain ⟨d, hentry⟩ := Option.isSome_iff_exists.1 (Registry.mem_available_iff.1 hregistered)
  have hfound : r.get c.dialectName = .ok d := Registry.get_dialectName_iff.2 hentry
  obtain ⟨d', hensured, hname, hgrammar, hkept, hwritten, hagree⟩ :=
    Dialect.exists_ensureParamStyle hstyle d
  -- the driver has no part in the choice of the dialect
  have hdatabase (c' : Dsn.Config) (hsame : c'.dialectName = c.dialectName)
      (hoption' : c'.option? "paramstyle" = some style) :
      ofConfig r c' = .ok { dialect := d', label := some c'.redacted } := by
    have hfound' : r.get c'.dialectName = .ok d := by rw [hsame, hfound]
    rw [ofConfig, dialectOf_of_option hfound' hoption' hne, hensured]
  refine ⟨d, _, hfound, hdatabase c rfl hoption, ?_, hname, hgrammar, hkept, hwritten, hagree, ?_,
    ?_⟩
  · rintro before call after rfl hcovers hlater
    have hlast : (Registry.builtin.registerAll (before ++ call :: after)).dialect?
        (Text.lower c.dialectName) = some call.dialect :=
      Registry.dialect?_registerAll_last hcovers hlater Registry.builtin
    rw [c.lower_dialectName, hentry] at hlast
    exact Option.some.inj hlast
  · intro hcalls
    refine hagree.2 fun hsame => ?_
    have hfaithful := Registry.IsFaithful.builtin.registerAll hcalls _ _ hentry
    exact hfaithful placeholder (by rw [hsame, hstyle])
  · intro c' hsame hoption'
    rw [hdatabase c' hsame hoption']
    rfl

/-- A dialect that keeps the name of the usual style, with placeholders of another one. -/
def duck : Registration :=
  ⟨{ Dialect.generic with name := "duck", placeholder := Placeholder.dollar }, ["duckdb"]⟩

/-- A connection of a scheme, with a style in its option. -/
def styled (scheme style : String) : Dsn.Config :=
  { scheme := scheme, options := [("paramstyle", style)] }

/-- Asked for the style that it has by name, a dialect keeps its placeholders; asked for another
one it takes them, and the driver does not matter. -/
theorem ofConfig_explicitStyle_duck :
    let r := Registry.builtin.registerAll [duck]
    (∃ db, ofConfig r (styled "duckdb" "qmark") = .ok db ∧ db.dialect.paramStyle = "qmark" ∧
        db.dialect.placeholder 1 = "$1") ∧
      (∃ db, ofConfig r (styled "DuckDB+asyncpg" "numeric") = .ok db ∧
        db.dialect.paramStyle = "numeric" ∧ db.dialect.placeholder 7 = ":7") ∧
      ∃ db, ofConfig .builtin (styled "mysql+pymysql" "dollar") = .ok db ∧
        Dialect.mysql.withParamStyle "dollar" = .ok db.dialect := by
  have hduck (scheme style : String) (hscheme : (styled scheme style).dialectName = "duckdb") :
      (styled scheme style).dialectName ∈ (Registry.builtin.registerAll [duck]).available := by
    rw [hscheme, Registry.mem_available_registerAll]
    exact .inr (by decide +kernel)
  refine ⟨?_, ?_, ?_⟩
  · obtain ⟨d, db, -, hdb, hlast, hname, -, hkept, -⟩ :=
      ofConfig_explicitStyle [duck] (styled "duckdb" "qmark") (hduck _ _ (by decide +kernel)) rfl
        rfl
    have hd : d = duck.dialect := hlast [] duck [] rfl (by decide +kernel) (by simp)
    refine ⟨db, hdb, hname, ?_⟩
    rw [hkept (by rw [hd]; rfl), hd]
    decide +kernel
  · obtain ⟨d, db, -, hdb, hlast, hname, -, -, hwritten, -⟩ :=
      ofConfig_explicitStyle [duck] (styled "DuckDB+asyncpg" "numeric")
        (hduck _ _ (by decide +kernel)) rfl rfl
    have hd : d = duck.dialect := hlast [] duck [] rfl (by decide +kernel) (by simp)
    refine ⟨db, hdb, hname, ?_⟩
    rw [(hwritten 7).2 fun hsame => absurd hsame (by rw [hd]; decide +kernel)]
    decide +kernel
  · have hmysql : (styled "mysql+pymysql" "dollar").dialectName ∈
        (Registry.builtin.registerAll []).available := by
      rw [Registry.mem_available_iff]
      rfl
    obtain ⟨d, db, hd, hdb, -, -, -, -, -, -, hfaithful, -⟩ :=
      ofConfig_explicitStyle [] (styled "mysql+pymysql" "dollar") hmysql rfl rfl
    have hmysql' : Registry.builtin.get (styled "mysql+pymysql" "dollar").dialectName =
        .ok .mysql := rfl
    have hnone : Registry.builtin.registerAll [] = Registry.builtin := by
      rw [Registry.registerAll, List.foldl_nil]
    rw [hnone] at hdb hd
    rw [hmysql'] at hd
    rw [Except.ok.inj hd]
    exact ⟨db, hdb, hfaithful (by simp)⟩

end Database

end SqlRender
