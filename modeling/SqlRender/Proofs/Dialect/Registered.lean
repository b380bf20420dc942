import Mathlib
import SqlRender.Dialect.Registry
import SqlRender.Proofs.Text.Caseless
import SqlRender.Proofs.Text.Cut

/-!
# Dialects that have been registered

What a registry answers after any number of registrations. A registration takes the place of those
before it under each of its names (`Registry.dialect?_register`), so that the last one under a name
counts. A name is looked up without the driver behind its first plus sign, which registration does
not leave out: a dialect that is registered under a name with a plus sign is listed among the
available ones and found only if the name in front of the sign leads to it
(`Registry.get_registered`).
-/

namespace SqlRender

/-- A dialect that is registered, with its other names. -/
structure Registration where
  dialect : Dialect
  aliases : List String

namespace Registration

/-- The names that the dialect is registered under. -/
def names (c : Registration) : List String :=
  c.dialect.name :: c.aliases

/-- Whether one of the names is a name, in whatever letter case. -/
def Covers (c : Registration) (name : String) : Prop :=
  ∃ own ∈ c.names, Text.lower own = Text.lower name

instance (c : Registration) (name : String) : Decidable (c.Covers name) :=
  inferInstanceAs (Decidable (∃ own ∈ c.names, Text.lower own = Text.lower name))

end Registration

namespace Registry

/-- The registry after registrations, one after the other. -/
def registerAll (r : Registry) (calls : List Registration) : Registry :=
  calls.foldl (fun r c => r.register c.dialect c.aliases) r

/-- The dialect under a key, if there is one. -/
def dialect? (r : Registry) (key : String) : Option Dialect :=
  r.entries.lookup key

/-- What stands before the first plus sign of a name. -/
def shortName (name : String) : String :=
  String.ofList (Text.cut '+' name.toList).1

/-! ## Keys -/

theorem lookup_append_single {α β : Type} [BEq α] (entries : List (α × β)) (a key : α) (b : β) :
    (entries ++ [(a, b)]).lookup key =
      (entries.lookup key).or (if key == a then some b else none) := by
  induction entries with
  | nil =>
      rw [List.nil_append, List.lookup_cons, List.lookup_nil, Option.none_or]
      cases key == a <;> rfl
  | cons e entries ih =>
      rw [List.cons_append, List.lookup_cons, List.lookup_cons, ih]
      cases key == e.1 <;> rfl

theorem lookup_filter_ne {β : Type} (entries : List (String × β)) (key other : String) :
    (entries.filter fun e => e.1 ≠ key).lookup other =
      if other = key then none else entries.lookup other := by
  induction entries with
  | nil => simp
  | cons e entries ih =>
      by_cases he : e.1 = key
      · rw [List.filter_cons_of_neg (by simp [he]), ih, List.lookup_cons, he]
        by_cases hother : other = key
        · rw [if_pos hother, if_pos hother]
        · rw [if_neg hother, if_neg hother, beq_false_of_ne hother]
      · rw [List.filter_cons_of_pos (by simp [he]), List.lookup_cons, List.lookup_cons, ih]
        by_cases hother : other = key
        · rw [if_pos hother, if_pos hother, hother, beq_false_of_ne (Ne.symm he)]
        · rw [if_neg hother, if_neg hother]

/-- A dialect takes the place of the one under its key, and the others stay. -/
theorem dialect?_insert (r : Registry) (key other : String) (d : Dialect) :
    (r.insert key d).dialect? other = if other = key then some d else r.dialect? other := by
  rw [dialect?, dialect?, insert, lookup_append_single, lookup_filter_ne]
  by_cases h : other = key
  · simp [h]
  · simp [h]

/-- A dialect that is registered is found under the lower-case forms of its names. -/
theorem dialect?_register (r : Registry) (c : Registration) (name : String) :
    (r.register c.dialect c.aliases).dialect? (Text.lower name) =
      if c.Covers name then some c.dialect else r.dialect? (Text.lower name) := by
  have hnames (names : List String) (r : Registry) :
      (names.foldl (fun r own => r.insert (registrationKey own) c.dialect) r).dialect?
          (Text.lower name) =
        if ∃ own ∈ names, Text.lower own = Text.lower name then some c.dialect
        else r.dialect? (Text.lower name) := by
    induction names generalizing r with
    | nil => simp
    | cons own names ih =>
        rw [List.foldl_cons, ih, dialect?_insert, registrationKey]
        by_cases hrest : ∃ own ∈ names, Text.lower own = Text.lower name
        · rw [if_pos hrest, if_pos ((List.exists_mem_cons_iff ..).2 (.inr hrest))]
        · rw [if_neg hrest]
          refine if_congr ?_ rfl rfl
          rw [List.exists_mem_cons_iff, or_iff_left hrest, eq_comm]
  exact hnames c.names r

/-- Registrations under other names do not matter. -/
theorem dialect?_registerAll_of_not_covers {calls : List Registration} {name : String}
    (h : ∀ c ∈ calls, ¬ c.Covers name) (r : Registry) :
    (r.registerAll calls).dialect? (Text.lower name) = r.dialect? (Text.lower name) := by
  induction calls generalizing r with
  | nil => rfl
  | cons c calls ih =>
      rw [List.forall_mem_cons] at h
      show ((r.register c.dialect c.aliases).registerAll calls).dialect? _ = _
      rw [ih h.2, dialect?_register, if_neg h.1]

/-- The last registration under a name counts. -/
theorem dialect?_registerAll_last {before after : List Registration} {c : Registration}
    {name : String} (hc : c.Covers name) (hafter : ∀ c' ∈ after, ¬ c'.Covers name) (r : Registry) :
    (r.registerAll (before ++ c :: after)).dialect? (Text.lower name) = some c.dialect := by
  have hsplit : r.registerAll (before ++ c :: after) =
      ((r.registerAll before).register c.dialect c.aliases).registerAll after := by
    rw [registerAll, List.foldl_append, List.foldl_cons]
    rfl
  rw [hsplit, dialect?_registerAll_of_not_covers hafter, dialect?_register, if_pos hc]

theorem mem_available_iff {r : Registry} {key : String} :
    key ∈ r.available ↔ (r.dialect? key).isSome = true := by
  rw [available, sortedTexts, List.mem_mergeSort, dialect?]
  induction r.entries with
  | nil => simp
  | cons e entries ih =>
      rw [List.map_cons, List.mem_cons, ih, List.lookup_cons]
      by_cases h : key = e.1
      · simp [h]
      · simp [h, beq_false_of_ne h]

/-- The keys after a registration are those from before and the lower-case forms of its names. -/
theorem mem_available_register (r : Registry) (c : Registration) (key : String) :
    key ∈ (r.register c.dialect c.aliases).available ↔
      key ∈ r.available ∨ ∃ own ∈ c.names, Text.lower own = key := by
  have hnames (names : List String) (r : Registry) :
      key ∈ (names.foldl (fun r own => r.insert (registrationKey own) c.dialect) r).available ↔
        key ∈ r.available ∨ ∃ own ∈ names, Text.lower own = key := by
    induction names generalizing r with
    | nil => simp
    | cons own names ih =>
        have hinsert : key ∈ (r.insert (registrationKey own) c.dialect).available ↔
            Text.lower own = key ∨ key ∈ r.available := by
          rw [mem_available_iff, mem_available_iff, dialect?_insert, registrationKey]
          by_cases h : key = Text.lower own
          · simp [h]
          · simp [h, Ne.symm h]
        rw [List.foldl_cons, ih, hinsert, List.exists_mem_cons_iff,
          or_comm (b := key ∈ r.available), or_assoc]
  exact hnames c.names r

theorem mem_available_registerAll (r : Registry) (calls : List Registration) (key : String) :
    key ∈ (r.registerAll calls).available ↔
      key ∈ r.available ∨ ∃ c ∈ calls, ∃ own ∈ c.names, Text.lower own = key := by
  induction calls generalizing r with
  | nil => simp [registerAll]
  | cons c calls ih =>
      show key ∈ ((r.register c.dialect c.aliases).registerAll calls).available ↔ _
      rw [ih, mem_available_register, List.exists_mem_cons_iff, or_assoc]

/-- The built-in dialects are registered like any others. -/
theorem builtin_eq_registerAll :
    builtin = empty.registerAll
      [⟨.generic, []⟩, ⟨.sqlite, ["sqlite3"]⟩, ⟨.postgresql, ["postgres", "psql"]⟩,
        ⟨.mysql, ["mariadb"]⟩] :=
  rfl

/-- Dialects are listed in lower case. -/
theorem lower_of_mem_available {calls : List Registration} {key : String}
    (h : key ∈ (builtin.registerAll calls).available) : Text.lower key = key := by
  rw [mem_available_registerAll, builtin_eq_registerAll, mem_available_registerAll] at h
  have hnone : key ∉ empty.available := by
    rw [mem_available_iff]
    exact Bool.false_ne_true
  rcases h with (hempty | ⟨c, -, own, -, rfl⟩) | ⟨c, -, own, -, rfl⟩
  · exact absurd hempty hnone
  · exact Text.lower_lower own
  · exact Text.lower_lower own

/-! ## Names -/

theorem shortName_of_not_mem {name : String} (h : '+' ∉ name.toList) : shortName name = name := by
  have hcut := Text.cut_append_of_not_mem h []
  rw [List.append_nil, Text.cut, List.append_nil] at hcut
  rw [shortName, hcut, String.ofList_toList]

/-- A name is looked up in lower case and without a driver. -/
theorem lookupKey_eq (name : String) : lookupKey name = Text.lower (shortName name) := by
  have hbreak : Text.isBreak '+' = true := by decide +kernel
  have hkept {cs : List Char} (h : '+' ∉ cs) :
      (Text.lower (String.ofList cs)).toList.takeWhile (· ≠ '+') =
        (Text.lower (String.ofList cs)).toList := by
    have habsent : '+' ∉ (Text.lower (String.ofList cs)).toList := by
      rw [Text.mem_lower_iff (Text.isCaseless_of_isBreak hbreak), String.toList_ofList]
      exact h
    rw [List.takeWhile_eq_self_iff]
    intro c hc
    exact decide_eq_true fun heq => habsent (heq ▸ hc)
  by_cases hplus : '+' ∈ name.toList
  · obtain ⟨front, rest, hname, hfirst⟩ := List.eq_append_cons_of_mem hplus
    obtain ⟨rest', hlower⟩ := Text.lower_append_break hbreak front rest
    rw [lookupKey, shortName, hname, Text.cut_append_mark hfirst,
      ← String.ofList_toList (s := name), hname, hlower, String.toList_ofList,
      List.takeWhile_append, hkept hfirst, if_pos rfl, List.takeWhile_cons_of_neg (by simp),
      List.append_nil, String.ofList_toList]
  · rw [shortName_of_not_mem hplus, lookupKey]
    have hname := hkept hplus
    rw [String.ofList_toList] at hname
    rw [hname, String.ofList_toList]

theorem get_eq_ok_iff {r : Registry} {name : String} {d : Dialect} :
    r.get name = .ok d ↔ r.dialect? (Text.lower (shortName name)) = some d := by
  rw [get, lookupKey_eq, ← dialect?]
  cases r.dialect? (Text.lower (shortName name)) <;> simp

/-- There is nothing under a name whose key is not listed. -/
theorem get_of_not_mem {r : Registry} {name : String}
    (h : Text.lower (shortName name) ∉ r.available) :
    r.get name = .error (.unknownDialect name r.available) := by
  rw [mem_available_iff, Bool.not_eq_true, Option.isSome_eq_false_iff, Option.isNone_iff_eq_none]
    at h
  rw [get, lookupKey_eq, ← dialect?, h]

theorem exists_get_iff {r : Registry} {name : String} :
    (∃ d, r.get name = .ok d) ↔ Text.lower (shortName name) ∈ r.available := by
  rw [mem_available_iff, Option.isSome_iff_exists]
  exact exists_congr fun d => get_eq_ok_iff

/-- A listed dialect is looked up under what stands before the first plus sign. -/
theorem lower_shortName {calls : List Registration} {key : String}
    (h : key ∈ (builtin.registerAll calls).available) :
    Text.lower (shortName key) = shortName key := by
  rw [← lookupKey_eq, lookupKey, lower_of_mem_available h, shortName, Text.cut_fst]

/-- **Registered dialects are found.** After any registrations, the last one under a name counts, in
whatever letter case the name is given, provided that the name has no plus sign or that what is
looked up instead, the part before the sign, leads to the same dialect. What is listed are the
built-in names and all others in lower case; of these the ones are found whose part before the first
plus sign is listed too. The built-in dialects are found as before under names that no registration
has taken, and nothing is found under a name whose part before the first plus sign is not listed. -/
theorem get_registered (calls : List Registration) :
    let r := builtin.registerAll calls
    (∀ before c after name, calls = before ++ c :: after → c.Covers name →
      (∀ c' ∈ after, ¬ c'.Covers name) →
        (r.get name = .ok c.dialect ↔
          '+' ∉ name.toList ∨ r.get (shortName name) = .ok c.dialect)) ∧
      (∀ key, key ∈ r.available ↔
        key ∈ builtin.available ∨ ∃ c ∈ calls, ∃ own ∈ c.names, Text.lower own = key) ∧
      (∀ key ∈ r.available, (∃ d, r.get key = .ok d) ↔ shortName key ∈ r.available) ∧
      (∀ name d, builtin.get name = .ok d → (∀ c ∈ calls, ¬ c.Covers (shortName name)) →
        r.get name = .ok d) ∧
      ∀ name, Text.lower (shortName name) ∉ r.available →
        r.get name = .error (.unknownDialect name r.available) := by
  intro r
  refine ⟨?_, mem_available_registerAll builtin calls, ?_, ?_, fun name => get_of_not_mem⟩
  · rintro before c after name rfl hcovers hafter
    by_cases hplus : '+' ∈ name.toList
    · -- the part before the sign has none, so it is looked up as it is
      have hshort : shortName (shortName name) = shortName name := by
        refine shortName_of_not_mem fun hmem => ?_
        rw [shortName, String.toList_ofList, Text.cut_fst] at hmem
        exact absurd (List.mem_takeWhile_imp hmem) (by simp)
      rw [get_eq_ok_iff, get_eq_ok_iff, hshort]
      exact (or_iff_right (not_not_intro hplus)).symm
    · refine iff_of_true ?_ (.inl hplus)
      rw [get_eq_ok_iff, shortName_of_not_mem hplus]
      exact dialect?_registerAll_last hcovers hafter builtin
  · intro key hkey
    rw [exists_get_iff, lower_shortName hkey]
  · intro name d hfound hfree
    rw [get_eq_ok_iff] at hfound ⊢
    exact (dialect?_registerAll_of_not_covers hfree builtin).trans hfound

/-- A dialect with a plus sign in its name, and one that takes over the other name of it. -/
def plusCalls : List Registration :=
  [⟨{ Dialect.generic with name := "My+SQL" }, ["Crate"]⟩, ⟨.sqlite, ["CRATE"]⟩]

/-- The dialect with the plus sign is listed and not found. -/
theorem get_registered_plus :
    let r := builtin.registerAll plusCalls
    r.get "crate" = .ok .sqlite ∧ "my+sql" ∈ r.available ∧ (∀ d, r.get "my+sql" ≠ .ok d) ∧
      r.get "psql+asyncpg" = .ok .postgresql ∧
      r.get "oracle" = .error (.unknownDialect "oracle" r.available) := by
  obtain ⟨hlast, hlisted, hfound, hbuiltin, hmissing⟩ := get_registered plusCalls
  have hplus : "my+sql" ∈ (builtin.registerAll plusCalls).available :=
    (hlisted "my+sql").2 (.inr (by decide +kernel))
  have habsent (key : String) (hkey : (builtin.dialect? key).isSome = false)
      (hfree : ∀ c ∈ plusCalls, ∀ own ∈ c.names, Text.lower own ≠ key) :
      key ∉ (builtin.registerAll plusCalls).available := by
    rw [hlisted, mem_available_iff, hkey]
    rintro (hbuiltin | ⟨c, hc, own, hown, heq⟩)
    · exact Bool.false_ne_true hbuiltin
    · exact hfree c hc own hown heq
  refine ⟨?_, hplus, ?_, ?_, ?_⟩
  · exact (hlast [⟨{ Dialect.generic with name := "My+SQL" }, ["Crate"]⟩] ⟨.sqlite, ["CRATE"]⟩ []
      "crate" rfl (by decide +kernel) (by simp)).2 (.inl (by decide))
  · intro d hd
    exact habsent "my" rfl (by decide +kernel) ((hfound "my+sql" hplus).1 ⟨d, hd⟩)
  · exact hbuiltin "psql+asyncpg" .postgresql rfl (by decide +kernel)
  · exact hmissing "oracle" (habsent "oracle" rfl (by decide +kernel))

end Registry

end SqlRender
