import SqlRender.Proofs.Dialect.Worded
import SqlRender.Proofs.Expr.LimitedUnion
import SqlRender.Proofs.Text.Plain

/-!
# The place of a limit

A limit on the last member of a union is not the same as one on the union. Where members have
parentheses around them the text tells which it is. Where they have none, the limit of the last
member is written where that of the union would be, so the two queries are the same unless
something stands in between (`Database.outcome_limit_place`).

Besides, a dialect may have a limit that stands for none where there is an offset. If that very
limit moves between two offsets then nothing has moved in the text, in whatever dialect.
-/

namespace SqlRender

namespace Text

/-- If two texts can change places then neither has characters that the other one lacks. -/
theorem not_mem_of_append_comm {c : Char} {xs ys : List Char} (hne : xs ≠ []) (hc : c ∉ xs)
    (h : xs ++ ys = ys ++ xs) : c ∉ ys := by
  induction hlength : ys.length using Nat.strongRecOn generalizing ys with
  | _ n ih =>
      rcases List.append_eq_append_iff.1 h with ⟨more, hys, hmore⟩ | ⟨more, hxs, -⟩
      · -- the first text begins the second, and can change places with the rest of it
        have hshorter : more.length < n := by
          have hpos : 0 < xs.length := List.length_pos_of_ne_nil hne
          rw [← hlength, hys, List.length_append]
          omega
        have hrest := ih more.length hshorter (hys.symm.trans hmore) rfl
        rw [hys, List.mem_append]
        exact fun hmem => hmem.elim hc hrest
      · intro hmem
        apply hc
        rw [hxs]
        exact List.mem_append_left _ hmem

/-- The last word is told from what is before it. -/
theorem last_word_inj {xs ys w v : List Char} (hw : ' ' ∉ w) (hv : ' ' ∉ v)
    (h : xs ++ ' ' :: w = ys ++ ' ' :: v) : xs = ys ∧ w = v := by
  have shorter {w v more : List Char} (hw : ' ' ∉ w) (h : ' ' :: w = more ++ ' ' :: v) :
      more = [] := by
    cases more with
    | nil => rfl
    | cons c more =>
        rw [(List.cons.inj h).2] at hw
        exact absurd (List.mem_append_right _ (List.mem_cons_self ..)) hw
  rcases List.append_eq_append_iff.1 h with ⟨more, hys, hmore⟩ | ⟨more, hxs, hmore⟩
  · rw [shorter hw hmore, List.append_nil] at hys
    rw [shorter hw hmore] at hmore
    exact ⟨hys.symm, (List.cons.inj hmore).2⟩
  · rw [shorter hv hmore, List.append_nil] at hxs
    rw [shorter hv hmore] at hmore
    exact ⟨hxs, (List.cons.inj hmore).2.symm⟩

end Text

/-- The built-in dialects have a number in place of no limit. -/
theorem Dialect.IsBuiltin.standIn {d : Dialect} (h : d.IsBuiltin) {n : String}
    (hn : d.offsetWithoutLimit = some n) : n ≠ "" ∧ ' ' ∉ n.toList := by
  obtain ⟨base, hbase, style, hstyle⟩ := h
  rw [(withParamStyle_eq hstyle).1] at hn
  simp only [builtin, List.mem_cons, List.not_mem_nil, or_false] at hbase
  rcases hbase with rfl | rfl | rfl | rfl
  · cases hn
  · cases hn
    decide
  · cases hn
  · cases hn
    decide

namespace LimitedUnion

variable {d : Dialect} (u : LimitedUnion)

/-! ## What is written -/

/-- How many values are written before the place on the member. -/
def bound (g : Grammar) : Nat :=
  (Segment.values (u.front g)).length

/-- The text of the limit that an offset gets if it has none. -/
def standIn (g : Grammar) : Option Int → String
  | none => ""
  | some _ => g.offsetWithoutLimit.elim "" fun n => " LIMIT " ++ n

theorem values_limitWords {n : String} (h : n ≠ "") :
    Segment.values (Draft.spaced (limitWords n)) = [] := by
  rw [spaced_limitWords h]
  rfl

theorem write_limitWords {n : String} (h : n ≠ "") (k : Nat) :
    Segment.write d.placeholder k (Draft.spaced (limitWords n)) = " LIMIT " ++ n := by
  rw [spaced_limitWords h]
  simp only [Segment.write, String.append_empty, ← String.append_assoc]
  rfl

theorem values_standInWords (visible : ∀ n, d.offsetWithoutLimit = some n → n ≠ "")
    (offset : Option Int) :
    Segment.values (Draft.spaced (standInWords d.toGrammar offset)) = [] := by
  cases offset with
  | none => rfl
  | some m =>
      unfold standInWords
      cases h : d.offsetWithoutLimit with
      | none => rfl
      | some n => exact values_limitWords (visible n h)

theorem write_standInWords (visible : ∀ n, d.offsetWithoutLimit = some n → n ≠ "")
    (offset : Option Int) (k : Nat) :
    Segment.write d.placeholder k (Draft.spaced (standInWords d.toGrammar offset)) =
      standIn d.toGrammar offset := by
  cases offset with
  | none => rfl
  | some m =>
      unfold standInWords standIn
      cases h : d.offsetWithoutLimit with
      | none => rfl
      | some n => exact write_limitWords (visible n h) k

/-- The texts of both unions are the same if what moves and what stands in between can change
places, but for the limits that offsets get. -/
theorem write_onMember_iff (visible : ∀ n, d.offsetWithoutLimit = some n → n ≠ "") :
    Segment.write d.placeholder 0 (u.onMember.segments d.toGrammar) =
        Segment.write d.placeholder 0 (u.onUnion.segments d.toGrammar) ↔
      Segment.write d.placeholder (u.bound d.toGrammar)
          (u.moved d.toGrammar ++ u.between d.toGrammar) ++
          standIn d.toGrammar u.offset.outer =
        standIn d.toGrammar u.offset.inner ++
          Segment.write d.placeholder (u.bound d.toGrammar)
            (u.between d.toGrammar ++ u.moved d.toGrammar) := by
  -- as many values stand before the offset of the union in both
  have hvalues :
      (Segment.values (u.moved d.toGrammar ++ u.between d.toGrammar ++
        Draft.spaced (standInWords d.toGrammar u.offset.outer))).length =
      (Segment.values (Draft.spaced (standInWords d.toGrammar u.offset.inner) ++
        u.between d.toGrammar ++ u.moved d.toGrammar)).length := by
    simp only [Segment.values_append, values_standInWords visible, List.append_nil, List.nil_append,
      List.length_append]
    omega
  rw [segments_onMember, segments_onUnion, Segment.write_append, Segment.write_append 0,
    String.append_right_inj, Nat.zero_add, ← bound,
    Segment.write_append _ _ (Draft.spaced (offsetWords _)),
    Segment.write_append _ _ (Draft.spaced (offsetWords _)), hvalues, String.append_left_inj,
    Segment.write_append _ _ (Draft.spaced (standInWords _ _)), write_standInWords visible,
    List.append_assoc, Segment.write_append _ (Draft.spaced (standInWords _ _)),
    write_standInWords visible, values_standInWords visible, List.length_nil, Nat.add_zero]

/-! ## What cannot change places -/

section Places

variable {g : Grammar} {p : Int → String} (k : Nat)

/-- After so many values, what moves and what stands in between read the same in either order. -/
def Swaps (g : Grammar) (p : Int → String) (k : Nat) (u : LimitedUnion) : Prop :=
  Segment.write p k (u.moved g ++ u.between g) = Segment.write p k (u.between g ++ u.moved g)

/-- What moves ends with a number. -/
theorem exists_moved : ∃ (before : List Segment) (n : Int),
    u.moved g = before ++ [.text (toString n)] := by
  have hlimit := spaced_limitWords (Text.intToString_ne u.limit)
  unfold moved
  rw [Draft.spaced_append, Draft.spaced_append]
  cases u.offset.moving with
  | none =>
      refine ⟨Draft.spaced (orderClause g u.ordering.moving) ++
        [.text " ", .text "LIMIT", .text " "], u.limit, ?_⟩
      rw [hlimit, show Draft.spaced (offsetWords none) = [] from rfl]
      simp
  | some m =>
      refine ⟨Draft.spaced (orderClause g u.ordering.moving) ++
        Draft.spaced (limitWords (toString u.limit)) ++
          [.text " ", .text "OFFSET", .text " "], m, ?_⟩
      rw [spaced_offsetWords]
      simp

/-- What moves does not begin like an offset. -/
theorem take_moved (rest : List Segment) :
    (Segment.write p k (u.moved g ++ rest)).toList.take 3 ≠ " OF".toList := by
  unfold moved
  rw [Draft.spaced_append, Draft.spaced_append]
  rcases spaced_orderClause g u.ordering.moving with ⟨-, hnone⟩ | ⟨-, more, hsome⟩
  · rw [hnone, spaced_limitWords (Text.intToString_ne u.limit)]
    simp [Segment.write]
  · rw [hsome]
    simp [Segment.write]

/-- If no ordering moves then what moves is a text without parentheses. -/
theorem write_moved {inner outer : List Expr} (kept : u.ordering = .kept inner outer) :
    Segment.values (u.moved g) = [] ∧
      ∃ text : String, text ≠ "" ∧ ')' ∉ text.toList ∧
        ∀ k, Segment.write p k (u.moved g) = text := by
  have hnumber (n : Int) : ')' ∉ n.repr.toList := Text.not_mem_intToString (by decide) (by decide) n
  have horder : Draft.spaced (orderClause g u.ordering.moving) = [] := by
    rw [kept]
    rfl
  unfold moved
  rw [Draft.spaced_append, Draft.spaced_append, horder,
    spaced_limitWords (Text.intToString_ne u.limit)]
  cases u.offset.moving with
  | none =>
      refine ⟨rfl, " " ++ ("LIMIT" ++ (" " ++ toString u.limit)), by simp, ?_, fun k => ?_⟩
      · simp [hnumber]
      · simp [Segment.write, offsetWords]
  | some m =>
      rw [spaced_offsetWords]
      refine ⟨rfl, " " ++ ("LIMIT" ++ (" " ++ (toString u.limit ++ (" " ++ ("OFFSET" ++
        (" " ++ toString m)))))), by simp, ?_, fun k => ?_⟩
      · simp [hnumber]
      · simp [Segment.write]

theorem getLast?_write (before : List Segment) {s : String} (h : s ≠ "") :
    (Segment.write p k (before ++ [.text s])).toList.getLast? = s.toList.getLast? := by
  have hne : s.toList ≠ [] := fun hnil => h (String.toList_eq_nil_iff.1 hnil)
  rw [Segment.write_append, String.toList_append, Segment.write, Segment.write,
    String.append_empty, List.getLast?_append_of_ne_nil _ hne]

/-- A parenthesis in between does not let anything change places. -/
theorem not_swaps_of_parenthesized (h : g.unionFeatures.has .parenthesizedMembers = true) :
    ¬ u.Swaps g p k := by
  intro hsame
  have hclosing : closing g = [.text ")"] := if_pos h
  cases hordering : u.ordering with
  | moved ordering =>
      -- the one text ends with the parenthesis and the other one with a number
      have hbetween : u.between g =
          Draft.spaced (offsetWords u.offset.inner ++ u.lock g) ++ [.text ")"] := by
        unfold between
        rw [hclosing, hordering]
        exact List.append_nil _
      obtain ⟨before, n, hmoved⟩ := u.exists_moved (g := g)
      have hlast : (Segment.write p k (u.moved g ++ u.between g)).toList.getLast? =
          (Segment.write p k (u.between g ++ u.moved g)).toList.getLast? := by
        rw [hsame]
      rw [hbetween, ← List.append_assoc, getLast?_write k _ (by decide), hmoved,
        ← List.append_assoc _ before, getLast?_write k _ (Text.intToString_ne n)] at hlast
      have hmem : ')' ∈ (toString n).toList := List.mem_of_getLast? hlast.symm
      exact Text.not_mem_intToString (by decide) (by decide) n hmem
  | kept inner outer =>
      -- the one text has no parenthesis, and the other one has
      obtain ⟨hvalues, text, hne, hapart, hmoved⟩ := u.write_moved (g := g) (p := p) hordering
      rw [Swaps, Segment.write_append, Segment.write_append, hmoved, hmoved, hvalues,
        List.length_nil, Nat.add_zero] at hsame
      have hcommute := congrArg String.toList hsame
      rw [String.toList_append, String.toList_append] at hcommute
      have hnil : text.toList ≠ [] := fun hnil => hne (String.toList_eq_nil_iff.1 hnil)
      apply Text.not_mem_of_append_comm hnil hapart hcommute
      unfold between
      rw [hclosing, Segment.write_append, Segment.write_append]
      simp [Segment.write]

/-- Neither does an offset. -/
theorem not_swaps_of_offset {m : Int} (h : u.offset.inner = some m) : ¬ u.Swaps g p k := by
  intro hsame
  apply u.take_moved (g := g) (p := p) k (u.between g)
  rw [hsame]
  unfold between
  rw [Draft.spaced_append, h, spaced_offsetWords]
  simp [Segment.write]

end Places

/-! ## The condition -/

/-- The text does not tell on which of the two places the limit is. -/
inductive IsHidden (d : Dialect) (u : LimitedUnion) : Prop where
  /-- Nothing in between tells the places apart: no parenthesis, no offset, and nothing that is
  written in another way when it changes places with what moves. -/
  | adjoining : d.unionFeatures.has .parenthesizedMembers = false → u.offset.inner = none →
    (u.offset.outer = none ∨ d.offsetWithoutLimit = none) →
    u.Swaps d.toGrammar d.placeholder (u.bound d.toGrammar) → IsHidden d u
  /-- Both places have an offset, and the limit that moves alone is the one that an offset gets if
  it has none. -/
  | standIn (n m : Int) : u.offset.inner = some n → u.offset.outer = some m →
    d.offsetWithoutLimit = some (toString u.limit) →
    (∀ e ∈ u.ordering.moving, (e.draft d.toGrammar).isBlank = true) → IsHidden d u

theorem standIn_eq_empty {offset : Option Int}
    (h : offset = none ∨ d.offsetWithoutLimit = none) : standIn d.toGrammar offset = "" := by
  rcases h with rfl | h
  · rfl
  · cases offset with
    | none => rfl
    | some n => rw [standIn, h, Option.elim]

/-- Where the offset does not move, what moves is the ordering and the limit. -/
theorem moved_of_inner {g : Grammar} {n : Int} (h : u.offset.inner = some n) :
    u.moved g = Draft.spaced (orderClause g u.ordering.moving) ++
      Draft.spaced (limitWords (toString u.limit)) := by
  unfold moved
  cases hoffset : u.offset with
  | moved part =>
      rw [hoffset] at h
      cases h
  | kept inner outer =>
      rw [Draft.spaced_append, Draft.spaced_append]
      exact List.append_nil _

/-- Between two offsets the text tells where the limit is, unless it is the one that stands for
none and moves alone. -/
theorem between_offsets {K : String} (hne : K ≠ "") (hword : ' ' ∉ K.toList) {n : Int}
    (hinner : u.offset.inner = some n) (k : Nat) :
    Segment.write d.placeholder k (u.moved d.toGrammar ++ u.between d.toGrammar) ++
          (" LIMIT " ++ K) =
        " LIMIT " ++ K ++
          Segment.write d.placeholder k (u.between d.toGrammar ++ u.moved d.toGrammar) ↔
      K = toString u.limit ∧
        ∀ e ∈ u.ordering.moving, (e.draft d.toGrammar).isBlank = true := by
  have hlimit := Text.intToString_ne u.limit
  have hafter : Segment.write d.placeholder k (u.between d.toGrammar ++ u.moved d.toGrammar) =
      Segment.write d.placeholder k (u.between d.toGrammar ++
        Draft.spaced (orderClause d.toGrammar u.ordering.moving)) ++
          (" LIMIT " ++ toString u.limit) := by
    rw [u.moved_of_inner hinner, ← List.append_assoc, Segment.write_append, write_limitWords hlimit]
  constructor
  · intro h
    rw [hafter] at h
    have hchars :
        ((Segment.write d.placeholder k (u.moved d.toGrammar ++ u.between d.toGrammar)).toList ++
          " LIMIT".toList) ++ ' ' :: K.toList =
        ((" LIMIT " ++ K).toList ++ (Segment.write d.placeholder k (u.between d.toGrammar ++
          Draft.spaced (orderClause d.toGrammar u.ordering.moving))).toList ++ " LIMIT".toList) ++
          ' ' :: (toString u.limit).toList := by
      have hlist := congrArg String.toList h
      simpa using hlist
    obtain ⟨hbefore, hK⟩ := Text.last_word_inj hword
      (Text.not_mem_intToString (by decide) (by decide) u.limit) hchars
    refine ⟨String.toList_inj.1 hK, ?_⟩
    rcases spaced_orderClause d.toGrammar u.ordering.moving with ⟨hblank, -⟩ | ⟨-, rest, hsome⟩
    · exact hblank
    · -- an ordering would have to begin like a limit
      have hbegins := List.append_cancel_right hbefore
      rw [u.moved_of_inner hinner, hsome] at hbegins
      simp [Segment.write] at hbegins
  · rintro ⟨rfl, hblank⟩
    have hnone : Draft.spaced (orderClause d.toGrammar u.ordering.moving) = [] := by
      rcases spaced_orderClause d.toGrammar u.ordering.moving with ⟨-, hnone⟩ | ⟨hfull, -⟩
      · exact hnone
      · exact absurd hblank hfull
    rw [hafter, u.moved_of_inner hinner, hnone, List.nil_append, List.append_nil,
      Segment.write_append, write_limitWords hlimit, values_limitWords hlimit, String.append_assoc]
    rfl

/-- The texts of both unions are the same exactly if the limit is hidden. -/
theorem write_eq_iff_isHidden (builtin : d.IsBuiltin) :
    Segment.write d.placeholder 0 (u.onMember.segments d.toGrammar) =
        Segment.write d.placeholder 0 (u.onUnion.segments d.toGrammar) ↔
      u.IsHidden d := by
  rw [u.write_onMember_iff fun n hn => (builtin.standIn hn).1]
  have hlength : (Segment.write d.placeholder (u.bound d.toGrammar)
        (u.moved d.toGrammar ++ u.between d.toGrammar)).length =
      (Segment.write d.placeholder (u.bound d.toGrammar)
        (u.between d.toGrammar ++ u.moved d.toGrammar)).length :=
    Segment.length_write_comm _ _ _
  constructor
  · intro h
    have adjoining (houter : u.offset.outer = none ∨ d.offsetWithoutLimit = none)
        (hsame : u.Swaps d.toGrammar d.placeholder (u.bound d.toGrammar)) : u.IsHidden d := by
      refine .adjoining ?_ ?_ houter hsame
      · exact eq_false_of_ne_true fun hparens => u.not_swaps_of_parenthesized _ hparens hsame
      · exact Option.eq_none_iff_forall_ne_some.2 fun n hinner =>
          u.not_swaps_of_offset _ hinner hsame
    cases hD : d.offsetWithoutLimit with
    | none =>
        rw [standIn_eq_empty (.inr hD), standIn_eq_empty (.inr hD)] at h
        exact adjoining (.inr hD) (by simpa [Swaps] using h)
    | some K =>
        obtain ⟨hK, hword⟩ := builtin.standIn hD
        have given (n : Int) : standIn d.toGrammar (some n) = " LIMIT " ++ K := by
          rw [standIn, hD, Option.elim]
        cases hinner : u.offset.inner with
        | none =>
            cases houter : u.offset.outer with
            | none =>
                rw [hinner, houter] at h
                exact adjoining (.inl houter) (by simpa [standIn, Swaps] using h)
            | some m =>
                -- only one of the offsets gets a limit, so one text is longer
                rw [hinner, houter, given] at h
                have hlonger := congrArg String.length h
                simp [standIn, hlength] at hlonger
        | some n =>
            cases houter : u.offset.outer with
            | none =>
                rw [hinner, houter, given] at h
                have hlonger := congrArg String.length h
                simp [standIn, hlength] at hlonger
            | some m =>
                rw [hinner, houter, given, given] at h
                obtain ⟨rfl, hblank⟩ := (u.between_offsets hK hword hinner _).1 h
                exact .standIn n m hinner houter hD hblank
  · intro h
    cases h with
    | adjoining hparens hinner houter hsame =>
        rw [Swaps] at hsame
        rw [standIn_eq_empty houter, hinner, standIn_eq_empty (.inl rfl), hsame]
        simp
    | standIn n m hinner houter hD hblank =>
        obtain ⟨hK, hword⟩ := builtin.standIn hD
        have given (n : Int) : standIn d.toGrammar (some n) = " LIMIT " ++ toString u.limit := by
          rw [standIn, hD, Option.elim]
        rw [hinner, houter, given, given]
        exact (u.between_offsets hK hword hinner _).2 ⟨rfl, hblank⟩

/-- Nothing is written between the two places, and no offset after them gets a limit. -/
structure IsOpen (g : Grammar) (u : LimitedUnion) : Prop where
  bare : g.unionFeatures.has .parenthesizedMembers = false
  inner : u.offset.inner = none
  lock : (u.lock g).all Draft.isBlank = true
  ordering : ∀ e ∈ u.ordering.outer, (e.draft g).isBlank = true
  outer : u.offset.outer = none ∨ g.offsetWithoutLimit = none

/-- If nothing is written in between then both unions are written alike. -/
theorem IsOpen.segments_eq {g : Grammar} (h : u.IsOpen g) :
    u.onMember.segments g = u.onUnion.segments g := by
  have hstandIn : Draft.spaced (standInWords g u.offset.outer) = [] := by
    rcases h.outer with houter | hnone
    · rw [houter]
      rfl
    · cases u.offset.outer with
      | none => rfl
      | some n =>
          rw [standInWords, hnone]
          rfl
  have hordering : Draft.spaced (orderClause g u.ordering.outer) = [] := by
    rcases spaced_orderClause g u.ordering.outer with ⟨-, hnone⟩ | ⟨hfull, -⟩
    · exact hnone
    · exact absurd h.ordering hfull
  have hbetween : u.between g = [] := by
    unfold between closing
    rw [h.inner, hordering, h.bare, offsetWords, List.nil_append, Draft.spaced_eq_nil h.lock]
    rfl
  rw [segments_onMember, segments_onUnion, hstandIn, hbetween, h.inner, standInWords]
  simp

end LimitedUnion

/-! ## Queries -/

namespace Database

/-- **Where a limit is.** Two unions that are the same but for a limit, which the one has on its
last member and the other one on itself, are both rendered or both not, and both with warnings or
both without. They have the same text exactly if the limit is hidden. Where nothing is written
between the two places they are the same query. -/
theorem outcome_limit_place (db : Database) (builtin : db.dialect.IsBuiltin)
    (elapsed elapsed' : Float) (u : LimitedUnion) :
    ((∃ q, (db.render elapsed u.onMember).outcome = .ok q) ↔
        ∃ q, (db.render elapsed' u.onUnion).outcome = .ok q) ∧
      ∀ q q', (db.render elapsed u.onMember).outcome = .ok q →
        (db.render elapsed' u.onUnion).outcome = .ok q' →
          (q.sql = q'.sql ↔ u.IsHidden db.dialect) ∧
          ((db.render elapsed u.onMember).warnings = [] ↔
            (db.render elapsed' u.onUnion).warnings = []) ∧
          (u.IsOpen db.dialect.toGrammar → q = q') := by
  have visible (n : Nat) : db.dialect.placeholder (n + 1) ≠ "" := builtin.placeholder_ne _
  have hsound : (u.onMember.draft db.dialect.toGrammar).isSound =
      (u.onUnion.draft db.dialect.toGrammar).isSound := by
    refine u.test_onMember _ Draft.isSound (fun s => rfl) Draft.isSound_phrase fun d => ?_
    simp [Draft.group, Draft.isSound, Draft.allSound, Separator.isText]
  have hwarnings : (u.onMember.draft db.dialect.toGrammar).warnings.isEmpty =
      (u.onUnion.draft db.dialect.toGrammar).warnings.isEmpty := by
    refine u.test_onMember _ (fun d => d.warnings.isEmpty) (fun s => rfl) (fun ds => ?_)
      fun d => ?_
    · rw [Draft.warnings_phrase, Bool.eq_iff_iff, List.isEmpty_iff, List.flatMap_eq_nil_iff,
        List.all_eq_true]
      simp
    · simp [Draft.group, Draft.warnings, Draft.allWarnings]
  refine ⟨by rw [exists_outcome_iff visible, exists_outcome_iff visible, hsound], ?_⟩
  intro q q' hq hq'
  obtain ⟨sound, hsql, hbinds⟩ := (outcome_eq_ok_iff visible).1 hq
  obtain ⟨sound', hsql', hbinds'⟩ := (outcome_eq_ok_iff visible).1 hq'
  refine ⟨?_, ?_, ?_⟩
  · rw [hsql, hsql']
    exact u.write_eq_iff_isHidden builtin
  · rw [warnings_eq visible sound, warnings_eq visible sound', ← List.isEmpty_iff, hwarnings,
      List.isEmpty_iff]
  · intro hopen
    have hsame := hopen.segments_eq
    cases q
    cases q'
    simp only at hsql hbinds hsql' hbinds'
    rw [hsql, hsql', hbinds, hbinds', hsame]

end Database

/-- A query for all ids in a table. -/
def Select.ids (table : String) : Select Expr where
  columns := [.node (.identifier "id")]
  tables := [.node (.identifier table)]
  predicate := .absent
  having := .absent
  locking := .absent

namespace LimitedUnion

/-- All ids in two tables, with a limit on the second or on the union. -/
def ids : LimitedUnion where
  initial := .node (.select (.ids "a"))
  operation := .node (.unionJoiner (.node (.keyword (.setOperation .union))))
  last := .ids "b"
  limit := 5

/-- What SQLite gets for either. -/
def idsQuery : RenderedQuery :=
  ⟨"SELECT \"id\" FROM \"a\" UNION SELECT \"id\" FROM \"b\" LIMIT 5", []⟩

/-- Both are rendered to this without a warning. -/
theorem render_ids {e : Expr} (h : e = ids.onMember ∨ e = ids.onUnion) :
    (Database.render { dialect := .sqlite } 0 e).outcome = .ok idsQuery ∧
      (Database.render { dialect := .sqlite } 0 e).warnings = [] := by
  have visible (n : Nat) := Dialect.isBuiltin_sqlite.placeholder_ne (n + 1)
  have sound : (e.draft Dialect.sqlite.toGrammar).isSound = true := by
    rcases h with rfl | rfl <;> cbv
  rw [@Database.warnings_eq { dialect := .sqlite } 0 e visible sound,
    @Database.outcome_eq_ok_iff { dialect := .sqlite } 0 e idsQuery visible]
  refine ⟨⟨sound, ?_, ?_⟩, ?_⟩
  · rcases h with rfl | rfl <;> cbv
  · rcases h with rfl | rfl <;> cbv
  · rcases h with rfl | rfl <;> cbv

end LimitedUnion

theorem Database.outcome_limit_place_sqlite :
    Dialect.sqlite.IsBuiltin ∧
      (Database.render { dialect := .sqlite } 0 LimitedUnion.ids.onMember).outcome =
        .ok LimitedUnion.idsQuery ∧
      (Database.render { dialect := .sqlite } 0 LimitedUnion.ids.onUnion).outcome =
        .ok LimitedUnion.idsQuery ∧
      (Database.render { dialect := .sqlite } 0 LimitedUnion.ids.onMember).warnings = [] ∧
      (Database.render { dialect := .sqlite } 0 LimitedUnion.ids.onUnion).warnings = [] ∧
      LimitedUnion.ids.IsHidden .sqlite := by
  obtain ⟨member, quietly⟩ := LimitedUnion.render_ids (.inl rfl)
  obtain ⟨union, silently⟩ := LimitedUnion.render_ids (.inr rfl)
  have place := (Database.outcome_limit_place { dialect := .sqlite } Dialect.isBuiltin_sqlite 0 0
    LimitedUnion.ids).2 _ _ member union
  exact ⟨Dialect.isBuiltin_sqlite, member, union, quietly, silently, place.1.1 rfl⟩

end SqlRender
