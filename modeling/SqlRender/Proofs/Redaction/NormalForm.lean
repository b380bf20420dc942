import Mathlib
import SqlRender.Proofs.Text.LowerCase
import SqlRender.Proofs.Text.Plain
import SqlRender.Redaction

/-!
# What redaction leaves

However deeply values are nested, nothing telling and nothing long is left in them by redaction, and
what it has left it leaves alone (`Redaction.redactBinds_settled`). The three texts that redaction
writes by itself have to be such that it leaves them alone too: the mask, the number of bytes, and a
text that was cut, which is longer than the texts that are not cut.

A cut makes no text telling. This is not for free, since the lower-case form of a beginning need not
be a beginning of the lower-case form: where a word is cut after a capital sigma, that sigma comes
to stand at the end of a word. No telling word has a sigma in it.
-/

namespace SqlRender

/-! ## Values and what is below them -/

namespace Value

/-- The values right below a value. The keys of a map are not among them. -/
def parts : Value → List Value
  | .list items => items
  | .tuple items => items
  | .map entries => entries.map (·.2)
  | _ => []

/-- A condition holds of a value and of everything below it. -/
inductive Everywhere (P : Value → Prop) : Value → Prop where
  | intro {v : Value} : P v → (∀ w ∈ v.parts, Everywhere P w) → Everywhere P v

theorem Everywhere.here {P : Value → Prop} {v : Value} (h : v.Everywhere P) : P v := by
  cases h with
  | intro here _ => exact here

theorem Everywhere.inside {P : Value → Prop} {v : Value} (h : v.Everywhere P) :
    ∀ w ∈ v.parts, w.Everywhere P := by
  cases h with
  | intro _ inside => exact inside

section Induction

set_option linter.unusedSectionVars false

variable {motive : Value → Prop} (step : ∀ v : Value, (∀ w ∈ v.parts, motive w) → motive v)

include step

mutual

/-- What holds of a value if it holds of its parts holds of all values. -/
theorem induction : (v : Value) → motive v
  | .null => step _ (List.forall_mem_nil _)
  | .bool _ => step _ (List.forall_mem_nil _)
  | .int _ => step _ (List.forall_mem_nil _)
  | .float _ => step _ (List.forall_mem_nil _)
  | .text _ => step _ (List.forall_mem_nil _)
  | .bytes _ => step _ (List.forall_mem_nil _)
  | .buffer _ => step _ (List.forall_mem_nil _)
  | .list items => step _ (inductionItems items)
  | .tuple items => step _ (inductionItems items)
  | .map entries => step _ (inductionEntries entries)

theorem inductionItems : (vs : List Value) → ∀ v ∈ vs, motive v
  | [] => List.forall_mem_nil _
  | v :: vs => List.forall_mem_cons.2 ⟨induction v, inductionItems vs⟩

theorem inductionEntries : (es : List (Value × Value)) → ∀ v ∈ es.map (·.2), motive v
  | [] => List.forall_mem_nil _
  | (_, v) :: es => List.forall_mem_cons.2 ⟨induction v, inductionEntries es⟩

end

end Induction

/-- Bytes in a value can be counted in a machine word. -/
def IsAddressable : Value → Prop
  | .bytes data => data.length < Nat.pow 2 63
  | .buffer data => data.length < Nat.pow 2 63
  | _ => True

end Value

namespace Redaction

/-! ## Texts -/

/-- The telling words are words of plain letters: none has a point or a sigma, and each has one of
four letters. -/
theorem sensitiveMarkers_spec : ∀ marker ∈ sensitiveMarkers,
    ('σ' ∉ marker.toList ∧ 'ς' ∉ marker.toList ∧ '.' ∉ marker.toList) ∧
      ('p' ∈ marker.toList ∨ 'c' ∈ marker.toList ∨ 'k' ∈ marker.toList ∨
        'a' ∈ marker.toList) := by
  decide

/-- A text is telling if a telling word is in its characters taken one by one. -/
theorem isSensitiveText_iff {s : String} :
    isSensitiveText s = true ↔
      ∃ marker ∈ sensitiveMarkers, marker.toList <:+: s.toList.flatMap Text.lowerApart := by
  rw [isSensitiveText, List.any_eq_true]
  refine exists_congr fun marker => and_congr_right fun hmem => ?_
  obtain ⟨⟨inner, final, -⟩, -⟩ := sensitiveMarkers_spec marker hmem
  exact Text.contains_lower inner final

/-- A text that has none of the four letters is not telling. -/
theorem isSensitiveText_of_not_mem {s : String}
    (h : ∀ c ∈ ['p', 'c', 'k', 'a'], c ∉ s.toList.flatMap Text.lowerApart) :
    isSensitiveText s = false := by
  refine eq_false_of_ne_true fun hs => ?_
  obtain ⟨marker, hmem, hrun⟩ := isSensitiveText_iff.1 hs
  obtain ⟨-, hletter⟩ := sensitiveMarkers_spec marker hmem
  rcases hletter with hc | hc | hc | hc <;> exact h _ (by decide) (hrun.subset hc)

/-- A beginning of a text that is not telling is not telling, also with points after it. -/
theorem isSensitiveText_take {s : String} (hs : isSensitiveText s = false) (n : Nat) :
    isSensitiveText (String.ofList (s.toList.take n) ++ "...") = false := by
  refine eq_false_of_ne_true fun hcut => ne_true_of_eq_false hs ?_
  obtain ⟨marker, hmem, hrun⟩ := isSensitiveText_iff.1 hcut
  obtain ⟨⟨-, -, hpoint⟩, hletter⟩ := sensitiveMarkers_spec marker hmem
  refine isSensitiveText_iff.2 ⟨marker, hmem, ?_⟩
  rw [String.toList_append, String.toList_ofList, List.flatMap_append] at hrun
  have hne : marker.toList ≠ [] := by
    intro h
    rw [h] at hletter
    simp at hletter
  have apart : ∀ c ∈ "...".toList.flatMap Text.lowerApart, c ∉ marker.toList := by
    have hpoints : "...".toList.flatMap Text.lowerApart = ['.', '.', '.'] := by decide
    rw [hpoints]
    simp [hpoint]
  have hbegin := Text.infix_of_infix_append hne apart hrun
  -- what is found in a beginning is found in the whole
  rw [← List.take_append_drop n s.toList, List.flatMap_append]
  exact hbegin.trans (List.prefix_append _ _).isInfix

/-! ## What redaction leaves of a text and of bytes -/

/-- The text that stands for so many bytes. -/
def countText (n : Nat) : String :=
  "<" ++ toString n ++ " bytes>"

theorem isSensitiveText_countText (n : Nat) : isSensitiveText (countText n) = false := by
  refine isSensitiveText_of_not_mem fun c hc => ?_
  have hdigits : (toString n).toList.flatMap Text.lowerApart = (toString n).toList := by
    rw [List.flatMap_def, List.map_congr_left fun d hd =>
      Text.lowerApart_of_isDigit (Text.isDigit_of_mem_natToString hd)]
    exact List.flatMap_singleton' _
  have hcount : (countText n).toList.flatMap Text.lowerApart =
      '<' :: ((toString n).toList ++ [' ', 'b', 'y', 't', 'e', 's', '>']) := by
    rw [countText, String.toList_append, String.toList_append, List.flatMap_append,
      List.flatMap_append, hdigits, List.append_assoc]
    rfl
  have hnone : ∀ c ∈ ['p', 'c', 'k', 'a'],
      c.isDigit = false ∧ c ∉ ['<', ' ', 'b', 'y', 't', 'e', 's', '>'] := by
    simp [Char.isDigit]
  obtain ⟨hdigit, hwords⟩ := hnone c hc
  rw [hcount, List.mem_cons, List.mem_append]
  rintro (rfl | hmem | hmem)
  · exact hwords (List.mem_cons_self ..)
  · rw [Text.isDigit_of_mem_natToString hmem] at hdigit
    cases hdigit
  · exact hwords (List.mem_cons_of_mem _ hmem)

/-- The number of bytes that there can be is not too long to be shown. -/
theorem length_countText {n : Nat} (h : n < Nat.pow 2 63) : (countText n).length ≤ maxLength := by
  have hword : Nat.pow 2 63 < 10 ^ 20 := by
    rw [Nat.pow_eq]
    norm_num
  -- twenty digits at most, and eight characters around them
  have hdigits : (toString n).length ≤ 20 :=
    Nat.repr_length n 20 (by decide) (Nat.lt_trans h hword)
  have hfixed : "<".length = 1 ∧ " bytes>".length = 7 := by decide
  rw [countText, String.length_append, String.length_append, maxLength]
  omega

theorem isSensitiveText_mask : isSensitiveText mask = false := by
  decide +kernel

/-- A text that is neither telling nor long is shown as it is. -/
theorem redactText_of_short {s : String} (hs : isSensitiveText s = false)
    (hlength : s.length ≤ maxLength) : redactText s = s := by
  rw [redactText, hs, if_neg Bool.false_ne_true, if_neg (Nat.not_lt.2 hlength)]

/-- A long text of one letter that is in no telling word is cut. -/
theorem redactText_replicate {n : Nat} (h : maxLength < n) :
    redactText (String.ofList (List.replicate n 'x')) =
      String.ofList (List.replicate maxLength 'x') ++ "..." := by
  have plain : isSensitiveText (String.ofList (List.replicate n 'x')) = false := by
    refine isSensitiveText_of_not_mem fun c hc hmem => ?_
    rw [String.toList_ofList, List.mem_flatMap] at hmem
    obtain ⟨x, hx, hmem⟩ := hmem
    obtain rfl := List.eq_of_mem_replicate hx
    have hlower : Text.lowerApart 'x' = ['x'] := by decide
    rw [hlower, List.mem_singleton] at hmem
    subst hmem
    exact absurd hc (by decide)
  rw [redactText, plain, if_neg Bool.false_ne_true, if_pos, String.toList_ofList,
    List.take_replicate, Nat.min_eq_left (Nat.le_of_lt h)]
  rw [String.length_ofList, List.length_replicate]
  exact h

/-- What is shown of a text: the mask, a beginning of it or all of it. -/
theorem redactText_cases (s : String) :
    redactText s = mask ∨
      isSensitiveText s = false ∧ s.length > maxLength ∧
        redactText s = String.ofList (s.toList.take maxLength) ++ "..." ∨
      isSensitiveText s = false ∧ s.length ≤ maxLength ∧ redactText s = s := by
  rw [redactText]
  cases isSensitiveText s with
  | true => exact .inl rfl
  | false =>
      by_cases hlong : s.length > maxLength
      · exact .inr (.inl ⟨rfl, hlong, by rw [if_neg Bool.false_ne_true, if_pos hlong]⟩)
      · exact .inr (.inr ⟨rfl, Nat.le_of_not_lt hlong,
          by rw [if_neg Bool.false_ne_true, if_neg hlong]⟩)

/-- Redaction leaves alone what it shows of a text. -/
theorem redactText_redactText (s : String) : redactText (redactText s) = redactText s := by
  rcases redactText_cases s with h | ⟨hs, hlong, h⟩ | ⟨hs, hshort, h⟩
  · rw [h]
    exact redactText_of_short isSensitiveText_mask (by decide)
  · rw [h]
    have htake : ((String.ofList (s.toList.take maxLength) ++ "...").toList.take maxLength) =
        s.toList.take maxLength := by
      rw [String.toList_append, String.toList_ofList, List.take_append_of_le_length, List.take_take,
        Nat.min_self]
      rw [List.length_take, String.length_toList]
      omega
    have hcut : (String.ofList (s.toList.take maxLength) ++ "...").length > maxLength := by
      rw [String.length_append, String.length_ofList, List.length_take, String.length_toList]
      have hpoints : "...".length = 3 := by decide
      omega
    -- a text that was cut is cut once more, in the same place
    rw [redactText, isSensitiveText_take hs, if_neg Bool.false_ne_true, if_pos hcut, htake]
  · rw [h, h]

/-- What is shown of bytes: their number, the mask or all of them. -/
theorem redactBytes_cases (data : List UInt8) (shown : Value) :
    redactBytes data shown = .text (countText data.length) ∨
      redactBytes data shown = .text mask ∨
      data.length ≤ maxLength ∧ isSensitiveText (Text.Utf8.decodeSkipping data) = false ∧
        redactBytes data shown = shown := by
  rw [redactBytes]
  by_cases hlong : data.length > maxLength
  · exact .inl (if_pos hlong)
  · rw [if_neg hlong]
    cases hs : isSensitiveText (Text.Utf8.decodeSkipping data) with
    | true => exact .inr (.inl rfl)
    | false => exact .inr (.inr ⟨Nat.le_of_not_lt hlong, rfl, rfl⟩)

/-! ## Values -/

theorem redactItems_eq_map (vs : List Value) : redactItems vs = vs.map redact := by
  induction vs with
  | nil => rfl
  | cons v vs ih => rw [redactItems, ih, List.map_cons]

/-- What is shown of an entry. -/
def redactEntry (entry : Value × Value) : Value × Value :=
  (entry.1, if isSensitiveKey entry.1.display then .text mask else redact entry.2)

theorem redactEntries_eq_map (es : List (Value × Value)) :
    redactEntries es = es.map redactEntry := by
  induction es with
  | nil => rfl
  | cons e es ih => rw [redactEntries, ih, List.map_cons, redactEntry]

/-- Nothing telling and nothing long is left in a value, what is below it apart. -/
def IsSettled : Value → Prop
  | .text s => isSensitiveText s = false ∧ s.length ≤ 203
  | .bytes data =>
    data.length ≤ 200 ∧ isSensitiveText (Text.Utf8.decodeSkipping data) = false
  | .buffer data =>
    data.length ≤ 200 ∧ isSensitiveText (Text.Utf8.decodeSkipping data) = false
  | .map entries => ∀ e ∈ entries, isSensitiveKey e.1.display = true → e.2 = .text "***"
  | _ => True

mutual

/-- A value without its texts and bytes, and without what is under telling keys: the lists, tuples
and maps, their lengths, the keys, and the values that are neither text nor bytes. -/
def skeleton : Value → Value
  | .map entries => .map (skeletonEntries entries)
  | .tuple items => .tuple (skeletonItems items)
  | .list items => .list (skeletonItems items)
  | .text _ => .text ""
  | .bytes _ => .text ""
  | .buffer _ => .text ""
  | v => v

/-- Items without their texts and bytes. -/
def skeletonItems : List Value → List Value
  | [] => []
  | v :: vs => skeleton v :: skeletonItems vs

/-- Entries without the texts and bytes under their keys. -/
def skeletonEntries : List (Value × Value) → List (Value × Value)
  | [] => []
  | (k, v) :: es =>
    (k, if isSensitiveKey k.display then .null else skeleton v) :: skeletonEntries es

end

theorem skeletonItems_eq_map (vs : List Value) : skeletonItems vs = vs.map skeleton := by
  induction vs with
  | nil => rfl
  | cons v vs ih => rw [skeletonItems, ih, List.map_cons]

/-- What is left of an entry. -/
def skeletonEntry (entry : Value × Value) : Value × Value :=
  (entry.1, if isSensitiveKey entry.1.display then .null else skeleton entry.2)

theorem skeletonEntries_eq_map (es : List (Value × Value)) :
    skeletonEntries es = es.map skeletonEntry := by
  induction es with
  | nil => rfl
  | cons e es ih => rw [skeletonEntries, ih, List.map_cons, skeletonEntry]

/-- Redaction keeps all but texts and bytes, and what is under telling keys. -/
theorem skeleton_redact (v : Value) : skeleton (redact v) = skeleton v := by
  induction v using Value.induction with
  | step v ih =>
      have items (vs : List Value) (hvs : ∀ w ∈ vs, skeleton (redact w) = skeleton w) :
          skeletonItems (redactItems vs) = skeletonItems vs := by
        rw [skeletonItems_eq_map, skeletonItems_eq_map, redactItems_eq_map, List.map_map]
        exact List.map_congr_left hvs
      have holder (data : List UInt8) (shown : Value) (hshown : skeleton shown = .text "") :
          skeleton (redactBytes data shown) = .text "" := by
        rcases redactBytes_cases data shown with h | h | ⟨-, -, h⟩
        · rw [h, skeleton]
        · rw [h, skeleton]
        · rw [h, hshown]
      cases v with
      | map entries =>
          rw [redact, skeleton, skeleton, redactEntries_eq_map, skeletonEntries_eq_map,
            skeletonEntries_eq_map, List.map_map]
          refine congrArg Value.map (List.map_congr_left fun e he => ?_)
          show skeletonEntry (redactEntry e) = skeletonEntry e
          rw [skeletonEntry, skeletonEntry, redactEntry]
          dsimp only
          split
          · rfl
          · rw [ih e.2 (List.mem_map_of_mem he)]
      | list vs => rw [redact, skeleton, skeleton, items vs ih]
      | tuple vs => rw [redact, skeleton, skeleton, items vs ih]
      | text s => rw [redact, skeleton, skeleton]
      | bytes data => exact holder data _ rfl
      | buffer data => exact holder data _ rfl
      | _ => rfl

/-! ## Settled values -/

theorem isSettled_text (s : String) : IsSettled (.text (redactText s)) := by
  rcases redactText_cases s with h | ⟨hs, -, h⟩ | ⟨hs, hshort, h⟩
  · rw [h]
    exact ⟨isSensitiveText_mask, by decide⟩
  · rw [h]
    refine ⟨isSensitiveText_take hs _, ?_⟩
    rw [String.length_append, String.length_ofList, List.length_take]
    have hpoints : "...".length = 3 := by decide
    have hmax : maxLength = 200 := rfl
    omega
  · rw [h]
    exact ⟨hs, Nat.le_trans hshort (by decide)⟩

theorem isSettled_mask : IsSettled (.text mask) :=
  ⟨isSensitiveText_mask, by decide⟩

/-- What is shown of bytes is settled, and redaction leaves it alone. -/
theorem redactBytes_spec {data : List UInt8} (small : data.length < Nat.pow 2 63) {shown : Value}
    (holds : redact shown = redactBytes data shown)
    (settled : data.length ≤ 200 ∧ isSensitiveText (Text.Utf8.decodeSkipping data) = false →
      IsSettled shown) (leaf : shown.parts = []) :
    (redactBytes data shown).Everywhere IsSettled ∧
      redact (redactBytes data shown) = redactBytes data shown := by
  have text {s : String} (hs : IsSettled (.text s)) : (Value.text s).Everywhere IsSettled :=
    .intro hs (List.forall_mem_nil _)
  -- the two texts that stand for bytes are neither telling nor long, and so stay as they are
  rcases redactBytes_cases data shown with h | h | ⟨hshort, hs, h⟩
  · have hshort := length_countText small
    rw [h]
    refine ⟨text ⟨isSensitiveText_countText _, Nat.le_trans hshort (by decide)⟩, ?_⟩
    rw [redact, redactText_of_short (isSensitiveText_countText _) hshort]
  · rw [h]
    refine ⟨text isSettled_mask, ?_⟩
    rw [redact, redactText_of_short isSensitiveText_mask (by decide)]
  · rw [h]
    refine ⟨.intro (settled ⟨hshort, hs⟩) ?_, holds.trans h⟩
    rw [leaf]
    exact List.forall_mem_nil _

/-- Whatever redaction leaves of a value is settled, and it leaves that alone. -/
def Settles (v : Value) : Prop :=
  (redact v).Everywhere IsSettled ∧ redact (redact v) = redact v

theorem settles_items {vs : List Value} (h : ∀ v ∈ vs, Settles v) :
    (∀ w ∈ redactItems vs, w.Everywhere IsSettled) ∧
      redactItems (redactItems vs) = redactItems vs := by
  rw [redactItems_eq_map, redactItems_eq_map, List.map_map]
  constructor
  · intro w hw
    obtain ⟨v, hv, rfl⟩ := List.mem_map.1 hw
    exact (h v hv).1
  · exact List.map_congr_left fun v hv => (h v hv).2

theorem settles_entry {e : Value × Value} (h : Settles e.2) :
    (isSensitiveKey (redactEntry e).1.display = true → (redactEntry e).2 = .text mask) ∧
      (redactEntry e).2.Everywhere IsSettled ∧ redactEntry (redactEntry e) = redactEntry e := by
  obtain ⟨k, v⟩ := e
  -- the key is kept, so that it is as telling the second time as it was the first time
  cases hkey : isSensitiveKey k.display with
  | true =>
      have htelling (w : Value) : redactEntry (k, w) = (k, .text mask) := by
        rw [redactEntry, if_pos hkey]
      rw [htelling, htelling]
      exact ⟨fun _ => rfl, .intro isSettled_mask (List.forall_mem_nil _), rfl⟩
  | false =>
      have hshown (w : Value) : redactEntry (k, w) = (k, redact w) := by
        rw [redactEntry, if_neg (ne_true_of_eq_false hkey)]
      rw [hshown, hshown, h.2]
      exact ⟨fun htelling => absurd htelling (ne_true_of_eq_false hkey), h.1, rfl⟩

/-- Redaction settles all values. -/
theorem settles (v : Value) (small : v.Everywhere Value.IsAddressable) : Settles v := by
  induction v using Value.induction with
  | step v ih =>
      have parts : ∀ w ∈ v.parts, Settles w := fun w hw => ih w hw (small.inside w hw)
      cases v with
      | map entries =>
          -- no key is below the map, so the entries are settled by their values alone
          have each (e : Value × Value) (he : e ∈ entries) :=
            settles_entry (parts e.2 (List.mem_map_of_mem he))
          rw [Settles, redact, redactEntries_eq_map]
          refine ⟨.intro ?_ ?_, ?_⟩
          · intro e' he'
            obtain ⟨e, he, rfl⟩ := List.mem_map.1 he'
            exact (each e he).1
          · intro w hw
            obtain ⟨e', he', rfl⟩ := List.mem_map.1 hw
            obtain ⟨e, he, rfl⟩ := List.mem_map.1 he'
            exact (each e he).2.1
          · rw [redact, redactEntries_eq_map, List.map_map]
            exact congrArg Value.map (List.map_congr_left fun e he => (each e he).2.2)
      | list vs =>
          have items : ∀ w ∈ vs, Settles w := parts
          obtain ⟨hsettled, hsame⟩ := settles_items items
          exact ⟨.intro trivial hsettled, by rw [redact, redact, hsame]⟩
      | tuple vs =>
          have items : ∀ w ∈ vs, Settles w := parts
          obtain ⟨hsettled, hsame⟩ := settles_items items
          exact ⟨.intro trivial hsettled, by rw [redact, redact, hsame]⟩
      | text s =>
          exact ⟨.intro (isSettled_text s) (List.forall_mem_nil _),
            by rw [redact, redact, redactText_redactText]⟩
      | bytes data => exact redactBytes_spec small.here rfl id rfl
      | buffer data => exact redactBytes_spec small.here rfl id rfl
      | _ => exact ⟨.intro trivial (List.forall_mem_nil _), rfl⟩

/-- **What redaction leaves.** Of each bound value something is shown in its place. At any depth of
it texts and bytes are neither telling nor long, and under telling keys there is the mask. The rest
is as it was, and to redact it again changes nothing. No sequence of bytes is longer than a machine
can count. -/
theorem redactBinds_settled (binds : List Value)
    (small : ∀ v ∈ binds, v.Everywhere Value.IsAddressable) :
    (∀ i : Nat, (redactBinds binds)[i]? = binds[i]?.map redact) ∧
      (∀ v ∈ redactBinds binds, v.Everywhere IsSettled) ∧
      (redactBinds binds).map skeleton = binds.map skeleton ∧
      redactBinds (redactBinds binds) = redactBinds binds := by
  refine ⟨fun i => List.getElem?_map, ?_, ?_, ?_⟩
  · intro w hw
    obtain ⟨v, hv, rfl⟩ := List.mem_map.1 hw
    exact (settles v (small v hv)).1
  · rw [redactBinds, List.map_map]
    exact List.map_congr_left fun v _ => skeleton_redact v
  · rw [redactBinds, redactBinds, List.map_map]
    exact List.map_congr_left fun v hv => (settles v (small v hv)).2

/-- A document with an entry under a telling key and, deeper in it, a long text and many bytes; and
a telling text beside it. -/
def document : List Value :=
  [.map [(.text "API-Key", .list [.int 7]),
    (.text "note", .tuple [.text (String.ofList (List.replicate 201 'x')),
      .buffer (List.replicate 201 0)])],
    .text "a Bearer"]

theorem redactBinds_settled_document :
    (∀ v ∈ document, v.Everywhere Value.IsAddressable) ∧
      redactBinds document =
        [.map [(.text "API-Key", .text "***"),
          (.text "note", .tuple [.text (String.ofList (List.replicate 200 'x') ++ "..."),
            .text "<201 bytes>"])],
          .text "***"] ∧
      (∀ i : Nat, (redactBinds document)[i]? = document[i]?.map redact) ∧
      (∀ v ∈ redactBinds document, v.Everywhere IsSettled) ∧
      (redactBinds document).map skeleton = document.map skeleton ∧
      redactBinds (redactBinds document) = redactBinds document := by
  have leaf {v : Value} (small : v.IsAddressable) (hv : v.parts = []) :
      v.Everywhere Value.IsAddressable :=
    .intro small (hv ▸ List.forall_mem_nil _)
  have note : (Value.tuple [.text (String.ofList (List.replicate 201 'x')),
      .buffer (List.replicate 201 0)]).Everywhere Value.IsAddressable := by
    refine .intro trivial (List.forall_mem_cons.2 ⟨leaf trivial rfl,
      List.forall_mem_cons.2 ⟨leaf ?_ rfl, List.forall_mem_nil _⟩⟩)
    rw [Value.IsAddressable, List.length_replicate, Nat.pow_eq]
    norm_num
  have keyed : (Value.list [.int 7]).Everywhere Value.IsAddressable :=
    .intro trivial (List.forall_mem_cons.2 ⟨leaf trivial rfl, List.forall_mem_nil _⟩)
  have small : ∀ v ∈ document, v.Everywhere Value.IsAddressable :=
    List.forall_mem_cons.2 ⟨.intro trivial (List.forall_mem_cons.2 ⟨keyed,
      List.forall_mem_cons.2 ⟨note, List.forall_mem_nil _⟩⟩),
      List.forall_mem_cons.2 ⟨leaf trivial rfl, List.forall_mem_nil _⟩⟩
  have telling : isSensitiveKey (Value.text "API-Key").display = true := by decide +kernel
  have plain : isSensitiveKey (Value.text "note").display = false := by decide +kernel
  have cut : redactText (String.ofList (List.replicate 201 'x')) =
      String.ofList (List.replicate 200 'x') ++ "..." := redactText_replicate (by decide)
  have masked : redactText "a Bearer" = "***" := by decide +kernel
  have counted : redactBytes (List.replicate 201 0) (.buffer (List.replicate 201 0)) =
      .text "<201 bytes>" := by
    have hcount : "<" ++ toString 201 ++ " bytes>" = "<201 bytes>" := by decide +kernel
    rw [redactBytes, List.length_replicate, if_pos (by decide), hcount]
  refine ⟨small, ?_, redactBinds_settled document small⟩
  rw [redactBinds, document, List.map_cons, List.map_cons, List.map_nil, redact, redact,
    redactEntries, redactEntries, redactEntries, telling, plain, masked, if_pos rfl,
    if_neg Bool.false_ne_true, redact, redactItems, redactItems, redactItems, redact, redact, cut,
    counted, mask]

end Redaction

end SqlRender
