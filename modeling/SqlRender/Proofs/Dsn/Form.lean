import Mathlib.Data.List.Basic
import Mathlib.Tactic.SplitIfs
import SqlRender.Dsn.Form
import SqlRender.Proofs.Text.Cut
import SqlRender.Proofs.Text.Quoting
import SqlRender.Proofs.Text.Shown
import SqlRender.Proofs.Text.Utf8

/-!
# Fields that were written

Fields of a form are read as they were written (`Form.decode_encode`), provided that no two of them
have the same name and that none has an empty value. The fields that are read of any text are such
fields (`Form.isProper_decode`).
-/

namespace SqlRender.Dsn.Form

/-! ## Bytes -/

/-- The digit for a number below sixteen. -/
def hexDigit (n : Nat) : Char :=
  (Nat.digitChar n).toUpper

theorem digit?_hexDigit {n : Nat} (h : n < 16) : digit? (hexDigit n) = some n := by
  have hall : ∀ n < 16, digit? (hexDigit n) = some n := by decide +kernel
  exact hall n h

theorem isPlain_hexDigit {n : Nat} (h : n < 16) : isPlain (hexDigit n) = true := by
  have hall : ∀ n < 16, isPlain (hexDigit n) = true := by decide +kernel
  exact hall n h

theorem toList_hex {n : Nat} (h : n < 256) :
    ((Text.hex 2 n).toUpper).toList = [hexDigit (n / 16), hexDigit (n % 16)] := by
  have hall : ∀ n < 256,
      ((Text.hex 2 n).toUpper).toList = [hexDigit (n / 16), hexDigit (n % 16)] := by
    decide +kernel
  exact hall n h

theorem toNat_ofNat_toNat (b : UInt8) : (Char.ofNat b.toNat).toNat = b.toNat := by
  have hall : ∀ n < 256, (Char.ofNat n).toNat = n := by decide +kernel
  exact hall b.toNat b.toNat_lt

/-- A byte is written as a plain character, a plus sign, or a percent sign with two digits. -/
theorem toList_encodeByte (b : UInt8) :
    isPlain (Char.ofNat b.toNat) = true ∧ (encodeByte b).toList = [Char.ofNat b.toNat] ∨
      b = 32 ∧ (encodeByte b).toList = ['+'] ∨
      (encodeByte b).toList = ['%', hexDigit (b.toNat / 16), hexDigit (b.toNat % 16)] := by
  unfold encodeByte
  dsimp only
  by_cases hplain : isPlain (Char.ofNat b.toNat) = true
  · refine .inl ⟨hplain, ?_⟩
    rw [if_pos hplain, Char.toString_eq_singleton, String.toList_singleton]
  · by_cases hspace : Char.ofNat b.toNat = ' '
    · refine .inr (.inl ⟨?_, ?_⟩)
      · have hnat := toNat_ofNat_toNat b
        rw [hspace] at hnat
        exact UInt8.toNat_inj.1 hnat.symm
      · rw [if_neg hplain, if_pos hspace]
        rfl
    · refine .inr (.inr ?_)
      rw [if_neg hplain, if_neg hspace, String.toList_append, toList_hex b.toNat_lt]
      rfl

/-- The characters that a text is written with. -/
def isWritten (c : Char) : Bool :=
  isPlain c || c == '+' || c == '%'

theorem isWritten_of_isPlain {c : Char} (h : isPlain c = true) : isWritten c = true := by
  rw [isWritten, h]
  rfl

theorem isWritten_encodeByte (b : UInt8) : ∀ c ∈ (encodeByte b).toList, isWritten c = true := by
  have hlt : b.toNat < 256 := b.toNat_lt
  intro c hc
  rcases toList_encodeByte b with ⟨hplain, heq⟩ | ⟨-, heq⟩ | heq
  · rw [heq, List.mem_singleton] at hc
    rw [hc]
    exact isWritten_of_isPlain hplain
  · rw [heq, List.mem_singleton] at hc
    rw [hc]
    rfl
  · rw [heq] at hc
    simp only [List.mem_cons, List.not_mem_nil, or_false] at hc
    rcases hc with rfl | rfl | rfl
    · rfl
    · exact isWritten_of_isPlain (isPlain_hexDigit (by omega))
    · exact isWritten_of_isPlain (isPlain_hexDigit (by omega))

theorem isWritten_lt {c : Char} (h : isWritten c = true) : c.toNat < 128 := by
  simp only [isWritten, isPlain, Bool.or_eq_true, beq_iff_eq] at h
  rcases h with (((((h | rfl) | rfl) | rfl) | rfl) | rfl) | rfl
  · have hrange := Text.toNat_of_isAlphanum h
    omega
  all_goals decide

/-! ## Reading bytes -/

/-- A plus sign is read as a space. -/
def plusAsSpace (c : Char) : Char :=
  if c = '+' then ' ' else c

theorem percentBytes_cons_of_ne {c : Char} (h : c ≠ '%') (cs : List Char) :
    percentBytes (c :: cs) = UInt8.ofNat c.toNat :: percentBytes cs := by
  rw [percentBytes]
  intro a b rest hsign
  exact absurd hsign h

theorem percentBytes_hex {b : UInt8} (cs : List Char) :
    percentBytes ('%' :: hexDigit (b.toNat / 16) :: hexDigit (b.toNat % 16) :: cs) =
      b :: percentBytes cs := by
  have hlt : b.toNat < 256 := b.toNat_lt
  have hsum : 16 * (b.toNat / 16) + b.toNat % 16 = b.toNat := by omega
  rw [percentBytes, digit?_hexDigit (by omega), digit?_hexDigit (by omega)]
  simp only [hsum, UInt8.ofNat_toNat]

/-- A byte is read back. -/
theorem percentBytes_encodeByte (b : UInt8) (cs : List Char) :
    percentBytes ((encodeByte b).toList.map plusAsSpace ++ cs) = b :: percentBytes cs := by
  have hlt : b.toNat < 256 := b.toNat_lt
  have hplus {c : Char} (h : isPlain c = true) : plusAsSpace c = c := by
    refine if_neg ?_
    rintro rfl
    exact absurd h (by decide)
  rcases toList_encodeByte b with ⟨hplain, heq⟩ | ⟨rfl, heq⟩ | heq
  · have hne : Char.ofNat b.toNat ≠ '%' := by
      intro hsign
      rw [hsign] at hplain
      exact absurd hplain (by decide)
    rw [heq, List.map_singleton, hplus hplain, List.singleton_append, percentBytes_cons_of_ne hne,
      toNat_ofNat_toNat, UInt8.ofNat_toNat]
  · rw [heq]
    exact percentBytes_cons_of_ne (by decide) cs
  · have hdigits : ['%', hexDigit (b.toNat / 16), hexDigit (b.toNat % 16)].map plusAsSpace =
        ['%', hexDigit (b.toNat / 16), hexDigit (b.toNat % 16)] := by
      rw [List.map_cons, List.map_cons, List.map_singleton,
        hplus (isPlain_hexDigit (by omega)), hplus (isPlain_hexDigit (by omega))]
      rfl
    rw [heq, hdigits]
    exact percentBytes_hex cs

theorem toList_encodeText (s : String) :
    (encodeText s).toList = (Text.Utf8.encode s).flatMap fun b => (encodeByte b).toList := by
  rw [encodeText, String.toList_join, List.flatMap_map]

theorem isWritten_encodeText {s : String} {c : Char} (h : c ∈ (encodeText s).toList) :
    isWritten c = true := by
  rw [toList_encodeText, List.mem_flatMap] at h
  obtain ⟨b, -, hc⟩ := h
  exact isWritten_encodeByte b c hc

theorem percentBytes_encodeText (s : String) :
    percentBytes ((encodeText s).toList.map plusAsSpace) = Text.Utf8.encode s := by
  rw [toList_encodeText]
  induction Text.Utf8.encode s with
  | nil => rfl
  | cons b bytes ih => rw [List.flatMap_cons, List.map_append, percentBytes_encodeByte, ih]

/-- ASCII characters are one run. -/
theorem decodeRuns_of_ascii {cs : List Char} (h : ∀ c ∈ cs, c.toNat < 128) (run : List Char) :
    decodeRuns run cs = Text.Utf8.decodeReplacing (percentBytes (run.reverse ++ cs)) := by
  induction cs generalizing run with
  | nil => rw [decodeRuns, List.append_nil]
  | cons c cs ih =>
      rw [List.forall_mem_cons] at h
      rw [decodeRuns, if_pos h.1, ih h.2, List.reverse_cons, List.append_assoc,
        List.singleton_append]

/-- A name or a value is read as it was written. -/
theorem decodeText_encodeText (s : String) : decodeText (encodeText s).toList = s := by
  have hascii : ∀ c ∈ (encodeText s).toList.map plusAsSpace, c.toNat < 128 := by
    intro c hc
    obtain ⟨c', hc', rfl⟩ := List.mem_map.1 hc
    unfold plusAsSpace
    split_ifs
    · decide
    · exact isWritten_lt (isWritten_encodeText hc')
  have hruns := decodeRuns_of_ascii hascii []
  rw [List.reverse_nil, List.nil_append, percentBytes_encodeText,
    Text.Utf8.decodeReplacing_encode] at hruns
  exact hruns

/-! ## Fields -/

/-- The characters of a field as it is written. -/
def fieldChars (f : String × String) : List Char :=
  (encodeText f.1).toList ++ '=' :: (encodeText f.2).toList

theorem encodeText_ne_empty {s : String} (h : s ≠ "") : (encodeText s).toList ≠ [] := by
  intro hnil
  have hread := decodeText_encodeText s
  rw [hnil] at hread
  exact h hread.symm

/-- A field is read as it was written, unless its value is empty. -/
theorem field?_fieldChars {f : String × String} (h : f.2 ≠ "") :
    field? (fieldChars f) = some f := by
  have hname : '=' ∉ (encodeText f.1).toList := fun hmem =>
    absurd (isWritten_encodeText hmem) (by decide)
  obtain ⟨c, cs, hvalue⟩ := List.exists_cons_of_ne_nil (encodeText_ne_empty h)
  rw [field?, fieldChars, Text.cut_append_mark hname, hvalue]
  simp only
  rw [← hvalue, decodeText_encodeText, decodeText_encodeText]

theorem toList_encode (fields : List (String × String)) :
    (encode fields).toList = ['&'].intercalate (fields.map fieldChars) := by
  rw [encode, String.toList_intercalate, List.map_map]
  refine congrArg _ (List.map_congr_left fun f _ => ?_)
  simp [fieldChars]

/-- Fields are written with nothing but the characters for texts and the two marks between them. -/
theorem not_mem_encode {c : Char} (h : isWritten c = false) (hequals : c ≠ '=')
    (hand : c ≠ '&') (fields : List (String × String)) : c ∉ (encode fields).toList := by
  have htext (s : String) : c ∉ (encodeText s).toList := by
    intro hmem
    rw [isWritten_encodeText hmem] at h
    cases h
  rw [encode]
  refine Text.not_mem_intercalate (by simpa using hand) fun text hmem => ?_
  obtain ⟨f, -, rfl⟩ := List.mem_map.1 hmem
  simp [htext, hequals]

/-- Fields that are kept apart by their names, none of which has an empty value. -/
structure IsProper (fields : List (String × String)) : Prop where
  distinct : (fields.map Prod.fst).Nodup
  nonempty : ∀ f ∈ fields, f.2 ≠ ""

/-- Keep a field if there is none with its name. -/
def keepNew (kept : List (String × String)) (f : String × String) : List (String × String) :=
  if kept.any (·.1 == f.1) then kept else kept ++ [f]

theorem foldl_keepNew_of_nodup {fields kept : List (String × String)}
    (h : ((kept ++ fields).map Prod.fst).Nodup) : fields.foldl keepNew kept = kept ++ fields := by
  induction fields generalizing kept with
  | nil => rw [List.foldl_nil, List.append_nil]
  | cons f fields ih =>
      have hnew : kept.any (·.1 == f.1) = false := by
        rw [List.any_eq_false]
        intro g hg hname
        rw [List.map_append, List.nodup_append] at h
        exact h.2.2 g.1 (List.mem_map_of_mem hg) f.1 (by simp) (by simpa using hname)
      have hsplit : kept ++ f :: fields = (kept ++ [f]) ++ fields := by simp
      rw [hsplit] at h ⊢
      rw [List.foldl_cons, keepNew, hnew, if_neg Bool.false_ne_true, ih h]

/-- **Fields.** Proper fields are read as they were written. -/
theorem decode_encode {fields : List (String × String)} (h : IsProper fields) :
    decode (encode fields).toList = fields := by
  by_cases hnil : fields = []
  · rw [hnil]
    rfl
  · have hparts : ∀ part ∈ fields.map fieldChars, '&' ∉ part := by
      intro part hpart hmem
      obtain ⟨f, -, rfl⟩ := List.mem_map.1 hpart
      rw [fieldChars, List.mem_append, List.mem_cons] at hmem
      rcases hmem with hmem | hmem | hmem
      · exact absurd (isWritten_encodeText hmem) (by decide)
      · exact absurd hmem (by decide)
      · exact absurd (isWritten_encodeText hmem) (by decide)
    have hread : (fields.map fieldChars).filterMap field? = fields := by
      rw [List.filterMap_map]
      calc
        fields.filterMap (field? ∘ fieldChars) = fields.filterMap some :=
          List.filterMap_congr fun f hf => field?_fieldChars (h.nonempty f hf)
        _ = fields := List.filterMap_some
    rw [decode, toList_encode, Text.splitOn_intercalate (by simpa using hnil) hparts, hread]
    exact foldl_keepNew_of_nodup h.distinct

/-! ## What is read is proper -/

theorem isProper_keepNew {kept : List (String × String)} {f : String × String}
    (h : IsProper kept) (hf : f.2 ≠ "") : IsProper (keepNew kept f) := by
  unfold keepNew
  split_ifs with hany
  · exact h
  · refine ⟨?_, ?_⟩
    · rw [List.map_append, List.map_singleton, List.nodup_append]
      refine ⟨h.distinct, by simp, ?_⟩
      intro name hname name' hname' heq
      obtain ⟨g, hg, rfl⟩ := List.mem_map.1 hname
      rw [List.mem_singleton] at hname'
      exact hany (List.any_eq_true.2 ⟨g, hg, by simp [heq, hname']⟩)
    · intro g hg
      rw [List.mem_append, List.mem_singleton] at hg
      rcases hg with hg | rfl
      · exact h.nonempty g hg
      · exact hf

theorem isProper_keepFirst {fields : List (String × String)} (h : ∀ f ∈ fields, f.2 ≠ "") :
    IsProper (keepFirst fields) := by
  have hfold (kept : List (String × String)) (hkept : IsProper kept) :
      IsProper (fields.foldl keepNew kept) := by
    induction fields generalizing kept with
    | nil => exact hkept
    | cons f fields ih =>
        rw [List.forall_mem_cons] at h
        exact ih h.2 _ (isProper_keepNew hkept h.1)
  exact hfold [] ⟨List.nodup_nil, by simp⟩

theorem percentBytes_ne_nil {cs : List Char} (h : cs ≠ []) : percentBytes cs ≠ [] := by
  fun_cases percentBytes cs <;> simp_all

theorem decodeFrom_some_ne_nil (p : Text.Utf8.Pending) (bytes : List UInt8) :
    Text.Utf8.decodeFrom (some p) bytes ≠ [] := by
  induction bytes generalizing p with
  | nil => simp [Text.Utf8.decodeFrom]
  | cons b bytes ih =>
      rw [Text.Utf8.decodeFrom]
      dsimp only
      split_ifs
      · simp
      · exact ih _
      · simp

/-- Bytes are read as some text, however ill-formed they are. -/
theorem decodeReplacing_ne_empty {bytes : List UInt8} (h : bytes ≠ []) :
    Text.Utf8.decodeReplacing bytes ≠ "" := by
  have hread : Text.Utf8.decodeFrom none bytes ≠ [] := by
    obtain ⟨b, bytes, rfl⟩ := List.exists_cons_of_ne_nil h
    rw [Text.Utf8.decodeFrom]
    cases Text.Utf8.start b.toNat with
    | whole c => simp
    | longer p => exact decodeFrom_some_ne_nil p bytes
    | nothing => simp
  intro hempty
  rw [Text.Utf8.decodeReplacing, String.ofList_eq_empty_iff, List.map_eq_nil_iff] at hempty
  exact hread hempty

theorem decodeRuns_ne_empty {run cs : List Char} (h : run ≠ [] ∨ cs ≠ []) :
    decodeRuns run cs ≠ "" := by
  induction cs generalizing run with
  | nil =>
      have hrun : run.reverse ≠ [] := by simpa using h
      rw [decodeRuns]
      exact decodeReplacing_ne_empty (percentBytes_ne_nil hrun)
  | cons c cs ih =>
      rw [decodeRuns]
      split_ifs
      · exact ih (.inl (List.cons_ne_nil c run))
      · intro hempty
        have hlist := congrArg String.toList hempty
        simp at hlist

theorem field?_nonempty {cs : List Char} {f : String × String} (h : field? cs = some f) :
    f.2 ≠ "" := by
  unfold field? at h
  split at h
  · cases h
    exact decodeRuns_ne_empty (.inr (by simp))
  · cases h

/-- The fields that are read have different names, and values. -/
theorem isProper_decode (cs : List Char) : IsProper (decode cs) := by
  refine isProper_keepFirst fun f hf => ?_
  obtain ⟨part, -, hpart⟩ := List.mem_filterMap.1 hf
  exact field?_nonempty hpart

end SqlRender.Dsn.Form
