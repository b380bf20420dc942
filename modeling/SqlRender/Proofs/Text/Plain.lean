import SqlRender.Text.Hex

/-!
# Plain text

The fixed words of queries and the digits of numbers are plain: no quoted token or placeholder of a
driver can start in them. In an unmarked text no quoted token can start.
-/

namespace SqlRender.Text

/-- Whether a text has no quotation marks. -/
def isUnmarked (s : String) : Bool :=
  s.toList.all fun c => c ≠ '\'' && c ≠ '"' && c ≠ '`'

/-- Whether a text has neither quotation marks nor percent signs. -/
def isPlain (s : String) : Bool :=
  s.toList.all fun c => c ≠ '\'' && c ≠ '"' && c ≠ '`' && c ≠ '%'

theorem isUnmarked_of_isPlain {s : String} (h : isPlain s = true) : isUnmarked s = true := by
  unfold isPlain at h
  unfold isUnmarked
  rw [List.all_eq_true] at h ⊢
  intro c hc
  have hplain := h c hc
  rw [Bool.and_eq_true] at hplain
  exact hplain.1

theorem isPlain_append (s t : String) : isPlain (s ++ t) = (isPlain s && isPlain t) := by
  simp [isPlain]

theorem isDigit_of_mem_natToString {n : Nat} {c : Char} (h : c ∈ (toString n).toList) :
    c.isDigit = true := by
  rw [Nat.toString_eq_repr, Nat.repr, String.toList_ofList] at h
  exact Nat.isDigit_of_mem_toDigits (by decide) (by decide) h

theorem isPlain_natToString (n : Nat) : isPlain (toString n) = true := by
  unfold isPlain
  rw [List.all_eq_true]
  intro c hc
  have hdigit := isDigit_of_mem_natToString hc
  have hne (d : Char) (hd : d.isDigit = false) : c ≠ d := by
    rintro rfl
    rw [hd] at hdigit
    cases hdigit
  simp [hne '\'' (by decide), hne '"' (by decide), hne '`' (by decide), hne '%' (by decide)]

theorem isPlain_intToString (i : Int) : isPlain (toString i) = true := by
  cases i with
  | ofNat n => exact isPlain_natToString n
  | negSucc n =>
      show isPlain ("-" ++ toString (n + 1)) = true
      rw [isPlain_append, isPlain_natToString]
      decide

/-- Digits, maybe after a sign. -/
theorem mem_intToString {i : Int} {c : Char} (h : c ∈ (toString i).toList) :
    c.isDigit = true ∨ c = '-' := by
  cases i with
  | ofNat n => exact .inl (isDigit_of_mem_natToString h)
  | negSucc n =>
      have hsigned : c ∈ '-' :: (toString (n + 1)).toList := by
        simpa using (show c ∈ ("-" ++ toString (n + 1)).toList from h)
      rcases List.mem_cons.1 hsigned with hsign | hdigit
      · exact .inr hsign
      · exact .inl (isDigit_of_mem_natToString hdigit)

theorem not_mem_intToString {c : Char} (hdigit : c.isDigit = false) (hsign : c ≠ '-') (i : Int) :
    c ∉ (toString i).toList := by
  intro hmem
  rcases mem_intToString hmem with h | h
  · rw [hdigit] at h
    cases h
  · exact hsign h

theorem intToString_ne (i : Int) : toString i ≠ "" := by
  cases i with
  | ofNat n => exact Nat.repr_ne_empty
  | negSucc n =>
      show "-" ++ toString (n + 1) ≠ ""
      simp

/-- The digits of numbers in hexadecimal. -/
def hexDigits : List Char :=
  "0123456789abcdef".toList

theorem mem_hexDigits_of_mem_toDigits {n : Nat} {c : Char} (h : c ∈ Nat.toDigits 16 n) :
    c ∈ hexDigits := by
  induction n using Nat.strongRecOn with
  | _ n ih =>
      have digits : ∀ k < 16, k.digitChar ∈ hexDigits := by decide
      have digit (k : Nat) (hk : k < 16) (c : Char) (hc : c ∈ Nat.toDigits 16 k) :
          c ∈ hexDigits := by
        rw [Nat.toDigits_of_lt_base hk, List.mem_singleton] at hc
        exact hc ▸ digits k hk
      by_cases hn : n < 16
      · exact digit n hn c h
      · -- all but the last digit are those of a smaller number
        have hpos : 0 < n / 16 := Nat.div_pos (Nat.le_of_not_lt hn) (by decide)
        have hlast : n % 16 < 16 := Nat.mod_lt n (by decide)
        have hsmaller : n / 16 < n := Nat.div_lt_self (by omega) (by decide)
        rw [← Nat.div_add_mod n 16, ← Nat.toDigits_append_toDigits (by decide) hpos hlast,
          List.mem_append] at h
        rcases h with hfront | hback
        · exact ih _ hsmaller hfront
        · exact digit _ hlast c hback

theorem mem_hexDigits_of_mem_hex {width n : Nat} {c : Char} (h : c ∈ (hex width n).toList) :
    c ∈ hexDigits := by
  rw [hex, String.toList_ofList, List.mem_append] at h
  rcases h with hzero | hdigit
  · rw [(List.mem_replicate.1 hzero).2]
    decide
  · exact mem_hexDigits_of_mem_toDigits hdigit

end SqlRender.Text
