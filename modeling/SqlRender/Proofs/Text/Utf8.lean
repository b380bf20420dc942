import Mathlib.Data.List.Basic
import SqlRender.Text.Utf8

/-!
# Reading UTF-8 that was written

The bytes of a text are read as that text (`Utf8.decodeReplacing_encode`), since each character is
read back from its bytes whatever follows them (`Utf8.decodeFrom_append`).
-/

namespace SqlRender.Text.Utf8

/-! ## One byte at a time -/

theorem decodeFrom_whole {b : UInt8} {c : Char} (h : start b.toNat = .whole c)
    (rest : List UInt8) : decodeFrom none (b :: rest) = some c :: decodeFrom none rest := by
  rw [decodeFrom]
  simp only [h]

theorem decodeFrom_longer {b : UInt8} {p : Pending} (h : start b.toNat = .longer p)
    (rest : List UInt8) : decodeFrom none (b :: rest) = decodeFrom (some p) rest := by
  rw [decodeFrom]
  simp only [h]

/-- A byte within the bounds goes on with a character. -/
theorem decodeFrom_next {b : UInt8} {p : Pending} (least : p.least ≤ b.toNat)
    (most : b.toNat ≤ p.most) (rest : List UInt8) :
    decodeFrom (some p) (b :: rest) =
      if p.missing = 1 then
        some (Char.ofNat (p.bits * 64 + (b.toNat - 0x80))) :: decodeFrom none rest
      else
        decodeFrom (some ⟨p.bits * 64 + (b.toNat - 0x80), p.missing - 1, 0x80, 0xbf⟩) rest := by
  rw [decodeFrom]
  simp only [decide_eq_true least, decide_eq_true most, Bool.and_self, if_true]

/-! ## The first byte -/

theorem start_one {v : Nat} (h : v ≤ 127) : start v = .whole (Char.ofNat v) :=
  if_pos (by omega)

theorem start_two {n : Nat} (least : 2 ≤ n) (most : n ≤ 31) :
    start (n + 192) = .longer ⟨n, 1, 0x80, 0xbf⟩ := by
  unfold start
  rw [if_neg (by omega), if_neg (by omega), if_pos (by omega), Nat.add_sub_cancel]

/-- The bounds of the second of three bytes. -/
def boundsOfThree (n : Nat) : Nat × Nat :=
  if n = 0 then (0xa0, 0xbf) else if n = 13 then (0x80, 0x9f) else (0x80, 0xbf)

theorem start_three {n : Nat} (most : n ≤ 15) :
    start (n + 224) = .longer ⟨n, 2, (boundsOfThree n).1, (boundsOfThree n).2⟩ := by
  unfold start boundsOfThree
  rw [if_neg (by omega), if_neg (by omega), if_neg (by omega)]
  by_cases hzero : n = 0
  · rw [if_pos (by omega), if_pos hzero, hzero]
  · by_cases hthirteen : n = 13
    · rw [if_neg (by omega), if_pos (by omega), if_neg hzero, if_pos hthirteen, hthirteen]
    · rw [if_neg (by omega), if_neg (by omega), if_pos (by omega), if_neg hzero,
        if_neg hthirteen, Nat.add_sub_cancel]

/-- The bounds of the second of four bytes. -/
def boundsOfFour (n : Nat) : Nat × Nat :=
  if n = 0 then (0x90, 0xbf) else if n = 4 then (0x80, 0x8f) else (0x80, 0xbf)

theorem start_four {n : Nat} (most : n ≤ 4) :
    start (n + 240) = .longer ⟨n, 3, (boundsOfFour n).1, (boundsOfFour n).2⟩ := by
  unfold start boundsOfFour
  rw [if_neg (by omega), if_neg (by omega), if_neg (by omega), if_neg (by omega),
    if_neg (by omega), if_neg (by omega)]
  by_cases hzero : n = 0
  · rw [if_pos (by omega), if_pos hzero, hzero]
  · by_cases hfour : n = 4
    · rw [if_neg (by omega), if_neg (by omega), if_pos (by omega), if_neg hzero, if_pos hfour,
        hfour]
    · rw [if_neg (by omega), if_pos (by omega), if_neg hzero, if_neg hfour, Nat.add_sub_cancel]

/-! ## Characters -/

theorem toNat_ofNat_of_lt {n : Nat} (h : n < 256) : (UInt8.ofNat n).toNat = n := by
  rw [UInt8.toNat_ofNat']
  exact Nat.mod_eq_of_lt h

section Further

variable {n bits least most : Nat} (hn : n < 64) (hleast : least ≤ n + 128)
  (hmost : n + 128 ≤ most) (rest : List UInt8)

include hn hleast hmost

/-- The last byte of a character adds the six bits in it. -/
theorem decodeFrom_last :
    decodeFrom (some ⟨bits, 1, least, most⟩) (UInt8.ofNat (n + 128) :: rest) =
      some (Char.ofNat (bits * 64 + n)) :: decodeFrom none rest := by
  have hbyte : (UInt8.ofNat (n + 128)).toNat = n + 128 := toNat_ofNat_of_lt (by omega)
  rw [← hbyte] at hleast hmost
  rw [decodeFrom_next hleast hmost, hbyte, Nat.add_sub_cancel, if_pos rfl]

/-- Any other byte adds its bits too, and is followed by one that may be any. -/
theorem decodeFrom_more {missing : Nat} :
    decodeFrom (some ⟨bits, missing + 2, least, most⟩) (UInt8.ofNat (n + 128) :: rest) =
      decodeFrom (some ⟨bits * 64 + n, missing + 1, 128, 191⟩) rest := by
  have hbyte : (UInt8.ofNat (n + 128)).toNat = n + 128 := toNat_ofNat_of_lt (by omega)
  have hmissing : missing + 2 ≠ 1 := by omega
  rw [← hbyte] at hleast hmost
  rw [decodeFrom_next hleast hmost, hbyte, Nat.add_sub_cancel, if_neg hmissing]
  rfl

end Further

theorem decodeFrom_one {v : Nat} (h : v ≤ 127) (rest : List UInt8) :
    decodeFrom none (UInt8.ofNat v :: rest) = some (Char.ofNat v) :: decodeFrom none rest := by
  refine decodeFrom_whole ?_ rest
  rw [toNat_ofNat_of_lt (by omega)]
  exact start_one h

theorem decodeFrom_two {v : Nat} (least : 127 < v) (most : v ≤ 2047) (rest : List UInt8) :
    decodeFrom none
        (UInt8.ofNat (v / 64 % 32 + 192) :: UInt8.ofNat (v % 64 + 128) :: rest) =
      some (Char.ofNat v) :: decodeFrom none rest := by
  have hfirst : v / 64 % 32 = v / 64 := Nat.mod_eq_of_lt (by omega)
  have hstart : start (UInt8.ofNat (v / 64 + 192)).toNat = .longer ⟨v / 64, 1, 0x80, 0xbf⟩ := by
    rw [toNat_ofNat_of_lt (by omega)]
    exact start_two (by omega) (by omega)
  have hbits : v / 64 * 64 + v % 64 = v := by omega
  rw [hfirst, decodeFrom_longer hstart, decodeFrom_last (by omega) (by omega) (by omega), hbits]

/-- The bounds of the second byte are those of characters that need three bytes and are no
surrogates. -/
theorem decodeFrom_three {v : Nat} (least : 2047 < v) (most : v ≤ 65535)
    (valid : v < 0xd800 ∨ 0xdfff < v) (rest : List UInt8) :
    decodeFrom none
        (UInt8.ofNat (v / 4096 % 16 + 224) :: UInt8.ofNat (v / 64 % 64 + 128) ::
          UInt8.ofNat (v % 64 + 128) :: rest) =
      some (Char.ofNat v) :: decodeFrom none rest := by
  have hfirst : v / 4096 % 16 = v / 4096 := Nat.mod_eq_of_lt (by omega)
  have hstart : start (UInt8.ofNat (v / 4096 + 224)).toNat =
      .longer ⟨v / 4096, 2, (boundsOfThree (v / 4096)).1, (boundsOfThree (v / 4096)).2⟩ := by
    rw [toNat_ofNat_of_lt (by omega)]
    exact start_three (by omega)
  have hbounds : (boundsOfThree (v / 4096)).1 ≤ v / 64 % 64 + 128 ∧
      v / 64 % 64 + 128 ≤ (boundsOfThree (v / 4096)).2 := by
    unfold boundsOfThree
    split_ifs <;> simp only <;> omega
  have hbits : (v / 4096 * 64 + v / 64 % 64) * 64 + v % 64 = v := by omega
  rw [hfirst, decodeFrom_longer hstart, decodeFrom_more (by omega) hbounds.1 hbounds.2,
    decodeFrom_last (by omega) (by omega) (by omega), hbits]

/-- The bounds of the second byte are those of characters that need four bytes and exist. -/
theorem decodeFrom_four {v : Nat} (least : 65535 < v) (most : v < 0x110000)
    (rest : List UInt8) :
    decodeFrom none
        (UInt8.ofNat (v / 262144 % 8 + 240) :: UInt8.ofNat (v / 4096 % 64 + 128) ::
          UInt8.ofNat (v / 64 % 64 + 128) :: UInt8.ofNat (v % 64 + 128) :: rest) =
      some (Char.ofNat v) :: decodeFrom none rest := by
  have hfirst : v / 262144 % 8 = v / 262144 := Nat.mod_eq_of_lt (by omega)
  have hstart : start (UInt8.ofNat (v / 262144 + 240)).toNat =
      .longer ⟨v / 262144, 3, (boundsOfFour (v / 262144)).1, (boundsOfFour (v / 262144)).2⟩ := by
    rw [toNat_ofNat_of_lt (by omega)]
    exact start_four (by omega)
  have hbounds : (boundsOfFour (v / 262144)).1 ≤ v / 4096 % 64 + 128 ∧
      v / 4096 % 64 + 128 ≤ (boundsOfFour (v / 262144)).2 := by
    unfold boundsOfFour
    split_ifs <;> simp only <;> omega
  have hbits :
      ((v / 262144 * 64 + v / 4096 % 64) * 64 + v / 64 % 64) * 64 + v % 64 = v := by omega
  rw [hfirst, decodeFrom_longer hstart, decodeFrom_more (by omega) hbounds.1 hbounds.2,
    decodeFrom_more (by omega) (by omega) (by omega),
    decodeFrom_last (by omega) (by omega) (by omega), hbits]

/-- A character is read back from its bytes. -/
theorem decodeFrom_utf8EncodeChar (c : Char) (rest : List UInt8) :
    decodeFrom none (String.utf8EncodeChar c ++ rest) = some c :: decodeFrom none rest := by
  obtain ⟨v, hv⟩ : ∃ v, v = c.val.toNat := ⟨_, rfl⟩
  have hchar : Char.ofNat v = c := by
    rw [hv]
    exact Char.ofNat_toNat c
  have hvalid : v < 0xd800 ∨ 0xdfff < v ∧ v < 0x110000 := by
    rw [hv]
    exact c.valid
  rw [String.utf8EncodeChar]
  simp only [← hv]
  rw [← hchar]
  by_cases hone : v ≤ 127
  · rw [if_pos hone]
    exact decodeFrom_one hone rest
  · by_cases htwo : v ≤ 2047
    · rw [if_neg hone, if_pos htwo]
      exact decodeFrom_two (by omega) htwo rest
    · by_cases hthree : v ≤ 65535
      · rw [if_neg hone, if_neg htwo, if_pos hthree]
        exact decodeFrom_three (by omega) hthree (by omega) rest
      · rw [if_neg hone, if_neg htwo, if_neg hthree]
        exact decodeFrom_four (v := v) (by omega) (by omega) rest

/-! ## Texts -/

/-- Characters are read back from their bytes, one after the other. -/
theorem decodeFrom_append (cs : List Char) (rest : List UInt8) :
    decodeFrom none (cs.flatMap String.utf8EncodeChar ++ rest) =
      cs.map some ++ decodeFrom none rest := by
  induction cs with
  | nil => rfl
  | cons c cs ih =>
      rw [List.flatMap_cons, List.append_assoc, decodeFrom_utf8EncodeChar, ih, List.map_cons,
        List.cons_append]

theorem toList_loop (bytes : ByteArray) (i : Nat) (read : List UInt8) :
    ByteArray.toList.loop bytes i read = read.reverse ++ bytes.data.toList.drop i := by
  fun_induction ByteArray.toList.loop bytes i read with
  | case1 i read hlt ih =>
      have hlength : i < bytes.data.toList.length := by simpa using hlt
      have hget : bytes.get! i = bytes.data.toList[i] := by
        cases bytes with
        | mk data => exact getElem!_pos data i hlt
      rw [ih, List.drop_eq_getElem_cons hlength, hget, List.reverse_cons, List.append_assoc,
        List.singleton_append]
  | case2 i read hge =>
      rw [List.drop_eq_nil_of_le (by simpa using Nat.le_of_not_lt hge), List.append_nil]

/-- The bytes of a text are those of its characters. -/
theorem encode_eq (s : String) : encode s = s.toList.flatMap String.utf8EncodeChar := by
  have hbytes : s.toUTF8 = (s.toList.flatMap String.utf8EncodeChar).toByteArray := by
    conv_lhs => rw [← String.ofList_toList (s := s)]
    rfl
  rw [encode, hbytes, ByteArray.toList, toList_loop, List.data_toByteArray]
  simp

/-- What was written is read back. -/
theorem decodeReplacing_encode (s : String) : decodeReplacing (encode s) = s := by
  have hread := decodeFrom_append s.toList []
  rw [List.append_nil] at hread
  rw [decodeReplacing, encode_eq, hread, decodeFrom, List.append_nil, List.map_map]
  simp [Function.comp_def]

end SqlRender.Text.Utf8
