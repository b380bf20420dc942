import Mathlib.Data.Nat.Digits.Defs
import SqlRender.Proofs.Dsn.Host

/-!
# Authorities that are read again

How the parts of an authority are found: the place after its last at sign
(`Authority.ofChars_eq_ok`), the host and the digits of the port in it, and the brackets, which
allow only an address for a host wherever in the authority they stand
(`Url.checkAddress_of_checkBrackets`).
-/

namespace SqlRender

/-! ## Ports -/

/-- The digits of a number stand for it. -/
theorem Digits.number_toDigits (n : Nat) : number (Nat.toDigits 10 n) = n :=
  Nat.ofDigitChars_ten_toDigits

namespace Dsn

namespace Authority

theorem le_of_portNumber {cs : List Char} {n : Nat} (h : portNumber cs = .ok n) : n ≤ 65535 := by
  unfold portNumber at h
  split_ifs at h
  cases hread : Digits.read cs with
  | error count =>
      rw [hread] at h
      cases h
  | ok m =>
      rw [hread] at h
      simp only at h
      split_ifs at h with hle
      cases h
      exact hle

/-- The digits of a port are read as its number. -/
theorem portNumber_toDigits {n : Nat} (h : n ≤ 65535) : portNumber (Nat.toDigits 10 n) = .ok n := by
  have hdigits : (Nat.toDigits 10 n).all Char.isDigit = true :=
    List.all_eq_true.2 fun c => Nat.isDigit_of_mem_toDigits (by decide) (by decide)
  have hlength : (Nat.toDigits 10 n).length ≤ 5 :=
    (Nat.length_toDigits_le_iff (by decide) (by decide)).2 (by omega)
  have hread : Digits.read (Nat.toDigits 10 n) = .ok n := by
    have hmax : ¬ (Nat.toDigits 10 n).length > Digits.maxCount := by
      rw [Digits.maxCount]
      omega
    rw [Digits.read, if_neg hmax, Digits.number_toDigits]
  rw [portNumber, if_pos hdigits, hread]
  exact if_pos h

/-! ## Hosts -/

theorem hostAndPort_of_not_bracket {cs : List Char} (h : '[' ∉ cs) :
    hostAndPort cs = ((Text.cut ':' cs).1, (Text.cut ':' cs).2.filter (!·.isEmpty)) := by
  rw [hostAndPort, Text.cut_of_not_mem h]

/-- A host without colons and brackets is followed by its port, if there is one. -/
theorem hostAndPort_append {host digits : List Char} (hcolon : ':' ∉ host) (hbracket : '[' ∉ host)
    (hdigits : '[' ∉ digits) (hne : digits ≠ []) :
    hostAndPort (host ++ ':' :: digits) = (host, some digits) := by
  have hnone : '[' ∉ host ++ ':' :: digits := by
    simp [hbracket, hdigits]
  rw [hostAndPort_of_not_bracket hnone, Text.cut_append_mark hcolon, Option.filter_some,
    if_pos (by simpa using hne)]

theorem hostAndPort_of_not_mem {host : List Char} (hcolon : ':' ∉ host) (hbracket : '[' ∉ host) :
    hostAndPort host = (host, none) := by
  rw [hostAndPort_of_not_bracket hbracket, Text.cut_of_not_mem hcolon]
  rfl

/-- Outside of brackets a host has no colon. -/
theorem colon_not_mem_host {cs : List Char} (h : '[' ∉ cs) : ':' ∉ (hostAndPort cs).1 := by
  rw [hostAndPort_of_not_bracket h]
  exact fun hmem => (Text.mem_of_mem_cut_fst hmem).2 rfl

/-- A host stands in its place. -/
theorem mem_of_mem_host {cs : List Char} {c : Char} (h : c ∈ (hostAndPort cs).1) : c ∈ cs := by
  rcases Text.cut_cases '[' cs with ⟨hnone, -⟩ | ⟨before, after, hcs, -, hcut⟩
  · rw [hostAndPort_of_not_bracket hnone] at h
    exact (Text.mem_of_mem_cut_fst h).1
  · rw [hostAndPort, hcut] at h
    rw [hcs]
    exact List.mem_append_right _ (List.mem_cons_of_mem _ (Text.mem_of_mem_cut_fst h).1)

/-! ## Parts of an authority -/

theorem ofChars_eq_ok {cs : List Char} {a : Authority} (h : ofChars cs = .ok a) :
    a.username = (credentials (Text.cutLast '@' cs).1).1 ∧
      a.password = (credentials (Text.cutLast '@' cs).1).2 ∧
      a.host = hostName (hostAndPort (Text.cutLast '@' cs).2).1 ∧
      ((hostAndPort (Text.cutLast '@' cs).2).2 = none ∧ a.port = none ∨
        ∃ digits n, (hostAndPort (Text.cutLast '@' cs).2).2 = some digits ∧
          portNumber digits = .ok n ∧ a.port = some n) := by
  simp only [ofChars] at h
  split at h
  · rename_i hport
    cases h
    exact ⟨rfl, rfl, rfl, .inl ⟨hport, rfl⟩⟩
  · rename_i digits hport
    cases hnumber : portNumber digits with
    | error e =>
        rw [hnumber] at h
        cases h
    | ok n =>
        rw [hnumber] at h
        cases h
        exact ⟨rfl, rfl, rfl, .inr ⟨digits, n, hport, hnumber, rfl⟩⟩

/-- What an authority is read as, from what is found in it. -/
theorem ofChars_of_parts {cs place host : List Char} {user : Option (List Char)}
    (hcut : Text.cutLast '@' cs = (user, place)) {port : Option Nat}
    (hport : hostAndPort place = (host, port.map (Nat.toDigits 10)))
    (hbound : ∀ n, port = some n → n ≤ 65535) :
    ofChars cs =
      .ok ⟨(credentials user).1, (credentials user).2, hostName host, port⟩ := by
  simp only [ofChars, hcut, hport]
  cases port with
  | none => rfl
  | some n =>
      simp only [Option.map_some]
      rw [portNumber_toDigits (hbound n rfl)]
      rfl

end Authority

namespace Url

open Authority

theorem checkBrackets_paired {authority : List Char} (h : checkBrackets authority = .ok ()) :
    '[' ∈ authority ↔ ']' ∈ authority := by
  rw [checkBrackets] at h
  by_cases hpaired : (authority.contains '[' != authority.contains ']') = true
  · rw [if_pos hpaired] at h
    cases h
  · rw [bne_iff_ne, ne_eq, not_not] at hpaired
    rw [← List.contains_iff_mem, ← List.contains_iff_mem, hpaired]

/-- In an authority with brackets the host is an address, and it is the brackets that its place
begins with, if there are any in it. -/
theorem checkAddress_of_checkBrackets {authority : List Char}
    (h : checkBrackets authority = .ok ()) (hmem : '[' ∈ authority) :
    checkAddress (hostAndPort (Text.cutLast '@' authority).2).1 = .ok () ∧
      ('[' ∈ (Text.cutLast '@' authority).2 →
        (Text.cutLast '@' authority).2.head? = some '[') := by
  unfold checkBrackets at h
  split_ifs at h with hpaired habsent
  · simp [hmem] at habsent
  · generalize (Text.cutLast '@' authority).2 = place at h ⊢
    dsimp only at h
    rcases Text.cut_cases '[' place with ⟨hnone, hcut⟩ | ⟨before, bracketed, hplace, hnone, hcut⟩
    · rw [hcut] at h
      rw [hostAndPort_of_not_bracket hnone]
      exact ⟨h, fun hin => absurd hin hnone⟩
    · rw [hcut] at h
      simp only at h
      split_ifs at h with hmisplaced
      rw [Bool.or_eq_true, not_or, Bool.not_eq_true, Bool.not_eq_false'] at hmisplaced
      refine ⟨?_, fun _ => ?_⟩
      · rw [hostAndPort, hcut]
        exact h
      · rw [hplace, List.isEmpty_iff.1 hmisplaced.1]
        rfl

/-- Brackets elsewhere than around the host must be paired, and call for an address. -/
theorem checkBrackets_of_place {authority place : List Char} {user : Option (List Char)}
    (hcut : Text.cutLast '@' authority = (user, place)) (hplace : '[' ∉ place)
    (hpaired : '[' ∈ authority ↔ ']' ∈ authority)
    (haddress : '[' ∈ authority → checkAddress (hostAndPort place).1 = .ok ()) :
    checkBrackets authority = .ok () := by
  have hsame : (authority.contains '[' != authority.contains ']') = false := by
    rw [bne_eq_false_iff_eq, Bool.eq_iff_iff, List.contains_iff_mem, List.contains_iff_mem]
    exact hpaired
  rw [checkBrackets, hsame, if_neg Bool.false_ne_true]
  by_cases hmem : '[' ∈ authority
  · have haddr := haddress hmem
    rw [hostAndPort_of_not_bracket hplace] at haddr
    rw [if_neg (by simpa using hmem), hcut]
    simp only [Text.cut_of_not_mem hplace]
    exact haddr
  · rw [if_pos (by simpa using hmem)]

end Url

end Dsn

end SqlRender
