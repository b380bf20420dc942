import Mathlib.Data.List.Basic
import Mathlib.Tactic.SplitIfs
import SqlRender.Dsn.Url
import SqlRender.Proofs.Text.Caseless
import SqlRender.Proofs.Text.Cut

/-!
# Hosts that are read again

The name of a host is in lower case, and is read as it is when it is written where the host was
(`Authority.hostName_of_hostName`). An address without colons is one of a version that is yet to
come (`Url.isFutureAddress_of_checkAddress`), and is one in lower case too
(`Authority.isFutureAddress_hostName`).
-/

namespace SqlRender.Dsn

/-! ## Addresses -/

/-- No address begins with a bracket. -/
theorem countGroups_bracket (atEnd : Bool) (cs : List Char) :
    countGroups atEnd ('[' :: cs) = none := by
  have hgroup (part : List Char) : isGroup ('[' :: part) = false := by
    simp [isGroup, show Form.digit? '[' = none from by decide]
  have hfour (part : List Char) : isFourNumbers ('[' :: part) = false := by
    obtain ⟨first, others, hsplit⟩ := Text.splitOn_cons_of_ne (show '[' ≠ '.' by decide) part
    have hbyte : isByteNumber ('[' :: first) = false := by
      simp [isByteNumber, show Char.isDigit '[' = false from by decide]
    rw [isFourNumbers, hsplit, List.all_cons, hbyte, Bool.false_and, Bool.and_false]
  obtain ⟨part, parts, hsplit⟩ := Text.splitOn_cons_of_ne (show '[' ≠ ':' by decide) cs
  rw [countGroups, List.isEmpty_cons, if_neg Bool.false_ne_true, hsplit]
  cases parts with
  | nil => simp [hgroup, hfour]
  | cons next parts => simp [hgroup]

/-- What has no colon is at most one group. -/
theorem countGroups_of_not_mem {cs : List Char} (h : ':' ∉ cs) : countGroups true cs ≠ some 8 := by
  rw [countGroups, Text.splitOn_of_not_mem h]
  by_cases hempty : cs.isEmpty = true
  · rw [if_pos hempty]
    simp
  · rw [if_neg hempty]
    by_cases hgroup : isGroup cs = true
    · simp [hgroup]
    · by_cases hfour : isFourNumbers cs = true
      · simp [hgroup, hfour]
      · simp [hgroup, hfour]

theorem cutAtGap_of_not_mem {cs : List Char} (h : ':' ∉ cs) : cutAtGap cs = (cs, none) := by
  induction cs with
  | nil => rfl
  | cons c cs ih =>
      rw [List.mem_cons, not_or] at h
      rw [cutAtGap, ih h.2]
      rintro rest hcolon -
      exact h.1 hcolon.symm

theorem cutAtGap_bracket (cs : List Char) :
    ∃ before, cutAtGap ('[' :: cs) = ('[' :: before, (cutAtGap cs).2) := by
  refine ⟨(cutAtGap cs).1, ?_⟩
  rw [cutAtGap]
  rintro rest hcolon -
  exact absurd hcolon (by decide)

/-- An address of groups has colons, and none begins with a bracket. -/
theorem isGroups_eq_false {cs : List Char} (h : ':' ∉ cs ∨ cs.head? = some '[') :
    isGroups cs = false := by
  rcases h with hcolon | hhead
  · rw [isGroups, cutAtGap_of_not_mem hcolon]
    exact decide_eq_false (countGroups_of_not_mem hcolon)
  · obtain ⟨cs, rfl⟩ : ∃ rest, cs = '[' :: rest := by
      cases cs with
      | nil => cases hhead
      | cons c cs =>
          cases hhead
          exact ⟨cs, rfl⟩
    obtain ⟨before, hcut⟩ := cutAtGap_bracket cs
    rw [isGroups, hcut]
    cases (cutAtGap cs).2 with
    | none => simp [countGroups_bracket]
    | some after => simp [countGroups_bracket]

theorem isZonedGroups_eq_false {cs : List Char} (h : ':' ∉ cs ∨ cs.head? = some '[') :
    isZonedGroups cs = false := by
  have haddress {address : List Char} (hcut : address = (Text.cut '%' cs).1) :
      ':' ∉ address ∨ address.head? = some '[' := by
    rcases Text.cut_cases '%' cs with ⟨-, heq⟩ | ⟨before, after, hcs, -, heq⟩
    · rw [hcut, heq]
      exact h
    · rw [hcut, heq]
      rcases h with hcolon | hhead
      · exact .inl fun hmem => hcolon (hcs ▸ List.mem_append_left _ hmem)
      · rw [hcs] at hhead
        cases before with
        | nil => simp at hhead
        | cons c before => exact .inr (by simpa using hhead)
  rw [isZonedGroups]
  cases hcut : Text.cut '%' cs with
  | mk address zone =>
      have hfalse := isGroups_eq_false (haddress (by rw [hcut]))
      cases zone with
      | none => exact hfalse
      | some zone => simp [hfalse]

/-- The parts of an address of a version that is yet to come. -/
theorem isFutureAddress_iff {cs : List Char} :
    isFutureAddress cs = true ↔
      ∃ version c rest, cs = 'v' :: (version ++ '.' :: c :: rest) ∧ version ≠ [] ∧
        ∀ d ∈ version, (Form.digit? d).isSome = true := by
  constructor
  · intro h
    unfold isFutureAddress at h
    split at h
    · rename_i rest
      split at h
      · rename_i version c after hcut
        rw [Bool.and_eq_true, Bool.not_eq_true', List.isEmpty_eq_false_iff, List.all_eq_true] at h
        rcases Text.cut_cases '.' rest with ⟨-, hnone⟩ | ⟨before, after', hrest, -, hsome⟩
        · rw [hnone] at hcut
          cases hcut
        · rw [hsome] at hcut
          cases hcut
          exact ⟨version, c, after, by rw [hrest], h.1, h.2⟩
      · cases h
    · cases h
  · rintro ⟨version, c, rest, rfl, hne, hdigits⟩
    have hpoint : '.' ∉ version := fun hmem => absurd (hdigits '.' hmem) (by decide)
    rw [isFutureAddress, Text.cut_append_mark hpoint]
    simp only [Bool.and_eq_true, Bool.not_eq_true', List.isEmpty_eq_false_iff, List.all_eq_true]
    exact ⟨hne, hdigits⟩

namespace Url

theorem checkAddress_of_isFutureAddress {cs : List Char} (h : isFutureAddress cs = true) :
    checkAddress cs = .ok () := by
  obtain ⟨version, c, rest, rfl, -, -⟩ := isFutureAddress_iff.1 h
  rw [checkAddress, List.head?_cons, if_pos rfl, if_pos h]

theorem isFutureAddress_or_isZonedGroups {cs : List Char} (h : checkAddress cs = .ok ()) :
    isFutureAddress cs = true ∨ isZonedGroups cs = true := by
  unfold checkAddress at h
  split_ifs at h with hhead hfuture hfour hzoned
  · exact .inl hfuture
  · exact .inr hzoned

/-- An address without colons is one of a version that is yet to come. -/
theorem isFutureAddress_of_checkAddress {cs : List Char} (h : checkAddress cs = .ok ())
    (hcolon : ':' ∉ cs) : isFutureAddress cs = true := by
  refine (isFutureAddress_or_isZonedGroups h).resolve_right fun hzoned => ?_
  rw [isZonedGroups_eq_false (.inl hcolon)] at hzoned
  cases hzoned

theorem head?_of_checkAddress {cs : List Char} (h : checkAddress cs = .ok ()) :
    cs.head? ≠ some '[' := by
  intro hhead
  rcases isFutureAddress_or_isZonedGroups h with hfuture | hzoned
  · obtain ⟨version, c, rest, rfl, -, -⟩ := isFutureAddress_iff.1 hfuture
    cases hhead
  · rw [isZonedGroups_eq_false (.inr hhead)] at hzoned
    cases hzoned

end Url

/-! ## Names of hosts -/

namespace Authority

/-- A host is in lower case up to its zone. -/
theorem hostName_cases {cs : List Char} (h : cs ≠ []) :
    '%' ∉ cs ∧ hostName cs = some (Text.lower (String.ofList cs)) ∨
      ∃ host zone, cs = host ++ '%' :: zone ∧ '%' ∉ host ∧
        hostName cs = some (Text.lower (String.ofList host) ++ "%" ++ String.ofList zone) := by
  have hempty : cs.isEmpty = false := List.isEmpty_eq_false_iff.2 h
  rw [hostName, hempty, if_neg Bool.false_ne_true]
  rcases Text.cut_cases '%' cs with ⟨hnone, hcut⟩ | ⟨host, zone, hcs, hnone, hcut⟩
  · exact .inl ⟨hnone, by rw [hcut]⟩
  · exact .inr ⟨host, zone, hcs, hnone, by rw [hcut]⟩

theorem exists_hostName {cs : List Char} (h : cs ≠ []) : ∃ name, hostName cs = some name := by
  rcases hostName_cases h with ⟨-, heq⟩ | ⟨host, zone, -, -, heq⟩
  · exact ⟨_, heq⟩
  · exact ⟨_, heq⟩

theorem ne_nil_of_hostName {cs : List Char} {name : String} (h : hostName cs = some name) :
    cs ≠ [] := by
  rintro rfl
  cases h

section Name

variable {cs : List Char} {name : String} (h : hostName cs = some name)

include h

/-- The name of a host has the marks that the host has. -/
theorem mem_hostName_iff {mark : Char} (caseless : Text.isCaseless mark = true) :
    mark ∈ name.toList ↔ mark ∈ cs := by
  rcases hostName_cases (ne_nil_of_hostName h) with ⟨-, heq⟩ | ⟨host, zone, hcs, -, heq⟩
  · rw [heq] at h
    cases h
    rw [Text.mem_lower_iff caseless, String.toList_ofList]
  · rw [heq] at h
    cases h
    rw [hcs]
    simp [Text.mem_lower_iff caseless]

theorem name_ne_nil : name.toList ≠ [] := by
  have hne := ne_nil_of_hostName h
  rcases hostName_cases hne with ⟨-, heq⟩ | ⟨host, zone, -, -, heq⟩
  · rw [heq] at h
    cases h
    rw [Text.lower, String.toList_ofList, String.toList_ofList]
    exact Text.lowerFrom_ne_nil [] hne
  · rw [heq] at h
    cases h
    simp

/-- A mark comes first in the name of a host only if it does in the host. -/
theorem head?_of_hostName {mark : Char} (caseless : Text.isCaseless mark = true)
    (hhead : name.toList.head? = some mark) : cs.head? = some mark := by
  rcases hostName_cases (ne_nil_of_hostName h) with ⟨-, heq⟩ | ⟨host, zone, hcs, -, heq⟩
  · rw [heq] at h
    cases h
    rw [Text.lower, String.toList_ofList, String.toList_ofList] at hhead
    exact Text.head?_of_lowerFrom caseless hhead
  · rw [heq] at h
    cases h
    rw [hcs]
    cases host with
    | nil => simpa [Text.lower, Text.lowerFrom] using hhead
    | cons c host =>
        have hfirst : (Text.lowerFrom [] (c :: host)).head? = some mark := by
          obtain ⟨d, ds, hds⟩ := List.exists_cons_of_ne_nil
            (Text.lowerFrom_ne_nil [] (List.cons_ne_nil c host))
          simp only [String.toList_append, Text.lower, String.toList_ofList, hds] at hhead ⊢
          simpa using hhead
        simpa using Text.head?_of_lowerFrom caseless hfirst

/-- The name of a host is its own name. -/
theorem hostName_of_hostName : hostName name.toList = some name := by
  have hpercent : Text.isCaseless '%' = true := by decide +kernel
  have hne := name_ne_nil h
  rcases hostName_cases (ne_nil_of_hostName h) with ⟨hnone, heq⟩ | ⟨host, zone, hcs, hnone, heq⟩
  · have hagain : '%' ∉ name.toList := fun hmem => hnone ((mem_hostName_iff h hpercent).1 hmem)
    rcases hostName_cases hne with ⟨-, hname⟩ | ⟨host, zone, hcs, -, -⟩
    · rw [heq] at h
      cases h
      rw [hname, String.ofList_toList, Text.lower_lower]
    · rw [hcs] at hagain
      simp at hagain
  · rw [heq] at h
    cases h
    have hhost : '%' ∉ (Text.lower (String.ofList host)).toList := by
      rw [Text.mem_lower_iff hpercent, String.toList_ofList]
      exact hnone
    have hsplit : (Text.lower (String.ofList host) ++ "%" ++ String.ofList zone).toList =
        (Text.lower (String.ofList host)).toList ++ '%' :: zone := by
      simp
    have hempty : (Text.lower (String.ofList host) ++ "%" ++
        String.ofList zone).toList.isEmpty = false := List.isEmpty_eq_false_iff.2 hne
    rw [hostName, hempty, if_neg Bool.false_ne_true, hsplit, Text.cut_append_mark hhost]
    simp only [String.ofList_toList, Text.lower_lower]

end Name

theorem digit?_toLower {c : Char} (h : (Form.digit? c).isSome = true) :
    c.toNat < 0x80 ∧ (Form.digit? c.toLower).isSome = true := by
  have hall : ∀ n < 0x80, (Form.digit? (Char.ofNat n)).isSome = true →
      (Form.digit? (Char.ofNat n).toLower).isSome = true := by decide +kernel
  have hascii : c.toNat < 0x80 := by
    unfold Form.digit? at h
    simp only [Char.isDigit, Char.le_def, UInt32.le_iff_toNat_le, Bool.and_eq_true,
      decide_eq_true_eq] at h
    split_ifs at h with hten hlower hupper
    · exact Nat.lt_of_le_of_lt hten.2 (by decide)
    · exact Nat.lt_of_le_of_lt hlower.2 (by decide)
    · exact Nat.lt_of_le_of_lt hupper.2 (by decide)
    · cases h
  refine ⟨hascii, ?_⟩
  have hlower := hall c.toNat hascii
  rw [Char.ofNat_toNat] at hlower
  exact hlower h

/-- The name of a host keeps the front of it, in lower case, if that is ASCII. -/
theorem hostName_append_ascii {front cs : List Char} {name : String}
    (h : hostName (front ++ cs) = some name) (hne : cs ≠ [])
    (hascii : ∀ d ∈ front, d.toNat < 0x80) (hpercent : '%' ∉ front) :
    ∃ d ds, name.toList = front.map Char.toLower ++ d :: ds := by
  have hlower (cs : List Char) : (Text.lower (String.ofList (front ++ cs))).toList =
      front.map Char.toLower ++ Text.lowerFrom (front.reverse ++ []) cs := by
    rw [Text.lower, String.toList_ofList, String.toList_ofList, Text.lowerFrom_append_ascii hascii]
  rw [hostName, List.isEmpty_eq_false_iff.2 (by simp [hne]), if_neg Bool.false_ne_true,
    Text.cut_append_of_not_mem hpercent] at h
  rcases Text.cut_cases '%' cs with ⟨-, hcut⟩ | ⟨host, zone, -, -, hcut⟩
  · rw [hcut] at h
    cases h
    obtain ⟨d, ds, hds⟩ := List.exists_cons_of_ne_nil
      (Text.lowerFrom_ne_nil (front.reverse ++ []) hne)
    exact ⟨d, ds, by rw [hlower, hds]⟩
  · rw [hcut] at h
    cases h
    simp only [String.toList_append, hlower]
    cases Text.lowerFrom (front.reverse ++ []) host with
    | nil => exact ⟨'%', zone, by simp⟩
    | cons d ds => exact ⟨d, ds ++ '%' :: zone, by simp⟩

/-- The name of a host that is an address of a version that is yet to come is one too. -/
theorem isFutureAddress_hostName {cs : List Char} {name : String} (h : hostName cs = some name)
    (hfuture : isFutureAddress cs = true) : isFutureAddress name.toList = true := by
  obtain ⟨version, c, rest, rfl, hversion, hdigits⟩ := isFutureAddress_iff.1 hfuture
  -- the address up to its point is ASCII and has no percent sign
  have hfront : ∀ d ∈ 'v' :: (version ++ ['.']), d.toNat < 0x80 ∧ d ≠ '%' := by
    intro d hd
    simp only [List.mem_cons, List.mem_append, List.not_mem_nil, or_false] at hd
    rcases hd with rfl | hd | rfl
    · decide
    · refine ⟨(digit?_toLower (hdigits d hd)).1, ?_⟩
      rintro rfl
      exact absurd (hdigits '%' hd) (by decide)
    · decide
  have hsplit : 'v' :: (version ++ '.' :: c :: rest) =
      ('v' :: (version ++ ['.'])) ++ c :: rest := by
    simp
  rw [hsplit] at h
  obtain ⟨d, ds, hname⟩ := hostName_append_ascii h (List.cons_ne_nil c rest)
    (fun d hd => (hfront d hd).1) fun hd => (hfront '%' hd).2 rfl
  refine isFutureAddress_iff.2 ⟨version.map Char.toLower, d, ds, ?_, by simpa using hversion, ?_⟩
  · rw [hname]
    simp
  · intro e he
    obtain ⟨e', he', rfl⟩ := List.mem_map.1 he
    exact (digit?_toLower (hdigits e' he')).2

end Authority

end SqlRender.Dsn
