import SqlRender.Proofs.Dsn.Authority
import SqlRender.Proofs.Dsn.Login

/-!
# URLs that are written from their parts

What is known of the parts of a URL that was read (`Url.IsRead`), and how a URL is read that is
written from such parts (`Url.ofString_print`). The parts must be told apart again: an authority
stays in its place, and a path behind it is empty or begins with a slash.
-/

namespace SqlRender.Dsn

/-- A character that is not left out when a URL is read. -/
def isKept (c : Char) : Bool :=
  c ≠ '\t' && c ≠ '\r' && c ≠ '\n'

namespace Url

/-! ## Reading in two steps -/

/-- The path as it is read in a scheme. -/
def readPath (scheme : String) (path : List Char) : List Char :=
  if schemesWithParameters.contains scheme then dropParameters path else path

/-- The URL of a scheme, an authority and what follows it. -/
def ofParts (scheme : String) (authority rest : List Char) : Except DsnError Url := do
  checkBrackets authority
  if authority.any deceptiveChars.contains then
    .error (.deceptiveAuthority (String.ofList authority))
  else
    .ok ⟨scheme, authority, readPath scheme (Text.cut '?' (Text.cut '#' rest).1).1,
      (Text.cut '?' (Text.cut '#' rest).1).2.getD []⟩

theorem ofString_eq (s : String) :
    ofString s =
      ofParts (cutScheme (clean s)).1 (cutAuthority (cutScheme (clean s)).2).1
        (cutAuthority (cutScheme (clean s)).2).2 :=
  rfl

theorem ofParts_eq_ok {scheme : String} {authority rest : List Char} {u : Url} :
    ofParts scheme authority rest = .ok u ↔
      checkBrackets authority = .ok () ∧ (∀ d ∈ deceptiveChars, d ∉ authority) ∧
        u = ⟨scheme, authority, readPath scheme (Text.cut '?' (Text.cut '#' rest).1).1,
          (Text.cut '?' (Text.cut '#' rest).1).2.getD []⟩ := by
  have hhonest : authority.any deceptiveChars.contains = false ↔
      ∀ d ∈ deceptiveChars, d ∉ authority := by
    rw [List.any_eq_false]
    constructor
    · intro h d hd hmem
      exact h d hmem (List.contains_iff_mem.2 hd)
    · intro h d hmem hd
      exact h d (List.contains_iff_mem.1 hd) hmem
  rw [← hhonest, ofParts]
  cases checkBrackets authority with
  | error e =>
      constructor
      · intro h
        cases h
      · rintro ⟨h, -⟩
        cases h
  | ok _ =>
      cases authority.any deceptiveChars.contains with
      | true =>
          constructor
          · intro h
            cases h
          · rintro ⟨-, h, -⟩
            cases h
      | false =>
          constructor
          · intro h
            cases h
            exact ⟨rfl, rfl, rfl⟩
          · rintro ⟨-, -, rfl⟩
            rfl

/-! ## Paths -/

theorem dropParameters_cases (path : List Char) :
    ∃ front last, path = front ++ last ∧ (front = [] ∨ ∃ before, front = before ++ ['/']) ∧
      '/' ∉ last ∧ dropParameters path = front ++ (Text.cut ';' last).1 := by
  rcases Text.cutLast_cases '/' path with ⟨hnone, hcut⟩ | ⟨before, last, hpath, hnone, hcut⟩
  · exact ⟨[], path, rfl, .inl rfl, hnone, by rw [dropParameters, hcut, List.nil_append]⟩
  · refine ⟨before ++ ['/'], last, by simp [hpath], .inr ⟨before, rfl⟩, hnone, ?_⟩
    rw [dropParameters, hcut]
    simp

theorem mem_of_mem_dropParameters {path : List Char} {c : Char} (h : c ∈ dropParameters path) :
    c ∈ path := by
  obtain ⟨front, last, hpath, -, -, hdrop⟩ := dropParameters_cases path
  rw [hdrop, List.mem_append] at h
  rw [hpath, List.mem_append]
  exact h.imp_right fun hlast => (Text.mem_of_mem_cut_fst hlast).1

/-- Parameters are dropped once. -/
theorem dropParameters_dropParameters (path : List Char) :
    dropParameters (dropParameters path) = dropParameters path := by
  obtain ⟨front, last, -, hfront, hlast, hdrop⟩ := dropParameters_cases path
  obtain ⟨kept, hkept⟩ : ∃ kept, kept = (Text.cut ';' last).1 := ⟨_, rfl⟩
  have hslash : '/' ∉ kept := fun hmem => hlast (Text.mem_of_mem_cut_fst (hkept ▸ hmem)).1
  have hsemicolon : ';' ∉ kept := fun hmem => (Text.mem_of_mem_cut_fst (hkept ▸ hmem)).2 rfl
  have hcut : Text.cut ';' kept = (kept, none) := Text.cut_of_not_mem hsemicolon
  rw [hdrop, ← hkept]
  rcases hfront with rfl | ⟨before, rfl⟩
  · rw [List.nil_append, dropParameters, Text.cutLast_of_not_mem hslash]
    simp only [hcut]
  · have hsplit : before ++ ['/'] ++ kept = before ++ '/' :: kept := by simp
    rw [hsplit, dropParameters, Text.cutLast_append_mark hslash]
    simp only [hcut]

/-- A path that follows an authority is empty or begins with a slash. -/
def StartsPath (path : List Char) : Prop :=
  path = [] ∨ path.head? = some '/'

theorem startsPath_dropParameters {path : List Char} (h : StartsPath path) :
    StartsPath (dropParameters path) := by
  obtain ⟨front, last, hpath, hfront, hlast, hdrop⟩ := dropParameters_cases path
  rw [hdrop]
  rcases h with rfl | hhead
  · obtain ⟨rfl, rfl⟩ := List.append_eq_nil_iff.1 hpath.symm
    exact .inl rfl
  · rcases hfront with rfl | ⟨before, rfl⟩
    · rw [hpath] at hhead
      exact absurd (List.mem_of_head? hhead) (by simpa using hlast)
    · refine .inr ?_
      rw [hpath] at hhead
      cases before with
      | nil => rfl
      | cons c before => simpa using hhead

theorem readPath_readPath (scheme : String) (path : List Char) :
    readPath scheme (readPath scheme path) = readPath scheme path := by
  unfold readPath
  split_ifs
  · exact dropParameters_dropParameters path
  · rfl

theorem mem_of_mem_readPath {scheme : String} {path : List Char} {c : Char}
    (h : c ∈ readPath scheme path) : c ∈ path := by
  unfold readPath at h
  split_ifs at h
  · exact mem_of_mem_dropParameters h
  · exact h

theorem startsPath_readPath (scheme : String) {path : List Char} (h : StartsPath path) :
    StartsPath (readPath scheme path) := by
  unfold readPath
  split_ifs
  · exact startsPath_dropParameters h
  · exact h

/-! ## URLs that were read -/

/-- What is known of the parts of a URL that was read. -/
structure IsRead (u : Url) : Prop where
  scheme : u.scheme ≠ "" →
    isScheme u.scheme.toList = true ∧ u.scheme.toList.map Char.toLower = u.scheme.toList
  stays : ∀ c ∈ u.authority, staysInAuthority c = true
  kept : ∀ c ∈ u.authority ++ u.path, isKept c = true
  brackets : checkBrackets u.authority = .ok ()
  honest : ∀ d ∈ deceptiveChars, d ∉ u.authority
  /-- The marks that would end the path are not in it. -/
  ends : '?' ∉ u.path ∧ '#' ∉ u.path
  starts : u.authority ≠ [] → StartsPath u.path
  path : readPath u.scheme u.path = u.path

theorem isKept_of_mem_clean {s : String} {c : Char} (h : c ∈ clean s) : isKept c = true :=
  (List.mem_filter.1 h).2

/-- A scheme is cut off as it is read again, in lower case. -/
theorem cutScheme_cases (cs : List Char) :
    cutScheme cs = ("", cs) ∨
      ∃ scheme rest, cs = scheme ++ ':' :: rest ∧ isScheme scheme = true ∧
        cutScheme cs = (String.ofList (scheme.map Char.toLower), rest) := by
  rcases Text.cut_cases ':' cs with ⟨-, hcut⟩ | ⟨scheme, rest, hcs, hcolon, -⟩
  · refine .inl ?_
    rw [cutScheme, hcut]
    cases cs <;> rfl
  · have hread := cutScheme_append_colon hcolon rest
    rw [← hcs] at hread
    cases hscheme : isScheme scheme with
    | false => exact .inl (by rw [hread, hscheme, if_neg Bool.false_ne_true])
    | true => exact .inr ⟨scheme, rest, hcs, hscheme, by rw [hread, hscheme, if_pos rfl]⟩

theorem isScheme_map_toLower {cs : List Char} (h : isScheme cs = true) :
    isScheme (cs.map Char.toLower) = true := by
  rw [isScheme, Bool.and_eq_true, List.all_eq_true] at h
  cases cs with
  | nil => exact absurd h.1 (by decide)
  | cons c cs =>
      have hchar {d : Char} (hd : isSchemeChar d = true) : isSchemeChar d.toLower = true := by
        by_cases hupper : d.isUpper = true
        · have halpha : d.toLower.isAlpha = true := by
            rw [Char.isAlpha_toLower_eq_isAlpha, Char.isAlpha, hupper, Bool.true_or]
          rw [isSchemeChar, Char.isAlphanum, halpha]
          rfl
        · rwa [Char.toLower_eq_of_not_isUpper hupper]
      rw [isScheme, Bool.and_eq_true, List.all_eq_true]
      refine ⟨?_, ?_⟩
      · rw [List.map_cons, List.head?_cons]
        show c.toLower.isAlpha = true
        rw [Char.isAlpha_toLower_eq_isAlpha]
        exact h.1
      · intro d hd
        obtain ⟨e, he, rfl⟩ := List.mem_map.1 hd
        exact hchar (h.2 e he)

/-- What follows an authority ends it. -/
theorem cutAuthority_cases (cs : List Char) :
    cutAuthority cs = ([], cs) ∨
      ∃ rest, cs = '/' :: '/' :: rest ∧
        cutAuthority cs =
          (rest.takeWhile staysInAuthority, rest.dropWhile staysInAuthority) := by
  unfold cutAuthority
  split
  · rename_i rest
    exact .inr ⟨rest, rfl, List.span_eq_takeWhile_dropWhile staysInAuthority rest⟩
  · exact .inl rfl

theorem startsPath_of_ends {rest : List Char}
    (h : ∀ c, rest.head? = some c → staysInAuthority c = false) :
    StartsPath (Text.cut '?' (Text.cut '#' rest).1).1 := by
  cases rest with
  | nil => exact .inl rfl
  | cons c rest =>
      have hc : c = '/' ∨ c = '?' ∨ c = '#' := by
        have hends := h c rfl
        simp only [staysInAuthority, Bool.and_eq_false_iff, decide_eq_false_iff_not,
          not_not] at hends
        tauto
      rcases hc with rfl | rfl | rfl
      · refine .inr ?_
        rw [Text.cut_cons_of_ne (by decide), Text.cut_cons_of_ne (by decide)]
        rfl
      · refine .inl ?_
        rw [Text.cut_cons_of_ne (by decide)]
        rfl
      · exact .inl rfl

theorem isRead_of_ofString {s : String} {u : Url} (h : ofString s = .ok u) : u.IsRead := by
  rw [ofString_eq, ofParts_eq_ok] at h
  obtain ⟨hbrackets, hhonest, rfl⟩ := h
  have hscheme : ((cutScheme (clean s)).1 ≠ "" →
      isScheme (cutScheme (clean s)).1.toList = true ∧
        (cutScheme (clean s)).1.toList.map Char.toLower = (cutScheme (clean s)).1.toList) ∧
      ∀ c ∈ (cutScheme (clean s)).2, isKept c = true := by
    rcases cutScheme_cases (clean s) with hcut | ⟨scheme, rest, hcs, hscheme, hcut⟩
    · rw [hcut]
      exact ⟨fun hne => absurd rfl hne, fun c => isKept_of_mem_clean⟩
    · rw [hcut]
      refine ⟨fun _ => ?_, fun c hc => isKept_of_mem_clean (s := s) ?_⟩
      · rw [String.toList_ofList]
        refine ⟨isScheme_map_toLower hscheme, ?_⟩
        rw [List.map_map]
        exact List.map_congr_left fun c _ => Char.toLower_toLower_eq_toLower c
      · rw [hcs]
        exact List.mem_append_right _ (List.mem_cons_of_mem _ hc)
  generalize (cutScheme (clean s)).1 = scheme at *
  generalize (cutScheme (clean s)).2 = rest at *
  have hpath {c : Char} {tail : List Char}
      (hc : c ∈ readPath scheme (Text.cut '?' (Text.cut '#' tail).1).1) :
      c ∈ tail ∧ c ≠ '?' ∧ c ≠ '#' := by
    obtain ⟨hc, hquery⟩ := Text.mem_of_mem_cut_fst (mem_of_mem_readPath hc)
    obtain ⟨hc, hfragment⟩ := Text.mem_of_mem_cut_fst hc
    exact ⟨hc, hquery, hfragment⟩
  have hmem {c : Char} (hc : c ∈ (cutAuthority rest).1 ∨ c ∈ (cutAuthority rest).2) : c ∈ rest := by
    rcases cutAuthority_cases rest with hcut | ⟨tail, hrest, hcut⟩
    · rw [hcut] at hc
      simpa using hc
    · rw [hcut, ← List.mem_append, List.takeWhile_append_dropWhile] at hc
      rw [hrest]
      exact List.mem_cons_of_mem _ (List.mem_cons_of_mem _ hc)
  refine ⟨hscheme.1, ?_, ?_, hbrackets, hhonest, ?_, ?_, readPath_readPath _ _⟩
  · intro c hc
    rcases cutAuthority_cases rest with hcut | ⟨tail, -, hcut⟩
    · rw [hcut] at hc
      cases hc
    · rw [hcut] at hc
      exact List.mem_takeWhile_imp hc
  · intro c hc
    rw [List.mem_append] at hc
    exact hscheme.2 c (hmem (hc.imp_right fun hc => (hpath hc).1))
  · exact ⟨fun hc => (hpath hc).2.1 rfl, fun hc => (hpath hc).2.2 rfl⟩
  · intro hne
    rcases cutAuthority_cases rest with hcut | ⟨tail, -, hcut⟩
    · rw [hcut] at hne
      exact absurd rfl hne
    · rw [hcut]
      refine startsPath_readPath scheme (startsPath_of_ends fun c hc => ?_)
      have hends := List.head?_dropWhile_not staysInAuthority tail
      rw [hc] at hends
      exact hends

/-! ## URLs that are written -/

theorem isKept_of_isSchemeChar {c : Char} (h : isSchemeChar c = true) : isKept c = true := by
  have hne {d : Char} (hd : isSchemeChar d = false) : c ≠ d := by
    rintro rfl
    rw [h] at hd
    cases hd
  simp [isKept, hne (show isSchemeChar '\t' = false by decide),
    hne (show isSchemeChar '\r' = false by decide), hne (show isSchemeChar '\n' = false by decide)]

/-- A scheme begins with a letter and goes on with its characters. -/
theorem isScheme_cons {cs : List Char} (h : isScheme cs = true) :
    ∃ c rest, cs = c :: rest ∧ c.isAlpha = true ∧ ∀ d ∈ cs, isSchemeChar d = true := by
  rw [isScheme, Bool.and_eq_true, List.all_eq_true] at h
  cases cs with
  | nil => exact absurd h.1 (by decide)
  | cons c rest =>
      have hfirst : c.isAlpha = true := h.1
      refine ⟨c, rest, rfl, hfirst, fun d hd => ?_⟩
      rcases List.mem_cons.1 hd with rfl | hd
      · rw [isSchemeChar, Char.isAlphanum, hfirst]
        rfl
      · exact h.2 d hd

/-- What begins with a letter and has nothing that is left out is read as it is. -/
theorem clean_of_isKept {c : Char} {cs : List Char} (hfirst : c.isAlpha = true)
    (h : ∀ d ∈ c :: cs, isKept d = true) : clean (String.ofList (c :: cs)) = c :: cs := by
  have hvisible : ¬ c.toNat ≤ 0x20 := by
    intro hle
    have hall : ∀ n ≤ 0x20, (Char.ofNat n).isAlpha = false := by decide
    have hnone := hall c.toNat hle
    rw [Char.ofNat_toNat, hfirst] at hnone
    cases hnone
  rw [clean, String.toList_ofList, List.dropWhile_cons_of_neg (by simpa using hvisible)]
  exact List.filter_eq_self.2 h

/-- A URL that is written with a scheme and two slashes has an authority. -/
theorem ofString_of_slashes {scheme : String} {rest : List Char}
    (hscheme : isScheme scheme.toList = true)
    (hlower : scheme.toList.map Char.toLower = scheme.toList)
    (hkept : ∀ c ∈ rest, isKept c = true) :
    ofString (String.ofList (scheme.toList ++ ':' :: '/' :: '/' :: rest)) =
      ofParts scheme (rest.takeWhile staysInAuthority) (rest.dropWhile staysInAuthority) := by
  obtain ⟨c, cs, hcs, hfirst, hchars⟩ := isScheme_cons hscheme
  have hcolon : ':' ∉ scheme.toList := fun hmem => absurd (hchars ':' hmem) (by decide)
  have hall : ∀ d ∈ scheme.toList ++ ':' :: '/' :: '/' :: rest, isKept d = true := by
    intro d hd
    simp only [List.mem_append, List.mem_cons] at hd
    rcases hd with hd | rfl | rfl | rfl | hd
    · exact isKept_of_isSchemeChar (hchars d hd)
    · decide
    · decide
    · decide
    · exact hkept d hd
  have hclean : clean (String.ofList (scheme.toList ++ ':' :: '/' :: '/' :: rest)) =
      scheme.toList ++ ':' :: '/' :: '/' :: rest := by
    rw [hcs] at hall ⊢
    exact clean_of_isKept hfirst hall
  rw [ofString_eq, hclean, cutScheme_append_colon hcolon, hscheme, if_pos rfl, hlower,
    String.ofList_toList]
  have hslashes := Login.cutAuthority_slashes rest
  rw [hslashes]

/-- What is written behind the path: nothing, or a query. -/
def queryText : Option (List Char) → List Char
  | none => []
  | some query => '?' :: query

/-- An authority ends where a path begins that follows it. -/
theorem span_authority {authority path : List Char}
    (hstays : ∀ c ∈ authority, staysInAuthority c = true) (hstarts : StartsPath path)
    (query : Option (List Char)) :
    (authority ++ (path ++ queryText query)).takeWhile staysInAuthority = authority ∧
      (authority ++ (path ++ queryText query)).dropWhile staysInAuthority =
        path ++ queryText query := by
  have hbehind : (path ++ queryText query).takeWhile staysInAuthority = [] ∧
      (path ++ queryText query).dropWhile staysInAuthority = path ++ queryText query := by
    rcases hstarts with rfl | hhead
    · cases query with
      | none => exact ⟨rfl, rfl⟩
      | some query => exact ⟨rfl, rfl⟩
    · cases path with
      | nil => cases hhead
      | cons c path =>
          cases hhead
          exact ⟨rfl, rfl⟩
  rw [List.takeWhile_append_of_pos hstays, List.dropWhile_append_of_pos hstays, hbehind.1,
    hbehind.2, List.append_nil]
  exact ⟨rfl, rfl⟩

/-- **URLs.** A URL that is written from parts of one that was read is read with these parts, if its
authority is as it should be and its path begins with a slash. -/
theorem ofString_print {scheme : String} {authority path : List Char} {query : Option (List Char)}
    (hscheme : isScheme scheme.toList = true)
    (hlower : scheme.toList.map Char.toLower = scheme.toList)
    (hkept : ∀ c ∈ authority ++ (path ++ queryText query), isKept c = true)
    (hstays : ∀ c ∈ authority, staysInAuthority c = true)
    (hstarts : StartsPath path) (hends : '?' ∉ path ∧ '#' ∉ path)
    (hquery : '#' ∉ queryText query) (hpath : readPath scheme path = path)
    (hbrackets : checkBrackets authority = .ok ())
    (hhonest : ∀ d ∈ deceptiveChars, d ∉ authority) :
    ofString (String.ofList
        (scheme.toList ++ ':' :: '/' :: '/' :: (authority ++ (path ++ queryText query)))) =
      .ok ⟨scheme, authority, path, query.getD []⟩ := by
  have hcut : Text.cut '?' (Text.cut '#' (path ++ queryText query)).1 = (path, query) := by
    have hfragment : '#' ∉ path ++ queryText query := by
      simp [hends.2, hquery]
    rw [Text.cut_of_not_mem hfragment]
    cases query with
    | none => rw [queryText, List.append_nil, Text.cut_of_not_mem hends.1]
    | some query => exact Text.cut_append_mark hends.1 query
  obtain ⟨hplace, hbehind⟩ := span_authority hstays hstarts query
  rw [ofString_of_slashes hscheme hlower hkept, hplace, hbehind, ofParts_eq_ok]
  exact ⟨hbrackets, hhonest, by rw [hcut, hpath]⟩

end Url

end SqlRender.Dsn
