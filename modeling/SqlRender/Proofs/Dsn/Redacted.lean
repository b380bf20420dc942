import SqlRender.Proofs.Dsn.Form
import SqlRender.Proofs.Dsn.ShownAuthority
import SqlRender.Proofs.Dsn.Url

/-!
# Connection strings without secrets that are read again

A connection string is shown without its secrets so that it can still be told where it leads. What
is shown can be read again, and says the same with a mask for the secrets, if it keeps apart what
was apart in the original (`Config.Readable`). It does not where the brackets around an address are
needed, where a bracket has lost its other half, where the port is zero, where the user has an empty
name, and where the path does not begin with a slash. `Config.parse_redacted` says that these are
all the cases, and that in each of them what is read is not what was shown.
-/

namespace SqlRender.Dsn

open Redaction (mask)

namespace Config

/-- Who connects and where to. -/
def authority (c : Config) : Authority :=
  ⟨c.username, c.password, c.host, c.port.map Int.toNat⟩

/-- The connection string with masks for the password and the telling options. -/
def masked (c : Config) : Config :=
  { c with
    password := (given c.password).map fun _ => mask
    options := Redaction.redactOptions c.options }

/-- Whether a connection string says the same when it is read as it is shown. -/
structure Readable (c : Config) : Prop where
  authority : c.authority.Readable
  /-- What follows the two slashes is an authority up to the first slash. -/
  path : Url.StartsPath c.path.toList

/-- What a URL and its authority say. -/
def ofUrl (url : Url) (a : Authority) : Config where
  scheme := url.scheme
  username := a.username
  password := a.password
  host := a.host
  port := a.port.map Int.ofNat
  database := given (some (String.ofList (url.path.dropWhile (· = '/'))))
  path := String.ofList url.path
  options := Form.decode url.query

theorem parse_eq_ok {dsn : String} {c : Config} :
    parse dsn = .ok c ↔
      ∃ url a, Url.ofString dsn = .ok url ∧ url.scheme ≠ "" ∧
        Authority.ofChars url.authority = .ok a ∧ c = ofUrl url a := by
  rw [parse]
  cases Url.ofString dsn with
  | error e =>
      constructor
      · intro h
        cases h
      · rintro ⟨url, a, h, -⟩
        cases h
  | ok url =>
      by_cases hscheme : url.scheme = ""
      · constructor
        · intro h
          simp [hscheme, bind, Except.bind, throw, throwThe, MonadExceptOf.throw] at h
        · rintro ⟨url', a, h, hne, -⟩
          cases h
          exact absurd hscheme hne
      · have hempty : url.scheme.isEmpty = false := by simpa using hscheme
        cases hauthority : Authority.ofChars url.authority with
        | error e =>
            constructor
            · intro h
              simp [hempty, hauthority, bind, Except.bind] at h
            · rintro ⟨url', a, h, -, ha, -⟩
              cases h
              rw [hauthority] at ha
              cases ha
        | ok a =>
            constructor
            · intro h
              refine ⟨url, a, rfl, hscheme, hauthority, ?_⟩
              simpa [hempty, hauthority, bind, Except.bind, pure, Except.pure, ofUrl, eq_comm]
                using h
            · rintro ⟨url', a', h, -, ha, rfl⟩
              cases h
              rw [hauthority] at ha
              cases ha
              simp [hempty, hauthority, bind, Except.bind, pure, Except.pure, ofUrl]

section Shown

variable (url : Url) (a : Authority)

theorem authority_ofUrl : (ofUrl url a).authority = a := by
  have hport : (a.port.map Int.ofNat).map Int.toNat = a.port := by
    cases a.port with
    | none => rfl
    | some n => rfl
  rw [authority, ofUrl, hport]

/-- The query that is shown, if there are options. -/
def shownQuery (c : Config) : Option (List Char) :=
  if c.options.isEmpty then none
  else some (Form.encode (Redaction.redactOptions c.options)).toList

theorem toList_redactedUser :
    (ofUrl url a).redactedUser.toList = (a.userText.map (· ++ ['@'])).getD [] := by
  rw [redactedUser, ofUrl, Authority.userText]
  cases given a.username with
  | none => rfl
  | some user =>
      cases given a.password with
      | none => simp
      | some password => simp [mask]

/-- The connection string as it is shown, part by part. -/
theorem redacted_ofUrl :
    (ofUrl url a).redacted =
      String.ofList (url.scheme.toList ++ ':' :: '/' :: '/' ::
        (a.text ++ (url.path ++ Url.queryText (ofUrl url a).shownQuery))) := by
  have hquery : (if (ofUrl url a).options.isEmpty then ""
      else "?" ++ Form.encode (Redaction.redactOptions (ofUrl url a).options)).toList =
      Url.queryText (ofUrl url a).shownQuery := by
    rw [shownQuery]
    split_ifs
    · rfl
    · simp [Url.queryText]
  rw [← String.toList_inj, redacted, String.toList_ofList, String.toList_append, hquery]
  simp only [String.toList_append, toList_redactedUser, Authority.text, Authority.placeText]
  cases hport : a.port with
  | none => simp [ofUrl, hport, Authority.portText]
  | some n =>
      have hnumber : (toString (Int.ofNat n)).toList = Nat.toDigits 10 n := Nat.toList_repr
      by_cases hzero : n = 0
      · simp [ofUrl, hport, hzero, Authority.portText]
      · simpa [ofUrl, hport, hzero, Authority.portText] using hnumber

end Shown

/-! ## Options -/

theorem isProper_redactOptions {options : List (String × String)} (h : Form.IsProper options) :
    Form.IsProper (Redaction.redactOptions options) := by
  refine ⟨?_, fun f hf => ?_⟩
  · rw [Redaction.redactOptions, Redaction.maskTelling, List.map_map]
    exact h.distinct
  · obtain ⟨o, ho, rfl⟩ := List.mem_map.1 hf
    dsimp only
    split_ifs
    · decide
    · exact h.nonempty o ho

/-- The options are read as they are shown. -/
theorem decode_shownQuery {c : Config} (h : Form.IsProper c.options) :
    Form.decode (c.shownQuery.getD []) = Redaction.redactOptions c.options := by
  rw [shownQuery]
  by_cases hnone : c.options.isEmpty = true
  · rw [if_pos hnone, List.isEmpty_iff.1 hnone]
    rfl
  · rw [if_neg hnone]
    exact Form.decode_encode (isProper_redactOptions h)

theorem not_mem_queryText {d : Char} (h : Form.isWritten d = false) (hequals : d ≠ '=')
    (hand : d ≠ '&') (hquestion : d ≠ '?') (c : Config) : d ∉ Url.queryText c.shownQuery := by
  rw [shownQuery]
  split_ifs
  · exact List.not_mem_nil
  · rw [Url.queryText, List.mem_cons, not_or]
    exact ⟨hquestion, Form.not_mem_encode h hequals hand _⟩

/-! ## Reading what is shown -/

section Read

variable {url : Url} {a : Authority} (read : url.IsRead)
  (parts : Authority.ofChars url.authority = .ok a)

include read parts

/-- Nothing in what is shown is left out when it is read. -/
theorem isKept_shown :
    ∀ d ∈ a.text ++ (url.path ++ Url.queryText (ofUrl url a).shownQuery), isKept d = true := by
  intro d hd
  by_contra hlost
  have hd' : d = '\t' ∨ d = '\r' ∨ d = '\n' := by
    simp only [isKept, Bool.and_eq_true, decide_eq_true_eq, not_and_or, not_not] at hlost
    tauto
  have hmark : Authority.isMark d = true ∧ d ≠ '@' ∧ Form.isWritten d = false ∧ d ≠ '=' ∧
      d ≠ '&' ∧ d ≠ '?' := by
    rcases hd' with rfl | rfl | rfl
    · exact ⟨Authority.isMark_of_mem (by simp [Authority.marks]), by decide⟩
    · exact ⟨Authority.isMark_of_mem (by simp [Authority.marks]), by decide⟩
    · exact ⟨Authority.isMark_of_mem (by simp [Authority.marks]), by decide⟩
  obtain ⟨hmark, hat, hplain, hequals, hand, hquestion⟩ := hmark
  rw [List.mem_append, List.mem_append] at hd
  rcases hd with hd | hd | hd
  · have hmem := Authority.mem_of_mem_text parts hmark hat hd
    exact hlost (read.kept d (List.mem_append_left _ hmem))
  · exact hlost (read.kept d (List.mem_append_right _ hd))
  · exact not_mem_queryText hplain hequals hand hquestion _ hd

theorem stays_text : ∀ d ∈ a.text, staysInAuthority d = true := by
  intro d hd
  by_contra hends
  have hd' : d = '/' ∨ d = '?' ∨ d = '#' := by
    simp only [staysInAuthority, Bool.and_eq_true, decide_eq_true_eq, not_and_or,
      not_not] at hends
    tauto
  have hmark : Authority.isMark d = true ∧ d ≠ '@' := by
    rcases hd' with rfl | rfl | rfl
    · exact ⟨Authority.isMark_of_mem (by simp [Authority.marks]), by decide⟩
    · exact ⟨Authority.isMark_of_mem (by simp [Authority.marks]), by decide⟩
    · exact ⟨Authority.isMark_of_mem (by simp [Authority.marks]), by decide⟩
  exact hends (read.stays d (Authority.mem_of_mem_text parts hmark.1 hmark.2 hd))

theorem honest_text : ∀ d ∈ Url.deceptiveChars, d ∉ a.text := by
  intro d hd hmem
  have hat : d ≠ '@' := by
    rintro rfl
    exact absurd hd (by decide)
  exact read.honest d hd (Authority.mem_of_mem_text parts
    (Authority.isMark_of_mem (List.mem_append_right _ hd)) hat hmem)

variable (named : url.scheme ≠ "")

include named

theorem parse_redacted_ofUrl (readable : (ofUrl url a).Readable) :
    parse (ofUrl url a).redacted = .ok (ofUrl url a).masked := by
  have hauthority : a.Readable := authority_ofUrl url a ▸ readable.authority
  have hstarts : Url.StartsPath url.path := by
    simpa only [ofUrl, String.toList_ofList] using readable.path
  obtain ⟨hscheme, hlower⟩ := read.scheme named
  have hfragment : '#' ∉ Url.queryText (ofUrl url a).shownQuery :=
    not_mem_queryText (by decide) (by decide) (by decide) (by decide) _
  have hbrackets := Authority.checkBrackets_text parts read.brackets hauthority
  have hurl := Url.ofString_print hscheme hlower (isKept_shown read parts) (stays_text read parts)
    hstarts read.ends hfragment read.path hbrackets (honest_text read parts)
  rw [redacted_ofUrl, parse_eq_ok]
  refine ⟨_, a.masked, hurl, named, Authority.ofChars_text parts hauthority, ?_⟩
  have hoptions : Form.decode ((ofUrl url a).shownQuery.getD []) =
      Redaction.redactOptions (ofUrl url a).options :=
    decode_shownQuery (Form.isProper_decode url.query)
  simp only [masked, ← hoptions]
  rfl

theorem readable_of_parse_redacted {c : Config} (h : parse (ofUrl url a).redacted = .ok c)
    (huser : c.username = (ofUrl url a).username) (hhost : c.host = (ofUrl url a).host)
    (hport : c.port = (ofUrl url a).port) (hpath : c.path = (ofUrl url a).path) :
    (ofUrl url a).Readable := by
  obtain ⟨hscheme, hlower⟩ := read.scheme named
  obtain ⟨shown, b, hshown, -, hb, rfl⟩ := parse_eq_ok.1 h
  have hsamePath : shown.path = url.path := String.ofList_injective hpath
  have hsamePort : b.port = a.port := by
    have hnat := congrArg (Option.map Int.toNat) hport
    have hconfigs : (ofUrl shown b).authority.port = (ofUrl url a).authority.port := hnat
    rwa [authority_ofUrl, authority_ofUrl] at hconfigs
  have hparts := hshown
  rw [redacted_ofUrl, Url.ofString_of_slashes hscheme hlower (isKept_shown read parts),
    Url.ofParts_eq_ok] at hparts
  obtain ⟨hbrackets, -, hshape⟩ := hparts
  have hstarts : Url.StartsPath url.path := by
    by_contra hrelative
    -- a path without a slash in front of it is read as an authority
    have hempty : a.text = [] := by
      have hnone : url.authority = [] := by
        by_contra hne
        exact hrelative (read.starts hne)
      rw [hnone] at parts
      cases parts
      rfl
    obtain ⟨d, path, hcons⟩ := List.exists_cons_of_ne_nil fun hnil => hrelative (.inl hnil)
    have hstays : staysInAuthority d = true := by
      have hslash : d ≠ '/' := fun heq => hrelative (.inr (by rw [hcons, heq]; rfl))
      have hends := read.ends
      rw [hcons, List.mem_cons, List.mem_cons, not_or, not_or] at hends
      simp [staysInAuthority, hslash, Ne.symm hends.1.1, Ne.symm hends.2.1]
    have hne : shown.authority ≠ [] := by
      rw [hshape, hempty, hcons]
      simp [hstays]
    exact hrelative (hsamePath ▸ (Url.isRead_of_ofString hshown).starts hne)
  obtain ⟨hplace, -⟩ := Url.span_authority (stays_text read parts) hstarts (ofUrl url a).shownQuery
  have hauthority : shown.authority = a.text := by rw [hshape, hplace]
  rw [hplace] at hbrackets
  rw [hauthority] at hb
  refine ⟨?_, ?_⟩
  · rw [authority_ofUrl]
    exact Authority.readable_of_text parts read.brackets hbrackets hb huser hhost hsamePort
  · rw [ofUrl, String.toList_ofList]
    exact hstarts

end Read

/-- **Connection strings that are shown.** What is shown of a readable connection string is read as
the connection string with masks for its secrets. If what is shown of a connection string is read
with the user, the host, the port and the path of the connection string, then it is readable. -/
theorem parse_redacted {dsn : String} {c : Config} (h : parse dsn = .ok c) :
    (c.Readable → parse c.redacted = .ok c.masked) ∧
      ∀ c', parse c.redacted = .ok c' → c'.username = c.username → c'.host = c.host →
        c'.port = c.port → c'.path = c.path → c.Readable := by
  obtain ⟨url, a, hurl, named, parts, rfl⟩ := parse_eq_ok.1 h
  have hread := Url.isRead_of_ofString hurl
  refine ⟨parse_redacted_ofUrl hread parts named, fun c' hc' huser hhost hport hpath => ?_⟩
  exact readable_of_parse_redacted hread parts named hc' huser hhost hport hpath

theorem parse_redacted_login :
    (∃ c, parse "mysql://root:pw@db:3306/shop?token=1" = .ok c ∧ c.port = some 3306 ∧
      parse c.redacted = .ok c.masked ∧ c.masked.password = some "***" ∧
      c.masked.options = [("token", "***")]) ∧
    ∃ c, parse "mysql://[::1]/db" = .ok c ∧ ¬ c.Readable := by
  constructor
  · obtain ⟨c, hc⟩ : ∃ c : Config, c = ⟨"mysql", some "root", some "pw", some "db", some 3306,
      some "shop", "/shop", [("token", "1")]⟩ := ⟨_, rfl⟩
    have hparse : parse "mysql://root:pw@db:3306/shop?token=1" = .ok c := by
      rw [hc]
      decide +kernel
    have hreadable : c.Readable := by
      rw [hc]
      exact ⟨⟨by decide, by decide, by decide, by decide⟩, .inr rfl⟩
    refine ⟨c, hparse, by rw [hc], (parse_redacted hparse).1 hreadable, ?_, ?_⟩
    · rw [hc]
      rfl
    · rw [hc]
      decide +kernel
  · refine ⟨⟨"mysql", none, none, some "::1", none, some "db", "/db", []⟩, by decide +kernel, ?_⟩
    exact fun hreadable => absurd hreadable.authority.host.1 (by decide)

end Config

end SqlRender.Dsn
