import Mathlib.Data.List.TakeDrop
import SqlRender.Dsn.Config
import SqlRender.Proofs.Text.Cut
import SqlRender.Proofs.Text.Shown

/-!
# Passwords in connection strings

What reading a connection string makes of the password in it. The string is given in the parts
around the password, so that the same string can be read with one password and with another. The
main statement is `Login.agree_parse`: what is read differs only in the password, or in a path that
no choice depends on, and where reading fails, it fails for the same reason. Two of the errors quote
the part of the string that has the password.
-/

namespace SqlRender.Dsn

open Text (isAlphanumeric)

/-- Whether a character does not end the authority. -/
def staysInAuthority (c : Char) : Bool :=
  c ≠ '/' && c ≠ '?' && c ≠ '#'

/-- A password of letters and digits. -/
@[ext]
structure Password where
  chars : List Char
  nonempty : chars ≠ []
  alphanumeric : ∀ c ∈ chars, isAlphanumeric c = true

/-- A connection string that has a user and leaves a place for the password. -/
structure Login where
  /-- The text up to the password, as it is written. -/
  front : List Char
  /-- The text after the at sign. -/
  back : List Char
  /-- What stands before the two slashes. -/
  lead : List Char
  user : List Char
  clean_front : Url.clean (String.ofList front) = lead ++ '/' :: '/' :: (user ++ [':'])
  lead_stays : ∀ c ∈ lead, staysInAuthority c = true
  user_stays : ∀ c ∈ user, staysInAuthority c = true
  user_one : ':' ∉ user
  host_none : '@' ∉ back.takeWhile staysInAuthority

/-- Whether the text of an error quotes the part of the connection string that has the password. -/
def DsnError.quotesLogin : DsnError → Bool
  | .noScheme _ | .deceptiveAuthority _ => true
  | _ => false

namespace Password

variable (p : Password)

theorem ne_mark {mark : Char} (hmark : isAlphanumeric mark = false) : mark ∉ p.chars :=
  fun h => Text.ne_of_isAlphanumeric (p.alphanumeric mark h) hmark rfl

theorem staysInAuthority {c : Char} (h : c ∈ p.chars) : staysInAuthority c = true := by
  have hne (d : Char) (hd : isAlphanumeric d = false) : c ≠ d :=
    Text.ne_of_isAlphanumeric (p.alphanumeric c h) hd
  simp [Dsn.staysInAuthority, hne '/' (by decide), hne '?' (by decide), hne '#' (by decide)]

end Password

namespace Login

variable (l : Login) (p q : Password)

/-- The connection string with a password. -/
def dsn : String :=
  String.ofList (l.front ++ (p.chars ++ '@' :: l.back))

/-- What follows the at sign, as it is read. -/
def rest : List Char :=
  l.back.filter fun c => c ≠ '\t' && c ≠ '\r' && c ≠ '\n'

/-- The host and the port. -/
def place : List Char :=
  l.rest.takeWhile staysInAuthority

/-- The authority with a password. -/
def authority : List Char :=
  l.user ++ ':' :: (p.chars ++ '@' :: l.place)

/-! ## Cutting the text -/

theorem at_not_mem_place : '@' ∉ l.place := by
  have hstays : (fun c : Char => !(decide (c ≠ '\t') && decide (c ≠ '\r') && decide (c ≠ '\n')) ||
      staysInAuthority c) = staysInAuthority := by
    funext c
    by_cases hkept : c = '\t' ∨ c = '\r' ∨ c = '\n'
    · rcases hkept with rfl | rfl | rfl <;> rfl
    · rw [not_or, not_or] at hkept
      simp [hkept]
  rw [place, rest, List.takeWhile_filter, hstays]
  exact fun h => l.host_none (List.mem_filter.1 h).1

theorem clean_dsn :
    Url.clean (l.dsn p) =
      l.lead ++ '/' :: '/' :: (l.user ++ ':' :: (p.chars ++ '@' :: l.rest)) := by
  have hfront := l.clean_front
  rw [Url.clean, String.toList_ofList] at hfront
  have hbegun : (l.front.dropWhile fun c => decide (c.toNat ≤ 0x20)).isEmpty = false := by
    rw [List.isEmpty_eq_false_iff]
    intro hnil
    rw [hnil] at hfront
    simp at hfront
  have hpassword : p.chars.filter (fun c => c ≠ '\t' && c ≠ '\r' && c ≠ '\n') = p.chars := by
    refine List.filter_eq_self.2 fun c hc => ?_
    have hne (d : Char) (hd : isAlphanumeric d = false) : c ≠ d :=
      Text.ne_of_isAlphanumeric (p.alphanumeric c hc) hd
    simp [hne '\t' (by decide), hne '\r' (by decide), hne '\n' (by decide)]
  rw [dsn, Url.clean, String.toList_ofList, List.dropWhile_append, if_neg (by simp [hbegun]),
    List.filter_append, hfront, List.filter_append, hpassword, List.filter_cons_of_pos (by decide)]
  simp [rest]

end Login

namespace Url

/-- Whether a text may be a scheme. -/
def isScheme (cs : List Char) : Bool :=
  cs.head?.any Char.isAlpha && cs.tail.all isSchemeChar

theorem cutScheme_append_colon {cs : List Char} (h : ':' ∉ cs) (rest : List Char) :
    cutScheme (cs ++ ':' :: rest) =
      if isScheme cs then (String.ofList (cs.map Char.toLower), rest)
      else ("", cs ++ ':' :: rest) := by
  rw [cutScheme, Text.cut_append_mark h]
  cases cs <;> rfl

/-- There is no slash in a scheme. -/
theorem not_isScheme_of_slash {cs : List Char} (h : '/' ∈ cs) : isScheme cs = false := by
  rw [← Bool.not_eq_true, isScheme, Bool.and_eq_true, List.all_eq_true]
  rintro ⟨hhead, htail⟩
  cases cs with
  | nil => cases h
  | cons c cs =>
      rcases List.mem_cons.1 h with rfl | htailMem
      · exact absurd (show Char.isAlpha '/' = true from hhead) (by decide)
      · exact absurd (htail '/' htailMem) (by decide)

end Url

namespace Login

variable (l : Login)

/-- The scheme and what stands between its colon and the slashes do not depend on the password. -/
theorem exists_cutScheme :
    ∃ scheme lead, (∀ c ∈ lead, staysInAuthority c = true) ∧ ∀ p : Password,
      Url.cutScheme (Url.clean (l.dsn p)) =
        (scheme, lead ++ '/' :: '/' :: (l.user ++ ':' :: (p.chars ++ '@' :: l.rest))) := by
  have hstays := l.lead_stays
  by_cases hcolon : ':' ∈ l.lead
  · obtain ⟨before, after, hlead, hfirst⟩ := List.eq_append_cons_of_mem hcolon
    cases hscheme : Url.isScheme before with
    | false =>
        refine ⟨"", l.lead, hstays, fun p => ?_⟩
        rw [l.clean_dsn, hlead, List.append_assoc, List.cons_append,
          Url.cutScheme_append_colon hfirst, hscheme]
        rfl
    | true =>
        refine ⟨String.ofList (before.map Char.toLower), after, fun c hc => hstays c ?_,
          fun p => ?_⟩
        · rw [hlead]
          exact List.mem_append_right _ (List.mem_cons_of_mem _ hc)
        · rw [l.clean_dsn, hlead, List.append_assoc, List.cons_append,
            Url.cutScheme_append_colon hfirst, hscheme]
          rfl
  · -- the first colon is the one before the password, and there are slashes before it
    refine ⟨"", l.lead, hstays, fun p => ?_⟩
    have hfirst : ':' ∉ l.lead ++ '/' :: '/' :: l.user := by
      simp [hcolon, l.user_one]
    have hslash : '/' ∈ l.lead ++ '/' :: '/' :: l.user := by
      simp
    have hsplit : l.lead ++ '/' :: '/' :: (l.user ++ ':' :: (p.chars ++ '@' :: l.rest)) =
        (l.lead ++ '/' :: '/' :: l.user) ++ ':' :: (p.chars ++ '@' :: l.rest) := by
      simp
    rw [l.clean_dsn, hsplit, Url.cutScheme_append_colon hfirst, Url.not_isScheme_of_slash hslash]
    rfl

/-! ## Reading with two passwords -/

variable (p q : Password)

/-- Errors that reading stops with under two passwords. -/
inductive Faults : DsnError → DsnError → Prop
  | same {e : DsnError} (unquoted : e.quotesLogin = false) : Faults e e
  | noScheme : Faults (.noScheme (l.dsn p)) (.noScheme (l.dsn q))
  | deceptiveAuthority :
    Faults (.deceptiveAuthority (String.ofList (l.authority p)))
      (.deceptiveAuthority (String.ofList (l.authority q)))

/-- Two results, or two errors that reading stops with. -/
def Agree {α : Type} (R : α → α → Prop) : Except DsnError α → Except DsnError α → Prop
  | .ok a, .ok b => R a b
  | .error e, .error f => l.Faults p q e f
  | _, _ => False

/-- URLs that differ in the password, which is in the authority if there is one, and else in the
path. -/
structure AlikeUrls (u v : Url) : Prop where
  scheme : u.scheme = v.scheme
  authority : u.authority = l.authority p ∧ v.authority = l.authority q ∨
    u.authority = v.authority
  query : u.query = v.query

/-- What is known of a connection string but for its password and its path. -/
structure AlikeConfigs (c d : Config) : Prop where
  scheme : c.scheme = d.scheme
  options : c.options = d.options

variable {l p q}

theorem Agree.refl_of_unquoted {α : Type} {x : Except DsnError α}
    (h : ∀ e, x = .error e → e.quotesLogin = false) : l.Agree p q (fun _ _ => True) x x := by
  cases x with
  | ok a => trivial
  | error e => exact .same (h e rfl)

theorem Agree.bind {α β : Type} {R : α → α → Prop} {S : β → β → Prop} {x y : Except DsnError α}
    {f g : α → Except DsnError β} (h : l.Agree p q R x y)
    (hnext : ∀ a b, R a b → l.Agree p q S (f a) (g b)) :
    l.Agree p q S (x >>= f) (y >>= g) := by
  cases x with
  | ok a =>
      cases y with
      | ok b => exact hnext a b h
      | error e => cases h
  | error e =>
      cases y with
      | ok b => cases h
      | error f => exact h

end Login

/-! ## Reading the authority -/

theorem unquoted_of_checkAddress {host : List Char} {e : DsnError}
    (h : Url.checkAddress host = .error e) : e.quotesLogin = false := by
  unfold Url.checkAddress at h
  split_ifs at h <;> cases h <;> rfl

theorem unquoted_of_checkBrackets {cs : List Char} {e : DsnError}
    (h : Url.checkBrackets cs = .error e) : e.quotesLogin = false := by
  unfold Url.checkBrackets at h
  split_ifs at h
  · cases h
    rfl
  · dsimp only at h
    split at h
    · split_ifs at h
      · cases h
        rfl
      · exact unquoted_of_checkAddress h
    · exact unquoted_of_checkAddress h

theorem unquoted_of_portNumber {cs : List Char} {e : DsnError}
    (h : Authority.portNumber cs = .error e) : e.quotesLogin = false := by
  unfold Authority.portNumber at h
  split_ifs at h
  · split at h
    · split_ifs at h
      cases h
      rfl
    · cases h
      rfl
  · cases h
    rfl

theorem unquoted_of_ofChars {cs : List Char} {e : DsnError}
    (h : Authority.ofChars cs = .error e) : e.quotesLogin = false := by
  simp only [Authority.ofChars] at h
  split at h
  · cases h
  · rename_i digits _
    cases hport : Authority.portNumber digits with
    | ok n =>
        rw [hport] at h
        cases h
    | error fault =>
        rw [hport] at h
        cases h
        exact unquoted_of_portNumber hport

namespace Login

variable (l : Login) (p q : Password)

theorem contains_authority {mark : Char} (hmark : isAlphanumeric mark = false) (hcolon : mark ≠ ':')
    (hat : mark ≠ '@') :
    (l.authority p).contains mark = (l.user.contains mark || l.place.contains mark) := by
  simp [authority, p.ne_mark hmark, hcolon, hat]

theorem cutLast_authority :
    Text.cutLast '@' (l.authority p) = (some (l.user ++ ':' :: p.chars), l.place) := by
  have hsplit : l.authority p = (l.user ++ ':' :: p.chars) ++ '@' :: l.place := by
    simp [authority]
  rw [hsplit, Text.cutLast_append_mark l.at_not_mem_place]

/-- Whether the brackets are right is decided without the password. -/
theorem checkBrackets_authority :
    Url.checkBrackets (l.authority p) = Url.checkBrackets (l.authority q) := by
  rw [Url.checkBrackets, Url.checkBrackets]
  simp only [cutLast_authority, l.contains_authority _ (show isAlphanumeric '[' = false by decide)
    (by decide) (by decide), l.contains_authority _ (show isAlphanumeric ']' = false by decide)
    (by decide) (by decide)]

/-- No letter or digit turns into a delimiter. -/
theorem any_deceptive_authority :
    (l.authority p).any Url.deceptiveChars.contains =
      (l.authority q).any Url.deceptiveChars.contains := by
  have hdeceptive : Url.deceptiveChars.all (fun d => !isAlphanumeric d) = true := by
    decide +kernel
  have honest (p : Password) : p.chars.any Url.deceptiveChars.contains = false := by
    rw [List.any_eq_false]
    intro c hc hdelimiter
    have hnot := List.all_eq_true.1 hdeceptive c (List.contains_iff_mem.1 hdelimiter)
    rw [p.alphanumeric c hc] at hnot
    cases hnot
  simp only [authority, List.any_append, List.any_cons, honest, Bool.false_or]

theorem agree_authority :
    l.Agree p q (fun _ _ => True) (Authority.ofChars (l.authority p))
      (Authority.ofChars (l.authority q)) := by
  simp only [Authority.ofChars, cutLast_authority]
  cases (Authority.hostAndPort l.place).2 with
  | none => trivial
  | some digits =>
      dsimp only
      cases hport : Authority.portNumber digits with
      | ok n => trivial
      | error e => exact .same (unquoted_of_portNumber hport)

/-! ## Reading the string -/

theorem cutAuthority_slashes (cs : List Char) :
    Url.cutAuthority ('/' :: '/' :: cs) =
      (cs.takeWhile staysInAuthority, cs.dropWhile staysInAuthority) :=
  List.span_eq_takeWhile_dropWhile staysInAuthority cs

theorem takeWhile_login :
    (l.user ++ ':' :: (p.chars ++ '@' :: l.rest)).takeWhile staysInAuthority = l.authority p := by
  rw [List.takeWhile_append_of_pos l.user_stays, List.takeWhile_cons_of_pos (by decide),
    List.takeWhile_append_of_pos fun c => p.staysInAuthority,
    List.takeWhile_cons_of_pos (by decide)]
  rfl

theorem dropWhile_login :
    (l.user ++ ':' :: (p.chars ++ '@' :: l.rest)).dropWhile staysInAuthority =
      l.rest.dropWhile staysInAuthority := by
  rw [List.dropWhile_append_of_pos l.user_stays, List.dropWhile_cons_of_pos (by decide),
    List.dropWhile_append_of_pos fun c => p.staysInAuthority,
    List.dropWhile_cons_of_pos (by decide)]

/-- The query does not depend on what stands in front of the at sign. -/
theorem query_login {lead : List Char} (hlead : ∀ c ∈ lead, staysInAuthority c = true) :
    (Text.cut '?' (Text.cut '#'
      (lead ++ '/' :: '/' :: (l.user ++ ':' :: (p.chars ++ '@' :: l.rest)))).1).2 =
      (Text.cut '?' (Text.cut '#' l.rest).1).2 := by
  have hsplit : lead ++ '/' :: '/' :: (l.user ++ ':' :: (p.chars ++ '@' :: l.rest)) =
      (lead ++ '/' :: '/' :: (l.user ++ ':' :: (p.chars ++ ['@']))) ++ l.rest := by
    simp
  have absent {mark : Char} (hends : staysInAuthority mark = false)
      (hmark : isAlphanumeric mark = false) (hslash : mark ≠ '/') (hcolon : mark ≠ ':')
      (hat : mark ≠ '@') :
      mark ∉ lead ++ '/' :: '/' :: (l.user ++ ':' :: (p.chars ++ ['@'])) := by
    have hnot {cs : List Char} (hcs : ∀ c ∈ cs, staysInAuthority c = true) : mark ∉ cs :=
      fun hmem => by simp [hcs mark hmem] at hends
    simp [hnot hlead, hnot l.user_stays, p.ne_mark hmark, hslash, hcolon, hat]
  rw [hsplit,
    Text.cut_append_of_not_mem
      (absent (by decide) (by decide) (by decide) (by decide) (by decide)),
    Text.cut_append_of_not_mem
      (absent (by decide) (by decide) (by decide) (by decide) (by decide))]

theorem agree_url :
    l.Agree p q (l.AlikeUrls p q) (Url.ofString (l.dsn p)) (Url.ofString (l.dsn q)) := by
  obtain ⟨scheme, lead, hstays, hcut⟩ := l.exists_cutScheme
  cases lead with
  | nil =>
      simp only [Url.ofString, hcut, List.nil_append, cutAuthority_slashes, takeWhile_login,
        dropWhile_login, l.checkBrackets_authority p q, l.any_deceptive_authority p q]
      refine Agree.bind (Agree.refl_of_unquoted fun e => unquoted_of_checkBrackets) fun _ _ _ => ?_
      split
      · exact .deceptiveAuthority
      · exact ⟨rfl, .inl ⟨rfl, rfl⟩, rfl⟩
  | cons c lead =>
      -- without slashes right after the scheme there is no authority
      have hslash : c ≠ '/' := by
        rintro rfl
        exact absurd (hstays '/' List.mem_cons_self) (by decide)
      have hauthority (cs : List Char) : Url.cutAuthority (c :: cs) = ([], c :: cs) := by
        unfold Url.cutAuthority
        split
        · rename_i heq
          exact absurd (List.cons.inj heq).1 hslash
        · rfl
      have hread (p : Password) : ∃ path, Url.ofString (l.dsn p) =
          .ok ⟨scheme, [], path, ((Text.cut '?' (Text.cut '#' l.rest).1).2).getD []⟩ := by
        rw [← l.query_login p hstays]
        simp only [Url.ofString, hcut, List.cons_append, hauthority]
        exact ⟨_, rfl⟩
      obtain ⟨path, hp⟩ := hread p
      obtain ⟨path', hq⟩ := hread q
      rw [hp, hq]
      exact ⟨rfl, .inr rfl, rfl⟩

/-- What is read of a connection string under two passwords differs only in the password and the
path, and where reading fails, the errors differ only in what they quote. -/
theorem agree_parse :
    l.Agree p q AlikeConfigs (Config.parse (l.dsn p)) (Config.parse (l.dsn q)) := by
  refine Agree.bind (l.agree_url p q) fun u v huv => ?_
  have hauthority : l.Agree p q (fun _ _ => True) (Authority.ofChars u.authority)
      (Authority.ofChars v.authority) := by
    rcases huv.authority with ⟨hu, hv⟩ | heq
    · rw [hu, hv]
      exact l.agree_authority p q
    · rw [heq]
      exact Agree.refl_of_unquoted fun e => unquoted_of_ofChars
  rw [huv.scheme]
  cases hscheme : v.scheme.isEmpty with
  | true => exact .noScheme
  | false =>
      refine Agree.bind hauthority fun a b _ => ?_
      exact ⟨rfl, by simp [huv.query]⟩

/-! ## Messages -/

variable {l p q}

theorem chars_ne (hne : p ≠ q) : q.chars ≠ p.chars :=
  fun heq => hne (Password.ext heq.symm)

/-- The message that a connection string has no scheme has the password. -/
theorem noScheme_message_ne (hne : p ≠ q) :
    (DsnError.noScheme (l.dsn q)).message ≠ (DsnError.noScheme (l.dsn p)).message := by
  obtain ⟨front, back, hshown⟩ := Value.printText_of_isAlphanumeric l.front ('@' :: l.back)
  have hmessage (p : Password) : (DsnError.noScheme (l.dsn p)).message =
      "DSN has no scheme: " ++ (front ++ String.ofList p.chars ++ back) := by
    rw [← hshown p.chars p.alphanumeric]
    rfl
  rw [hmessage, hmessage, Ne, String.append_right_inj, String.append_left_inj,
    String.append_right_inj, String.ofList_inj]
  exact chars_ne hne

/-- The message that characters turn into delimiters has the password. -/
theorem deceptiveAuthority_message_ne (hne : p ≠ q) :
    (DsnError.deceptiveAuthority (String.ofList (l.authority q))).message ≠
      (DsnError.deceptiveAuthority (String.ofList (l.authority p))).message := by
  have hmessage (cs : List Char) : (DsnError.deceptiveAuthority (String.ofList cs)).message =
      "netloc '" ++ String.ofList cs ++
        "' contains invalid characters under NFKC normalization" := rfl
  intro heq
  rw [hmessage, hmessage, String.append_left_inj, String.append_right_inj, String.ofList_inj,
    authority, authority, List.append_cancel_left_eq, List.cons.injEq,
    List.append_cancel_right_eq] at heq
  exact chars_ne hne heq.2

namespace Faults

variable {e f : DsnError}

/-- Errors that quote the string tell its passwords apart, and others do not. -/
theorem message_eq_iff (h : l.Faults p q e f) (hne : p ≠ q) :
    f.message = e.message ↔ e.quotesLogin = false := by
  cases h with
  | same hunquoted => exact iff_of_true rfl hunquoted
  | noScheme => exact iff_of_false (noScheme_message_ne hne) Bool.noConfusion
  | deceptiveAuthority =>
      exact iff_of_false (deceptiveAuthority_message_ne hne) Bool.noConfusion

end Faults

end Login

end SqlRender.Dsn
