import SqlRender.Dsn.Config
import SqlRender.Proofs.Dsn.Authority

/-!
# Authorities that are shown without their passwords

An authority is shown with a mask for its password. What is shown is read with the same user, host
and port, and the mask, if the authority is readable (`Authority.ofChars_text`), and only then
(`Authority.readable_of_text`): a host with colons needs the brackets that are not shown, brackets
elsewhere need each other, and neither a zero nor an empty name is shown.
-/

namespace SqlRender.Dsn

open Redaction (mask)

/-! ## What is shown -/

namespace Authority

/-- The authority with a mask for the password, if there is one. -/
def masked (a : Authority) : Authority :=
  { a with password := (given a.password).map fun _ => mask }

/-- A user and a mask for the password as they are shown, if the user has a name. -/
def userText (a : Authority) : Option (List Char) :=
  (given a.username).map fun user =>
    user.toList ++ if (given a.password).isSome then ':' :: mask.toList else []

/-- A port as it is shown, unless it is zero. -/
def portText : Option Nat → List Char
  | none => []
  | some n => if n = 0 then [] else ':' :: Nat.toDigits 10 n

/-- The host and the port as they are shown. -/
def placeText (a : Authority) : List Char :=
  (a.host.getD "").toList ++ portText a.port

/-- The authority as it is shown. -/
def text (a : Authority) : List Char :=
  (a.userText.map (· ++ ['@'])).getD [] ++ a.placeText

/-- A character that is shown only where a name has it, and that no name gets from lower case. -/
def isMark (c : Char) : Bool :=
  Text.isCaseless c && c ≠ ':' && c ≠ '*' && !c.isDigit

/-- The characters that end an authority, stand for something in it, are left out of it or must not
be in it. -/
def marks : List Char :=
  ['/', '?', '#', '@', '[', ']', '\t', '\r', '\n'] ++ Url.deceptiveChars

theorem isMark_of_mem {c : Char} (h : c ∈ marks) : isMark c = true := by
  have htable : marks.all isMark = true := by decide +kernel
  exact List.all_eq_true.1 htable c h

theorem isMark_at : isMark '@' = true :=
  isMark_of_mem (by simp [marks])

theorem isMark_opening : isMark '[' = true :=
  isMark_of_mem (by simp [marks])

theorem isMark_closing : isMark ']' = true :=
  isMark_of_mem (by simp [marks])

theorem isCaseless_colon : Text.isCaseless ':' = true := by
  decide +kernel

section Written

variable {c : Char} (mark : isMark c = true) {a : Authority}

include mark

theorem isCaseless_of_isMark : Text.isCaseless c = true := by
  simp only [isMark, Bool.and_eq_true] at mark
  exact mark.1.1.1

theorem ne_colon_of_isMark : c ≠ ':' := by
  rintro rfl
  exact absurd mark (by decide +kernel)

theorem not_mem_portText (port : Option Nat) : c ∉ portText port := by
  have hdigit : c.isDigit = false := by
    simp only [isMark, Bool.and_eq_true, Bool.not_eq_true'] at mark
    exact mark.2
  cases port with
  | none => exact List.not_mem_nil
  | some n =>
      rw [portText]
      split_ifs
      · exact List.not_mem_nil
      · rw [List.mem_cons, not_or]
        refine ⟨ne_colon_of_isMark mark, fun hmem => ?_⟩
        rw [Nat.isDigit_of_mem_toDigits (by decide) (by decide) hmem] at hdigit
        cases hdigit

theorem mem_placeText_iff : c ∈ a.placeText ↔ c ∈ (a.host.getD "").toList := by
  rw [placeText, List.mem_append]
  exact or_iff_left (not_mem_portText mark a.port)

theorem mem_userText_iff {user : List Char} (h : a.userText = some user) :
    c ∈ user ↔ c ∈ (a.username.getD "").toList := by
  have hmask : c ∉ ':' :: mask.toList := by
    have hstar : c ≠ '*' := by
      rintro rfl
      exact absurd mark (by decide +kernel)
    simp [Redaction.mask, hstar, ne_colon_of_isMark mark]
  obtain ⟨name, hname, rfl⟩ := Option.map_eq_some_iff.1 h
  have husername : a.username = some name := (Option.filter_eq_some_iff.1 hname).1
  rw [husername, Option.getD_some, List.mem_append]
  refine or_iff_left ?_
  split_ifs
  · exact hmask
  · exact List.not_mem_nil

/-- Apart from the at sign, a mark stands in what is shown only as part of a name. -/
theorem mem_text_iff (hat : c ≠ '@') :
    c ∈ a.text ↔ c ∈ (a.username.getD "").toList ∨ c ∈ (a.host.getD "").toList := by
  rw [text, List.mem_append, mem_placeText_iff mark]
  refine or_congr_left ?_
  cases huser : a.userText with
  | some user => simp [mem_userText_iff mark huser, hat]
  | none =>
      refine iff_of_false (by simp) ?_
      rw [userText, Option.map_eq_none_iff] at huser
      cases hname : a.username with
      | none => simp
      | some name =>
          have hempty : name = "" := by
            by_contra hne
            rw [hname, given_of_ne hne] at huser
            cases huser
          simp [hempty]

end Written

/-! ## Reading what is shown -/

/-- Whether an authority says the same when it is read as it is shown. -/
structure Readable (a : Authority) : Prop where
  /-- An empty name is not shown. -/
  user : a.username ≠ some ""
  /-- A zero is not shown. -/
  port : a.port ≠ some 0
  /-- The brackets around an address are not shown. -/
  host : ':' ∉ (a.host.getD "").toList ∧ '[' ∉ (a.host.getD "").toList
  brackets : '[' ∈ (a.username.getD "").toList ↔
    ']' ∈ (a.username.getD "").toList ∨ ']' ∈ (a.host.getD "").toList

theorem hostAndPort_placeText {a : Authority} (readable : a.Readable) :
    hostAndPort a.placeText = ((a.host.getD "").toList, a.port.map (Nat.toDigits 10)) := by
  obtain ⟨hcolon, hbracket⟩ := readable.host
  rw [placeText]
  cases hport : a.port with
  | none =>
      rw [portText, List.append_nil]
      exact hostAndPort_of_not_mem hcolon hbracket
  | some n =>
      have hne : n ≠ 0 := fun hzero => readable.port (by rw [hport, hzero])
      have hdigits : '[' ∉ Nat.toDigits 10 n := by
        intro hmem
        exact absurd (Nat.isDigit_of_mem_toDigits (by decide) (by decide) hmem) (by decide)
      rw [portText, if_neg hne]
      exact hostAndPort_append hcolon hbracket hdigits Nat.toDigits_ne_nil

section Read

variable {cs : List Char} {a : Authority} (h : ofChars cs = .ok a)

include h

theorem mem_of_mem_username {c : Char} (hc : c ∈ (a.username.getD "").toList) :
    c ∈ cs ∧ c ≠ ':' := by
  rw [(ofChars_eq_ok h).1] at hc
  rcases Text.cutLast_cases '@' cs with ⟨-, hcut⟩ | ⟨user, place, hcs, -, hcut⟩
  · rw [hcut] at hc
    simp [credentials] at hc
  · rw [hcut, credentials, Option.getD_some, String.toList_ofList] at hc
    obtain ⟨hmem, hcolon⟩ := Text.mem_of_mem_cut_fst hc
    exact ⟨hcs ▸ List.mem_append_left _ hmem, hcolon⟩

theorem mem_host_iff {c : Char} (caseless : Text.isCaseless c = true) :
    c ∈ (a.host.getD "").toList ↔ c ∈ (hostAndPort (Text.cutLast '@' cs).2).1 := by
  rw [(ofChars_eq_ok h).2.2.1]
  by_cases hnil : (hostAndPort (Text.cutLast '@' cs).2).1 = []
  · rw [hnil]
    simp [hostName]
  · obtain ⟨name, hname⟩ := exists_hostName hnil
    rw [hname]
    exact mem_hostName_iff hname caseless

theorem mem_of_mem_name {c : Char} (caseless : Text.isCaseless c = true)
    (hc : c ∈ (a.host.getD "").toList) : c ∈ cs ∧ c ≠ '@' :=
  Text.mem_of_mem_cutLast_snd (mem_of_mem_host ((mem_host_iff h caseless).1 hc))

theorem mem_of_mem_text {c : Char} (mark : isMark c = true) (hat : c ≠ '@') (hc : c ∈ a.text) :
    c ∈ cs := by
  rcases (mem_text_iff mark hat).1 hc with hc | hc
  · exact (mem_of_mem_username h hc).1
  · exact (mem_of_mem_name h (isCaseless_of_isMark mark) hc).1

/-- The place is told apart from the user. -/
theorem cutLast_text : Text.cutLast '@' a.text = (a.userText, a.placeText) := by
  have hplace : '@' ∉ a.placeText := by
    rw [mem_placeText_iff isMark_at]
    exact fun hmem => (mem_of_mem_name h (isCaseless_of_isMark isMark_at) hmem).2 rfl
  rw [text]
  cases a.userText with
  | none => exact Text.cutLast_of_not_mem hplace
  | some user =>
      simp only [Option.map_some, Option.getD_some, List.append_assoc, List.singleton_append]
      exact Text.cutLast_append_mark hplace user

theorem credentials_userText (hname : a.username ≠ some "") :
    credentials a.userText = (a.username, (given a.password).map fun _ => mask) := by
  have hcolon : ':' ∉ (a.username.getD "").toList := fun hmem => (mem_of_mem_username h hmem).2 rfl
  cases huser : a.username with
  | none =>
      have hpassword : a.password = none := by
        obtain ⟨hfirst, hsecond, -⟩ := ofChars_eq_ok h
        rw [huser] at hfirst
        rw [hsecond]
        cases hcut : (Text.cutLast '@' cs).1 with
        | none => rfl
        | some user =>
            rw [hcut] at hfirst
            cases hfirst
      rw [userText, huser, hpassword]
      rfl
  | some name =>
      have hne : name ≠ "" := fun hempty => hname (by rw [huser, hempty])
      rw [huser, Option.getD_some] at hcolon
      rw [userText, huser, given_of_ne hne, Option.map_some]
      cases given a.password with
      | none =>
          rw [Option.isSome_none, if_neg Bool.false_ne_true, List.append_nil, credentials,
            Text.cut_of_not_mem hcolon]
          simp
      | some password =>
          rw [Option.isSome_some, if_pos rfl, credentials, Text.cut_append_mark hcolon]
          simp

theorem hostName_host : hostName (a.host.getD "").toList = a.host := by
  have hhost := (ofChars_eq_ok h).2.2.1
  cases hname : a.host with
  | none => rfl
  | some name => exact hostName_of_hostName (hhost.symm.trans hname)

/-- What is shown of a readable authority is read as the authority with a mask. -/
theorem ofChars_text (readable : a.Readable) : ofChars a.text = .ok a.masked := by
  have hbound : ∀ n, a.port = some n → n ≤ 65535 := by
    intro n hn
    rcases (ofChars_eq_ok h).2.2.2 with ⟨-, hnone⟩ | ⟨digits, m, -, hnumber, hport⟩
    · rw [hnone] at hn
      cases hn
    · rw [hport] at hn
      cases hn
      exact le_of_portNumber hnumber
  rw [ofChars_of_parts (cutLast_text h) (hostAndPort_placeText readable) hbound,
    credentials_userText h readable.user, hostName_host h, masked]

variable (brackets : Url.checkBrackets cs = .ok ())

include brackets

theorem checkBrackets_text (readable : a.Readable) : Url.checkBrackets a.text = .ok () := by
  obtain ⟨hcolon, hbracket⟩ := readable.host
  refine Url.checkBrackets_of_place (cutLast_text h) ?_ ?_ fun hmem => ?_
  · rwa [mem_placeText_iff isMark_opening]
  · rw [mem_text_iff isMark_opening (by decide), mem_text_iff isMark_closing (by decide),
      or_iff_left hbracket]
    exact readable.brackets
  · -- the address has no colons, so that it is one of a version that is yet to come
    have haddress := (Url.checkAddress_of_checkBrackets brackets
      (mem_of_mem_text h isMark_opening (by decide) hmem)).1
    have hfuture := Url.isFutureAddress_of_checkAddress haddress
      fun hin => hcolon ((mem_host_iff h isCaseless_colon).2 hin)
    have hne : (hostAndPort (Text.cutLast '@' cs).2).1 ≠ [] := by
      intro hnil
      rw [hnil] at hfuture
      cases hfuture
    obtain ⟨name, hname⟩ := exists_hostName hne
    rw [hostAndPort_placeText readable, (ofChars_eq_ok h).2.2.1, hname, Option.getD_some]
    exact Url.checkAddress_of_isFutureAddress (isFutureAddress_hostName hname hfuture)

/-- If what is shown has its brackets in place, there is none in the host: it would come first in
its place, and in no address does a bracket come first. -/
theorem bracket_not_mem_host (hshown : Url.checkBrackets a.text = .ok ()) :
    '[' ∉ (a.host.getD "").toList := by
  intro hmem
  have hcaseless := isCaseless_of_isMark isMark_opening
  have hplace := (Url.checkAddress_of_checkBrackets hshown
    ((mem_text_iff isMark_opening (by decide)).2 (.inr hmem))).2
  rw [cutLast_text h] at hplace
  have hfirst := hplace ((mem_placeText_iff isMark_opening).2 hmem)
  cases hname : a.host with
  | none =>
      rw [hname] at hmem
      simp at hmem
  | some name =>
      have horigin := (ofChars_eq_ok h).2.2.1.symm.trans hname
      have haddress := Url.checkAddress_of_checkBrackets brackets
        (mem_of_mem_name h hcaseless hmem).1
      rw [placeText, hname, Option.getD_some, List.head?_append_of_ne_nil _
        (name_ne_nil horigin)] at hfirst
      exact Url.head?_of_checkAddress haddress.1 (head?_of_hostName horigin hcaseless hfirst)

/-- An authority that is read with the same user, host and port as it is shown is readable. -/
theorem readable_of_text (hshown : Url.checkBrackets a.text = .ok ()) {b : Authority}
    (hread : ofChars a.text = .ok b) (huser : b.username = a.username) (hhost : b.host = a.host)
    (hport : b.port = a.port) : a.Readable := by
  obtain ⟨huser', -, -, hport'⟩ := ofChars_eq_ok hread
  have hbracket := bracket_not_mem_host h brackets hshown
  have hplace : '[' ∉ a.placeText := by rwa [mem_placeText_iff isMark_opening]
  have hcolon : ':' ∉ (a.host.getD "").toList := by
    rw [← hhost, mem_host_iff hread isCaseless_colon, cutLast_text h]
    exact colon_not_mem_host hplace
  refine ⟨fun hempty => ?_, fun hzero => ?_, ⟨hcolon, hbracket⟩, ?_⟩
  · have hnone : a.userText = none := by
      rw [userText, hempty]
      rfl
    rw [huser, hempty, cutLast_text h, hnone] at huser'
    cases huser'
  · -- without its digits a port of zero is no port
    have hnone : (hostAndPort (Text.cutLast '@' a.text).2).2 = none := by
      have hnumber : portText a.port = [] := by
        rw [hzero]
        rfl
      rw [cutLast_text h, placeText, hnumber, List.append_nil,
        hostAndPort_of_not_mem hcolon hbracket]
    rcases hport' with ⟨-, hport'⟩ | ⟨digits, n, hdigits, -, -⟩
    · rw [hport, hzero] at hport'
      cases hport'
    · rw [hnone] at hdigits
      cases hdigits
  · have hpaired := Url.checkBrackets_paired hshown
    rwa [mem_text_iff isMark_opening (by decide), mem_text_iff isMark_closing (by decide),
      or_iff_left hbracket] at hpaired

end Read

end Authority

end SqlRender.Dsn
