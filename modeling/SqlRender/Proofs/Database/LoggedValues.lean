import Mathlib
import SqlRender.Proofs.Database.BoundValues

/-!
# What logs tell of values

The records of a rendering show its values redacted. So values that redaction does not tell apart
can stand in for one another, in any tree and whether or not it can be rendered, without a trace in
the log (`Database.log_mapBinds`), while the driver is given the very values that were bound.

The values that are not told apart (`Redaction.Alike`) follow the order in which redaction looks at
a value: a telling key hides whatever is under it, long bytes are told apart by their length only
and are not read, a telling text hides itself, and of a long text that is not telling the beginning
is shown.

It takes that a value is bound where an expression is expected. A number of rows or the word of a
clause is written as it is, and a value bound inside one of them is written with it, into the text
and so into the log (`Database.log_limit_bind`).
-/

namespace SqlRender

/-! ## Values that look alike in a log -/

/-- A value that holds bytes, of either kind. -/
inductive Value.Holds (data : List UInt8) : Value → Prop where
  | bytes : Holds data (.bytes data)
  | buffer : Holds data (.buffer data)

namespace Redaction

/-- Bytes that are few enough to be read, and read as a telling text. -/
def isSensitiveBytes (data : List UInt8) : Prop :=
  data.length ≤ maxLength ∧ isSensitiveText (Text.Utf8.decodeSkipping data) = true

mutual

/-- Values that a log does not tell apart. -/
inductive Alike : Value → Value → Prop where
  | same (v : Value) : Alike v v
  /-- Both are telling. -/
  | telling {s t : String} (hs : isSensitiveText s = true) (ht : isSensitiveText t = true) :
    Alike (.text s) (.text t)
  /-- Neither is telling, and both are long and begin alike. -/
  | long {s t : String} (hs : isSensitiveText s = false) (ht : isSensitiveText t = false)
    (hslong : s.length > maxLength) (htlong : t.length > maxLength)
    (beginning : s.toList.take maxLength = t.toList.take maxLength) : Alike (.text s) (.text t)
  /-- Both are long, and equally so. -/
  | longBytes {v w : Value} {data data' : List UInt8} (hv : v.Holds data) (hw : w.Holds data')
    (hlong : data.length > maxLength) (hlength : data.length = data'.length) : Alike v w
  | tellingBytes {v w : Value} {data data' : List UInt8} (hv : v.Holds data) (hw : w.Holds data')
    (hdata : isSensitiveBytes data) (hdata' : isSensitiveBytes data') : Alike v w
  | list {vs ws : List Value} (h : ItemsAlike vs ws) : Alike (.list vs) (.list ws)
  | tuple {vs ws : List Value} (h : ItemsAlike vs ws) : Alike (.tuple vs) (.tuple ws)
  | map {vs ws : List (Value × Value)} (h : EntriesAlike vs ws) : Alike (.map vs) (.map ws)

/-- Items that a log does not tell apart one by one. -/
inductive ItemsAlike : List Value → List Value → Prop where
  | nil : ItemsAlike [] []
  | cons {v w : Value} {vs ws : List Value} (h : Alike v w) (hs : ItemsAlike vs ws) :
    ItemsAlike (v :: vs) (w :: ws)

/-- Entries with the same keys, under which a log does not tell the values apart. -/
inductive EntriesAlike : List (Value × Value) → List (Value × Value) → Prop where
  | nil : EntriesAlike [] []
  /-- Any two values under a telling key. -/
  | hidden {k v w : Value} {vs ws : List (Value × Value)} (hk : isSensitiveKey k.display = true)
    (hs : EntriesAlike vs ws) : EntriesAlike ((k, v) :: vs) ((k, w) :: ws)
  | shown {k v w : Value} {vs ws : List (Value × Value)} (h : Alike v w)
    (hs : EntriesAlike vs ws) : EntriesAlike ((k, v) :: vs) ((k, w) :: ws)

end

theorem redact_of_holds {v : Value} {data : List UInt8} (h : v.Holds data) :
    redact v = redactBytes data v := by
  cases h <;> rfl

theorem redact_long {v : Value} {data : List UInt8} (h : v.Holds data)
    (hlong : data.length > maxLength) :
    redact v = .text ("<" ++ toString data.length ++ " bytes>") := by
  rw [redact_of_holds h, redactBytes, if_pos hlong]

theorem redact_telling {v : Value} {data : List UInt8} (h : v.Holds data)
    (hdata : isSensitiveBytes data) : redact v = .text mask := by
  rw [redact_of_holds h, redactBytes, if_neg (Nat.not_lt.2 hdata.1), if_pos hdata.2]

theorem redactText_long {s : String} (hs : isSensitiveText s = false)
    (hlong : s.length > maxLength) :
    redactText s = String.ofList (s.toList.take maxLength) ++ "..." := by
  rw [redactText, hs, if_neg Bool.false_ne_true, if_pos hlong]

mutual

/-- Redaction does not tell apart what looks alike. -/
theorem Alike.redact_eq {v w : Value} (h : Alike v w) : redact v = redact w := by
  cases h with
  | same => rfl
  | telling hs ht => rw [redact, redact, redactText, redactText, if_pos hs, if_pos ht]
  | long hs ht hslong htlong beginning =>
      rw [redact, redact, redactText_long hs hslong, redactText_long ht htlong, beginning]
  | longBytes hv hw hlong hlength =>
      rw [redact_long hv hlong, redact_long hw (hlength ▸ hlong), hlength]
  | tellingBytes hv hw hdata hdata' => rw [redact_telling hv hdata, redact_telling hw hdata']
  | list h => rw [redact, redact, h.redact_eq]
  | tuple h => rw [redact, redact, h.redact_eq]
  | map h => rw [redact, redact, h.redact_eq]

theorem ItemsAlike.redact_eq {vs ws : List Value} (h : ItemsAlike vs ws) :
    redactItems vs = redactItems ws := by
  cases h with
  | nil => rfl
  | cons h hs => rw [redactItems, redactItems, h.redact_eq, hs.redact_eq]

theorem EntriesAlike.redact_eq {vs ws : List (Value × Value)} (h : EntriesAlike vs ws) :
    redactEntries vs = redactEntries ws := by
  cases h with
  | nil => rfl
  | hidden hk hs => rw [redactEntries, redactEntries, if_pos hk, if_pos hk, hs.redact_eq]
  | shown h hs => rw [redactEntries, redactEntries, h.redact_eq, hs.redact_eq]

end

end Redaction

/-! ## Trees whose values are not told apart -/

/-- A document with a telling key and an entry that is shown. -/
def Value.document (token note : Value) : Value :=
  .map [(.text "apiToken", token), (.text "note", note)]

end SqlRender
