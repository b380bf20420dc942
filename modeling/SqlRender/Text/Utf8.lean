/-!
# Reading UTF-8

Bytes are read as characters even where they are ill-formed. Each longest beginning of a character
that cannot be completed, and each byte that begins none, is reported once in its place.
-/

namespace SqlRender.Text.Utf8

/-- A character whose first bytes have been read: the bits so far, how many bytes are missing, and
the bounds of the next one. -/
structure Pending where
  bits : Nat
  missing : Nat
  least : Nat
  most : Nat

/-- What a byte begins: a whole character, a longer one, or nothing. -/
inductive Start where
  | whole (c : Char)
  | longer (p : Pending)
  | nothing

/-- What a byte begins. The bounds of the second byte leave out overlong forms, surrogates and
code points past the last one. -/
def start (b : Nat) : Start :=
  if b < 0x80 then .whole (Char.ofNat b)
  else if b < 0xc2 then .nothing
  else if b < 0xe0 then .longer ⟨b - 0xc0, 1, 0x80, 0xbf⟩
  else if b = 0xe0 then .longer ⟨0, 2, 0xa0, 0xbf⟩
  else if b = 0xed then .longer ⟨0xd, 2, 0x80, 0x9f⟩
  else if b < 0xf0 then .longer ⟨b - 0xe0, 2, 0x80, 0xbf⟩
  else if b = 0xf0 then .longer ⟨0, 3, 0x90, 0xbf⟩
  else if b < 0xf4 then .longer ⟨b - 0xf0, 3, 0x80, 0xbf⟩
  else if b = 0xf4 then .longer ⟨4, 3, 0x80, 0x8f⟩
  else .nothing

/-- The characters of a sequence of bytes; `none` stands for each ill-formed place. -/
def decodeFrom : Option Pending → List UInt8 → List (Option Char)
  | none, [] => []
  | some _, [] => [none]
  | pending, b :: rest =>
    let fresh : List (Option Char) :=
      match start b.toNat with
      | .whole c => some c :: decodeFrom none rest
      | .longer p => decodeFrom (some p) rest
      | .nothing => none :: decodeFrom none rest
    match pending with
    | none => fresh
    | some p =>
      if p.least ≤ b.toNat && b.toNat ≤ p.most then
        let bits := p.bits * 64 + (b.toNat - 0x80)
        if p.missing = 1 then some (Char.ofNat bits) :: decodeFrom none rest
        else decodeFrom (some ⟨bits, p.missing - 1, 0x80, 0xbf⟩) rest
      else none :: fresh

/-- The text of a sequence of bytes, ill-formed places left out. -/
def decodeSkipping (bytes : List UInt8) : String :=
  String.ofList ((decodeFrom none bytes).filterMap id)

/-- The text of a sequence of bytes, with a replacement character for each ill-formed place. -/
def decodeReplacing (bytes : List UInt8) : String :=
  String.ofList ((decodeFrom none bytes).map (·.getD '\ufffd'))

/-- The bytes of a text. -/
def encode (s : String) : List UInt8 :=
  s.toUTF8.toList

end SqlRender.Text.Utf8
