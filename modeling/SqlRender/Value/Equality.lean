import SqlRender.Value
import SqlRender.Decimal.Shortest

/-!
# Equality and digests of values

Numbers are compared by what they stand for, whatever their type, and maps without regard to order.
Two values that are equal have the same digest; values that hold something that may change, such as
a list, have none.
-/

namespace SqlRender

/-- Whether a binary number is the given integer. -/
def Binary.isInt (b : Binary) (i : Int) : Bool :=
  let magnitude := b.significand * Nat.pow 2 b.exponent.toNat
  let unit := Nat.pow 2 (-b.exponent).toNat
  magnitude == i.natAbs * unit && (b.negative == (i < 0) || i == 0)

namespace Value

/-- The integer that a value stands for, truth values being zero and one. -/
def integer? : Value → Option Int
  | .bool b => some b.toNat
  | .int i => some i
  | _ => none

/-- Whether a floating-point number and an integer are the same number. -/
def floatIsInt (x : Float) (i : Int) : Bool :=
  match FloatKind.ofFloat x with
  | .finite b => b.isInt i
  | _ => false

/-- Equality of values that are neither sequences nor maps. -/
def sameScalar : Value → Value → Bool
  | .null, .null => true
  | .text s, .text t => s == t
  | .bytes a, .bytes b | .bytes a, .buffer b | .buffer a, .bytes b | .buffer a, .buffer b => a == b
  | .float x, .float y => x == y
  | .float x, w => w.integer?.any (floatIsInt x)
  | v, .float y => v.integer?.any (floatIsInt y)
  | v, w => v.integer?.isSome && v.integer? == w.integer?

mutual

/-- Equality of values. Lists and tuples differ; a map equals another with the same keys and equal
values under them. -/
def same : Value → Value → Bool
  | .list xs, .list ys => sameItems xs ys
  | .tuple xs, .tuple ys => sameItems xs ys
  | .map es, .map fs => es.length == fs.length && sameEntries es fs
  | v, w => sameScalar v w

/-- Equality of items one by one. -/
def sameItems : List Value → List Value → Bool
  | [], [] => true
  | x :: xs, y :: ys => same x y && sameItems xs ys
  | _, _ => false

/-- Whether each entry is among the others. -/
def sameEntries : List (Value × Value) → List (Value × Value) → Bool
  | [], _ => true
  | (k, v) :: es, fs => fs.any (fun f => same k f.1 && same v f.2) && sameEntries es fs

end

/-- The entries with one more. A key that is there already keeps its place and its spelling and
gets the new value. -/
def insertEntry (entries : List (Value × Value)) (key value : Value) : List (Value × Value) :=
  if entries.any (fun e => same e.1 key) then
    entries.map fun e => if same e.1 key then (e.1, value) else e
  else entries ++ [(key, value)]

end Value

/-- What a value is filed under. Equal values have equal digests. -/
inductive Digest where
  | null
  | number (n : Int)
  | text (units : List Nat)
  | tuple (items : List Digest)
  | unlike
  deriving Inhabited

mutual

/-- Whether two digests agree. A number that equals nothing agrees with nothing. -/
def Digest.agrees : Digest → Digest → Bool
  | .null, .null => true
  | .number m, .number n => m == n
  | .text a, .text b => a == b
  | .tuple xs, .tuple ys => Digest.allAgree xs ys
  | _, _ => false

/-- Whether digests agree one by one. -/
def Digest.allAgree : List Digest → List Digest → Bool
  | [], [] => true
  | x :: xs, y :: ys => Digest.agrees x y && Digest.allAgree xs ys
  | _, _ => false

end

namespace Digest

/-- The modulus of digests of numbers, a prime. -/
def modulus : Nat :=
  Nat.pow 2 61 - 1

/-- The digest of a residue and a sign; minus one is not used. -/
def ofResidue (negative : Bool) (residue : Nat) : Digest :=
  let n : Int := if negative then -residue else residue
  .number (if n = -1 then -2 else n)

/-- The digest of an integer. -/
def ofInt (i : Int) : Digest :=
  ofResidue (i < 0) (i.natAbs % modulus)

/-- The digest of a floating-point number, which for whole numbers is that of the integer. Division
by a power of two is multiplication by the inverse, and two has the order 61. -/
def ofFloat (x : Float) : Digest :=
  match FloatKind.ofFloat x with
  | .finite b => ofResidue b.negative (b.significand * Nat.pow 2 (b.exponent % 61).toNat % modulus)
  | .infinite negative => .number (if negative then -314159 else 314159)
  | .notANumber => .unlike

/-- The digest of a text, made of the units it is stored in: all of one byte, of two or of four,
whichever is enough for every character. Nothing has the digest of zero. -/
def ofText (s : String) : Digest :=
  let codes := s.toList.map Char.toNat
  let units :=
    if codes.all (· < 0x100) then codes
    else if codes.all (· < 0x10000) then codes.flatMap fun c => [c % 256, c / 256]
    else codes.flatMap fun c => [c % 256, c / 256 % 256, c / 65536, 0]
  if units.isEmpty then .number 0 else .text units

/-- The digest of bytes, which is that of the text with those units. -/
def ofBytes (data : List UInt8) : Digest :=
  if data.isEmpty then .number 0 else .text (data.map UInt8.toNat)

end Digest

mutual

/-- The digest of a value, or the name of the type that has none. -/
def Value.digest : Value → Except String Digest
  | .null => .ok .null
  | .bool b => .ok (Digest.ofInt b.toNat)
  | .int i => .ok (Digest.ofInt i)
  | .float x => .ok (Digest.ofFloat x)
  | .text s => .ok (Digest.ofText s)
  | .bytes data => .ok (Digest.ofBytes data)
  | .tuple items => (Value.digests items).map .tuple
  | v => .error v.typeName

/-- The digests of values, up to the first that has none. -/
def Value.digests : List Value → Except String (List Digest)
  | [] => .ok []
  | x :: xs =>
    match Value.digest x with
    | .error name => .error name
    | .ok d => (Value.digests xs).map (d :: ·)

end

/-- The map with the given entries, or the name of the type of the first key that has no digest. -/
def Value.ofEntries (entries : List (Value × Value)) : Except String Value :=
  (Value.digests (entries.map (·.1))).map fun _ =>
    .map (entries.foldl (fun es e => Value.insertEntry es e.1 e.2) [])

end SqlRender
