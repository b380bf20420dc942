import SqlRender.Text.Hex

/-!
# The SHA-1 digest

Names that are too long for a database are replaced by the digest of their bytes, which always has
forty hexadecimal digits.
-/

namespace SqlRender.Sha1

/-- The five words that the digest is computed in. -/
structure Words where
  a : UInt32
  b : UInt32
  c : UInt32
  d : UInt32
  e : UInt32

/-- The words before the first block. -/
def Words.initial : Words :=
  ⟨0x67452301, 0xefcdab89, 0x98badcfe, 0x10325476, 0xc3d2e1f0⟩

/-- The word with its bits turned to the left. -/
def rotate (x : UInt32) (n : UInt32) : UInt32 :=
  (x <<< n) ||| (x >>> (32 - n))

/-- The message with a one bit, zeros and its length in bits, a whole number of blocks. -/
def pad (message : List UInt8) : List UInt8 :=
  let length := 8 * message.length
  let zeros := (119 - message.length % 64) % 64
  message ++ 0x80 :: List.replicate zeros 0 ++
    [7, 6, 5, 4, 3, 2, 1, 0].map fun i => UInt8.ofNat (length / Nat.pow 256 i)

/-- The bytes as words, four bytes each. -/
def toWords : List UInt8 → List UInt32
  | b3 :: b2 :: b1 :: b0 :: rest =>
    (b3.toUInt32 <<< 24 ||| b2.toUInt32 <<< 16 ||| b1.toUInt32 <<< 8 ||| b0.toUInt32) ::
      toWords rest
  | _ => []

/-- The next word of a block's schedule, from the words so far with the last one first. -/
def nextWord (recent : List UInt32) : UInt32 :=
  rotate (recent.getD 2 0 ^^^ recent.getD 7 0 ^^^ recent.getD 13 0 ^^^ recent.getD 15 0) 1

/-- The eighty words that a block of sixteen is extended to. -/
def schedule (block : List UInt32) : List UInt32 :=
  ((List.range 64).foldl (fun recent _ => nextWord recent :: recent) block.reverse).reverse

/-- The function and the constant of a step. -/
def mix (step : Nat) (w : Words) : UInt32 :=
  if step < 20 then ((w.b &&& w.c) ||| (~~~w.b &&& w.d)) + 0x5a827999
  else if step < 40 then (w.b ^^^ w.c ^^^ w.d) + 0x6ed9eba1
  else if step < 60 then ((w.b &&& w.c) ||| (w.b &&& w.d) ||| (w.c &&& w.d)) + 0x8f1bbcdc
  else (w.b ^^^ w.c ^^^ w.d) + 0xca62c1d6

/-- One step of a block. -/
def round (w : Words) (step : Nat × UInt32) : Words :=
  ⟨rotate w.a 5 + mix step.1 w + w.e + step.2, w.a, rotate w.b 30, w.c, w.d⟩

/-- The words after a block. -/
def absorb (w : Words) (block : List UInt32) : Words :=
  let r := ((List.range 80).zip (schedule block)).foldl round w
  ⟨w.a + r.a, w.b + r.b, w.c + r.c, w.d + r.d, w.e + r.e⟩

/-- The words after `blocks` blocks. -/
def absorbAll : Nat → Words → List UInt32 → Words
  | 0, w, _ => w
  | blocks + 1, w, message => absorbAll blocks (absorb w (message.take 16)) (message.drop 16)

/-- The digest of a message in hexadecimal. -/
def hexDigest (message : List UInt8) : String :=
  let words := toWords (pad message)
  let w := absorbAll (words.length / 16) .initial words
  let word (x : UInt32) := Text.hex 8 x.toNat
  word w.a ++ word w.b ++ word w.c ++ word w.d ++ word w.e

end SqlRender.Sha1
