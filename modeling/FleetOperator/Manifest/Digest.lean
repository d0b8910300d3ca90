import FleetOperator.Text.Quoted
import FleetOperator.Text.Utf8

/-!
# Digests

The first octets of the SHA-256 hash of a text, in hexadecimal digits: a short name for a manifest.
-/

namespace FleetOperator.Digest

/-- The constants of the rounds. -/
def roundConstants : List UInt32 :=
  [0x428a2f98, 0x71374491, 0xb5c0fbcf, 0xe9b5dba5, 0x3956c25b, 0x59f111f1, 0x923f82a4, 0xab1c5ed5,
   0xd807aa98, 0x12835b01, 0x243185be, 0x550c7dc3, 0x72be5d74, 0x80deb1fe, 0x9bdc06a7, 0xc19bf174,
   0xe49b69c1, 0xefbe4786, 0x0fc19dc6, 0x240ca1cc, 0x2de92c6f, 0x4a7484aa, 0x5cb0a9dc, 0x76f988da,
   0x983e5152, 0xa831c66d, 0xb00327c8, 0xbf597fc7, 0xc6e00bf3, 0xd5a79147, 0x06ca6351, 0x14292967,
   0x27b70a85, 0x2e1b2138, 0x4d2c6dfc, 0x53380d13, 0x650a7354, 0x766a0abb, 0x81c2c92e, 0x92722c85,
   0xa2bfe8a1, 0xa81a664b, 0xc24b8b70, 0xc76c51a3, 0xd192e819, 0xd6990624, 0xf40e3585, 0x106aa070,
   0x19a4c116, 0x1e376c08, 0x2748774c, 0x34b0bcb5, 0x391c0cb3, 0x4ed8aa4a, 0x5b9cca4f, 0x682e6ff3,
   0x748f82ee, 0x78a5636f, 0x84c87814, 0x8cc70208, 0x90befffa, 0xa4506ceb, 0xbef9a3f7, 0xc67178f2]

/-- The eight words that hashing works on. -/
structure State where
  a : UInt32 := 0x6a09e667
  b : UInt32 := 0xbb67ae85
  c : UInt32 := 0x3c6ef372
  d : UInt32 := 0xa54ff53a
  e : UInt32 := 0x510e527f
  f : UInt32 := 0x9b05688c
  g : UInt32 := 0x1f83d9ab
  h : UInt32 := 0x5be0cd19

/-- A word with its bits moved to the right, those that fall out entering at the left. -/
def rotate (x : UInt32) (n : UInt32) : UInt32 := (x >>> n) ||| (x <<< (32 - n))

/-- One round with a constant and a word of the message. -/
def State.round (s : State) (constant word : UInt32) : State :=
  let sum1 := rotate s.e 6 ^^^ rotate s.e 11 ^^^ rotate s.e 25
  let chosen := (s.e &&& s.f) ^^^ ((~~~s.e) &&& s.g)
  let t1 := s.h + sum1 + chosen + constant + word
  let sum0 := rotate s.a 2 ^^^ rotate s.a 13 ^^^ rotate s.a 22
  let majority := (s.a &&& s.b) ^^^ (s.a &&& s.c) ^^^ (s.b &&& s.c)
  ⟨t1 + (sum0 + majority), s.a, s.b, s.c, s.d + t1, s.e, s.f, s.g⟩

/-- The words of two states added pairwise. -/
def State.add (s t : State) : State :=
  ⟨s.a + t.a, s.b + t.b, s.c + t.c, s.d + t.d, s.e + t.e, s.f + t.f, s.g + t.g, s.h + t.h⟩

/-- The words of all rounds, from the last sixteen of them. -/
def expand : Nat → List UInt32 → List UInt32
  | 0, _ => []
  | count + 1, recent =>
    let x := recent.getD 1 0
    let y := recent.getD 14 0
    let next := recent.getD 0 0 + (rotate x 7 ^^^ rotate x 18 ^^^ (x >>> 3)) + recent.getD 9 0 +
      (rotate y 17 ^^^ rotate y 19 ^^^ (y >>> 10))
    recent.getD 0 0 :: expand count (recent.tail ++ [next])

/-- The words that octets write, most significant octet first. -/
def words : List UInt8 → List UInt32
  | a :: b :: c :: d :: rest =>
    ((a.toUInt32 <<< 24) ||| (b.toUInt32 <<< 16) ||| (c.toUInt32 <<< 8) ||| d.toUInt32) ::
      words rest
  | _ => []

/-- The state after a block of sixty-four octets. -/
def State.absorb (s : State) (block : List UInt8) : State :=
  let rounds := roundConstants.zip (expand 64 (words block))
  s.add (rounds.foldl (fun t pair ↦ t.round pair.1 pair.2) s)

/-- The state after a number of blocks. -/
def absorbBlocks : Nat → State → List UInt8 → State
  | 0, s, _ => s
  | count + 1, s, octets => absorbBlocks count (s.absorb (octets.take 64)) (octets.drop 64)

/-- A number in eight octets. -/
def octetsOfLength (n : Nat) : List UInt8 :=
  (List.range 8).map fun i ↦ UInt8.ofNat (n / Nat.pow 2 (8 * (7 - i)))

/-- Octets filled up to a whole number of blocks, the last eight of which hold the length. -/
def fill (octets : List UInt8) : List UInt8 :=
  let zeros := (119 - octets.length % 64) % 64
  octets ++ 0x80 :: (List.replicate zeros 0 ++ octetsOfLength (octets.length * 8))

/-- The two hexadecimal digits of each octet of a word. -/
def wordDigits (w : UInt32) : List Char :=
  (List.range 8).map fun i ↦ Nat.digitChar (w.toNat / Nat.pow 16 (7 - i) % 16)

/-- The short digest of a text: twelve hexadecimal digits. -/
def ofText (text : String) : String :=
  let octets := fill (Utf8.encode text.toList)
  let s := absorbBlocks (octets.length / 64) {} octets
  String.ofList ((wordDigits s.a ++ wordDigits s.b).take 12)

end FleetOperator.Digest
