import FleetOperator.Number.Digits

/-!
# UTF-8

Texts as octets and back. Reading stops at the first octet that no text can hold at its place, and
tells where the broken character starts and how many octets of it were in order; a text that ends
inside a character is told apart.
-/

namespace FleetOperator.Utf8

/-- The octets of characters. -/
def encode (text : List Char) : List UInt8 := text.flatMap String.utf8EncodeChar

/-- Why octets are no text: the index of the octet at which the broken character starts, and the
number of octets that must be left out, unless the text just ends too early. -/
structure Fault where
  index : Nat
  length : Option Nat
deriving DecidableEq, Repr

/-- The wording of a fault. -/
def Fault.message (fault : Fault) : String :=
  match fault.length with
  | some length =>
    "invalid utf-8 sequence of " ++ Digits.textOfNat length ++ " bytes from index " ++
      Digits.textOfNat fault.index
  | none => "incomplete utf-8 byte sequence from index " ++ Digits.textOfNat fault.index

/-- A character of which some octets were read: how many are still owed, the range of the next one,
the bits so far, and the number of octets read. -/
structure Pending where
  owed : Nat
  low : Nat := 0x80
  high : Nat := 0xBF
  bits : Nat
  taken : Nat := 1
deriving DecidableEq, Repr

/-- The character that starts with an octet above `0x7F`. -/
def Pending.start? (octet : Nat) : Option Pending :=
  if 0xC2 ≤ octet ∧ octet ≤ 0xDF then some { owed := 1, bits := octet - 0xC0 }
  else if octet = 0xE0 then some { owed := 2, low := 0xA0, bits := 0 }
  else if octet = 0xED then some { owed := 2, high := 0x9F, bits := 0xD }
  else if 0xE1 ≤ octet ∧ octet ≤ 0xEF then some { owed := 2, bits := octet - 0xE0 }
  else if octet = 0xF0 then some { owed := 3, low := 0x90, bits := 0 }
  else if 0xF1 ≤ octet ∧ octet ≤ 0xF3 then some { owed := 3, bits := octet - 0xF0 }
  else if octet = 0xF4 then some { owed := 3, high := 0x8F, bits := 4 }
  else none

/-- The characters of octets, where the character at hand starts at an index and may be read in
part. -/
def decodeFrom : Nat → Option Pending → List UInt8 → Except Fault (List Char)
  | _, none, [] => .ok []
  | index, some _, [] => .error { index, length := none }
  | index, none, octet :: rest =>
    if octet.toNat ≤ 0x7F then
      (decodeFrom (index + 1) none rest).map (Char.ofNat octet.toNat :: ·)
    else
      match Pending.start? octet.toNat with
      | some pending => decodeFrom index (some pending) rest
      | none => .error { index, length := some 1 }
  | index, some p, octet :: rest =>
    if p.low ≤ octet.toNat ∧ octet.toNat ≤ p.high then
      let bits := p.bits * 64 + (octet.toNat - 0x80)
      if p.owed ≤ 1 then
        (decodeFrom (index + p.taken + 1) none rest).map (Char.ofNat bits :: ·)
      else decodeFrom index (some { owed := p.owed - 1, bits, taken := p.taken + 1 }) rest
    else .error { index, length := some p.taken }

/-- The characters of octets. -/
def decode (octets : List UInt8) : Except Fault (List Char) := decodeFrom 0 none octets

end FleetOperator.Utf8
