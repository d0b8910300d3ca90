/-!
# Base64

Octets written with four characters of a fixed alphabet for every three octets, the last group
filled up with equals signs. A text is read only if it is the one that writing produces: the fill is
complete, and the bits that belong to no octet are zero.
-/

namespace FleetOperator.Base64

/-- The value of a character of the alphabet. -/
def digit? (c : Char) : Option Nat :=
  if 'A' ≤ c ∧ c ≤ 'Z' then some (c.toNat - 'A'.toNat)
  else if 'a' ≤ c ∧ c ≤ 'z' then some (c.toNat - 'a'.toNat + 26)
  else if '0' ≤ c ∧ c ≤ '9' then some (c.toNat - '0'.toNat + 52)
  else if c = '+' then some 62
  else if c = '/' then some 63
  else none

/-- The octets of the last group of characters. -/
def decodeLast? (a b c d : Char) : Option (List UInt8) :=
  match digit? a, digit? b, digit? c, digit? d with
  | some i, some j, some k, some l =>
    some [UInt8.ofNat (i * 4 + j / 16), UInt8.ofNat (j % 16 * 16 + k / 4),
      UInt8.ofNat (k % 4 * 64 + l)]
  | some i, some j, some k, none =>
    if d = '=' ∧ k % 4 = 0 then
      some [UInt8.ofNat (i * 4 + j / 16), UInt8.ofNat (j % 16 * 16 + k / 4)]
    else none
  | some i, some j, none, none =>
    if c = '=' ∧ d = '=' ∧ j % 16 = 0 then some [UInt8.ofNat (i * 4 + j / 16)] else none
  | _, _, _, _ => none

/-- The octets of characters. -/
def decode? : List Char → Option (List UInt8)
  | [] => some []
  | [a, b, c, d] => decodeLast? a b c d
  | a :: b :: c :: d :: rest =>
    match digit? c, digit? d, decodeLast? a b c d, decode? rest with
    | some _, some _, some octets, some others => some (octets ++ others)
    | _, _, _, _ => none
  | _ => none

end FleetOperator.Base64
