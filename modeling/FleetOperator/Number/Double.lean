/-!
# Finite binary64 numbers

A finite binary64 number is kept as its sign and its rank: its place among the non-negative finite
numbers in increasing order. The rank of a magnitude `m · 2 ^ q` in lowest normalized terms is
`(q + 1074) · 2 ^ 52 + m`, so rounding a quotient to nearest is one integer division, and a carry
into the next binade needs no case of its own.
-/

namespace FleetOperator

/-- The rank that infinity would have: every finite rank is below it. -/
def Double.infinityRank : Nat := 0x7FF0000000000000

/-- A finite binary64 number: its sign, and the place of its magnitude among the non-negative
finite numbers in increasing order. -/
structure Double where
  negative : Bool
  rank : Nat
  rank_lt : rank < Double.infinityRank := by decide
deriving DecidableEq, Repr

namespace Double

instance : Inhabited Double := ⟨{ negative := false, rank := 0 }⟩

/-- Positive zero. -/
def zero : Double := { negative := false, rank := 0 }

/-- The integer significand of the magnitude. -/
def significand (d : Double) : Nat :=
  if d.rank < Nat.pow 2 52 then d.rank else Nat.pow 2 52 + d.rank % Nat.pow 2 52

/-- The power of two that the significand is multiplied by. -/
def exponent (d : Double) : Int :=
  if d.rank < Nat.pow 2 52 then -1074 else (d.rank / Nat.pow 2 52 : Nat) - 1075

/-- Whether the number is positive or negative zero. -/
def isZero (d : Double) : Bool := d.rank == 0

/-- The numerator of the magnitude written as a quotient of natural numbers. -/
def numerator (d : Double) : Nat := d.significand * Nat.pow 2 d.exponent.toNat

/-- The denominator of the magnitude written as a quotient of natural numbers. -/
def denominator (d : Double) : Nat := Nat.pow 2 (-d.exponent).toNat

/-- Equality of the numbers denoted: the two zeros are equal. -/
def sameValue (a b : Double) : Bool :=
  a.rank == b.rank && (a.negative == b.negative || a.rank == 0)

/-- The quotient of two natural numbers rounded to the nearest natural number, a half going to the
even neighbour. -/
def divideToEven (num den : Nat) : Nat :=
  let quotient := num / den
  let twice := 2 * (num % den)
  if twice < den then quotient
  else if den < twice then quotient + 1
  else quotient + quotient % 2

/-- The exponent at which a positive quotient has a significand of 53 bits, or the least exponent
when the quotient is too small for that. -/
def exponentOfRatio (num den : Nat) : Int :=
  let guess : Int := max (-1074) ((num.log2 : Int) - den.log2 - 52)
  if -1074 < guess ∧
      num * Nat.pow 2 (-guess).toNat < den * Nat.pow 2 guess.toNat * Nat.pow 2 52 then guess - 1
  else guess

/-- The rank of the binary64 number nearest to a quotient of natural numbers, as if the range of
exponents had no upper end. -/
def rankOfRatio (num den : Nat) : Nat :=
  if num = 0 then 0
  else
    let q := exponentOfRatio num den
    (q + 1074).toNat * Nat.pow 2 52 +
      divideToEven (num * Nat.pow 2 (-q).toNat) (den * Nat.pow 2 q.toNat)

/-- The number of a given sign and rank, or nothing when the rank is beyond the finite ones. -/
def ofRank (negative : Bool) (rank : Nat) : Option Double :=
  if h : rank < infinityRank then some ⟨negative, rank, h⟩ else none

/-- The binary64 number nearest to a quotient of natural numbers, or nothing when it is too large
to be finite. -/
def ofRatio (negative : Bool) (num den : Nat) : Option Double :=
  ofRank negative (rankOfRatio num den)

/-- The binary64 number nearest to an integer, or nothing when it is too large to be finite. -/
def ofInt (value : Int) : Option Double :=
  ofRatio (value < 0) value.natAbs 1

/-- The binary64 number nearest to `digits · 10 ^ exponent`, or nothing when it is too large to be
finite. Exponents that are certain to leave the range are settled without computing the power. -/
def ofDecimal (negative : Bool) (digits : Nat) (exponent : Int) : Option Double :=
  if digits = 0 then ofRank negative 0
  else if 310 < exponent then none
  else if (digits.log2 : Int) + 3 * exponent + 1100 < 0 then ofRank negative 0
  else ofRatio negative (digits * Nat.pow 10 exponent.toNat) (Nat.pow 10 (-exponent).toNat)

/-- The quotient or the product of a magnitude with the binary64 number nearest to a power of ten
between `1` and `10 ^ 308`, rounded. -/
def scaleOnce (rank : Nat) (exponent : Int) : Nat :=
  match ofRank false rank, ofRatio false (Nat.pow 10 exponent.natAbs) 1 with
  | some d, some power =>
    if 0 ≤ exponent then
      rankOfRatio (d.numerator * power.numerator) (d.denominator * power.denominator)
    else rankOfRatio (d.numerator * power.denominator) (d.denominator * power.numerator)
  | _, _ => infinityRank

/-- A magnitude divided by `10 ^ 308` again and again until the rest of a negative exponent is
within the powers of ten that binary64 holds; the number of rounds is given. -/
def scaleDown : Nat → Nat → Int → Nat
  | 0, rank, exponent => scaleOnce rank exponent
  | rounds + 1, rank, exponent =>
    if rank = 0 then 0
    else if -308 ≤ exponent then scaleOnce rank exponent
    else scaleDown rounds (scaleOnce rank (-308)) (exponent + 308)

/-- The binary64 number that a JSON number with a fraction or an exponent denotes: its leading
digits as a binary64 number, scaled by powers of ten with a rounding at each step. Nothing when it
is too large to be finite. -/
def ofScaledDigits (negative : Bool) (digits : Nat) (exponent : Int) : Option Double :=
  let start := rankOfRatio digits 1
  if start = 0 then ofRank negative 0
  else if 308 < exponent then none
  else if 0 ≤ exponent then ofRank negative (scaleOnce start exponent)
  else ofRank negative (scaleDown 4 start (max exponent (-1540)))

end Double

end FleetOperator
