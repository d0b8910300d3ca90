import FleetOperator.Number.Digits

/-!
# Resource quantities

The amounts that Kubernetes resources are written in: a sign, decimal digits with at most one
point, and a suffix that scales by a power of ten or of two. An amount is counted in nano units,
with any finer part rounded up in magnitude. The arithmetic is that of 128-bit integers: a text
whose digits, scale or scaled amount do not fit is no quantity. A few operations are not checked,
and a reading breaks off where the result of one of these does not fit: `Quantity.read` tells such an
overflow from a text that is no quantity.
-/

namespace FleetOperator.Quantity

/-- An integer that fits 128 bits. -/
def fit128 (n : Int) : Option Int :=
  if -(Nat.pow 2 127) ≤ n ∧ n < Nat.pow 2 127 then some n else none

/-- An integer that fits 32 bits. -/
def fit32 (n : Int) : Option Int :=
  if -(Nat.pow 2 31) ≤ n ∧ n < Nat.pow 2 31 then some n else none

/-- The failure of an unchecked operation whose result does not fit. -/
inductive Overflow where
  | overflow
deriving DecidableEq, Repr

/-- The result of an unchecked operation on integers whose results that fit are known. -/
def unchecked (fit : Int → Option Int) (n : Int) : ExceptT Overflow Option Int :=
  match fit n with
  | some n => pure n
  | none => throw .overflow

/-- The integer that an exponent writes: an optional sign and at least one digit. -/
def exponent? (text : List Char) : Option Int := (Digits.toInt? text).bind fit32

/-- What a suffix scales by: the power of ten and the power of two. -/
def scale? : List Char → Option (Int × Nat)
  | [] => some (0, 0)
  | ['n'] => some (-9, 0)
  | ['u'] => some (-6, 0)
  | ['m'] => some (-3, 0)
  | ['k'] => some (3, 0)
  | ['M'] => some (6, 0)
  | ['G'] => some (9, 0)
  | ['T'] => some (12, 0)
  | ['P'] => some (15, 0)
  | ['E'] => some (18, 0)
  | ['K', 'i'] => some (0, 10)
  | ['M', 'i'] => some (0, 20)
  | ['G', 'i'] => some (0, 30)
  | ['T', 'i'] => some (0, 40)
  | ['P', 'i'] => some (0, 50)
  | ['E', 'i'] => some (0, 60)
  | 'e' :: rest => (exponent? rest).map (·, 0)
  | 'E' :: rest => (exponent? rest).map (·, 0)
  | _ => none

/-- Whether a character may stand in the number of a quantity. -/
def isNumberChar (c : Char) : Bool := c.isDigit || c == '.'

/-- The digits before and after the first point, all of them when there is no point. -/
def splitAtPoint (number : List Char) : List Char × List Char :=
  (number.takeWhile (· != '.'), (number.dropWhile (· != '.')).tail)

/-- The power of ten with a natural exponent, when it fits 128 bits. Exponents that are certain not
to fit are refused without computing the power. -/
def power10? (n : Nat) : Option Int :=
  if n ≤ 38 then some (Nat.pow 10 n) else none

/-- An amount `mantissa · 2 ^ binary · 10 ^ decimal` in whole units, rounded up. -/
def scaled? (mantissa : Nat) (binary : Nat) (decimal : Int) : ExceptT Overflow Option Int := do
  let whole ← fit128 mantissa
  let value ← fit128 (whole * Nat.pow 2 binary)
  if 0 ≤ decimal then
    let power ← power10? decimal.toNat
    fit128 (value * power)
  else
    let places ← unchecked fit32 (-decimal)
    let divisor ← power10? places.toNat
    let sum ← unchecked fit128 (value + divisor)
    let sum ← unchecked fit128 (sum - 1)
    return sum.tdiv divisor

/-- The amount that a text without its sign writes, in nano units. -/
def magnitude? (text : List Char) : ExceptT Overflow Option Int := do
  let number := text.takeWhile isNumberChar
  let suffix := text.dropWhile isNumberChar
  let (whole, fraction) := splitAtPoint number
  if whole.isEmpty && fraction.isEmpty then ExceptT.mk none
  else if fraction.contains '.' then ExceptT.mk none
  else
    let (decimal, binary) ← scale? suffix
    let places ← fit32 fraction.length
    let decimal ← fit32 (decimal - places)
    let decimal ← fit32 (decimal + 9)
    scaled? (Digits.toNat (whole ++ fraction)) binary decimal

/-- The amount that a text writes, in nano units, as far as it can be computed. -/
def amount? (text : String) : ExceptT Overflow Option Int :=
  match text.toList with
  | [] => ExceptT.mk none
  | '-' :: rest => do unchecked fit128 (-(← magnitude? rest))
  | '+' :: rest => magnitude? rest
  | chars => magnitude? chars

/-- The amount that a text writes, in nano units: nothing when the text is no quantity, and an
overflow when the reading breaks off. -/
def read (text : String) : Except Overflow (Option Int) :=
  match (amount? text).run with
  | none => .ok none
  | some (.ok amount) => .ok (some amount)
  | some (.error e) => .error e

/-- The empty text is no quantity. -/
@[simp] theorem read_empty : read "" = .ok none := by
  simp [read, amount?]

/-- The amount that is read of a text, or nothing when none is. -/
def parse? (text : String) : Option Int :=
  match read text with
  | .ok amount => amount
  | .error _ => none

end FleetOperator.Quantity
