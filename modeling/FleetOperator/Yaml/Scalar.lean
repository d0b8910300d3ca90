import FleetOperator.Json.Value
import FleetOperator.Number.Digits
import FleetOperator.Yaml.Node

/-!
# What a YAML scalar means

The readings of a scalar's text as null, a boolean, an integer or a binary64 number, and the
reading that is chosen for a scalar when no type is asked of it. Digits after a leading zero are
text, and so are the words that only older versions of YAML take for booleans.
-/

namespace FleetOperator.Yaml

/-- Whether a text is a spelling of null, the empty text apart. -/
def isNullWord (text : String) : Bool :=
  text == "null" || text == "Null" || text == "NULL" || text == "~"

/-- The boolean that a text spells. -/
def readBool? (text : String) : Option Bool :=
  if text == "true" || text == "True" || text == "TRUE" then some true
  else if text == "false" || text == "False" || text == "FALSE" then some false
  else none

/-- The value of a digit in a radix of at most sixteen. -/
def digitValue? (radix : Nat) (c : Char) : Option Nat :=
  let value? :=
    if '0' ≤ c ∧ c ≤ '9' then some (c.toNat - 48)
    else if 'a' ≤ c ∧ c ≤ 'f' then some (c.toNat - 87)
    else if 'A' ≤ c ∧ c ≤ 'F' then some (c.toNat - 55)
    else none
  value?.filter (· < radix)

/-- The number that at least one digit of a radix writes. -/
def readRadix? (radix : Nat) (digits : List Char) : Option Nat :=
  if digits.isEmpty then none
  else digits.foldlM (fun n c ↦ (digitValue? radix c).map (n * radix + ·)) 0

/-- Whether a text has digits alone, after an optional sign, and more than one of which the first
is a zero. -/
def isZeroPadded (text : List Char) : Bool :=
  let digits := match text with
    | '-' :: rest => rest
    | '+' :: rest => rest
    | _ => text
  match digits with
  | '0' :: next :: rest => (next :: rest).all Char.isDigit
  | _ => false

/-- The natural number that a text without a sign writes after a mark of its radix, when there is
such a mark and the digits after it are good. -/
def readMarked? : List Char → Option Nat
  | '0' :: 'x' :: digits => readRadix? 16 digits
  | '0' :: 'o' :: digits => readRadix? 8 digits
  | '0' :: 'b' :: digits => readRadix? 2 digits
  | _ => none

/-- The natural number that a text writes, with an optional plus sign. -/
def readNatural? (text : List Char) : Option Nat :=
  let unsigned := match text with
    | '+' :: rest => rest
    | _ => text
  match readMarked? unsigned with
  | some n => some n
  | none => if isZeroPadded text then none else readRadix? 10 unsigned

/-- The negative integer, or zero, that a text writes after a minus sign. -/
def readNegative? : List Char → Option Int
  | '-' :: rest =>
    match readMarked? rest with
    | some n => some (-(n : Int))
    | none => if isZeroPadded rest then none else (readRadix? 10 rest).map fun n ↦ -(n : Int)
  | _ => none

/-- The integer that a text writes. -/
def readInteger? (text : String) : Option Int :=
  match readNatural? text.toList with
  | some n => some n
  | none => readNegative? text.toList

/-- The binary64 number nearest to the decimal that a text without a plus sign writes: digits with
an optional point, at least one of them, and an optional exponent. -/
def readDecimal? (text : List Char) : Option Double := do
  let (negative, text) := match text with
    | '-' :: rest => (true, rest)
    | _ => (false, text)
  let whole := text.takeWhile Char.isDigit
  let text := text.dropWhile Char.isDigit
  let (fraction, text) := match text with
    | '.' :: rest => (rest.takeWhile Char.isDigit, rest.dropWhile Char.isDigit)
    | _ => ([], text)
  if whole.isEmpty && fraction.isEmpty then none
  else
    let exponent ← match text with
      | [] => some 0
      | 'e' :: rest => Digits.toInt? rest
      | 'E' :: rest => Digits.toInt? rest
      | _ => none
    Double.ofDecimal negative (Digits.toNat (whole ++ fraction)) (exponent - fraction.length)

/-- A reading as a binary64 number: a finite one, or one of the words for infinity and for no
number. -/
inductive Floating where
  | finite (value : Double)
  | special
deriving DecidableEq, Repr

/-- The binary64 number that a text writes. -/
def readFloating? (text : String) : Option Floating :=
  let unsigned? := match text.toList with
    | '+' :: '+' :: _ => none
    | '+' :: '-' :: _ => none
    | '+' :: rest => some rest
    | chars => some chars
  match unsigned? with
  | none => none
  | some unsigned =>
    if unsigned == ".inf".toList || unsigned == ".Inf".toList || unsigned == ".INF".toList
        || text == "-.inf" || text == "-.Inf" || text == "-.INF"
        || text == ".nan" || text == ".NaN" || text == ".NAN" then some .special
    else (readDecimal? unsigned).map .finite

/-- The meaning of a scalar when no type is asked of it. An integer that fits no type of 64 bits
but one of 128 bits is `oversized`. -/
inductive Meaning where
  | null
  | bool (value : Bool)
  | integer (value : Int)
  | oversized
  | floating (value : Floating)
  | text (value : String)
deriving DecidableEq, Repr

/-- The meaning of an integer by its size. Beyond 128 bits it is no integer. -/
def Meaning.ofInteger? (n : Int) : Option Meaning :=
  if -(Nat.pow 2 63) ≤ n ∧ n < Nat.pow 2 64 then some (.integer n)
  else if -(Nat.pow 2 127) ≤ n ∧ n < Nat.pow 2 128 then some .oversized
  else none

/-- The meaning of a plain scalar without a tag of a core type. -/
def Meaning.ofPlain (text : String) : Meaning :=
  if text == "" || isNullWord text then .null
  else
    match readBool? text with
    | some value => .bool value
    | none =>
      match (readInteger? text).bind ofInteger? with
      | some meaning => meaning
      | none =>
        if isZeroPadded text.toList then .text text
        else
          match readFloating? text with
          | some value => .floating value
          | none => .text text

/-- The meaning of a scalar, or nothing when its tag asks for a type that its text does not
write or is a local tag. -/
def Scalar.meaning? (s : Scalar) : Option Meaning :=
  match s.tag with
  | none => some (if s.style == .plain then .ofPlain s.text else .text s.text)
  | some tag =>
    if (localName? s.tag).isSome then none
    else if tag == coreTag "bool" then (readBool? s.text).map .bool
    else if tag == coreTag "int" then (readInteger? s.text).bind Meaning.ofInteger?
    else if tag == coreTag "float" then (readFloating? s.text).map .floating
    else if tag == coreTag "null" then if isNullWord s.text then some .null else none
    else some (.text s.text)

end FleetOperator.Yaml
