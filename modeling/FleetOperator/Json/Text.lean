import FleetOperator.Json.Value
import FleetOperator.Number.Digits
import FleetOperator.Number.Shortest

/-!
# JSON text

Reading a value from its text and writing it. `Json.read?` gives objects in key order;
`Json.write` writes fields in the order they have and needs no blank between tokens.
-/

namespace FleetOperator.Json

/-- A blank character between tokens. -/
def isSpace (c : Char) : Bool := c == ' ' || c == '\t' || c == '\n' || c == '\r'

/-- Text without the blanks in front. -/
def skipSpace : List Char → List Char
  | [] => []
  | c :: rest => if isSpace c then skipSpace rest else c :: rest

/-- The value of a hexadecimal digit. -/
def hexDigit? (c : Char) : Option Nat :=
  if '0' ≤ c ∧ c ≤ '9' then some (c.toNat - 48)
  else if 'a' ≤ c ∧ c ≤ 'f' then some (c.toNat - 87)
  else if 'A' ≤ c ∧ c ≤ 'F' then some (c.toNat - 55)
  else none

/-- The number that four hexadecimal digits write, and the text after them. -/
def readHex4 : List Char → Option (Nat × List Char)
  | a :: b :: c :: d :: rest => do
    let w ← hexDigit? a
    let x ← hexDigit? b
    let y ← hexDigit? c
    let z ← hexDigit? d
    return (((w * 16 + x) * 16 + y) * 16 + z, rest)
  | _ => none

/-- The character of an escape by code unit, where two surrogates make one character. -/
def readCodeUnit (rest : List Char) : Option (Char × List Char) := do
  let (unit, rest) ← readHex4 rest
  if 0xD800 ≤ unit ∧ unit < 0xDC00 then
    match rest with
    | '\\' :: 'u' :: rest =>
      let (low, rest) ← readHex4 rest
      if 0xDC00 ≤ low ∧ low < 0xE000 then
        return (Char.ofNat (0x10000 + (unit - 0xD800) * 0x400 + (low - 0xDC00)), rest)
      else none
    | _ => none
  else if 0xDC00 ≤ unit ∧ unit < 0xE000 then none
  else return (Char.ofNat unit, rest)

/-- The characters of a text after its opening quote, and what follows its closing quote. -/
def readChars : Nat → List Char → List Char → Option (List Char × List Char)
  | 0, _, _ => none
  | _ + 1, _, [] => none
  | fuel + 1, found, c :: rest =>
    if c = '"' then some (found.reverse, rest)
    else if c = '\\' then
      match rest with
      | '"' :: rest => readChars fuel ('"' :: found) rest
      | '\\' :: rest => readChars fuel ('\\' :: found) rest
      | '/' :: rest => readChars fuel ('/' :: found) rest
      | 'b' :: rest => readChars fuel ('\x08' :: found) rest
      | 'f' :: rest => readChars fuel ('\x0c' :: found) rest
      | 'n' :: rest => readChars fuel ('\n' :: found) rest
      | 'r' :: rest => readChars fuel ('\r' :: found) rest
      | 't' :: rest => readChars fuel ('\t' :: found) rest
      | 'u' :: rest =>
        match readCodeUnit rest with
        | some (unit, rest) => readChars fuel (unit :: found) rest
        | none => none
      | _ => none
    else if c.toNat < 0x20 then none
    else readChars fuel (c :: found) rest

/-- The digits in front of a text, and what follows them. -/
def readDigits (input : List Char) : List Char × List Char :=
  (input.takeWhile Char.isDigit, input.dropWhile Char.isDigit)

/-- The leading digits whose number is below `2 ^ 64`, given the number so far, and how many digits
are left over. -/
def leadingDigits : Nat → List Char → Nat × Nat
  | n, [] => (n, 0)
  | n, c :: rest =>
    let next := n * 10 + (c.toNat - 48)
    if next < Nat.pow 2 64 then leadingDigits next rest else (n, rest.length + 1)

/-- A number from its sign, its integer digits, its fraction digits and its exponent when there are
any. A number without fraction and exponent is an integer when it fits the range of the integers.
Of the digits of any other number those count that fit 64 bits. -/
def assemble (negative : Bool) (whole : List Char) (fraction : Option (List Char))
    (exponent : Option Int) : Option Number :=
  let exact : Int := if negative then -(Digits.toNat whole : Int) else Digits.toNat whole
  if fraction.isNone && exponent.isNone && (-(Nat.pow 2 63) ≤ exact && exact < Nat.pow 2 64)
      && !(negative && exact == 0) then
    some (.integer exact)
  else
    let (leading, dropped) := leadingDigits 0 whole
    let (digits, unused) :=
      if dropped = 0 then leadingDigits leading (fraction.getD []) else (leading, 0)
    let read : Int := if dropped = 0 then ((fraction.getD []).length - unused : Nat) else 0
    (Double.ofScaledDigits negative digits (dropped - read + exponent.getD 0)).map .double

/-- The number in front of a text, and what follows it. -/
def readNumber (input : List Char) : Option (Number × List Char) := do
  let (negative, input) := match input with
    | '-' :: rest => (true, rest)
    | _ => (false, input)
  let (whole, input) := readDigits input
  if whole.isEmpty || (whole.length != 1 && whole.head? == some '0') then none
  else
    let (fraction, input) ← match input with
      | '.' :: rest =>
        let (digits, rest) := readDigits rest
        if digits.isEmpty then none else some (some digits, rest)
      | _ => some (none, input)
    let (exponent, input) ←
      if input.head? == some 'e' || input.head? == some 'E' then
        let (below, rest) := match input.tail with
          | '+' :: rest => (false, rest)
          | '-' :: rest => (true, rest)
          | rest => (false, rest)
        let (digits, rest) := readDigits rest
        if digits.isEmpty then none
        else some (some (if below then -(Digits.toNat digits : Int) else Digits.toNat digits), rest)
      else some (none, input)
    let number ← assemble negative whole fraction exponent
    return (number, input)

/-- The text after a word that is in front of it. -/
def readWord : List Char → List Char → Option (List Char)
  | [], input => some input
  | w :: word, c :: input => if w = c then readWord word input else none
  | _ :: _, [] => none

mutual

/-- The value in front of a text, and what follows it. -/
def readValue : Nat → List Char → Option (Json × List Char)
  | 0, _ => none
  | fuel + 1, input =>
    match skipSpace input with
    | 'n' :: rest => (readWord ['u', 'l', 'l'] rest).map (null, ·)
    | 't' :: rest => (readWord ['r', 'u', 'e'] rest).map (bool true, ·)
    | 'f' :: rest => (readWord ['a', 'l', 's', 'e'] rest).map (bool false, ·)
    | '"' :: rest => (readChars (rest.length + 1) [] rest).map fun (chars, rest) ↦
        (Json.text (String.ofList chars), rest)
    | '[' :: rest =>
      match skipSpace rest with
      | ']' :: rest => some (array [], rest)
      | rest => (readItems fuel [] rest).map fun (items, rest) ↦ (array items, rest)
    | '{' :: rest =>
      match skipSpace rest with
      | '}' :: rest => some (object [], rest)
      | rest => (readFields fuel [] rest).map fun (fields, rest) ↦ (object fields, rest)
    | rest => (readNumber rest).map fun (n, rest) ↦ (number n, rest)

/-- The items of an array up to its closing bracket, and what follows it. -/
def readItems : Nat → List Json → List Char → Option (List Json × List Char)
  | 0, _, _ => none
  | fuel + 1, found, input =>
    match readValue fuel input with
    | none => none
    | some (item, rest) =>
      match skipSpace rest with
      | ',' :: rest => readItems fuel (item :: found) rest
      | ']' :: rest => some ((item :: found).reverse, rest)
      | _ => none

/-- The fields of an object up to its closing brace, and what follows it. -/
def readFields : Nat → List (String × Json) → List Char →
    Option (List (String × Json) × List Char)
  | 0, _, _ => none
  | fuel + 1, found, input =>
    match skipSpace input with
    | '"' :: rest =>
      match readChars (rest.length + 1) [] rest with
      | none => none
      | some (key, rest) =>
        match skipSpace rest with
        | ':' :: rest =>
          match readValue fuel rest with
          | none => none
          | some (value, rest) =>
            match skipSpace rest with
            | ',' :: rest => readFields fuel ((String.ofList key, value) :: found) rest
            | '}' :: rest => some (((String.ofList key, value) :: found).reverse, rest)
            | _ => none
        | _ => none
    | _ => none

end

/-- The value that a text writes, with every object in key order. -/
def read? (input : String) : Option Json :=
  let chars := input.toList
  match readValue (chars.length + 1) chars with
  | some (value, rest) => if (skipSpace rest).isEmpty then some value.sorted else none
  | none => none

/-- A lower-case hexadecimal digit. -/
def hexChar (n : Nat) : Char := if n < 10 then Char.ofNat (48 + n) else Char.ofNat (87 + n)

/-- A character as it is written in a text. -/
def escapeChar (c : Char) : List Char :=
  if c = '"' then ['\\', '"']
  else if c = '\\' then ['\\', '\\']
  else if c.toNat < 0x20 then
    ['\\', 'u', '0', '0', hexChar (c.toNat / 16), hexChar (c.toNat % 16)]
  else [c]

/-- A text in its quotes. -/
def writeText (value : String) : List Char :=
  '"' :: value.toList.flatMap escapeChar ++ ['"']

/-- A number as JSON text. -/
def writeNumber : Number → List Char
  | .integer value => Digits.ofInt value
  | .double value => value.text.toList

mutual

/-- A value as JSON text, in front of what follows. -/
def writeOnto : Json → List Char → List Char
  | null, rest => 'n' :: 'u' :: 'l' :: 'l' :: rest
  | bool true, rest => 't' :: 'r' :: 'u' :: 'e' :: rest
  | bool false, rest => 'f' :: 'a' :: 'l' :: 's' :: 'e' :: rest
  | number value, rest => writeNumber value ++ rest
  | Json.text value, rest => writeText value ++ rest
  | array items, rest => '[' :: writeItems true items (']' :: rest)
  | object fields, rest => '\x7b' :: writeFields true fields ('\x7d' :: rest)

/-- Items separated by commas. -/
def writeItems : Bool → List Json → List Char → List Char
  | _, [], rest => rest
  | true, item :: items, rest => writeOnto item (writeItems false items rest)
  | false, item :: items, rest => ',' :: writeOnto item (writeItems false items rest)

/-- Fields separated by commas. -/
def writeFields : Bool → List (String × Json) → List Char → List Char
  | _, [], rest => rest
  | true, (key, value) :: fields, rest =>
    writeText key ++ ':' :: writeOnto value (writeFields false fields rest)
  | false, (key, value) :: fields, rest =>
    ',' :: writeText key ++ ':' :: writeOnto value (writeFields false fields rest)

end

/-- The text of a value. -/
def write (value : Json) : String := String.ofList (writeOnto value [])

end FleetOperator.Json
