import FleetOperator.Number.Shortest
import FleetOperator.Yaml.Cursor
import FleetOperator.Yaml.Scalar

/-!
# Writing YAML

A JSON value as a YAML document in block style. Sequences are not indented under their key, and
empty collections are written in flow style. A text is written plainly where it reads back as the
same text: texts that would read as something else are quoted, texts with line feeds are literal
blocks, and what neither quotes nor blocks can hold is escaped between double quotes.
-/

namespace FleetOperator.Yaml

/-- Whether a character needs no escape in a document. -/
def isPrintable (c : Char) : Bool :=
  let n := c.toNat
  n == 0x0A || (0x20 ≤ n && n ≤ 0x7E) || (0xA0 ≤ n && n ≤ 0xD7FF) ||
    (0xE000 ≤ n && n ≤ 0xFFFD && n != 0xFEFF) || 0x10000 ≤ n

/-- What stands in a text as far as it decides the styles in which the text may be written. -/
structure Traits where
  hasIndicator : Bool := false
  hasSpecial : Bool := false
  hasBreak : Bool := false
  spaceBeforeBreak : Bool := false
  breakBeforeSpace : Bool := false
deriving DecidableEq, Repr

/-- Whether a character at the start of a plain text would be read as a mark. -/
def isLeadingMark (c : Char) (gapAfter : Bool) : Bool :=
  reservedMarks.contains c || ((c == '?' || c == ':' || c == '-') && gapAfter)

/-- Whether a character within a plain text would be read as a mark. -/
def isInnerMark (c : Char) (gapBefore gapAfter : Bool) : Bool :=
  (c == ':' && gapAfter) || (c == '#' && gapBefore)

/-- The traits of the rest of a text, after a character. -/
def traitsAfter : Traits → Char → List Char → Traits
  | t, _, [] => t
  | t, previous, c :: rest =>
    let t := { t with
      hasIndicator :=
        t.hasIndicator || isInnerMark c (isGap (some previous)) (isGap rest.head?)
      hasSpecial := t.hasSpecial || !isPrintable c
      hasBreak := t.hasBreak || isBreak c
      spaceBeforeBreak := t.spaceBeforeBreak || (previous == ' ' && isBreak c)
      breakBeforeSpace := t.breakBeforeSpace || (isBreak previous && c == ' ') }
    traitsAfter t c rest

/-- Whether a text starts like a line that starts or ends a document. -/
def startsLikeMarker (text : List Char) : Bool :=
  text.take 3 == ['-', '-', '-'] || text.take 3 == ['.', '.', '.']

/-- The traits of a text. -/
def traits (text : List Char) : Traits :=
  match text with
  | [] => {}
  | c :: rest =>
    traitsAfter
      { hasIndicator := startsLikeMarker text || isLeadingMark c (isGap rest.head?)
        hasSpecial := !isPrintable c
        hasBreak := isBreak c }
      c rest

/-- Whether a text has a space or a line end at its start or its end. -/
def hasLooseEnd (text : List Char) : Bool :=
  let isLoose (c : Char) : Bool := c == ' ' || isBreak c
  text.head?.any isLoose || text.getLast?.any isLoose

/-- Whether a text may be written plainly. -/
def allowsPlain (text : List Char) : Bool :=
  let t := traits text
  !t.hasIndicator && !t.hasSpecial && !t.hasBreak && !hasLooseEnd text

/-- Whether a text may be written between single quotes. -/
def allowsSingleQuotes (text : List Char) : Bool :=
  let t := traits text
  !t.hasSpecial && !t.spaceBeforeBreak && !t.breakBeforeSpace

/-- Whether a text may be written as a literal block. -/
def allowsLiteral (text : List Char) : Bool :=
  let t := traits text
  !text.isEmpty && !t.hasSpecial && !t.spaceBeforeBreak && text.getLast? != some ' '

/-- The style that a text is written in, as a key on one line or as a value. -/
def styleOf (isKey : Bool) (text : String) : Style :=
  let chars := text.toList
  let quoted : Style := if allowsSingleQuotes chars then .singleQuoted else .doubleQuoted
  if isKey && (traits chars).hasBreak then .doubleQuoted
  else if chars.contains '\n' then
    if allowsLiteral chars && !isKey then .literal else .doubleQuoted
  else if Meaning.ofPlain text != .text text || isZeroPadded chars then quoted
  else if allowsPlain chars then .plain
  else quoted

/-- The upper-case hexadecimal digits of a number, a given count of them. -/
def hexDigits (count n : Nat) : List Char :=
  match count with
  | 0 => []
  | count + 1 =>
    let digit := n / Nat.pow 16 count % 16
    Char.ofNat (if digit < 10 then 48 + digit else 55 + digit) :: hexDigits count n

/-- A character between double quotes. -/
def escape (c : Char) : List Char :=
  if isPrintable c && !isBreak c && c != '"' && c != '\\' then [c]
  else
    match c with
    | '\x00' => ['\\', '0']
    | '\x07' => ['\\', 'a']
    | '\x08' => ['\\', 'b']
    | '\t' => ['\\', 't']
    | '\n' => ['\\', 'n']
    | '\x0b' => ['\\', 'v']
    | '\x0c' => ['\\', 'f']
    | '\r' => ['\\', 'r']
    | '\x1b' => ['\\', 'e']
    | '"' => ['\\', '"']
    | '\\' => ['\\', '\\']
    | '\x85' => ['\\', 'N']
    | '\u2028' => ['\\', 'L']
    | '\u2029' => ['\\', 'P']
    | c =>
      let n := c.toNat
      if n ≤ 0xFF then '\\' :: 'x' :: hexDigits 2 n
      else if n ≤ 0xFFFF then '\\' :: 'u' :: hexDigits 4 n
      else '\\' :: 'U' :: hexDigits 8 n

/-- Some spaces. -/
def spaces (n : Nat) : List Char := List.replicate n ' '

/-- A line of a scalar, where a line separator within it is followed by the indentation. -/
def indentSeparators (indent : Nat) : Bool → List Char → List Char
  | _, [] => []
  | afterBreak, c :: rest =>
    if isBreak c then c :: indentSeparators indent true rest
    else (if afterBreak then spaces indent else []) ++ c :: indentSeparators indent false rest

/-- A text between single quotes, in which a quote is written twice. A closing quote after a line
separator is indented too. -/
def singleQuoted (indent : Nat) (text : List Char) : List Char :=
  let doubled := text.flatMap fun c ↦ if c = '\'' then ['\'', '\''] else [c]
  '\'' :: indentSeparators indent false doubled ++
    (if text.getLast?.any isBreak then spaces indent else []) ++ ['\'']

/-- A text between double quotes. -/
def doubleQuoted (text : List Char) : List Char := '"' :: text.flatMap escape ++ ['"']

/-- The lines of a text that line feeds end, a last line without one among them. -/
def linesOf : List Char → List (List Char)
  | [] => []
  | '\n' :: rest => [] :: linesOf rest
  | c :: rest =>
    match linesOf rest with
    | [] => [[c]]
    | line :: lines => (c :: line) :: lines

/-- How many spaces a block is indented more than the one around it. -/
def indentStep : Nat := 2

/-- The marks after the indicator of a literal block: the indentation when the first line does not
show it, and what to keep of the line ends at the end. -/
def literalHints (text : List Char) : List Char :=
  let indentation :=
    if text.head?.any fun c ↦ c == ' ' || isBreak c then Digits.ofNat indentStep else []
  let chomping := match text.reverse with
    | [] => ['-']
    | [last] => if isBreak last then ['+'] else ['-']
    | last :: before :: _ =>
      if !isBreak last then ['-'] else if isBreak before then ['+'] else []
  indentation ++ chomping

/-- The rows of a text in a style: the first one follows on a line that is begun, and all others
are whole lines. -/
def textRows (indent : Nat) (style : Style) (text : List Char) : List (List Char) :=
  match style with
  | .plain => [text]
  | .singleQuoted => [singleQuoted indent text]
  | .literal =>
    ('|' :: literalHints text) :: (linesOf text).map (indentSeparators indent true)
  | _ => [doubleQuoted text]

/-- How many octets a key on one line may have. -/
def simpleKeyLimit : Nat := 128

/-- Whether a key is written on one line with its value. -/
def isSimpleKey (key : String) : Bool :=
  !(key.toList.any isBreak) && key.utf8ByteSize ≤ simpleKeyLimit

/-- Rows that follow a mark on its line. -/
def after (mark : List Char) : List (List Char) → List (List Char)
  | [] => [mark]
  | first :: rest => (mark ++ first) :: rest

/-- Rows that follow below a mark, the first one indented. -/
def below (mark : List Char) (indent : Nat) : List (List Char) → List (List Char)
  | [] => [mark]
  | first :: rest => mark :: (spaces indent ++ first) :: rest

/-- Rows that start a new line, the first one indented. -/
def fresh (indent : Nat) : List (List Char) → List (List Char)
  | [] => []
  | first :: rest => (spaces indent ++ first) :: rest

/-- Whether a value is a collection that is not empty. -/
def isOpen : Json → Bool
  | .array (_ :: _) => true
  | .object (_ :: _) => true
  | _ => false

/-- How far the value of an entry is indented more than its key. -/
def valueStep (key : String) : Json → Nat
  | .array (_ :: _) => if isSimpleKey key then 0 else indentStep
  | _ => indentStep

/-- The rows of the key of an entry together with those of its value, which follow on the line of
the key's colon, or below it for a collection that is not empty. -/
def entryRows (indent : Nat) (key : String) (value : Json) (nested : List (List Char)) :
    List (List Char) :=
  let rowsOfKey (isKey : Bool) :=
    textRows (indent + indentStep) (styleOf isKey key) key.toList
  if isSimpleKey key then
    let mark := (rowsOfKey true).flatten ++ [':']
    if isOpen value then below mark (indent + valueStep key value) nested
    else after (mark ++ [' ']) nested
  else after ['?', ' '] (rowsOfKey false) ++ fresh indent (after [':', ' '] nested)

mutual

/-- The rows of a value whose collections are indented to a column and whose literal blocks are
indented to the column of collections in it. -/
def rows (indent : Nat) : Json → List (List Char)
  | .null => [['n', 'u', 'l', 'l']]
  | .bool true => [['t', 'r', 'u', 'e']]
  | .bool false => [['f', 'a', 'l', 's', 'e']]
  | .number (.integer n) => [Digits.ofInt n]
  | .number (.double d) => [d.text.toList]
  | .text value => textRows indent (styleOf false value) value.toList
  | .array [] => [['[', ']']]
  | .array (item :: items) => itemRows indent true (item :: items)
  | .object [] => [['\x7b', '\x7d']]
  | .object (field :: fields) => fieldRows indent true (field :: fields)

/-- The rows of the items of a sequence. -/
def itemRows (indent : Nat) : Bool → List Json → List (List Char)
  | _, [] => []
  | isFirst, item :: rest =>
    let own := after ['-', ' '] (rows (indent + indentStep) item)
    (if isFirst then own else fresh indent own) ++ itemRows indent false rest

/-- The rows of the entries of a mapping. -/
def fieldRows (indent : Nat) : Bool → List (String × Json) → List (List Char)
  | _, [] => []
  | isFirst, (key, value) :: rest =>
    let own := entryRows indent key value (rows (indent + valueStep key value) value)
    (if isFirst then own else fresh indent own) ++ fieldRows indent false rest

end

/-- The document of a value. -/
def write (value : Json) : String :=
  let top := match value with
    | .text _ => indentStep
    | _ => 0
  String.ofList ((rows top value).flatMap fun row ↦ row ++ ['\n'])

end FleetOperator.Yaml
