/-!
# Places in a YAML text

A cursor is a place in a text: what is left to read, and the index, the line and the column that
were reached. A line ends at a line feed, a carriage return, both together, or one of the line
separators of Unicode.
-/

namespace FleetOperator.Yaml

/-- Whether a character ends a line. -/
def isBreak (c : Char) : Bool :=
  c == '\n' || c == '\r' || c == '\x85' || c == '\u2028' || c == '\u2029'

/-- Whether a character is a space or a tab. -/
def isSpaceOrTab (c : Char) : Bool := c == ' ' || c == '\t'

/-- Whether a place holds no character, the end of a line, or a space or a tab. -/
def isGap : Option Char → Bool
  | none => true
  | some c => isBreak c || isSpaceOrTab c

/-- Whether a place holds no character or the end of a line. -/
def isLineEnd : Option Char → Bool
  | none => true
  | some c => isBreak c

/-- Whether a character may stand in the name of an anchor or of a tag's handle. -/
def isWordChar (c : Char) : Bool :=
  c.isDigit || ('a' ≤ c && c ≤ 'z') || ('A' ≤ c && c ≤ 'Z') || c == '_' || c == '-'

/-- The characters that start no plain scalar, wherever they stand. -/
def reservedMarks : List Char :=
  [',', '[', ']', '\x7b', '\x7d', '#', '&', '*', '!', '|', '>', '\x27', '"', '%', '@', '\x60']

/-- Whether a character may stand in a document at all. -/
def isAllowed (c : Char) : Bool :=
  let n := c.toNat
  n == 0x09 || n == 0x0A || n == 0x0D || (0x20 ≤ n && n ≤ 0x7E) || n == 0x85 ||
    (0xA0 ≤ n && n ≤ 0xD7FF) || (0xE000 ≤ n && n ≤ 0xFFFD) || 0x10000 ≤ n

/-- A place in a text. -/
structure Cursor where
  rest : List Char
  index : Nat := 0
  line : Nat := 0
  column : Nat := 0

namespace Cursor

/-- The character at a place. -/
def head? (c : Cursor) : Option Char := c.rest.head?

/-- The character some characters after a place. -/
def peek? (c : Cursor) (n : Nat) : Option Char := (c.rest.drop n).head?

/-- Whether a character is at a place. -/
def isAt (c : Cursor) (x : Char) : Bool := c.head? == some x

/-- The place after the next character. -/
def skip (c : Cursor) : Cursor :=
  match c.rest with
  | [] => c
  | _ :: rest => { c with rest, index := c.index + 1, column := c.column + 1 }

/-- The place after some characters of one line. -/
def skipMany (c : Cursor) (n : Nat) : Cursor :=
  { c with rest := c.rest.drop n, index := c.index + n, column := c.column + n }

/-- The end of the line at a place as it counts in a text, and the place after it. At any other
character there is nothing to read. -/
def readBreak (c : Cursor) : List Char × Cursor :=
  match c.rest with
  | '\r' :: '\n' :: rest =>
    (['\n'], { rest, index := c.index + 2, line := c.line + 1, column := 0 })
  | x :: rest =>
    if isBreak x then
      (if x == '\u2028' || x == '\u2029' then [x] else ['\n'],
        { rest, index := c.index + 1, line := c.line + 1, column := 0 })
    else ([], c)
  | [] => ([], c)

/-- The place after the end of the line at a place. -/
def skipBreak (c : Cursor) : Cursor := c.readBreak.2

/-- The characters in front that pass a test, and the place after them. They may not end a line. -/
def readWhile (c : Cursor) (test : Char → Bool) : List Char × Cursor :=
  let found := c.rest.takeWhile test
  (found, c.skipMany found.length)

/-- The place after the spaces and tabs in front. -/
def skipBlanks (c : Cursor) : Cursor := (c.readWhile isSpaceOrTab).2

/-- The place at the end of the line. -/
def skipToLineEnd (c : Cursor) : Cursor := (c.readWhile fun x ↦ !isBreak x).2

/-- The place after the blanks and the comment that may end a line, and after its end; nothing when
something else stands there. -/
def skipLineRest? (c : Cursor) : Option Cursor :=
  let c := c.skipBlanks
  let c := if c.isAt '#' then c.skipToLineEnd else c
  if isLineEnd c.head? then some c.skipBreak else none

/-- Whether a place is at the start of a line with three times a character and then a gap. -/
def isMarker (c : Cursor) (x : Char) : Bool :=
  c.column == 0 && c.peek? 0 == some x && c.peek? 1 == some x && c.peek? 2 == some x &&
    isGap (c.peek? 3)

/-- Whether a place is at a line that starts or ends a document. -/
def isDocumentMarker (c : Cursor) : Bool := c.isMarker '-' || c.isMarker '.'

end Cursor

end FleetOperator.Yaml
