import FleetOperator.Yaml.Cursor

/-!
# The texts of scalars

Reading the text of a scalar in each of its styles, with line folding, escapes, indentation and
chomping. Every reader takes the place of the scalar's first character and gives the text together
with the place after it.
-/

namespace FleetOperator.Yaml

/-- Blanks and line ends between two parts of a scalar on one or more lines: the blanks of a gap
within a line, or the first line end and the further ones. -/
structure Gap where
  blanks : List Char := []
  broken : Bool := false
  first : List Char := []
  further : List Char := []

namespace Gap

/-- What a gap counts as in a folded text: blanks stay, one line end becomes a space, and of more
than one the first is dropped. -/
def folded (g : Gap) : List Char :=
  if g.broken then
    if g.first.head? == some '\n' then if g.further.isEmpty then [' '] else g.further
    else g.first ++ g.further
  else g.blanks

/-- Whether there is nothing in a gap. -/
def isEmpty (g : Gap) : Bool := !g.broken && g.blanks.isEmpty

end Gap

/-- The gap at a place, and the place after it. A tab in a line of its own below an indentation is
refused. -/
def readGap (indent : Int) : Nat → Gap → Cursor → Option (Gap × Cursor)
  | 0, g, c => some (g, c)
  | fuel + 1, g, c =>
    match c.head? with
    | none => some (g, c)
    | some x =>
      if isSpaceOrTab x then
        if g.broken && (c.column : Int) < indent && x == '\t' then none
        else if g.broken then readGap indent fuel g c.skip
        else readGap indent fuel { g with blanks := g.blanks ++ [x] } c.skip
      else if isBreak x then
        let (ended, next) := c.readBreak
        if g.broken then readGap indent fuel { g with further := g.further ++ ended } next
        else readGap indent fuel { g with broken := true, first := ended } next
      else some (g, c)

/-- Whether the characters of a plain scalar go on at a place; nothing at a colon that may not
stand there. -/
def plainGoesOn? (inFlow : Bool) (c : Cursor) : Option Bool :=
  match c.head? with
  | none => some false
  | some x =>
    if isGap (some x) then some false
    else
      let after := c.peek? 1
      let isFlowMark (y : Char) : Bool := y == ',' || y == '[' || y == ']' || y == '\x7b' || y == '\x7d'
      if inFlow && x == ':' && (after == some '?' || after.any isFlowMark) then none
      else if x == ':' && isGap after then some false
      else if inFlow && isFlowMark x then some false
      else some true

/-- The characters of a plain scalar up to the next gap or its end, most recent first. -/
def readPlainWord (inFlow : Bool) : Nat → List Char → Cursor → Option (List Char × Cursor)
  | 0, found, c => some (found, c)
  | fuel + 1, found, c =>
    match plainGoesOn? inFlow c with
    | none => none
    | some false => some (found, c)
    | some true =>
      match c.head? with
      | some x => readPlainWord inFlow fuel (x :: found) c.skip
      | none => some (found, c)

/-- What a plain scalar is: its text, the place where the reader stopped, and whether the last gap
it met ended a line. -/
structure PlainText where
  text : List Char
  next : Cursor
  lineEnded : Bool

/-- A plain scalar, given what was read of it, most recent character first, and the gap before the
place. -/
def readPlain (inFlow : Bool) (indent : Int) : Nat → List Char → Gap → Cursor → Option PlainText
  | 0, found, g, c => some ⟨found.reverse, c, g.broken⟩
  | fuel + 1, found, g, c =>
    if c.isDocumentMarker || c.isAt '#' then some ⟨found.reverse, c, g.broken⟩
    else
      match readPlainWord inFlow (c.rest.length + 1) [] c with
      | none => none
      | some (word, next) =>
        let (found, g) := if word.isEmpty then (found, g) else (word ++ g.folded.reverse ++ found, {})
        match next.head? with
        | none => some ⟨found.reverse, next, g.broken⟩
        | some x =>
          if isSpaceOrTab x || isBreak x then
            match readGap indent (next.rest.length + 1) g next with
            | none => none
            | some (g, next) =>
              if !inFlow && (next.column : Int) < indent then
                some ⟨found.reverse, next, g.broken⟩
              else readPlain inFlow indent fuel found g next
          else some ⟨found.reverse, next, g.broken⟩

/-- The number that some hexadecimal digits in front write. -/
def readHexDigits : Nat → Nat → List Char → Option Nat
  | 0, n, _ => some n
  | _ + 1, _, [] => none
  | count + 1, n, x :: rest =>
    if '0' ≤ x ∧ x ≤ '9' then readHexDigits count (n * 16 + (x.toNat - 48)) rest
    else if 'a' ≤ x ∧ x ≤ 'f' then readHexDigits count (n * 16 + (x.toNat - 87)) rest
    else if 'A' ≤ x ∧ x ≤ 'F' then readHexDigits count (n * 16 + (x.toNat - 55)) rest
    else none

/-- The character that an escape of one letter stands for. -/
def escaped? : Char → Option Char
  | '0' => some '\x00'
  | 'a' => some '\x07'
  | 'b' => some '\x08'
  | 't' => some '\t'
  | '\t' => some '\t'
  | 'n' => some '\n'
  | 'v' => some '\x0b'
  | 'f' => some '\x0c'
  | 'r' => some '\r'
  | 'e' => some '\x1b'
  | ' ' => some ' '
  | '"' => some '"'
  | '/' => some '/'
  | '\\' => some '\\'
  | 'N' => some '\x85'
  | '_' => some '\xa0'
  | 'L' => some '\u2028'
  | 'P' => some '\u2029'
  | _ => none

/-- The number of hexadecimal digits after a letter of an escape. -/
def escapeWidth? : Char → Option Nat
  | 'x' => some 2
  | 'u' => some 4
  | 'U' => some 8
  | _ => none

/-- The character of the escape after a backslash, and the place after it. -/
def readEscape (c : Cursor) : Option (Char × Cursor) :=
  match c.head? with
  | none => none
  | some letter =>
    match escaped? letter with
    | some x => some (x, c.skip)
    | none =>
      match escapeWidth? letter with
      | none => none
      | some width =>
        match readHexDigits width 0 c.rest.tail with
        | none => none
        | some n =>
          if (0xD800 ≤ n && n ≤ 0xDFFF) || 0x10FFFF < n then none
          else some (Char.ofNat n, c.skipMany (width + 1))

/-- The characters of a quoted scalar up to the next gap or its closing quote, most recent first;
whether a line end was escaped; and the place after them. -/
def readQuotedWord (quote : Char) : Nat → List Char → Cursor → Option (List Char × Bool × Cursor)
  | 0, found, c => some (found, false, c)
  | fuel + 1, found, c =>
    match c.head? with
    | none => some (found, false, c)
    | some x =>
      if isGap (some x) then some (found, false, c)
      else if quote == '\'' && x == '\'' && c.peek? 1 == some '\'' then
        readQuotedWord quote fuel ('\'' :: found) (c.skipMany 2)
      else if x == quote then some (found, false, c)
      else if quote == '"' && x == '\\' then
        if (c.peek? 1).any isBreak then some (found, true, c.skip.skipBreak)
        else
          match readEscape c.skip with
          | none => none
          | some (y, next) => readQuotedWord quote fuel (y :: found) next
      else readQuotedWord quote fuel (x :: found) c.skip

/-- The text of a quoted scalar after its opening quote, most recent character first, and the place
after its closing quote. -/
def readQuoted (quote : Char) : Nat → List Char → Cursor → Option (List Char × Cursor)
  | 0, _, _ => none
  | fuel + 1, found, c =>
    if c.isDocumentMarker || c.head?.isNone then none
    else
      match readQuotedWord quote (c.rest.length + 1) found c with
      | none => none
      | some (found, lineEscaped, next) =>
        if next.isAt quote then some (found.reverse, next.skip)
        else
          match readGap (-1) (next.rest.length + 1) { broken := lineEscaped } next with
          | none => none
          | some (g, next) => readQuoted quote fuel (g.folded.reverse ++ found) next

/-- What becomes of the line ends at the end of a block scalar. -/
inductive Chomping where
  | strip
  | clip
  | keep
deriving DecidableEq, Repr

/-- The chomping that a sign asks for. -/
def chomping? : Option Char → Option Chomping
  | some '+' => some .keep
  | some '-' => some .strip
  | _ => none

/-- The digit of an explicit indentation: nothing when it is zero, `some none` when there is no
digit. -/
def explicitIndent? : Option Char → Option (Option Nat)
  | some '0' => none
  | some x => if x.isDigit then some (some (x.toNat - 48)) else some none
  | none => some none

/-- The chomping and the explicit indentation of a block scalar, in either order, and the place
after them. -/
def readBlockHeader (c : Cursor) : Option (Chomping × Option Nat × Cursor) :=
  match chomping? c.head? with
  | some chomping =>
    match explicitIndent? c.skip.head? with
    | none => none
    | some none => some (chomping, none, c.skip)
    | some (some n) => some (chomping, some n, c.skip.skip)
  | none =>
    match explicitIndent? c.head? with
    | none => none
    | some none => some (.clip, none, c)
    | some (some n) =>
      match chomping? c.skip.head? with
      | some chomping => some (chomping, some n, c.skip.skip)
      | none => some (.clip, some n, c.skip)

/-- The line ends in front of the next line with content, the greatest column that was reached
before it, and the place at it. While the indentation is not known, all spaces are skipped. -/
def readBlockBreaks (indent : Option Nat) :
    Nat → List Char → Nat → Cursor → Option (List Char × Nat × Cursor)
  | 0, breaks, deepest, c => some (breaks, deepest, c)
  | fuel + 1, breaks, deepest, c =>
    let spaces := (c.rest.takeWhile (· == ' ')).length
    let c := c.skipMany (match indent with
      | none => spaces
      | some n => min spaces (n - c.column))
    let deepest := max deepest c.column
    let isShallow := match indent with
      | none => true
      | some n => decide (c.column < n)
    if isShallow && c.isAt '\t' then none
    else if c.head?.any isBreak then
      let (ended, next) := c.readBreak
      readBlockBreaks indent fuel (breaks ++ ended) deepest next
    else some (breaks, deepest, c)

/-- The lines of a block scalar, given its text so far, most recent character first, the end of the
last line, the line ends after it, and whether that line started with a blank. -/
def readBlockLines (isLiteral : Bool) (chomping : Chomping) (indent : Nat) :
    Nat → List Char → List Char → List Char → Bool → Cursor → Option (List Char × Cursor)
  | 0, _, _, _, _, _ => none
  | fuel + 1, found, ended, breaks, afterBlank, c =>
    if c.column == indent && c.head?.isSome then
      let startsBlank := c.head?.any isSpaceOrTab
      let joined :=
        if !isLiteral && ended.head? == some '\n' && !afterBlank && !startsBlank then
          if breaks.isEmpty then [' '] else []
        else ended
      let (line, c) := c.readWhile fun x ↦ !isBreak x
      let found := line.reverse ++ (breaks.reverse ++ (joined.reverse ++ found))
      let (ended, c) := c.readBreak
      match readBlockBreaks (some indent) (c.rest.length + 1) [] 0 c with
      | none => none
      | some (breaks, _, c) =>
        readBlockLines isLiteral chomping indent fuel found ended breaks startsBlank c
    else
      let tail := match chomping with
        | .strip => []
        | .clip => ended
        | .keep => ended ++ breaks
      some (found.reverse ++ tail, c)

/-- The text of a block scalar after its indicator, within a block of an indentation, and the place
after it. -/
def readBlock (isLiteral : Bool) (outer : Int) (c : Cursor) : Option (List Char × Cursor) := do
  let (chomping, increment, c) ← readBlockHeader c
  let c ← c.skipLineRest?
  let known := increment.map fun n ↦ (if 0 ≤ outer then outer.toNat + n else n)
  let (breaks, deepest, c) ← readBlockBreaks known (c.rest.length + 1) [] 0 c
  let indent := known.getD (max (max deepest (outer + 1).toNat) 1)
  readBlockLines isLiteral chomping indent (c.rest.length + 2) [] [] breaks false c

end FleetOperator.Yaml
