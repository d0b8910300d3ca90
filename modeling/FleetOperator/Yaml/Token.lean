import FleetOperator.Yaml.Node
import FleetOperator.Yaml.ScalarText

/-!
# Tokens

A YAML text as tokens. The start of a block collection is known only when its first key is followed
by a colon: every place where a key may have started is remembered, and the tokens that start the
key and its mapping are put in front of it then. A block ends where a line is indented less.
-/

namespace FleetOperator.Yaml

/-- A token. -/
inductive Token where
  | version (major minor : Nat)
  | tagPrefix (handle tag : String)
  | documentStart
  | documentEnd
  | blockSequenceStart
  | blockMappingStart
  | blockEnd
  | flowSequenceStart
  | flowSequenceEnd
  | flowMappingStart
  | flowMappingEnd
  | blockEntry
  | flowEntry
  | key
  | value
  | alias (name : String)
  | anchor (name : String)
  | tag (handle suffix : String)
  | scalar (style : Style) (text : String)
deriving DecidableEq, Repr

/-- A place where a key may have started: the number of tokens in front of it, where it is in the
text, and whether nothing but a key may start there. -/
structure KeyStart where
  position : Nat
  index : Nat
  line : Nat
  column : Nat
  isRequired : Bool

/-- The state of the lexer: the place reached, the tokens found, the columns of the open blocks with
the innermost first, and for every open flow collection and for the block context the place where a
key may have started. -/
structure Lexer where
  cursor : Cursor
  tokens : Array Token := #[]
  indent : Int := -1
  outerIndents : List Int := []
  flowLevel : Nat := 0
  keyAllowed : Bool := true
  keyStart : Option KeyStart := none
  outerKeyStarts : List (Option KeyStart) := []

namespace Lexer

/-- Whether a key that may have started may still be ended here: on the same line, and not far
from its start. -/
def reaches (s : Lexer) (k : KeyStart) : Bool :=
  k.line == s.cursor.line && s.cursor.index ≤ k.index + 1024

/-- Places where a key may have started that are out of reach are dropped. Where a key was
required, that is an error. -/
def dropStale (s : Lexer) : Option Lexer :=
  let check (k : Option KeyStart) : Option (Option KeyStart) :=
    match k with
    | some start =>
      if s.reaches start then some k else if start.isRequired then none else some none
    | none => some none
  match check s.keyStart, s.outerKeyStarts.mapM check with
  | some keyStart, some outerKeyStarts => some { s with keyStart, outerKeyStarts }
  | _, _ => none

/-- The place where a key may have started is given up. Where a key was required, that is an
error. -/
def dropKeyStart (s : Lexer) : Option Lexer :=
  if s.keyStart.any (·.isRequired) then none else some { s with keyStart := none }

/-- The place is remembered as one where a key may start, if keys are allowed. -/
def saveKeyStart (s : Lexer) : Option Lexer :=
  if s.keyAllowed then
    let c := s.cursor
    let isRequired := s.flowLevel == 0 && s.indent == (c.column : Int)
    (s.dropKeyStart).map fun s ↦
      { s with keyStart := some ⟨s.tokens.size, c.index, c.line, c.column, isRequired⟩ }
  else some s

/-- A token at the end. -/
def push (s : Lexer) (t : Token) : Lexer := { s with tokens := s.tokens.push t }

/-- A block that starts at a column, unless one is open there or further in. Its token is put at a
position among the tokens. -/
def openBlock (s : Lexer) (column : Nat) (position : Nat) (t : Token) : Lexer :=
  if s.flowLevel == 0 && s.indent < column then
    { s with
      outerIndents := s.indent :: s.outerIndents
      indent := column
      tokens := s.tokens.insertIdxIfInBounds position t }
  else s

/-- The blocks that are indented more than a column end, at most a given number of them. -/
def closeBlocksTo (column : Int) : Nat → Lexer → Lexer
  | 0, s => s
  | fuel + 1, s =>
    if column < s.indent then
      match s.outerIndents with
      | [] => s
      | outer :: rest =>
        closeBlocksTo column fuel
          { s with indent := outer, outerIndents := rest, tokens := s.tokens.push .blockEnd }
    else s

/-- The blocks that are indented more than a column end, in the block context. -/
def closeBlocks (s : Lexer) (column : Int) : Lexer :=
  if s.flowLevel == 0 then closeBlocksTo column (s.outerIndents.length + 1) s else s

/-- The blanks, comments and line ends in front of the next token are skipped. A line end allows a
key in the block context; a tab is no blank where a key is allowed there. -/
def skipToToken : Nat → Lexer → Lexer
  | 0, s => s
  | fuel + 1, s =>
    let c := s.cursor
    let c := if c.index == 0 && c.isAt '\ufeff' then c.skip else c
    let tabs := s.flowLevel != 0 || !s.keyAllowed
    let c := (c.readWhile fun x ↦ x == ' ' || (tabs && x == '\t')).2
    let c := if c.isAt '#' then c.skipToLineEnd else c
    if c.head?.any isBreak then
      skipToToken fuel
        { s with cursor := c.skipBreak, keyAllowed := s.keyAllowed || s.flowLevel == 0 }
    else { s with cursor := c }

/-- Whether a character may stand in a tag, and in the address of a tag when it is given in full. -/
def isTagChar (inFull : Bool) (c : Char) : Bool :=
  isWordChar c || ";/?:@&=+$.!~*'()%".toList.contains c ||
    (inFull && (c == ',' || c == '[' || c == ']'))

/-- The octets that a text with escaped octets writes, where the first octet of an escaped character
tells how many escapes belong to it. -/
def unescapeTag : Nat → List Char → Option (List UInt8)
  | 0, _ => some []
  | _ + 1, [] => some []
  | fuel + 1, '%' :: a :: b :: rest => do
    let octet ← readHexDigits 2 0 [a, b]
    let others ← unescapeTag fuel rest
    return octet.toUInt8 :: others
  | _ + 1, ['%'] => none
  | _ + 1, ['%', _] => none
  | fuel + 1, c :: rest => (unescapeTag fuel rest).map ((String.ofList [c]).toUTF8.toList ++ ·)

/-- The part of a tag at a place, and the place after it. -/
def readTagPart (inFull : Bool) (c : Cursor) : Option (List Char × Cursor) :=
  let (found, next) := c.readWhile (isTagChar inFull)
  if found.contains '%' then
    match unescapeTag (found.length + 1) found with
    | some octets => (String.fromUTF8? ⟨octets.toArray⟩).map fun text ↦ (text.toList, next)
    | none => none
  else some (found, next)

/-- The handle at a place: an exclamation mark, word characters, and a second mark if there is
one. -/
def readHandle (c : Cursor) : Option (List Char × Cursor) :=
  if c.isAt '!' then
    let (word, next) := c.skip.readWhile isWordChar
    if next.isAt '!' then some ('!' :: word ++ ['!'], next.skip) else some ('!' :: word, next)
  else none

/-- The tag at a place as a handle and what follows it, and the place after it. -/
def readTag (c : Cursor) : Option (String × String × Cursor) :=
  if c.peek? 1 == some '<' then
    match readTagPart true (c.skipMany 2) with
    | some (suffix, next) =>
      if suffix.isEmpty || !next.isAt '>' then none
      else some ("", String.ofList suffix, next.skip)
    | none => none
  else
    match readHandle c with
    | none => none
    | some (handle, next) =>
      match readTagPart false next with
      | none => none
      | some (part, next) =>
        if 1 < handle.length && handle.getLast? == some '!' then
          if part.isEmpty then none
          else some (String.ofList handle, String.ofList part, next)
        else
          let suffix := handle.tail ++ part
          if suffix.isEmpty then some ("", "!", next)
          else some ("!", String.ofList suffix, next)

/-- The number of at most nine digits at a place, and the place after it. -/
def readVersionNumber (c : Cursor) : Option (Nat × Cursor) :=
  let (digits, next) := c.readWhile Char.isDigit
  if digits.isEmpty || 9 < digits.length then none
  else some (digits.foldl (fun n x ↦ n * 10 + (x.toNat - 48)) 0, next)

/-- The directive at a place, and the place after its line. -/
def readDirective (c : Cursor) : Option (Token × Cursor) := do
  let (name, c) := c.skip.readWhile isWordChar
  if name.isEmpty || !isGap c.head? then none
  else
    let c := c.skipBlanks
    if name == "YAML".toList then
      let (major, c) ← readVersionNumber c
      if c.isAt '.' then
        let (minor, c) ← readVersionNumber c.skip
        return (.version major minor, ← c.skipLineRest?)
      else none
    else if name == "TAG".toList then
      let (handle, c) ← readHandle c
      if handle != ['!'] && handle.getLast? != some '!' then none
      else if !c.head?.any isSpaceOrTab then none
      else
        let (tag, c) ← readTagPart true c.skipBlanks
        if tag.isEmpty || !isGap c.head? then none
        else return (.tagPrefix (String.ofList handle) (String.ofList tag), ← c.skipLineRest?)
    else none

/-- A token for a mark of one character, after which a key is allowed or not. -/
def pushMark (s : Lexer) (t : Token) (keyAllowed : Bool) : Lexer :=
  { s.push t with cursor := s.cursor.skip, keyAllowed }

/-- The start of a flow collection. -/
def openFlow (s : Lexer) (t : Token) : Option Lexer :=
  s.saveKeyStart.map fun s ↦
    { s.pushMark t true with
      flowLevel := s.flowLevel + 1
      keyStart := none
      outerKeyStarts := s.keyStart :: s.outerKeyStarts }

/-- The end of a flow collection. -/
def closeFlow (s : Lexer) (t : Token) : Option Lexer :=
  s.dropKeyStart.map fun s ↦
    let s := s.pushMark t false
    match s.outerKeyStarts with
    | k :: rest => { s with flowLevel := s.flowLevel - 1, keyStart := k, outerKeyStarts := rest }
    | [] => s

/-- The mark of an item of a block sequence. -/
def blockItem (s : Lexer) : Option Lexer :=
  if s.flowLevel == 0 then
    if s.keyAllowed then
      ((s.openBlock s.cursor.column s.tokens.size .blockSequenceStart).dropKeyStart).map
        (·.pushMark .blockEntry true)
    else none
  else s.dropKeyStart.map (·.pushMark .blockEntry true)

/-- The mark of a key that is not simple. -/
def explicitKey (s : Lexer) : Option Lexer :=
  if s.flowLevel == 0 then
    if s.keyAllowed then
      ((s.openBlock s.cursor.column s.tokens.size .blockMappingStart).dropKeyStart).map
        (·.pushMark .key true)
    else none
  else s.dropKeyStart.map (·.pushMark .key false)

/-- The mark of a value. If a key may have started, it did. -/
def keyEnd (s : Lexer) : Option Lexer :=
  match s.keyStart with
  | some k =>
    let s := { s with tokens := s.tokens.insertIdxIfInBounds k.position .key, keyStart := none }
    some ((s.openBlock k.column k.position .blockMappingStart).pushMark .value false)
  | none =>
    if s.flowLevel == 0 then
      if s.keyAllowed then
        some ((s.openBlock s.cursor.column s.tokens.size .blockMappingStart).pushMark .value true)
      else none
    else some (s.pushMark .value false)

/-- The name after the mark of an anchor or an alias. -/
def named (s : Lexer) (token : String → Token) : Option Lexer :=
  s.saveKeyStart.bind fun s ↦
    let (name, next) := s.cursor.skip.readWhile isWordChar
    let isEnded := isGap next.head? ||
      next.head?.any ['?', ':', ',', ']', '\x7d', '%', '@', '\x60'].contains
    if name.isEmpty || !isEnded then none
    else some { s.push (token (String.ofList name)) with cursor := next, keyAllowed := false }

/-- A tag. -/
def tagged (s : Lexer) : Option Lexer :=
  s.saveKeyStart.bind fun s ↦
    match readTag s.cursor with
    | none => none
    | some (handle, suffix, next) =>
      if isGap next.head? || (s.flowLevel != 0 && next.isAt ',') then
        some { s.push (.tag handle suffix) with cursor := next, keyAllowed := false }
      else none

/-- A block scalar. -/
def blockScalar (s : Lexer) (style : Style) : Option Lexer :=
  s.dropKeyStart.bind fun s ↦
    (readBlock (style == .literal) s.indent s.cursor.skip).map fun (text, next) ↦
      { s.push (.scalar style (String.ofList text)) with cursor := next, keyAllowed := true }

/-- A quoted scalar. -/
def quotedScalar (s : Lexer) (quote : Char) (style : Style) : Option Lexer :=
  s.saveKeyStart.bind fun s ↦
    (readQuoted quote (s.cursor.rest.length + 1) [] s.cursor.skip).map fun (text, next) ↦
      { s.push (.scalar style (String.ofList text)) with cursor := next, keyAllowed := false }

/-- A plain scalar. If it is followed by a line end, a key may follow it. -/
def plainScalar (s : Lexer) : Option Lexer :=
  s.saveKeyStart.bind fun s ↦
    (readPlain (s.flowLevel != 0) (s.indent + 1) (s.cursor.rest.length + 1) [] {} s.cursor).map
      fun plain ↦
        { s.push (.scalar .plain (String.ofList plain.text)) with
          cursor := plain.next, keyAllowed := plain.lineEnded }

/-- Whether a plain scalar may start at a place. -/
def startsPlain (s : Lexer) (x : Char) : Bool :=
  let after := s.cursor.peek? 1
  !(isGap (some x) || ['-', '?', ':'].contains x || reservedMarks.contains x)
    || (x == '-' && !after.any isSpaceOrTab)
    || (s.flowLevel == 0 && (x == '?' || x == ':') && !isGap after)

/-- The state after the end of everything that is open. -/
def closeAll (s : Lexer) : Option Lexer :=
  ((s.closeBlocks (-1)).dropKeyStart).map fun s ↦ { s with keyAllowed := false }

/-- The state after the next token, where the place is at its first character. -/
def readToken (s : Lexer) (x : Char) : Option Lexer :=
  let c := s.cursor
  let gapAfter := isGap (c.peek? 1)
  let inFlow := s.flowLevel != 0
  if c.column == 0 && x == '%' then
    s.closeAll.bind fun s ↦
      (readDirective c).map fun (t, next) ↦ { s.push t with cursor := next }
  else if c.isMarker '-' then
    s.closeAll.map fun s ↦ { s.push .documentStart with cursor := c.skipMany 3 }
  else if c.isMarker '.' then
    s.closeAll.map fun s ↦ { s.push .documentEnd with cursor := c.skipMany 3 }
  else if x == '[' then s.openFlow .flowSequenceStart
  else if x == '\x7b' then s.openFlow .flowMappingStart
  else if x == ']' then s.closeFlow .flowSequenceEnd
  else if x == '\x7d' then s.closeFlow .flowMappingEnd
  else if x == ',' then s.dropKeyStart.map (·.pushMark .flowEntry true)
  else if x == '-' && gapAfter then s.blockItem
  else if x == '?' && (inFlow || gapAfter) then s.explicitKey
  else if x == ':' && (inFlow || gapAfter) then s.keyEnd
  else if x == '*' then s.named .alias
  else if x == '&' then s.named .anchor
  else if x == '!' then s.tagged
  else if x == '|' && !inFlow then s.blockScalar .literal
  else if x == '>' && !inFlow then s.blockScalar .folded
  else if x == '\'' then s.quotedScalar '\'' .singleQuoted
  else if x == '"' then s.quotedScalar '"' .doubleQuoted
  else if s.startsPlain x then s.plainScalar
  else none

/-- The tokens of the rest of a text. -/
def run : Nat → Lexer → Option (Array Token)
  | 0, _ => none
  | fuel + 1, s =>
    match (skipToToken (s.cursor.rest.length + 1) s).dropStale with
    | none => none
    | some s =>
      let s := s.closeBlocks s.cursor.column
      match s.cursor.head? with
      | none => s.closeAll.map (·.tokens)
      | some x =>
        match s.readToken x with
        | none => none
        | some s => run fuel s

end Lexer

/-- The tokens of a text, or nothing when it is no YAML. -/
def tokens? (text : String) : Option (Array Token) :=
  let chars := text.toList
  if chars.all isAllowed then Lexer.run (chars.length + 1) { cursor := { rest := chars } }
  else none

end FleetOperator.Yaml
