/-!
# Blank characters

White space in the sense of the Unicode property of that name, and trimming by it. A text is blank
when trimming leaves nothing of it.
-/

namespace FleetOperator.Text

/-- The characters with the Unicode property White_Space. -/
def isBlank (c : Char) : Bool :=
  let n := c.toNat
  (9 ≤ n && n ≤ 13) || n == 0x20 || n == 0x85 || n == 0xA0 || n == 0x1680 ||
    (0x2000 ≤ n && n ≤ 0x200A) || n == 0x2028 || n == 0x2029 || n == 0x202F || n == 0x205F ||
    n == 0x3000

/-- A list of characters without the blank characters at its start. -/
def trimStart : List Char → List Char
  | [] => []
  | c :: rest => if isBlank c then trimStart rest else c :: rest

/-- A list of characters without the blank characters at its end. -/
def trimEnd : List Char → List Char
  | [] => []
  | c :: rest =>
    match trimEnd rest with
    | [] => if isBlank c then [] else [c]
    | kept => c :: kept

/-- A text without the blank characters at either end. -/
def trim (text : String) : String :=
  String.ofList (trimEnd (trimStart text.toList))

/-- Whether a text has no character other than blank ones. -/
def isBlankText (text : String) : Bool :=
  text.toList.all isBlank

end FleetOperator.Text
