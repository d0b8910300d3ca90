import FleetOperator.Text.Graphic

/-!
# Quoted texts

A text in double quotes for people to read: quotes and backslashes are escaped, common controls have
short escapes, and every other character that does not show as itself is given by its code.
-/

namespace FleetOperator.Text

/-- The lower-case hexadecimal digits of a number, most significant first, in front of `rest`. -/
def hexOnto : Nat → Nat → List Char → List Char
  | 0, _, rest => rest
  | fuel + 1, n, rest =>
    let shown := Nat.digitChar (n % 16) :: rest
    if n < 16 then shown else hexOnto fuel (n / 16) shown

/-- The lower-case hexadecimal digits of a number. -/
def hex (n : Nat) : List Char := hexOnto (n + 1) n []

/-- A character as it stands in a quoted text. -/
def escape (c : Char) : List Char :=
  if c = '"' ∨ c = '\\' then ['\\', c]
  else if c = '\n' then ['\\', 'n']
  else if c = '\r' then ['\\', 'r']
  else if c = '\t' then ['\\', 't']
  else if c = '\x00' then ['\\', '0']
  else if isGraphic c then [c]
  else '\\' :: 'u' :: '\x7b' :: (hex c.toNat ++ ['\x7d'])

/-- A text in quotes. -/
def quoted (text : String) : String :=
  String.ofList ('"' :: (text.toList.flatMap escape ++ ['"']))

end FleetOperator.Text
