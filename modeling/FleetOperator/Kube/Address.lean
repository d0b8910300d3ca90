/-!
# Addresses of servers

What may stand as the address of a server: a scheme, an authority and a path, or an authority alone,
or a path alone. Each part is checked by the characters that it may hold; in an authority, brackets
stand in pairs and there is at most one colon outside of them.
-/

namespace FleetOperator.Kube

namespace Address

/-- Whether a character is a letter, a digit, or one of some others. -/
def isOneOf (others : List Char) (c : Char) : Bool := c.isAlphanum || others.contains c

/-- Whether a character ends an authority. -/
def endsAuthority (c : Char) : Bool := c == '/' || c == '?' || c == '#'

/-- The characters of an authority other than letters and digits. A percent sign may only stand in
front of an at sign or a bracket that follows it. -/
def authorityMarks : List Char :=
  ['!', '$', '%', '&', '\'', '(', ')', '*', '+', ',', '-', '.', ':', ';', '=', '@', '[', ']', '_',
    '~']

/-- What was met in an authority. -/
structure Scan where
  colons : Nat := 0
  isOpen : Bool := false
  isClosed : Bool := false
  hasPercent : Bool := false
  endsInAt : Bool := false
deriving DecidableEq, Repr

/-- The most colons in front of an at sign or a bracket. -/
def mostColons : Nat := 8

/-- One more character of an authority. -/
def Scan.next? (s : Scan) (c : Char) : Option Scan :=
  let s := { s with endsInAt := c == '@' }
  if !isOneOf authorityMarks c then none
  else if c = ':' then
    if s.colons < mostColons then some { s with colons := s.colons + 1 } else none
  else if c = '[' then
    if s.hasPercent || s.isOpen then none else some { s with isOpen := true }
  else if c = ']' then
    if !s.isOpen || s.isClosed then none
    else some { s with isClosed := true, colons := 0, hasPercent := false }
  else if c = '@' then some { s with colons := 0, hasPercent := false }
  else if c = '%' then some { s with hasPercent := true }
  else some s

/-- Whether an authority that was met to its end is in order. -/
def Scan.isFine (s : Scan) : Bool :=
  s.isOpen == s.isClosed && s.colons ≤ 1 && !s.endsInAt && !s.hasPercent

/-- Whether a text is an authority. -/
def isAuthority (text : List Char) : Bool := (text.foldlM Scan.next? {}).any (·.isFine)

/-- Whether a character may stand in a path. -/
def isPathChar (c : Char) : Bool :=
  0x21 ≤ c.toNat && c != '<' && c != '>' && c != '\x60'

/-- Whether a character may stand in a query. -/
def isQueryChar (c : Char) : Bool := 0x21 ≤ c.toNat && c != '"' && c != '<' && c != '>'

/-- Whether a text is a path with a query, where whatever follows a number sign does not matter. -/
def isPath (text : List Char) : Bool :=
  let text := text.takeWhile (· != '#')
  (text.takeWhile (· != '?')).all isPathChar &&
    ((text.dropWhile (· != '?')).drop 1).all isQueryChar

/-- The text after a scheme and the two slashes that follow it, when there is one. -/
def afterScheme? (text : List Char) : Option (List Char) :=
  let scheme := text.takeWhile (isOneOf ['+', '-', '.'])
  match text.drop scheme.length with
  | ':' :: '/' :: '/' :: rest => some rest
  | _ => none

end Address

open Address in
/-- Whether a text may be the address of a server. -/
def isAddress (text : String) : Bool :=
  match text.toList with
  | [] => false
  | ['*'] => true
  | '/' :: rest => isPath ('/' :: rest)
  | chars =>
    match afterScheme? chars with
    | some rest =>
      let authority := rest.takeWhile fun c ↦ !endsAuthority c
      !authority.isEmpty && isAuthority authority && isPath (rest.drop authority.length)
    | none => isAuthority chars

end FleetOperator.Kube
