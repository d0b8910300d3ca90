/-!
# Decimal digits

Natural numbers and integers written in decimal digits, and read back.
-/

namespace FleetOperator.Digits

/-- The decimal digits of a natural number, most significant first, in front of `rest`. -/
def onto : Nat → Nat → List Char → List Char
  | 0, _, rest => rest
  | fuel + 1, n, rest =>
    let shown := Char.ofNat (48 + n % 10) :: rest
    if n < 10 then shown else onto fuel (n / 10) shown

/-- The decimal digits of a natural number. -/
def ofNat (n : Nat) : List Char := onto (n + 1) n []

/-- The decimal digits of an integer, after a minus sign when it is negative. -/
def ofInt (n : Int) : List Char := if n < 0 then '-' :: ofNat n.natAbs else ofNat n.natAbs

/-- The text of a natural number. -/
def textOfNat (n : Nat) : String := String.ofList (ofNat n)

/-- The text of an integer. -/
def textOfInt (n : Int) : String := String.ofList (ofInt n)

/-- The number that decimal digits write. -/
def toNat (digits : List Char) : Nat :=
  digits.foldl (fun n c ↦ n * 10 + (c.toNat - 48)) 0

/-- The integer that an optional sign and at least one digit write. -/
def toInt? (text : List Char) : Option Int :=
  let (negative, digits) := match text with
    | '-' :: rest => (true, rest)
    | '+' :: rest => (false, rest)
    | _ => (false, text)
  if digits.isEmpty || !digits.all Char.isDigit then none
  else some (if negative then -(toNat digits : Int) else toNat digits)

end FleetOperator.Digits
