import FleetOperator.Json.Equivalence

/-!
# Comparisons that may break off

The comparison of two JSON values step by step. Two different texts are read as resource quantities,
and where the amount of one of them overflows the comparison breaks off: of two objects at the first
such field, unless an earlier one has settled that they are not equivalent.
-/

namespace FleetOperator.Json

open Quantity (Overflow)

/-- Whether two texts are the same or write the same quantity. Different texts are both read. -/
def equalTexts? (a b : String) : Except Overflow Bool := do
  if a == b then return true
  let x ← Quantity.read a
  let y ← Quantity.read b
  match x, y with
  | some x, some y => return x == y
  | _, _ => return false

mutual

/-- Whether two values are equivalent. -/
def equal? : Json → Json → Except Overflow Bool
  | text a, text b => equalTexts? a b
  | array a, array b => if a.length = b.length then equalItems? a b else return false
  | object a, object b => do
    if allZero a && allZero b then return true
    if ← equalFields? a b then return onlySecondZero a b else return false
  | a, b => return equal a b

/-- Whether two lists are equivalent item by item. -/
def equalItems? : List Json → List Json → Except Overflow Bool
  | a :: as, b :: bs => do
    if ← equal? a b then equalItems? as bs else return false
  | _, _ => return true

/-- Whether every field is equivalent to the field of the same key of another object. -/
def equalFields? : List (String × Json) → List (String × Json) → Except Overflow Bool
  | [], _ => return true
  | (key, a) :: rest, other => do
    if ← equal? a (field other key) then equalFields? rest other else return false

end

mutual

/-- The paths below a path at which two values differ. -/
def differencesAt? (path : String) : Json → Json → Except Overflow (List String)
  | object a, object b => do
    if ← equal? (object a) (object b) then return []
    let found ← differencesInFields? path b a
    return found ++ onlySecondPaths path a b
  | array a, array b => do
    if ← equal? (array a) (array b) then return []
    if a.length = b.length then differencesInItems? path 0 a b else return [path]
  | a, b => do
    if ← equal? a b then return [] else return [path]

/-- The paths at which the items of two lists differ, from an index on. -/
def differencesInItems? (path : String) (index : Nat) :
    List Json → List Json → Except Overflow (List String)
  | a :: as, b :: bs => do
    let found ← differencesAt? (path ++ "[" ++ Digits.textOfNat index ++ "]") a b
    return found ++ (← differencesInItems? path (index + 1) as bs)
  | _, _ => return []

/-- The paths at which fields differ from those of another object. -/
def differencesInFields? (path : String) (other : List (String × Json)) :
    List (String × Json) → Except Overflow (List String)
  | [] => return []
  | (key, a) :: rest => do
    let found ← differencesAt? (path ++ "." ++ key) a (field other key)
    return found ++ (← differencesInFields? path other rest)

end

/-- The paths at which two values differ, the root written as a dollar sign. -/
def differences? (a b : Json) : Except Overflow (List String) := differencesAt? "$" a b

end FleetOperator.Json
