import FleetOperator.Json.Value
import FleetOperator.Number.Digits
import FleetOperator.Number.Quantity

/-!
# Equivalence of JSON values

Two values are equivalent when they mean the same setting. At every depth the zero values (null,
`false`, `0`, the empty text, the empty list, and an object of zero values) mean the same, and so
do two texts that write the same resource quantity. `Json.differences` names the places at which
two values are not equivalent. A text whose amount overflows while it is read counts here as one that
is no quantity: `Json.equal?` and `Json.differences?` are the comparisons that break off there.
-/

namespace FleetOperator.Json

mutual

/-- Whether a value is a zero value. -/
def isZero : Json → Bool
  | null => true
  | bool value => !value
  | number value => value.isZero
  | text value => value == ""
  | array items => items.isEmpty
  | object fields => allZero fields

/-- Whether every field holds a zero value. -/
def allZero : List (String × Json) → Bool
  | [] => true
  | (_, value) :: rest => isZero value && allZero rest

end

/-- Whether two texts are the same or are read as the same quantity. -/
def equalTexts (a b : String) : Bool :=
  a == b ||
    match Quantity.parse? a, Quantity.parse? b with
    | some x, some y => x == y
    | _, _ => false

/-- Whether two numbers are the same or have the same nearest binary64 number. -/
def equalNumbers (a b : Number) : Bool :=
  a.same b ||
    match a.toDouble, b.toDouble with
    | some x, some y => x.sameValue y
    | none, none => true
    | _, _ => false

/-- The value at a key, null when there is none. -/
def field (fields : List (String × Json)) (key : String) : Json := (lookup key fields).getD null

/-- Whether the fields that only the second of two objects has are zero values. -/
def onlySecondZero (first : List (String × Json)) : List (String × Json) → Bool
  | [] => true
  | (key, value) :: rest =>
    ((lookup key first).isSome || isZero value) && onlySecondZero first rest

mutual

/-- Whether two values are equivalent. -/
def equal : Json → Json → Bool
  | null, b => isZero b
  | bool a, bool b => a == b
  | bool a, b => !a && isZero b
  | number a, number b => (a.isZero && b.isZero) || equalNumbers a b
  | number a, b => a.isZero && isZero b
  | text a, text b => equalTexts a b
  | text a, b => a == "" && isZero b
  | array a, array b => equalItems a b
  | array a, b => a.isEmpty && isZero b
  | object a, object b =>
    (allZero a && allZero b) || (equalFields a b && onlySecondZero a b)
  | object a, b => allZero a && isZero b

/-- Whether two lists have the same length and are equivalent item by item. -/
def equalItems : List Json → List Json → Bool
  | [], [] => true
  | a :: as, b :: bs => equal a b && equalItems as bs
  | _, _ => false

/-- Whether every field is equivalent to the field of the same key of another object. -/
def equalFields : List (String × Json) → List (String × Json) → Bool
  | [], _ => true
  | (key, a) :: rest, other => equal a (field other key) && equalFields rest other

end

/-- Null is equivalent to a value exactly if that is zero. -/
theorem equal_null_left (a : Json) : equal null a = isZero a := by
  simp [equal]

/-- The paths below the fields that only the second of two objects has, where it is not zero. -/
def onlySecondPaths (path : String) (first : List (String × Json)) :
    List (String × Json) → List String
  | [] => []
  | (key, value) :: rest =>
    let found :=
      if (lookup key first).isSome || isZero value then [] else [path ++ "." ++ key]
    found ++ onlySecondPaths path first rest

mutual

/-- The paths below a path at which two values differ: descending through two objects by key and
through two lists of one length by index, as long as the values at hand are not equivalent. -/
def differencesAt (path : String) : Json → Json → List String
  | object a, object b =>
    if equal (object a) (object b) then []
    else differencesInFields path b a ++ onlySecondPaths path a b
  | array a, array b =>
    if equal (array a) (array b) then []
    else if a.length = b.length then differencesInItems path 0 a b
    else [path]
  | a, b => if equal a b then [] else [path]

/-- The paths at which the items of two lists differ, from an index on. -/
def differencesInItems (path : String) (index : Nat) : List Json → List Json → List String
  | a :: as, b :: bs =>
    differencesAt (path ++ "[" ++ Digits.textOfNat index ++ "]") a b ++
      differencesInItems path (index + 1) as bs
  | _, _ => []

/-- The paths at which fields differ from those of another object. -/
def differencesInFields (path : String) (other : List (String × Json)) :
    List (String × Json) → List String
  | [] => []
  | (key, a) :: rest =>
    differencesAt (path ++ "." ++ key) a (field other key) ++
      differencesInFields path other rest

end

/-- The paths at which two values differ, the root written as a dollar sign. -/
def differences (a b : Json) : List String := differencesAt "$" a b

end FleetOperator.Json
