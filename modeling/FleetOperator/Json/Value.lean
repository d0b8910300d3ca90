import FleetOperator.Number.Double

/-!
# JSON values

The values exchanged with the platform and with Kubernetes. Numbers are integers or binary64
numbers and the two kinds stay apart: `1` and `1.0` are different values. An object is a list of
fields; `Json.sorted` puts every object of a value in key order, where of two fields with one key
the later one stands.
-/

namespace FleetOperator

/-- A JSON number. Readers produce integers from `-2 ^ 63` up to and without `2 ^ 64`, and binary64
numbers for all else. -/
inductive Number where
  | integer (value : Int)
  | double (value : Double)
deriving DecidableEq, Repr

/-- The binary64 number nearest to a number. -/
def Number.toDouble : Number → Option Double
  | .integer value => Double.ofInt value
  | .double value => some value

/-- Whether a number is zero of either kind and sign. -/
def Number.isZero : Number → Bool
  | .integer value => value == 0
  | .double value => value.isZero

/-- Whether two numbers are of the same kind and denote the same number. -/
def Number.same : Number → Number → Bool
  | .integer a, .integer b => a == b
  | .double a, .double b => a.sameValue b
  | _, _ => false

/-- A JSON value. -/
inductive Json where
  | null
  | bool (value : Bool)
  | number (value : Number)
  | text (value : String)
  | array (items : List Json)
  | object (fields : List (String × Json))
deriving Repr

namespace Json

instance : Inhabited Json := ⟨.null⟩

/-- The value of the first field with a key. -/
def lookup (key : String) : List (String × Json) → Option Json
  | [] => none
  | (k, value) :: rest => if k = key then some value else lookup key rest

/-- The value at a key of an object. -/
def get? (key : String) : Json → Option Json
  | object fields => lookup key fields
  | _ => none

/-- The value at a key of an object, null when there is none. -/
def at? (key : String) (value : Json) : Json := (value.get? key).getD null

/-- The text of a value that is a text. -/
def asText? : Json → Option String
  | text value => some value
  | _ => none

/-- The fields of a value that is an object. -/
def asObject? : Json → Option (List (String × Json))
  | object fields => some fields
  | _ => none

/-- A field put among fields in key order, in place of a field with the same key. -/
def insertField (key : String) (value : Json) : List (String × Json) → List (String × Json)
  | [] => [(key, value)]
  | (k, v) :: rest =>
    if key = k then (key, value) :: rest
    else if key < k then (key, value) :: (k, v) :: rest
    else (k, v) :: insertField key value rest

/-- Fields in key order. Of fields with one key the last one stands. -/
def sortFields (fields : List (String × Json)) : List (String × Json) :=
  fields.foldl (fun kept field ↦ insertField field.1 field.2 kept) []

mutual

/-- A value with the fields of every object in key order. -/
def sorted : Json → Json
  | null => null
  | bool value => bool value
  | number value => number value
  | text value => text value
  | array items => array (sortedItems items)
  | object fields => object (sortFields (sortedFields fields))

/-- Values, each with its fields in key order. -/
def sortedItems : List Json → List Json
  | [] => []
  | item :: rest => sorted item :: sortedItems rest

/-- Fields whose values have their fields in key order. -/
def sortedFields : List (String × Json) → List (String × Json)
  | [] => []
  | (key, value) :: rest => (key, sorted value) :: sortedFields rest

end

mutual

/-- Whether two values are the same, fields compared in their order. The two zeros of binary64 are
the same number. -/
def same : Json → Json → Bool
  | null, null => true
  | bool a, bool b => a == b
  | number a, number b => a.same b
  | text a, text b => a == b
  | array a, array b => sameItems a b
  | object a, object b => sameFields a b
  | _, _ => false

/-- Whether two lists of values are the same item by item. -/
def sameItems : List Json → List Json → Bool
  | [], [] => true
  | a :: as, b :: bs => same a b && sameItems as bs
  | _, _ => false

/-- Whether two lists of fields are the same field by field. -/
def sameFields : List (String × Json) → List (String × Json) → Bool
  | [], [] => true
  | (k, a) :: as, (l, b) :: bs => k == l && same a b && sameFields as bs
  | _, _ => false

end

mutual

/-- Decides whether two values are equal. -/
def decideEq : (a b : Json) → Decidable (a = b)
  | null, null => isTrue rfl
  | bool a, bool b => decidable_of_iff (a = b) (by simp)
  | number a, number b => decidable_of_iff (a = b) (by simp)
  | text a, text b => decidable_of_iff (a = b) (by simp)
  | array a, array b => @decidable_of_iff _ (a = b) (by simp) (decideEqItems a b)
  | object a, object b => @decidable_of_iff _ (a = b) (by simp) (decideEqFields a b)
  | null, bool _ | null, number _ | null, text _ | null, array _ | null, object _
  | bool _, null | bool _, number _ | bool _, text _ | bool _, array _ | bool _, object _
  | number _, null | number _, bool _ | number _, text _ | number _, array _
  | number _, object _ | text _, null | text _, bool _ | text _, number _ | text _, array _
  | text _, object _ | array _, null | array _, bool _ | array _, number _ | array _, text _
  | array _, object _ | object _, null | object _, bool _ | object _, number _
  | object _, text _ | object _, array _ => isFalse (by simp)

/-- Decides whether two lists of values are equal. -/
def decideEqItems : (a b : List Json) → Decidable (a = b)
  | [], [] => isTrue rfl
  | [], _ :: _ => isFalse (by simp)
  | _ :: _, [] => isFalse (by simp)
  | a :: as, b :: bs =>
    match decideEq a b, decideEqItems as bs with
    | isTrue h, isTrue hs => isTrue (by rw [h, hs])
    | isFalse h, _ => isFalse (by simp [h])
    | _, isFalse hs => isFalse (by simp [hs])

/-- Decides whether two lists of fields are equal. -/
def decideEqFields : (a b : List (String × Json)) → Decidable (a = b)
  | [], [] => isTrue rfl
  | [], _ :: _ => isFalse (by simp)
  | _ :: _, [] => isFalse (by simp)
  | (k, a) :: as, (l, b) :: bs =>
    if hk : k = l then
      match decideEq a b, decideEqFields as bs with
      | isTrue h, isTrue hs => isTrue (by rw [hk, h, hs])
      | isFalse h, _ => isFalse (by simp [h])
      | _, isFalse hs => isFalse (by simp [hs])
    else isFalse (by simp [hk])

end

instance : DecidableEq Json := decideEq

end Json

end FleetOperator
