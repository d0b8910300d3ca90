import FleetOperator.Json.Value
import FleetOperator.Yaml.Scalar

/-!
# Sources of typed values

A typed value is read from a JSON value or from a YAML node. The two answer the same questions, each
by its own rules: a JSON text is a text alone, while any YAML scalar gives its text when a text is
asked for, and only a plain scalar gives a boolean or an integer.
-/

namespace FleetOperator

namespace Yaml

/-- The text of a scalar, whatever its tag and style. -/
def Node.text? : Node → Option String
  | .scalar s => some s.text
  | _ => none

/-- The JSON value of the meaning of a scalar. Infinities and NaN have none in JSON and give null;
an oversized integer gives nothing. -/
def Meaning.json? : Meaning → Option Json
  | .null => some .null
  | .bool value => some (.bool value)
  | .integer value => some (.number (.integer value))
  | .oversized => none
  | .floating (.finite value) => some (.number (.double value))
  | .floating .special => some .null
  | .text value => some (.text value)

mutual

/-- The JSON value that a node writes: keys are the texts of scalars, and of two equal keys the
last one stands. Local tags are no JSON. -/
def Node.json? : Node → Option Json
  | .absent => some .null
  | .unreadable => none
  | .scalar s => s.meaning?.bind Meaning.json?
  | .sequence tag items =>
    if (localName? tag).isSome then none else (jsonItems? items).map .array
  | .mapping tag entries =>
    if (localName? tag).isSome then none
    else (jsonFields? entries).map fun fields ↦ .object (Json.sortFields fields)

/-- The JSON values that nodes write. -/
def jsonItems? : List Node → Option (List Json)
  | [] => some []
  | node :: rest =>
    match Node.json? node, jsonItems? rest with
    | some item, some items => some (item :: items)
    | _, _ => none

/-- The JSON fields that the entries of a mapping write. -/
def jsonFields? : List (Node × Node) → Option (List (String × Json))
  | [] => some []
  | (key, node) :: rest =>
    match key.text?, Node.json? node, jsonFields? rest with
    | some name, some value, some fields => some ((name, value) :: fields)
    | _, _, _ => none

end

/-- Whether a scalar is written plainly and has no text. -/
def Scalar.isBare (s : Scalar) : Bool := s.style == .plain && s.text == ""

/-- Whether a scalar may be asked for a boolean or an integer: it is plain, or literal under the
tag of that type. -/
def Scalar.admits (s : Scalar) (type : String) : Bool :=
  s.style == .plain || (s.style == .literal && s.tag == some (coreTag type))

end Yaml

/-- What a typed value is read from. -/
inductive Source where
  | json (value : Json)
  | yaml (node : Yaml.Node)

namespace Source

open Yaml (Node)

/-- The text that a source gives. -/
def text? : Source → Option String
  | json (.text value) => some value
  | yaml node => node.text?
  | _ => none

/-- The boolean that a source gives. -/
def bool? : Source → Option Bool
  | json (.bool value) => some value
  | yaml (.scalar s) => if s.admits "bool" then Yaml.readBool? s.text else none
  | _ => none

/-- The integer that a source gives. -/
def integer? : Source → Option Int
  | json (.number (.integer value)) => some value
  | yaml (.scalar s) => if s.admits "int" then Yaml.readInteger? s.text else none
  | _ => none

/-- The JSON value that a source gives, with every object in key order. -/
def json? : Source → Option Json
  | json value => some value.sorted
  | yaml node => node.json?

/-- Whether a source stands for an absent optional value; nothing when it claims to be null and is
not. -/
def isNull? : Source → Option Bool
  | json value => some (value == .null)
  | yaml .absent => some true
  | yaml (.scalar s) =>
    if s.style != .plain then some false
    else
      match s.tag with
      | none => some (s.text == "" || Yaml.isNullWord s.text)
      | some tag =>
        if tag == Yaml.coreTag "null" then if Yaml.isNullWord s.text then some true else none
        else some false
  | yaml _ => some false

/-- The items of a source that is a list. -/
def items? : Source → Option (List Source)
  | json (.array items) => some (items.map json)
  | yaml .absent => some []
  | yaml (.scalar s) => if s.isBare then some [] else none
  | yaml (.sequence _ items) => some (items.map yaml)
  | _ => none

/-- The entries of a YAML mapping by the texts of their keys. -/
def namedEntries? : List (Node × Node) → Option (List (String × Source))
  | [] => some []
  | (key, node) :: rest =>
    match key.text?, namedEntries? rest with
    | some name, some fields => some ((name, yaml node) :: fields)
    | _, _ => none

/-- The fields of a source that is an object. -/
def fields? : Source → Option (List (String × Source))
  | json (.object fields) => some (fields.map fun field ↦ (field.1, json field.2))
  | yaml .absent => some []
  | yaml (.scalar s) => if s.isBare then some [] else none
  | yaml (.mapping _ entries) => namedEntries? entries
  | _ => none

/-- The values of a record given by position. Only JSON writes records so. -/
def positions? : Source → Option (List Source)
  | json (.array items) => some (items.map json)
  | _ => none

/-- The word that a source gives where one of a few words is expected. A JSON object with the word
as its only key and null as the value gives it too, and so does a local tag on null. -/
def word? : Source → Option String
  | json (.text value) => some value
  | json (.object [(word, .null)]) => some word
  | yaml (.scalar s) =>
    match Yaml.localName? s.tag with
    | some word =>
      if s.style == .plain && (s.text == "" || Yaml.isNullWord s.text) then some word else none
    | none => some s.text
  | _ => none

end Source

end FleetOperator
