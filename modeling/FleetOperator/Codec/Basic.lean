import FleetOperator.Codec.Source
import FleetOperator.Dict

/-!
# Codecs

A codec says how a type is written as JSON, how it is read from a source, and what its schema is.
The codecs of records are built field by field from one description, so that the three always
agree: every field has a name, and a rule for the cases in which it is not written.
-/

namespace FleetOperator

/-- The fields of a JSON schema. -/
abbrev Schema := List (String × Json)

/-- How the values of a type are written, read and described. -/
structure Codec (α : Type) where
  encode : α → Json
  decode? : Source → Option α
  schema : Schema

namespace Codec

variable {α β : Type}

/-- The JSON value of a typed value, with every object in key order. -/
def toJson (c : Codec α) (value : α) : Json := (c.encode value).sorted

/-- The typed value that a JSON value writes. -/
def ofJson? (c : Codec α) (value : Json) : Option α := c.decode? (.json value)

/-- Texts. -/
def text : Codec String where
  encode := .text
  decode? := Source.text?
  schema := [("type", .text "string")]

/-- Booleans. -/
def flag : Codec Bool where
  encode := .bool
  decode? := Source.bool?
  schema := [("type", .text "boolean")]

/-- The number of 32 bits with a sign that an integer is. -/
def int32OfInt? (n : Int) : Option Int32 :=
  if -(Nat.pow 2 31) ≤ n ∧ n < Nat.pow 2 31 then some (Int32.ofInt n) else none

/-- The number of 64 bits with a sign that an integer is. -/
def int64OfInt? (n : Int) : Option Int64 :=
  if -(Nat.pow 2 63) ≤ n ∧ n < Nat.pow 2 63 then some (Int64.ofInt n) else none

/-- The number of 32 bits without a sign that an integer is. -/
def uint32OfInt? (n : Int) : Option UInt32 :=
  if 0 ≤ n ∧ n < Nat.pow 2 32 then some (UInt32.ofNat n.toNat) else none

/-- Integers of 32 bits with a sign. -/
def int32 : Codec Int32 where
  encode n := .number (.integer n.toInt)
  decode? source := source.integer?.bind int32OfInt?
  schema := [("format", .text "int32"), ("type", .text "integer")]

/-- Integers of 64 bits with a sign. -/
def int64 : Codec Int64 where
  encode n := .number (.integer n.toInt)
  decode? source := source.integer?.bind int64OfInt?
  schema := [("format", .text "int64"), ("type", .text "integer")]

/-- Integers of 32 bits without a sign. -/
def uint32 : Codec UInt32 where
  encode n := .number (.integer n.toNat)
  decode? source := source.integer?.bind uint32OfInt?
  schema := [("format", .text "uint32"), ("minimum", .number (.double .zero)),
    ("type", .text "integer")]

/-- JSON values of any form. -/
def json : Codec Json where
  encode value := value
  decode? := Source.json?
  schema := []

/-- The values read from a list of sources, when every source gives one. -/
def decodeItems? (decode? : Source → Option α) : List Source → Option (List α)
  | [] => some []
  | source :: rest =>
    match decode? source, decodeItems? decode? rest with
    | some item, some items => some (item :: items)
    | _, _ => none

/-- The entries read from named sources, when every source gives a value. -/
def decodeEntries? (decode? : Source → Option α) :
    List (String × Source) → Option (List (String × α))
  | [] => some []
  | (key, source) :: rest =>
    match decode? source, decodeEntries? decode? rest with
    | some value, some entries => some ((key, value) :: entries)
    | _, _ => none

/-- Lists. -/
def list (c : Codec α) : Codec (List α) where
  encode items := .array (items.map c.encode)
  decode? source := source.items?.bind (decodeItems? c.decode?)
  schema := [("items", .object c.schema), ("type", .text "array")]

/-- Dictionaries. Of the entries with one key the last one stands. -/
def dict (c : Codec α) : Codec (Dict α) where
  encode d := .object (d.toList.map fun entry ↦ (entry.1, c.encode entry.2))
  decode? source := (source.fields?.bind (decodeEntries? c.decode?)).map Dict.ofList
  schema := [("additionalProperties", .object c.schema), ("type", .text "object")]

/-- The schema of an optional value: null is allowed, also as the last of a list of words. -/
def nullableSchema (schema : Schema) : Schema :=
  let words := match Json.lookup "enum" schema with
    | some (.array words) => Json.insertField "enum" (.array (words ++ [.null])) schema
    | _ => schema
  Json.insertField "nullable" (.bool true) words

/-- Optional values, absent ones written as null. -/
def optional (c : Codec α) : Codec (Option α) where
  encode value := match value with
    | some value => c.encode value
    | none => .null
  decode? source :=
    match source.isNull? with
    | some true => some none
    | some false => (c.decode? source).map some
    | none => none
  schema := nullableSchema c.schema

/-- The first of a list of words whose spelling is given. -/
def findWord (spelling : α → String) (word : String) : List α → Option α
  | [] => none
  | choice :: rest => if spelling choice = word then some choice else findWord spelling word rest

/-- A type of a few values, each written as a word. -/
def choice (spelling : α → String) (choices : List α) : Codec α where
  encode value := .text (spelling value)
  decode? source := source.word?.bind fun word ↦ findWord spelling word choices
  schema := [("enum", .array (choices.map fun value ↦ .text (spelling value))),
    ("type", .text "string")]

/-- A type written as another one, where not every value of the other need be one of it. -/
def refine (c : Codec β) (project : α → β) (make? : β → Option α) : Codec α where
  encode value := c.encode (project value)
  decode? source := (c.decode? source).bind make?
  schema := c.schema

end Codec

/-- A field of a record: its name, how it is taken out of the record, and how its values are
written. `missing` is what it holds when its key is missing, `beyond` what it holds when a record
given by position ends before it, and `omits` tells the values that are not written. -/
structure Field (ρ α : Type) where
  name : String
  get : ρ → α
  codec : Codec α
  missing : Option α
  beyond : Option α
  omits : α → Bool
  description : Option String

namespace Field

variable {ρ α : Type}

/-- A field that must be given. -/
def required (name : String) (get : ρ → α) (codec : Codec α) : Field ρ α :=
  ⟨name, get, codec, none, none, fun _ ↦ false, none⟩

/-- A field that holds a default when it is not given, and is always written. -/
def defaulted (name : String) (get : ρ → α) (codec : Codec α) (value : α) : Field ρ α :=
  ⟨name, get, codec, some value, some value, fun _ ↦ false, none⟩

/-- An optional field that is written as null when it is absent. It must be given in a record by
position. -/
def nullable (name : String) (get : ρ → Option α) (codec : Codec α) : Field ρ (Option α) :=
  ⟨name, get, codec.optional, some none, none, fun _ ↦ false, none⟩

/-- An optional field that is written as null when it is absent and may be left out anywhere. -/
def nullableDefaulted (name : String) (get : ρ → Option α) (codec : Codec α) :
    Field ρ (Option α) :=
  ⟨name, get, codec.optional, some none, some none, fun _ ↦ false, none⟩

/-- An optional field that is not written when it is absent. -/
def optional (name : String) (get : ρ → Option α) (codec : Codec α) : Field ρ (Option α) :=
  ⟨name, get, codec.optional, some none, some none, Option.isNone, none⟩

/-- A text that is not written when it is empty. -/
def text (name : String) (get : ρ → String) : Field ρ String :=
  ⟨name, get, .text, some "", some "", (· == ""), none⟩

/-- A list that is not written when it is empty. -/
def list (name : String) (get : ρ → List α) (codec : Codec α) : Field ρ (List α) :=
  ⟨name, get, codec.list, some [], some [], List.isEmpty, none⟩

/-- A dictionary that is not written when it is empty. -/
def dict (name : String) (get : ρ → Dict α) (codec : Codec α) : Field ρ (Dict α) :=
  ⟨name, get, codec.dict, some .empty, some .empty, Dict.isEmpty, none⟩

/-- A field with a description of its own. -/
def described (field : Field ρ α) (description : String) : Field ρ α :=
  { field with description := some description }

/-- The field as it is written, if it is. -/
def encode (field : Field ρ α) (record : ρ) : List (String × Json) :=
  let value := field.get record
  if field.omits value then [] else [(field.name, field.codec.encode value)]

/-- The sources among named ones that have a name. -/
def sourcesOf (name : String) : List (String × Source) → List Source
  | [] => []
  | (key, source) :: rest =>
    if key = name then source :: sourcesOf name rest else sourcesOf name rest

/-- The field's value among named sources, of which at most one may have its name. -/
def decode? (field : Field ρ α) (sources : List (String × Source)) : Option α :=
  match sourcesOf field.name sources with
  | [] => field.missing
  | [source] => field.codec.decode? source
  | _ => none

/-- The schema of the field: that of its type with the field's description and with the default
that would be written for it. -/
def schema (field : Field ρ α) : Schema :=
  let base := match field.description with
    | some text => Json.insertField "description" (.text text) field.codec.schema
    | none => field.codec.schema
  match field.beyond with
  | some value =>
    if field.omits value || (field.codec.encode value == .null) then base
    else Json.insertField "default" (field.codec.encode value) base
  | none => base

end Field

/-- The fields of a record `ρ` that are still to be read, where `f` is the type of the function that
makes the record from them. -/
inductive Fields (ρ : Type) : Type → Type 1 where
  | done : Fields ρ ρ
  | next {α f : Type} (field : Field ρ α) (rest : Fields ρ f) : Fields ρ (α → f)

namespace Fields

variable {ρ : Type}

/-- The fields of a record as they are written, in their order. -/
def encode {f : Type} : Fields ρ f → ρ → List (String × Json)
  | done, _ => []
  | next field rest, record => field.encode record ++ rest.encode record

/-- The record made from named sources. -/
def decode? {f : Type} : Fields ρ f → f → List (String × Source) → Option ρ
  | done, record, _ => some record
  | next field rest, make, sources =>
    match field.decode? sources with
    | some value => rest.decode? (make value) sources
    | none => none

/-- The record made from sources by position, where no source may be left over. -/
def decodePositions? {f : Type} : Fields ρ f → f → List Source → Option ρ
  | done, record, [] => some record
  | done, _, _ :: _ => none
  | next field rest, make, [] =>
    match field.beyond with
    | some value => rest.decodePositions? (make value) []
    | none => none
  | next field rest, make, source :: sources =>
    match field.codec.decode? source with
    | some value => rest.decodePositions? (make value) sources
    | none => none

/-- The record made from a record's own fields. -/
def rebuild {f : Type} : Fields ρ f → f → ρ → ρ
  | done, record, _ => record
  | next field rest, make, record => rest.rebuild (make (field.get record)) record

/-- The names of the fields. -/
def names {f : Type} : Fields ρ f → List String
  | done => []
  | next field rest => field.name :: rest.names

/-- The schemas of the fields by name. -/
def properties {f : Type} : Fields ρ f → List (String × Json)
  | done => []
  | next field rest => (field.name, .object field.schema) :: rest.properties

/-- The names of the fields that must be given. -/
def requiredNames {f : Type} : Fields ρ f → List String
  | done => []
  | next field rest =>
    if field.missing.isSome then rest.requiredNames else field.name :: rest.requiredNames

/-- The schema of a record with these fields. The names of those that must be given are in order. -/
def schema {f : Type} (fields : Fields ρ f) : Schema :=
  let required := fields.requiredNames.mergeSort fun a b ↦ decide (a ≤ b)
  let properties := fields.properties
  [("type", Json.text "object")] ++
    (if properties.isEmpty then [] else [("properties", Json.object properties)]) ++
    (if required.isEmpty then [] else [("required", Json.array (required.map Json.text))])

end Fields

namespace Codec

variable {ρ f : Type}

/-- Records that are read from objects alone. -/
def keyedRecord (make : f) (fields : Fields ρ f) : Codec ρ where
  encode record := .object (fields.encode record)
  decode? source := source.fields?.bind (fields.decode? make)
  schema := fields.schema

/-- Records, read from objects by name and from JSON arrays by position. -/
def record (make : f) (fields : Fields ρ f) : Codec ρ where
  encode record := .object (fields.encode record)
  decode? source :=
    match source.positions? with
    | some sources => fields.decodePositions? make sources
    | none => source.fields?.bind (fields.decode? make)
  schema := fields.schema

/-- A codec whose schema has a description. -/
def described {α : Type} (description : String) (c : Codec α) : Codec α :=
  { c with schema := Json.insertField "description" (.text description) c.schema }

end Codec

end FleetOperator
