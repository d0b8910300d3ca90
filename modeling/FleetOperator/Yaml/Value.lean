import FleetOperator.Yaml.Document

/-!
# YAML values

The value of a YAML document with local tags and with keys of any form. A mapping with two equal
keys has no value.
-/

namespace FleetOperator.Yaml

/-- A YAML value. -/
inductive Value where
  | null
  | bool (value : Bool)
  | integer (value : Int)
  | double (value : Double)
  | special (text : String)
  | text (value : String)
  | sequence (items : List Value)
  | mapping (entries : List (Value × Value))
  | tagged (tag : String) (value : Value)
deriving Repr

instance : Inhabited Value := ⟨.null⟩

mutual

/-- Whether two values are the same, where the order of the entries of a mapping does not count. -/
def Value.same : Value → Value → Bool
  | .null, .null => true
  | .bool a, .bool b => a == b
  | .integer a, .integer b => a == b
  | .double a, .double b => a.sameValue b
  | .special a, .special b => a == b
  | .text a, .text b => a == b
  | .sequence a, .sequence b => sameItems a b
  | .mapping a, .mapping b => a.length == b.length && sameEntries a b
  | .tagged s a, .tagged t b => s == t && Value.same a b
  | _, _ => false

/-- Whether two lists of values are the same item by item. -/
def sameItems : List Value → List Value → Bool
  | [], [] => true
  | a :: as, b :: bs => Value.same a b && sameItems as bs
  | _, _ => false

/-- Whether every entry is the same as some entry of another mapping. -/
def sameEntries : List (Value × Value) → List (Value × Value) → Bool
  | [], _ => true
  | (k, v) :: rest, other =>
    (other.any fun entry ↦ Value.same k entry.1 && Value.same v entry.2) && sameEntries rest other

end

/-- The name under which all spellings of an infinity or of NaN are the same. -/
def specialName (text : String) : String :=
  let letters := text.toList.filter Char.isAlpha
  if letters.head?.any fun c ↦ c == 'n' || c == 'N' then ".nan"
  else if text.toList.head? == some '-' then "-.inf"
  else ".inf"

/-- The value of the meaning of a scalar with a text. -/
def Meaning.value? (text : String) : Meaning → Option Value
  | .null => some .null
  | .bool b => some (.bool b)
  | .integer n => some (.integer n)
  | .oversized => none
  | .floating (.finite d) => some (.double d)
  | .floating .special => some (.special (specialName text))
  | .text t => some (.text t)

/-- Whether a key is the same as that of one of some entries. -/
def hasKey (key : Value) (entries : List (Value × Value)) : Bool :=
  entries.any fun entry ↦ entry.1.same key

/-- A value under the local tag of a node, if it has one. -/
def underTag (tag : Option String) (value : Value) : Value :=
  match localName? tag with
  | some name => .tagged name value
  | none => value

mutual

/-- The value that a node writes. -/
def Node.value? : Node → Option Value
  | .absent => some .null
  | .unreadable => none
  | .scalar s =>
    match localName? s.tag with
    | some name =>
      (Scalar.meaning? { s with tag := none }).bind fun meaning ↦
        (meaning.value? s.text).map (.tagged name)
    | none => s.meaning?.bind (·.value? s.text)
  | .sequence tag items => (valueItems? items).map fun items ↦ underTag tag (.sequence items)
  | .mapping tag entries =>
    (valueEntries? entries).map fun entries ↦ underTag tag (.mapping entries)

/-- The values that nodes write. -/
def valueItems? : List Node → Option (List Value)
  | [] => some []
  | node :: rest =>
    match Node.value? node, valueItems? rest with
    | some item, some items => some (item :: items)
    | _, _ => none

/-- The entries that pairs of nodes write, where no two keys are the same. -/
def valueEntries? : List (Node × Node) → Option (List (Value × Value))
  | [] => some []
  | (key, value) :: rest =>
    match Node.value? key, Node.value? value, valueEntries? rest with
    | some key, some value, some entries =>
      if hasKey key entries then none else some ((key, value) :: entries)
    | _, _, _ => none

end

/-- The text of a key. -/
def Value.key? : Value → Option String
  | .text value => some value
  | _ => none

mutual

/-- The JSON value with the content of a YAML value, whose keys must be texts. -/
def Value.json? : Value → Option Json
  | .null => some .null
  | .bool value => some (.bool value)
  | .integer value => some (.number (.integer value))
  | .double value => some (.number (.double value))
  | .special _ => some .null
  | .text value => some (.text value)
  | .sequence items => (contentItems? items).map .array
  | .mapping entries => (contentFields? entries).map .object
  | .tagged _ value => value.json?

/-- The JSON values with the content of YAML values. -/
def contentItems? : List Value → Option (List Json)
  | [] => some []
  | value :: rest =>
    match value.json?, contentItems? rest with
    | some item, some items => some (item :: items)
    | _, _ => none

/-- The JSON fields with the content of entries. -/
def contentFields? : List (Value × Value) → Option (List (String × Json))
  | [] => some []
  | (key, value) :: rest =>
    match key.key?, value.json?, contentFields? rest with
    | some name, some item, some fields => some ((name, item) :: fields)
    | _, _, _ => none

end

/-- Whether a text is a YAML document or none. -/
def isDocument (text : String) : Bool := ((document? text).bind Node.value?).isSome

end FleetOperator.Yaml
