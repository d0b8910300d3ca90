/-!
# YAML nodes

A YAML document as a tree in which every alias is replaced by the node that it stands for. What a
scalar means is left open until a type is asked of it.
-/

namespace FleetOperator.Yaml

/-- How a scalar is written. -/
inductive Style where
  | plain
  | singleQuoted
  | doubleQuoted
  | literal
  | folded
deriving DecidableEq, Repr

/-- A scalar: its text, how it is written, and its tag in full when it has one. -/
structure Scalar where
  style : Style
  tag : Option String
  text : String
deriving DecidableEq, Repr

/-- A node of a document. A part that cannot be reached, because aliases repeat without end or the
nesting is too deep, is `unreadable`; the document of an empty stream is `absent`. -/
inductive Node where
  | absent
  | unreadable
  | scalar (value : Scalar)
  | sequence (tag : Option String) (items : List Node)
  | mapping (tag : Option String) (entries : List (Node × Node))
deriving Repr

instance : Inhabited Node := ⟨.absent⟩

/-- The name of a local tag: what follows its exclamation mark, or the mark itself when nothing
follows. -/
def localName? (tag : Option String) : Option String :=
  match tag.map String.toList with
  | some ['!'] => some "!"
  | some ('!' :: name) => some (String.ofList name)
  | _ => none

/-- The prefix of the tags of the core types. -/
def coreTag (name : String) : String := "tag:yaml.org,2002:" ++ name

end FleetOperator.Yaml
