import FleetOperator.Error
import FleetOperator.Text.Blank
import FleetOperator.Yaml.Document

/-!
# Documents of a manifest

A manifest is a text of several YAML documents. The lines of three dashes and nothing else but white
space at their end separate them; segments that are blank are no documents. A document that holds
nothing is left out, and any other one must be an object.
-/

namespace FleetOperator.Manifest

/-- The lines of a text, each with the line feed that ends it. -/
def splitLines : List Char → List (List Char)
  | [] => []
  | c :: rest =>
    if c = '\n' then [c] :: splitLines rest
    else
      match splitLines rest with
      | [] => [[c]]
      | line :: lines => (c :: line) :: lines

/-- Whether a line separates documents. -/
def isSeparator (line : List Char) : Bool := Text.trimEnd line == ['-', '-', '-']

/-- The segments of lines between the separators. There is always one. -/
def segments : List (List Char) → List (List Char)
  | [] => [[]]
  | line :: rest =>
    if isSeparator line then [] :: segments rest
    else
      match segments rest with
      | [] => [line]
      | segment :: others => (line ++ segment) :: others

/-- The segments of a text that hold more than blanks. -/
def split (text : List Char) : List (List Char) :=
  (segments (splitLines text)).filter fun segment ↦ !segment.all Text.isBlank

/-- The documents of a manifest, as texts. -/
def documents (manifest : String) : List String := (split manifest.toList).map String.ofList

/-- The object that a document writes, unless it holds nothing. -/
def readDocument (document : String) : Except Error (Option Json) :=
  match Yaml.readJson? document with
  | none => .error (.manifest "could not decode manifest: not a YAML document")
  | some .null => .ok none
  | some (.object fields) => .ok (some (.object fields))
  | some _ => .error (.manifest "manifest document is not an object")

end FleetOperator.Manifest
