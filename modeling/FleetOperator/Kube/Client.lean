import FleetOperator.Kube.Address
import FleetOperator.Kube.Discovery
import FleetOperator.Resource.Metadata

/-!
# Objects on an API server

Reading and patching objects whose form is known. An object without a name cannot be addressed, nor
one whose name may not stand in an address, and an answer that does not have the form of the object
is a failure.
-/

namespace FleetOperator.Kube

variable {I : Interface}

/-- The object that an answer holds. -/
def readObject {α : Type} (c : Codec α) (path : String) (answer : Json) : Except Failure α :=
  match c.ofJson? answer with
  | some value => .ok value
  | none => .error (.response ("no object of the expected form at " ++ path))

namespace Client

/-- A request for an object by name, or for a part of it, with the object that it answers. -/
def object {α : Type} (client : Client I) (c : Codec α) (collection name part : String)
    (method : Method) (query : List String) : Program I (Except Failure α) :=
  let path := collection ++ "/" ++ name ++ part
  if name = "" then return .error (.request "a name that is not empty is required")
  else if !Address.isPath path.toList then return .error (.request ("no address: " ++ path))
  else do
    match ← client { method, path, query } with
    | .ok answer => return readObject c path answer
    | .error failure => return .error failure

/-- Reads an object. -/
def get {α : Type} (client : Client I) (c : Codec α) (collection name : String) :
    Program I (Except Failure α) :=
  client.object c collection name "" .get []

/-- Reads an object, which may not be there. -/
def get? {α : Type} (client : Client I) (c : Codec α) (collection name : String) :
    Program I (Except Failure (Option α)) := do
  match ← client.get c collection name with
  | .ok value => return .ok (some value)
  | .error failure => return if failure.saysNotFound then .ok none else .error failure

/-- Changes an object by a merge patch. -/
def merge {α : Type} (client : Client I) (c : Codec α) (collection name : String)
    (patch : Json) : Program I (Except Failure α) :=
  client.object c collection name "" (.patch .merge patch) []

/-- Changes the status of an object by a merge patch. -/
def mergeStatus {α : Type} (client : Client I) (c : Codec α) (collection name : String)
    (patch : Json) : Program I (Except Failure α) :=
  client.object c collection name "/status" (.patch .merge patch) []

end Client

/-- An object of which only the metadata is of interest. -/
structure MetadataOnly where
  metadata : Metadata := {}

/-- The written form of `MetadataOnly`. -/
def MetadataOnly.codec : Codec MetadataOnly :=
  .keyedRecord MetadataOnly.mk <|
    .next (.defaulted "metadata" (·.metadata) Metadata.codec {}) <|
    .done

end FleetOperator.Kube
