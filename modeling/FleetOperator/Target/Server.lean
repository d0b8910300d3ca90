import FleetOperator.Json.MergePatch
import FleetOperator.Kube.Client
import FleetOperator.Target.Call

/-!
# A workload cluster behind an API server

The calls to a workload cluster as requests to its API server. Objects are written under the name of
this operator as the field manager. What is read is given with its metadata in the known form.
-/

namespace FleetOperator.Target

open Manifest (Location)

variable {I : Interface}

/-- The parameter that names the manager of the written fields. -/
def managerQuery : List String := ["fieldManager=akuity-operator"]

/-- The fields of an object without its metadata. The version and the kind stand together or not at
all: where one of the two is missing or is no text, reading has dropped those up to it. -/
def untypedFields (fields : List (String × Json)) : List (String × Json) :=
  let rest := Json.removeField "metadata" fields
  match Json.lookup "apiVersion" rest, Json.lookup "kind" rest with
  | some (.text _), some (.text _) => rest
  | some (.text _), _ | none, _ => Json.removeField "apiVersion" (Json.removeField "kind" rest)
  | some _, _ => Json.removeField "apiVersion" rest

/-- An object of any type, with its metadata in the known form. -/
def untypedObject : Codec Json where
  encode value := value
  decode? source :=
    match source with
    | .json (.object fields) =>
      (Kube.MetadataOnly.codec.decode? source).map fun known ↦
        .object (Json.insertField "metadata" (Metadata.codec.toJson known.metadata)
          (untypedFields fields))
    | _ => none
  schema := []

/-- The failure of a call at a place. -/
def failureAt (place : Location) (failure : Kube.Failure) : TargetError :=
  if failure.hasCodeNotFound then .notFound (place.resource.kind ++ " " ++ place.name)
  else .request failure.message

/-- A request for the object at a place. -/
def request (client : Kube.Client I) (place : Location) (method : Kube.Method)
    (query : List String) : Program I (Except TargetError Json) := do
  let collection := place.resource.path place.namespace
  match ← client.object untypedObject collection place.name "" method query with
  | .ok value => return .ok value
  | .error failure => return .error (failureAt place failure)

/-- A request of which only the success matters. -/
def send (client : Kube.Client I) (place : Location) (method : Kube.Method)
    (query : List String) : Program I (Except TargetError Unit) := do
  return (← request client place method query).map fun _ ↦ ()

/-- The answer of an API server to a call. -/
def serve (client : Kube.Client I) : (call : Call) → Program I (Except TargetError call.Value)
  | .get place => request client place .get []
  | .apply place body => send client place (.patch .apply body) managerQuery
  | .patchMetadata place metadata =>
    send client place (.patch .merge (.object [("metadata", metadata)])) managerQuery
  | .delete place => send client place .delete []

end FleetOperator.Target
