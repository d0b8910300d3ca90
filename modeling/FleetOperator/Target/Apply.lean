import FleetOperator.Target.Call

/-!
# Applying a manifest

The objects of a manifest are written to a workload cluster, or deleted from it, one after the other
in the order of the text. The first failure ends it. What is to be deleted and is not there is no
failure. A guarded object that exists already keeps all but its metadata.
-/

namespace FleetOperator.Target

open Manifest (Location Mapper Object ScopeTable)

/-- Reads an object. -/
def get (place : Location) : Program interface (Except TargetError Json) :=
  .ask (Call.get place) .done

/-- Stores an object. -/
def apply (place : Location) (body : Json) : Program interface (Except TargetError Unit) :=
  .ask (Call.apply place body) .done

/-- Changes the metadata of an object. -/
def patchMetadata (place : Location) (metadata : Json) :
    Program interface (Except TargetError Unit) :=
  .ask (Call.patchMetadata place metadata) .done

/-- Deletes an object. -/
def delete (place : Location) : Program interface (Except TargetError Unit) :=
  .ask (Call.delete place) .done

/-- Writes an object. -/
def write (object : Object) : Program interface (Except TargetError Unit) :=
  match object.route with
  | .namespaced | .clusterScoped => apply object.location object.body
  | .guardedSingleton => do
    match ← get object.location with
    | .ok _ => patchMetadata object.location (object.body.at? "metadata")
    | .error error =>
      if error.isNotFound then apply object.location object.body else return .error error

/-- Deletes an object, which may be gone already. -/
def remove (object : Object) : Program interface (Except TargetError Unit) := do
  match ← delete object.location with
  | .ok () => return .ok ()
  | .error error => return if error.isNotFound then .ok () else .error error

/-- The error of an object that could not be written or deleted. -/
def applyError (object : Object) (cause : TargetError) : Error :=
  .manifest ("could not apply " ++ object.location.resource.kind ++ " " ++ object.location.name ++
    ": " ++ cause.message)

/-- Writes or deletes objects up to the first failure. -/
def applyObjects (removing : Bool) : List Object → Program interface (Except Error Unit)
  | [] => return .ok ()
  | object :: rest => do
    match ← if removing then remove object else write object with
    | .ok () => applyObjects removing rest
    | .error cause => return .error (applyError object cause)

/-- Writes or deletes the objects of a manifest and tells how many they are. -/
def applyManifest (mapper : Mapper) (scopes : ScopeTable) (manifest : String) (removing : Bool) :
    Program interface (Except Error Nat) :=
  match Manifest.discover mapper scopes manifest with
  | .error error => return .error error
  | .ok objects => do
    match ← applyObjects removing objects with
    | .ok () => return .ok objects.length
    | .error error => return .error error

end FleetOperator.Target
