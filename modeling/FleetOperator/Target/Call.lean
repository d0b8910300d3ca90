import FleetOperator.Manifest.Object
import FleetOperator.Program

/-!
# Calls to a workload cluster

The calls by which the objects of a manifest are written to a workload cluster.
-/

namespace FleetOperator.Target

open Manifest (Location)

/-- A call to a workload cluster. -/
inductive Call where
  | get (place : Location)
  | apply (place : Location) (body : Json)
  | patchMetadata (place : Location) (metadata : Json)
  | delete (place : Location)
deriving DecidableEq, Repr

namespace Call

/-- What a call gives when it succeeds: the object that was read, or nothing. -/
abbrev Value : Call → Type
  | get _ => Json
  | apply _ _ | patchMetadata _ _ | delete _ => Unit

/-- The name of a call. -/
def verb : Call → String
  | get _ => "get"
  | apply _ _ => "apply"
  | patchMetadata _ _ => "patch_metadata"
  | delete _ => "delete"

/-- The place that a call addresses. -/
def location : Call → Location
  | get place => place
  | apply place _ => place
  | patchMetadata place _ => place
  | delete place => place

end Call

/-- The calls to a workload cluster with their answers. -/
abbrev interface : Interface := ⟨Call, fun call ↦ Except TargetError call.Value⟩

end FleetOperator.Target
