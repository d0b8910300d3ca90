import FleetOperator.Dict
import FleetOperator.Target.Call

/-!
# A workload cluster in memory

A workload cluster that keeps objects by plural name, namespace and name. Calls may be prepared to
fail, by the name of the object, by verb and name, or all of them.
-/

namespace FleetOperator.Target

open Manifest (Location)

/-- The key under which the object at a place is kept. -/
def key (place : Location) : String :=
  place.resource.plural ++ "/" ++ place.namespace.getD "" ++ "/" ++ place.name

/-- The failure that a text prepares: one that starts with the code 404 says that nothing is there,
any other one is a failed request. -/
def scriptedFailure (text : String) : TargetError :=
  let code := "404 ".toList
  if code.isPrefixOf text.toList then .notFound (String.ofList (text.toList.drop code.length))
  else .request text

/-- The content and the prepared behaviour of a workload cluster. -/
structure Memory where
  objects : Dict Json := .empty
  failures : Dict String := .empty

namespace Memory

/-- The failure that is prepared for a call. -/
def failure? (m : Memory) (call : Call) : Option TargetError :=
  let name := call.location.name
  ((m.failures.get? name <|> m.failures.get? (call.verb ++ " " ++ name)) <|>
    m.failures.get? "*").map scriptedFailure

/-- The stored object at a place, or the failure that it is not there. -/
def find (m : Memory) (place : Location) : Except TargetError Json :=
  match m.objects.get? (key place) with
  | some value => .ok value
  | none => .error (.notFound (key place))

/-- An object with other metadata. -/
def withMetadata (metadata value : Json) : Json :=
  .object (Json.insertField "metadata" metadata (value.asObject?.getD []))

/-- The answer to a call that is not prepared to fail. -/
def serve : (call : Call) → Memory → Except TargetError call.Value × Memory
  | .get place, m => (m.find place, m)
  | .apply place body, m => (.ok (), { m with objects := m.objects.insert (key place) body })
  | .patchMetadata place metadata, m =>
    match m.find place with
    | .ok value =>
      (.ok (), { m with objects := m.objects.insert (key place) (withMetadata metadata value) })
    | .error error => (.error error, m)
  | .delete place, m =>
    match m.find place with
    | .ok _ => (.ok (), { m with objects := m.objects.erase (key place) })
    | .error error => (.error error, m)

/-- The answer to a call. -/
def answer : Handler interface Memory := fun call m ↦
  match m.failure? call with
  | some error => (.error error, m)
  | none => serve call m

end Memory

end FleetOperator.Target
