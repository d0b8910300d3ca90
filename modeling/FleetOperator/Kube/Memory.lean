import FleetOperator.Dict
import FleetOperator.Json.MergePatch
import FleetOperator.Kube.Discovery

/-!
# An API server in memory

An API server that keeps objects by the path at which they are addressed. A merge patch changes an
object, also when it is sent to the path of the object's status; an applied object is stored as it
is. Requests may be prepared to fail.
-/

namespace FleetOperator.Kube

/-- A failure prepared for the requests with a method for a path. -/
structure ScriptedFailure where
  method : String
  path : String
  code : Int
  reason : String
  message : String
deriving DecidableEq, Repr

/-- The content and the prepared behaviour of an API server. -/
structure Memory where
  objects : Dict Json := .empty
  failures : List ScriptedFailure := []
  resources : List ResourceType := []

namespace Memory

/-- The failure that is prepared for a method and a path. -/
def failure? (m : Memory) (method path : String) : Option Failure :=
  (m.failures.find? fun f ↦ f.method == method && f.path == path).map fun f ↦
    .status f.code f.reason f.message

/-- A list without what occurred before. -/
def distinct (list : List String) : List String :=
  list.foldl (fun seen item ↦ if seen.contains item then seen else seen ++ [item]) []

/-- The versions of a group, in the order of the list of types. -/
def versionsOf (m : Memory) (group : String) : List String :=
  distinct ((m.resources.filter (·.group == group)).map (·.version))

/-- The names of the groups other than the core group, sorted. -/
def groupNames (m : Memory) : List String :=
  (Dict.ofList ((m.resources.filter (·.group != "")).map fun r ↦ (r.group, ()))).keys

/-- The groups with their versions. -/
def groups (m : Memory) : List Group :=
  m.groupNames.map fun name ↦
    { name
      versions := (m.versionsOf name).map fun version ↦
        { groupVersion := name ++ "/" ++ version, version } }

/-- The types in a version of a group. -/
def typesOf (m : Memory) (group version : String) : List ListedType :=
  (m.resources.filter fun r ↦ r.group == group && r.version == version).map fun r ↦
    { name := r.plural, kind := r.kind, isNamespaced := r.isNamespaced }

/-- The document that lists types. -/
def typesDocument (types : List ListedType) : Json :=
  .object [("resources", (Codec.list ListedType.codec).encode types)]

/-- The documents of discovery by their paths. -/
def discoveryDocuments (m : Memory) : List (String × Json) :=
  [("/apis", .object [("groups", (Codec.list Group.codec).encode m.groups)]),
    ("/api", .object [("versions", (Codec.list .text).encode (m.versionsOf ""))])] ++
  (m.groups.flatMap fun group ↦ group.versions.map fun version ↦
    ("/apis/" ++ version.groupVersion, typesDocument (m.typesOf group.name version.version))) ++
  (m.versionsOf "").map fun version ↦ ("/api/" ++ version, typesDocument (m.typesOf "" version))

/-- The path of the object whose status a path addresses, and any other path itself. -/
def objectPath (path : String) : String :=
  if "/status".toList.reverse.isPrefixOf path.toList.reverse then
    String.ofList (path.toList.take (path.length - "/status".length))
  else path

/-- The answer to a successful request that has no object to show. -/
def success : Json := .object [("kind", .text "Status"), ("status", .text "Success")]

/-- The answer to a request that is not prepared to fail. -/
def serve (request : Request) (m : Memory) : Response × Memory :=
  match request.method with
  | .get =>
    match Json.lookup request.path m.discoveryDocuments, m.objects.get? request.path with
    | some document, _ => (.ok document, m)
    | none, some value => (.ok value, m)
    | none, none => (.error (.notFound request.path), m)
  | .patch .apply body =>
    (.ok body, { m with objects := m.objects.insert request.path body })
  | .patch .merge body =>
    let path := objectPath request.path
    match m.objects.get? path with
    | some value =>
      let changed := value.mergePatch body
      (.ok changed, { m with objects := m.objects.insert path changed })
    | none => (.error (.notFound request.path), m)
  | .delete =>
    match m.objects.get? request.path with
    | some _ => (.ok success, { m with objects := m.objects.erase request.path })
    | none => (.error (.notFound request.path), m)

/-- The answer to a request. -/
def answer (request : Request) (m : Memory) : Response × Memory :=
  match m.failure? request.method.text request.path with
  | some failure => (.error failure, m)
  | none => serve request m

end Memory

end FleetOperator.Kube
