import FleetOperator.Codec.Basic
import FleetOperator.Kube.Request
import FleetOperator.Kube.ResourceType
import FleetOperator.Program

/-!
# Discovery

The types of objects that a Kubernetes cluster serves, asked from the cluster itself: its groups and
the versions of each, the types in each version, and then the same for the core group. A cluster
that names a group without a version cannot be used.
-/

namespace FleetOperator.Kube

/-- A version of a group. -/
structure GroupVersion where
  groupVersion : String
  version : String
deriving DecidableEq, Repr

/-- The written form of `GroupVersion`. -/
def GroupVersion.codec : Codec GroupVersion :=
  .keyedRecord GroupVersion.mk <|
    .next (.required "groupVersion" (·.groupVersion) .text) <|
    .next (.required "version" (·.version) .text) <|
    .done

/-- A group with its versions. -/
structure Group where
  name : String
  versions : List GroupVersion
deriving DecidableEq, Repr

/-- The written form of `Group`. -/
def Group.codec : Codec Group :=
  .keyedRecord Group.mk <|
    .next (.required "name" (·.name) .text) <|
    .next (.required "versions" (·.versions) (.list GroupVersion.codec)) <|
    .done

/-- A type of objects as a version of a group lists it. -/
structure ListedType where
  name : String
  kind : String
  isNamespaced : Bool
deriving DecidableEq, Repr

/-- The written form of `ListedType`. -/
def ListedType.codec : Codec ListedType :=
  .keyedRecord ListedType.mk <|
    .next (.required "name" (·.name) .text) <|
    .next (.required "kind" (·.kind) .text) <|
    .next (.required "namespaced" (·.isNamespaced) .flag) <|
    .done

/-- The type of objects that an entry of a list stands for. Parts of objects have none. -/
def ListedType.resourceType? (group version : String) (entry : ListedType) : Option ResourceType :=
  if entry.name.toList.contains '/' then none
  else some
    { group, version, kind := entry.kind, plural := entry.name, isNamespaced := entry.isNamespaced }

/-- The way in which a program reaches the API server of a cluster. -/
abbrev Client (I : Interface) := Request → Program I Response

namespace Client

variable {I : Interface}

/-- A field of a document of the server. -/
def readField {α : Type} (client : Client I) (path name : String) (c : Codec α) :
    ExceptT Failure (Program I) α := do
  let document ← ExceptT.mk (client { method := .get, path })
  match c.ofJson? (document.at? name) with
  | some value => return value
  | none => throw (.response (name ++ " of " ++ path))

/-- The types of objects in a version of a group. -/
def typesIn (client : Client I) (path group version : String) :
    ExceptT Failure (Program I) (List ResourceType) := do
  let entries ← client.readField path "resources" (.list ListedType.codec)
  return entries.filterMap (·.resourceType? group version)

/-- The types of objects in the versions of a group. -/
def typesInVersions (client : Client I) (group : String) :
    List GroupVersion → ExceptT Failure (Program I) (List ResourceType)
  | [] => return []
  | version :: rest => do
    let types ← client.typesIn ("/apis/" ++ version.groupVersion) group version.version
    return types ++ (← client.typesInVersions group rest)

/-- The types of objects in groups. -/
def typesInGroups (client : Client I) :
    List Group → ExceptT Failure (Program I) (List ResourceType)
  | [] => return []
  | group :: rest => do
    if group.versions.isEmpty then throw (.response ("no version of " ++ group.name))
    let types ← client.typesInVersions group.name group.versions
    return types ++ (← client.typesInGroups rest)

/-- The types of objects in versions of the core group. -/
def coreTypes (client : Client I) : List String → ExceptT Failure (Program I) (List ResourceType)
  | [] => return []
  | version :: rest => do
    let types ← client.typesIn ("/api/" ++ version) "" version
    return types ++ (← client.coreTypes rest)

/-- The types of objects that a cluster serves. -/
def discover (client : Client I) : ExceptT Failure (Program I) (List ResourceType) := do
  let groups ← client.readField "/apis" "groups" (.list Group.codec)
  let types ← client.typesInGroups groups
  let versions ← client.readField "/api" "versions" (.list .text)
  if versions.isEmpty then throw (.response "no version of the core group")
  return types ++ (← client.coreTypes versions)

end Client

end FleetOperator.Kube
