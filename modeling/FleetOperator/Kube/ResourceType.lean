/-!
# Resource types

The types of objects that a Kubernetes cluster serves: a kind in a version of a group, under a
plural name by which its objects are addressed. The core group has no name.
-/

namespace FleetOperator.Kube

/-- A kind in a version of a group. -/
structure GroupVersionKind where
  group : String
  version : String
  kind : String
deriving DecidableEq, Repr

/-- A type of objects that a cluster serves. -/
structure ResourceType where
  group : String := ""
  version : String := "v1"
  kind : String
  plural : String
  isNamespaced : Bool := true
deriving DecidableEq, Repr

namespace ResourceType

/-- The version of a type together with its group, unless that is the core group. -/
def apiVersion (r : ResourceType) : String :=
  if r.group = "" then r.version else r.group ++ "/" ++ r.version

/-- Whether a type is of a kind in a version of a group. -/
def isOf (r : ResourceType) (gvk : GroupVersionKind) : Bool :=
  r.group == gvk.group && r.version == gvk.version && r.kind == gvk.kind

/-- The first of a list of types that is of a kind in a version of a group. -/
def resolve (types : List ResourceType) (gvk : GroupVersionKind) : Option ResourceType :=
  types.find? (·.isOf gvk)

/-- The path of the objects of a type, in a namespace if there is one. -/
def path (r : ResourceType) («namespace» : Option String) : String :=
  let root := if r.group = "" then "/api/" else "/apis/"
  match «namespace» with
  | some ns => root ++ r.apiVersion ++ "/namespaces/" ++ ns ++ "/" ++ r.plural
  | none => root ++ r.apiVersion ++ "/" ++ r.plural

end ResourceType

end FleetOperator.Kube
