import FleetOperator.Kube.ResourceType
import FleetOperator.Manifest.Document
import FleetOperator.Manifest.Route

/-!
# Objects of a manifest

The objects that the documents of a manifest describe, each with the place at which it is to be
written. All documents are read and all places are found before anything is written: one document
that cannot be read or placed fails the whole manifest.
-/

namespace FleetOperator.Manifest

/-- A place on a cluster. Without a namespace the type alone is addressed. -/
structure Location where
  resource : Kube.ResourceType
  «namespace» : Option String
  name : String
deriving DecidableEq, Repr

/-- An object with its place and its route. -/
structure Object where
  location : Location
  route : Route
  body : Json
deriving DecidableEq, Repr

/-- The types of objects that a cluster serves, by kind, version and group. -/
abbrev Mapper := Kube.GroupVersionKind → Option Kube.ResourceType

/-- A text that is there and is not empty. -/
def field? (value : Json) : Option String := value.asText?.filter (· != "")

/-- The group and the version that a text names. -/
def splitVersion (apiVersion : String) : String × String :=
  let text := apiVersion.toList
  if text.contains '/' then
    (String.ofList (text.takeWhile (· != '/')),
      String.ofList ((text.dropWhile (· != '/')).drop 1))
  else ("", apiVersion)

/-- The object that a body describes. -/
def locate (mapper : Mapper) (scopes : ScopeTable) (body : Json) : Except Error Object :=
  match field? (body.at? "apiVersion") with
  | none => .error (.manifest "document is missing apiVersion")
  | some apiVersion =>
    match field? (body.at? "kind") with
    | none => .error (.manifest "document is missing kind")
    | some kind =>
      let metadata := body.at? "metadata"
      match field? (metadata.at? "name") with
      | none => .error (.manifest (kind ++ " is missing metadata.name"))
      | some name =>
        let (group, version) := splitVersion apiVersion
        match mapper { group, version, kind } with
        | none => .error (.manifest ("no API resource for " ++ apiVersion ++ " " ++ kind))
        | some resource =>
          let route := scopes.route resource.plural
          let «namespace» :=
            if route = .namespaced then field? (metadata.at? "namespace") else none
          .ok { location := { resource, «namespace», name }, route, body }

/-- The objects that documents describe, those that hold nothing left out. -/
def discoverIn (mapper : Mapper) (scopes : ScopeTable) : List String → Except Error (List Object)
  | [] => .ok []
  | document :: rest =>
    match readDocument document with
    | .error error => .error error
    | .ok none => discoverIn mapper scopes rest
    | .ok (some body) =>
      match locate mapper scopes body with
      | .error error => .error error
      | .ok object => (discoverIn mapper scopes rest).map (object :: ·)

/-- The objects that a manifest describes. -/
def discover (mapper : Mapper) (scopes : ScopeTable) (manifest : String) :
    Except Error (List Object) :=
  discoverIn mapper scopes (documents manifest)

end FleetOperator.Manifest
