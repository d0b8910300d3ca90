import FleetOperator.Resource.Kind
import FleetOperator.Yaml.Writer

/-!
# Definitions of custom resources

The documents by which Kubernetes learns the kinds of custom resource: how their objects are named,
which columns a table of them has, and the schema of their specification and status. The schema is
that of the codecs by which the objects are read and written.
-/

namespace FleetOperator

/-- A column of a table of objects: its name, and the path of the text that stands in it. -/
structure Column where
  name : String
  path : String
deriving DecidableEq, Repr

namespace Column

/-- The written form of a column. -/
def toJson (c : Column) : Json :=
  .object [("jsonPath", .text c.path), ("name", .text c.name), ("type", .text "string")]

end Column

/-- The definition of a kind of custom resource. -/
structure Definition where
  kind : String
  plural : String
  shortName : String
  columns : List Column
  spec : Schema
  status : Schema

namespace Definition

/-- The definition of a kind with a short name and columns. -/
def ofKind {σ ω : Type} (kind : Kind σ ω) (shortName : String) (columns : List Column) :
    Definition where
  kind := kind.name
  plural := kind.plural
  shortName
  columns
  spec := kind.spec.schema
  status := (Status.codec kind.observation).optional.schema

/-- The names under which objects are addressed. -/
def names (d : Definition) : Json :=
  .object [("categories", .array []), ("kind", .text d.kind), ("plural", .text d.plural),
    ("shortNames", .array [.text d.shortName]), ("singular", .text (d.kind.map Char.toLower))]

/-- The schema of the objects. -/
def schema (d : Definition) : Json :=
  .object [
    ("description",
      .text ("Auto-generated derived type for " ++ d.kind ++ "Spec via `CustomResource`")),
    ("properties", .object [("spec", .object d.spec), ("status", .object d.status)]),
    ("required", .array [.text "spec"]),
    ("title", .text d.kind),
    ("type", .text "object")]

/-- The one version in which objects are served and stored. -/
def version (d : Definition) : Json :=
  .object [
    ("additionalPrinterColumns", .array (d.columns.map Column.toJson)),
    ("name", .text apiVersionName),
    ("schema", .object [("openAPIV3Schema", d.schema)]),
    ("served", .bool true),
    ("storage", .bool true),
    ("subresources", .object [("status", .object [])])]

/-- The document of a definition, with every object in key order. -/
def document (d : Definition) : Json :=
  Json.sorted <| .object [
    ("apiVersion", .text "apiextensions.k8s.io/v1"),
    ("kind", .text "CustomResourceDefinition"),
    ("metadata", .object [("name", .text (d.plural ++ "." ++ apiGroup))]),
    ("spec", .object [
      ("group", .text apiGroup),
      ("names", d.names),
      ("scope", .text "Cluster"),
      ("versions", .array [d.version])])]

/-- The definition of clusters. -/
def cluster : Definition :=
  .ofKind Kind.cluster "akc"
    [⟨"Instance", ".spec.instanceId"⟩, ⟨"Agent", ".status.atProvider.agentSize"⟩]

/-- The definition of instances. -/
def inst : Definition :=
  .ofKind Kind.inst "aki" [⟨"Hostname", ".status.atProvider.hostname"⟩]

/-- The documents of all definitions as one text. -/
def manifest : String :=
  Yaml.write cluster.document ++ "---\n" ++ Yaml.write inst.document

end Definition

end FleetOperator
