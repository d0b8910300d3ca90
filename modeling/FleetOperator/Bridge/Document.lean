import FleetOperator.Error
import FleetOperator.Instance.Spec
import FleetOperator.Platform.Instance
import FleetOperator.Text.Blank
import FleetOperator.Yaml.Document
import FleetOperator.Yaml.Writer

/-!
# Embedded documents

Kustomizations, config maps and plugins are documents inside the objects of the platform. The custom
resources hold a kustomization as YAML text, a config map as its data, and a plugin as a typed
value. An absent, a null and an empty document mean the same.
-/

namespace FleetOperator

namespace Kustomization

/-- The YAML text of a kustomization document. Absent, null and empty documents have none. -/
def toYaml : Option Json → Option String
  | none => none
  | some .null => none
  | some (.object []) => none
  | some document => some (Yaml.write document)

/-- The kustomization document that a YAML text writes. Blank texts and null documents are none. -/
def ofYaml? (text : Option String) : Except Error (Option Json) :=
  match text.filter fun t ↦ !Text.isBlankText t with
  | none => .ok none
  | some text =>
    match Yaml.readJson? text with
    | none => .error (.transform "kustomization from YAML" "not a YAML document")
    | some .null => .ok none
    | some document => .ok (some document)

end Kustomization

/-- A text that may be empty as one that may be absent. -/
def nonEmpty (text : String) : Option String := if text = "" then none else some text

/-- A dictionary that may be empty as one that may be absent. -/
def nonEmptyDict {α : Type} (dict : Dict α) : Option (Dict α) :=
  if dict.isEmpty then none else some dict

namespace ConfigMapData

/-- The config map document of data with a name. Absent and empty data have none. -/
def toDocument (name : String) (data : Option ConfigMapData) : Option Json :=
  (data.bind nonEmptyDict).map fun data ↦
    .object [
      ("apiVersion", .text "v1"),
      ("data", (Codec.dict .text).encode data),
      ("kind", .text "ConfigMap"),
      ("metadata", .object [("name", .text name)])]

/-- The data that fields write, where every value must be a text. -/
def ofFields? (name : String) : List (String × Json) → Except Error (List (String × String))
  | [] => .ok []
  | (key, .text value) :: rest => (ofFields? name rest).map ((key, value) :: ·)
  | (key, _) :: _ =>
    .error (.transform (name ++ " configmap") ("value of " ++ key ++ " is not a string"))

/-- The data of a config map's document: of a whole document its data, and all fields of any other
object. Data without entries are none. -/
def ofDocument? (name : String) (document : Option Json) :
    Except Error (Option ConfigMapData) := do
  let read (fields : List (String × Json)) : Except Error (Option ConfigMapData) :=
    (ofFields? name fields).map fun entries ↦ nonEmptyDict (Dict.ofList entries)
  match document with
  | none => return none
  | some .null => return none
  | some (.object fields) =>
    if Json.lookup "kind" fields = some (.text "ConfigMap") then
      match Json.lookup "data" fields with
      | none => return none
      | some .null => return none
      | some (.object data) => read data
      | some _ => throw (.transform (name ++ " configmap") "data is not an object")
    else read fields
  | some _ => throw (.transform (name ++ " configmap") "not an object")

end ConfigMapData

/-- The metadata of a plugin's document. -/
structure PluginMetadata where
  name : String
  annotations : Dict String := .empty
deriving DecidableEq, Repr

/-- The written form of `PluginMetadata`. -/
def PluginMetadata.codec : Codec PluginMetadata :=
  .record PluginMetadata.mk <|
    .next (.required "name" (·.name) .text) <|
    .next (.dict "annotations" (·.annotations) .text) <|
    .done

/-- The document of a plugin. -/
structure PluginDocument where
  apiVersion : String := ""
  kind : String := ""
  metadata : PluginMetadata
  spec : ArgoCD.Plugin.Spec := {}
deriving DecidableEq, Repr

namespace PluginDocument

/-- The written form of `PluginDocument`. -/
def codec : Codec PluginDocument :=
  .record PluginDocument.mk <|
    .next (.defaulted "apiVersion" (·.apiVersion) .text "") <|
    .next (.defaulted "kind" (·.kind) .text "") <|
    .next (.required "metadata" (·.metadata) PluginMetadata.codec) <|
    .next (.defaulted "spec" (·.spec) ArgoCD.Plugin.Spec.codec {}) <|
    .done

/-- The annotation that tells whether a plugin is enabled. -/
def enabledKey : String := "akuity.io/enabled"

/-- The annotation that holds the image of a plugin. -/
def imageKey : String := "akuity.io/image"

/-- The document of a plugin with a name. -/
def ofPlugin (name : String) (plugin : ArgoCD.Plugin) : PluginDocument where
  apiVersion := Platform.manifestVersion
  kind := "ConfigManagementPlugin"
  metadata :=
    { name
      annotations := .ofList [
        (enabledKey, if plugin.enabled then "true" else "false"),
        (imageKey, plugin.image)] }
  spec := plugin.spec

/-- The plugin of a document. -/
def toPlugin (d : PluginDocument) : ArgoCD.Plugin where
  enabled := d.metadata.annotations.get? enabledKey == some "true"
  image := (d.metadata.annotations.get? imageKey).getD ""
  spec := d.spec

end PluginDocument

namespace Plugins

/-- The documents of plugins, in the order of their names. -/
def toDocuments (plugins : Option Plugins) : List Json :=
  match plugins with
  | none => []
  | some plugins =>
    plugins.toList.map fun entry ↦
      PluginDocument.codec.toJson (.ofPlugin entry.1 entry.2)

/-- The plugins by name that documents write. -/
def ofDocumentList? : List Json → Except Error (List (String × ArgoCD.Plugin))
  | [] => .ok []
  | document :: rest =>
    match PluginDocument.codec.ofJson? document with
    | none => .error (.transform "config management plugin" "not a plugin document")
    | some d => (ofDocumentList? rest).map ((d.metadata.name, d.toPlugin) :: ·)

/-- The plugins of documents, none when there is no document. Of documents with one name the last
one stands. -/
def ofDocuments? (documents : List Json) : Except Error (Option Plugins) :=
  if documents.isEmpty then .ok none
  else (ofDocumentList? documents).map fun entries ↦ some (Dict.ofList entries)

end Plugins

end FleetOperator
