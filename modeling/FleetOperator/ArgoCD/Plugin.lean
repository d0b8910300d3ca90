import FleetOperator.Codec.Basic

/-!
# Config management plugins

Plugins that render manifests as sidecars of the repo server.
-/

namespace FleetOperator.ArgoCD

/-- A command with its arguments. -/
structure Plugin.Command where
  command : List String := []
  args : List String := []
deriving DecidableEq, Repr, Inhabited

/-- The written form of `Plugin.Command`. -/
def Plugin.Command.codec : Codec Plugin.Command :=
  .record Plugin.Command.mk <|
    .next (.list "command" (·.command) .text) <|
    .next (.list "args" (·.args) .text) <|
    .done

/-- A search for the files that a plugin handles. -/
structure Plugin.FileSearch where
  command : List String := []
  args : List String := []
  glob : Option String := none
deriving DecidableEq, Repr, Inhabited

/-- The written form of `Plugin.FileSearch`. -/
def Plugin.FileSearch.codec : Codec Plugin.FileSearch :=
  .record Plugin.FileSearch.mk <|
    .next (.list "command" (·.command) .text) <|
    .next (.list "args" (·.args) .text) <|
    .next (.optional "glob" (·.glob) .text) <|
    .done

/-- How a plugin tells that it handles a repository. -/
structure Plugin.Discovery where
  find : Option Plugin.FileSearch := none
  fileName : Option String := none
deriving DecidableEq, Repr, Inhabited

/-- The written form of `Plugin.Discovery`. -/
def Plugin.Discovery.codec : Codec Plugin.Discovery :=
  .record Plugin.Discovery.mk <|
    .next (.optional "find" (·.find) Plugin.FileSearch.codec) <|
    .next (.optional "fileName" (·.fileName) .text) <|
    .done

/-- A parameter that a plugin announces. -/
structure Plugin.Parameter where
  name : String := ""
  title : Option String := none
  tooltip : Option String := none
  required : Option Bool := none
  itemType : Option String := none
  collectionType : Option String := none
  string : Option String := none
  array : List String := []
  map : Dict String := .empty
deriving DecidableEq, Repr, Inhabited

/-- The written form of `Plugin.Parameter`. -/
def Plugin.Parameter.codec : Codec Plugin.Parameter :=
  .record Plugin.Parameter.mk <|
    .next (.defaulted "name" (·.name) .text "") <|
    .next (.optional "title" (·.title) .text) <|
    .next (.optional "tooltip" (·.tooltip) .text) <|
    .next (.optional "required" (·.required) .flag) <|
    .next (.optional "itemType" (·.itemType) .text) <|
    .next (.optional "collectionType" (·.collectionType) .text) <|
    .next (.optional "string" (·.string) .text) <|
    .next (.list "array" (·.array) .text) <|
    .next (.dict "map" (·.map) .text) <|
    .done

/-- The parameters of a plugin, fixed or listed by a command. -/
structure Plugin.Parameters where
  static : List Plugin.Parameter := []
  dynamic : Option Plugin.Command := none
deriving DecidableEq, Repr, Inhabited

/-- The written form of `Plugin.Parameters`. -/
def Plugin.Parameters.codec : Codec Plugin.Parameters :=
  .record Plugin.Parameters.mk <|
    .next (.list "static" (·.static) Plugin.Parameter.codec) <|
    .next (.optional "dynamic" (·.dynamic) Plugin.Command.codec) <|
    .done

/-- What a plugin does. -/
structure Plugin.Spec where
  version : Option String := none
  init : Option Plugin.Command := none
  generate : Option Plugin.Command := none
  discover : Option Plugin.Discovery := none
  parameters : Option Plugin.Parameters := none
  preserveFileMode : Option Bool := none
deriving DecidableEq, Repr, Inhabited

/-- The written form of `Plugin.Spec`. -/
def Plugin.Spec.codec : Codec Plugin.Spec :=
  .record Plugin.Spec.mk <|
    .next (.optional "version" (·.version) .text) <|
    .next (.optional "init" (·.init) Plugin.Command.codec) <|
    .next (.optional "generate" (·.generate) Plugin.Command.codec) <|
    .next (.optional "discover" (·.discover) Plugin.Discovery.codec) <|
    .next (.optional "parameters" (·.parameters) Plugin.Parameters.codec) <|
    .next (.optional "preserveFileMode" (·.preserveFileMode) .flag) <|
    .done

/-- A config management plugin. -/
structure Plugin where
  enabled : Bool := false
  image : String := ""
  spec : Plugin.Spec := {}
deriving DecidableEq, Repr, Inhabited

/-- The written form of `Plugin`. -/
def Plugin.codec : Codec Plugin :=
  .described "A config management plugin run as a sidecar of the repo server." <|
  .record Plugin.mk <|
    .next (.defaulted "enabled" (·.enabled) .flag false) <|
    .next (.defaulted "image" (·.image) .text "") <|
    .next (.defaulted "spec" (·.spec) Plugin.Spec.codec {}) <|
    .done

end FleetOperator.ArgoCD
