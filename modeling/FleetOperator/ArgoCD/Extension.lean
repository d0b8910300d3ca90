import FleetOperator.Codec.Basic

/-!
# Extensions

The extensions of an Argo CD instance that need no more than a few settings.
-/

namespace FleetOperator.ArgoCD

/-- An extension of the user interface, by version. -/
structure InstalledExtension where
  id : String := ""
  version : String := ""
deriving DecidableEq, Repr, Inhabited

/-- The written form of `InstalledExtension`. -/
def InstalledExtension.codec : Codec InstalledExtension :=
  .record InstalledExtension.mk <|
    .next (.defaulted "id" (·.id) .text "") <|
    .next (.defaulted "version" (·.version) .text "") <|
    .done

/-- An API group whose resources the Crossplane extension shows. -/
structure CrossplaneResource where
  group : String := ""
deriving DecidableEq, Repr, Inhabited

/-- The written form of `CrossplaneResource`. -/
def CrossplaneResource.codec : Codec CrossplaneResource :=
  .record CrossplaneResource.mk <|
    .next (.defaulted "group" (·.group) .text "") <|
    .done

/-- The Crossplane extension. -/
structure CrossplaneExtension where
  resources : List CrossplaneResource := []
deriving DecidableEq, Repr, Inhabited

/-- The written form of `CrossplaneExtension`. -/
def CrossplaneExtension.codec : Codec CrossplaneExtension :=
  .record CrossplaneExtension.mk <|
    .next (.list "resources" (·.resources) CrossplaneResource.codec) <|
    .done

/-- An API version that is going away, and its successor. -/
structure DeprecatedApi where
  apiVersion : String := ""
  newApiVersion : String := ""
  deprecatedInKubernetesVersion : String := ""
  unavailableInKubernetesVersion : String := ""
deriving DecidableEq, Repr, Inhabited

/-- The written form of `DeprecatedApi`. -/
def DeprecatedApi.codec : Codec DeprecatedApi :=
  .record DeprecatedApi.mk <|
    .next (.defaulted "apiVersion" (·.apiVersion) .text "") <|
    .next (.defaulted "newApiVersion" (·.newApiVersion) .text "") <|
    .next (.defaulted "deprecatedInKubernetesVersion" (·.deprecatedInKubernetesVersion) .text
      "") <|
    .next (.defaulted "unavailableInKubernetesVersion" (·.unavailableInKubernetesVersion) .text
      "") <|
    .done

/-- Whether applications may live in any namespace. -/
structure AnyNamespace where
  enabled : Option Bool := none
deriving DecidableEq, Repr, Inhabited

/-- The written form of `AnyNamespace`. -/
def AnyNamespace.codec : Codec AnyNamespace :=
  .record AnyNamespace.mk <|
    .next (.optional "enabled" (·.enabled) .flag) <|
    .done

/-- The support engineer extension. -/
structure SupportEngineer where
  enabled : Option Bool := none
  modelVersion : Option String := none
deriving DecidableEq, Repr, Inhabited

/-- The written form of `SupportEngineer`. -/
def SupportEngineer.codec : Codec SupportEngineer :=
  .record SupportEngineer.mk <|
    .next (.optional "enabled" (·.enabled) .flag) <|
    .next (.optional "modelVersion" (·.modelVersion) .text) <|
    .done

end FleetOperator.ArgoCD
