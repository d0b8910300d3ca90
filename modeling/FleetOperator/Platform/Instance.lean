import FleetOperator.ArgoCD.Settings
import FleetOperator.Instance.ConfigMaps
import FleetOperator.Platform.Cluster

/-!
# Instances on the platform

An instance as the platform reports it, the documents it exports, and the request by which an
instance is created and changed.
-/

namespace FleetOperator.Platform

/-- The settings as the platform holds them: an unset text is empty, and a kustomization is a JSON
document. -/
abbrev InstanceSettings := ArgoCD.Settings String Json

/-- Settings without any of them set. -/
def InstanceSettings.unset : InstanceSettings :=
  { subdomain := "", fqdn := "", imageUpdaterVersion := "", basepath := "" }

/-- The written form of `InstanceSettings`. -/
def InstanceSettings.codec : Codec InstanceSettings :=
  ArgoCD.Settings.codec (fun name get ↦ .text name get) .json

/-- An instance as the platform reports it. -/
structure Instance where
  id : String := ""
  name : String := ""
  description : String := ""
  version : String := ""
  hostname : String := ""
  clusterCount : UInt32 := 0
  ownerOrganizationName : String := ""
  healthStatus : Option StatusCode := none
  reconciliationStatus : Option StatusCode := none
  settings : Option InstanceSettings := none
deriving DecidableEq, Repr

/-- The written form of `Instance`. -/
def Instance.codec : Codec Instance :=
  .record Instance.mk <|
    .next (.required "id" (·.id) .text) <|
    .next (.required "name" (·.name) .text) <|
    .next (.defaulted "description" (·.description) .text "") <|
    .next (.defaulted "version" (·.version) .text "") <|
    .next (.defaulted "hostname" (·.hostname) .text "") <|
    .next (.defaulted "clusterCount" (·.clusterCount) .uint32 0) <|
    .next (.defaulted "ownerOrganizationName" (·.ownerOrganizationName) .text "") <|
    .next (.nullableDefaulted "healthStatus" (·.healthStatus) StatusCode.codec) <|
    .next (.nullableDefaulted "reconciliationStatus" (·.reconciliationStatus)
      StatusCode.codec) <|
    .next (.nullableDefaulted "spec" (·.settings) InstanceSettings.codec) <|
    .done

/-- The documents of config maps, where each may be absent. -/
abbrev ConfigMapDocuments := ConfigMaps (Option Json)

/-- The Argo CD configuration of an instance as untyped documents. -/
structure Export where
  configMaps : ConfigMapDocuments := .all none
  plugins : List Json := []
deriving DecidableEq, Repr

/-- The written form of `Export`. -/
def Export.codec : Codec Export :=
  .record
    (fun general rbac notifications imageUpdater imageUpdaterSsh sshKnownHosts tlsCerts plugins ↦
      Export.mk
        ⟨general, imageUpdater, imageUpdaterSsh, notifications, rbac, sshKnownHosts, tlsCerts⟩
        plugins) <|
    .next (.nullableDefaulted "argocdConfigmap" (·.configMaps.general) .json) <|
    .next (.nullableDefaulted "argocdRbacConfigmap" (·.configMaps.rbac) .json) <|
    .next (.nullableDefaulted "notificationsConfigmap" (·.configMaps.notifications) .json) <|
    .next (.nullableDefaulted "imageUpdaterConfigmap" (·.configMaps.imageUpdater) .json) <|
    .next (.nullableDefaulted "imageUpdaterSshConfigmap" (·.configMaps.imageUpdaterSsh) .json) <|
    .next (.nullableDefaulted "argocdKnownHostsConfigmap" (·.configMaps.sshKnownHosts) .json) <|
    .next (.nullableDefaulted "argocdTlsCertsConfigmap" (·.configMaps.tlsCerts) .json) <|
    .next (.defaulted "configManagementPlugins" (·.plugins) (.list .json) []) <|
    .done

/-- An instance together with its exported configuration. -/
structure InstanceBundle where
  inst : Instance
  exported : Export
deriving DecidableEq, Repr

/-- The specification in an Argo CD manifest. -/
structure ArgoCDManifestSpec where
  description : String := ""
  version : String := ""
  settings : InstanceSettings
deriving DecidableEq, Repr

/-- The written form of `ArgoCDManifestSpec`. -/
def ArgoCDManifestSpec.codec : Codec ArgoCDManifestSpec :=
  .record ArgoCDManifestSpec.mk <|
    .next (.text "description" (·.description)) <|
    .next (.required "version" (·.version) .text) <|
    .next (.required "instanceSpec" (·.settings) InstanceSettings.codec) <|
    .done

/-- The manifest of an Argo CD instance. -/
structure ArgoCDManifest where
  apiVersion : String
  kind : String
  metadata : ManifestMetadata
  spec : ArgoCDManifestSpec
deriving DecidableEq, Repr

/-- The written form of `ArgoCDManifest`. -/
def ArgoCDManifest.codec : Codec ArgoCDManifest :=
  .record ArgoCDManifest.mk <|
    .next (.required "apiVersion" (·.apiVersion) .text) <|
    .next (.required "kind" (·.kind) .text) <|
    .next (.required "metadata" (·.metadata) ManifestMetadata.codec) <|
    .next (.required "spec" (·.spec) ArgoCDManifestSpec.codec) <|
    .done

/-- The request by which an instance is created and changed. -/
structure ApplyInstance where
  id : String
  argocd : ArgoCDManifest
  configMaps : ConfigMapDocuments := .all none
  plugins : List Json := []
deriving DecidableEq, Repr

/-- The written form of `ApplyInstance`. -/
def ApplyInstance.codec : Codec ApplyInstance :=
  .record
    (fun id argocd general rbac notifications imageUpdater imageUpdaterSsh sshKnownHosts tlsCerts
        plugins ↦
      ApplyInstance.mk id argocd
        ⟨general, imageUpdater, imageUpdaterSsh, notifications, rbac, sshKnownHosts, tlsCerts⟩
        plugins) <|
    .next (.required "id" (·.id) .text) <|
    .next (.required "argocd" (·.argocd) ArgoCDManifest.codec) <|
    .next (.optional "argocdConfigmap" (·.configMaps.general) .json) <|
    .next (.optional "argocdRbacConfigmap" (·.configMaps.rbac) .json) <|
    .next (.optional "notificationsConfigmap" (·.configMaps.notifications) .json) <|
    .next (.optional "imageUpdaterConfigmap" (·.configMaps.imageUpdater) .json) <|
    .next (.optional "imageUpdaterSshConfigmap" (·.configMaps.imageUpdaterSsh) .json) <|
    .next (.optional "argocdKnownHostsConfigmap" (·.configMaps.sshKnownHosts) .json) <|
    .next (.optional "argocdTlsCertsConfigmap" (·.configMaps.tlsCerts) .json) <|
    .next (.list "configManagementPlugins" (·.plugins) .json) <|
    .done

end FleetOperator.Platform
