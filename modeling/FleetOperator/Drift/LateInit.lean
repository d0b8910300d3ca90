import FleetOperator.Error
import FleetOperator.Cluster.Spec
import FleetOperator.Instance.Spec
import FleetOperator.Yaml.Value

/-!
# Late initialization

Optional settings that the user leaves open are decided by the platform. They are taken over from
the observed specification into the desired one, and a setting that is already there is never
touched. A kustomization is taken over only if it is a YAML document; where it is not, the settings
before it have been taken over all the same.
-/

namespace FleetOperator

/-- A specification after late initialization, which may have stopped at an error. -/
structure LateInitialized (σ : Type) where
  spec : σ
  error : Option Error := none
deriving Repr

/-- A value that is there already, or else an observed one. -/
def adopt {α : Type} (desired observed : Option α) : Option α :=
  match desired with
  | some value => some value
  | none => observed

/-- Why an observed kustomization cannot be taken over: it is there and is no YAML document. -/
def kustomizationError? (subject : String) (observed : Option String) : Option Error :=
  if observed.any fun text ↦ !Yaml.isDocument text then
    some (.transform (subject ++ " kustomization") "not a YAML document")
  else none

/-- A kustomization that is set and not empty, or else an observed one. -/
def adoptKustomization (subject : String) (desired observed : Option String) :
    Option String × Option Error :=
  if desired.any (· != "") then (desired, none)
  else
    match kustomizationError? subject observed with
    | some error => (desired, some error)
    | none => (observed, none)

namespace ClusterSpec

/-- Takes over the settings that a cluster's specification leaves open: the namespace and all
settings of the agent. -/
def lateInitialize (desired observed : ClusterSpec) : LateInitialized ClusterSpec :=
  let own := desired.properties.data
  let seen := observed.properties.data
  let (kustomization, error) :=
    adoptKustomization ("cluster " ++ observed.name) own.kustomization seen.kustomization
  let data : ClusterData := {
    size := adopt own.size seen.size
    autoUpgradeDisabled := adopt own.autoUpgradeDisabled seen.autoUpgradeDisabled
    kustomization
    appReplication := adopt own.appReplication seen.appReplication
    targetVersion := adopt own.targetVersion seen.targetVersion
    redisTunneling := adopt own.redisTunneling seen.redisTunneling
    multiClusterDashboardEnabled :=
      adopt own.multiClusterDashboardEnabled seen.multiClusterDashboardEnabled }
  { spec := { desired with
      «namespace» := adopt desired.namespace observed.namespace
      properties := { desired.properties with data } }
    error }

end ClusterSpec

namespace ArgoCD

/-- The subject of errors in the kustomization of a customization. -/
def customizationSubject : String := "cluster customization defaults"

/-- A customization after late initialization: an observed one as a whole where there is none, and
else its kustomization alone. -/
def adoptCustomization (desired observed : Option (ClusterCustomization String)) :
    Option (ClusterCustomization String) × Option Error :=
  match desired, observed with
  | none, some seen =>
    match kustomizationError? customizationSubject seen.kustomization with
    | some error => (none, some error)
    | none => (some seen, none)
  | some own, some seen =>
    let (kustomization, error) :=
      adoptKustomization customizationSubject own.kustomization seen.kustomization
    (some { own with kustomization }, error)
  | own, none => (own, none)

/-- Takes over the settings that an instance's settings leave open. -/
def ResourceSettings.lateInitialize (own seen : ResourceSettings) :
    LateInitialized ResourceSettings :=
  let (customization, error) :=
    adoptCustomization own.clusterCustomizationDefaults seen.clusterCustomizationDefaults
  { spec := { own with
      subdomain := adopt own.subdomain seen.subdomain
      declarativeManagementEnabled :=
        adopt own.declarativeManagementEnabled seen.declarativeManagementEnabled
      appsetPolicy := adopt own.appsetPolicy seen.appsetPolicy
      clusterCustomizationDefaults := customization }
    error }

end ArgoCD

namespace InstanceSpec

/-- Takes over the config maps and the plugins that an instance's specification leaves open. The
config maps of the image updater and of notifications are left as they are. -/
def adoptDocuments (desired observed : InstanceSpec) : InstanceSpec :=
  let own := desired.configMaps
  let seen := observed.configMaps
  { desired with
    configMaps := { own with
      general := adopt own.general seen.general
      sshKnownHosts := adopt own.sshKnownHosts seen.sshKnownHosts
      rbac := adopt own.rbac seen.rbac
      tlsCerts := adopt own.tlsCerts seen.tlsCerts }
    plugins := adopt desired.plugins observed.plugins }

/-- Takes over the settings that an instance's specification leaves open. The documents follow only
if the settings went well. -/
def lateInitialize (desired observed : InstanceSpec) : LateInitialized InstanceSpec :=
  match desired.argocd, observed.argocd with
  | some own, some seen =>
    let settings := own.spec.settings.lateInitialize seen.spec.settings
    let spec := { desired with
      argocd := some { own with spec := { own.spec with settings := settings.spec } } }
    match settings.error with
    | some error => { spec, error := some error }
    | none => { spec := spec.adoptDocuments observed }
  | _, _ => { spec := desired.adoptDocuments observed }

end InstanceSpec

end FleetOperator
