import FleetOperator.ArgoCD.Plugin
import FleetOperator.ArgoCD.Settings
import FleetOperator.Instance.ConfigMaps
import FleetOperator.Resource.Basic

/-!
# Instances

The custom resource for an Argo CD instance: what the user asks for, and what was last seen of the
instance on the platform.
-/

namespace FleetOperator

/-- The data of a config map. -/
abbrev ConfigMapData := Dict String

/-- The data of the config maps of an instance, where each may be absent. -/
abbrev ConfigMapSettings := ConfigMaps (Option ConfigMapData)

/-- The config management plugins of an instance by name. -/
abbrev Plugins := Dict ArgoCD.Plugin

/-- What the user asks of an instance. -/
structure InstanceSpec where
  name : String := ""
  argocd : Option ArgoCD := none
  configMaps : ConfigMapSettings := .all none
  plugins : Option Plugins := none
deriving DecidableEq, Repr

namespace InstanceSpec

/-- The written form of `InstanceSpec`. -/
def codec : Codec InstanceSpec :=
  .record
    (fun name argocd general imageUpdater imageUpdaterSsh notifications rbac sshKnownHosts tlsCerts
        plugins ↦
      InstanceSpec.mk name argocd
        ⟨general, imageUpdater, imageUpdaterSsh, notifications, rbac, sshKnownHosts, tlsCerts⟩
        plugins) <|
    .next (.required "name" (·.name) .text) <|
    .next (.optional "argocd" (·.argocd) ArgoCD.codec) <|
    .next (.optional "argocdConfigMap" (·.configMaps.general) (.dict .text)) <|
    .next (.optional "argocdImageUpdaterConfigMap" (·.configMaps.imageUpdater) (.dict .text)) <|
    .next (.optional "argocdImageUpdaterSshConfigMap" (·.configMaps.imageUpdaterSsh)
      (.dict .text)) <|
    .next (.optional "argocdNotificationsConfigMap" (·.configMaps.notifications)
      (.dict .text)) <|
    .next (.optional "argocdRbacConfigMap" (·.configMaps.rbac) (.dict .text)) <|
    .next (.optional "argocdSshKnownHostsConfigMap" (·.configMaps.sshKnownHosts)
      (.dict .text)) <|
    .next (.optional "argocdTlsCertsConfigMap" (·.configMaps.tlsCerts) (.dict .text)) <|
    .next (.optional "configManagementPlugins" (·.plugins) (.dict ArgoCD.Plugin.codec)) <|
    .done

end InstanceSpec

/-- What was seen of an instance on the platform. -/
structure InstanceObservation where
  id : String
  name : String := ""
  hostname : String := ""
  clusterCount : UInt32 := 0
  healthStatus : ObservedStatus := {}
  reconciliationStatus : ObservedStatus := {}
  ownerOrganizationName : String := ""
  argocd : ArgoCD := {}
  configMaps : ConfigMapSettings := .all none
  plugins : Option Plugins := none
deriving DecidableEq, Repr

/-- The written form of `InstanceObservation`. -/
def InstanceObservation.codec : Codec InstanceObservation :=
  .record
    (fun id name hostname clusterCount healthStatus reconciliationStatus ownerOrganizationName
        argocd general imageUpdater imageUpdaterSsh notifications rbac sshKnownHosts tlsCerts
        plugins ↦
      InstanceObservation.mk id name hostname clusterCount healthStatus reconciliationStatus
        ownerOrganizationName argocd
        ⟨general, imageUpdater, imageUpdaterSsh, notifications, rbac, sshKnownHosts, tlsCerts⟩
        plugins) <|
    .next (.required "id" (·.id) .text) <|
    .next (.defaulted "name" (·.name) .text "") <|
    .next (.defaulted "hostname" (·.hostname) .text "") <|
    .next (.defaulted "clusterCount" (·.clusterCount) .uint32 0) <|
    .next (.defaulted "healthStatus" (·.healthStatus) ObservedStatus.codec {}) <|
    .next (.defaulted "reconciliationStatus" (·.reconciliationStatus) ObservedStatus.codec {}) <|
    .next (.defaulted "ownerOrganizationName" (·.ownerOrganizationName) .text "") <|
    .next (.defaulted "argocd" (·.argocd) ArgoCD.codec {}) <|
    .next (.optional "argocdConfigMap" (·.configMaps.general) (.dict .text)) <|
    .next (.optional "argocdImageUpdaterConfigMap" (·.configMaps.imageUpdater) (.dict .text)) <|
    .next (.optional "argocdImageUpdaterSshConfigMap" (·.configMaps.imageUpdaterSsh)
      (.dict .text)) <|
    .next (.optional "argocdNotificationsConfigMap" (·.configMaps.notifications)
      (.dict .text)) <|
    .next (.optional "argocdRbacConfigMap" (·.configMaps.rbac) (.dict .text)) <|
    .next (.optional "argocdSshKnownHostsConfigMap" (·.configMaps.sshKnownHosts)
      (.dict .text)) <|
    .next (.optional "argocdTlsCertsConfigMap" (·.configMaps.tlsCerts) (.dict .text)) <|
    .next (.optional "configManagementPlugins" (·.plugins) (.dict ArgoCD.Plugin.codec)) <|
    .done

/-- The status of an instance's custom resource. -/
abbrev InstanceStatus := Status InstanceObservation

/-- The custom resource for an instance. -/
abbrev Instance := Resource InstanceSpec InstanceObservation

/-- The written form of `InstanceStatus`. -/
def InstanceStatus.codec : Codec InstanceStatus := Status.codec InstanceObservation.codec

/-- The written form of `Instance`. -/
def Instance.codec : Codec Instance :=
  Resource.codec "Instance" InstanceSpec.codec InstanceObservation.codec

end FleetOperator
