import FleetOperator.Bridge.Cluster

/-!
# Instances and their custom resources

An instance on the platform, together with the documents it exports, in the shape of a
specification; a specification as the request that asks the platform for it; and what the status of
the custom resource shows of an instance.
-/

namespace FleetOperator

namespace ArgoCD

/-- A customization with its kustomization put into another form. -/
def ClusterCustomization.mapKustomization? {κ μ ε : Type} (f : Option κ → Except ε (Option μ))
    (c : ClusterCustomization κ) : Except ε (ClusterCustomization μ) := do
  return {
    autoUpgradeDisabled := c.autoUpgradeDisabled
    kustomization := ← f c.kustomization
    appReplication := c.appReplication
    redisTunneling := c.redisTunneling }

/-- Settings with their texts put into another form, and with another customization. -/
def Settings.withForms {τ κ υ μ : Type} (s : Settings τ κ) (text : τ → υ)
    (customization : Option (ClusterCustomization μ)) : Settings υ μ where
  ipAllowList := s.ipAllowList
  subdomain := text s.subdomain
  declarativeManagementEnabled := s.declarativeManagementEnabled
  extensions := s.extensions
  clusterCustomizationDefaults := customization
  imageUpdaterEnabled := s.imageUpdaterEnabled
  backendIpAllowListEnabled := s.backendIpAllowListEnabled
  repoServerDelegate := s.repoServerDelegate
  auditExtensionEnabled := s.auditExtensionEnabled
  syncHistoryExtensionEnabled := s.syncHistoryExtensionEnabled
  crossplaneExtension := s.crossplaneExtension
  imageUpdaterDelegate := s.imageUpdaterDelegate
  appSetDelegate := s.appSetDelegate
  assistantExtensionEnabled := s.assistantExtensionEnabled
  appsetPolicy := s.appsetPolicy
  hostAliases := s.hostAliases
  agentPermissionsRules := s.agentPermissionsRules
  fqdn := text s.fqdn
  multiClusterDashboardEnabled := s.multiClusterDashboardEnabled
  kubeVisionArgoExtension := s.kubeVisionArgoExtension
  imageUpdaterVersion := text s.imageUpdaterVersion
  customDeprecatedApis := s.customDeprecatedApis
  kubeVisionConfig := s.kubeVisionConfig
  appInAnyNamespaceConfig := s.appInAnyNamespaceConfig
  basepath := text s.basepath
  appsetProgressiveSyncsEnabled := s.appsetProgressiveSyncsEnabled
  aiSupportEngineerExtension := s.aiSupportEngineerExtension
  secrets := s.secrets
  appsetPlugins := s.appsetPlugins
  applicationSetExtension := s.applicationSetExtension

/-- The customization that a custom resource holds for one of the platform. -/
def ClusterCustomization.ofPlatform (c : ClusterCustomization Json) :
    ClusterCustomization String where
  autoUpgradeDisabled := c.autoUpgradeDisabled
  kustomization := Kustomization.toYaml c.kustomization
  appReplication := c.appReplication
  redisTunneling := c.redisTunneling

/-- The customization that the platform holds for one of a custom resource. -/
def ClusterCustomization.toPlatform? (c : ClusterCustomization String) :
    Except Error (ClusterCustomization Json) :=
  (c.mapKustomization? Kustomization.ofYaml?).mapError
    (.transformOf "cluster customization defaults")

/-- The settings that a custom resource holds for those of the platform. -/
def ResourceSettings.ofPlatform (s : Platform.InstanceSettings) : ResourceSettings :=
  s.withForms nonEmpty (s.clusterCustomizationDefaults.map .ofPlatform)

/-- The settings that the platform holds for those of a custom resource. -/
def ResourceSettings.toPlatform? (s : ResourceSettings) :
    Except Error Platform.InstanceSettings := do
  let customization ← s.clusterCustomizationDefaults.mapM ClusterCustomization.toPlatform?
  return s.withForms (·.getD "") customization

end ArgoCD

/-- An Argo CD instance of the platform in the shape of a specification. -/
def ArgoCD.ofPlatform (remote : Platform.Instance) : ArgoCD where
  spec := {
    description := nonEmpty remote.description
    version := remote.version
    settings := match remote.settings with
      | some settings => .ofPlatform settings
      | none => .unset }

namespace InstanceSpec

/-- The specification that an instance on the platform amounts to. -/
def ofPlatform? (bundle : Platform.InstanceBundle) : Except Error InstanceSpec := do
  let configMaps ← (ConfigMaps.zipWith ConfigMapData.ofDocument? .names
    bundle.exported.configMaps).sequence
  let plugins ← Plugins.ofDocuments? bundle.exported.plugins
  return {
    name := bundle.inst.name
    argocd := some (.ofPlatform bundle.inst)
    configMaps
    plugins }

/-- The request that asks the platform for a specification. -/
def toRequest? (desired : InstanceSpec) : Except Error Platform.ApplyInstance := do
  match desired.argocd with
  | none => throw (.transform ("instance " ++ desired.name) "argocd must be set")
  | some argocd =>
    let settings ← argocd.spec.settings.toPlatform?
    return {
      id := desired.name
      argocd := {
        apiVersion := Platform.manifestVersion
        kind := "ArgoCD"
        metadata := { name := desired.name }
        spec := {
          description := argocd.spec.description.getD ""
          version := argocd.spec.version
          settings } }
      configMaps := ConfigMaps.zipWith ConfigMapData.toDocument .names desired.configMaps
      plugins := Plugins.toDocuments desired.plugins }

end InstanceSpec

/-- What the status of the custom resource shows of an instance on the platform. -/
def InstanceObservation.ofPlatform? (bundle : Platform.InstanceBundle) :
    Except Error InstanceObservation := do
  let remote := bundle.inst
  let spec ← InstanceSpec.ofPlatform? bundle
  return {
    id := remote.id
    name := remote.name
    hostname := remote.hostname
    clusterCount := remote.clusterCount
    healthStatus := .ofPlatform remote.healthStatus
    reconciliationStatus := .ofPlatform remote.reconciliationStatus
    ownerOrganizationName := remote.ownerOrganizationName
    argocd := spec.argocd.getD {}
    configMaps := spec.configMaps
    plugins := spec.plugins }

end FleetOperator
