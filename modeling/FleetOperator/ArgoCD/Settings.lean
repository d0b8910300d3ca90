import FleetOperator.ArgoCD.ApplicationSet
import FleetOperator.ArgoCD.Delegate
import FleetOperator.ArgoCD.Extension
import FleetOperator.ArgoCD.KubeVision
import FleetOperator.ArgoCD.Network
import FleetOperator.ArgoCD.Secrets

/-!
# Instance settings

The settings of an Argo CD instance. The custom resource and the platform share all of them but
two things: how a text that may be unset is held, and the form of a kustomization. Both are
parameters.
-/

namespace FleetOperator.ArgoCD

/-- Agent defaults applied to every cluster of an instance, with kustomizations of type `κ`. -/
structure ClusterCustomization (κ : Type) where
  autoUpgradeDisabled : Option Bool := none
  kustomization : Option κ := none
  appReplication : Option Bool := none
  redisTunneling : Option Bool := none
deriving DecidableEq, Repr, Inhabited

/-- The written form of `ClusterCustomization`, from that of its kustomization. -/
def ClusterCustomization.codec {κ : Type} (kustomization : Codec κ) :
    Codec (ClusterCustomization κ) :=
  .described "Agent defaults applied to every cluster of the instance." <|
  .record ClusterCustomization.mk <|
    .next (.optional "autoUpgradeDisabled" (·.autoUpgradeDisabled) .flag) <|
    .next (.optional "kustomization" (·.kustomization) kustomization) <|
    .next (.optional "appReplication" (·.appReplication) .flag) <|
    .next (.optional "redisTunneling" (·.redisTunneling) .flag) <|
    .done

/-- The settings of an instance, with texts that may be unset of type `τ` and kustomizations of
type `κ`. -/
structure Settings (τ κ : Type) where
  ipAllowList : List AllowedAddress := []
  subdomain : τ
  declarativeManagementEnabled : Option Bool := none
  extensions : List InstalledExtension := []
  clusterCustomizationDefaults : Option (ClusterCustomization κ) := none
  imageUpdaterEnabled : Option Bool := none
  backendIpAllowListEnabled : Option Bool := none
  repoServerDelegate : Option RepoServerDelegate := none
  auditExtensionEnabled : Option Bool := none
  syncHistoryExtensionEnabled : Option Bool := none
  crossplaneExtension : Option CrossplaneExtension := none
  imageUpdaterDelegate : Option ImageUpdaterDelegate := none
  appSetDelegate : Option AppSetDelegate := none
  assistantExtensionEnabled : Option Bool := none
  appsetPolicy : Option ApplicationSetPolicy := none
  hostAliases : List HostAlias := []
  agentPermissionsRules : List AgentPermission := []
  fqdn : τ
  multiClusterDashboardEnabled : Option Bool := none
  kubeVisionArgoExtension : Option KubeVisionExtension := none
  imageUpdaterVersion : τ
  customDeprecatedApis : List DeprecatedApi := []
  kubeVisionConfig : Option KubeVision := none
  appInAnyNamespaceConfig : Option AnyNamespace := none
  basepath : τ
  appsetProgressiveSyncsEnabled : Option Bool := none
  aiSupportEngineerExtension : Option SupportEngineer := none
  secrets : Option SecretsManagement := none
  appsetPlugins : List ApplicationSetPlugin := []
  applicationSetExtension : Option ApplicationSetExtension := none
deriving DecidableEq, Repr

/-- How a text that may be unset is written as a field. -/
abbrev TextField (τ : Type) := {ρ : Type} → String → (ρ → τ) → Field ρ τ

/-- The written form of `Settings`, from those of its texts and its kustomization. -/
def Settings.codec {τ κ : Type} (text : TextField τ) (kustomization : Codec κ) :
    Codec (Settings τ κ) :=
  .record Settings.mk <|
    .next (.list "ipAllowList" (·.ipAllowList) AllowedAddress.codec) <|
    .next (text "subdomain" (·.subdomain)) <|
    .next (.optional "declarativeManagementEnabled" (·.declarativeManagementEnabled) .flag) <|
    .next (.list "extensions" (·.extensions) InstalledExtension.codec) <|
    .next (.optional "clusterCustomizationDefaults" (·.clusterCustomizationDefaults)
      (ClusterCustomization.codec kustomization)) <|
    .next (.optional "imageUpdaterEnabled" (·.imageUpdaterEnabled) .flag) <|
    .next (.optional "backendIpAllowListEnabled" (·.backendIpAllowListEnabled) .flag) <|
    .next (.optional "repoServerDelegate" (·.repoServerDelegate) RepoServerDelegate.codec) <|
    .next (.optional "auditExtensionEnabled" (·.auditExtensionEnabled) .flag) <|
    .next (.optional "syncHistoryExtensionEnabled" (·.syncHistoryExtensionEnabled) .flag) <|
    .next (.optional "crossplaneExtension" (·.crossplaneExtension) CrossplaneExtension.codec) <|
    .next (.optional "imageUpdaterDelegate" (·.imageUpdaterDelegate) ImageUpdaterDelegate.codec) <|
    .next (.optional "appSetDelegate" (·.appSetDelegate) AppSetDelegate.codec) <|
    .next (.optional "assistantExtensionEnabled" (·.assistantExtensionEnabled) .flag) <|
    .next (.optional "appsetPolicy" (·.appsetPolicy) ApplicationSetPolicy.codec) <|
    .next (.list "hostAliases" (·.hostAliases) HostAlias.codec) <|
    .next (.list "agentPermissionsRules" (·.agentPermissionsRules) AgentPermission.codec) <|
    .next (text "fqdn" (·.fqdn)) <|
    .next (.optional "multiClusterK8sDashboardEnabled" (·.multiClusterDashboardEnabled) .flag) <|
    .next (.optional "kubeVisionArgoExtension" (·.kubeVisionArgoExtension)
      KubeVisionExtension.codec) <|
    .next (text "imageUpdaterVersion" (·.imageUpdaterVersion)) <|
    .next (.list "customDeprecatedApis" (·.customDeprecatedApis) DeprecatedApi.codec) <|
    .next (.optional "kubeVisionConfig" (·.kubeVisionConfig) KubeVision.codec) <|
    .next (.optional "appInAnyNamespaceConfig" (·.appInAnyNamespaceConfig) AnyNamespace.codec) <|
    .next (text "basepath" (·.basepath)) <|
    .next (.optional "appsetProgressiveSyncsEnabled" (·.appsetProgressiveSyncsEnabled) .flag) <|
    .next (.optional "aiSupportEngineerExtension" (·.aiSupportEngineerExtension)
      SupportEngineer.codec) <|
    .next (.optional "secrets" (·.secrets) SecretsManagement.codec) <|
    .next (.list "appsetPlugins" (·.appsetPlugins) ApplicationSetPlugin.codec) <|
    .next (.optional "applicationSetExtension" (·.applicationSetExtension)
      ApplicationSetExtension.codec) <|
    .done

/-- The settings as a custom resource holds them: an unset text is absent, and a kustomization is
YAML text. -/
abbrev ResourceSettings := Settings (Option String) String

/-- Settings without any of them set. -/
def ResourceSettings.unset : ResourceSettings :=
  { subdomain := none, fqdn := none, imageUpdaterVersion := none, basepath := none }

/-- The written form of `ResourceSettings`. -/
def ResourceSettings.codec : Codec ResourceSettings :=
  Settings.codec (fun name get ↦ .optional name get .text) .text

/-- The specification of an instance: its version and its settings. -/
structure Spec where
  description : Option String := none
  version : String := ""
  settings : ResourceSettings := .unset
deriving DecidableEq, Repr

/-- The written form of `Spec`. -/
def Spec.codec : Codec Spec :=
  .record Spec.mk <|
    .next (.optional "description" (·.description) .text) <|
    .next (.required "version" (·.version) .text) <|
    .next (.defaulted "instanceSpec" (·.settings) ResourceSettings.codec .unset) <|
    .done

end FleetOperator.ArgoCD

namespace FleetOperator

/-- An Argo CD instance as it is to be set up. -/
structure ArgoCD where
  spec : ArgoCD.Spec := {}
deriving DecidableEq, Repr

/-- The written form of `ArgoCD`. -/
def ArgoCD.codec : Codec ArgoCD :=
  .record ArgoCD.mk <|
    .next (.defaulted "spec" (·.spec) Spec.codec {}) <|
    .done

end FleetOperator
