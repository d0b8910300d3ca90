import FleetOperator.ArgoCD.Plugin
import FleetOperator.ArgoCD.Settings
import FleetOperator.Proofs.Codec.FieldMerge

/-!
# Instance settings written by merge patches

All settings of an Argo CD instance can be merged over stored ones: each type is a record of fields
that can. Read `ArgoCD.mergeable` at the end first. The types with a default that is a record of its
own also have a theorem that every value covers the default.
-/

namespace FleetOperator.ArgoCD

open Codec

/-! ## Application sets -/

@[simp] theorem ApplicationSetPolicy.mergeable : ApplicationSetPolicy.codec.Mergeable :=
  record_mergeable ⟨by decide, by simp, fun _ ↦ rfl, by simp⟩

@[simp] theorem ApplicationSetPlugin.mergeable : ApplicationSetPlugin.codec.Mergeable :=
  record_mergeable ⟨by decide, by simp, fun _ ↦ rfl, by simp⟩

@[simp] theorem ApplicationSetExtension.mergeable : ApplicationSetExtension.codec.Mergeable :=
  record_mergeable ⟨by decide, by simp, fun _ ↦ rfl, by simp⟩

/-! ## Delegates -/

@[simp] theorem ManagedCluster.mergeable : ManagedCluster.codec.Mergeable :=
  record_mergeable ⟨by decide, by simp, fun _ ↦ rfl, by simp⟩

@[simp] theorem RepoServerDelegate.mergeable : RepoServerDelegate.codec.Mergeable :=
  record_mergeable ⟨by decide, by simp, fun _ ↦ rfl, by simp⟩

@[simp] theorem ImageUpdaterDelegate.mergeable : ImageUpdaterDelegate.codec.Mergeable :=
  record_mergeable ⟨by decide, by simp, fun _ ↦ rfl, by simp⟩

@[simp] theorem AppSetDelegate.mergeable : AppSetDelegate.codec.Mergeable :=
  record_mergeable ⟨by decide, by simp, fun _ ↦ rfl, by simp⟩

/-! ## Extensions -/

@[simp] theorem InstalledExtension.mergeable : InstalledExtension.codec.Mergeable :=
  record_mergeable ⟨by decide, by simp, fun _ ↦ rfl, by simp⟩

@[simp] theorem CrossplaneResource.mergeable : CrossplaneResource.codec.Mergeable :=
  record_mergeable ⟨by decide, by simp, fun _ ↦ rfl, by simp⟩

@[simp] theorem CrossplaneExtension.mergeable : CrossplaneExtension.codec.Mergeable :=
  record_mergeable ⟨by decide, by simp, fun _ ↦ rfl, by simp⟩

@[simp] theorem DeprecatedApi.mergeable : DeprecatedApi.codec.Mergeable :=
  record_mergeable ⟨by decide, by simp, fun _ ↦ rfl, by simp⟩

@[simp] theorem AnyNamespace.mergeable : AnyNamespace.codec.Mergeable :=
  record_mergeable ⟨by decide, by simp, fun _ ↦ rfl, by simp⟩

@[simp] theorem SupportEngineer.mergeable : SupportEngineer.codec.Mergeable :=
  record_mergeable ⟨by decide, by simp, fun _ ↦ rfl, by simp⟩

/-! ## Cluster insight -/

@[simp] theorem KubeVisionExtension.mergeable : KubeVisionExtension.codec.Mergeable :=
  record_mergeable ⟨by decide, by simp, fun _ ↦ rfl, by simp⟩

@[simp] theorem VulnerabilityScan.mergeable : VulnerabilityScan.codec.Mergeable :=
  record_mergeable ⟨by decide, by simp, fun _ ↦ rfl, by simp⟩

@[simp] theorem Runbook.mergeable : Runbook.codec.Mergeable :=
  record_mergeable ⟨by decide, by simp, fun _ ↦ rfl, by simp⟩

@[simp] theorem Subscription.mergeable : Subscription.codec.Mergeable :=
  record_mergeable ⟨by decide, by simp, fun _ ↦ rfl, by simp⟩

@[simp] theorem Webhook.mergeable : Webhook.codec.Mergeable :=
  record_mergeable ⟨by decide, by simp, fun _ ↦ rfl, by simp⟩

@[simp] theorem Incidents.mergeable : Incidents.codec.Mergeable :=
  record_mergeable ⟨by decide, by simp, fun _ ↦ rfl, by simp⟩

@[simp] theorem AiSettings.mergeable : AiSettings.codec.Mergeable :=
  record_mergeable ⟨by decide, by simp, fun _ ↦ rfl, by simp⟩

@[simp] theorem KubeVision.mergeable : KubeVision.codec.Mergeable :=
  record_mergeable ⟨by decide, by simp, fun _ ↦ rfl, by simp⟩

/-! ## Network access and permissions -/

@[simp] theorem AllowedAddress.mergeable : AllowedAddress.codec.Mergeable :=
  record_mergeable ⟨by decide, by simp, fun _ ↦ rfl, by simp⟩

@[simp] theorem HostAlias.mergeable : HostAlias.codec.Mergeable :=
  record_mergeable ⟨by decide, by simp, fun _ ↦ rfl, by simp⟩

@[simp] theorem AgentPermission.mergeable : AgentPermission.codec.Mergeable :=
  record_mergeable ⟨by decide, by simp, fun _ ↦ rfl, by simp⟩

/-! ## Config management plugins -/

@[simp] theorem Plugin.Command.mergeable : Plugin.Command.codec.Mergeable :=
  record_mergeable ⟨by decide, by simp, fun _ ↦ rfl, by simp⟩

@[simp] theorem Plugin.FileSearch.mergeable : Plugin.FileSearch.codec.Mergeable :=
  record_mergeable ⟨by decide, by simp, fun _ ↦ rfl, by simp⟩

@[simp] theorem Plugin.Discovery.mergeable : Plugin.Discovery.codec.Mergeable :=
  record_mergeable ⟨by decide, by simp, fun _ ↦ rfl, by simp⟩

@[simp] theorem Plugin.Parameter.mergeable : Plugin.Parameter.codec.Mergeable :=
  record_mergeable ⟨by decide, by simp, fun _ ↦ rfl, by simp⟩

@[simp] theorem Plugin.Parameters.mergeable : Plugin.Parameters.codec.Mergeable :=
  record_mergeable ⟨by decide, by simp, fun _ ↦ rfl, by simp⟩

@[simp] theorem Plugin.Spec.mergeable : Plugin.Spec.codec.Mergeable :=
  record_mergeable ⟨by decide, by simp, fun _ ↦ rfl, by simp⟩

@[simp] theorem Plugin.Spec.isCovered : Plugin.Spec.codec.IsCovered {} :=
  record_isCovered (by decide) (by simp)

@[simp] theorem Plugin.mergeable : Plugin.codec.Mergeable :=
  described_mergeable (record_mergeable ⟨by decide, by simp, fun _ ↦ rfl, by simp⟩)

/-! ## Secrets management -/

@[simp] theorem SelectorRequirement.mergeable : SelectorRequirement.codec.Mergeable :=
  record_mergeable ⟨by decide, by simp, fun _ ↦ rfl, by simp⟩

@[simp] theorem ObjectSelector.mergeable : ObjectSelector.codec.Mergeable :=
  record_mergeable ⟨by decide, by simp, fun _ ↦ rfl, by simp⟩

@[simp] theorem SecretMapping.mergeable : SecretMapping.codec.Mergeable :=
  record_mergeable ⟨by decide, by simp, fun _ ↦ rfl, by simp⟩

@[simp] theorem SecretsManagement.mergeable : SecretsManagement.codec.Mergeable :=
  record_mergeable ⟨by decide, by simp, fun _ ↦ rfl, by simp⟩

/-! ## Settings -/

@[simp] theorem ClusterCustomization.mergeable :
    (ClusterCustomization.codec .text).Mergeable :=
  described_mergeable (record_mergeable ⟨by decide, by simp, fun _ ↦ rfl, by simp⟩)

@[simp] theorem ResourceSettings.mergeable : ResourceSettings.codec.Mergeable :=
  record_mergeable ⟨by decide, by simp, fun _ ↦ rfl, by simp⟩

/-- All settings cover the ones of which none is set. -/
@[simp] theorem ResourceSettings.isCovered : ResourceSettings.codec.IsCovered .unset :=
  record_isCovered (by decide) (by simp [ResourceSettings.unset])

@[simp] theorem Spec.mergeable : Spec.codec.Mergeable :=
  record_mergeable ⟨by decide, by simp, fun _ ↦ rfl, by simp⟩

@[simp] theorem Spec.isCovered : Spec.codec.IsCovered {} :=
  record_isCovered (by decide) (by simp)

end FleetOperator.ArgoCD

namespace FleetOperator.ArgoCD

open Codec

/-- Instances can be merged over stored ones. -/
@[simp] theorem mergeable : codec.Mergeable :=
  record_mergeable ⟨by decide, by simp, fun _ ↦ rfl, by simp⟩

@[simp] theorem isCovered : codec.IsCovered {} := record_isCovered (by decide) (by simp)

end FleetOperator.ArgoCD
