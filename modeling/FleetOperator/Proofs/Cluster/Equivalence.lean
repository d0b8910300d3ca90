import FleetOperator.Proofs.Codec.Equivalence

/-!
# Equivalent cluster specifications

What it means, setting by setting, that two cluster specifications are equivalent. Read
`ClusterSpec.equivalent_iff` first: texts and labels are compared as texts, a flag that is not set
counts as one that is off, and an absent text or dictionary counts as an empty one.
-/

namespace FleetOperator

/-- Two dictionaries of texts have equivalent texts at every key, a missing one counting as empty. -/
def Dict.SameTexts (a b : Dict String) : Prop :=
  ∀ key, Json.equalTexts ((a.get? key).getD "") ((b.get? key).getD "") = true

/-- A dictionary has the same texts as itself. -/
theorem Dict.SameTexts.refl (d : Dict String) : d.SameTexts d := fun _ ↦ Json.equalTexts_refl _

/-- Optional dictionaries of texts are equivalent exactly if they have the same texts, an absent one
counting as empty. -/
theorem Codec.equal_optional_texts (a b : Option (Dict String)) :
    Json.equal (Codec.text.dict.optional.toJson a) (Codec.text.dict.optional.toJson b) = true ↔
      (a.getD .empty).SameTexts (b.getD .empty) := by
  rw [equal_optional_dict, dict_equivalent_iff]
  simp only [equal_optional_text, Dict.SameTexts]

/-- Sizes are compared by their names, which are no quantities. -/
theorem ClusterSize.equal_optional_iff (a b : Option ClusterSize) :
    Json.equal (codec.optional.toJson a) (codec.optional.toJson b) = true ↔ a = b := by
  rcases a with _ | _ | _ | _ <;> rcases b with _ | _ | _ | _ <;> decide

/-- Settings of an agent are equivalent exactly if each of them is. -/
theorem ClusterData.equivalent_iff (a b : ClusterData) :
    codec.equivalent a b = true ↔
      a.size = b.size ∧
      a.autoUpgradeDisabled.getD false = b.autoUpgradeDisabled.getD false ∧
      Json.equalTexts (a.kustomization.getD "") (b.kustomization.getD "") = true ∧
      a.appReplication.getD false = b.appReplication.getD false ∧
      Json.equalTexts (a.targetVersion.getD "") (b.targetVersion.getD "") = true ∧
      a.redisTunneling.getD false = b.redisTunneling.getD false ∧
      a.multiClusterDashboardEnabled.getD false = b.multiClusterDashboardEnabled.getD false := by
  rw [codec, Codec.record_equivalent_iff (by decide)]
  simp only [Fields.Agree, Field.json_optional, Field.json_described, ClusterSize.equal_optional_iff,
    Codec.equal_optional_flag, Codec.equal_optional_text, beq_iff_eq, and_true]

/-- Stored properties are equivalent exactly if each of them is. -/
theorem ClusterProperties.equivalent_iff (a b : ClusterProperties) :
    codec.equivalent a b = true ↔
      Json.equalTexts (a.description.getD "") (b.description.getD "") = true ∧
      a.namespaceScoped.getD false = b.namespaceScoped.getD false ∧
      ClusterData.codec.equivalent a.data b.data = true := by
  rw [codec, Codec.record_equivalent_iff (by decide)]
  simp only [Fields.Agree, Field.json_optional, Field.json_defaulted, Codec.equal_optional_flag,
    Codec.equal_optional_text, beq_iff_eq, and_true, Codec.equivalent]

/-- Specifications are equivalent exactly if each of their settings is. -/
theorem ClusterSpec.equivalent_iff (a b : ClusterSpec) :
    codec.equivalent a b = true ↔
      Json.equalTexts (a.instanceId.getD "") (b.instanceId.getD "") = true ∧
      NameRef.codec.optional.equivalent a.instanceRef b.instanceRef = true ∧
      Json.equalTexts a.name b.name = true ∧
      Json.equalTexts (a.namespace.getD "") (b.namespace.getD "") = true ∧
      ClusterProperties.codec.equivalent a.properties b.properties = true ∧
      (a.labels.getD .empty).SameTexts (b.labels.getD .empty) ∧
      (a.annotations.getD .empty).SameTexts (b.annotations.getD .empty) ∧
      SecretRef.codec.optional.equivalent a.kubeconfigSecretRef b.kubeconfigSecretRef = true ∧
      a.enableInClusterKubeconfig = b.enableInClusterKubeconfig ∧
      a.removeAgentResourcesOnDestroy = b.removeAgentResourcesOnDestroy := by
  rw [codec, Codec.record_equivalent_iff (by decide)]
  simp only [Fields.Agree, Field.json_optional, Field.json_defaulted, Field.json_required,
    Field.json_described, Codec.equal_optional_text, Codec.equal_optional_texts, Codec.text_toJson,
    Codec.flag_toJson, Json.equal, beq_iff_eq, and_true, Codec.equivalent]

end FleetOperator
