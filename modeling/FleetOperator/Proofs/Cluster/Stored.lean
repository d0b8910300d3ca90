import FleetOperator.Bridge.Cluster
import FleetOperator.Drift.LateInit
import FleetOperator.Platform.Memory
import FleetOperator.Proofs.Bridge.Kustomization
import FleetOperator.Proofs.Cluster.Equivalence
import FleetOperator.Proofs.Except

/-!
# Clusters that were stored as they were asked for

What a cluster's specification becomes when the platform reports back what was written for it. Read
`lateInitialize_stored` and `isUpToDate_stored` first: late initialization settles the specification
without changing what it asks for, and the comparison fails exactly if the kustomization is vacuous.
-/

namespace FleetOperator

/-- A cluster without what the platform says of it by itself: its identifier, its agent and its
status. -/
def Platform.Cluster.declared (c : Platform.Cluster) : Platform.Cluster :=
  { c with id := "", agentState := none, healthStatus := none, reconciliationStatus := none }

/-- The code of a size by its name is that of the size. -/
theorem Platform.ofCode?_sizeCode (size : ClusterSize) :
    ClusterSize.ofCode? (sizeCode size.text) = some size := by
  cases size <;> decide

@[simp] theorem getD_nonEmpty (text : String) : (nonEmpty text).getD "" = text := by
  by_cases h : text = ""
  · simp [nonEmpty, h]
  · simp [nonEmpty, h]

@[simp] theorem getD_nonEmptyDict {α : Type} (d : Dict α) :
    (nonEmptyDict d).getD .empty = d := by
  unfold nonEmptyDict
  split
  · next h => exact (Dict.isEmpty_iff.1 h).symm
  · rfl

/-- A value that is there stays, and one that is not there is not made up from an empty one. -/
theorem adopt_nonEmpty_getD (text : Option String) :
    adopt text (nonEmpty (text.getD "")) = text := by
  cases text with
  | none => rfl
  | some text => rfl

@[simp] theorem adopt_self {α : Type} (value : Option α) : adopt value value = value := by
  cases value <;> rfl

/-- Taking over the same value twice is taking it over once. -/
theorem adopt_adopt {α : Type} (own seen : Option α) :
    adopt (adopt own seen) seen = adopt own seen := by
  cases own with
  | none => exact adopt_self seen
  | some value => rfl

/-- A kustomization that was stored settles as the one that is given. -/
theorem adoptKustomization_stored (subject : String) {text : Option String} {stored : Option Json}
    (hstored : Kustomization.ofYaml? text = .ok stored) :
    adoptKustomization subject text (Kustomization.toYaml stored) =
      (Kustomization.given text, none) := by
  cases hgiven : Kustomization.given text with
  | none =>
      obtain rfl : none = stored := by
        simpa [Kustomization.ofYaml?_of_given_none hgiven] using hstored
      have hany : text.any (· != "") = false := by
        rcases text with _ | text
        · rfl
        · simpa [Kustomization.given, Option.filter] using hgiven
      simp [adoptKustomization, hany, kustomizationError?, Kustomization.toYaml]
  | some own =>
      obtain ⟨rfl, hne⟩ := Kustomization.eq_of_given_some hgiven
      simp [adoptKustomization, hne]

/-- Taking over the same kustomization twice is taking it over once. -/
theorem adoptKustomization_twice (subject : String) (own seen : Option String) :
    adoptKustomization subject (adoptKustomization subject own seen).1 seen =
      adoptKustomization subject own seen := by
  by_cases hgiven : own.any (· != "") = true
  · simp only [adoptKustomization, if_pos hgiven]
  · cases herror : kustomizationError? subject seen with
    | some error => simp only [adoptKustomization, if_neg hgiven, herror]
    | none => simp only [adoptKustomization, if_neg hgiven, herror, ite_self]

/-- A kustomization that went well is not the empty text. -/
theorem adoptKustomization_ne_empty {subject : String} {own seen result : Option String}
    (hseen : seen ≠ some "") (h : adoptKustomization subject own seen = (result, none)) :
    result ≠ some "" := by
  unfold adoptKustomization at h
  split at h
  · next hgiven =>
    obtain rfl : own = result := by simpa using h
    rintro rfl
    simp at hgiven
  · split at h
    · simp at h
    · obtain rfl : seen = result := by simpa using h
      exact hseen

namespace ClusterSpec

/-- The specification after late initialization from what was stored for it: the size is decided,
and an empty kustomization is none. -/
def settled (spec : ClusterSpec) : ClusterSpec :=
  { spec with
    properties := { spec.properties with
      data := { spec.properties.data with
        size := some (spec.properties.data.size.getD .small)
        kustomization := Kustomization.given spec.properties.data.kustomization } } }

/-- The manifest of a specification with a kustomization document. -/
def manifest (spec : ClusterSpec) (kustomization : Option Json) : Platform.ClusterManifest where
  apiVersion := Platform.manifestVersion
  kind := "Cluster"
  metadata := {
    name := spec.name
    «namespace» := spec.namespace.getD ""
    labels := spec.labels.getD .empty
    annotations := spec.annotations.getD .empty }
  spec := {
    description := spec.properties.description.getD ""
    namespaceScoped := spec.properties.namespaceScoped.getD false
    data := {
      size := (spec.properties.data.size.getD .small).text
      autoUpgradeDisabled := spec.properties.data.autoUpgradeDisabled
      kustomization
      appReplication := spec.properties.data.appReplication
      targetVersion := spec.properties.data.targetVersion.getD ""
      redisTunneling := spec.properties.data.redisTunneling
      multiClusterDashboardEnabled := spec.properties.data.multiClusterDashboardEnabled } }

/-- A specification has a manifest exactly if its kustomization is a YAML document or none. -/
theorem toManifest?_eq_ok {spec : ClusterSpec} {m : Platform.ClusterManifest} :
    spec.toManifest? = .ok m ↔ ∃ kustomization,
      Kustomization.ofYaml? spec.properties.data.kustomization = .ok kustomization ∧
        m = spec.manifest kustomization := by
  unfold toManifest?
  rw [bind_eq_ok]
  refine exists_congr fun kustomization ↦ ?_
  rw [mapError_eq_ok]
  exact and_congr_right fun _ ↦ ⟨fun h ↦ (Except.ok.inj h).symm, fun h ↦ congrArg _ h.symm⟩

/-- Settling a specification does not change its manifest. -/
theorem toManifest?_settled (spec : ClusterSpec) : spec.settled.toManifest? = spec.toManifest? := by
  unfold toManifest?
  simp only [settled, Kustomization.ofYaml?_given, Option.getD_some]

/-- What the platform says by itself is no part of a specification. -/
theorem ofPlatform_declared (remote : Platform.Cluster) (desired : ClusterSpec) :
    ofPlatform remote.declared desired = ofPlatform remote desired := rfl

/-- Late initialization from what was stored for a specification settles it, and cannot fail. -/
theorem lateInitialize_stored {spec : ClusterSpec} (other : ClusterSpec)
    {m : Platform.ClusterManifest} {remote : Platform.Cluster} (hmanifest : spec.toManifest? = .ok m)
    (hstored : remote.declared = m.toCluster.declared) :
    spec.lateInitialize (ofPlatform remote other) = { spec := spec.settled } := by
  obtain ⟨kustomization, hread, rfl⟩ := toManifest?_eq_ok.1 hmanifest
  rw [← ofPlatform_declared, hstored, ofPlatform_declared]
  have hsize : adopt spec.properties.data.size
      (some ((ClusterSize.ofCode? (Platform.sizeCode
        (spec.properties.data.size.getD .small).text)).getD .small)) =
          some (spec.properties.data.size.getD .small) := by
    rw [Platform.ofCode?_sizeCode]
    cases spec.properties.data.size <;> rfl
  simp only [lateInitialize, ofPlatform, manifest, Platform.ClusterManifest.toCluster,
    adoptKustomization_stored _ hread, adopt_nonEmpty_getD, adopt_self, hsize, settled]

/-- Late initialization takes over the same settings a second time, or fails again. -/
theorem lateInitialize_twice (spec observed : ClusterSpec) :
    (spec.lateInitialize observed).spec.lateInitialize observed =
      spec.lateInitialize observed := by
  simp only [lateInitialize, adoptKustomization_twice, adopt_adopt]

/-- Compared with what was stored for it, a settled specification is up to date exactly if its
kustomization is not vacuous. -/
theorem isUpToDate_stored {spec : ClusterSpec} {m : Platform.ClusterManifest}
    {remote : Platform.Cluster} (hmanifest : spec.toManifest? = .ok m)
    (hreads : ∀ document, m.spec.data.kustomization = some document → Yaml.ReadsBack document)
    (hstored : remote.declared = m.toCluster.declared) :
    spec.settled.isUpToDate (ofPlatform remote spec) =
      !Kustomization.isVacuous spec.properties.data.kustomization := by
  obtain ⟨kustomization, hread, rfl⟩ := toManifest?_eq_ok.1 hmanifest
  rw [← ofPlatform_declared, hstored, ofPlatform_declared]
  have hsize : ((ClusterSize.ofCode? (Platform.sizeCode
      (spec.properties.data.size.getD .small).text)).getD .small) =
        spec.properties.data.size.getD .small := by
    rw [Platform.ofCode?_sizeCode, Option.getD_some]
  -- Every other setting is the same on both sides, so the kustomization alone decides.
  rw [← Kustomization.compared_with_stored hread hreads, Bool.eq_iff_iff, isUpToDate,
    equivalent_iff, ClusterProperties.equivalent_iff, ClusterData.equivalent_iff]
  simp only [normalize, settled, ofPlatform, manifest, Platform.ClusterManifest.toCluster,
    getD_nonEmpty, getD_nonEmptyDict, hsize, Option.or_self, Option.getD_some,
    Json.equalTexts_refl, Dict.SameTexts.refl, Codec.equivalent_refl, and_true, true_and]

end ClusterSpec

end FleetOperator
