import FleetOperator.Proofs.Cluster.Passes

/-!
# No drift goes unnoticed

What is known of a cluster that a look found up to date. Read `Cluster.upToDate_keeps_settings`
first: a write of the resource's specification would store the settings that the cluster already has,
where texts that write the same quantity count as the same text.
-/

namespace FleetOperator

/-- A size has the code that it was read from. -/
theorem ClusterSize.code_of_ofCode? {code : Int32} {size : ClusterSize}
    (h : ofCode? code = some size) : size.code = code := by
  unfold ofCode? at h
  split at h
  · next hcode => cases h; exact hcode.symm
  · split at h
    · next hcode => cases h; exact hcode.symm
    · split at h
      · next hcode => cases h; exact hcode.symm
      · simp at h

/-- The code of a size by its name is that of the size. -/
theorem Platform.sizeCode_text (size : ClusterSize) : sizeCode size.text = size.code := by
  cases size <;> decide

/-- The code of a size that was read from a code, small where there is none. -/
theorem Platform.sizeCode_ofCode? (code : Int32) :
    sizeCode ((ClusterSize.ofCode? code).getD .small).text =
      if (ClusterSize.ofCode? code).isSome then code else ClusterSize.small.code := by
  rw [sizeCode_text]
  cases hcode : ClusterSize.ofCode? code with
  | none => rfl
  | some size => exact ClusterSize.code_of_ofCode? hcode

/-- A flag that was taken over where it was open, and that is the observed one where both count, is
the observed one. -/
theorem getD_adopt_of_or {own seen : Option Bool}
    (h : ((adopt own seen).or seen).getD false = seen.getD false) :
    (adopt own seen).getD false = seen.getD false := by
  cases own with
  | none => rfl
  | some flag => exact h

namespace Platform.Cluster

/-- Two clusters have the same settings: their texts are the same or write the same quantity, a
missing label counting as an empty one, their flags are the same, one that is not set counting as one
that is off, and so are their sizes, where one without a name counts as small. -/
structure SameSettings (a b : Cluster) : Prop where
  name : Json.equalTexts a.name b.name = true
  description : Json.equalTexts a.description b.description = true
  «namespace» : Json.equalTexts a.namespace b.namespace = true
  namespaceScoped : a.namespaceScoped = b.namespaceScoped
  size : a.data.size = if (ClusterSize.ofCode? b.data.size).isSome then b.data.size
    else ClusterSize.small.code
  autoUpgradeDisabled : a.data.autoUpgradeDisabled.getD false = b.data.autoUpgradeDisabled.getD false
  appReplication : a.data.appReplication.getD false = b.data.appReplication.getD false
  targetVersion : Json.equalTexts a.data.targetVersion b.data.targetVersion = true
  redisTunneling : a.data.redisTunneling.getD false = b.data.redisTunneling.getD false
  multiClusterDashboardEnabled : a.data.multiClusterDashboardEnabled.getD false =
    b.data.multiClusterDashboardEnabled.getD false
  labels : a.data.labels.SameTexts b.data.labels
  annotations : a.data.annotations.SameTexts b.data.annotations

/-- The kustomization documents of two clusters are equivalent, an absent one counting as the empty
one. -/
def SameKustomization (a b : Cluster) : Prop :=
  Json.equal (a.data.kustomization.getD (.object [])) (b.data.kustomization.getD (.object [])) = true

end Platform.Cluster

namespace ClusterSpec

/-- A specification that is up to date after late initialization has a manifest, and a write of it
would store the settings that the cluster already has. The kustomization is among them unless its
value is lost. -/
theorem sameSettings_of_isUpToDate {spec own : ClusterSpec} {remote : Platform.Cluster}
    (hinit : spec.lateInitialize (ofPlatform remote spec) = { spec := own })
    (hreads : ∀ document, remote.data.kustomization = some document → Yaml.ReadsBack document)
    (h : own.isUpToDate (ofPlatform remote spec) = true) :
    ∃ m, own.toManifest? = .ok m ∧ m.toCluster.SameSettings remote ∧
      (Kustomization.isLost own.properties.data.kustomization = false →
        m.toCluster.SameKustomization remote) := by
  rw [isUpToDate, equivalent_iff, ClusterProperties.equivalent_iff,
    ClusterData.equivalent_iff] at h
  simp only [normalize, ofPlatform, getD_nonEmpty, getD_nonEmptyDict, Option.getD_some] at h
  obtain ⟨-, -, hname, hnamespace, ⟨hdescription, hscoped, hsize, hupgrade, hkustomization,
    hreplication, hversion, hredis, hdashboard⟩, hlabels, hannotations, -⟩ := h
  have hadopted : adoptKustomization ("cluster " ++ remote.name)
      spec.properties.data.kustomization (Kustomization.toYaml remote.data.kustomization) =
        (own.properties.data.kustomization, none) :=
    Prod.ext (congrArg (fun done ↦ done.spec.properties.data.kustomization) hinit)
      (congrArg LateInitialized.error hinit)
  have hflag : adopt spec.properties.data.multiClusterDashboardEnabled
      remote.data.multiClusterDashboardEnabled =
        own.properties.data.multiClusterDashboardEnabled :=
    congrArg (fun done ↦ done.spec.properties.data.multiClusterDashboardEnabled) hinit
  obtain ⟨document, hdocument, hsame⟩ := Kustomization.document_of_equalTexts
    (adoptKustomization_ne_empty Kustomization.toYaml_ne_empty hadopted) hreads hkustomization
  refine ⟨own.manifest document, toManifest?_eq_ok.2 ⟨document, hdocument, rfl⟩, ?_, hsame⟩
  constructor
  case name => exact hname
  case description => exact hdescription
  case «namespace» => exact hnamespace
  case namespaceScoped => exact hscoped
  case size =>
    show Platform.sizeCode (own.properties.data.size.getD .small).text = _
    rw [hsize, Option.getD_some]
    exact Platform.sizeCode_ofCode? remote.data.size
  case autoUpgradeDisabled => exact hupgrade
  case appReplication => exact hreplication
  case targetVersion => exact hversion
  case redisTunneling => exact hredis
  case multiClusterDashboardEnabled =>
    show own.properties.data.multiClusterDashboardEnabled.getD false = _
    rw [← hflag] at hdashboard ⊢
    exact getD_adopt_of_or hdashboard
  case labels => exact hlabels
  case annotations => exact hannotations

end ClusterSpec

namespace Cluster

variable {W : Type} {handler : Handler effects W} (policy : PollPolicy) {instanceId : String}

/-- A cluster that a look finds up to date has the settings that a write of the resource would
store: names, flags, sizes and labels, texts up to the quantity they write, and the kustomization
document, unless its value is lost. -/
theorem upToDate_keeps_settings {s : Situation ClusterSpec ClusterObservation W} {name : String}
    {remote : Platform.Cluster} (hname : s.resource.externalName? = some name)
    (hremote : (handler (.platform (.getCluster instanceId name)) s.world).1 = .ok remote)
    (hreads : ∀ document, remote.data.kustomization = some document → Yaml.ReadsBack document)
    (hseen : (External.cluster policy instanceId).seen handler s = .ok (.present true)) :
    ∃ m, ((External.cluster policy instanceId).looked handler s).resource.spec.toManifest? =
        .ok m ∧
      m.toCluster.SameSettings remote ∧
      (Kustomization.isLost ((External.cluster policy instanceId).looked
          handler s).resource.spec.properties.data.kustomization = false →
        m.toCluster.SameKustomization remote) := by
  obtain ⟨hreflected, hlooked, -⟩ := looks_found policy hname hremote
  rw [hreflected] at hseen
  rw [hlooked]
  show ∃ m, (Cluster.reflect s.resource remote).1.spec.toManifest? = _ ∧ _ ∧
    (Kustomization.isLost (Cluster.reflect s.resource remote).1.spec.properties.data.kustomization =
      _ → _)
  rw [(reflect_spec s.resource remote).1]
  cases hinit : (ClusterSpec.lateInitialize s.resource.spec
      (ClusterSpec.ofPlatform remote s.resource.spec)).error with
  | some error =>
      rw [reflect_error hinit] at hseen
      simp at hseen
  | none =>
      rw [reflect_ok hinit] at hseen
      have hinitialized : s.resource.spec.lateInitialize (ClusterSpec.ofPlatform remote
          s.resource.spec) =
            { spec := (s.resource.spec.lateInitialize (ClusterSpec.ofPlatform remote
              s.resource.spec)).spec } := by
        rw [← hinit]
      exact ClusterSpec.sameSettings_of_isUpToDate hinitialized hreads
        (by simpa [Observation.present] using hseen)

/-- A cluster on the platform with a description and a kustomization. -/
def described (description : String) : Platform.Cluster where
  id := "c-1"
  name := "prod"
  description
  data := { size := 1, kustomization := some (.object [("kind", .text "Kustomization")]) }

/-- A resource that asks for a description, beside a platform that holds another one. -/
def describedTwice (own held : String) : Situation ClusterSpec ClusterObservation World where
  resource := {
    metadata := { annotations := some (.ofList [(externalNameKey, "prod")]) }
    spec := { name := "prod", properties := { description := some own } } }
  world := { platform := { clusters := .ofList [("prod", described held)] } }

/-- Descriptions that write the same quantity count as the same. -/
theorem upToDate_keeps_settings_described :
    ∃ m, ((External.cluster {} "argo").looked World.answer
        (describedTwice "1000m" "1")).resource.spec.toManifest? = .ok m ∧
      m.toCluster.SameSettings (described "1") := by
  have hremote : (World.answer (.platform (.getCluster "argo" "prod"))
      (describedTwice "1000m" "1").world).1 = .ok (described "1") := rfl
  have hreads : ∀ document, (described "1").data.kustomization = some document →
      Yaml.ReadsBack document := by
    rintro document hdocument
    obtain rfl : Json.object [("kind", .text "Kustomization")] = document := by
      simpa [described] using hdocument
    decide +kernel
  obtain ⟨m, hmanifest, hsame, -⟩ := upToDate_keeps_settings {}
    (s := describedTwice "1000m" "1") (by decide +kernel) hremote hreads (by decide +kernel)
  exact ⟨m, hmanifest, hsame⟩

/-- A cluster whose size has no name and whose label is empty. -/
def tolerated : Platform.Cluster where
  id := "c-1"
  name := "prod"
  description := "1"
  data := {
    size := 9, labels := .ofList [("team", "")]
    kustomization := some (.object [("replicas", .text "1")]) }

/-- A resource that asks for other settings, beside a platform that holds that cluster. -/
def toleratedBeside : Situation ClusterSpec ClusterObservation World where
  resource := {
    metadata := {
      name := some "prod", annotations := some (.ofList [(externalNameKey, "prod")]) }
    spec := {
      name := "prod", labels := some (.ofList [("env", "")])
      properties := {
        description := some "1000m", data := { kustomization := some "replicas: 1000m" } } } }
  world := { platform := { clusters := .ofList [("prod", tolerated)] } }

/-- Texts that differ from the stored ones only in how a quantity is written, labels that are empty
and a size without a name are up to date, and a write would change each of them. -/
theorem upToDate_with_other_settings :
    (External.cluster {} "argo").seen World.answer toleratedBeside = .ok (.present true) ∧
      ((External.cluster {} "argo").looked World.answer
        toleratedBeside).resource.spec.toManifest?.map (fun m ↦ (m.toCluster.description,
          m.toCluster.data.size, m.toCluster.data.labels, m.toCluster.data.kustomization)) =
        .ok ("1000m", 1, .ofList [("env", "")], some (.object [("replicas", .text "1000m")])) ∧
      tolerated.description ≠ "1000m" ∧ tolerated.data.size ≠ 1 ∧
      tolerated.data.labels ≠ .ofList [("env", "")] ∧
      tolerated.data.kustomization ≠ some (.object [("replicas", .text "1000m")]) := by
  decide +kernel

end Cluster

end FleetOperator
