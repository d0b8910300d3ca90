import FleetOperator.Proofs.Bridge.FixedPoint

/-!
# What a status shows of a remote object

The status of a custom resource beside the remote object that it was taken from, field by field.
Read `Platform.Cluster.ShownAs` and `Platform.InstanceBundle.ShownAs` first: they name the fields of
the remote object. `ClusterObservation.shownAs_ofPlatform` and
`InstanceObservation.shownAs_of_ofPlatform?` say that the statuses that are built fulfil them.
-/

namespace FleetOperator

namespace Platform

/-- The code of a status, zero where none is reported. -/
def codeOf (status : Option StatusCode) : Int32 := (status.map (·.code)).getD 0

/-- Whether a status is shown: by its code, and by its message unless that is empty. -/
structure StatusShownAs (status : Option StatusCode) (seen : ObservedStatus) : Prop where
  code : seen.code = codeOf status
  message : seen.message = (status.map (·.message)).filter (· != "")

/-- The status of a part of an agent in the last of the lists that have the part. -/
def AgentHealth.last? (health : AgentHealth) (part : String) : Option PartStatus :=
  (health.unknown.get? part).or <| (health.degraded.get? part).or <|
    (health.progressing.get? part).or (health.healthy.get? part)

/-- Whether the state of an agent is shown: by its versions, and by the last status of each part. -/
structure AgentShownAs (state : Option AgentState) (seen : AgentObservation) : Prop where
  version : seen.version = (state.map (·.version)).getD ""
  argoCDVersion : seen.argoCDVersion = (state.map (·.argoCDVersion)).getD ""
  parts : ∀ part, seen.statuses.get? part = ((state.bind (·.health)).bind (·.last? part)).map
    fun own ↦ { code := own.status, message := (some own.message).filter (· != "") }

/-- Whether a status shows a cluster on the platform. -/
structure Cluster.ShownAs (remote : Cluster) (seen : ClusterObservation) : Prop where
  id : seen.id = remote.id
  name : seen.name = remote.name
  description : seen.description = remote.description
  «namespace» : seen.namespace = remote.namespace
  namespaceScoped : seen.namespaceScoped = remote.namespaceScoped
  labels : seen.labels = remote.data.labels
  annotations : seen.annotations = remote.data.annotations
  autoUpgradeDisabled : seen.autoUpgradeDisabled = remote.data.autoUpgradeDisabled.getD false
  appReplication : seen.appReplication = remote.data.appReplication.getD false
  targetVersion : seen.targetVersion = remote.data.targetVersion
  redisTunneling : seen.redisTunneling = remote.data.redisTunneling.getD false
  agent : AgentShownAs remote.agentState seen.agentState
  health : StatusShownAs remote.healthStatus seen.healthStatus
  reconciliation : StatusShownAs remote.reconciliationStatus seen.reconciliationStatus
  kustomization : seen.kustomization = (Kustomization.toYaml remote.data.kustomization).getD ""
  agentSize : seen.agentSize =
    ((ClusterSize.ofCode? remote.data.size).map (·.text)).getD "unspecified"

/-- Whether a status shows an instance on the platform, whose settings and documents amount to a
specification. -/
structure InstanceBundle.ShownAs (bundle : InstanceBundle) (spec : InstanceSpec)
    (seen : InstanceObservation) : Prop where
  id : seen.id = bundle.inst.id
  name : seen.name = bundle.inst.name
  hostname : seen.hostname = bundle.inst.hostname
  clusterCount : seen.clusterCount = bundle.inst.clusterCount
  ownerOrganizationName : seen.ownerOrganizationName = bundle.inst.ownerOrganizationName
  health : StatusShownAs bundle.inst.healthStatus seen.healthStatus
  reconciliation : StatusShownAs bundle.inst.reconciliationStatus seen.reconciliationStatus
  version : seen.argocd.spec.version = bundle.inst.version
  description : seen.argocd.spec.description = (some bundle.inst.description).filter (· != "")
  argocd : spec.argocd = some seen.argocd
  configMaps : seen.configMaps = spec.configMaps
  plugins : seen.plugins = spec.plugins

end Platform

open Platform (StatusShownAs AgentShownAs)

/-- A text that may be empty is absent where it is. -/
theorem nonEmpty_eq_filter (text : String) : nonEmpty text = (some text).filter (· != "") := by
  by_cases h : text = "" <;> simp [nonEmpty, Option.filter, h]

/-- The status that is built for a status code shows it. -/
theorem ObservedStatus.shownAs_ofPlatform (status : Option Platform.StatusCode) :
    StatusShownAs status (.ofPlatform status) := by
  cases status with
  | none => exact ⟨rfl, rfl⟩
  | some status => exact ⟨rfl, nonEmpty_eq_filter _⟩

/-- The status that is built for the state of an agent shows it. -/
theorem AgentObservation.shownAs_ofPlatform (state : Option Platform.AgentState) :
    AgentShownAs state (.ofPlatform state) := by
  cases state with
  | none => exact ⟨rfl, rfl, fun _ ↦ rfl⟩
  | some state =>
      refine ⟨rfl, rfl, fun part ↦ ?_⟩
      have hhealth : (state.health.getD {}).last? part = state.health.bind (·.last? part) := by
        cases state.health <;> rfl
      simp only [ofPlatform, Dict.get?_ofList, ← List.map_reverse, List.reverse_append,
        nonEmpty_eq_filter]
      rw [Dict.find_map _ (fun own : Platform.PartStatus ↦
        { code := own.status, message := (some own.message).filter (· != "") : ObservedStatus }),
        Option.bind_some, ← hhealth]
      simp only [Dict.find_append, Dict.find_reverse, Platform.AgentHealth.last?]

/-- The status that is built for a cluster shows it. -/
theorem ClusterObservation.shownAs_ofPlatform (remote : Platform.Cluster) :
    remote.ShownAs (.ofPlatform remote) where
  id := rfl
  name := rfl
  description := rfl
  «namespace» := rfl
  namespaceScoped := rfl
  labels := rfl
  annotations := rfl
  autoUpgradeDisabled := rfl
  appReplication := rfl
  targetVersion := rfl
  redisTunneling := rfl
  agent := AgentObservation.shownAs_ofPlatform _
  health := ObservedStatus.shownAs_ofPlatform _
  reconciliation := ObservedStatus.shownAs_ofPlatform _
  kustomization := rfl
  agentSize := rfl

/-- The status that is built for an instance shows it. -/
theorem InstanceObservation.shownAs_of_ofPlatform? {bundle : Platform.InstanceBundle}
    {spec : InstanceSpec} {seen : InstanceObservation}
    (hspec : InstanceSpec.ofPlatform? bundle = .ok spec)
    (hseen : ofPlatform? bundle = .ok seen) : bundle.ShownAs spec seen := by
  have hargocd := (InstanceSpec.parts_of_ofPlatform? hspec).1
  unfold ofPlatform? at hseen
  rw [hspec] at hseen
  obtain rfl := Except.ok.inj hseen
  constructor
  case health => exact ObservedStatus.shownAs_ofPlatform _
  case reconciliation => exact ObservedStatus.shownAs_ofPlatform _
  case version => rw [hargocd]; rfl
  case description => rw [hargocd]; exact nonEmpty_eq_filter _
  case argocd => rw [hargocd]; rfl
  all_goals rfl

end FleetOperator
