import FleetOperator.Bridge.Document
import FleetOperator.Cluster.Observation

/-!
# Clusters and their custom resources

A cluster on the platform in the shape of a specification, so that the two can be compared; a
specification as the manifest that asks the platform for it; and what the status of the custom
resource shows of a cluster.
-/

namespace FleetOperator

/-- The status code in the status of a custom resource. -/
def ObservedStatus.ofPlatform (status : Option Platform.StatusCode) : ObservedStatus :=
  match status with
  | some s => { code := s.code, message := nonEmpty s.message }
  | none => {}

namespace ClusterSpec

/-- The specification that a cluster on the platform amounts to. What only the custom resource knows
is taken from the desired specification. -/
def ofPlatform (remote : Platform.Cluster) (desired : ClusterSpec) : ClusterSpec :=
  let data := remote.data
  { instanceId := desired.instanceId
    instanceRef := desired.instanceRef
    name := remote.name
    «namespace» := nonEmpty remote.namespace
    properties := {
      description := nonEmpty remote.description
      namespaceScoped := some remote.namespaceScoped
      data := {
        size := some ((ClusterSize.ofCode? data.size).getD .small)
        autoUpgradeDisabled := data.autoUpgradeDisabled
        kustomization := Kustomization.toYaml data.kustomization
        appReplication := data.appReplication
        targetVersion := nonEmpty data.targetVersion
        redisTunneling := data.redisTunneling
        multiClusterDashboardEnabled := data.multiClusterDashboardEnabled } }
    labels := nonEmptyDict data.labels
    annotations := nonEmptyDict data.annotations
    kubeconfigSecretRef := desired.kubeconfigSecretRef
    enableInClusterKubeconfig := desired.enableInClusterKubeconfig
    removeAgentResourcesOnDestroy := desired.removeAgentResourcesOnDestroy }

/-- The manifest that asks the platform for a specification. -/
def toManifest? (desired : ClusterSpec) : Except Error Platform.ClusterManifest := do
  let data := desired.properties.data
  let kustomization ← (Kustomization.ofYaml? data.kustomization).mapError
    (.transformOf ("cluster " ++ desired.name))
  return {
    apiVersion := Platform.manifestVersion
    kind := "Cluster"
    metadata := {
      name := desired.name
      «namespace» := desired.namespace.getD ""
      labels := desired.labels.getD .empty
      annotations := desired.annotations.getD .empty }
    spec := {
      description := desired.properties.description.getD ""
      namespaceScoped := desired.properties.namespaceScoped.getD false
      data := {
        size := (data.size.getD .small).text
        autoUpgradeDisabled := data.autoUpgradeDisabled
        kustomization
        appReplication := data.appReplication
        targetVersion := data.targetVersion.getD ""
        redisTunneling := data.redisTunneling
        multiClusterDashboardEnabled := data.multiClusterDashboardEnabled } } }

end ClusterSpec

/-- What was seen of the agent of a cluster. A part that is listed under more than one health shows
the status of the last one. -/
def AgentObservation.ofPlatform (state : Option Platform.AgentState) : AgentObservation :=
  match state with
  | none => {}
  | some state =>
    let health := state.health.getD {}
    let listed := health.healthy.toList ++ health.progressing.toList ++ health.degraded.toList ++
      health.unknown.toList
    { version := state.version
      argoCDVersion := state.argoCDVersion
      statuses := .ofList (listed.map fun part ↦
        (part.1, { code := part.2.status, message := nonEmpty part.2.message })) }

/-- What the status of the custom resource shows of a cluster on the platform. -/
def ClusterObservation.ofPlatform (remote : Platform.Cluster) : ClusterObservation :=
  let data := remote.data
  { id := remote.id
    name := remote.name
    description := remote.description
    «namespace» := remote.namespace
    namespaceScoped := remote.namespaceScoped
    labels := data.labels
    annotations := data.annotations
    autoUpgradeDisabled := data.autoUpgradeDisabled.getD false
    appReplication := data.appReplication.getD false
    targetVersion := data.targetVersion
    redisTunneling := data.redisTunneling.getD false
    agentState := .ofPlatform remote.agentState
    healthStatus := .ofPlatform remote.healthStatus
    reconciliationStatus := .ofPlatform remote.reconciliationStatus
    kustomization := (Kustomization.toYaml data.kustomization).getD ""
    agentSize := ((ClusterSize.ofCode? data.size).map ClusterSize.text).getD "unspecified" }

end FleetOperator
