import FleetOperator.Cluster.Spec

/-!
# Clusters on the platform

A cluster as the platform reports it, and the manifest by which it is created and changed.
-/

namespace FleetOperator.Platform

/-- The version of the manifests that the platform takes. -/
def manifestVersion : String := "argocd.akuity.io/v1alpha1"

/-- A status code with its message. -/
structure StatusCode where
  code : Int32 := 0
  message : String := ""
deriving DecidableEq, Repr, Inhabited

/-- The written form of `StatusCode`. -/
def StatusCode.codec : Codec StatusCode :=
  .record StatusCode.mk <|
    .next (.defaulted "code" (·.code) .int32 0) <|
    .next (.defaulted "message" (·.message) .text "") <|
    .done

/-- The settings of the agent of a cluster, with the size as a code and the kustomization as a JSON
document. -/
structure ClusterData where
  size : Int32 := 0
  autoUpgradeDisabled : Option Bool := none
  kustomization : Option Json := none
  appReplication : Option Bool := none
  targetVersion : String := ""
  redisTunneling : Option Bool := none
  multiClusterDashboardEnabled : Option Bool := none
  labels : Dict String := .empty
  annotations : Dict String := .empty
deriving DecidableEq, Repr, Inhabited

/-- The written form of `ClusterData`. -/
def ClusterData.codec : Codec ClusterData :=
  .record ClusterData.mk <|
    .next (.defaulted "size" (·.size) .int32 0) <|
    .next (.nullableDefaulted "autoUpgradeDisabled" (·.autoUpgradeDisabled) .flag) <|
    .next (.nullableDefaulted "kustomization" (·.kustomization) .json) <|
    .next (.nullableDefaulted "appReplication" (·.appReplication) .flag) <|
    .next (.defaulted "targetVersion" (·.targetVersion) .text "") <|
    .next (.nullableDefaulted "redisTunneling" (·.redisTunneling) .flag) <|
    .next (.nullableDefaulted "multiClusterK8sDashboardEnabled" (·.multiClusterDashboardEnabled)
      .flag) <|
    .next (.defaulted "labels" (·.labels) (.dict .text) .empty) <|
    .next (.defaulted "annotations" (·.annotations) (.dict .text) .empty) <|
    .done

/-- The state of one part of an agent. -/
structure PartStatus where
  status : Int32 := 0
  message : String := ""
deriving DecidableEq, Repr, Inhabited

/-- The written form of `PartStatus`. -/
def PartStatus.codec : Codec PartStatus :=
  .record PartStatus.mk <|
    .next (.defaulted "status" (·.status) .int32 0) <|
    .next (.defaulted "message" (·.message) .text "") <|
    .done

/-- The parts of an agent by name, sorted by their health. -/
structure AgentHealth where
  healthy : Dict PartStatus := .empty
  progressing : Dict PartStatus := .empty
  degraded : Dict PartStatus := .empty
  unknown : Dict PartStatus := .empty
deriving DecidableEq, Repr, Inhabited

/-- The written form of `AgentHealth`. -/
def AgentHealth.codec : Codec AgentHealth :=
  .record AgentHealth.mk <|
    .next (.defaulted "healthy" (·.healthy) (.dict PartStatus.codec) .empty) <|
    .next (.defaulted "progressing" (·.progressing) (.dict PartStatus.codec) .empty) <|
    .next (.defaulted "degraded" (·.degraded) (.dict PartStatus.codec) .empty) <|
    .next (.defaulted "unknown" (·.unknown) (.dict PartStatus.codec) .empty) <|
    .done

/-- The state of the agent of a cluster. -/
structure AgentState where
  version : String := ""
  argoCDVersion : String := ""
  health : Option AgentHealth := none
deriving DecidableEq, Repr, Inhabited

/-- The written form of `AgentState`. -/
def AgentState.codec : Codec AgentState :=
  .record AgentState.mk <|
    .next (.defaulted "version" (·.version) .text "") <|
    .next (.defaulted "argoCdVersion" (·.argoCDVersion) .text "") <|
    .next (.nullableDefaulted "status" (·.health) AgentHealth.codec) <|
    .done

/-- A cluster as the platform reports it. -/
structure Cluster where
  id : String := ""
  name : String := ""
  description : String := ""
  «namespace» : String := ""
  namespaceScoped : Bool := false
  data : ClusterData := {}
  agentState : Option AgentState := none
  healthStatus : Option StatusCode := none
  reconciliationStatus : Option StatusCode := none
deriving DecidableEq, Repr, Inhabited

namespace Cluster

/-- The written form of `Cluster`. -/
def codec : Codec Cluster :=
  .record Cluster.mk <|
    .next (.required "id" (·.id) .text) <|
    .next (.required "name" (·.name) .text) <|
    .next (.defaulted "description" (·.description) .text "") <|
    .next (.defaulted "namespace" (·.namespace) .text "") <|
    .next (.defaulted "namespaceScoped" (·.namespaceScoped) .flag false) <|
    .next (.defaulted "data" (·.data) ClusterData.codec {}) <|
    .next (.nullableDefaulted "agentState" (·.agentState) AgentState.codec) <|
    .next (.nullableDefaulted "healthStatus" (·.healthStatus) StatusCode.codec) <|
    .next (.nullableDefaulted "reconciliationStatus" (·.reconciliationStatus)
      StatusCode.codec) <|
    .done

/-- The code of the reconciliation, zero when it is not reported. -/
def reconciliationCode (c : Cluster) : Int32 :=
  match c.reconciliationStatus with
  | some status => status.code
  | none => 0

/-- Whether the platform is done with a cluster: its reconciliation succeeded or failed. -/
def isSettled (c : Cluster) : Bool := c.reconciliationCode == 1 || c.reconciliationCode == 3

end Cluster

/-- The metadata of a manifest. -/
structure ManifestMetadata where
  name : String := ""
  «namespace» : String := ""
  labels : Dict String := .empty
  annotations : Dict String := .empty
deriving DecidableEq, Repr, Inhabited

/-- The written form of `ManifestMetadata`. -/
def ManifestMetadata.codec : Codec ManifestMetadata :=
  .record ManifestMetadata.mk <|
    .next (.required "name" (·.name) .text) <|
    .next (.text "namespace" (·.namespace)) <|
    .next (.dict "labels" (·.labels) .text) <|
    .next (.dict "annotations" (·.annotations) .text) <|
    .done

/-- The settings of the agent in a manifest, with the size by name. -/
structure ClusterManifestData where
  size : String
  autoUpgradeDisabled : Option Bool := none
  kustomization : Option Json := none
  appReplication : Option Bool := none
  targetVersion : String := ""
  redisTunneling : Option Bool := none
  multiClusterDashboardEnabled : Option Bool := none
deriving DecidableEq, Repr, Inhabited

/-- The written form of `ClusterManifestData`. -/
def ClusterManifestData.codec : Codec ClusterManifestData :=
  .record ClusterManifestData.mk <|
    .next (.required "size" (·.size) .text) <|
    .next (.optional "autoUpgradeDisabled" (·.autoUpgradeDisabled) .flag) <|
    .next (.optional "kustomization" (·.kustomization) .json) <|
    .next (.optional "appReplication" (·.appReplication) .flag) <|
    .next (.text "targetVersion" (·.targetVersion)) <|
    .next (.optional "redisTunneling" (·.redisTunneling) .flag) <|
    .next (.optional "multiClusterK8sDashboardEnabled" (·.multiClusterDashboardEnabled) .flag) <|
    .done

/-- The specification in a cluster's manifest. -/
structure ClusterManifestSpec where
  description : String := ""
  namespaceScoped : Bool := false
  data : ClusterManifestData
deriving DecidableEq, Repr, Inhabited

/-- The written form of `ClusterManifestSpec`. -/
def ClusterManifestSpec.codec : Codec ClusterManifestSpec :=
  .record ClusterManifestSpec.mk <|
    .next (.text "description" (·.description)) <|
    .next (.defaulted "namespaceScoped" (·.namespaceScoped) .flag false) <|
    .next (.required "data" (·.data) ClusterManifestData.codec) <|
    .done

/-- The manifest by which a cluster is created and changed. -/
structure ClusterManifest where
  apiVersion : String
  kind : String
  metadata : ManifestMetadata
  spec : ClusterManifestSpec
deriving DecidableEq, Repr, Inhabited

/-- The written form of `ClusterManifest`. -/
def ClusterManifest.codec : Codec ClusterManifest :=
  .record ClusterManifest.mk <|
    .next (.required "apiVersion" (·.apiVersion) .text) <|
    .next (.required "kind" (·.kind) .text) <|
    .next (.required "metadata" (·.metadata) ManifestMetadata.codec) <|
    .next (.required "spec" (·.spec) ClusterManifestSpec.codec) <|
    .done

end FleetOperator.Platform
