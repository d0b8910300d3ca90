import FleetOperator.Cluster.Spec

/-!
# Observed clusters

What the status of a cluster's custom resource shows of the cluster on the platform.
-/

namespace FleetOperator

/-- What was seen of the agent of a cluster, with the status of each of its parts. -/
structure AgentObservation where
  version : String := ""
  argoCDVersion : String := ""
  statuses : Dict ObservedStatus := .empty
deriving DecidableEq, Repr, Inhabited

/-- The written form of `AgentObservation`. -/
def AgentObservation.codec : Codec AgentObservation :=
  .record AgentObservation.mk <|
    .next (.defaulted "version" (·.version) .text "") <|
    .next (.defaulted "argoCdVersion" (·.argoCDVersion) .text "") <|
    .next (.defaulted "statuses" (·.statuses) (.dict ObservedStatus.codec) .empty) <|
    .done

/-- What was seen of a cluster on the platform. -/
structure ClusterObservation where
  id : String
  name : String
  description : String := ""
  «namespace» : String := ""
  namespaceScoped : Bool := false
  labels : Dict String := .empty
  annotations : Dict String := .empty
  autoUpgradeDisabled : Bool := false
  appReplication : Bool := false
  targetVersion : String := ""
  redisTunneling : Bool := false
  agentState : AgentObservation := {}
  healthStatus : ObservedStatus := {}
  reconciliationStatus : ObservedStatus := {}
  kustomization : String := ""
  agentSize : String := ""
deriving DecidableEq, Repr, Inhabited

/-- The written form of `ClusterObservation`. -/
def ClusterObservation.codec : Codec ClusterObservation :=
  .record ClusterObservation.mk <|
    .next (.required "id" (·.id) .text) <|
    .next (.required "name" (·.name) .text) <|
    .next (.defaulted "description" (·.description) .text "") <|
    .next (.defaulted "namespace" (·.namespace) .text "") <|
    .next (.defaulted "namespaceScoped" (·.namespaceScoped) .flag false) <|
    .next (.defaulted "labels" (·.labels) (.dict .text) .empty) <|
    .next (.defaulted "annotations" (·.annotations) (.dict .text) .empty) <|
    .next (.defaulted "autoUpgradeDisabled" (·.autoUpgradeDisabled) .flag false) <|
    .next (.defaulted "appReplication" (·.appReplication) .flag false) <|
    .next (.defaulted "targetVersion" (·.targetVersion) .text "") <|
    .next (.defaulted "redisTunneling" (·.redisTunneling) .flag false) <|
    .next (.defaulted "agentState" (·.agentState) AgentObservation.codec {}) <|
    .next (.defaulted "healthStatus" (·.healthStatus) ObservedStatus.codec {}) <|
    .next (.defaulted "reconciliationStatus" (·.reconciliationStatus) ObservedStatus.codec {}) <|
    .next (.defaulted "kustomization" (·.kustomization) .text "") <|
    .next ((Field.defaulted "agentSize" (·.agentSize) .text "").described
      "`small`, `medium`, `large` or `unspecified`.") <|
    .done

/-- The status of a cluster's custom resource. -/
abbrev ClusterStatus := Status ClusterObservation

/-- The custom resource for a cluster. -/
abbrev Cluster := Resource ClusterSpec ClusterObservation

/-- The written form of `ClusterStatus`. -/
def ClusterStatus.codec : Codec ClusterStatus := Status.codec ClusterObservation.codec

/-- The written form of `Cluster`. -/
def Cluster.codec : Codec Cluster :=
  Resource.codec "Cluster" ClusterSpec.codec ClusterObservation.codec

end FleetOperator
