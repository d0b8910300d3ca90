import FleetOperator.Resource.Basic

/-!
# Clusters

The custom resource for a cluster that is attached to an instance: what the user asks for, and what
was last seen of the cluster on the platform.
-/

namespace FleetOperator

/-- The size of the agent of a cluster. -/
inductive ClusterSize where
  | small
  | medium
  | large
deriving DecidableEq, Repr, Inhabited

namespace ClusterSize

/-- The size that the platform gives a code. Unknown codes are no size. -/
def ofCode? (code : Int32) : Option ClusterSize :=
  if code = 1 then some small
  else if code = 2 then some medium
  else if code = 3 then some large
  else none

/-- The platform's code of a size. -/
def code : ClusterSize → Int32
  | small => 1
  | medium => 2
  | large => 3

/-- The name of a size. -/
def text : ClusterSize → String
  | small => "small"
  | medium => "medium"
  | large => "large"

/-- The size with a name. -/
def ofText? (name : String) : Option ClusterSize := Codec.findWord text name [small, medium, large]

/-- The written form of `ClusterSize`. -/
def codec : Codec ClusterSize := .choice text [small, medium, large]

end ClusterSize

/-- The settings of the agent of a cluster. The kustomization is YAML text that is applied to the
agent's manifests. -/
structure ClusterData where
  size : Option ClusterSize := none
  autoUpgradeDisabled : Option Bool := none
  kustomization : Option String := none
  appReplication : Option Bool := none
  targetVersion : Option String := none
  redisTunneling : Option Bool := none
  multiClusterDashboardEnabled : Option Bool := none
deriving DecidableEq, Repr, Inhabited

/-- The written form of `ClusterData`. -/
def ClusterData.codec : Codec ClusterData :=
  .record ClusterData.mk <|
    .next (.optional "size" (·.size) ClusterSize.codec) <|
    .next (.optional "autoUpgradeDisabled" (·.autoUpgradeDisabled) .flag) <|
    .next ((Field.optional "kustomization" (·.kustomization) .text).described
      "Kustomization applied to the agent manifests, as YAML.") <|
    .next (.optional "appReplication" (·.appReplication) .flag) <|
    .next (.optional "targetVersion" (·.targetVersion) .text) <|
    .next (.optional "redisTunneling" (·.redisTunneling) .flag) <|
    .next (.optional "multiClusterK8sDashboardEnabled" (·.multiClusterDashboardEnabled) .flag) <|
    .done

/-- The part of a cluster's specification that the platform stores under its name. -/
structure ClusterProperties where
  description : Option String := none
  namespaceScoped : Option Bool := none
  data : ClusterData := {}
deriving DecidableEq, Repr, Inhabited

/-- The written form of `ClusterProperties`. -/
def ClusterProperties.codec : Codec ClusterProperties :=
  .record ClusterProperties.mk <|
    .next (.optional "description" (·.description) .text) <|
    .next (.optional "namespaceScoped" (·.namespaceScoped) .flag) <|
    .next (.defaulted "data" (·.data) ClusterData.codec {}) <|
    .done

/-- What the user asks of a cluster: the instance it belongs to, its name and its properties on the
platform, and how the operator reaches the cluster itself. -/
structure ClusterSpec where
  instanceId : Option String := none
  instanceRef : Option NameRef := none
  name : String := ""
  «namespace» : Option String := none
  properties : ClusterProperties := {}
  labels : Option (Dict String) := none
  annotations : Option (Dict String) := none
  kubeconfigSecretRef : Option SecretRef := none
  enableInClusterKubeconfig : Bool := false
  removeAgentResourcesOnDestroy : Bool := false
deriving DecidableEq, Repr, Inhabited

namespace ClusterSpec

/-- The written form of `ClusterSpec`. -/
def codec : Codec ClusterSpec :=
  .record ClusterSpec.mk <|
    .next (.optional "instanceId" (·.instanceId) .text) <|
    .next (.optional "instanceRef" (·.instanceRef) NameRef.codec) <|
    .next (.required "name" (·.name) .text) <|
    .next ((Field.optional "namespace" (·.namespace) .text).described
      "Namespace the agent is installed into on the workload cluster.") <|
    .next (.defaulted "clusterSpec" (·.properties) ClusterProperties.codec {}) <|
    .next (.optional "labels" (·.labels) (.dict .text)) <|
    .next (.optional "annotations" (·.annotations) (.dict .text)) <|
    .next (.optional "kubeconfigSecretRef" (·.kubeconfigSecretRef) SecretRef.codec) <|
    .next (.defaulted "enableInClusterKubeconfig" (·.enableInClusterKubeconfig) .flag false) <|
    .next (.defaulted "removeAgentResourcesOnDestroy" (·.removeAgentResourcesOnDestroy) .flag
      false) <|
    .done

/-- Whether the operator can reach the cluster itself. -/
def hasTargetAccess (spec : ClusterSpec) : Bool :=
  spec.enableInClusterKubeconfig || spec.kubeconfigSecretRef.any (·.name != "")

end ClusterSpec

end FleetOperator
