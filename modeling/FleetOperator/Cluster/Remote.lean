import FleetOperator.Bridge.Cluster
import FleetOperator.Drift.Basic
import FleetOperator.Drift.LateInit
import FleetOperator.Operator.Poll
import FleetOperator.Platform.Download

/-!
# Clusters on the platform and their agents

Looking at the cluster behind a custom resource, creating it, changing it and deleting it. The
cluster is addressed by the identifier that is kept on the custom resource; a read that fails counts
as no cluster. Where the operator can reach the cluster itself, it installs the agent after creating
the cluster, and removes it before deleting the cluster if the user wants so.
-/

namespace FleetOperator

/-- The platform's identifier of the instance that a cluster belongs to. An identifier that is given
comes before a reference to a custom resource. -/
def ClusterSpec.resolveInstance (spec : ClusterSpec) : Attempt String :=
  match spec.instanceId.filter (· != ""), (spec.instanceRef.map (·.name)).filter (· != "") with
  | some id, _ => return id
  | none, some resource => do
    let name ← Attempt.instanceName resource
    let found ← Attempt.platform (.getInstance name)
    return found.id
  | none, none => throw (.config "one of instanceId or instanceRef must be provided")

/-- The manifests of a cluster's agent, once the platform is done with the cluster. -/
def agentManifests (policy : PollPolicy) (instanceId name : String) : Attempt String := do
  let cluster ← ExceptT.mk do
    return (← waitUntilSettled policy instanceId name).mapError Error.ofRemote
  let deliveries ← Attempt.platform (.getClusterManifests instanceId cluster.id)
  Attempt.ofExcept ((Platform.collect deliveries).mapError Error.ofRemote)

namespace Cluster

/-- A custom resource after its cluster was read: open settings are taken over, and the status shows
what was seen. Where settings cannot be taken over, the status is left alone. -/
def reflect (cr : Cluster) (remote : Platform.Cluster) : Cluster × Except Error Observation :=
  let canonical := ClusterSpec.ofPlatform remote cr.spec
  let initialized := cr.spec.lateInitialize canonical
  let cr := { cr with spec := initialized.spec }
  match initialized.error with
  | some error => (cr, .error error)
  | none =>
    let seen := ClusterObservation.ofPlatform remote
    ((cr.observed seen).record (.readiness seen.healthStatus.code),
      .ok (.present (cr.spec.isUpToDate canonical)))

/-- Looks at the cluster behind a custom resource. -/
def observe (instanceId : String) (cr : Cluster) :
    Program effects (Cluster × Except Error Observation) :=
  match cr.externalName? with
  | none => return (cr, .ok .absent)
  | some name => do
    match ← callPlatform (.getCluster instanceId name) with
    | .ok remote => return cr.reflect remote
    | .error _ => return (cr, .ok .absent)

/-- Creates the cluster that a custom resource asks for. -/
def create (policy : PollPolicy) (instanceId : String) (cr : Cluster) : Attempt Cluster := do
  let manifest ← Attempt.ofExcept cr.spec.toManifest?
  Attempt.platform (.applyCluster instanceId manifest)
  if cr.spec.hasTargetAccess then
    let manifests ← agentManifests policy instanceId cr.spec.name
    let _ ← Attempt.install cr.spec manifests false
  return cr.withExternalName manifest.metadata.name

/-- Changes the cluster to what a custom resource asks for. -/
def update (instanceId : String) (cr : Cluster) : Attempt Unit := do
  let manifest ← Attempt.ofExcept cr.spec.toManifest?
  Attempt.platform (.applyCluster instanceId manifest)

/-- Deletes the cluster behind a custom resource. -/
def delete (policy : PollPolicy) (instanceId : String) (cr : Cluster) : Attempt Unit :=
  match cr.externalName? with
  | none => return
  | some name => do
    if cr.spec.removeAgentResourcesOnDestroy && cr.spec.hasTargetAccess then
      let manifests ← agentManifests policy instanceId cr.spec.name
      let _ ← Attempt.install cr.spec manifests true
    Attempt.platform (.deleteCluster instanceId name)

end Cluster

end FleetOperator
