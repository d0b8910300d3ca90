import FleetOperator.Cluster.Remote
import FleetOperator.Instance.Remote

/-!
# Passes

A pass brings the remote object behind a custom resource to where it should be. Converging creates
what is missing and changes what differs; retiring deletes what is there. A pass changes the custom
resource on the way, and what it has changed stays changed when it fails.
-/

namespace FleetOperator

/-- What can be done with the remote object behind a custom resource. -/
structure External (σ ω : Type) where
  observe : Resource σ ω → Program effects (Resource σ ω × Except Error Observation)
  create : Resource σ ω → Attempt (Resource σ ω)
  update : Resource σ ω → Attempt Unit
  delete : Resource σ ω → Attempt Unit

/-- Clusters of an instance, given by its identifier. -/
def External.cluster (policy : PollPolicy) (instanceId : String) :
    External ClusterSpec ClusterObservation where
  observe := Cluster.observe instanceId
  create := Cluster.create policy instanceId
  update := Cluster.update instanceId
  delete := Cluster.delete policy instanceId

/-- Instances. -/
def External.inst (rules : NormalizeRules) : External InstanceSpec InstanceObservation where
  observe := Instance.observe rules
  create := Instance.create
  update := Instance.update
  delete := Instance.delete

namespace External

variable {σ ω : Type}

/-- Creates what is missing and changes what differs. -/
def converge (external : External σ ω) (cr : Resource σ ω) :
    Program effects (Resource σ ω × Except Error Outcome) := do
  let (cr, seen) ← external.observe cr
  match seen with
  | .error error => return (cr, .error error)
  | .ok observation =>
    if !observation.isPresent then
      match ← (external.create cr).run with
      | .ok created => return (created.record .creating, .ok .created)
      | .error error => return (cr, .error error)
    else if !observation.upToDate then
      match ← (external.update cr).run with
      | .ok () => return (cr, .ok .updated)
      | .error error => return (cr, .error error)
    else return (cr, .ok .noOp)

/-- Deletes what is there. -/
def retire (external : External σ ω) (cr : Resource σ ω) :
    Program effects (Resource σ ω × Except Error Outcome) := do
  let (cr, seen) ← external.observe cr
  match seen with
  | .error error => return (cr, .error error)
  | .ok observation =>
    let cr := cr.record .deleting
    if !observation.isPresent then return (cr, .ok .noOp)
    else
      match ← (external.delete cr).run with
      | .ok () => return (cr, .ok .deleted)
      | .error error => return (cr, .error error)

end External

/-- A custom resource with the condition that tells how its pass went. -/
def Resource.markSynced {σ ω : Type} (cr : Resource σ ω) (result : Except Error Outcome) :
    Resource σ ω :=
  cr.record (match result with
    | .ok _ => .reconcileSuccess
    | .error error => .reconcileError error.message)

end FleetOperator
