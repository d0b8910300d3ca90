import FleetOperator.Reconcile.Finalizer
import FleetOperator.Reconcile.Pass

/-!
# Reconciling a resource

One reconciliation of a custom resource: the finalizer is made sure of, a pass is run on a copy of
the resource, what the pass changed is written back, an event tells what happened, and at the end of
a deletion the finalizer is removed. A resource that is being deleted and does not carry the
finalizer is left alone.
-/

namespace FleetOperator

/-- When a resource is to be looked at again. -/
inductive Action where
  | awaitChange
  | requeue (delay : Duration)
deriving DecidableEq, Repr

/-- The delay after a reconciliation that failed. -/
def errorDelay : Duration := .ofSeconds 10

section

variable {σ ω : Type} [DecidableEq σ] [DecidableEq ω]

/-- The annotations of a resource, none when they are absent. -/
def Resource.annotations (cr : Resource σ ω) : Dict String := cr.metadata.annotations.getD .empty

/-- The patch that sets the annotations and the specification of a resource. -/
def Resource.mainPatch (kind : Kind σ ω) (cr : Resource σ ω) : Json :=
  .object [("metadata", .object [("annotations", (Codec.dict .text).toJson cr.annotations)]),
    ("spec", kind.spec.toJson cr.spec)]

/-- The patch that sets the status of a resource. -/
def Resource.statusPatch (kind : Kind σ ω) (cr : Resource σ ω) : Json :=
  .object [("status", (Status.codec kind.observation).optional.toJson cr.status)]

/-- Writes back what a pass changed: annotations and specification to the resource, the status to
its status. -/
def persist (kind : Kind σ ω) (before after : Resource σ ω) : Attempt Unit := do
  if before.annotations ≠ after.annotations ∨ before.spec ≠ after.spec then
    let _ ← Attempt.kube
      (homeClient.merge kind.codec kind.path after.name (after.mainPatch kind))
  if before.status ≠ after.status then
    let _ ← Attempt.kube
      (homeClient.mergeStatus kind.codec kind.path after.name (after.statusPatch kind))

/-- A pass on a copy of a resource, after which the changes of the copy are written back. A pass that
failed keeps its error, also when writing back fails too. -/
def syncPass (kind : Kind σ ω) (cr : Resource σ ω) (external : Except Error (External σ ω)) :
    Attempt Outcome :=
  .mk do
    let (live, result) ← match external with
      | .error error => pure (cr, .error error)
      | .ok external => if cr.isDeleting then external.retire cr else external.converge cr
    match ← (persist kind cr (live.markSynced result)).run, result with
    | .error error, .ok _ => return .error error
    | _, _ => return result

/-- The note of the event of a pass that changed something. -/
def syncedNote (kind : Kind σ ω) (cr : Resource σ ω) : String :=
  kind.name ++ " " ++ cr.name ++ " synchronized with the Akuity Platform"

/-- Tells the outcome of a step by an event, unless it changed nothing. -/
def withEvent (kind : Kind σ ω) (cr : Resource σ ω) (step : Attempt Outcome) : Attempt Outcome :=
  .mk do
    let event (isWarning : Bool) (reason note : String) : Event :=
      { isWarning, reason, note, kind := kind.name, name := cr.name }
    match ← step.run with
    | .ok outcome =>
      match outcome.reason? with
      | some reason => publish (event false reason (syncedNote kind cr))
      | none => pure ()
      return .ok outcome
    | .error error =>
      publish (event true "ReconcileError" error.message)
      return .error error

/-- One reconciliation of a resource. -/
def drive (kind : Kind σ ω) (requeue : Duration) (cr : Resource σ ω)
    (external : Except Error (External σ ω)) : Attempt Action :=
  if cr.isDeleting && !cr.hasFinalizer then return .awaitChange
  else do
    if !cr.isDeleting then
      let _ ← Resource.ensureFinalizer kind cr
    let outcome ← withEvent kind cr (syncPass kind cr external)
    if cr.isDeleting then
      let _ ← Resource.removeFinalizer kind cr
    count (.reconciliations kind.name outcome.text) 1
    return if cr.isDeleting then .awaitChange else .requeue requeue

/-- What follows from the result of a reconciliation: a failed one is counted, and tried again. -/
def settle (kind : Kind σ ω) (result : Except Error Action) : Program effects Action :=
  match result with
  | .ok action => return action
  | .error _ => do
    count (.reconciliations kind.name "error") 1
    return .requeue errorDelay

end

/-- How the operator works: the delay after a reconciliation that went well, how it waits for
clusters, and its rules for normalizing. -/
structure Practice where
  requeue : Duration := .ofSeconds 60
  poll : PollPolicy := {}
  rules : NormalizeRules := {}

/-- One reconciliation of a cluster. An instance that cannot be found fails the pass only. -/
def reconcileCluster (practice : Practice) (cr : Cluster) : Attempt Action :=
  .mk do
    let external := (← cr.spec.resolveInstance.run).map (External.cluster practice.poll)
    (drive Kind.cluster practice.requeue cr external).run

/-- One reconciliation of an instance. -/
def reconcileInstance (practice : Practice) (cr : Instance) : Attempt Action :=
  drive Kind.inst practice.requeue cr (.ok (External.inst practice.rules))

end FleetOperator
