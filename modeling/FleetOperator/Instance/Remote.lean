import FleetOperator.Bridge.Instance
import FleetOperator.Drift.Basic
import FleetOperator.Drift.LateInit
import FleetOperator.Operator.Effect

/-!
# Instances on the platform

Looking at the instance behind a custom resource, creating it, changing it and deleting it. Only the
platform's word that there is no such instance counts as no instance.
-/

namespace FleetOperator.Instance

/-- A custom resource after its instance was read: open settings are taken over, and the status
shows what was seen. The first step that fails leaves the rest undone. -/
def reflect (rules : NormalizeRules) (cr : Instance) (bundle : Platform.InstanceBundle) :
    Instance × Except Error Observation :=
  match InstanceSpec.ofPlatform? bundle with
  | .error error => (cr, .error error)
  | .ok canonical =>
    let initialized := cr.spec.lateInitialize canonical
    let cr := { cr with spec := initialized.spec }
    match initialized.error, InstanceObservation.ofPlatform? bundle with
    | some error, _ | none, .error error => (cr, .error error)
    | none, .ok seen =>
      ((cr.observed seen).record (.readiness seen.healthStatus.code),
        .ok (.present (cr.spec.isUpToDate rules canonical)))

/-- Looks at the instance behind a custom resource. -/
def observe (rules : NormalizeRules) (cr : Instance) :
    Program effects (Instance × Except Error Observation) :=
  match cr.externalName? with
  | none => return (cr, .ok .absent)
  | some name => do
    match ← callPlatform (.getInstance name) with
    | .error (.notFound _) => return (cr, .ok .absent)
    | .error failure => return (cr, .error (.ofRemote failure))
    | .ok inst =>
      match ← callPlatform (.exportInstance name) with
      | .error failure => return (cr, .error (.ofRemote failure))
      | .ok exported => return cr.reflect rules { inst, exported }

/-- Creates the instance that a custom resource asks for. -/
def create (cr : Instance) : Attempt Instance := do
  let request ← Attempt.ofExcept cr.spec.toRequest?
  Attempt.platform (.applyInstance request)
  return cr.withExternalName request.id

/-- Changes the instance to what a custom resource asks for. -/
def update (cr : Instance) : Attempt Unit := do
  let request ← Attempt.ofExcept cr.spec.toRequest?
  Attempt.platform (.applyInstance request)

/-- Deletes the instance behind a custom resource. -/
def delete (cr : Instance) : Attempt Unit :=
  match cr.externalName? with
  | none => return
  | some name => Attempt.platform (.deleteInstance name)

end FleetOperator.Instance
