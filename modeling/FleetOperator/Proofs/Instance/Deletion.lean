import FleetOperator.Operator.World
import FleetOperator.Proofs.Instance.Runs
import FleetOperator.Proofs.Reconcile.Deletion

/-!
# Deleting instances

When the resource of a deleted instance is let go. Read `Instance.finalizer_removed_last` first: the
resource is let go only after the platform said that it does not know the instance or that it
deleted it, and after everything else was written back; otherwise the reconciliation fails.
-/

namespace FleetOperator.Instance

variable {rules : NormalizeRules} {cr live : Instance} {exchanged : List (Exchange effects)}

/-- Whether the exchanges of a pass let a resource go: it carries no name, or the platform said that
it does not know the instance, or it deleted the instance. -/
inductive Released (cr : Instance) (exchanged : List (Exchange effects)) : Prop
  | unnamed (hname : cr.externalName? = none)
  | unknown {name : String} (hname : cr.externalName? = some name) (what : String)
      (hunknown : ⟨.platform (.getInstance name), .error (.notFound what)⟩ ∈ exchanged)
  | deleted {name : String} (hname : cr.externalName? = some name)
      (hdeleted : ⟨.platform (.deleteInstance name), .ok ()⟩ ∈ exchanged)

/-- A retiring pass that goes well lets the resource go. -/
theorem released_of_retire {outcome : Outcome}
    (h : ((External.inst rules).retire cr).Runs exchanged (live, .ok outcome)) :
    Released cr exchanged := by
  obtain ⟨looking, looked, observation, hlook, hrest⟩ := External.retire_runs_ok h
  have hlook : Look rules cr looking (looked, .ok observation) := observe_runs hlook
  have hnames := hlook.names
  -- A look that goes well read the instance or was told that it does not exist.
  generalize hseen : (looked, Except.ok observation) = seen at hlook
  cases hlook with
  | unnamed hname => exact .unnamed hname
  | unknown hname what =>
      obtain ⟨-, rfl⟩ | ⟨hpresent, -⟩ := hrest
      · exact .unknown hname what (by simp)
      · cases hseen
        simp [Observation.absent] at hpresent
  | unread hname failure hfailure => simp at hseen
  | unexported hname inst failure => simp at hseen
  | read hname bundle =>
      obtain ⟨habsent, -⟩ | ⟨-, deleting, rfl, hdelete⟩ := hrest
      · have hread : (cr.reflect rules bundle).2 = .ok observation := by rw [← hseen]
        exact absurd (reflect_isPresent hread) (by simp [habsent])
      · have hdeleted := delete_runs_ok (hnames.2.trans hname) hdelete
        exact .deleted hname (by simp [hdeleted])

/-- Retiring an instance asks the API server of the operator's own cluster for nothing. -/
theorem retire_keeps_finalizer : ((External.inst rules).retire cr).Asks
    fun effect : Effect ↦ effect.removesFinalizer = false :=
  External.retire_asks (observe_asks fun _ _ ↦ ⟨rfl, rfl⟩) fun _ ↦ delete_asks fun _ _ ↦ rfl

/-- The resource of an instance that is being deleted. -/
def leaving : Instance where
  metadata := {
    name := some "prod", annotations := some (.ofList [(externalNameKey, "prod")])
    deletionTimestamp := some ⟨0⟩, finalizers := some [finalizerName] }
  spec := { name := "prod" }

/-- A world that holds the resource and its instance, and in which calls to the platform fail. -/
def leavingWorld (failures : Dict RemoteError) : World where
  platform := {
    instances := .ofList [("prod", { id := "i-1", name := "prod" })]
    exported := .ofList [("prod", {})], failures }
  kube := { objects := .ofList [(Kind.inst.path ++ "/prod", Kind.inst.codec.toJson leaving)] }

/-- The exchanges of the reconciliation of the resource. -/
def leavingExchanges (failures : Dict RemoteError) : List (Exchange effects) :=
  (reconcileInstance {} leaving).run.exchanges World.answer (leavingWorld failures)

end FleetOperator.Instance
