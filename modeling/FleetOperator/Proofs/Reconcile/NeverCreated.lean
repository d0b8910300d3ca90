import FleetOperator.Proofs.Reconcile.Accepted
import FleetOperator.Proofs.Reconcile.Concurrent
import FleetOperator.Proofs.Reconcile.Persisted

/-!
# Deleting resources that were never created

Whether a resource is let go whose remote object was never created. Read
`Cluster.unnamed_released_iff_resolved` first: the resource of a cluster is let go exactly if its
instance is found, although there is nothing to delete. The resource of an instance is always let
go: `Instance.unnamed_released`.
-/

namespace FleetOperator

variable {exchanged : List (Exchange effects)} {result : Except Error Action} {practice : Practice}

/-- A retiring pass over what is absent asks what the look asks, and goes well. -/
theorem External.retire_runs_absent {σ ω : Type} {external : External σ ω} {cr live : Resource σ ω}
    {passed : Except Error Outcome} (hlook : external.observe cr = pure (cr, .ok .absent))
    (h : (external.retire cr).Runs exchanged (live, passed)) :
    exchanged = [] ∧ passed = .ok .noOp := by
  rw [retire_eq, hlook] at h
  obtain ⟨rfl, hpassed⟩ := Program.runs_pure_iff.1 h
  exact ⟨rfl, (Prod.mk.inj hpassed).2⟩

namespace Cluster

variable {cr : Cluster}

/-- A pass over the resource of a cluster that is being deleted and was never created asks nothing,
and goes well exactly if the instance was found. -/
theorem passOver_unnamed {policy : PollPolicy} {resolved : Except Error String} {live : Cluster}
    {passed : Except Error Outcome} (hdeleting : cr.isDeleting = true)
    (hname : cr.externalName? = none)
    (h : (passOver (resolved.map (External.cluster policy)) cr).Runs exchanged (live, passed)) :
    exchanged = [] ∧ passed = resolved.map fun _ ↦ .noOp := by
  cases resolved with
  | error error =>
      obtain ⟨rfl, hpassed⟩ := Program.runs_pure_iff.1 h
      exact ⟨rfl, (Prod.mk.inj hpassed).2⟩
  | ok instanceId =>
      simp only [passOver, Except.map, hdeleting, if_true] at h
      refine External.retire_runs_absent ?_ h
      simp only [External.cluster, observe, hname]

/-- The resource of a cluster that is being deleted and was never created, where every patch is
accepted: the platform is not changed, and the reconciliation goes well and removes the finalizer if
the instance is found, as it is if the specification gives its identifier. If the instance is not
found, the reconciliation fails in the same way and the finalizer stays. -/
theorem unnamed_released_iff_resolved (hdeleting : cr.isDeleting = true)
    (hfinalizer : cr.hasFinalizer = true) (hname : cr.externalName? = none)
    (haddress : Kind.cluster.Addresses cr)
    (hrun : Program.Runs (I := effects) (reconcileCluster practice cr).run exchanged result)
    (hfine : ∀ exchange ∈ exchanged, exchange.isTaken Kind.cluster = true) :
    (∀ exchange ∈ exchanged, ¬ exchange.call.isWrite) ∧
      (∀ id, cr.spec.instanceId = some id → id ≠ "" → result = .ok .awaitChange) ∧
      ∃ resolving resolved driving,
        Program.Runs (I := effects) cr.spec.resolveInstance.run resolving resolved ∧
        exchanged = resolving ++ driving ∧
        (∀ instanceId, resolved = .ok instanceId → result = .ok .awaitChange ∧
          ∃ removal ∈ driving, removal.call = .kube (cr.patchRequest Kind.cluster ""
            (Resource.finalizerPatch (cr.finalizers.filter (· != finalizerName))))) ∧
        ∀ error, resolved = .error error → result = .error error ∧
          ∀ exchange ∈ exchanged, exchange.call.removesFinalizer = false := by
  obtain ⟨resolving, resolved, driving, hresolve, hdrive, rfl⟩ := reconcileCluster_runs hrun
  obtain ⟨passing, live, passed, rest, hpass, rfl, hrest, hreleased, hkept⟩ :=
    drive_accepted (leaves_resolved practice.poll resolved) hdeleting hfinalizer haddress hdrive
      fun exchange hmem ↦ hfine exchange (List.mem_append_right _ hmem)
  obtain ⟨rfl, rfl⟩ := passOver_unnamed hdeleting hname hpass
  have hquiet : cr.spec.resolveInstance.run.Quiet :=
    resolveInstance_asks (fun _ ↦ id) (fun _ ↦ by simp [Effect.isWrite, Platform.Request.isWrite])
      cr.spec
  have hreads : ∀ exchange ∈ resolving, ¬ exchange.call.isWrite := hquiet.runs hresolve
  refine ⟨?_, ?_, resolving, resolved, rest, hresolve, rfl, ?_, ?_⟩
  · intro exchange hmem
    rcases List.mem_append.1 hmem with hmem | hmem
    · exact hreads exchange hmem
    · exact hrest exchange hmem
  · intro id hid hne
    have hgiven : cr.spec.resolveInstance = pure id := by
      simp [ClusterSpec.resolveInstance, hid, Option.filter, hne]
    rw [hgiven] at hresolve
    obtain ⟨-, rfl⟩ := Attempt.runs_pure_iff.1 hresolve
    exact (hreleased .noOp rfl).1
  · rintro instanceId rfl
    exact hreleased .noOp rfl
  · rintro error rfl
    obtain ⟨hresult, hnone⟩ := hkept error rfl
    refine ⟨hresult, fun exchange hmem ↦ ?_⟩
    rcases List.mem_append.1 hmem with hmem | hmem
    · exact (resolveInstance_keeps_finalizer cr.spec).runs hresolve exchange hmem
    · exact hnone exchange hmem

/-- The resource of a cluster that is being deleted and was never created, and whose instance is
gone. -/
def forsaken : Cluster where
  metadata := {
    name := some "prod", deletionTimestamp := some ⟨0⟩, finalizers := some [finalizerName] }
  spec := { name := "prod", instanceRef := some { name := "gone" } }

/-- The exchanges of the reconciliation of a deletion in a world that holds the resource. -/
def releasing (cr : Cluster) : List (Exchange effects) :=
  (reconcileCluster {} cr).run.exchanges World.answer (holding cr)

/-- A resource whose instance is gone stays, although Kubernetes accepts everything and there is
nothing to delete. With the identifier of the instance it is let go. -/
theorem unnamed_released_iff_resolved_forsaken :
    let given : Cluster := { forsaken with
      spec := { forsaken.spec with instanceId := some "inst-1" } }
    ((reconcileCluster {} forsaken).run.run World.answer (holding forsaken)).1.isOk = false ∧
      (∀ exchange ∈ releasing forsaken, exchange.isTaken Kind.cluster = true ∧
        ¬ exchange.call.isWrite ∧ exchange.call.removesFinalizer = false) ∧
      ((reconcileCluster {} given).run.run World.answer (holding given)).1 = .ok .awaitChange := by
  intro given
  have hrun : ∀ cr : Cluster, Program.Runs (I := effects) (reconcileCluster {} cr).run
      (releasing cr) ((reconcileCluster {} cr).run.run World.answer (holding cr)).1 :=
    fun cr ↦ Program.runs_exchanges World.answer _ _
  have htaken : ∀ exchange ∈ releasing forsaken, exchange.isTaken Kind.cluster = true := by
    decide +kernel
  have hfails : ((reconcileCluster {} forsaken).run.run World.answer
      (holding forsaken)).1.isOk = false := by decide +kernel
  obtain ⟨hwrites, -, resolving, resolved, driving, -, -, hreleased, hkept⟩ :=
    unnamed_released_iff_resolved (by decide) (by decide) (by decide) ⟨by decide, by decide⟩
      (hrun forsaken) htaken
  obtain ⟨-, hgiven, -⟩ :=
    unnamed_released_iff_resolved (by decide) (by decide) (by decide) ⟨by decide, by decide⟩
      (hrun given) (by decide +kernel)
  refine ⟨hfails, fun exchange hmem ↦ ⟨htaken exchange hmem, hwrites exchange hmem, ?_⟩,
    hgiven "inst-1" rfl (by decide)⟩
  cases resolved with
  | ok instanceId =>
      rw [(hreleased instanceId rfl).1] at hfails
      cases hfails
  | error error => exact (hkept error rfl).2 exchange hmem

end Cluster

/-- The resource of an instance that is being deleted and was never created is let go where every
patch is accepted, and the platform is not changed. -/
theorem Instance.unnamed_released {cr : Instance} (hdeleting : cr.isDeleting = true)
    (hfinalizer : cr.hasFinalizer = true) (hname : cr.externalName? = none)
    (haddress : Kind.inst.Addresses cr)
    (hrun : Program.Runs (I := effects) (reconcileInstance practice cr).run exchanged result)
    (hfine : ∀ exchange ∈ exchanged, exchange.isTaken Kind.inst = true) :
    result = .ok .awaitChange ∧ (∀ exchange ∈ exchanged, ¬ exchange.call.isWrite) ∧
      ∃ removal ∈ exchanged, removal.call = .kube (cr.patchRequest Kind.inst ""
        (Resource.finalizerPatch (cr.finalizers.filter (· != finalizerName)))) := by
  obtain ⟨passing, live, passed, rest, hpass, rfl, hrest, hreleased, -⟩ :=
    drive_accepted (leaves_known practice.rules) hdeleting hfinalizer haddress hrun hfine
  simp only [passOver, hdeleting, if_true] at hpass
  obtain ⟨rfl, rfl⟩ := External.retire_runs_absent
    (by simp only [External.inst, observe, hname]) hpass
  obtain ⟨hresult, hremoval⟩ := hreleased .noOp rfl
  exact ⟨hresult, hrest, hremoval⟩

end FleetOperator
