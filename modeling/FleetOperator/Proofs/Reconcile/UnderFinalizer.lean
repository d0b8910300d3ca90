import FleetOperator.Proofs.Operator.Access
import FleetOperator.Proofs.Reconcile.Concurrent

/-!
# Writes under the finalizer

When a reconciliation writes at all. Read `writes_under_finalizer` first: the platform is changed and
a workload cluster is reached only for a resource that carried the finalizer already, or after the
patch that adds it was accepted; a resource that is being deleted without the finalizer is left
alone; and a patch of the finalizers sends those of the copy with only the operator's own added or
removed. It holds of a reconciliation as it is, and of one that finds instances and installs agents
by requests to Kubernetes alone.
-/

namespace FleetOperator

open Resource (finalizerPatch)

/-- Whether an effect changes the platform or reaches a workload cluster. -/
def Effect.changesRemote : Effect → Bool
  | .platform request => request.isWrite
  | effect => effect.reachesTarget

/-- Whether an effect changes anything outside of the operator: the platform, a workload cluster, an
object of the operator's own cluster, or the events there. -/
def Effect.changes : Effect → Bool
  | .kube request => request.method != .get
  | .publish _ => true
  | effect => effect.changesRemote

/-- Whether a request sets the finalizers of an object. -/
def Kube.Request.setsFinalizers (request : Kube.Request) : Bool :=
  match request.method with
  | .patch _ body => ((body.get? "metadata").bind (·.get? "finalizers")).isSome
  | .get | .delete => false

/-- What changes nothing changes nothing remote. -/
theorem Effect.changes_of_changesRemote {effect : Effect} (h : effect.changesRemote = true) :
    effect.changes = true := by
  cases effect with
  | platform | install | workload => exact h
  | sleep | instanceName | kube | ownCluster | publish | count => cases h

/-- A request that sets finalizers changes something. -/
theorem Kube.Request.setsFinalizers_changes {request : Kube.Request}
    (h : request.setsFinalizers = true) : (Effect.kube request).changes = true := by
  unfold setsFinalizers at h
  split at h
  · next hmethod => simp [Effect.changes, hmethod]
  · cases h
  · cases h

namespace Effect.Serves

variable {effect asked : Effect}

/-- Only what serves a remote change is one. -/
theorem changesRemote (h : effect.Serves asked) (hasked : asked.changesRemote = true) :
    effect.changesRemote = true := by
  cases h with
  | self => exact hasked
  | looks | finds | counts => cases hasked
  | reaches h => exact h ▸ rfl

/-- Only what serves a change is one. -/
theorem changes (h : effect.Serves asked) (hasked : asked.changes = true) :
    effect.changes = true := by
  cases h with
  | self => exact hasked
  | looks request hread => simp [Effect.changes, hread] at hasked
  | finds | counts => cases hasked
  | reaches h => exact h ▸ rfl

/-- A request that sets finalizers is asked for itself. -/
theorem eq_of_setsFinalizers {request : Kube.Request} (h : effect.Serves (.kube request))
    (hsets : request.setsFinalizers = true) : effect = .kube request := by
  cases h with
  | self => rfl
  | looks _ hread => simp [Kube.Request.setsFinalizers, hread] at hsets

end Effect.Serves

variable {σ ω : Type} {kind : Kind σ ω} {cr : Resource σ ω} {exchanged : List (Exchange effects)}

/-- Whether an exchange is the patch that adds the finalizer to a resource, and was accepted. -/
def Exchange.AddsFinalizer (kind : Kind σ ω) (cr : Resource σ ω) (exchange : Exchange effects) :
    Prop :=
  exchange.call =
      .kube (cr.patchRequest kind "" (finalizerPatch (cr.finalizers ++ [finalizerName]))) ∧
    exchange.Accepted Kube.MetadataOnly.codec

/-- Whether the finalizer of a resource is respected: nothing remote is changed before the resource
carries it, nothing at all is changed for a resource that is being deleted without it, and the
finalizers that are sent are those of the resource with only the operator's own added at the end,
where it was missing, or removed. -/
structure UnderFinalizer (kind : Kind σ ω) (cr : Resource σ ω)
    (exchanged : List (Exchange effects)) : Prop where
  guarded : ∀ before exchange after, exchanged = before ++ exchange :: after →
    exchange.call.changesRemote = true →
      cr.hasFinalizer = true ∨ ∃ adding ∈ before, adding.AddsFinalizer kind cr
  untouched : cr.isDeleting = true → cr.hasFinalizer = false →
    ∀ exchange ∈ exchanged, exchange.call.changes = false
  patches : ∀ exchange ∈ exchanged, ∀ request, exchange.call = .kube request →
    request.setsFinalizers = true →
      (cr.isDeleting = false ∧ cr.hasFinalizer = false ∧
        request = cr.patchRequest kind "" (finalizerPatch (cr.finalizers ++ [finalizerName]))) ∨
      (cr.isDeleting = true ∧ cr.hasFinalizer = true ∧
        request = cr.patchRequest kind ""
          (finalizerPatch (cr.finalizers.filter (· != finalizerName))))

/-- Exchanges that change nothing may stand before others. -/
theorem UnderFinalizer.after {first : List (Exchange effects)}
    (h : UnderFinalizer kind cr exchanged)
    (hquiet : ∀ exchange ∈ first, exchange.call.changes = false) :
    UnderFinalizer kind cr (first ++ exchanged) := by
  constructor
  · intro before exchange after hsplit hchanges
    have hfirst : ∀ exchange ∈ first, ¬ exchange.call.changesRemote = true := by
      intro exchange hmem hremote
      have hnone := hquiet exchange hmem
      rw [Effect.changes_of_changesRemote hremote] at hnone
      cases hnone
    obtain ⟨between, rfl, hrest⟩ := exists_middle hfirst hchanges hsplit
    rcases h.guarded between exchange after hrest hchanges with hcarried | ⟨adding, hmem, hadds⟩
    · exact .inl hcarried
    · exact .inr ⟨adding, List.mem_append_right _ hmem, hadds⟩
  · intro hdeleting hfinalizer exchange hmem
    rcases List.mem_append.1 hmem with hmem | hmem
    · exact hquiet exchange hmem
    · exact h.untouched hdeleting hfinalizer exchange hmem
  · intro exchange hmem request hcall hsets
    rcases List.mem_append.1 hmem with hmem | hmem
    · have hnone := hquiet exchange hmem
      rw [hcall, Kube.Request.setsFinalizers_changes hsets] at hnone
      cases hnone
    · exact h.patches exchange hmem request hcall hsets

/-- The finalizer is respected by requests to Kubernetes alone if it is respected without them. -/
theorem UnderFinalizer.expanded {inner : List (Exchange effects)}
    (h : UnderFinalizer kind cr exchanged)
    (hexpanded : Program.Expanded accessKubernetes exchanged inner) :
    UnderFinalizer kind cr inner := by
  -- Each exchange serves one of those that are known, and the earlier ones of these are still there.
  have horigin : ∀ before exchange after, inner = before ++ exchange :: after →
      ∃ earlier origin later, exchanged = earlier ++ origin :: later ∧
        origin.call.Serves exchange.call ∧
        ∀ adding ∈ earlier, adding.AddsFinalizer kind cr → adding ∈ before := by
    intro before exchange after hsplit
    obtain ⟨earlier, origin, later, first, part, last, hexchanged, hearlier, rfl, hrun⟩ :=
      hexpanded.exists_origin hsplit
    refine ⟨earlier, origin, later, hexchanged, ?_, ?_⟩
    · exact (accessKubernetes_asks origin.call).runs hrun exchange (by simp)
    · intro adding hmem hadds
      refine List.mem_append_left _ (hearlier.mem ?_ hmem)
      rw [hadds.1]
      rfl
  have hserves : ∀ exchange ∈ inner, ∃ origin ∈ exchanged, origin.call.Serves exchange.call := by
    intro exchange hmem
    obtain ⟨before, after, hsplit⟩ := List.append_of_mem hmem
    obtain ⟨earlier, origin, later, rfl, hserves, -⟩ := horigin before exchange after hsplit
    exact ⟨origin, by simp, hserves⟩
  constructor
  · intro before exchange after hsplit hchanges
    obtain ⟨earlier, origin, later, hexchanged, hserves, hkept⟩ :=
      horigin before exchange after hsplit
    rcases h.guarded earlier origin later hexchanged (hserves.changesRemote hchanges) with
      hcarried | ⟨adding, hmem, hadds⟩
    · exact .inl hcarried
    · exact .inr ⟨adding, hkept adding hmem hadds, hadds⟩
  · intro hdeleting hfinalizer exchange hmem
    obtain ⟨origin, horigin, hserves⟩ := hserves exchange hmem
    refine Bool.eq_false_iff.2 fun hchanges ↦ ?_
    exact absurd (hserves.changes hchanges) (by simp [h.untouched hdeleting hfinalizer _ horigin])
  · intro exchange hmem request hcall hsets
    obtain ⟨origin, horigin, hserves⟩ := hserves exchange hmem
    rw [hcall] at hserves
    exact h.patches origin horigin request (hserves.eq_of_setsFinalizers hsets) hsets

/-! ## The reconciliation -/

/-- Making sure of a finalizer that is missing changes nothing remote, and goes well only if the
patch that adds it was accepted. -/
theorem Resource.ensureFinalizer_runs (hfinalizer : cr.hasFinalizer = false)
    {result : Except Error Outcome}
    (h : Program.Runs (I := effects) (ensureFinalizer kind cr).run exchanged result) :
    (∀ exchange ∈ exchanged, exchange.call.changesRemote = false) ∧
      ∀ outcome, result = .ok outcome → ∃ adding ∈ exchanged, adding.AddsFinalizer kind cr := by
  have heq : ensureFinalizer kind cr = (do
      patchFinalizers kind cr (cr.finalizers ++ [finalizerName])
      return .created) := by
    simp only [ensureFinalizer, hfinalizer, Bool.false_eq_true, if_false]
  rw [heq] at h
  constructor
  · intro exchange hmem
    rw [(patchFinalizers_asks kind cr _ _).runs h exchange hmem]
    rfl
  · intro outcome hok
    rw [hok] at h
    obtain ⟨first, value, last, hpatch, hdone, rfl⟩ := Attempt.runs_bind_ok h
    obtain ⟨adding, rfl, hcall, haccepted⟩ := patchFinalizers_runs_ok hpatch
    exact ⟨adding, List.mem_append_left _ List.mem_cons_self, hcall, haccepted⟩

section

variable [DecidableEq σ] [DecidableEq ω]

/-- No patch of writing back sets finalizers. -/
theorem setsFinalizers_of_needed {before after : Resource σ ω} {request : Kube.Request}
    (h : request ∈ neededPatches kind before after) : request.setsFinalizers = false := by
  unfold neededPatches neededMain neededStatus at h
  rcases List.mem_append.1 h with h | h
  · split at h
    · obtain rfl := List.mem_singleton.1 h
      rfl
    · cases h
  · split at h
    · obtain rfl := List.mem_singleton.1 h
      rfl
    · cases h

/-- A reconciliation respects the finalizer. -/
theorem drive_underFinalizer {external : Except Error (External σ ω)}
    (h : ∀ known, external = .ok known → known.Leaves) {requeue : Duration}
    {result : Except Error Action}
    (hrun : Program.Runs (I := effects) (drive kind requeue cr external).run exchanged result) :
    UnderFinalizer kind cr exchanged := by
  have hnothing : cr.isDeleting = true → cr.hasFinalizer = false → exchanged = [] := by
    intro hdeleting hfinalizer
    simp only [drive, hdeleting, hfinalizer, Bool.not_false, Bool.and_self, if_true] at hrun
    exact (Attempt.runs_pure_iff.1 hrun).1
  constructor
  · intro before exchange after hsplit hchanges
    cases hfinalizer : cr.hasFinalizer with
    | true => exact .inl rfl
    | false =>
        cases hdeleting : cr.isDeleting with
        | true => simp [hnothing hdeleting hfinalizer] at hsplit
        | false =>
            refine .inr ?_
            rw [drive_live hdeleting] at hrun
            rcases Attempt.runs_bind_iff.1 hrun with
              ⟨error, hfailed, -⟩ | ⟨first, outcome, rest, hadded, -, rfl⟩
            · -- The reconciliation ended with the finalizer, and so before anything remote.
              have hnone := (Resource.ensureFinalizer_runs hfinalizer hfailed).1 exchange
                (by simp [hsplit])
              rw [hchanges] at hnone
              cases hnone
            · obtain ⟨hfirst, hadds⟩ := Resource.ensureFinalizer_runs hfinalizer hadded
              obtain ⟨between, rfl, -⟩ := exists_middle (p := fun exchange : Exchange effects ↦
                exchange.call.changesRemote = true) (by simpa using hfirst) hchanges hsplit
              obtain ⟨adding, hmem, hadding⟩ := hadds outcome rfl
              exact ⟨adding, List.mem_append_left _ hmem, hadding⟩
  · intro hdeleting hfinalizer exchange hmem
    rw [hnothing hdeleting hfinalizer] at hmem
    cases hmem
  · intro exchange hmem request hcall hsets
    rcases drive_sends h hrun exchange hmem with haway | ⟨sent, hsent, hsends⟩
    · rw [hcall] at haway
      cases haway
    · obtain rfl := Effect.kube.inj (hcall.symm.trans hsent)
      cases hsends with
      | adding hdeleting hfinalizer => exact .inl ⟨hdeleting, hfinalizer, rfl⟩
      | writing hreached hneeded =>
          rw [setsFinalizers_of_needed hneeded] at hsets
          cases hsets
      | removing hdeleting hfinalizer => exact .inr ⟨hdeleting, hfinalizer, rfl⟩

end

/-- The reconciliations of clusters and instances respect the finalizer, whatever is answered to
them: as they are, and with instances found and agents installed by requests to Kubernetes alone. -/
theorem writes_under_finalizer {practice : Practice} {exchanged : List (Exchange effects)}
    {result : Except Error Action} :
    (∀ {cr : Cluster},
      Program.Runs (I := effects) (reconcileCluster practice cr).run exchanged result ∨
        ((reconcileCluster practice cr).run.interpret accessKubernetes).Runs exchanged result →
      UnderFinalizer Kind.cluster cr exchanged) ∧
      ∀ {cr : Instance},
        Program.Runs (I := effects) (reconcileInstance practice cr).run exchanged result ∨
          ((reconcileInstance practice cr).run.interpret accessKubernetes).Runs exchanged result →
        UnderFinalizer Kind.inst cr exchanged := by
  have hcluster : ∀ {cr : Cluster} {asked : List (Exchange effects)},
      Program.Runs (I := effects) (reconcileCluster practice cr).run asked result →
      UnderFinalizer Kind.cluster cr asked := by
    intro cr asked hrun
    obtain ⟨resolving, resolved, driving, hresolve, hdrive, rfl⟩ :=
      Cluster.reconcileCluster_runs hrun
    have hquiet : Program.Asks (I := effects) (Effect.changes · = false)
        cr.spec.resolveInstance.run :=
      Cluster.resolveInstance_asks (fun _ ↦ rfl) (fun _ ↦ rfl) cr.spec
    exact UnderFinalizer.after (drive_underFinalizer (Cluster.leaves_resolved practice.poll resolved)
      hdrive) (hquiet.runs hresolve)
  have hinst : ∀ {cr : Instance} {asked : List (Exchange effects)},
      Program.Runs (I := effects) (reconcileInstance practice cr).run asked result →
      UnderFinalizer Kind.inst cr asked :=
    fun hrun ↦ drive_underFinalizer (Instance.leaves_known practice.rules) hrun
  constructor
  · rintro cr (hrun | hrun)
    · exact hcluster hrun
    · obtain ⟨outer, hrun, hexpanded⟩ := Program.runs_interpret_iff.1 hrun
      exact (hcluster hrun).expanded hexpanded
  · rintro cr (hrun | hrun)
    · exact hinst hrun
    · obtain ⟨outer, hrun, hexpanded⟩ := Program.runs_interpret_iff.1 hrun
      exact (hinst hrun).expanded hexpanded

/-- The resource of a new cluster, which carries the finalizer of another client. -/
def unclaimed : Cluster where
  metadata := { name := some "prod", finalizers := some ["backup.io/finalizer"] }
  spec := { name := "prod", instanceRef := some { name := "main" } }

/-- The resource of the instance of this cluster. -/
def owning : Instance where
  metadata := { name := some "main" }
  spec := { name := "argo", argocd := some {} }

/-- A world that holds the two resources, and the instance. -/
def claimedWorld : World where
  platform := { instances := .ofList [("argo", { id := "i-1", name := "argo" })] }
  kube := {
    objects := .ofList [
      (Kind.cluster.path ++ "/prod", Kind.cluster.codec.toJson unclaimed),
      (Kind.inst.path ++ "/main", Kind.inst.codec.toJson owning)] }

/-- The exchanges of the reconciliation of the new cluster, by requests to Kubernetes alone. -/
def claiming : List (Exchange effects) :=
  ((reconcileCluster {} unclaimed).run.interpret accessKubernetes).exchanges World.answer claimedWorld

/-- The cluster and its instance are written, both times under the finalizer. -/
theorem writes_under_finalizer_claimed :
    unclaimed.hasFinalizer = false ∧ claiming.any (·.call.changesRemote) = true ∧
      UnderFinalizer Kind.cluster unclaimed claiming ∧ owning.hasFinalizer = false ∧
      ((reconcileInstance {} owning).run.exchanges World.answer claimedWorld).any
        (·.call.changesRemote) = true ∧
      UnderFinalizer Kind.inst owning
        ((reconcileInstance {} owning).run.exchanges World.answer claimedWorld) := by
  refine ⟨by decide, by decide +kernel, ?_, by decide, by decide +kernel, ?_⟩
  · exact writes_under_finalizer.1 (.inr (Program.runs_exchanges World.answer _ claimedWorld))
  · exact writes_under_finalizer.2 (.inl (Program.runs_exchanges World.answer _ claimedWorld))

end FleetOperator
