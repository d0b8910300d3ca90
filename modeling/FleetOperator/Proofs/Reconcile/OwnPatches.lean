import FleetOperator.Proofs.Reconcile.Identity
import FleetOperator.Proofs.Reconcile.History
import FleetOperator.Proofs.Reconcile.Undisturbed

/-!
# Patches of a reconciliation

Which patches a reconciliation sends to its resource. Read `drive_sends` first: apart from those
that write the pass back, there is one that adds the finalizer before the pass or one that removes
it afterwards. A pass itself sends none, and of the metadata it changes the name of the remote
object at most: `External.Leaves`.
-/

namespace FleetOperator

variable {σ ω : Type}

/-- Whether an effect is a request to the operator's own cluster. -/
def Effect.isHome : Effect → Bool
  | .kube _ => true
  | _ => false

/-- What is no request to the operator's own cluster is no patch of an object there. -/
theorem Effect.patch?_of_not_home {effect : Effect} (h : effect.isHome = false) (path : String) :
    effect.patch? path = none := by
  cases effect <;> first | rfl | exact absurd h (by simp [isHome])

/-- Only the patch of a patching request is sent to an object. -/
theorem Resource.patch?_patchRequest {kind : Kind σ ω} {cr : Resource σ ω} {part path : String}
    {body patch : Json}
    (h : (Effect.kube (cr.patchRequest kind part body)).patch? path = some patch) :
    patch = body := by
  simp only [Resource.patchRequest, Effect.patch?] at h
  split at h
  · exact (Option.some.inj h).symm
  · simp at h

/-- Whether metadata are others with nothing changed but the name of the remote object. -/
def Metadata.Renames (metadata old : Metadata) : Prop :=
  metadata = old ∨ ∃ name, metadata = old.annotate externalNameKey name

namespace External

/-- What is done with a remote object asks nothing of the operator's own cluster. A look leaves the
metadata of a resource as they are, and a creation puts the name of the remote object there. -/
structure Leaves (external : External σ ω) : Prop where
  looks : ∀ cr, (external.observe cr).Asks (Effect.isHome · = false)
  creates : ∀ cr, Program.Asks (I := effects) (Effect.isHome · = false) (external.create cr).run
  updates : ∀ cr, Program.Asks (I := effects) (Effect.isHome · = false) (external.update cr).run
  deletes : ∀ cr, Program.Asks (I := effects) (Effect.isHome · = false) (external.delete cr).run
  looked : ∀ {cr exchanged looked}, (external.observe cr).Runs exchanged looked →
    looked.1.metadata = cr.metadata
  created : ∀ {cr exchanged created},
    Program.Runs (I := effects) (external.create cr).run exchanged (.ok created) →
      ∃ name, created = cr.withExternalName name

variable {external : External σ ω} {cr live : Resource σ ω} {exchanged : List (Exchange effects)}
  {result : Except Error Outcome}

/-- What a converging pass does once it has seen the remote object changes of the metadata the name
of the remote object at most. -/
theorem Leaves.act_renames (h : external.Leaves) {seen : Except Error Observation}
    (hrun : (external.act cr seen).Runs exchanged (live, result)) :
    live.metadata.Renames cr.metadata := by
  have hsame : ∀ {other : Except Error Outcome}, (live, result) = (cr, other) →
      live.metadata.Renames cr.metadata := by
    intro other heq
    exact .inl (congrArg Resource.metadata (Prod.mk.inj heq).1)
  cases seen with
  | error error => exact hsame (Program.runs_pure_iff.1 hrun).2
  | ok observation =>
      simp only [act] at hrun
      split at hrun
      · obtain ⟨first, made, second, hcreate, hdone, -⟩ := Program.runs_bind_iff.1 hrun
        cases made with
        | error error => exact hsame (Program.runs_pure_iff.1 hdone).2
        | ok created =>
            obtain ⟨-, hlive⟩ := Program.runs_pure_iff.1 hdone
            obtain ⟨name, rfl⟩ := h.created hcreate
            exact .inr ⟨name, congrArg Resource.metadata (Prod.mk.inj hlive).1⟩
      · split at hrun
        · obtain ⟨first, changed, second, -, hdone, -⟩ := Program.runs_bind_iff.1 hrun
          cases changed <;> exact hsame (Program.runs_pure_iff.1 hdone).2
        · exact hsame (Program.runs_pure_iff.1 hrun).2

/-- Removing what a retiring pass has seen leaves the metadata as they are. -/
theorem remove_metadata {seen : Except Error Observation}
    (hrun : (external.remove cr seen).Runs exchanged (live, result)) :
    live.metadata = cr.metadata := by
  have hsame : ∀ {other : Resource σ ω} {outcome : Except Error Outcome},
      other.metadata = cr.metadata → (live, result) = (other, outcome) →
      live.metadata = cr.metadata := by
    intro other outcome hother heq
    rw [(Prod.mk.inj heq).1, hother]
  cases seen with
  | error error => exact hsame rfl (Program.runs_pure_iff.1 hrun).2
  | ok observation =>
      have hrecord : (cr.record .deleting).metadata = cr.metadata := rfl
      simp only [remove] at hrun
      split at hrun
      · exact hsame hrecord (Program.runs_pure_iff.1 hrun).2
      · obtain ⟨first, deleted, second, -, hdone, -⟩ := Program.runs_bind_iff.1 hrun
        cases deleted <;> exact hsame hrecord (Program.runs_pure_iff.1 hdone).2

end External

/-! ## The pass -/

section

variable {external : Except Error (External σ ω)} {cr : Resource σ ω}
  {exchanged : List (Exchange effects)}

/-- A pass asks nothing of the operator's own cluster. -/
theorem passOver_asks (h : ∀ known, external = .ok known → known.Leaves) (cr : Resource σ ω) :
    (passOver external cr).Asks (Effect.isHome · = false) := by
  cases external with
  | error error => trivial
  | ok known =>
      have hknown := h known rfl
      simp only [passOver]
      split
      · exact External.retire_asks (hknown.looks cr) hknown.deletes
      · exact Program.Asks.bind (hknown.looks cr) fun seen ↦
          External.act_asks (hknown.creates _) (hknown.updates _) seen.2

/-- A pass changes of the metadata the name of the remote object at most. -/
theorem passOver_renames (h : ∀ known, external = .ok known → known.Leaves)
    {live : Resource σ ω} {result : Except Error Outcome}
    (hrun : (passOver external cr).Runs exchanged (live, result)) :
    live.metadata.Renames cr.metadata := by
  cases external with
  | error error =>
      obtain ⟨-, heq⟩ := Program.runs_pure_iff.1 hrun
      exact .inl (congrArg Resource.metadata (Prod.mk.inj heq).1)
  | ok known =>
      have hknown := h known rfl
      simp only [passOver] at hrun
      split at hrun
      · rw [External.retire_eq] at hrun
        obtain ⟨looking, looked, rest, hlook, hrest, -⟩ := Program.runs_bind_iff.1 hrun
        exact .inl ((External.remove_metadata hrest).trans (hknown.looked hlook))
      · rw [External.converge_eq] at hrun
        obtain ⟨looking, looked, rest, hlook, hrest, -⟩ := Program.runs_bind_iff.1 hrun
        have hrenames := hknown.act_renames hrest
        rwa [hknown.looked hlook] at hrenames

end

/-! ## The reconciliation -/

/-- Whether a pass over a resource can make another resource of it, in any world. -/
def Reached (external : Except Error (External σ ω)) (cr after : Resource σ ω) : Prop :=
  ∃ passing live passed, (passOver external cr).Runs passing (live, passed) ∧
    after = live.markSynced passed

/-- What a pass makes of a resource has its metadata, but for the name of the remote object. -/
theorem Reached.renames {external : Except Error (External σ ω)} {cr after : Resource σ ω}
    (h : ∀ known, external = .ok known → known.Leaves) (hreached : Reached external cr after) :
    after.metadata.Renames cr.metadata := by
  obtain ⟨passing, live, passed, hrun, rfl⟩ := hreached
  have hlive : (live.markSynced passed).metadata = live.metadata := rfl
  rw [hlive]
  exact passOver_renames h hrun

section

variable [DecidableEq σ] [DecidableEq ω]

/-- The requests by which a reconciliation changes its resource: it adds the finalizer to a resource
that is not being deleted and lacks it, it writes a pass back, and it removes the finalizer from a
resource that is being deleted and carries it. -/
inductive Sends (kind : Kind σ ω) (external : Except Error (External σ ω)) (cr : Resource σ ω) :
    Kube.Request → Prop
  | adding (hdeleting : cr.isDeleting = false) (hfinalizer : cr.hasFinalizer = false) :
      Sends kind external cr
        (cr.patchRequest kind "" (Resource.finalizerPatch (cr.finalizers ++ [finalizerName])))
  | writing {after : Resource σ ω} (hreached : Reached external cr after) {request : Kube.Request}
      (hneeded : request ∈ neededPatches kind cr after) : Sends kind external cr request
  | removing (hdeleting : cr.isDeleting = true) (hfinalizer : cr.hasFinalizer = true) :
      Sends kind external cr (cr.patchRequest kind ""
        (Resource.finalizerPatch (cr.finalizers.filter (· != finalizerName))))

/-- Whether an exchange is none with the operator's own cluster, or one of these requests. -/
def Exchange.IsOwn (kind : Kind σ ω) (external : Except Error (External σ ω)) (cr : Resource σ ω)
    (exchange : Exchange effects) : Prop :=
  Effect.isHome exchange.call = false ∨
    ∃ request, exchange.call = .kube request ∧ Sends kind external cr request

variable {kind : Kind σ ω} {external : Except Error (External σ ω)} {cr : Resource σ ω}
  {exchanged : List (Exchange effects)}

/-- Telling the outcome of a pass and writing it back sends such requests alone. -/
theorem pass_sends (h : ∀ known, external = .ok known → known.Leaves)
    {result : Except Error Outcome}
    (hrun : Program.Runs (I := effects) (withEvent kind cr (syncPass kind cr external)).run
      exchanged result) : ∀ exchange ∈ exchanged, exchange.IsOwn kind external cr := by
  obtain ⟨working, telling, hwork, rfl, htelling⟩ := withEvent_runs hrun
  obtain ⟨passing, live, passed, writing, written, hpass, hwrite, rfl, -⟩ := syncPass_runs hwork
  intro exchange hexchange
  rcases List.mem_append.1 hexchange with hexchange | hexchange
  · rcases List.mem_append.1 hexchange with hexchange | hexchange
    · exact .inl ((passOver_asks h cr).runs hpass exchange hexchange)
    · obtain ⟨request, hneeded, heq⟩ := (persist_asks kind cr _).runs hwrite exchange hexchange
      exact .inr ⟨request, heq, .writing ⟨passing, live, passed, hpass, rfl⟩ hneeded⟩
  · obtain ⟨event, heq⟩ := htelling exchange hexchange
    rw [Exchange.IsOwn, heq]
    exact .inl rfl

omit [DecidableEq σ] [DecidableEq ω] in
/-- Setting the finalizers asks for the patch of the finalizers at most. -/
theorem patchFinalizers_asks (kind : Kind σ ω) (cr : Resource σ ω) (finalizers : List String)
    (outcome : Outcome) :
    Program.Asks (I := effects)
      (· = .kube (cr.patchRequest kind "" (Resource.finalizerPatch finalizers)))
      (do
        Resource.patchFinalizers kind cr finalizers
        return outcome : Attempt Outcome).run := by
  refine Attempt.asks_bind (Program.Asks.bind (object_asks rfl) ?_) fun _ ↦ trivial
  rintro (failure | value) <;> trivial

/-- Making sure of the finalizer sends the request that adds it at most. -/
theorem ensureFinalizer_sends (hdeleting : cr.isDeleting = false) {result : Except Error Outcome}
    (hrun : Program.Runs (I := effects) (Resource.ensureFinalizer kind cr).run exchanged result) :
    ∀ exchange ∈ exchanged, exchange.IsOwn kind external cr := by
  unfold Resource.ensureFinalizer at hrun
  split at hrun
  · obtain ⟨rfl, -⟩ := Attempt.runs_pure_iff.1 hrun
    simp
  · next hfinalizer =>
    intro exchange hexchange
    exact .inr ⟨_, (patchFinalizers_asks kind cr _ _).runs hrun exchange hexchange,
      .adding hdeleting (by simpa using hfinalizer)⟩

/-- Removing the finalizer sends the request that removes it at most. -/
theorem removeFinalizer_sends (hdeleting : cr.isDeleting = true) {result : Except Error Outcome}
    (hrun : Program.Runs (I := effects) (Resource.removeFinalizer kind cr).run exchanged result) :
    ∀ exchange ∈ exchanged, exchange.IsOwn kind external cr := by
  unfold Resource.removeFinalizer at hrun
  split at hrun
  · obtain ⟨rfl, -⟩ := Attempt.runs_pure_iff.1 hrun
    simp
  · next hfinalizer =>
    intro exchange hexchange
    exact .inr ⟨_, (patchFinalizers_asks kind cr _ _).runs hrun exchange hexchange,
      .removing hdeleting (by simpa using hfinalizer)⟩

/-- A reconciliation of a resource that is not being deleted makes sure of the finalizer and then
runs a pass whose outcome is told. -/
theorem drive_live (hdeleting : cr.isDeleting = false) (requeue : Duration)
    (external : Except Error (External σ ω)) :
    drive kind requeue cr external = (do
      let _ ← Resource.ensureFinalizer kind cr
      let outcome ← withEvent kind cr (syncPass kind cr external)
      count (.reconciliations kind.name outcome.text) 1
      return .requeue requeue) := by
  simp [drive, hdeleting]

/-- A reconciliation sends such requests alone to the operator's own cluster. -/
theorem drive_sends (h : ∀ known, external = .ok known → known.Leaves) {requeue : Duration}
    {result : Except Error Action}
    (hrun : Program.Runs (I := effects) (drive kind requeue cr external).run exchanged result) :
    ∀ exchange ∈ exchanged, exchange.IsOwn kind external cr := by
  have hcount : ∀ (action : Action) (outcome : Outcome) {last : List (Exchange effects)}
      {ended : Except Error Action}, Program.Runs (I := effects) (do
        count (.reconciliations kind.name outcome.text) 1
        return action : Attempt Action).run last ended →
      ∀ exchange ∈ last, exchange.IsOwn kind external cr := by
    intro action outcome last ended hlast exchange hexchange
    have hasks : Program.Asks (I := effects) (Effect.isHome · = false) (do
        count (.reconciliations kind.name outcome.text) 1
        return action : Attempt Action).run :=
      Attempt.asks_bind ⟨rfl, fun _ ↦ trivial⟩ fun _ ↦ trivial
    exact .inl (hasks.runs hlast exchange hexchange)
  cases hdeleting : cr.isDeleting with
  | false =>
      rw [drive_live hdeleting] at hrun
      exact Attempt.runs_bind_all (fun hfirst ↦ ensureFinalizer_sends hdeleting hfirst)
        (fun hrest ↦ Attempt.runs_bind_all (fun hpass ↦ pass_sends h hpass)
          (fun hlast ↦ hcount _ _ hlast) hrest) hrun
  | true =>
      cases hfinalizer : cr.hasFinalizer with
      | false =>
          have hnothing : drive kind requeue cr external = return .awaitChange := by
            simp [drive, hdeleting, hfinalizer]
          rw [hnothing] at hrun
          obtain ⟨rfl, -⟩ := Attempt.runs_pure_iff.1 hrun
          simp
      | true =>
          rw [drive_deleting hdeleting hfinalizer] at hrun
          exact Attempt.runs_bind_all (fun hpass ↦ pass_sends h hpass)
            (fun hrest ↦ Attempt.runs_bind_all
              (fun hremove ↦ removeFinalizer_sends hdeleting hremove)
              (fun hlast ↦ hcount _ _ hlast) hrest) hrun

end

end FleetOperator
