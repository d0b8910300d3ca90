import FleetOperator.Proofs.Cluster.Stored
import FleetOperator.Proofs.Reconcile.Undisturbed

/-!
# Passes over clusters

What a converging pass over a cluster's resource asks and changes, by what the platform answers. Read
`Cluster.looks_found` first: a look takes over open settings and compares. A creation writes once,
before anything else, and a creation that goes well leaves the name of the cluster on the resource.
-/

namespace FleetOperator

namespace Cluster

/-- The specification after a look is the one after late initialization, and the name stays. -/
theorem reflect_spec (cr : Cluster) (remote : Platform.Cluster) :
    (cr.reflect remote).1.spec =
        (cr.spec.lateInitialize (ClusterSpec.ofPlatform remote cr.spec)).spec ∧
      (cr.reflect remote).1.externalName? = cr.externalName? := by
  simp only [reflect]
  split <;> exact ⟨rfl, rfl⟩

/-- A look that could take over the open settings tells whether the rest is up to date. -/
theorem reflect_ok {cr : Cluster} {remote : Platform.Cluster}
    (h : (cr.spec.lateInitialize (ClusterSpec.ofPlatform remote cr.spec)).error = none) :
    (cr.reflect remote).2 =
      .ok (.present ((cr.spec.lateInitialize (ClusterSpec.ofPlatform remote cr.spec)).spec.isUpToDate
        (ClusterSpec.ofPlatform remote cr.spec))) := by
  simp only [reflect, h]

/-- A look that could not take over the open settings fails. -/
theorem reflect_error {cr : Cluster} {remote : Platform.Cluster} {error : Error}
    (h : (cr.spec.lateInitialize (ClusterSpec.ofPlatform remote cr.spec)).error = some error) :
    (cr.reflect remote).2 = .error error := by
  simp only [reflect, h]

variable {W : Type} (handler : Handler effects W) (policy : PollPolicy) (instanceId : String)
  {s : Situation ClusterSpec ClusterObservation W}

/-- Without a name on the resource nothing is asked, and no cluster is seen. -/
theorem looks_unnamed (h : s.resource.externalName? = none) :
    (External.cluster policy instanceId).seen handler s = .ok .absent ∧
      (External.cluster policy instanceId).looked handler s = s ∧
      (External.cluster policy instanceId).looks handler s = [] := by
  simp only [External.seen, External.looked, External.looks, External.cluster, observe, h]
  exact ⟨rfl, rfl, rfl⟩

section

variable {handler instanceId}
variable {name : String} (hname : s.resource.externalName? = some name)
include hname

/-- With a name on the resource a look is one question. -/
theorem observe_named : Cluster.observe instanceId s.resource =
    .ask (Effect.platform (.getCluster instanceId name))
      fun answer : Except RemoteError Platform.Cluster ↦ .done (match answer with
        | .ok remote => Cluster.reflect s.resource remote
        | .error _ => (s.resource, .ok .absent)) := by
  simp only [observe, hname]
  show Program.ask _ _ = Program.ask _ _
  congr 1
  funext answer
  cases answer <;> rfl

/-- A cluster that cannot be read counts as none. -/
theorem looks_missing {failure : RemoteError}
    (h : (handler (.platform (.getCluster instanceId name)) s.world).1 = .error failure) :
    (External.cluster policy instanceId).seen handler s = .ok .absent ∧
      (External.cluster policy instanceId).looked handler s =
        { s with world := (handler (.platform (.getCluster instanceId name)) s.world).2 } ∧
      (External.cluster policy instanceId).looks handler s =
        [.platform (.getCluster instanceId name)] := by
  simp only [External.seen, External.looked, External.looks, External.cluster,
    observe_named hname, Program.run, Program.calls, h, and_self]

/-- A cluster that is read is reflected in the resource. -/
theorem looks_found {remote : Platform.Cluster}
    (h : (handler (.platform (.getCluster instanceId name)) s.world).1 = .ok remote) :
    (External.cluster policy instanceId).seen handler s =
        (Cluster.reflect s.resource remote).2 ∧
      (External.cluster policy instanceId).looked handler s =
        { resource := (Cluster.reflect s.resource remote).1
          world := (handler (.platform (.getCluster instanceId name)) s.world).2 } ∧
      (External.cluster policy instanceId).looks handler s =
        [.platform (.getCluster instanceId name)] := by
  simp only [External.seen, External.looked, External.looks, External.cluster,
    observe_named hname, Program.run, Program.calls, h, and_self]

end

/-! ## Writes -/

variable {handler policy instanceId}

/-- What follows a read of a cluster that is waited for. -/
def afterRead (policy : PollPolicy) (instanceId name : String) (left attempt : Nat) :
    Except RemoteError Platform.Cluster → Program effects (Except RemoteError Platform.Cluster)
  | .ok cluster =>
    if cluster.isSettled then return .ok cluster
    else waitFrom policy instanceId name left (attempt + 1) (unreconciled name)
  | .error (.transport detail) => return .error (.transport detail)
  | .error failure => waitFrom policy instanceId name left (attempt + 1) failure

/-- An attempt waits, unless it is the first one, and reads the cluster once. -/
theorem waitFrom_succ (policy : PollPolicy) (instanceId name : String) (left attempt : Nat)
    (last : RemoteError) :
    waitFrom policy instanceId name (left + 1) attempt last = (do
      if attempt > 0 then sleep (policy.delayAfter (attempt - 1))
      let answer ← callPlatform (.getCluster instanceId name)
      afterRead policy instanceId name left attempt answer) := by
  have hread : ∀ next : Except RemoteError Platform.Cluster → Program effects _,
      (∀ answer, next answer = afterRead policy instanceId name left attempt answer) →
      callPlatform (.getCluster instanceId name) >>= next =
        callPlatform (.getCluster instanceId name) >>=
          afterRead policy instanceId name left attempt := by
    intro next hnext
    rw [funext hnext]
  simp only [waitFrom]
  rw [hread _ fun answer ↦ by rcases answer with (_ | _ | _) | _ <;> rfl]

section

variable {asked : Effect → Prop} {name : String}
  (hread : asked (.platform (.getCluster instanceId name))) (hsleep : ∀ delay, asked (.sleep delay))
include hread hsleep

/-- Waiting for a cluster asks for the cluster and for time. -/
theorem waitFrom_asks (policy : PollPolicy) (left : Nat) :
    ∀ attempt last, (waitFrom policy instanceId name left attempt last).Asks asked := by
  -- Induction on the attempts that are left; a transport error ends the wait before they run out.
  induction left with
  | zero => intro _ _; trivial
  | succ left ih =>
      intro attempt last
      have hattempt : (callPlatform (.getCluster instanceId name) >>=
          afterRead policy instanceId name left attempt).Asks asked := by
        refine Program.Asks.bind ⟨hread, fun _ ↦ trivial⟩ ?_
        rintro ((_ | _ | _) | cluster)
        · exact ih _ _
        · exact ih _ _
        · trivial
        · simp only [afterRead]
          split
          · trivial
          · exact ih _ _
      rw [waitFrom_succ]
      split
      · exact Program.Asks.bind ⟨hsleep _, fun _ ↦ trivial⟩ fun _ ↦ hattempt
      · exact hattempt

/-- Getting the manifests of an agent asks for the cluster, for time and for a download. -/
theorem agentManifests_asks
    (hdownload : ∀ id, asked (.platform (.getClusterManifests instanceId id)))
    (policy : PollPolicy) : Program.Asks (I := effects) asked
      (agentManifests policy instanceId name).run := by
  refine Attempt.asks_bind ?_ fun cluster ↦ Attempt.asks_bind ?_ fun deliveries ↦ trivial
  · exact Program.Asks.bind (waitFrom_asks hread hsleep policy _ _ _) fun _ ↦ trivial
  · exact ⟨hdownload _, fun _ ↦ trivial⟩

end

/-- What remains of a creation once the cluster was applied: installing the agent where the operator
can reach the cluster. -/
def finish (policy : PollPolicy) (instanceId : String) (cr : Cluster) (name : String) :
    Attempt Cluster := do
  if cr.spec.hasTargetAccess then
    let manifests ← agentManifests policy instanceId cr.spec.name
    let _ ← Attempt.install cr.spec manifests false
  return cr.withExternalName name

/-- A creation is a write followed by the rest of it. -/
theorem create_eq (policy : PollPolicy) (instanceId : String) (cr : Cluster) :
    create policy instanceId cr = (do
      let manifest ← Attempt.ofExcept cr.spec.toManifest?
      Attempt.platform (.applyCluster instanceId manifest)
      finish policy instanceId cr manifest.metadata.name) := rfl

/-- The rest of a creation asks for what getting manifests asks for, and for their installation. -/
theorem finish_asks {asked : Effect → Prop} {cr : Cluster}
    (hmanifests : Program.Asks (I := effects) asked
      (agentManifests policy instanceId cr.spec.name).run)
    (hinstall : ∀ manifests, asked (.install cr.spec manifests false)) (name : String) :
    Program.Asks (I := effects) asked (finish policy instanceId cr name).run := by
  unfold finish
  split
  · exact Attempt.asks_bind hmanifests fun _ ↦
      Attempt.asks_bind ⟨hinstall _, fun _ ↦ trivial⟩ fun _ ↦ trivial
  · trivial

/-- The rest of a creation writes nothing. -/
theorem finish_quiet (policy : PollPolicy) (instanceId : String) (cr : Cluster) (name : String) :
    (finish policy instanceId cr name).run.Quiet :=
  finish_asks (agentManifests_asks (by simp [Effect.isWrite, Platform.Request.isWrite])
    (fun _ ↦ id) (by simp [Effect.isWrite, Platform.Request.isWrite]) policy) (fun _ ↦ id) name

/-- A creation that goes well puts the name of the cluster on the resource. -/
theorem finish_ok {name : String} {cr created : Cluster} {world : W}
    (h : ((finish policy instanceId cr name).run.run handler world).1 = .ok created) :
    created = cr.withExternalName name := by
  unfold finish at h
  split at h
  · cases hmanifests : ((agentManifests policy instanceId cr.spec.name).run.run handler world).1 with
    | error error =>
        rw [Attempt.run_bind_error hmanifests] at h
        simp at h
    | ok manifests =>
        rw [Attempt.run_bind_ok hmanifests] at h
        generalize ((agentManifests policy instanceId cr.spec.name).run.run handler world).2 =
          later at h
        cases hinstall : ((Attempt.install cr.spec manifests false).run.run handler later).1 with
        | error error =>
            rw [Attempt.run_bind_error hinstall] at h
            simp at h
        | ok count =>
            rw [Attempt.run_bind_ok hinstall] at h
            simpa using h.symm
  · simpa using h.symm

section

variable (handler policy instanceId) {cr : Cluster} {m : Platform.ClusterManifest}
  (hmanifest : cr.spec.toManifest? = .ok m) (world : W)
include hmanifest

/-- An update is one write. -/
theorem run_update :
    (update instanceId cr).run.run handler world =
        ((handler (.platform (.applyCluster instanceId m)) world).1.mapError Error.ofRemote,
          (handler (.platform (.applyCluster instanceId m)) world).2) ∧
      (update instanceId cr).run.calls handler world =
        [.platform (.applyCluster instanceId m)] := by
  have hok : ((Attempt.ofExcept cr.spec.toManifest?).run.run handler world).1 = .ok m := hmanifest
  unfold update
  rw [Attempt.run_bind_ok hok, Attempt.calls_bind_ok hok]
  exact ⟨rfl, rfl⟩

/-- A creation is one write and a quiet rest. It goes well only if the write did, and puts the name
of the cluster on the resource. -/
theorem run_create : ∃ rest : Program effects (Except Error Cluster),
    rest.Quiet ∧
      (∀ later created, (rest.run handler later).1 = .ok created →
        (handler (.platform (.applyCluster instanceId m)) world).1 = .ok () ∧
          created = cr.withExternalName m.metadata.name) ∧
      (create policy instanceId cr).run.run handler world =
        rest.run handler (handler (.platform (.applyCluster instanceId m)) world).2 ∧
      (create policy instanceId cr).run.calls handler world =
        .platform (.applyCluster instanceId m) ::
          rest.calls handler (handler (.platform (.applyCluster instanceId m)) world).2 := by
  have hok : ((Attempt.ofExcept cr.spec.toManifest?).run.run handler world).1 = .ok m := hmanifest
  rw [create_eq, Attempt.run_bind_ok hok, Attempt.calls_bind_ok hok]
  simp only [Attempt.run_ofExcept, Attempt.calls_ofExcept, List.nil_append]
  cases hanswer : (handler (.platform (.applyCluster instanceId m)) world).1 with
  | error failure =>
      have hfailed : ((Attempt.platform (.applyCluster instanceId m)).run.run handler world).1 =
          .error (.ofRemote failure) := by
        rw [Attempt.run_platform, hanswer]
        rfl
      refine ⟨.done (.error (.ofRemote failure)), trivial, ?_, ?_, ?_⟩
      · intro _ created hcreated
        exact absurd hcreated (by simp [Program.run])
      · exact Attempt.run_bind_error hfailed
      · exact Attempt.calls_bind_error hfailed
  | ok value =>
      have hdone : ((Attempt.platform (.applyCluster instanceId m)).run.run handler world).1 =
          .ok value := by
        rw [Attempt.run_platform, hanswer]
        rfl
      refine ⟨(finish policy instanceId cr m.metadata.name).run, finish_quiet _ _ _ _, ?_, ?_, ?_⟩
      · exact fun _ _ hcreated ↦ ⟨rfl, finish_ok hcreated⟩
      · exact Attempt.run_bind_ok hdone
      · exact Attempt.calls_bind_ok hdone

end

variable (handler policy instanceId) in
/-- Without a manifest nothing is written. -/
theorem run_unwritten {cr : Cluster} {error : Error} (h : cr.spec.toManifest? = .error error)
    (world : W) :
    (create policy instanceId cr).run.run handler world = (.error error, world) ∧
      (create policy instanceId cr).run.calls handler world = [] ∧
      (update instanceId cr).run.run handler world = (.error error, world) ∧
      (update instanceId cr).run.calls handler world = [] := by
  have hfailed : ((Attempt.ofExcept cr.spec.toManifest?).run.run handler world).1 =
      .error error := h
  unfold create update
  rw [Attempt.run_bind_error hfailed, Attempt.calls_bind_error hfailed,
    Attempt.run_bind_error hfailed, Attempt.calls_bind_error hfailed]
  exact ⟨rfl, rfl, rfl, rfl⟩

end Cluster

end FleetOperator
