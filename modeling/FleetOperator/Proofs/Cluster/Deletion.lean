import FleetOperator.Operator.World
import FleetOperator.Proofs.Cluster.Runs
import FleetOperator.Proofs.Reconcile.Deletion

/-!
# Deleting clusters

When the resource of a deleted cluster is let go. Read `Cluster.finalizer_removed_once_released`
first: a cluster that was read is deleted before its resource is let go. A cluster that cannot be
read counts as none, and its resource is let go as it is.
-/

namespace FleetOperator.Cluster

variable {policy : PollPolicy} {instanceId : String} {cr live : Cluster}
  {exchanged : List (Exchange effects)}

/-- Whether the exchanges of a pass let a resource go: it carries no name, its cluster could not be
read when the pass looked, or the platform deleted the cluster. -/
inductive Released (instanceId : String) (cr : Cluster) : List (Exchange effects) → Prop
  | unnamed {exchanged : List (Exchange effects)} (hname : cr.externalName? = none) :
      Released instanceId cr exchanged
  | unread {name : String} (hname : cr.externalName? = some name) (failure : RemoteError)
      (rest : List (Exchange effects)) :
      Released instanceId cr (⟨.platform (.getCluster instanceId name), .error failure⟩ :: rest)
  | deleted {name : String} (hname : cr.externalName? = some name)
      {exchanged : List (Exchange effects)}
      (hdeleted : ⟨.platform (.deleteCluster instanceId name), .ok ()⟩ ∈ exchanged) :
      Released instanceId cr exchanged

/-- A retiring pass that goes well lets the resource go. -/
theorem released_of_retire {outcome : Outcome}
    (h : ((External.cluster policy instanceId).retire cr).Runs exchanged (live, .ok outcome)) :
    Released instanceId cr exchanged := by
  obtain ⟨looking, looked, observation, hlook, hrest⟩ := External.retire_runs_ok h
  have hlook : Look instanceId cr looking (looked, .ok observation) := observe_runs hlook
  have hnames := hlook.names
  -- Only a read makes a cluster present, so the other looks are not followed by a deletion.
  generalize hseen : (looked, Except.ok observation) = seen at hlook
  cases hlook with
  | unnamed hname => exact .unnamed hname
  | unread hname failure =>
      obtain ⟨-, rfl⟩ | ⟨hpresent, -⟩ := hrest
      · exact .unread hname failure []
      · cases hseen
        simp [Observation.absent] at hpresent
  | read hname remote =>
      obtain ⟨habsent, -⟩ | ⟨-, deleting, rfl, hdelete⟩ := hrest
      · have hread : (cr.reflect remote).2 = .ok observation := by rw [← hseen]
        exact absurd (reflect_isPresent hread) (by simp [habsent])
      · obtain ⟨before, rfl⟩ := delete_runs_ok (hnames.2.trans hname) hdelete
        exact .deleted hname (by simp)

/-- Retiring a cluster asks the API server of the operator's own cluster for nothing. -/
theorem retire_keeps_finalizer : ((External.cluster policy instanceId).retire cr).Asks
    fun effect : Effect ↦ effect.removesFinalizer = false :=
  External.retire_asks (observe_asks fun _ _ ↦ rfl) fun _ ↦
    delete_asks (agentManifests_asks (by rfl) (fun _ ↦ by rfl) (fun _ ↦ by rfl) policy)
      (fun _ _ ↦ rfl) fun _ ↦ rfl

/-- Finding the instance of a cluster asks for the name behind a resource and for the instance with
this name. -/
theorem resolveInstance_asks {asked : Effect → Prop} (hname : ∀ name, asked (.instanceName name))
    (hread : ∀ name, asked (.platform (.getInstance name))) (spec : ClusterSpec) :
    Program.Asks (I := effects) asked spec.resolveInstance.run := by
  unfold ClusterSpec.resolveInstance
  split
  · trivial
  · exact Attempt.asks_bind ⟨hname _, fun _ ↦ trivial⟩ fun _ ↦
      Attempt.asks_bind ⟨hread _, fun _ ↦ trivial⟩ fun _ ↦ trivial
  · trivial

/-- Finding the instance of a cluster touches no finalizer. -/
theorem resolveInstance_keeps_finalizer (spec : ClusterSpec) :
    Program.Asks (I := effects) (fun effect : Effect ↦ effect.removesFinalizer = false)
      spec.resolveInstance.run :=
  resolveInstance_asks (fun _ ↦ rfl) (fun _ ↦ rfl) spec

/-- A reconciliation looks for the instance of the cluster, and goes on whether it finds it or
not. -/
theorem reconcileCluster_runs {practice : Practice} {result : Except Error Action}
    (h : Program.Runs (I := effects) (reconcileCluster practice cr).run exchanged result) :
    ∃ resolving resolved driving,
      Program.Runs (I := effects) cr.spec.resolveInstance.run resolving resolved ∧
      Program.Runs (I := effects) (drive Kind.cluster practice.requeue cr
        (resolved.map (External.cluster practice.poll))).run driving result ∧
      exchanged = resolving ++ driving := by
  unfold reconcileCluster at h
  exact Program.runs_bind_iff.1 h

/-- The patch that removes the finalizer of a deleted cluster's resource is sent only after the pass
found no name on the resource, could not read the cluster, or had it deleted by the platform. -/
theorem finalizer_removed_once_released {practice : Practice} {result : Except Error Action}
    (hdeleting : cr.isDeleting = true) (hfinalizer : cr.hasFinalizer = true)
    (hrun : Program.Runs (I := effects) (reconcileCluster practice cr).run exchanged result)
    {before after : List (Exchange effects)} {removal : Exchange effects}
    (hsplit : exchanged = before ++ removal :: after)
    (hremoves : removal.call.removesFinalizer = true) :
    ∃ instanceId resolving passing rest, before = resolving ++ passing ++ rest ∧
      Program.Runs (I := effects) cr.spec.resolveInstance.run resolving (.ok instanceId) ∧
      Released instanceId cr passing := by
  obtain ⟨resolving, resolved, driving, hresolve, hdrive, rfl⟩ := reconcileCluster_runs hrun
  have hquiet : (passOver (resolved.map (External.cluster practice.poll)) cr).Asks
      fun effect : Effect ↦ effect.removesFinalizer = false := by
    cases resolved with
    | error error => trivial
    | ok instanceId =>
        simp only [passOver, Except.map, hdeleting, if_true]
        exact retire_keeps_finalizer
  -- The removal is not among the exchanges by which the instance is found.
  have hresolving : ∀ exchange ∈ resolving, ¬ exchange.call.removesFinalizer = true := by
    simpa using (resolveInstance_keeps_finalizer cr.spec).runs hresolve
  obtain ⟨rest, rfl, hdriving⟩ := exists_middle hresolving hremoves hsplit
  obtain ⟨known, passing, writing, telling, hknown, rfl, ⟨live, outcome, hretire, -⟩, -⟩ :=
    (drive_deletes hdeleting hfinalizer hquiet hdrive).1 rest removal after hdriving hremoves
  obtain ⟨instanceId, rfl, rfl⟩ := map_eq_ok.1 hknown
  exact ⟨instanceId, resolving, passing, writing ++ telling, by simp, hresolve,
    released_of_retire hretire⟩

/-! ## A cluster that is being deleted -/

/-- The resource of a cluster that is being deleted. -/
def leaving : Cluster where
  metadata := {
    name := some "prod", annotations := some (.ofList [(externalNameKey, "prod")])
    deletionTimestamp := some ⟨0⟩, finalizers := some [finalizerName] }
  spec := { name := "prod", instanceId := some "argo" }

/-- A world that holds the resource and its cluster, and in which calls to the platform fail. -/
def leavingWorld (failures : Dict RemoteError) : World where
  platform := { clusters := .ofList [("prod", { id := "c-1", name := "prod" })], failures }
  kube := { objects := .ofList [(Kind.cluster.path ++ "/prod", Kind.cluster.codec.toJson leaving)] }

/-- The exchanges of the reconciliation of the resource. -/
def leavingExchanges (failures : Dict RemoteError) : List (Exchange effects) :=
  (reconcileCluster {} leaving).run.exchanges World.answer (leavingWorld failures)

/-- Where nothing fails the finalizer is removed, after the cluster was read and deleted. -/
theorem finalizer_removed_once_deleted : ∃ before removal after,
    leavingExchanges .empty = before ++ removal :: after ∧
      removal.call.removesFinalizer = true ∧
      ∃ instanceId resolving passing rest, before = resolving ++ passing ++ rest ∧
        Program.Runs (I := effects) leaving.spec.resolveInstance.run resolving (.ok instanceId) ∧
        Released instanceId leaving passing := by
  have hremoved : (leavingExchanges .empty).any (·.call.removesFinalizer) = true := by
    decide +kernel
  obtain ⟨removal, hmem, hremoves⟩ := List.any_eq_true.1 hremoved
  obtain ⟨before, after, hsplit⟩ := List.append_of_mem hmem
  exact ⟨before, removal, after, hsplit, hremoves,
    finalizer_removed_once_released (by decide) (by decide)
      (Program.runs_exchanges World.answer _ _) hsplit hremoves⟩

/-- Whether an exchange tells that a cluster is gone: the platform does not know it, or has deleted
it. -/
def tellsGone : Exchange effects → Bool
  | ⟨.platform (.getCluster _ _), .error (.notFound _)⟩ => true
  | ⟨.platform (.deleteCluster _ _), .ok _⟩ => true
  | _ => false

/-- Where the cluster cannot be read, the finalizer is removed although nothing tells that the
cluster is gone, and the platform still holds it. -/
theorem finalizer_removed_unread :
    leaving.isDeleting = true ∧ leaving.hasFinalizer = true ∧
      leaving.externalName? = some "prod" ∧
      (leavingExchanges (.ofList [("get_cluster", .transport "no connection")])).any
        (·.call.removesFinalizer) = true ∧
      (leavingExchanges (.ofList [("get_cluster", .transport "no connection")])).any tellsGone =
        false ∧
      ((reconcileCluster {} leaving).run.run World.answer (leavingWorld
        (.ofList [("get_cluster", .transport "no connection")]))).2.platform.clusters.contains
          "prod" = true := by
  decide +kernel

end FleetOperator.Cluster
