import FleetOperator.Proofs.Cluster.Passes
import FleetOperator.Proofs.Runs

/-!
# What is asked about clusters

The questions and answers of looking at a cluster, creating, changing and deleting it, in any world.
Read `Cluster.Look` first: it lists all that can happen in a look. `Cluster.delete_runs_ok` tells
what a deletion that goes well has been answered last.
-/

namespace FleetOperator.Cluster

variable {policy : PollPolicy} {instanceId : String} {cr : Cluster}
  {exchanged : List (Exchange effects)}

/-- All that can happen in a look at the cluster behind a resource: the resource carries no name,
the cluster cannot be read, or it is read and reflected. -/
inductive Look (instanceId : String) (cr : Cluster) :
    List (Exchange effects) → Cluster × Except Error Observation → Prop
  | unnamed (hname : cr.externalName? = none) : Look instanceId cr [] (cr, .ok .absent)
  | unread {name : String} (hname : cr.externalName? = some name) (failure : RemoteError) :
      Look instanceId cr [⟨.platform (.getCluster instanceId name), .error failure⟩]
        (cr, .ok .absent)
  | read {name : String} (hname : cr.externalName? = some name) (remote : Platform.Cluster) :
      Look instanceId cr [⟨.platform (.getCluster instanceId name), .ok remote⟩] (cr.reflect remote)

/-- A run of a look is one of these. -/
theorem observe_runs {looked : Cluster × Except Error Observation}
    (h : (observe instanceId cr).Runs exchanged looked) : Look instanceId cr exchanged looked := by
  cases hname : cr.externalName? with
  | none =>
      simp only [observe, hname] at h
      obtain ⟨rfl, rfl⟩ := Program.runs_pure_iff.1 h
      exact .unnamed hname
  | some name =>
      rw [observe_named (s := ⟨cr, ()⟩) hname] at h
      obtain ⟨answer, rest, rfl, hdone⟩ := Program.runs_ask_iff.1 h
      cases hdone
      cases answer with
      | error failure => exact .unread hname failure
      | ok remote => exact .read hname remote

/-- A look asks for the cluster with the name on the resource. -/
theorem observe_asks {asked : Effect → Prop}
    (hread : ∀ name, cr.externalName? = some name →
      asked (.platform (.getCluster instanceId name))) :
    (observe instanceId cr).Asks asked := by
  cases hname : cr.externalName? with
  | none =>
      simp only [observe, hname]
      trivial
  | some name =>
      rw [observe_named (s := ⟨cr, ()⟩) hname]
      exact ⟨hread name hname, fun _ ↦ trivial⟩

/-- A look does not change the name that a resource asks for, nor the one that it carries. -/
theorem Look.names {looked : Cluster × Except Error Observation}
    (h : Look instanceId cr exchanged looked) :
    looked.1.spec.name = cr.spec.name ∧ looked.1.externalName? = cr.externalName? := by
  cases h with
  | unnamed | unread => exact ⟨rfl, rfl⟩
  | read hname remote =>
      obtain ⟨hspec, hexternal⟩ := reflect_spec cr remote
      exact ⟨by rw [hspec]; rfl, hexternal⟩

/-- A cluster that was read is there. -/
theorem reflect_isPresent {remote : Platform.Cluster} {observation : Observation}
    (h : (cr.reflect remote).2 = .ok observation) : observation.isPresent = true := by
  cases hinit : (cr.spec.lateInitialize (ClusterSpec.ofPlatform remote cr.spec)).error with
  | none =>
      rw [reflect_ok hinit] at h
      obtain rfl := Except.ok.inj h
      rfl
  | some error =>
      rw [reflect_error hinit] at h
      simp at h

/-- A deletion of a named cluster removes the agent first if the user wants so and the operator can
reach the cluster, and then asks the platform for the deletion. -/
theorem delete_eq {name : String} (hname : cr.externalName? = some name) :
    delete policy instanceId cr =
      if cr.spec.removeAgentResourcesOnDestroy && cr.spec.hasTargetAccess then do
        let manifests ← agentManifests policy instanceId cr.spec.name
        let _ ← Attempt.install cr.spec manifests true
        Attempt.platform (.deleteCluster instanceId name)
      else Attempt.platform (.deleteCluster instanceId name) := by
  simp only [delete, hname]

/-- A deletion of a named cluster goes well only if the platform did it in the end. -/
theorem delete_runs_ok {name : String} (hname : cr.externalName? = some name)
    (h : Program.Runs (I := effects) (delete policy instanceId cr).run exchanged (.ok ())) :
    ∃ before, exchanged = before ++ [⟨.platform (.deleteCluster instanceId name), .ok ()⟩] := by
  have hdeleted : ∀ {last : List (Exchange effects)}, Program.Runs (I := effects)
      (Attempt.platform (.deleteCluster instanceId name)).run last (.ok ()) →
      last = [⟨.platform (.deleteCluster instanceId name), .ok ()⟩] := by
    intro last hlast
    obtain ⟨answer, rfl, hanswer⟩ := Attempt.runs_platform_iff.1 hlast
    rw [mapError_eq_ok.1 hanswer.symm]
  rw [delete_eq hname] at h
  split at h
  · obtain ⟨first, manifests, second, -, hrest, rfl⟩ := Attempt.runs_bind_ok h
    obtain ⟨third, applied, last, -, hlast, rfl⟩ := Attempt.runs_bind_ok hrest
    exact ⟨first ++ third, by rw [hdeleted hlast, List.append_assoc]⟩
  · exact ⟨[], hdeleted h⟩

section

variable {asked : Effect → Prop}
  (hmanifests : Program.Asks (I := effects) asked
    (agentManifests policy instanceId cr.spec.name).run)
include hmanifests

/-- A creation asks for an application under the name that the specification gives, for what getting
manifests asks for, and for their installation. -/
theorem create_asks
    (happly : ∀ m, m.metadata.name = cr.spec.name →
      asked (.platform (.applyCluster instanceId m)))
    (hinstall : ∀ manifests, asked (.install cr.spec manifests false)) :
    Program.Asks (I := effects) asked (create policy instanceId cr).run := by
  rw [create_eq]
  cases hmanifest : cr.spec.toManifest? with
  | error error => trivial
  | ok m =>
      obtain ⟨kustomization, -, rfl⟩ := ClusterSpec.toManifest?_eq_ok.1 hmanifest
      rw [Attempt.ofExcept_ok_bind]
      exact Attempt.asks_bind ⟨happly _ rfl, fun _ ↦ trivial⟩ fun _ ↦
        finish_asks hmanifests hinstall _

/-- A deletion asks for the deletion of the cluster with the name on the resource, for what getting
manifests asks for, and for their removal. -/
theorem delete_asks
    (hdelete : ∀ name, cr.externalName? = some name →
      asked (.platform (.deleteCluster instanceId name)))
    (hinstall : ∀ manifests, asked (.install cr.spec manifests true)) :
    Program.Asks (I := effects) asked (delete policy instanceId cr).run := by
  cases hname : cr.externalName? with
  | none =>
      simp only [delete, hname]
      trivial
  | some name =>
      have hlast : Program.Asks (I := effects) asked
          (Attempt.platform (.deleteCluster instanceId name)).run :=
        ⟨hdelete name hname, fun _ ↦ trivial⟩
      rw [delete_eq hname]
      split
      · exact Attempt.asks_bind hmanifests fun _ ↦
          Attempt.asks_bind ⟨hinstall _, fun _ ↦ trivial⟩ fun _ ↦ hlast
      · exact hlast

end

/-- A change asks for an application under the name that the specification gives. -/
theorem update_asks {asked : Effect → Prop}
    (happly : ∀ m, m.metadata.name = cr.spec.name →
      asked (.platform (.applyCluster instanceId m))) :
    Program.Asks (I := effects) asked (update instanceId cr).run := by
  unfold update
  cases hmanifest : cr.spec.toManifest? with
  | error error => trivial
  | ok m =>
      obtain ⟨kustomization, -, rfl⟩ := ClusterSpec.toManifest?_eq_ok.1 hmanifest
      exact ⟨happly _ rfl, fun _ ↦ trivial⟩

end FleetOperator.Cluster
