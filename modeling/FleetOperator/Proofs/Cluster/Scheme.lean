import FleetOperator.Proofs.Cluster.Passes
import FleetOperator.Proofs.Reconcile.Written

/-!
# The scheme of clusters

How clusters are asked for, as a scheme. Read `Cluster.followed` first: passes over clusters follow
the scheme, and it is lawful.
-/

namespace FleetOperator

variable {W : Type} {handler : Handler effects W}

namespace Cluster

/-- How the clusters of an instance are asked for. -/
def scheme (instanceId : String) :
    Scheme ClusterSpec Platform.Cluster Platform.ClusterManifest where
  lateInitialize spec remote := spec.lateInitialize (.ofPlatform remote spec)
  request? := ClusterSpec.toManifest?
  name m := m.metadata.name
  stored m := m.toCluster.declared
  write m := .platform (.applyCluster instanceId m)

/-- The scheme of clusters is lawful. -/
theorem scheme_lawful (instanceId : String) : (scheme instanceId).Lawful where
  twice spec remote := spec.lateInitialize_twice (.ofPlatform remote spec)
  stored spec _ hmanifest := ⟨spec.settled,
    ClusterSpec.lateInitialize_stored spec hmanifest rfl,
    (ClusterSpec.toManifest?_settled spec).trans hmanifest⟩

variable {instanceId : String}

/-- A cluster that is read is seen as the scheme says. -/
theorem reflect_sees (cr : Cluster) (remote : Platform.Cluster) :
    (scheme instanceId).Sees cr.spec (cr.reflect remote).1.spec (cr.reflect remote).2
      (some remote.declared) := by
  have hinit : (scheme instanceId).lateInitialize cr.spec remote.declared =
      cr.spec.lateInitialize (ClusterSpec.ofPlatform remote cr.spec) := rfl
  simp only [Scheme.Sees, hinit]
  refine ⟨(reflect_spec cr remote).1, ?_⟩
  cases herror : (cr.spec.lateInitialize (ClusterSpec.ofPlatform remote cr.spec)).error with
  | some error => exact reflect_error herror
  | none => exact ⟨_, reflect_ok herror⟩

variable {holdings : Holdings W Platform.Cluster} (policy : PollPolicy)
  (hkeeps : holdings.KeepsClusters handler instanceId)
include hkeeps

/-- A look follows the scheme of clusters. -/
theorem looks_follow {s : Situation ClusterSpec ClusterObservation W}
    (hcalm : holdings.calm s.world) :
    (scheme instanceId).Looks holdings s ((External.cluster policy instanceId).looked handler s)
      ((External.cluster policy instanceId).seen handler s)
      ((External.cluster policy instanceId).looks handler s) := by
  cases hname : s.resource.externalName? with
  | none =>
      obtain ⟨hseen, hlooked, hlooks⟩ := looks_unnamed handler policy instanceId hname
      rw [hseen, hlooked, hlooks]
      refine ⟨hcalm, fun _ ↦ rfl, rfl, ?_, by simp⟩
      rw [hname]
      exact ⟨rfl, rfl⟩
  | some name =>
      have hcalmRead := hkeeps.calm_after (.platform (.getCluster instanceId name)) s.world hcalm
      have hframe (other : String) :
          holdings.held (handler (.platform (.getCluster instanceId name)) s.world).2 other =
            holdings.held s.world other :=
        hkeeps.frame _ _ _ hcalm id
      have hquiet : ∀ effect ∈ [Effect.platform (.getCluster instanceId name)],
          ¬ effect.isWrite := by
        simp [Effect.isWrite, Platform.Request.isWrite]
      cases hheld : holdings.held s.world name with
      | none =>
          obtain ⟨failure, hfailure⟩ := hkeeps.reads_missing _ _ hcalm hheld
          obtain ⟨hseen, hlooked, hlooks⟩ := looks_missing policy hname hfailure
          rw [hseen, hlooked, hlooks]
          refine ⟨hcalmRead, hframe, rfl, ?_, hquiet⟩
          rw [hname, Option.bind_some, hheld]
          exact ⟨rfl, rfl⟩
      | some object =>
          obtain ⟨remote, hremote, rfl⟩ := hkeeps.reads_held _ _ _ hcalm hheld
          obtain ⟨hseen, hlooked, hlooks⟩ := looks_found policy hname hremote
          rw [hseen, hlooked, hlooks]
          refine ⟨hcalmRead, hframe, (reflect_spec s.resource remote).2, ?_, hquiet⟩
          rw [hname, Option.bind_some, hheld]
          exact reflect_sees s.resource remote

/-- Passes over clusters follow the scheme of clusters. -/
theorem followed : (scheme instanceId).Followed (External.cluster policy instanceId) handler
    holdings where
  looks s hcalm := looks_follow policy hkeeps hcalm
  creates cr world m hcalm hmanifest := by
    obtain ⟨rest, hquiet, hcreated, hrun, hcalls⟩ := run_create handler policy instanceId
      hmanifest world
    have happlied := hkeeps.applied hcalm m
    obtain ⟨hcalmRest, hheld⟩ := hkeeps.run_quiet hquiet happlied.calm
    rw [show (External.cluster policy instanceId).create = create policy instanceId from rfl,
      hrun, hcalls]
    refine ⟨⟨⟨hcalmRest, ?_, ?_⟩, ?_⟩, ?_⟩
    · rw [hheld]
      exact happlied.written
    · intro other hother
      rw [hheld]
      exact happlied.others other hother
    · intro effect hasked hwrite
      rcases List.mem_cons.1 hasked with rfl | hasked
      · rfl
      · exact absurd hwrite (hquiet.calls _ effect hasked)
    · intro created hresult
      obtain ⟨hok, rfl⟩ := hcreated _ _ hresult
      refine ⟨rfl, ?_⟩
      rw [hheld]
      exact hkeeps.stores world m hcalm hok
  updates cr world m hcalm hmanifest := by
    obtain ⟨hrun, hcalls⟩ := run_update handler instanceId hmanifest world
    rw [show (External.cluster policy instanceId).update = update instanceId from rfl, hrun, hcalls]
    refine ⟨⟨hkeeps.applied hcalm m, fun _ hasked _ ↦ List.mem_singleton.1 hasked⟩, ?_⟩
    exact fun hresult ↦ hkeeps.stores world m hcalm (mapError_eq_ok.1 hresult)
  fails cr world error h := run_unwritten handler policy instanceId h world

end Cluster

end FleetOperator
