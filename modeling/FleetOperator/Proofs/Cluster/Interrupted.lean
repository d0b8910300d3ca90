import FleetOperator.Proofs.Cluster.Runs
import FleetOperator.Proofs.Cluster.Scheme
import FleetOperator.Proofs.Cluster.Waiting
import FleetOperator.Proofs.Reconcile.Course

/-!
# Interrupted creations of clusters

What becomes of a cluster whose creation failed after the cluster was applied. Read
`Cluster.interrupted_removed_once_told` first: a resource that does not carry the name of its
cluster leaves the cluster behind when it is retired; once a converging pass has gone well it
carries the name, and retiring it removes the cluster.
-/

namespace FleetOperator

/-- Whether an exchange went well: the answer is not a failure, a cluster that was read is settled,
and a download gives a text. -/
def Exchange.wentWell : Exchange effects → Bool
  | ⟨.platform (.getCluster _ _), .ok remote⟩ => remote.isSettled
  | ⟨.platform (.getClusterManifests _ _), .ok deliveries⟩ => (Platform.collect deliveries).isOk
  | ⟨.platform _, .error _⟩ | ⟨.install _ _ _, .error _⟩ => false
  | _ => true

/-- A call to the platform that fails did not go well. -/
theorem Exchange.wentWell_failed (request : Platform.Request) (failure : RemoteError) :
    Exchange.wentWell ⟨.platform request, .error failure⟩ = false := by
  cases request <;> rfl

namespace Attempt

variable {α β : Type}

/-- Whether a step fails only if some exchange did not go well. -/
def FailuresShow (step : Attempt α) : Prop :=
  ∀ exchanged error, Program.Runs (I := effects) step.run exchanged (.error error) →
    ∃ exchange ∈ exchanged, exchange.wentWell = false

/-- The failures of a step and of all that may follow show. -/
theorem FailuresShow.bind {step : Attempt α} {f : α → Attempt β} (h : step.FailuresShow)
    (hnext : ∀ value, (f value).FailuresShow) : (step >>= f).FailuresShow := by
  intro exchanged error hruns
  rcases runs_bind_iff.1 hruns with ⟨failure, hfirst, -⟩ | ⟨first, value, second, -, hsecond, rfl⟩
  · exact h exchanged failure hfirst
  · obtain ⟨exchange, hexchange, hfailed⟩ := hnext value second error hsecond
    exact ⟨exchange, List.mem_append_right _ hexchange, hfailed⟩

/-- A failure of a call to the platform shows. -/
theorem platform_failuresShow (request : Platform.Request) : (platform request).FailuresShow := by
  intro exchanged error hruns
  obtain ⟨answer, rfl, hanswer⟩ := runs_platform_iff.1 hruns
  cases answer with
  | ok value => cases hanswer
  | error failure => exact ⟨_, List.mem_singleton_self _, Exchange.wentWell_failed request failure⟩

/-- A failure to apply or to delete manifests shows. -/
theorem install_failuresShow (spec : ClusterSpec) (manifests : String) (removing : Bool) :
    (install spec manifests removing).FailuresShow := by
  intro exchanged error hruns
  obtain ⟨answer, rest, rfl, hrest⟩ := Program.runs_ask_iff.1 hruns
  cases hrest
  exact ⟨_, List.mem_singleton_self _, rfl⟩

end Attempt

variable {W : Type} {handler : Handler effects W} {holdings : Holdings W Platform.Cluster}
  {policy : PollPolicy} {instanceId : String}

/-- Waiting for a cluster is over after a read of a settled one. -/
theorem waitUntilSettled_runs {name : String} (hattempts : 0 < policy.attempts)
    {exchanged : List (Exchange effects)} {failure : RemoteError}
    (h : (waitUntilSettled policy instanceId name).Runs exchanged (.error failure)) :
    ∃ exchange ∈ exchanged, exchange.wentWell = false := by
  -- The first read decides: either it ends the waiting, or it did not go well.
  obtain ⟨left, hleft⟩ := Nat.exists_eq_succ_of_ne_zero (Nat.pos_iff_ne_zero.1 hattempts)
  unfold waitUntilSettled at h
  rw [hleft] at h
  obtain ⟨answer, rest, rfl, hrest⟩ := Cluster.waitFrom_succ_runs_iff.1 h
  refine ⟨_, List.mem_append_left _ List.mem_cons_self, ?_⟩
  cases answer with
  | error other => rfl
  | ok remote =>
      cases hsettled : remote.isSettled with
      | false => exact hsettled
      | true =>
          have hdecisive : Cluster.Decisive (.ok remote) := hsettled
          rw [Cluster.afterRead_of_decisive hdecisive] at hrest
          obtain ⟨-, hresult⟩ := Program.runs_pure_iff.1 hrest
          simp at hresult

/-- A failure to get the manifests of an agent shows, if the cluster is waited for at all. -/
theorem agentManifests_failuresShow (hattempts : 0 < policy.attempts) (name : String) :
    (agentManifests policy instanceId name).FailuresShow := by
  refine Attempt.FailuresShow.bind ?_ fun cluster ↦ ?_
  · intro exchanged error hruns
    obtain ⟨waiting, waited, last, hwait, hlast, rfl⟩ := Program.runs_bind_iff.1 hruns
    obtain ⟨rfl, hresult⟩ := Program.runs_pure_iff.1 hlast
    cases waited with
    | ok remote => cases hresult
    | error failure => simpa using waitUntilSettled_runs hattempts hwait
  · -- The download is judged by the text that it gives, and so together with its collection.
    intro exchanged error hruns
    rcases Attempt.runs_bind_iff.1 hruns with
      ⟨failure, hcall, -⟩ | ⟨asking, deliveries, last, hcall, hcollect, rfl⟩
    · exact Attempt.platform_failuresShow _ _ _ hcall
    · obtain ⟨answer, rfl, hanswer⟩ := Attempt.runs_platform_iff.1 hcall
      obtain rfl := mapError_eq_ok.1 hanswer.symm
      obtain ⟨rfl, hresult⟩ := Attempt.runs_ofExcept_iff.1 hcollect
      refine ⟨_, List.mem_singleton_self _, ?_⟩
      show (Platform.collect deliveries).isOk = false
      cases hcollected : Platform.collect deliveries with
      | ok text =>
          rw [hcollected] at hresult
          cases hresult
      | error failure => rfl

namespace Cluster

/-- A failure to delete a cluster shows, if the cluster is waited for at all. -/
theorem delete_failuresShow (hattempts : 0 < policy.attempts) {cr : Cluster} {name : String}
    (hname : cr.externalName? = some name) : (delete policy instanceId cr).FailuresShow := by
  rw [delete_eq hname]
  split
  · exact (agentManifests_failuresShow hattempts _).bind fun manifests ↦
      (Attempt.install_failuresShow _ _ _).bind fun _ ↦ Attempt.platform_failuresShow _
  · exact Attempt.platform_failuresShow _

/-- The only effect of a deletion that changes the platform is the deletion of the cluster. -/
theorem delete_writes {cr : Cluster} {name : String} (hname : cr.externalName? = some name) :
    Program.Asks (I := effects)
      (fun effect ↦ ¬ Effect.isWrite effect ∨ effect = .platform (.deleteCluster instanceId name))
      (delete policy instanceId cr).run := by
  refine delete_asks ?_ (fun other hother ↦ ?_) fun _ ↦ .inl id
  · exact agentManifests_asks (.inl (by simp [Effect.isWrite, Platform.Request.isWrite]))
      (fun _ ↦ .inl id) (fun _ ↦ .inl (by simp [Effect.isWrite, Platform.Request.isWrite])) policy
  · obtain rfl := Option.some.inj (hother.symm.trans hname)
    exact .inr rfl

section

variable (policy) (hkeeps : holdings.KeepsClusters handler instanceId)
include hkeeps

/-- Deletions of clusters remove what is held under the name on a resource. -/
theorem removes (hdeletes : holdings.DeletesClusters handler instanceId) :
    (External.cluster policy instanceId).Removes handler holdings where
  calm_after cr world hcalm :=
    Program.run_invariant holdings.calm (fun effect w _ h ↦ hkeeps.calm_after effect w h)
      (Program.asks_true _) hcalm
  removes cr world name hcalm hname hok := by
    -- The platform's own deletion is the last that is asked.
    have hruns := Program.runs_exchanges handler (delete policy instanceId cr).run world
    rw [show ((delete policy instanceId cr).run.run handler world).1 = .ok () from hok] at hruns
    obtain ⟨before, hexchanges⟩ := delete_runs_ok hname hruns
    obtain ⟨reached, hcalmReached, hlast⟩ := Program.run_of_exchanges_concat holdings.calm
      hkeeps.calm_after hcalm hexchanges
    have hgone := hdeletes.deletes reached name hcalmReached (congrArg Prod.fst hlast)
    rwa [hlast] at hgone
  removes_or_not cr world name hcalm hname := by
    -- Whatever the deletion asks leaves the cluster as it is, or removes it.
    refine (Program.run_invariant (fun w ↦ holdings.calm w ∧
      holdings.held w name ∈ [none, holdings.held world name]) ?_ (delete_writes hname)
      ⟨hcalm, by simp⟩).2
    rintro effect w (hquiet | rfl) ⟨hcalmNow, hheld⟩
    · refine ⟨hkeeps.calm_after effect w hcalmNow, ?_⟩
      rwa [hkeeps.frame effect w name hcalmNow fun hwrites ↦
        hquiet (Effect.isWrite_of_writesCluster hwrites)]
    · refine ⟨hkeeps.calm_after _ w hcalmNow, ?_⟩
      have hdeleted := hdeletes.deletes_or_not w name hcalmNow
      simp only [List.mem_cons, List.not_mem_nil, or_false] at hdeleted hheld ⊢
      exact hdeleted.elim .inl fun hsame ↦ hheld.imp hsame.trans hsame.trans

/-- A retiring pass in which everything goes well deletes the cluster whose name the resource
carries. -/
theorem retirement_told (hattempts : 0 < policy.attempts) {m : Platform.ClusterManifest}
    {s : Situation ClusterSpec ClusterObservation W} (h : (scheme instanceId).Told holdings m s)
    (hwell : ∀ exchange ∈ (External.cluster policy instanceId).retiring handler s,
      exchange.wentWell = true) :
    (External.cluster policy instanceId).retirement handler s = .ok .deleted := by
  have hfollowed := followed policy hkeeps
  rcases h.gone_or_written with hgone | hwritten
  · -- The look cannot read the cluster, which counts as a failure.
    obtain ⟨failure, hfailure⟩ := hkeeps.reads_missing s.world _ h.calm hgone
    have hasked : ⟨.platform (.getCluster instanceId ((scheme instanceId).name m)),
        .error failure⟩ ∈ (External.cluster policy instanceId).retiring handler s := by
      rw [External.retiring, External.retire_eq, Program.exchanges_bind]
      refine List.mem_append_left _ ?_
      show _ ∈ (observe instanceId s.resource).exchanges handler s.world
      rw [observe_named h.name, Program.exchanges, hfailure]
      exact List.mem_cons_self
    have hfailed := hwell _ hasked
    rw [Exchange.wentWell_failed] at hfailed
    simp at hfailed
  · have hlooked := hwritten.looked hfollowed (scheme_lawful instanceId) fun _ _ _ _ _ ↦ trivial
    obtain ⟨upToDate, hseen⟩ := hwritten.seen hfollowed (scheme_lawful instanceId)
    obtain ⟨hresult, -, hdeleting⟩ := External.retire_present hseen
    rw [hresult]
    cases hdeletion : (((External.cluster policy instanceId).delete
        (((External.cluster policy instanceId).looked handler s).resource.record
          .deleting)).run.run handler
        ((External.cluster policy instanceId).looked handler s).world).1 with
    | ok value => rfl
    | error error =>
        have hruns := Program.runs_exchanges handler ((External.cluster policy instanceId).delete
          (((External.cluster policy instanceId).looked handler s).resource.record
            .deleting)).run ((External.cluster policy instanceId).looked handler s).world
        rw [hdeletion] at hruns
        obtain ⟨exchange, hexchange, hfailed⟩ :=
          delete_failuresShow hattempts hlooked.name _ _ hruns
        exact absurd (hwell exchange (hdeleting exchange hexchange)) (by simp [hfailed])

end

variable (policy) in
/-- After a creation in which the cluster was applied, the platform holds the cluster, whatever else
failed. -/
theorem held_of_applied (hstores : holdings.StoresClusters handler instanceId) {cr : Cluster}
    {m : Platform.ClusterManifest} {world : W} (hmanifest : cr.spec.toManifest? = .ok m)
    (happlied : (handler (.platform (.applyCluster instanceId m)) world).1 = .ok ()) :
    holdings.held ((create policy instanceId cr).run.run handler world).2 m.metadata.name =
      some m.toCluster.declared := by
  obtain ⟨rest, hquiet, -, hrun, -⟩ := run_create handler policy instanceId hmanifest world
  rw [hrun, hstores.run_quiet hquiet]
  exact hstores.stores world m happlied

/-- After a creation that failed once the cluster was applied, and then passes of either kind with
rests between them: a resource that carries no name leaves the cluster behind when it is retired,
without a question to the platform; a converging pass that goes well puts the name on it; and a
resource that carries the name removes the cluster when it is retired and that goes well, which it
does if everything in the pass does. -/
theorem interrupted_removed_once_told {cr : Cluster} {m : Platform.ClusterManifest}
    {world later : W} {error : Error} (hstores : holdings.StoresClusters handler instanceId)
    (hkeeps : holdings.KeepsClusters handler instanceId)
    (hdeletes : holdings.DeletesClusters handler instanceId)
    (hunnamed : cr.externalName? = none) (hmanifest : cr.spec.toManifest? = .ok m)
    (happlied : (handler (.platform (.applyCluster instanceId m)) world).1 = .ok ())
    (hinterrupted : (create policy instanceId cr).run.run handler world = (.error error, later))
    {start s : Situation ClusterSpec ClusterObservation W} (hrest : holdings.Rest ⟨cr, later⟩ start)
    (hcourse : Course (External.cluster policy instanceId) handler holdings start s) :
    (s.resource.externalName? = none →
      (External.cluster policy instanceId).retirement handler s = .ok .noOp ∧
        (External.cluster policy instanceId).retiring handler s = [] ∧
        holdings.held ((External.cluster policy instanceId).retired handler s).world cr.spec.name =
          some m.toCluster.declared) ∧
      (∀ outcome, (External.cluster policy instanceId).result handler s = .ok outcome →
        cr.spec.name ≠ "" →
        ((External.cluster policy instanceId).after handler s).resource.externalName? =
          some cr.spec.name) ∧
      (s.resource.externalName?.isSome →
        (∀ outcome, (External.cluster policy instanceId).retirement handler s = .ok outcome →
          holdings.held ((External.cluster policy instanceId).retired handler s).world
            cr.spec.name = none) ∧
        (0 < policy.attempts →
          (∀ exchange ∈ (External.cluster policy instanceId).retiring handler s,
            exchange.wentWell = true) →
          (External.cluster policy instanceId).retirement handler s = .ok .deleted)) := by
  have hfollowed := followed policy hkeeps
  have hlawful := scheme_lawful instanceId
  have hremoves := removes policy hkeeps hdeletes
  obtain ⟨kustomization, -, hm⟩ := ClusterSpec.toManifest?_eq_ok.1 hmanifest
  have hname : (scheme instanceId).name m = cr.spec.name := by rw [hm]; rfl
  -- Whatever came after the application, it left the cluster on the platform.
  have hheld := held_of_applied policy hstores hmanifest happlied
  rw [hinterrupted] at hheld
  have hstart : (scheme instanceId).Untold holdings m start :=
    ⟨hrest.calm, hrest.externalName.trans hunnamed, (hrest.held _).trans hheld,
      by rw [hrest.spec]; exact hmanifest⟩
  rw [← hname]
  rcases hfollowed.tracked hlawful hremoves hstart hcourse with huntold | htold
  · obtain ⟨hretirement, hleft⟩ := huntold.retired hfollowed
    refine ⟨fun _ ↦ ⟨hretirement, ?_, hleft.held⟩, fun outcome hok hne ↦ ?_, fun hsome ↦ ?_⟩
    · rw [External.retiring, External.retire_eq]
      simp only [External.cluster, observe, huntold.name]
      rfl
    · rw [(huntold.after hfollowed).1 outcome hok, if_neg hne]
    · simp [huntold.name] at hsome
  · refine ⟨fun hnone ↦ ?_, fun _ _ _ ↦ (htold.after hfollowed hlawful).name, fun _ ↦
      ⟨(htold.retired hfollowed hlawful hremoves).2, fun hattempts hwell ↦
        retirement_told policy hkeeps hattempts htold hwell⟩⟩
    simp [htold.name] at hnone

/-! ## A download that breaks off -/

/-- The resource of the cluster in which the operator itself runs. -/
def hosting : Cluster where
  metadata := { name := some "prod" }
  spec := {
    name := "prod", enableInClusterKubeconfig := true, removeAgentResourcesOnDestroy := true }

/-- A world in which no manifests can be downloaded. -/
def cutOff : World where
  platform := { failures := .ofList [("get_cluster_manifests", .transport "stream reset")] }

/-- The situation after a creation in that world. -/
def cutShort : Situation ClusterSpec ClusterObservation World where
  resource := hosting
  world := ((create {} "argo" hosting).run.run World.answer cutOff).2

/-- The situation once manifests can be downloaded again. -/
def connected : Situation ClusterSpec ClusterObservation World where
  resource := hosting
  world := { cutShort.world with
    platform := { cutShort.world.platform with failures := .empty } }

/-- The situation after a further pass. -/
def resumed : Situation ClusterSpec ClusterObservation World :=
  (External.cluster {} "argo").after World.answer connected

/-- Retiring the cluster right away leaves it behind, and retiring it after a further pass removes
it. -/
theorem interrupted_removed_once_resumed :
    (World.clusters.held ((External.cluster {} "argo").retired World.answer connected).world
        "prod").isSome ∧
      (External.cluster {} "argo").retirement World.answer resumed = .ok .deleted ∧
      World.clusters.held ((External.cluster {} "argo").retired World.answer resumed).world "prod" =
        none := by
  obtain ⟨m, hm⟩ : ∃ m, hosting.spec.toManifest? = .ok m := ⟨_, rfl⟩
  have happlied : (World.answer (.platform (.applyCluster "argo" m)) cutOff).1 = .ok () := rfl
  have hfails : ((create {} "argo" hosting).run.run World.answer cutOff).1 =
      .error (.ofRemote (.transport "stream reset")) := by decide +kernel
  have hrest : World.clusters.Rest cutShort connected :=
    ⟨rfl, rfl, ⟨rfl, fun _ ↦ rfl⟩, fun _ ↦ rfl⟩
  have htracked {s : Situation ClusterSpec ClusterObservation World}
      (hcourse : Course (External.cluster {} "argo") World.answer World.clusters connected s) :=
    interrupted_removed_once_told (World.storesClusters "argo") (World.keepsClusters "argo")
      (World.deletesClusters "argo") rfl hm happlied (Prod.ext hfails rfl) hrest hcourse
  obtain ⟨huntold, hnamed, -⟩ := htracked .start
  obtain ⟨-, -, htold⟩ := htracked (.converge .start)
  have hcreated : (External.cluster {} "argo").result World.answer connected = .ok .created := by
    decide +kernel
  obtain ⟨hremoved, hdeleted⟩ := htold (by rw [hnamed _ hcreated (by decide)]; rfl)
  have hretired := hdeleted (by decide) (by decide +kernel)
  refine ⟨?_, hretired, hremoved _ hretired⟩
  have hleft := (huntold rfl).2.2
  exact Option.isSome_of_eq_some hleft

/-- A creation that fails after the cluster was applied leaves the cluster behind for good if the
resource is retired next, although nothing fails then. -/
theorem interrupted_left_behind :
    hosting.externalName? = none ∧
      (hosting.spec.toManifest?.toOption.any fun m ↦
        (World.answer (.platform (.applyCluster "argo" m)) cutOff).1.isOk) = true ∧
      ((create {} "argo" hosting).run.run World.answer cutOff).1.isOk = false ∧
      (External.cluster {} "argo").retirement World.answer connected = .ok .noOp ∧
      ((External.cluster {} "argo").retiring World.answer connected).all Exchange.wentWell = true ∧
      ((External.cluster {} "argo").retired World.answer connected).world.platform.clusters.contains
        hosting.spec.name = true := by
  decide +kernel

end Cluster

end FleetOperator
