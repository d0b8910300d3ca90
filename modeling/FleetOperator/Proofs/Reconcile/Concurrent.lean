import FleetOperator.Proofs.Cluster.Deletion
import FleetOperator.Proofs.Instance.Runs
import FleetOperator.Proofs.Reconcile.OwnPatches

/-!
# Changes by other clients

What becomes of the changes that other clients make to a resource while a reconciliation works on
its copy of it. Read `concurrent_change_kept_unless_carried` first: a finalizer list, an annotation
or a part of the specification keeps what another client made of it unless a later patch of the
reconciliation carries it. `Carries` lists these patches: they are made from the copy, and nothing
tells the API server which state of the resource it was. By `finalizers_overwritten` and
`annotation_overwritten` what others made of such a place is lost.
-/

namespace FleetOperator

/-- A place of a resource that other clients change too: the list of finalizers, an annotation, or a
part of the specification. -/
inductive Place where
  | finalizers
  | annotated (key : String)
  | spec (field : List String)

/-- The keys that lead to a place. -/
def Place.keys : Place → List String
  | finalizers => ["metadata", "finalizers"]
  | annotated key => ["metadata", "annotations", key]
  | spec field => "spec" :: field

variable {σ ω : Type}

/-- A patch of the finalizers puts its own list in the place of any other. -/
theorem Resource.finalizers_overwritten (finalizers : List String) (stored : Json) :
    Json.valueAt? Place.finalizers.keys (stored.mergePatch (finalizerPatch finalizers)) =
      some (.array (finalizers.map .text)) :=
  Json.valueAt?_mergePatch_of_set (finalizerPatch_ordered _) rfl (by simp) (by simp) stored

/-- A patch of annotations and specification puts each annotation in the place of any other of the
same key. -/
theorem Resource.annotation_overwritten (kind : Kind σ ω) {cr : Resource σ ω} {key value : String}
    (h : cr.annotations.get? key = some value) (stored : Json) :
    Json.valueAt? (Place.annotated key).keys (stored.mergePatch (cr.mainPatch kind)) =
      some (.text value) := by
  refine Json.valueAt?_mergePatch_of_set (cr.mainPatch_ordered kind) ?_ (by simp) (by simp) stored
  simp [Place.keys, Json.valueAt?, Json.get?, Resource.mainPatch, Json.lookup,
    Codec.dict_toJson, Codec.lookup_mapValues, h, Codec.text_toJson]

/-- A resource with the same metadata but for the name of the remote object has no other annotations
but this name. -/
theorem Metadata.Renames.contains {after before : Resource σ ω}
    (h : after.metadata.Renames before.metadata) {key : String}
    (hkey : after.annotations.contains key = true) :
    before.annotations.contains key = true ∨ key = externalNameKey := by
  obtain hsame | ⟨name, hname⟩ := h
  · rw [Resource.annotations, hsame] at hkey
    exact .inl hkey
  · by_cases hexternal : key = externalNameKey
    · exact .inr hexternal
    · rw [Resource.annotations, hname, Metadata.annotate, Option.getD_some, Dict.contains,
        Dict.get?_insert_ne _ _ (Ne.symm hexternal)] at hkey
      exact .inl hkey

section

variable [DecidableEq σ] [DecidableEq ω]

/-- The patches of a reconciliation that carry a place, as it stands on the copy of the resource.
Adding the finalizer and removing it carries all finalizers, and a change of annotations or
specification carries all annotations of the copy and all that its specification writes. -/
inductive Carries (kind : Kind σ ω) (external : Except Error (External σ ω)) (cr : Resource σ ω) :
    Place → Json → Prop
  | adding (hdeleting : cr.isDeleting = false) (hfinalizer : cr.hasFinalizer = false) :
      Carries kind external cr .finalizers
        (Resource.finalizerPatch (cr.finalizers ++ [finalizerName]))
  | removing (hdeleting : cr.isDeleting = true) (hfinalizer : cr.hasFinalizer = true) :
      Carries kind external cr .finalizers
        (Resource.finalizerPatch (cr.finalizers.filter (· != finalizerName)))
  | annotated {key : String} {after : Resource σ ω} (hreached : Reached external cr after)
      (hchanged : cr.annotations ≠ after.annotations ∨ cr.spec ≠ after.spec)
      (hkey : cr.annotations.contains key = true ∨ key = externalNameKey) :
      Carries kind external cr (.annotated key) (after.mainPatch kind)
  | spec {field : List String} {after : Resource σ ω} (hreached : Reached external cr after)
      (hchanged : cr.annotations ≠ after.annotations ∨ cr.spec ≠ after.spec)
      (hfield : Json.touches field (kind.spec.toJson after.spec) = true) :
      Carries kind external cr (.spec field) (after.mainPatch kind)

/-- The object of a resource after a history. -/
def Kind.afterHistory (kind : Kind σ ω) (cr : Resource σ ω) (stored : Json)
    (history : List Happening) : Json :=
  replay (kind.path ++ "/" ++ cr.name) stored history

/-- Whether every change by another client to a place of a resource is kept through every history
with the exchanges of a reconciliation, as long as no other client changes the place again and no
later patch carries it. -/
def KeepsChanges (kind : Kind σ ω) (external : Except Error (External σ ω)) (cr : Resource σ ω)
    (exchanged : List (Exchange effects)) : Prop :=
  ∀ (stored : Json) (place : Place) (earlier later : List Happening),
    (earlier ++ later).filterMap Happening.exchange? = exchanged →
    OthersKeep (kind.path ++ "/" ++ cr.name) place.keys
      (kind.afterHistory cr stored earlier) later →
    Json.valueAt? place.keys (kind.afterHistory cr stored (earlier ++ later)) =
        Json.valueAt? place.keys (kind.afterHistory cr stored earlier) ∨
      ∃ happening ∈ later, ∃ patch,
        happening.patch? (kind.path ++ "/" ++ cr.name) = some patch ∧
        Carries kind external cr place patch

variable {kind : Kind σ ω} {external : Except Error (External σ ω)} {cr : Resource σ ω}

/-- The patches of a reconciliation are ordered, and those that reach a place carry it. -/
theorem Sends.carries (h : ∀ known, external = .ok known → known.Leaves)
    {request : Kube.Request} (hsends : Sends kind external cr request) {path : String}
    {patch : Json} (hpatch : (Effect.kube request).patch? path = some patch) :
    patch.Ordered ∧ ∀ place : Place, Json.touches place.keys patch = true →
      Carries kind external cr place patch := by
  -- A patch of the finalizers reaches no other place.
  have hfinalizers : ∀ finalizers, Carries kind external cr .finalizers
      (Resource.finalizerPatch finalizers) → ∀ place : Place,
      Json.touches place.keys (Resource.finalizerPatch finalizers) = true →
        Carries kind external cr place (Resource.finalizerPatch finalizers) := by
    intro finalizers hcarries place htouches
    cases place with
    | finalizers => exact hcarries
    | annotated | spec =>
        simp [Place.keys, Json.touches, Resource.finalizerPatch, Json.lookup] at htouches
  cases hsends with
  | adding hdeleting hfinalizer =>
      obtain rfl := Resource.patch?_patchRequest hpatch
      exact ⟨Resource.finalizerPatch_ordered _, hfinalizers _ (.adding hdeleting hfinalizer)⟩
  | removing hdeleting hfinalizer =>
      obtain rfl := Resource.patch?_patchRequest hpatch
      exact ⟨Resource.finalizerPatch_ordered _, hfinalizers _ (.removing hdeleting hfinalizer)⟩
  | @writing after hreached _ hneeded =>
      rcases List.mem_append.1 hneeded with hmain | hstatus
      · unfold neededMain at hmain
        split at hmain
        · next hchanged =>
          obtain rfl := List.mem_singleton.1 hmain
          obtain rfl := Resource.patch?_patchRequest hpatch
          refine ⟨after.mainPatch_ordered kind, fun place htouches ↦ ?_⟩
          cases place with
          | finalizers =>
              simp [Place.keys, Json.touches, Resource.mainPatch, Json.lookup] at htouches
          | annotated key =>
              refine .annotated hreached hchanged ((hreached.renames h).contains ?_)
              simpa [Place.keys, Json.touches, Resource.mainPatch, Json.lookup, Codec.dict_toJson,
                Codec.lookup_mapValues, Dict.contains] using htouches
          | spec field =>
              exact .spec hreached hchanged
                (by simpa [Place.keys, Json.touches, Resource.mainPatch, Json.lookup]
                  using htouches)
        · simp at hmain
      · unfold neededStatus at hstatus
        split at hstatus
        · obtain rfl := List.mem_singleton.1 hstatus
          obtain rfl := Resource.patch?_patchRequest hpatch
          refine ⟨after.statusPatch_ordered kind, fun place htouches ↦ ?_⟩
          cases place <;>
            simp [Place.keys, Json.touches, Resource.statusPatch, Json.lookup] at htouches
        · simp at hstatus

/-- Exchanges that change a resource by the requests of a reconciliation alone keep the changes of
other clients. -/
theorem keepsChanges_of_own (h : ∀ known, external = .ok known → known.Leaves)
    {exchanged : List (Exchange effects)}
    (hown : ∀ exchange ∈ exchanged, exchange.IsOwn kind external cr) :
    KeepsChanges kind external cr exchanged := by
  intro stored place earlier later hhistory hothers
  refine (Classical.em _).symm.imp_left fun hcarried ↦ ?_
  rw [Kind.afterHistory, replay_append, ← Kind.afterHistory]
  refine valueAt?_replay hothers fun happening hmem patch hpatch ↦ ?_
  obtain ⟨exchange, hexchange, hsent⟩ := Happening.exchange?_of_patch? hpatch
  have hmine : exchange ∈ exchanged := by
    rw [← hhistory]
    exact List.mem_filterMap.2 ⟨happening, List.mem_append_right _ hmem, hexchange⟩
  rcases hown exchange hmine with helse | ⟨request, heq, hsends⟩
  · rw [Effect.patch?_of_not_home helse] at hsent
    simp at hsent
  · obtain ⟨hordered, hcarries⟩ := hsends.carries h (heq ▸ hsent)
    refine ⟨hordered, Bool.eq_false_iff.2 fun htouches ↦ hcarried ?_⟩
    exact ⟨happening, hmem, patch, hpatch, hcarries place htouches⟩

end

/-! ## Clusters and instances -/

namespace Cluster

/-- A creation that goes well puts the name of the cluster on the resource. -/
theorem create_runs_ok {policy : PollPolicy} {instanceId : String} {cr created : Cluster}
    {exchanged : List (Exchange effects)}
    (h : Program.Runs (I := effects) (create policy instanceId cr).run exchanged (.ok created)) :
    ∃ name, created = cr.withExternalName name := by
  rw [create_eq] at h
  obtain ⟨first, manifest, second, -, hrest, rfl⟩ := Attempt.runs_bind_ok h
  obtain ⟨third, applied, last, -, hfinish, rfl⟩ := Attempt.runs_bind_ok hrest
  refine ⟨manifest.metadata.name, ?_⟩
  unfold finish at hfinish
  split at hfinish
  · obtain ⟨_, _, _, -, hinstall, -⟩ := Attempt.runs_bind_ok hfinish
    obtain ⟨_, _, _, -, hdone, -⟩ := Attempt.runs_bind_ok hinstall
    exact Except.ok.inj (Attempt.runs_pure_iff.1 hdone).2
  · exact Except.ok.inj (Attempt.runs_pure_iff.1 hfinish).2

/-- What is done with clusters leaves their resources to the operator. -/
theorem leaves (policy : PollPolicy) (instanceId : String) :
    (External.cluster policy instanceId).Leaves where
  looks cr := observe_asks fun _ _ ↦ rfl
  creates cr := create_asks (agentManifests_asks (by rfl) (fun _ ↦ by rfl) (fun _ ↦ by rfl) policy)
    (fun _ _ ↦ rfl) fun _ ↦ rfl
  updates cr := update_asks fun _ _ ↦ rfl
  deletes cr := delete_asks (agentManifests_asks (by rfl) (fun _ ↦ by rfl) (fun _ ↦ by rfl) policy)
    (fun _ _ ↦ rfl) fun _ ↦ rfl
  looked hlook := by
    cases observe_runs hlook with
    | unnamed | unread => rfl
    | read hname remote =>
        simp only [reflect]
        split <;> rfl
  created := create_runs_ok

/-- What is done with clusters of an instance that may not have been found leaves their resources to
the operator. -/
theorem leaves_resolved (policy : PollPolicy) (resolved : Except Error String) :
    ∀ known, resolved.map (External.cluster policy) = .ok known → known.Leaves := by
  intro known hknown
  obtain ⟨instanceId, -, rfl⟩ := map_eq_ok.1 hknown
  exact leaves policy instanceId

end Cluster

namespace Instance

/-- What is done with instances leaves their resources to the operator. -/
theorem leaves (rules : NormalizeRules) : (External.inst rules).Leaves where
  looks cr := observe_asks fun _ _ ↦ ⟨rfl, rfl⟩
  creates cr := (write_asks fun _ _ ↦ rfl).1
  updates cr := (write_asks fun _ _ ↦ rfl).2
  deletes cr := delete_asks fun _ _ ↦ rfl
  looked hlook := by
    cases observe_runs hlook with
    | unnamed | unknown | unread | unexported => rfl
    | read hname bundle =>
        simp only [reflect]
        split
        · rfl
        · split <;> rfl
  created hcreate := by
    obtain ⟨first, request, second, -, hrest, rfl⟩ := Attempt.runs_bind_ok hcreate
    obtain ⟨third, applied, last, -, hdone, rfl⟩ := Attempt.runs_bind_ok hrest
    exact ⟨request.id, Except.ok.inj (Attempt.runs_pure_iff.1 hdone).2⟩

/-- What is done with instances is known, and leaves their resources to the operator. -/
theorem leaves_known (rules : NormalizeRules) :
    ∀ known, Except.ok (External.inst rules) = (.ok known : Except Error _) → known.Leaves := by
  intro known hknown
  obtain rfl := Except.ok.inj hknown
  exact leaves rules

end Instance

/-- Whatever other clients do to a resource while a reconciliation works on its copy, and wherever
their changes stand between its requests: a finalizer list, an annotation or a part of the
specification keeps what another client made of it, unless another client changes it again or a
later patch of the reconciliation carries it. -/
theorem concurrent_change_kept_unless_carried {practice : Practice}
    {exchanged : List (Exchange effects)} {result : Except Error Action} :
    (∀ {cr : Cluster},
      Program.Runs (I := effects) (reconcileCluster practice cr).run exchanged result →
      ∃ resolving resolved,
        Program.Runs (I := effects) cr.spec.resolveInstance.run resolving resolved ∧
        KeepsChanges Kind.cluster (resolved.map (External.cluster practice.poll)) cr exchanged) ∧
      ∀ {cr : Instance},
        Program.Runs (I := effects) (reconcileInstance practice cr).run exchanged result →
        KeepsChanges Kind.inst (.ok (External.inst practice.rules)) cr exchanged := by
  constructor
  · intro cr hrun
    obtain ⟨resolving, resolved, driving, hresolve, hdrive, rfl⟩ :=
      Cluster.reconcileCluster_runs hrun
    have hleaves : ∀ known, resolved.map (External.cluster practice.poll) = .ok known →
        known.Leaves := by
      intro known hknown
      obtain ⟨instanceId, -, rfl⟩ := map_eq_ok.1 hknown
      exact Cluster.leaves practice.poll instanceId
    have hquiet : Program.Asks (I := effects) (Effect.isHome · = false)
        cr.spec.resolveInstance.run :=
      Cluster.resolveInstance_asks (fun _ ↦ rfl) (fun _ ↦ rfl) cr.spec
    refine ⟨resolving, resolved, hresolve, keepsChanges_of_own hleaves fun exchange hmem ↦ ?_⟩
    rcases List.mem_append.1 hmem with hresolving | hdriving
    · exact .inl (hquiet.runs hresolve exchange hresolving)
    · exact drive_sends hleaves hdrive exchange hdriving
  · intro cr hrun
    have hleaves : ∀ known,
        Except.ok (External.inst practice.rules) = (.ok known : Except Error _) →
        known.Leaves := by
      rintro known hknown
      obtain rfl := Except.ok.inj hknown
      exact Instance.leaves practice.rules
    exact keepsChanges_of_own hleaves (drive_sends hleaves hrun)

/-- The copy of a resource that a reconciliation was given. -/
def copied : Cluster where
  metadata := {
    name := some "prod"
    annotations := some (.ofList [(externalNameKey, "prod"), ("team", "platform")]) }
  spec := { name := "prod", instanceId := some "argo", properties := { description := some "old" } }

/-- The resource as the copy was made. -/
def copiedObject : Json := Kind.cluster.codec.toJson copied

/-- What another client has changed since. -/
def othersPatch : Json :=
  .object [
    ("metadata", .object [
      ("annotations", .object [("note", .text "handle with care"), ("team", .text "payments")]),
      ("finalizers", .array [.text "backup.io/finalizer"])]),
    ("spec", .object [("clusterSpec", .object [("description", .text "new")])])]

/-- A world that holds the changed resource and its cluster. -/
def changedWorld : World where
  platform := { clusters := .ofList [("prod", { id := "c-1", name := "prod" })] }
  kube := {
    objects := .ofList [(Kind.cluster.path ++ "/prod", copiedObject.mergePatch othersPatch)] }

/-- The exchanges of a reconciliation that works on the copy. -/
def copiedExchanges : List (Exchange effects) :=
  (reconcileCluster {} copied).run.exchanges World.answer changedWorld

/-- The change by the other client, followed by the reconciliation. -/
def changedHistory : List Happening :=
  .changed (·.mergePatch othersPatch) :: copiedExchanges.map (.answered · false)

/-- An annotation that the copy does not have outlasts the reconciliation. -/
theorem concurrent_change_kept_noted :
    Json.valueAt? (Place.annotated "note").keys
      (Kind.cluster.afterHistory copied copiedObject changedHistory) =
        some (.text "handle with care") := by
  obtain ⟨resolving, resolved, -, hkeeps⟩ := concurrent_change_kept_unless_carried.1
    (Program.runs_exchanges World.answer (reconcileCluster {} copied).run changedWorld)
  have hown : changedHistory.filterMap Happening.exchange? = copiedExchanges := by
    simp [changedHistory, List.filterMap_cons, List.filterMap_map, Happening.exchange?,
      Function.comp_def]
  rcases hkeeps copiedObject (.annotated "note") [.changed (·.mergePatch othersPatch)]
    (copiedExchanges.map (.answered · false)) hown (othersKeep_answered _ _ _ _ fun _ ↦ false) with
    hkept | ⟨happening, -, patch, -, hcarries⟩
  · exact hkept.trans (by decide +kernel)
  · cases hcarries with
    | annotated hreached hchanged hkey => exact absurd hkey (by decide +kernel)

/-- A finalizer, an annotation and a part of the specification that another client changed since the
copy was made are lost, although the pass leaves all three as they are on the copy. -/
theorem concurrent_change_lost :
    let changed := copiedObject.mergePatch othersPatch
    let final := Kind.cluster.afterHistory copied copiedObject changedHistory
    let live := ((passOver (.ok (External.cluster {} "argo")) copied).run World.answer
      changedWorld).1.1
    let description := Place.spec ["clusterSpec", "description"]
    live.finalizers = copied.finalizers ∧
      live.annotations.get? "team" = copied.annotations.get? "team" ∧
      live.spec.properties.description = copied.spec.properties.description ∧
      Json.valueAt? Place.finalizers.keys changed = some (.array [.text "backup.io/finalizer"]) ∧
      Json.valueAt? Place.finalizers.keys final = some (.array [.text finalizerName]) ∧
      Json.valueAt? (Place.annotated "team").keys changed = some (.text "payments") ∧
      Json.valueAt? (Place.annotated "team").keys final = some (.text "platform") ∧
      Json.valueAt? description.keys changed = some (.text "new") ∧
      Json.valueAt? description.keys final = some (.text "old") := by
  decide +kernel

end FleetOperator
