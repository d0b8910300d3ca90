import FleetOperator.Proofs.Reconcile.OwnPatches

/-!
# Deletions that Kubernetes accepts

How the reconciliation of a deletion ends when the API server takes every patch. Read
`drive_accepted` first: the finalizer is removed and the reconciliation goes well if the pass went
well, and else the reconciliation fails as the pass did and the finalizer stays.
`Attempt.Succeeds` carries such statements from the requests to the steps that are made of them.
-/

namespace FleetOperator

namespace Attempt

variable {α β : Type} {fine : Exchange effects → Prop}

/-- Whether a step goes well whenever all its exchanges are fine. -/
def Succeeds (fine : Exchange effects → Prop) (step : Attempt α) : Prop :=
  ∀ exchanged result, Program.Runs (I := effects) step.run exchanged result →
    (∀ exchange ∈ exchanged, fine exchange) → ∃ value, result = .ok value

/-- A step that is known goes well. -/
theorem succeeds_pure (value : α) : (pure value : Attempt α).Succeeds fine := by
  intro exchanged result hrun _
  exact ⟨value, (runs_pure_iff.1 hrun).2⟩

/-- A step and the next one go well if both do. -/
theorem Succeeds.bind {step : Attempt α} {f : α → Attempt β} (h : step.Succeeds fine)
    (hnext : ∀ value, (f value).Succeeds fine) : (step >>= f).Succeeds fine := by
  intro exchanged result hrun hfine
  rcases runs_bind_iff.1 hrun with ⟨error, hfailed, -⟩ | ⟨first, value, second, -, hsecond, rfl⟩
  · obtain ⟨value, hvalue⟩ := h exchanged _ hfailed hfine
    cases hvalue
  · exact hnext value second result hsecond fun exchange hmem ↦
      hfine exchange (List.mem_append_right _ hmem)

end Attempt

variable {σ ω : Type} {kind : Kind σ ω} {cr : Resource σ ω} {exchanged : List (Exchange effects)}

/-- Whether a resource of a kind and its status can be addressed. -/
structure Kind.Addresses (kind : Kind σ ω) (cr : Resource σ ω) : Prop where
  named : cr.name ≠ ""
  paths : ∀ part ∈ ["", "/status"],
    Kube.Address.isPath (kind.path ++ "/" ++ cr.name ++ part).toList = true

/-- Whether an exchange, where it is one with the operator's own cluster, was answered by a resource
of a kind. -/
def Exchange.isTaken (kind : Kind σ ω) : Exchange effects → Bool
  | ⟨.kube _, .ok answer⟩ =>
    (kind.codec.ofJson? answer).isSome && (Kube.MetadataOnly.codec.ofJson? answer).isSome
  | ⟨.kube _, .error _⟩ => false
  | _ => true

/-- A request that is taken was answered by a resource, which has metadata. -/
theorem Exchange.answer_of_isTaken {request : Kube.Request} {answer : Kube.Response}
    (h : Exchange.isTaken kind ⟨.kube request, answer⟩ = true) : ∃ json, answer = .ok json ∧
      (∃ value, kind.codec.ofJson? json = some value) ∧
      ∃ known, Kube.MetadataOnly.codec.ofJson? json = some known := by
  cases answer with
  | error failure => cases h
  | ok json =>
      obtain ⟨hvalue, hknown⟩ := Bool.and_eq_true_iff.1 h
      exact ⟨json, rfl, Option.isSome_iff_exists.1 hvalue, Option.isSome_iff_exists.1 hknown⟩

/-- What a pass makes of a resource can be addressed like the resource. -/
theorem Kind.Addresses.of_renames (h : kind.Addresses cr) {after : Resource σ ω}
    (hrenames : after.metadata.Renames cr.metadata) : kind.Addresses after := by
  have hname : after.name = cr.name := by
    rcases hrenames with hsame | ⟨name, hnamed⟩
    · simp only [Resource.name, hsame]
    · simp only [Resource.name, hnamed, Metadata.annotate]
  constructor
  · rw [hname]
    exact h.named
  · rw [hname]
    exact h.paths

/-- A request for an object that is sent and accepted gives the object. -/
theorem object_accepted {α : Type} {c : Codec α} {collection name part : String}
    {method : Kube.Method} {query : List String} (hname : name ≠ "")
    (hpath : Kube.Address.isPath (collection ++ "/" ++ name ++ part).toList = true)
    {result : Except Kube.Failure α}
    (h : (homeClient.object c collection name part method query).Runs exchanged result)
    (haccepted : ∀ request answer, ⟨.kube request, answer⟩ ∈ exchanged →
      ∃ json, answer = .ok json ∧ ∃ value, c.ofJson? json = some value) :
    ∃ value, result = .ok value := by
  simp only [Kube.Client.object, if_neg hname, hpath, Bool.not_true, Bool.false_eq_true, if_false]
    at h
  obtain ⟨first, given, second, hasked, hread, rfl⟩ := Program.runs_bind_iff.1 h
  obtain ⟨answer, rest, rfl, hdone⟩ := Program.runs_ask_iff.1 hasked
  cases hdone
  obtain ⟨json, rfl, value, hvalue⟩ := haccepted _ given List.mem_cons_self
  obtain ⟨-, rfl⟩ := Program.runs_pure_iff.1 hread
  exact ⟨value, by rw [Kube.readObject, hvalue]⟩

/-- A step by a request that is accepted goes well. -/
theorem kube_succeeds {part : String} (haddress : kind.Addresses cr)
    (hpart : part ∈ ["", "/status"]) (method : Kube.Method) :
    (Attempt.kube (homeClient.object kind.codec kind.path cr.name part method [])).Succeeds
      (Exchange.isTaken kind · = true) := by
  intro exchanged result hrun hfine
  obtain ⟨first, given, second, hasked, hdone, rfl⟩ := Program.runs_bind_iff.1 hrun
  obtain ⟨rfl, rfl⟩ := Program.runs_pure_iff.1 hdone
  obtain ⟨value, rfl⟩ := object_accepted haddress.named (haddress.paths part hpart) hasked
    fun request answer hmem ↦ by
      obtain ⟨json, hjson, hvalue, -⟩ :=
        Exchange.answer_of_isTaken (hfine _ (List.mem_append_left _ hmem))
      exact ⟨json, hjson, hvalue⟩
  exact ⟨value, rfl⟩

/-- Removing the finalizer from a resource that carries it goes well if the patch is accepted. -/
theorem removeFinalizer_succeeds (haddress : kind.Addresses cr) :
    (Resource.removeFinalizer kind cr).Succeeds (Exchange.isTaken kind · = true) := by
  unfold Resource.removeFinalizer
  split
  · exact Attempt.succeeds_pure _
  · refine Attempt.Succeeds.bind ?_ fun _ ↦ Attempt.succeeds_pure _
    intro exchanged result hrun hfine
    obtain ⟨first, given, second, hasked, hdone, rfl⟩ := Program.runs_bind_iff.1 hrun
    obtain ⟨value, rfl⟩ := object_accepted haddress.named (haddress.paths "" (by simp)) hasked
      fun request answer hmem ↦ by
        obtain ⟨json, hjson, -, hknown⟩ :=
          Exchange.answer_of_isTaken (hfine _ (List.mem_append_left _ hmem))
        exact ⟨json, hjson, hknown⟩
    exact ⟨(), (Program.runs_pure_iff.1 hdone).2⟩

section

variable [DecidableEq σ] [DecidableEq ω]

/-- Writing back goes well if its patches are accepted. -/
theorem persist_succeeds {before after : Resource σ ω} (haddress : kind.Addresses after) :
    (persist kind before after).Succeeds (Exchange.isTaken kind · = true) := by
  have hstatus : (persistStatus kind before after).Succeeds (Exchange.isTaken kind · = true) := by
    unfold persistStatus
    split
    · exact (kube_succeeds haddress (by simp) _).bind fun _ ↦ Attempt.succeeds_pure ()
    · exact Attempt.succeeds_pure ()
  rw [persist_eq]
  split
  · exact (kube_succeeds haddress (by simp) _).bind fun _ ↦ hstatus
  · exact hstatus

/-- A pass that is written back and told gives its own result, and what follows it changes neither
the platform nor the finalizers. -/
theorem told_accepted {external : Except Error (External σ ω)}
    (h : ∀ known, external = .ok known → known.Leaves) (haddress : kind.Addresses cr)
    {result : Except Error Outcome}
    (hrun : Program.Runs (I := effects) (withEvent kind cr (syncPass kind cr external)).run
      exchanged result)
    (hfine : ∀ exchange ∈ exchanged, exchange.isTaken kind = true) :
    ∃ passing live rest, (passOver external cr).Runs passing (live, result) ∧
      exchanged = passing ++ rest ∧
      ∀ exchange ∈ rest, ¬ exchange.call.isWrite ∧ exchange.call.removesFinalizer = false := by
  obtain ⟨working, telling, hwork, rfl, htelling⟩ := withEvent_runs hrun
  rw [syncPass_eq] at hwork
  obtain ⟨passing, ⟨live, passed⟩, rest, hpass, hrest, rfl⟩ := Program.runs_bind_iff.1 hwork
  obtain ⟨writing, written, last, hwrite, hdone, rfl⟩ := Program.runs_bind_iff.1 hrest
  have hlive : kind.Addresses (live.markSynced passed) :=
    haddress.of_renames (Reached.renames h ⟨passing, live, passed, hpass, rfl⟩)
  obtain ⟨⟨⟩, rfl⟩ := persist_succeeds hlive writing written hwrite fun exchange hmem ↦
    hfine exchange (by simp [hmem])
  obtain ⟨rfl, rfl⟩ := Program.runs_pure_iff.1 hdone
  refine ⟨passing, live, writing ++ telling, hpass, by simp, fun exchange hmem ↦ ?_⟩
  rcases List.mem_append.1 hmem with hmem | hmem
  · obtain ⟨request, hneeded, hcall⟩ := (persist_asks kind cr _).runs hwrite exchange hmem
    rw [hcall]
    exact ⟨id, removesFinalizer_of_needed hneeded⟩
  · obtain ⟨event, hcall⟩ := htelling exchange hmem
    rw [hcall]
    exact ⟨id, rfl⟩

/-- The reconciliation of a deletion that is accepted goes as its pass goes: after a pass that goes
well the finalizer is removed and the reconciliation goes well; and else it fails as the pass did,
and the finalizer stays. Nothing but the pass changes the platform. -/
theorem drive_accepted {external : Except Error (External σ ω)}
    (h : ∀ known, external = .ok known → known.Leaves) (hdeleting : cr.isDeleting = true)
    (hfinalizer : cr.hasFinalizer = true) (haddress : kind.Addresses cr) {requeue : Duration}
    {result : Except Error Action}
    (hrun : Program.Runs (I := effects) (drive kind requeue cr external).run exchanged result)
    (hfine : ∀ exchange ∈ exchanged, exchange.isTaken kind = true) :
    ∃ passing live passed rest, (passOver external cr).Runs passing (live, passed) ∧
      exchanged = passing ++ rest ∧ (∀ exchange ∈ rest, ¬ exchange.call.isWrite) ∧
      (∀ outcome, passed = .ok outcome → result = .ok .awaitChange ∧
        ∃ removal ∈ rest, removal.call = .kube (cr.patchRequest kind ""
          (Resource.finalizerPatch (cr.finalizers.filter (· != finalizerName))))) ∧
      ∀ error, passed = .error error → result = .error error ∧
        ∀ exchange ∈ rest, exchange.call.removesFinalizer = false := by
  rw [drive_deleting hdeleting hfinalizer] at hrun
  rcases Attempt.runs_bind_iff.1 hrun with
    ⟨error, hfailed, rfl⟩ | ⟨told, outcome, ending, hworked, hending, rfl⟩
  · obtain ⟨passing, live, rest, hpass, rfl, hrest⟩ := told_accepted h haddress hfailed hfine
    refine ⟨passing, live, .error error, rest, hpass, rfl, fun exchange hmem ↦
      (hrest exchange hmem).1, fun outcome hok ↦ ?_, fun other hother ↦ ?_⟩
    · cases hok
    · obtain rfl := Except.error.inj hother
      exact ⟨rfl, fun exchange hmem ↦ (hrest exchange hmem).2⟩
  · obtain ⟨passing, live, rest, hpass, rfl, hrest⟩ := told_accepted h haddress hworked
      fun exchange hmem ↦ hfine exchange (List.mem_append_left _ hmem)
    have hending_fine : ∀ exchange ∈ ending, exchange.isTaken kind = true :=
      fun exchange hmem ↦ hfine exchange (List.mem_append_right _ hmem)
    rcases Attempt.runs_bind_iff.1 hending with
      ⟨error, hfailed, -⟩ | ⟨removing, removed, counting, hremoved, hcounted, rfl⟩
    · obtain ⟨value, hvalue⟩ := removeFinalizer_succeeds haddress _ _ hfailed hending_fine
      cases hvalue
    · obtain ⟨removal, rfl, hremoval⟩ := Resource.removeFinalizer_runs_ok hfinalizer hremoved
      obtain ⟨answer, last, rfl, hdone⟩ := Program.runs_ask_iff.1 hcounted
      cases hdone
      refine ⟨passing, live, .ok outcome, _, hpass, List.append_assoc _ _ _, fun exchange hmem ↦ ?_,
        fun _ _ ↦ ⟨rfl, removal, by simp, hremoval⟩, fun error herror ↦ ?_⟩
      · simp only [List.mem_append, List.mem_cons, List.not_mem_nil, or_false] at hmem
        rcases hmem with hmem | rfl | rfl
        · exact (hrest exchange hmem).1
        · rw [hremoval]
          exact id
        · exact id
      · cases herror

end

end FleetOperator
