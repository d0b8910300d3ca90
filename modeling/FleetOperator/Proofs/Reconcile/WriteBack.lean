import FleetOperator.Proofs.Runs
import FleetOperator.Reconcile.Drive

/-!
# Requests of a reconciliation

What a reconciliation asks of the API server: the patches by which a pass is written back, and the
patch of the finalizers. Read `persist_runs_ok` first: writing back goes well only if each patch
that is needed was sent and accepted. `Effect.removesFinalizer` tells the patch that lets a resource
go, and no patch of writing back is one.
-/

namespace FleetOperator

/-- Whether a list of finalizers, as it is written, holds the operator's. -/
def Json.holdsFinalizer : Json → Bool
  | .array finalizers => finalizers.any fun finalizer ↦ finalizer.asText? == some finalizerName
  | _ => false

/-- Whether a patch sets finalizers without the operator's. -/
def Kube.Request.removesFinalizer (request : Kube.Request) : Bool :=
  match request.method with
  | .patch _ body =>
    match (body.get? "metadata").bind (·.get? "finalizers") with
    | some finalizers => !finalizers.holdsFinalizer
    | none => false
  | .get | .delete => false

/-- Whether an effect is a patch that removes the operator's finalizer from an object. -/
def Effect.removesFinalizer : Effect → Bool
  | .kube request => request.removesFinalizer
  | _ => false

/-- Whether an exchange is a request that was answered by an object of a form. -/
def Exchange.Accepted {α : Type} (c : Codec α) (exchange : Exchange effects) : Prop :=
  ∃ request answer value, exchange = ⟨.kube request, .ok answer⟩ ∧ c.ofJson? answer = some value

/-- A request for an object is sent once or not at all, and gives an object only if the answer is
one. -/
theorem object_runs {α : Type} {c : Codec α} {collection name part : String} {method : Kube.Method}
    {query : List String} {exchanged : List (Exchange effects)} {result : Except Kube.Failure α}
    (h : (homeClient.object c collection name part method query).Runs exchanged result) :
    (exchanged = [] ∧ ∃ failure, result = .error failure) ∨
      ∃ answer, exchanged = [⟨.kube ⟨method, collection ++ "/" ++ name ++ part, query⟩, answer⟩] ∧
        result = answer.bind (Kube.readObject c (collection ++ "/" ++ name ++ part)) := by
  simp only [Kube.Client.object] at h
  split at h
  · exact .inl ⟨(Program.runs_pure_iff.1 h).1, _, (Program.runs_pure_iff.1 h).2⟩
  · split at h
    · exact .inl ⟨(Program.runs_pure_iff.1 h).1, _, (Program.runs_pure_iff.1 h).2⟩
    · obtain ⟨first, answer, second, hasked, hread, rfl⟩ := Program.runs_bind_iff.1 h
      obtain ⟨given, rest, rfl, hdone⟩ := Program.runs_ask_iff.1 hasked
      cases hdone
      refine .inr ⟨answer, ?_⟩
      cases answer with
      | ok value =>
          obtain ⟨rfl, rfl⟩ := Program.runs_pure_iff.1 hread
          exact ⟨rfl, rfl⟩
      | error failure =>
          obtain ⟨rfl, rfl⟩ := Program.runs_pure_iff.1 hread
          exact ⟨rfl, rfl⟩

/-- A request that gives an object was sent and accepted. -/
theorem object_runs_ok {α : Type} {c : Codec α} {collection name part : String}
    {method : Kube.Method} {query : List String} {exchanged : List (Exchange effects)} {value : α}
    (h : (homeClient.object c collection name part method query).Runs exchanged (.ok value)) :
    exchanged.map (·.call) = [.kube ⟨method, collection ++ "/" ++ name ++ part, query⟩] ∧
      ∀ exchange ∈ exchanged, exchange.Accepted c := by
  rcases object_runs h with ⟨-, failure, hfailure⟩ | ⟨answer, rfl, hread⟩
  · simp at hfailure
  · cases answer with
    | error failure => exact absurd hread (by simp [Except.bind])
    | ok json =>
        refine ⟨rfl, fun exchange hexchange ↦ ?_⟩
        obtain rfl := List.mem_singleton.1 hexchange
        refine ⟨_, json, value, rfl, ?_⟩
        simp only [Except.bind, Kube.readObject] at hread
        split at hread
        · next found hfound => rw [hfound, Except.ok.inj hread]
        · simp at hread

/-- A request for an object asks nothing else. -/
theorem object_asks {α : Type} {c : Codec α} {collection name part : String} {method : Kube.Method}
    {query : List String} {asked : Effect → Prop}
    (h : asked (.kube ⟨method, collection ++ "/" ++ name ++ part, query⟩)) :
    (homeClient.object c collection name part method query).Asks asked := by
  simp only [Kube.Client.object]
  split
  · trivial
  · split
    · trivial
    · refine Program.Asks.bind ⟨h, fun _ ↦ trivial⟩ ?_
      rintro (failure | answer) <;> trivial

namespace Attempt

variable {α : Type} {answer : Program effects (Except Kube.Failure α)}

/-- A step by requests that goes well is a run of the requests that does. -/
theorem runs_kube_ok {exchanged : List (Exchange effects)} {value : α}
    (h : Program.Runs (I := effects) (Attempt.kube answer).run exchanged (.ok value)) :
    answer.Runs exchanged (.ok value) := by
  have heq : (Attempt.kube answer).run = answer >>= fun given ↦
      pure (given.mapError fun failure ↦ Error.kube failure.message) := rfl
  rw [heq] at h
  obtain ⟨first, given, second, hasked, hdone, rfl⟩ := Program.runs_bind_iff.1 h
  obtain ⟨rfl, hgiven⟩ := Program.runs_pure_iff.1 hdone
  obtain rfl := mapError_eq_ok.1 hgiven.symm
  rw [List.append_nil]
  exact hasked

/-- A step by requests asks what the requests ask. -/
theorem asks_kube {asked : Effect → Prop} (h : answer.Asks asked) :
    Program.Asks (I := effects) asked (Attempt.kube answer).run :=
  Program.Asks.bind h fun _ ↦ trivial

end Attempt

/-! ## Writing back -/

section

variable {σ ω : Type} (kind : Kind σ ω) (before after : Resource σ ω)

/-- The request by which a patch is sent to a resource or to a part of it. -/
def Resource.patchRequest (cr : Resource σ ω) (part : String) (patch : Json) : Kube.Request where
  method := .patch .merge patch
  path := kind.path ++ "/" ++ cr.name ++ part

variable [DecidableEq σ] [DecidableEq ω]

/-- The patch of annotations and specification, if one is needed. -/
def neededMain : List Kube.Request :=
  if before.annotations ≠ after.annotations ∨ before.spec ≠ after.spec then
    [after.patchRequest kind "" (after.mainPatch kind)]
  else []

/-- The patch of the status, if one is needed. -/
def neededStatus : List Kube.Request :=
  if before.status ≠ after.status then
    [after.patchRequest kind "/status" (after.statusPatch kind)]
  else []

/-- The patches that are needed to write back what a pass made of a resource, in their order. -/
def neededPatches : List Kube.Request :=
  neededMain kind before after ++ neededStatus kind before after

/-- Whether requests were sent, one by one, and each was answered by a resource of a kind. -/
def Kind.Applied (requests : List Kube.Request) (exchanged : List (Exchange effects)) : Prop :=
  exchanged.map (·.call) = requests.map .kube ∧ ∀ exchange ∈ exchanged, exchange.Accepted kind.codec

/-- The second half of writing back. -/
def persistStatus : Attempt Unit := do
  if before.status ≠ after.status then
    let _ ← Attempt.kube
      (homeClient.mergeStatus kind.codec kind.path after.name (after.statusPatch kind))

/-- Writing back is a patch of annotations and specification, if one is needed, and the rest. -/
theorem persist_eq : persist kind before after =
    if before.annotations ≠ after.annotations ∨ before.spec ≠ after.spec then do
      let _ ← Attempt.kube
        (homeClient.merge kind.codec kind.path after.name (after.mainPatch kind))
      persistStatus kind before after
    else persistStatus kind before after := rfl

variable {kind before after} {exchanged : List (Exchange effects)}

omit [DecidableEq σ] in
/-- The second half of writing back goes well only if the patch of the status, if one is needed, was
sent and accepted. -/
theorem persistStatus_runs_ok
    (h : Program.Runs (I := effects) (persistStatus kind before after).run exchanged (.ok ())) :
    kind.Applied (neededStatus kind before after) exchanged := by
  unfold persistStatus at h
  unfold neededStatus
  split at h
  · next hneeded =>
    rw [if_pos hneeded]
    obtain ⟨first, value, second, hsent, hdone, rfl⟩ := Attempt.runs_bind_ok h
    obtain ⟨rfl, -⟩ := Attempt.runs_pure_iff.1 hdone
    rw [List.append_nil]
    exact object_runs_ok (Attempt.runs_kube_ok hsent)
  · next hneeded =>
    rw [if_neg hneeded]
    obtain ⟨rfl, -⟩ := Attempt.runs_pure_iff.1 h
    exact ⟨rfl, by simp⟩

/-- Writing back goes well only if each patch that is needed was sent and accepted. -/
theorem persist_runs_ok
    (h : Program.Runs (I := effects) (persist kind before after).run exchanged (.ok ())) :
    kind.Applied (neededPatches kind before after) exchanged := by
  rw [persist_eq] at h
  unfold neededPatches neededMain
  split at h
  · next hneeded =>
    rw [if_pos hneeded]
    obtain ⟨first, value, second, hsent, hstatus, rfl⟩ := Attempt.runs_bind_ok h
    obtain ⟨hcalls, haccepted⟩ := object_runs_ok (Attempt.runs_kube_ok hsent)
    obtain ⟨hrest, hothers⟩ := persistStatus_runs_ok hstatus
    refine ⟨?_, fun exchange hexchange ↦ ?_⟩
    · rw [List.map_append, hcalls, hrest]
      rfl
    · exact (List.mem_append.1 hexchange).elim (haccepted exchange) (hothers exchange)
  · next hneeded =>
    rw [if_neg hneeded]
    exact persistStatus_runs_ok h

omit [DecidableEq σ] in
/-- The second half of writing back asks for no other patch than the one of the status. -/
theorem persistStatus_asks (kind : Kind σ ω) (before after : Resource σ ω) :
    Program.Asks (I := effects) (fun effect ↦ ∃ request ∈ neededStatus kind before after,
      effect = .kube request) (persistStatus kind before after).run := by
  unfold persistStatus neededStatus
  split
  · exact Attempt.asks_bind (Attempt.asks_kube (object_asks ⟨_, List.mem_singleton_self _, rfl⟩))
      fun _ ↦ trivial
  · trivial

/-- Writing back asks for no other patches than those that are needed. -/
theorem persist_asks (kind : Kind σ ω) (before after : Resource σ ω) :
    Program.Asks (I := effects) (fun effect ↦ ∃ request ∈ neededPatches kind before after,
      effect = .kube request) (persist kind before after).run := by
  have hstatus : Program.Asks (I := effects) (fun effect ↦
      ∃ request ∈ neededPatches kind before after, effect = .kube request)
      (persistStatus kind before after).run :=
    (persistStatus_asks kind before after).mono fun _ ⟨request, hrequest, heq⟩ ↦
      ⟨request, List.mem_append_right _ hrequest, heq⟩
  rw [persist_eq]
  split
  · next hneeded =>
    refine Attempt.asks_bind (Attempt.asks_kube (object_asks ⟨_, ?_, rfl⟩)) fun _ ↦ hstatus
    rw [neededPatches, neededMain, if_pos hneeded]
    exact List.mem_cons_self
  · exact hstatus

/-- No patch of writing back touches the finalizers. -/
theorem removesFinalizer_of_needed {request : Kube.Request}
    (h : request ∈ neededPatches kind before after) : request.removesFinalizer = false := by
  unfold neededPatches neededMain neededStatus at h
  rcases List.mem_append.1 h with h | h
  · split at h
    · obtain rfl := List.mem_singleton.1 h
      rfl
    · simp at h
  · split at h
    · obtain rfl := List.mem_singleton.1 h
      rfl
    · simp at h

end

/-! ## The finalizers -/

namespace Resource

variable {σ ω : Type} {kind : Kind σ ω} {cr : Resource σ ω} {exchanged : List (Exchange effects)}

/-- A patch of the finalizers removes the operator's exactly if it is not among them. -/
theorem removesFinalizer_patchRequest (kind : Kind σ ω) (cr : Resource σ ω)
    (finalizers : List String) :
    (cr.patchRequest kind "" (finalizerPatch finalizers)).removesFinalizer =
      !finalizers.contains finalizerName := by
  have hholds : (Json.array (finalizers.map .text)).holdsFinalizer =
      finalizers.contains finalizerName := by
    rw [Json.holdsFinalizer, List.any_map, List.contains_eq_any_beq]
    congr 1
    funext finalizer
    simp [Json.asText?, Bool.beq_comm (a := finalizer)]
  rw [← hholds]
  rfl

/-- The patch of the finalizers is sent once or not at all, and goes well only if it was sent. -/
theorem patchFinalizers_runs {finalizers : List String} {result : Except Error Unit}
    (h : Program.Runs (I := effects) (patchFinalizers kind cr finalizers).run exchanged result) :
    (exchanged = [] ∧ ∃ error, result = .error error) ∨
      ∃ answer, exchanged =
        [⟨.kube (cr.patchRequest kind "" (finalizerPatch finalizers)), answer⟩] := by
  unfold patchFinalizers at h
  obtain ⟨first, given, second, hsent, hdone, rfl⟩ := Program.runs_bind_iff.1 h
  cases given with
  | ok value =>
      obtain ⟨rfl, -⟩ := Program.runs_pure_iff.1 hdone
      rw [List.append_nil]
      rcases object_runs hsent with ⟨-, failure, hfailure⟩ | ⟨answer, hone, -⟩
      · simp at hfailure
      · exact .inr ⟨answer, hone⟩
  | error failure =>
      obtain ⟨rfl, rfl⟩ := Program.runs_pure_iff.1 hdone
      rw [List.append_nil]
      rcases object_runs hsent with ⟨hnone, -⟩ | ⟨answer, hone, -⟩
      · exact .inl ⟨hnone, _, rfl⟩
      · exact .inr ⟨answer, hone⟩

/-- The patch of the finalizers goes well only if it was sent and accepted. -/
theorem patchFinalizers_runs_ok {finalizers : List String}
    (h : Program.Runs (I := effects) (patchFinalizers kind cr finalizers).run exchanged (.ok ())) :
    ∃ patch, exchanged = [patch] ∧
      patch.call = .kube (cr.patchRequest kind "" (finalizerPatch finalizers)) ∧
      patch.Accepted Kube.MetadataOnly.codec := by
  unfold patchFinalizers at h
  obtain ⟨first, given, second, hsent, hdone, rfl⟩ := Program.runs_bind_iff.1 h
  cases given with
  | error failure =>
      obtain ⟨-, hresult⟩ := Program.runs_pure_iff.1 hdone
      cases hresult
  | ok value =>
      obtain ⟨rfl, -⟩ := Program.runs_pure_iff.1 hdone
      obtain ⟨hcalls, haccepted⟩ := object_runs_ok hsent
      obtain ⟨patch, rfl, hcall⟩ := List.map_eq_singleton_iff.1 hcalls
      exact ⟨patch, by simp, hcall, haccepted patch (by simp)⟩

/-- The operator's finalizer is removed from a resource that carries it by one patch, or else the
step fails. -/
theorem removeFinalizer_runs (hfinalizer : cr.hasFinalizer = true) {result : Except Error Outcome}
    (h : Program.Runs (I := effects) (removeFinalizer kind cr).run exchanged result) :
    (exchanged = [] ∧ ∃ error, result = .error error) ∨
      ∃ removal, exchanged = [removal] ∧ removal.call.removesFinalizer = true := by
  have heq : removeFinalizer kind cr = (do
      patchFinalizers kind cr (cr.finalizers.filter (· != finalizerName))
      return .deleted) := by
    simp only [removeFinalizer, hfinalizer, Bool.not_true, Bool.false_eq_true, if_false]
  rw [heq] at h
  have hpatch : ∀ {first : List (Exchange effects)} {sent : Except Error Unit},
      Program.Runs (I := effects)
        (patchFinalizers kind cr (cr.finalizers.filter (· != finalizerName))).run first sent →
      (first = [] ∧ ∃ error, sent = .error error) ∨
        ∃ removal, first = [removal] ∧ removal.call.removesFinalizer = true := by
    intro first sent hsent
    refine (patchFinalizers_runs hsent).imp_right ?_
    rintro ⟨answer, rfl⟩
    refine ⟨_, rfl, (removesFinalizer_patchRequest kind cr _).trans ?_⟩
    simp
  rcases Attempt.runs_bind_iff.1 h with
    ⟨error, hfailed, rfl⟩ | ⟨first, value, second, hsent, hdone, rfl⟩
  · exact (hpatch hfailed).imp_left fun hnone ↦ ⟨hnone.1, error, rfl⟩
  · obtain ⟨rfl, rfl⟩ := Attempt.runs_pure_iff.1 hdone
    rcases hpatch hsent with ⟨-, error, herror⟩ | hone
    · simp at herror
    · exact .inr (by simpa using hone)

/-- Removing the finalizer from a resource that carries it goes well only by the patch that removes
it. -/
theorem removeFinalizer_runs_ok (hfinalizer : cr.hasFinalizer = true) {outcome : Outcome}
    (h : Program.Runs (I := effects) (removeFinalizer kind cr).run exchanged (.ok outcome)) :
    ∃ removal, exchanged = [removal] ∧ removal.call = .kube (cr.patchRequest kind ""
      (finalizerPatch (cr.finalizers.filter (· != finalizerName)))) := by
  simp only [removeFinalizer, hfinalizer, Bool.not_true, Bool.false_eq_true, if_false] at h
  obtain ⟨first, value, last, hpatch, hdone, rfl⟩ := Attempt.runs_bind_ok h
  obtain ⟨removal, rfl, hcall, -⟩ := patchFinalizers_runs_ok hpatch
  obtain ⟨rfl, -⟩ := Attempt.runs_pure_iff.1 hdone
  exact ⟨removal, List.append_nil _, hcall⟩

end Resource

end FleetOperator
