import FleetOperator.Proofs.Codec.Equivalence
import FleetOperator.Proofs.Json.MergePatch
import FleetOperator.Proofs.Reconcile.WriteBack

/-!
# Histories of stored objects

An object on the API server, changed by the operator and by other clients in any order. Read
`replay` first: each patch of the operator is merged into the object at once, wherever it stands
between the changes of others. `valueAt?_replay` says which happenings the value at a place of the
object outlasts.
-/

namespace FleetOperator

/-- The merge patch that an effect sends to the object at a path or to the status of this object. -/
def Effect.patch? (path : String) : Effect → Option Json
  | .kube ⟨.patch .merge patch, target, _⟩ =>
    if target = path ∨ target = path ++ "/status" then some patch else none
  | _ => none

/-- Whether an exchange is a request that was answered by an object. -/
def Exchange.gaveObject : Exchange effects → Bool
  | ⟨.kube _, .ok _⟩ => true
  | _ => false

namespace Resource

variable {σ ω : Type}

/-- The patch of annotations and specification is in key order. -/
theorem mainPatch_ordered (kind : Kind σ ω) (cr : Resource σ ω) : (cr.mainPatch kind).Ordered := by
  have hkeys : "metadata" < "spec" := by decide
  exact ⟨List.pairwise_pair.2 hkeys, ⟨by simp, Codec.toJson_ordered _ _, trivial⟩,
    Codec.toJson_ordered _ _, trivial⟩

/-- The patch of the status is in key order. -/
theorem statusPatch_ordered (kind : Kind σ ω) (cr : Resource σ ω) :
    (cr.statusPatch kind).Ordered :=
  ⟨by simp, Codec.toJson_ordered _ _, trivial⟩

/-- The patch of the finalizers is in key order. -/
theorem finalizerPatch_ordered (finalizers : List String) :
    (finalizerPatch finalizers).Ordered := by
  have hitems : Json.OrderedItems (finalizers.map .text) := by
    induction finalizers with
    | nil => trivial
    | cons _ _ ih => exact ⟨trivial, ih⟩
  exact ⟨by simp, ⟨by simp, hitems, trivial⟩, trivial⟩

end Resource

/-- What happens to a stored object: another client changes it, or something that the operator asked
is answered. A request whose answer is a failure may have taken effect all the same. -/
inductive Happening where
  | changed (edit : Json → Json)
  | answered (exchange : Exchange effects) (tookEffect : Bool)

namespace Happening

/-- The patch of the operator that a happening merges into the object at a path. -/
def patch? (path : String) : Happening → Option Json
  | changed _ => none
  | answered exchange tookEffect =>
    if exchange.gaveObject || tookEffect then exchange.call.patch? path else none

/-- The object at a path after a happening. -/
def apply (path : String) (stored : Json) : Happening → Json
  | changed edit => edit stored
  | answered exchange tookEffect =>
    match patch? path (answered exchange tookEffect) with
    | some patch => stored.mergePatch patch
    | none => stored

/-- The exchange of the operator that a happening is. -/
def exchange? : Happening → Option (Exchange effects)
  | changed _ => none
  | answered exchange _ => some exchange

/-- A patch that is merged into an object was sent by the operator. -/
theorem exchange?_of_patch? {path : String} {happening : Happening} {patch : Json}
    (h : happening.patch? path = some patch) :
    ∃ exchange, happening.exchange? = some exchange ∧ exchange.call.patch? path = some patch := by
  cases happening with
  | changed edit => simp [patch?] at h
  | answered exchange tookEffect =>
      simp only [patch?] at h
      split at h
      · exact ⟨exchange, rfl, h⟩
      · simp at h

end Happening

/-- The object at a path after a history. -/
def replay (path : String) (stored : Json) (history : List Happening) : Json :=
  history.foldl (Happening.apply path) stored

theorem replay_append (path : String) (stored : Json) (earlier later : List Happening) :
    replay path stored (earlier ++ later) = replay path (replay path stored earlier) later :=
  List.foldl_append

/-- Requests that were sent and accepted one by one, with nothing in between, merge their patches
into the object one by one. -/
theorem replay_applied {σ ω : Type} {kind : Kind σ ω} {requests : List Kube.Request}
    {exchanged : List (Exchange effects)} (h : kind.Applied requests exchanged) (path : String)
    (stored : Json) :
    replay path stored (exchanged.map (.answered · false)) =
      (requests.filterMap fun request ↦ (Effect.kube request).patch? path).foldl Json.mergePatch
        stored := by
  obtain ⟨hcalls, haccepted⟩ := h
  induction exchanged generalizing requests stored with
  | nil =>
      obtain rfl : requests = [] := by simpa using hcalls.symm
      rfl
  | cons exchange rest ih =>
      obtain ⟨request, answer, value, rfl, -⟩ := haccepted exchange List.mem_cons_self
      cases requests with
      | nil => simp at hcalls
      | cons first others =>
          obtain ⟨hfirst, hothers⟩ := List.cons.inj hcalls
          obtain rfl : request = first := Effect.kube.inj hfirst
          rw [List.map_cons, replay, List.foldl_cons, ← replay,
            ih _ hothers fun exchange hmem ↦ haccepted exchange (List.mem_cons_of_mem _ hmem)]
          simp only [Happening.apply, Happening.patch?, Exchange.gaveObject, List.filterMap_cons]
          cases (Effect.kube request).patch? path <;> rfl

/-- Whether no other client changes what stands at a place of the object in a history. -/
def OthersKeep (path : String) (place : List String) (stored : Json) : List Happening → Prop
  | [] => True
  | happening :: rest =>
    (∀ edit, happening = .changed edit →
      Json.valueAt? place (edit stored) = Json.valueAt? place stored) ∧
    OthersKeep path place (happening.apply path stored) rest

/-- Where nothing stands between the requests of the operator, no other client changes anything. -/
theorem othersKeep_answered (path : String) (place : List String) (stored : Json)
    (exchanged : List (Exchange effects)) (tookEffect : Exchange effects → Bool) :
    OthersKeep path place stored
      (exchanged.map fun exchange ↦ .answered exchange (tookEffect exchange)) := by
  induction exchanged generalizing stored with
  | nil => trivial
  | cons _ _ ih => exact ⟨fun _ heq ↦ (nomatch heq), ih _⟩

/-- A place of the object keeps its value through a history in which no other client changes it and
no patch of the operator reaches it. -/
theorem valueAt?_replay {path : String} {place : List String} {history : List Happening}
    {stored : Json} (hothers : OthersKeep path place stored history)
    (hpatches : ∀ happening ∈ history, ∀ patch, happening.patch? path = some patch →
      patch.Ordered ∧ Json.touches place patch = false) :
    Json.valueAt? place (replay path stored history) = Json.valueAt? place stored := by
  induction history generalizing stored with
  | nil => rfl
  | cons happening rest ih =>
      obtain ⟨hnow, hlater⟩ := hothers
      have hrest := ih hlater fun other hmem ↦ hpatches other (List.mem_cons_of_mem _ hmem)
      refine hrest.trans ?_
      cases happening with
      | changed edit => exact hnow edit rfl
      | answered exchange tookEffect =>
          simp only [Happening.apply]
          split
          · next patch hpatch =>
            obtain ⟨hordered, huntouched⟩ := hpatches _ List.mem_cons_self patch hpatch
            exact Json.valueAt?_mergePatch_of_untouched hordered huntouched stored
          · rfl

end FleetOperator
