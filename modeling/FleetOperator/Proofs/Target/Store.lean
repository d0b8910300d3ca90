import FleetOperator.Operator.World
import FleetOperator.Proofs.Dict
import FleetOperator.Proofs.Target.Application
import Mathlib.Logic.Function.Basic

/-!
# A workload cluster as a store

A workload cluster that keeps objects by an address, such as the plural name, the namespace and the
name of a place, and any call to which may fail. Read `Store.Answers` first: what may be answered to
a call, and what the store holds after it. `Serves.settles` says what becomes of the store when one
object is served, and `Memory.answer_eq` that the cluster in memory is such a store.
-/

namespace FleetOperator.Target

open Manifest (Location Object)

/-- The plural name, the namespace and the name of a place. -/
def triple (place : Location) : String × Option String × String :=
  (place.resource.plural, place.namespace, place.name)

/-- The content of a store: the object that is held under each address. -/
abbrev Store (κ : Type) := κ → Option Json

variable {κ : Type} [DecidableEq κ] {address : Location → κ}

namespace Store

/-- The answer of a store to a call, and what it holds afterwards. -/
def serve (address : Location → κ) :
    (call : Call) → Store κ → Except TargetError call.Value × Store κ
  | .get place, s =>
    match s (address place) with
    | some value => (.ok value, s)
    | none => (.error (.notFound (key place)), s)
  | .apply place body, s => (.ok (), Function.update s (address place) (some body))
  | .patchMetadata place metadata, s =>
    match s (address place) with
    | some value =>
      (.ok (), Function.update s (address place) (some (Memory.withMetadata metadata value)))
    | none => (.error (.notFound (key place)), s)
  | .delete place, s =>
    match s (address place) with
    | some _ => (.ok (), Function.update s (address place) none)
    | none => (.error (.notFound (key place)), s)

/-- The answer of a store where some calls fail without any effect. -/
def answer (address : Location → κ) (failure? : Call → Option TargetError) :
    Handler interface (Store κ) := fun call s ↦
  match failure? call with
  | some error => (.error error, s)
  | none => serve address call s

/-- Whether a failed call tells no untruth: a read says that nothing is there only where nothing is
held. -/
def Honest (address : Location → κ) (s : Store κ) (call : Call) (error : TargetError) : Prop :=
  ∀ place, call = .get place → error.isNotFound = true → s (address place) = none

/-- What may be answered to a call, and what the store holds afterwards: the call is served, or it
fails before it had any effect, or it has its effect and the answer is lost. -/
inductive Answers (address : Location → κ) (s : Store κ) (call : Call) :
    Except TargetError call.Value → Store κ → Prop
  | served : Answers address s call (serve address call s).1 (serve address call s).2
  | refused {error : TargetError} (honest : Honest address s call error) :
      Answers address s call (.error error) s
  | lost {error : TargetError} (honest : Honest address s call error) :
      Answers address s call (.error error) (serve address call s).2

/-- What a store holds after a list of exchanges, each of them one that it may have. -/
inductive Trail (address : Location → κ) : Store κ → List (Exchange interface) → Store κ → Prop
  | nil (s : Store κ) : Trail address s [] s
  | cons {s t u : Store κ} {call : Call} {answer : Except TargetError call.Value}
      {rest : List (Exchange interface)} (first : Answers address s call answer t)
      (more : Trail address t rest u) : Trail address s (⟨call, answer⟩ :: rest) u

variable {s t : Store κ} {place : Location}

/-- A read changes nothing, and says truthfully that nothing is there. -/
theorem Answers.get {answer : Except TargetError (Call.get place).Value}
    (h : Answers address s (.get place) answer t) :
    t = s ∧ (∀ seen, answer = .ok seen → s (address place) = some seen) ∧
      ∀ what, answer = .error (.notFound what) → s (address place) = none := by
  have hserve : (serve address (.get place) s).2 = s := by
    simp only [serve]
    split <;> rfl
  cases h with
  | served =>
      refine ⟨hserve, ?_, ?_⟩ <;> simp only [serve] <;>
        cases hheld : s (address place) <;> simp
  | refused honest => exact ⟨rfl, by simp, fun what h ↦ honest place rfl (by cases h; rfl)⟩
  | lost honest => exact ⟨hserve, by simp, fun what h ↦ honest place rfl (by cases h; rfl)⟩

/-- A written object is held, unless the call failed. -/
theorem Answers.apply {body : Json} {answer : Except TargetError (Call.apply place body).Value}
    (h : Answers address s (.apply place body) answer t) :
    (t = s ∧ ∃ error, answer = .error error) ∨
      t = Function.update s (address place) (some body) := by
  cases h with
  | served => exact .inr rfl
  | refused => exact .inl ⟨rfl, _, rfl⟩
  | lost => exact .inr rfl

/-- A held object gets the metadata, unless the call failed. -/
theorem Answers.patchMetadata {metadata value : Json}
    {answer : Except TargetError (Call.patchMetadata place metadata).Value}
    (h : Answers address s (.patchMetadata place metadata) answer t)
    (hheld : s (address place) = some value) :
    (t = s ∧ ∃ error, answer = .error error) ∨
      t = Function.update s (address place) (some (Memory.withMetadata metadata value)) := by
  have hserve : (serve address (.patchMetadata place metadata) s).2 =
      Function.update s (address place) (some (Memory.withMetadata metadata value)) := by
    simp only [serve, hheld]
  cases h with
  | served => exact .inr hserve
  | refused => exact .inl ⟨rfl, _, rfl⟩
  | lost => exact .inr hserve

/-- After a deletion the object is there no more, or the call had no effect. -/
theorem Answers.delete {answer : Except TargetError (Call.delete place).Value}
    (h : Answers address s (.delete place) answer t) :
    t = s ∨ t = Function.update s (address place) none := by
  have hserve : (serve address (.delete place) s).2 = s ∨
      (serve address (.delete place) s).2 = Function.update s (address place) none := by
    simp only [serve]
    split
    · exact .inr rfl
    · exact .inl rfl
  cases h with
  | served => exact hserve
  | refused => exact .inl rfl
  | lost => exact hserve

/-- A trail over two lists is a trail over the one and then over the other. -/
theorem Trail.append {first second : List (Exchange interface)}
    (h : Trail address s (first ++ second) t) :
    ∃ between, Trail address s first between ∧ Trail address between second t := by
  induction first generalizing s with
  | nil => exact ⟨s, .nil s, h⟩
  | cons exchange first ih =>
      cases h with
      | cons hfirst hmore =>
          obtain ⟨between, hbetween, hsecond⟩ := ih hmore
          exact ⟨between, .cons hfirst hbetween, hsecond⟩

/-- A trail over one exchange is an answer. -/
theorem Trail.single {call : Call} {answer : Except TargetError call.Value}
    (h : Trail address s [⟨call, answer⟩] t) : Answers address s call answer t := by
  cases h with
  | cons hfirst hmore =>
      cases hmore
      exact hfirst

/-- What a program exchanges with a store, some calls to which fail, is a trail. -/
theorem trail_exchanges {α : Type} {failure? : Call → Option TargetError}
    (honest : ∀ place error, failure? (.get place) = some error → error.isNotFound = false)
    (program : Program interface α) (s : Store κ) :
    Trail address s (program.exchanges (answer address failure?) s)
      (program.run (answer address failure?) s).2 := by
  induction program generalizing s with
  | done value => exact .nil s
  | ask call next ih =>
      refine .cons ?_ (ih _ _)
      unfold answer
      split
      · next error hfails =>
        refine .refused fun place hcall hmissing ↦ ?_
        subst hcall
        simp [honest place error hfails] at hmissing
      · exact .served

end Store

open Store (Trail)

/-- What is held under an address once an object that has this address was written or deleted. -/
def settled (removing : Bool) (object : Object) (held : Option Json) : Option Json :=
  if removing then none
  else if object.route = .guardedSingleton then
    some ((held.map (Memory.withMetadata (object.body.at? "metadata"))).getD object.body)
  else some object.body

variable {object : Object} {removing : Bool} {part : List (Exchange interface)}
  {outcome : Except TargetError Unit} {s t : Store κ}

/-- Serving an object settles what is held under its address. Nothing happens only if it is a
deletion or if it fails. -/
theorem Serves.settles (h : Serves object removing part outcome) (htrail : Trail address s part t) :
    t = Function.update s (address object.location)
        (settled removing object (s (address object.location))) ∨
      (t = s ∧ (removing = true ∨ ∃ error, outcome = .error error)) := by
  cases h with
  | deleted | gone what | kept detail =>
      rcases htrail.single.delete with rfl | rfl
      · exact .inr ⟨rfl, .inl rfl⟩
      · exact .inl (by simp [settled])
  | written answer hroute =>
      rcases htrail.single.apply with ⟨rfl, hfailed⟩ | rfl
      · exact .inr ⟨rfl, .inr hfailed⟩
      · exact .inl (by simp [settled, hroute])
  | created what answer hroute =>
      cases htrail with
      | cons hget happly =>
          obtain ⟨rfl, -, habsent⟩ := hget.get
          rcases happly.single.apply with ⟨rfl, hfailed⟩ | rfl
          · exact .inr ⟨rfl, .inr hfailed⟩
          · exact .inl (by simp [settled, hroute, habsent what rfl])
  | patched seen answer hroute =>
      cases htrail with
      | cons hget hpatch =>
          obtain ⟨rfl, hheld, -⟩ := hget.get
          rcases hpatch.single.patchMetadata (hheld seen rfl) with ⟨rfl, hfailed⟩ | rfl
          · exact .inr ⟨rfl, .inr hfailed⟩
          · exact .inl (by simp [settled, hroute, hheld seen rfl])
  | unread detail hroute =>
      obtain ⟨rfl, -⟩ := htrail.single.get
      exact .inr ⟨rfl, .inr ⟨_, rfl⟩⟩

namespace Memory

theorem get?_insert_eq_update (objects : Dict Json) (k : String) (value : Json) :
    (objects.insert k value).get? = Function.update objects.get? k (some value) := by
  funext other
  rw [Dict.get?_insert, Function.update_apply]
  exact if_congr eq_comm rfl rfl

theorem get?_erase_eq_update (objects : Dict Json) (k : String) :
    (objects.erase k).get? = Function.update objects.get? k none := by
  funext other
  rw [Dict.get?_erase, Function.update_apply]

/-- A cluster in memory is a store whose objects are told apart by their keys. -/
theorem answer_eq (m : Memory) (call : Call) :
    (answer call m).1 = (Store.answer key m.failure? call m.objects.get?).1 ∧
      (answer call m).2.objects.get? = (Store.answer key m.failure? call m.objects.get?).2 := by
  unfold answer Store.answer
  cases m.failure? call with
  | some error => exact ⟨rfl, rfl⟩
  | none =>
    cases call with
    | get place =>
        simp only [serve, find, Store.serve]
        cases m.objects.get? (key place) <;> exact ⟨rfl, rfl⟩
    | apply place body => exact ⟨rfl, get?_insert_eq_update _ _ _⟩
    | patchMetadata place metadata =>
        simp only [serve, find, Store.serve]
        cases m.objects.get? (key place) with
        | none => exact ⟨rfl, rfl⟩
        | some value => exact ⟨rfl, get?_insert_eq_update _ _ _⟩
    | delete place =>
        simp only [serve, find, Store.serve]
        cases m.objects.get? (key place) with
        | none => exact ⟨rfl, rfl⟩
        | some value => exact ⟨rfl, get?_erase_eq_update _ _⟩

end Memory

/-! ## A cluster that is shared -/

/-- A manifest of two namespaces. -/
def sharedManifest : String :=
  "apiVersion: v1\nkind: Namespace\nmetadata: \x7bname: agent\x7d\n---\n" ++
    "apiVersion: v1\nkind: Namespace\nmetadata: \x7bname: argocd\x7d\n"

/-- A namespace. -/
def sharedPlace (name : String) : Location :=
  ⟨{ kind := "Namespace", plural := "namespaces", isNamespaced := false }, none, name⟩

/-- The objects of the manifest. -/
def sharedObjects : List Object := ["agent", "argocd"].map fun name ↦
  { location := sharedPlace name, route := .guardedSingleton
    body := .object [("apiVersion", .text "v1"), ("kind", .text "Namespace"),
      ("metadata", .object [("name", .text name)])] }

theorem discover_shared :
    Manifest.discover (Kube.ResourceType.resolve usualTypes) {} sharedManifest =
      .ok sharedObjects := by
  decide +kernel

/-- A store that holds one of the two namespaces. -/
def sharedStore : Store (String × Option String × String) := fun a ↦
  if a = triple (sharedPlace "argocd") then
    some (.object [("metadata", .object []), ("spec", .object [("finalizers", .array [])])])
  else none

/-- The failure of every change of metadata. -/
def metadataForbidden (call : Call) : Option TargetError :=
  if call.verb = "patch_metadata" then some (.request "forbidden") else none

/-- The application of the manifest. -/
def sharedApplication : Program interface (Except Error Nat) :=
  applyManifest (Kube.ResourceType.resolve usualTypes) {} sharedManifest false

/-- What the application asks of the store while metadata cannot be changed. -/
def sharedExchanges : List (Exchange interface) :=
  sharedApplication.exchanges (Store.answer triple metadataForbidden) sharedStore

/-- What the store holds after it. -/
def sharedRemains : Store (String × Option String × String) :=
  (sharedApplication.run (Store.answer triple metadataForbidden) sharedStore).2

theorem trail_shared : Trail triple sharedStore sharedExchanges sharedRemains := by
  refine Store.trail_exchanges (fun place error hfails ↦ ?_) _ _
  have hverb : (Call.get place).verb = "get" := rfl
  simp [metadataForbidden, hverb] at hfails

end FleetOperator.Target
