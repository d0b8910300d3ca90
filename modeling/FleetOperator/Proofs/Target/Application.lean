import FleetOperator.Operator.World
import FleetOperator.Proofs.Manifest.Objects
import FleetOperator.Proofs.Runs
import FleetOperator.Target.Apply

/-!
# Applying a manifest to any cluster

What is asked of a workload cluster when a manifest is applied, whatever the cluster answers. Read
`Serves` and `Applied` first: what is asked for one object, and how objects are served one after the
other up to the first failure. `applied_in_order` says that a manifest is applied in this way once
all its documents are read and placed, and that nothing is asked otherwise.
-/

namespace FleetOperator.Target

open Manifest (Mapper Object Refused ScopeTable Yields)

/-- The exchanges by which an object is written or deleted, and how it ends. A deletion that finds
nothing is no failure. A guarded object is read first: where there is one only its metadata is
changed, and where there is none it is written. -/
inductive Serves (object : Object) :
    Bool → List (Exchange interface) → Except TargetError Unit → Prop
  | deleted : Serves object true [⟨.delete object.location, .ok ()⟩] (.ok ())
  | gone (what : String) :
      Serves object true [⟨.delete object.location, .error (.notFound what)⟩] (.ok ())
  | kept (detail : String) :
      Serves object true [⟨.delete object.location, .error (.request detail)⟩]
        (.error (.request detail))
  | written (answer : Except TargetError Unit) (hroute : object.route ≠ .guardedSingleton) :
      Serves object false [⟨.apply object.location object.body, answer⟩] answer
  | created (what : String) (answer : Except TargetError Unit)
      (hroute : object.route = .guardedSingleton) :
      Serves object false
        [⟨.get object.location, .error (.notFound what)⟩,
          ⟨.apply object.location object.body, answer⟩] answer
  | patched (seen : Json) (answer : Except TargetError Unit)
      (hroute : object.route = .guardedSingleton) :
      Serves object false
        [⟨.get object.location, .ok seen⟩,
          ⟨.patchMetadata object.location (object.body.at? "metadata"), answer⟩] answer
  | unread (detail : String) (hroute : object.route = .guardedSingleton) :
      Serves object false [⟨.get object.location, .error (.request detail)⟩]
        (.error (.request detail))

/-- The exchanges by which objects are served one after the other, and the result: the given value
if all of them went well, and otherwise the error of the first that did not, after which nothing is
asked. -/
inductive Applied {α : Type} (removing : Bool) (value : α) :
    List Object → List (Exchange interface) → Except Error α → Prop
  | done : Applied removing value [] [] (.ok value)
  | next {object : Object} {rest : List Object} {part more : List (Exchange interface)}
      {result : Except Error α} (served : Serves object removing part (.ok ()))
      (others : Applied removing value rest more result) :
      Applied removing value (object :: rest) (part ++ more) result
  | failed {object : Object} {part : List (Exchange interface)} {cause : TargetError}
      (rest : List Object) (served : Serves object removing part (.error cause)) :
      Applied removing value (object :: rest) part (.error (applyError object cause))

variable {object : Object} {objects : List Object} {removing : Bool}
  {exchanged : List (Exchange interface)}

/-- A program that makes one call and gives its answer exchanges just this. -/
theorem exchanges_of_call {call : Call} {answer : Except TargetError call.Value}
    (h : (Program.ask (I := interface) call .done).Runs exchanged answer) :
    exchanged = [⟨call, answer⟩] := by
  obtain ⟨answer, rest, rfl, hdone⟩ := Program.runs_ask_iff.1 h
  cases hdone
  rfl

/-- A written object is served. -/
theorem serves_of_write {outcome : Except TargetError Unit}
    (h : (write object).Runs exchanged outcome) : Serves object false exchanged outcome := by
  unfold write at h
  split at h
  · next hroute =>
    rw [exchanges_of_call h]
    exact .written outcome (by simp [hroute])
  · next hroute =>
    rw [exchanges_of_call h]
    exact .written outcome (by simp [hroute])
  · next hroute =>
    obtain ⟨first, seen, second, hget, hrest, rfl⟩ := Program.runs_bind_iff.1 h
    rw [exchanges_of_call hget]
    rcases seen with (what | detail) | seen
    · rw [exchanges_of_call hrest]
      exact .created what outcome hroute
    · obtain ⟨rfl, rfl⟩ := Program.runs_pure_iff.1 hrest
      exact .unread detail hroute
    · rw [exchanges_of_call hrest]
      exact .patched seen outcome hroute

/-- A deleted object is served. -/
theorem serves_of_remove {outcome : Except TargetError Unit}
    (h : (remove object).Runs exchanged outcome) : Serves object true exchanged outcome := by
  obtain ⟨answer, rest, rfl, hrest⟩ := Program.runs_ask_iff.1 h
  rcases answer with (what | detail) | ⟨⟩
  · obtain ⟨rfl, rfl⟩ := Program.runs_pure_iff.1 hrest
    exact .gone what
  · obtain ⟨rfl, rfl⟩ := Program.runs_pure_iff.1 hrest
    exact .kept detail
  · obtain ⟨rfl, rfl⟩ := Program.runs_pure_iff.1 hrest
    exact .deleted

/-- The program that writes or deletes an object. -/
def serveObject (removing : Bool) (object : Object) : Program interface (Except TargetError Unit) :=
  if removing then remove object else write object

/-- The first object is served, and the others only if it went well. -/
theorem applyObjects_cons (removing : Bool) (object : Object) (rest : List Object) :
    applyObjects removing (object :: rest) = serveObject removing object >>= fun outcome ↦
      match outcome with
      | .ok () => applyObjects removing rest
      | .error cause => pure (.error (applyError object cause)) := by
  cases removing <;> rfl

/-- An object is served. -/
theorem serves_of_runs {outcome : Except TargetError Unit}
    (h : (serveObject removing object).Runs exchanged outcome) :
    Serves object removing exchanged outcome := by
  cases removing with
  | true => exact serves_of_remove h
  | false => exact serves_of_write h

/-- Objects are served one after the other up to the first failure. -/
theorem applied_of_runs {result : Except Error Unit}
    (h : (applyObjects removing objects).Runs exchanged result) :
    Applied removing () objects exchanged result := by
  induction objects generalizing exchanged with
  | nil =>
      obtain ⟨rfl, rfl⟩ := Program.runs_pure_iff.1 h
      exact .done
  | cons object rest ih =>
      rw [applyObjects_cons] at h
      obtain ⟨part, outcome, more, hobject, hmore, rfl⟩ := Program.runs_bind_iff.1 h
      have hserves := serves_of_runs hobject
      rcases outcome with cause | ⟨⟩
      · obtain ⟨rfl, rfl⟩ := Program.runs_pure_iff.1 hmore
        rw [List.append_nil]
        exact .failed rest hserves
      · exact .next hserves (ih hmore)

/-- Another value may be given where all objects went well. -/
theorem Applied.map {α β : Type} {value : α} {result : Except Error α}
    (h : Applied removing value objects exchanged result) (f : α → β) :
    Applied removing (f value) objects exchanged (result.map f) := by
  induction h with
  | done => exact .done
  | next served _ ih => exact .next served ih
  | failed rest served => exact .failed rest served

variable {mapper : Mapper} {scopes : ScopeTable} {manifest : String} {result : Except Error Nat}

/-- A manifest that has objects is applied by serving them. -/
theorem applied_of_discover (hdiscover : Manifest.discover mapper scopes manifest = .ok objects)
    (h : (applyManifest mapper scopes manifest removing).Runs exchanged result) :
    Applied removing objects.length objects exchanged result := by
  simp only [applyManifest, hdiscover] at h
  obtain ⟨first, served, second, hserve, hdone, rfl⟩ := Program.runs_bind_iff.1 h
  have happlied := (applied_of_runs hserve).map fun _ ↦ objects.length
  rcases served with error | ⟨⟩ <;> obtain ⟨rfl, rfl⟩ := Program.runs_pure_iff.1 hdone <;>
    simpa [Except.map] using happlied

/-- Against every cluster, a manifest of which a document cannot be decoded, lacks a required field
or has no type is not applied at all, and any other one is applied object by object, in the order of
the text, up to the first object that fails. -/
theorem applied_in_order {σ : Type} (mapper : Mapper) (scopes : ScopeTable) (manifest : String)
    (removing : Bool) (cluster : Handler interface σ) (state : σ) :
    let program := applyManifest mapper scopes manifest removing
    let exchanged := program.exchanges cluster state
    let result := (program.run cluster state).1
    ((∃ document ∈ Manifest.documents manifest, Refused mapper document) →
        exchanged = [] ∧ ∃ error, result = .error error) ∧
      ((¬ ∃ document ∈ Manifest.documents manifest, Refused mapper document) →
        ∃ found, List.Forall₂ (Yields mapper scopes) (Manifest.documents manifest) found ∧
          Applied removing found.reduceOption.length found.reduceOption exchanged result) := by
  refine ⟨fun hrefused ↦ ?_, fun hsound ↦ ?_⟩
  · obtain ⟨error, herror⟩ := Manifest.discover_of_refused scopes hrefused
    simp only [applyManifest, herror]
    exact ⟨rfl, error, rfl⟩
  · obtain ⟨found, hfound, hdiscover⟩ := Manifest.discover_of_sound scopes hsound
    exact ⟨found, hfound, applied_of_discover hdiscover (Program.runs_exchanges cluster _ state)⟩

/-- A manifest of a config map, a comment, a namespace and another config map. -/
def commentedManifest : String :=
  "apiVersion: v1\nkind: ConfigMap\nmetadata:\n  name: agent\n---\n# Its namespace.\n---\n" ++
    "apiVersion: v1\nkind: Namespace\nmetadata:\n  name: akuity\n---\n" ++
    "apiVersion: v1\nkind: ConfigMap\nmetadata:\n  name: other\n"

/-- A cluster that creates no namespace. -/
def withoutNamespaces : Memory where
  failures := .ofList [("apply akuity", "forbidden")]

/-- The first config map is written, the namespace is looked for and cannot be written, and the other
config map is not asked for. Three objects were read of four documents. -/
theorem applied_in_order_commented :
    let program := applyManifest (Kube.ResourceType.resolve usualTypes) {} commentedManifest false
    let exchanged := program.exchanges Memory.answer withoutNamespaces
    let result := (program.run Memory.answer withoutNamespaces).1
    (exchanged.map (fun exchange ↦ (exchange.call.verb, exchange.call.location.name)) =
        [("apply", "agent"), ("get", "akuity"), ("apply", "akuity")] ∧
      result = .error (.manifest "could not apply Namespace akuity: forbidden") ∧
      (Manifest.documents commentedManifest).length = 4) ∧
      ∃ found, List.Forall₂ (Yields (Kube.ResourceType.resolve usualTypes) {})
          (Manifest.documents commentedManifest) found ∧
        Applied false found.reduceOption.length found.reduceOption exchanged result := by
  intro program exchanged result
  -- The manifest is read once for all that is evaluated.
  obtain ⟨hrun, hobjects⟩ :
      (exchanged.map (fun exchange ↦ (exchange.call.verb, exchange.call.location.name)) =
          [("apply", "agent"), ("get", "akuity"), ("apply", "akuity")] ∧
        result = .error (.manifest "could not apply Namespace akuity: forbidden") ∧
        (Manifest.documents commentedManifest).length = 4) ∧
      (Manifest.discover (Kube.ResourceType.resolve usualTypes) {}
        commentedManifest).toOption.map (·.length) = some 3 := by
    decide +kernel
  have happlied := applied_in_order (Kube.ResourceType.resolve usualTypes) {} commentedManifest false
    Memory.answer withoutNamespaces
  refine ⟨hrun, happlied.2 fun hrefused ↦ ?_⟩
  obtain ⟨error, herror⟩ := Manifest.discover_of_refused {} hrefused
  rw [herror] at hobjects
  cases hobjects

end FleetOperator.Target
