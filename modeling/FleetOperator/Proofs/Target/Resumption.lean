import FleetOperator.Proofs.Json.MergePatch
import FleetOperator.Proofs.Json.Ordered
import FleetOperator.Proofs.Target.Store
import Mathlib.Logic.Relation

/-!
# Applying a manifest again

What a workload cluster holds once a manifest is applied to the end, after earlier attempts that
broke off. Read `settleAll` and `settledUnder_of_prefix` first: an undisturbed application settles
the objects one by one, and having settled some of them before makes no difference to it.
`application_resumes` states this of any sequence of attempts.
-/

namespace FleetOperator.Target

open Manifest (Location Mapper Object Refused ScopeTable Yields)
open Store (Trail)

variable {κ : Type} [DecidableEq κ]

/-- What a store holds once objects were written or deleted one after the other. -/
def settleAll (address : Location → κ) (removing : Bool) : List Object → Store κ → Store κ
  | [], s => s
  | object :: rest, s => settleAll address removing rest
      (Function.update s (address object.location)
        (settled removing object (s (address object.location))))

/-- What is held under one address after the objects with this address were settled. -/
def settledUnder (removing : Bool) (objects : List Object) (held : Option Json) : Option Json :=
  objects.foldl (fun held object ↦ settled removing object held) held

variable {address : Location → κ} {removing : Bool} {objects : List Object}

/-- What is held under an address depends only on what was held there before and on the objects with
this address. -/
theorem settleAll_apply (objects : List Object) (s : Store κ) (a : κ) :
    settleAll address removing objects s a =
      settledUnder removing (objects.filter fun object ↦ address object.location = a) (s a) := by
  induction objects generalizing s with
  | nil => rfl
  | cons object rest ih =>
      rw [settleAll, ih]
      by_cases haddress : address object.location = a
      · subst haddress
        simp [settledUnder]
      · simp [settledUnder, haddress, Ne.symm haddress]

/-! ## What was settled before -/

/-- The later of two fields that are put under one key stands. -/
theorem insertField_insertField (key : String) (first second : Json)
    (fields : List (String × Json)) :
    Json.insertField key second (Json.insertField key first fields) =
      Json.insertField key second fields := by
  induction fields with
  | nil => simp [Json.insertField]
  | cons entry rest ih =>
      obtain ⟨k, value⟩ := entry
      by_cases hkey : key = k
      · simp [Json.insertField, hkey]
      · by_cases hless : key < k
        · simp [Json.insertField, hkey, hless]
        · simp [Json.insertField, hkey, hless, ih]

/-- Of two changes of the metadata the later one stands. -/
theorem withMetadata_withMetadata (first second value : Json) :
    Memory.withMetadata second (Memory.withMetadata first value) =
      Memory.withMetadata second value :=
  congrArg Json.object (insertField_insertField "metadata" first second _)

/-- Whether a body is that of an object whose fields are in order and which has metadata. -/
def Bodied (body : Json) : Prop :=
  ∃ fields metadata, body = .object fields ∧ body.Ordered ∧
    Json.lookup "metadata" fields = some metadata

/-- A body with its own metadata is itself. -/
theorem Bodied.withMetadata_self {body : Json} (h : Bodied body) :
    Memory.withMetadata (body.at? "metadata") body = body := by
  obtain ⟨fields, metadata, rfl, hordered, hmetadata⟩ := h
  have hat : (Json.object fields).at? "metadata" = metadata := by
    simp [Json.at?, Json.get?, hmetadata]
  rw [hat]
  refine congrArg Json.object ?_
  rw [Json.lookup_eq_find] at hmetadata
  rw [Json.insertField_eq_put]
  refine Dict.eq_of_find_eq (Dict.put_increasing _ _ hordered.1) hordered.1 fun key ↦ ?_
  rw [Dict.find_put]
  split
  · next hkey =>
    subst hkey
    exact hmetadata.symm
  · rfl

/-- Whether two objects differ in their metadata at most. -/
def Alike (a b : Json) : Prop :=
  ∀ metadata, Memory.withMetadata metadata a = Memory.withMetadata metadata b

/-- Settling guarded objects leaves what was held but for its metadata. -/
theorem settledUnder_alike (hguarded : ∀ object ∈ objects, object.route = .guardedSingleton)
    (value : Json) : ∃ other, settledUnder false objects (some value) = some other ∧
      Alike other value := by
  induction objects generalizing value with
  | nil => exact ⟨value, rfl, fun _ ↦ rfl⟩
  | cons object rest ih =>
      obtain ⟨other, hother, halike⟩ :=
        ih (fun object hmem ↦ hguarded object (List.mem_cons_of_mem _ hmem))
          (Memory.withMetadata (object.body.at? "metadata") value)
      refine ⟨other, ?_, fun metadata ↦ (halike metadata).trans (withMetadata_withMetadata _ _ _)⟩
      simpa [settledUnder, settled, hguarded object List.mem_cons_self] using hother

/-- Where an object is deleted or written as a whole it makes no difference what was held before. -/
theorem settledUnder_const
    (h : ∃ object ∈ objects, removing = true ∨ object.route ≠ .guardedSingleton)
    (first second : Option Json) :
    settledUnder removing objects first = settledUnder removing objects second := by
  induction objects generalizing first second with
  | nil => simp at h
  | cons object rest ih =>
      show settledUnder removing rest (settled removing object first) =
        settledUnder removing rest (settled removing object second)
      obtain ⟨replaced, hmem, hreplaces⟩ := h
      rcases List.mem_cons.1 hmem with rfl | hmem
      · rcases hreplaces with hremoving | hroute
        · simp [settled, hremoving]
        · simp [settled, hroute]
      · exact ih ⟨replaced, hmem, hreplaces⟩ _ _

/-- Settling an object again once it was settled, and guarded ones after it, restores it. -/
theorem settled_settledUnder {object : Object} (hbody : Bodied object.body)
    (hobject : object.route = .guardedSingleton)
    (hguarded : ∀ object ∈ objects, object.route = .guardedSingleton) (held : Option Json) :
    settled false object (settledUnder false objects (settled false object held)) =
      settled false object held := by
  obtain ⟨value, hvalue, hself⟩ : ∃ value, settled false object held = some value ∧
      Memory.withMetadata (object.body.at? "metadata") value = value := by
    cases held with
    | none => exact ⟨_, by simp [settled, hobject], hbody.withMetadata_self⟩
    | some before =>
        exact ⟨Memory.withMetadata (object.body.at? "metadata") before,
          by simp [settled, hobject], withMetadata_withMetadata _ _ _⟩
  obtain ⟨other, hother, halike⟩ := settledUnder_alike hguarded value
  rw [hvalue, hother]
  simp [settled, hobject, (halike _).trans hself]

/-- Having settled the first objects before makes no difference to settling all. -/
theorem settledUnder_of_prefix {first second : List Object}
    (hbodies : ∀ object ∈ first ++ second, Bodied object.body) (held : Option Json) :
    settledUnder removing (first ++ second) (settledUnder removing first held) =
      settledUnder removing (first ++ second) held := by
  by_cases hreplaced :
      ∃ object ∈ first ++ second, removing = true ∨ object.route ≠ .guardedSingleton
  · exact settledUnder_const hreplaced _ _
  · simp only [not_exists, not_and, not_or, not_not] at hreplaced
    cases first with
    | nil => rfl
    | cons object rest =>
        obtain ⟨hkept, hobject⟩ := hreplaced object List.mem_cons_self
        obtain rfl : removing = false := by simpa using hkept
        have hguarded : ∀ other ∈ rest, other.route = .guardedSingleton := fun other hmem ↦
          (hreplaced other (List.mem_cons_of_mem _ (List.mem_append_left _ hmem))).2
        exact congrArg (settledUnder false (rest ++ second)) (settled_settledUnder
          (hbodies object List.mem_cons_self) hobject hguarded held)

/-! ## Attempts -/

/-- Whether a store may hold one content before and another one after an attempt to run a program,
whatever fails on the way. -/
def Attempt {α : Type} (address : Location → κ) (program : Program interface α) (s t : Store κ) :
    Prop :=
  ∃ exchanged result, program.Runs exchanged result ∧ Trail address s exchanged t

/-- Serving an object changes nothing under the other addresses. -/
theorem Serves.frame {object : Object} {part : List (Exchange interface)}
    {outcome : Except TargetError Unit} {s t : Store κ} (h : Serves object removing part outcome)
    (htrail : Trail address s part t) {a : κ} (hother : address object.location ≠ a) :
    t a = s a := by
  rcases h.settles htrail with rfl | ⟨rfl, -⟩
  · exact Function.update_of_ne hother.symm _ _
  · rfl

section Applied

variable {α : Type} {value : α} {exchanged : List (Exchange interface)} {result : Except Error α}
  {s t : Store κ}

/-- Serving objects changes nothing under the other addresses. -/
theorem Applied.frame (h : Applied removing value objects exchanged result)
    (htrail : Trail address s exchanged t) {a : κ}
    (hother : ∀ object ∈ objects, address object.location ≠ a) : t a = s a := by
  induction h generalizing s with
  | done =>
      cases htrail
      rfl
  | next served _ ih =>
      obtain ⟨between, hpart, hmore⟩ := htrail.append
      rw [ih hmore fun object hmem ↦ hother object (List.mem_cons_of_mem _ hmem)]
      exact served.frame hpart (hother _ List.mem_cons_self)
  | failed rest served => exact served.frame htrail (hother _ List.mem_cons_self)

/-- Writing objects settles the first of them, up to the one that fails or beyond it. -/
theorem Applied.reaches (h : Applied false value objects exchanged result)
    (htrail : Trail address s exchanged t) :
    ∃ first second, objects = first ++ second ∧ t = settleAll address false first s := by
  induction h generalizing s with
  | done =>
      cases htrail
      exact ⟨[], [], rfl, rfl⟩
  | next served _ ih =>
      obtain ⟨between, hpart, hmore⟩ := htrail.append
      rcases served.settles hpart with rfl | ⟨-, hfailed⟩
      · obtain ⟨first, second, rfl, rfl⟩ := ih hmore
        exact ⟨_ :: first, second, rfl, rfl⟩
      · simp at hfailed
  | failed rest served =>
      rcases served.settles htrail with rfl | ⟨rfl, -⟩
      · exact ⟨[_], rest, rfl, rfl⟩
      · exact ⟨[], _, rfl, rfl⟩

/-- An attempt to serve objects makes no difference to what a store holds once they are settled. -/
theorem Applied.absorbed (h : Applied removing value objects exchanged result)
    (htrail : Trail address s exchanged t) (hbodies : ∀ object ∈ objects, Bodied object.body) :
    settleAll address removing objects t = settleAll address removing objects s := by
  funext a
  rw [settleAll_apply, settleAll_apply]
  cases removing with
  | true =>
      -- A deletion may have been answered without an effect, but all are deleted in the end.
      by_cases hother : ∀ object ∈ objects, address object.location ≠ a
      · rw [h.frame htrail hother]
      · simp only [not_forall, not_not] at hother
        obtain ⟨object, hmem, haddress⟩ := hother
        exact settledUnder_const ⟨object, by simp [hmem, haddress], .inl rfl⟩ _ _
  | false =>
      obtain ⟨first, second, rfl, rfl⟩ := h.reaches htrail
      rw [settleAll_apply, List.filter_append]
      refine settledUnder_of_prefix (fun object hmem ↦ hbodies object ?_) _
      rw [← List.filter_append] at hmem
      exact List.mem_of_mem_filter hmem

end Applied

/-! ## An undisturbed application -/

/-- Deleting an object without a failure settles it. -/
theorem run_remove (object : Object) (s : Store κ) :
    (remove object).run (Store.serve address) s =
      (.ok (), Function.update s (address object.location) none) := by
  have hdelete : (delete object.location).run (Store.serve address) s =
      Store.serve address (.delete object.location) s := rfl
  rw [remove, Program.run_bind, hdelete]
  simp only [Store.serve]
  cases hheld : s (address object.location) with
  | some value => rfl
  | none =>
      have hsame : Function.update s (address object.location) none = s := by
        rw [← hheld, Function.update_eq_self]
      rw [hsame]
      rfl

/-- Writing an object without a failure settles it. -/
theorem run_write (object : Object) (s : Store κ) :
    (write object).run (Store.serve address) s =
      (.ok (), Function.update s (address object.location)
        (settled false object (s (address object.location)))) := by
  cases hroute : object.route with
  | namespaced | clusterScoped => simp [write, hroute, settled, apply, Program.run, Store.serve]
  | guardedSingleton =>
      have hget : (get object.location).run (Store.serve address) s =
          Store.serve address (.get object.location) s := rfl
      simp only [write, hroute]
      rw [Program.run_bind, hget]
      simp only [Store.serve]
      cases hheld : s (address object.location) with
      | none => simp [settled, hroute, TargetError.isNotFound, apply, Program.run, Store.serve]
      | some value => simp [settled, hroute, hheld, patchMetadata, Program.run, Store.serve]

/-- Serving an object without a failure settles it. -/
theorem run_serveObject (object : Object) (s : Store κ) :
    (serveObject removing object).run (Store.serve address) s =
      (.ok (), Function.update s (address object.location)
        (settled removing object (s (address object.location)))) := by
  cases removing with
  | true => exact run_remove object s
  | false => exact run_write object s

/-- Serving objects without a failure settles all of them. -/
theorem run_applyObjects (objects : List Object) (s : Store κ) :
    (applyObjects removing objects).run (Store.serve address) s =
      (.ok (), settleAll address removing objects s) := by
  induction objects generalizing s with
  | nil => rfl
  | cons object rest ih =>
      rw [applyObjects_cons, Program.run_bind, run_serveObject]
      exact ih _

variable {mapper : Mapper} {scopes : ScopeTable} {manifest : String}

/-- Applying a manifest without a failure settles its objects. -/
theorem run_applyManifest (hdiscover : Manifest.discover mapper scopes manifest = .ok objects)
    (s : Store κ) :
    (applyManifest mapper scopes manifest removing).run (Store.serve address) s =
      (.ok objects.length, settleAll address removing objects s) := by
  simp only [applyManifest, hdiscover]
  rw [Program.run_bind, run_applyObjects]
  rfl

/-- A body in which a name is found is that of an object with metadata. -/
theorem bodied_of_name {body : Json} {name : String} (hordered : body.Ordered)
    (hname : Manifest.field? ((body.at? "metadata").at? "name") = some name) : Bodied body := by
  cases body with
  | object fields =>
      cases hmetadata : Json.lookup "metadata" fields with
      | some metadata => exact ⟨fields, metadata, rfl, hordered, hmetadata⟩
      | none => simp [Json.at?, Json.get?, hmetadata, Manifest.field?, Json.asText?] at hname
  | null | bool _ | number _ | text _ | array _ =>
      simp [Json.at?, Json.get?, Manifest.field?, Json.asText?] at hname

/-- The body of an object that was read from a document is in order and has metadata. -/
theorem bodied_of_yields {documents : List String} {found : List (Option Object)}
    (h : List.Forall₂ (Yields mapper scopes) documents found) :
    ∀ object ∈ found.reduceOption, Bodied object.body := by
  intro object hmem
  obtain ⟨document, -, hread, hplaces⟩ := Manifest.placed_of_yields h object hmem
  exact bodied_of_name (Yaml.readJson?_ordered hread) hplaces.name

/-- Whatever failed in earlier attempts to write or to delete the objects of a manifest, of which no
document is refused: one more attempt, in which nothing fails, goes well and leaves the cluster as
an only attempt from the start would have left it. -/
theorem application_resumes (address : Location → κ)
    (hsound : ¬ ∃ document ∈ Manifest.documents manifest, Refused mapper document)
    {start reached : Store κ}
    (hattempts : Relation.ReflTransGen
      (Attempt address (applyManifest mapper scopes manifest removing)) start reached) :
    ∃ found, List.Forall₂ (Yields mapper scopes) (Manifest.documents manifest) found ∧
      (applyManifest mapper scopes manifest removing).run (Store.serve address) reached =
        (.ok found.reduceOption.length,
          ((applyManifest mapper scopes manifest removing).run (Store.serve address) start).2) := by
  obtain ⟨found, hfound, hdiscover⟩ := Manifest.discover_of_sound scopes hsound
  refine ⟨found, hfound, ?_⟩
  rw [run_applyManifest hdiscover, run_applyManifest hdiscover]
  refine Prod.ext rfl ?_
  induction hattempts with
  | refl => rfl
  | tail _ hattempt ih =>
      obtain ⟨exchanged, result, hruns, htrail⟩ := hattempt
      rw [← ih]
      exact (applied_of_discover hdiscover hruns).absorbed htrail (bodied_of_yields hfound)

/-- An attempt that wrote one namespace and could not change the metadata of the other one is made
good by the next. -/
theorem application_resumes_shared :
    ∃ found, List.Forall₂ (Yields (Kube.ResourceType.resolve usualTypes) {})
        (Manifest.documents sharedManifest) found ∧
      sharedApplication.run (Store.serve triple) sharedRemains =
        (.ok found.reduceOption.length,
          (sharedApplication.run (Store.serve triple) sharedStore).2) := by
  refine application_resumes triple ?_
    (.single ⟨sharedExchanges, _, Program.runs_exchanges _ _ _, trail_shared⟩)
  intro hrefused
  obtain ⟨error, herror⟩ := Manifest.discover_of_refused {} hrefused
  simp [discover_shared] at herror

end FleetOperator.Target
