import FleetOperator.Proofs.Json.MergePatch
import FleetOperator.Proofs.Target.Store

/-!
# Guarded objects

What becomes of the guarded objects of a workload cluster when a manifest is applied to it. Read
`Applied.spares` and `Applied.overwrites_absent` first: whatever the documents and the failures are,
a guarded object that is held keeps all but its metadata, and is not written as a whole.
`Applied.overwrites_once` adds that one that is not held is written as a whole at most once, and
`guarded_never_overwritten` states all of this of whole manifests.
-/

namespace FleetOperator.Target

open Manifest (Location Mapper Object ScopeTable)
open Store (Trail)

/-- Whether an object that was held is held afterwards with all its fields but its metadata as they
were. -/
def Spared (before after : Option Json) : Prop :=
  ∀ value, before = some value → ∃ other, after = some other ∧
    ∀ field, field ≠ "metadata" → other.get? field = value.get? field

theorem Spared.refl (held : Option Json) : Spared held held :=
  fun value h ↦ ⟨value, h, fun _ _ ↦ rfl⟩

theorem Spared.trans {first second third : Option Json} (h : Spared first second)
    (h' : Spared second third) : Spared first third := by
  intro value hvalue
  obtain ⟨other, hother, hfields⟩ := h value hvalue
  obtain ⟨last, hlast, hrest⟩ := h' other hother
  exact ⟨last, hlast, fun field hne ↦ (hrest field hne).trans (hfields field hne)⟩

/-- Other metadata spares an object. -/
theorem spared_withMetadata (metadata value : Json) :
    Spared (some value) (some (Memory.withMetadata metadata value)) := by
  rintro _ ⟨⟩
  refine ⟨_, rfl, fun field hne ↦ ?_⟩
  show Json.lookup field (Json.insertField "metadata" metadata (Json.fieldsOf value)) = _
  rw [Json.lookup_insertField, if_neg hne.symm, Json.get?_eq_lookup]

variable {κ : Type} {address : Location → κ} {place : Location}

/-- Whether an exchange writes a whole object under the address of a place. -/
def Overwrites (address : Location → κ) (place : Location) (exchange : Exchange interface) : Prop :=
  ∃ other body, exchange.call = .apply other body ∧ address other = address place

variable [DecidableEq κ] {scopes : ScopeTable} {object : Object} {s t : Store κ}
  {part : List (Exchange interface)} {outcome : Except TargetError Unit}

omit [DecidableEq κ] in
/-- An object under the address of a guarded place is guarded. -/
theorem guarded_of_address
    (hkinds : ∀ a b, address a = address b → a.resource.plural = b.resource.plural)
    (hroute : object.route = scopes.route object.location.resource.plural)
    (hguarded : place.resource.plural ∈ scopes.guarded)
    (haddress : address object.location = address place) : object.route = .guardedSingleton := by
  rw [hroute, hkinds _ _ haddress, ScopeTable.route, if_pos hguarded]

section Object

variable (hkinds : ∀ a b, address a = address b → a.resource.plural = b.resource.plural)
  (hroute : object.route = scopes.route object.location.resource.plural)
  (hguarded : place.resource.plural ∈ scopes.guarded)
  (h : Serves object false part outcome) (htrail : Trail address s part t)
include hkinds hroute hguarded h htrail

/-- Writing any object spares a guarded one. -/
theorem Serves.spares : Spared (s (address place)) (t (address place)) := by
  rcases h.settles htrail with rfl | ⟨rfl, -⟩
  · by_cases haddress : address object.location = address place
    · have hobject := guarded_of_address hkinds hroute hguarded haddress
      rw [haddress, Function.update_self]
      cases hheld : s (address place) with
      | none => simp [Spared]
      | some value => simpa [settled, hobject] using spared_withMetadata _ value
    · rw [Function.update_of_ne (Ne.symm haddress)]
      exact .refl _
  · exact .refl _

/-- Where a guarded object is held no object is written as a whole. -/
theorem Serves.overwrites_absent {exchange : Exchange interface} (hmem : exchange ∈ part)
    (hoverwrites : Overwrites address place exchange) : s (address place) = none := by
  obtain ⟨other, body, hcall, haddress⟩ := hoverwrites
  cases h with
  | written answer hunguarded =>
      obtain rfl := List.mem_singleton.1 hmem
      obtain ⟨rfl, -⟩ : object.location = other ∧ object.body = body := by simpa using hcall
      exact absurd (guarded_of_address hkinds hroute hguarded haddress) hunguarded
  | created what answer hguard =>
      rcases List.mem_pair.1 hmem with rfl | rfl
      · simp at hcall
      · obtain ⟨rfl, -⟩ : object.location = other ∧ object.body = body := by simpa using hcall
        cases htrail with
        | cons hget _ => exact haddress ▸ hget.get.2.2 what rfl
  | patched seen answer hguard =>
      rcases List.mem_pair.1 hmem with rfl | rfl <;> simp at hcall
  | unread detail hguard =>
      obtain rfl := List.mem_singleton.1 hmem
      simp at hcall

end Object

omit [DecidableEq κ] in
/-- An object is written as a whole only under its own address. -/
theorem Serves.address_eq (h : Serves object false part outcome) {exchange : Exchange interface}
    (hmem : exchange ∈ part) (hoverwrites : Overwrites address place exchange) :
    address object.location = address place := by
  obtain ⟨other, body, hcall, haddress⟩ := hoverwrites
  have hlocation : exchange.call.location = object.location := by
    cases h <;> simp only [List.mem_cons, List.not_mem_nil, or_false] at hmem
    case written => rw [hmem]; rfl
    case unread => rw [hmem]; rfl
    case created | patched => rcases hmem with rfl | rfl <;> rfl
  rw [hcall] at hlocation
  rw [← haddress, ← hlocation]
  rfl

omit [DecidableEq κ] in
/-- For one object at most one object is written as a whole. -/
theorem Serves.overwrites_once (h : Serves object false part outcome) :
    part.Pairwise fun first second ↦
      Overwrites address place first → ¬ Overwrites address place second := by
  cases h with
  | written | unread => exact List.pairwise_singleton _ _
  | created | patched =>
      refine List.pairwise_pair.2 ?_
      rintro ⟨other, body, hcall, -⟩
      simp at hcall

/-- An object that was written as a whole without a failure is held. -/
theorem Serves.held (h : Serves object false part (.ok ())) (htrail : Trail address s part t)
    {exchange : Exchange interface} (hmem : exchange ∈ part)
    (hoverwrites : Overwrites address place exchange) : t (address place) ≠ none := by
  rcases h.settles htrail with rfl | ⟨-, hfailed⟩
  · rw [← h.address_eq hmem hoverwrites, Function.update_self]
    unfold settled
    split
    · contradiction
    · split <;> simp
  · simp at hfailed

section Objects

variable {α : Type} {value : α} {objects : List Object} {exchanged : List (Exchange interface)}
  {result : Except Error α} {start reached : Store κ}
  (hkinds : ∀ a b, address a = address b → a.resource.plural = b.resource.plural)
  (hguarded : place.resource.plural ∈ scopes.guarded)
  (h : Applied false value objects exchanged result)
  (hroutes : ∀ object ∈ objects, object.route = scopes.route object.location.resource.plural)
  (htrail : Trail address start exchanged reached)
include hkinds hguarded h hroutes htrail

/-- Writing objects spares every guarded one. -/
theorem Applied.spares : Spared (start (address place)) (reached (address place)) := by
  induction h generalizing start with
  | done =>
      cases htrail
      exact .refl _
  | next served _ ih =>
      obtain ⟨between, hpart, hmore⟩ := htrail.append
      have hfirst := served.spares hkinds (hroutes _ List.mem_cons_self) hguarded hpart
      exact hfirst.trans (ih (fun object hmem ↦ hroutes object (List.mem_cons_of_mem _ hmem)) hmore)
  | failed rest served =>
      exact served.spares hkinds (hroutes _ List.mem_cons_self) hguarded htrail

/-- Where a guarded object is held, no object is written as a whole under its address. -/
theorem Applied.overwrites_absent {exchange : Exchange interface} (hmem : exchange ∈ exchanged)
    (hoverwrites : Overwrites address place exchange) : start (address place) = none := by
  induction h generalizing start with
  | done => simp at hmem
  | next served _ ih =>
      obtain ⟨between, hpart, hmore⟩ := htrail.append
      rcases List.mem_append.1 hmem with hmem | hmem
      · exact served.overwrites_absent hkinds (hroutes _ List.mem_cons_self) hguarded hpart hmem
          hoverwrites
      · -- What is held at first would still be held between the objects.
        have hbetween := ih (fun object hmem ↦ hroutes object (List.mem_cons_of_mem _ hmem))
          hmore hmem
        cases hheld : start (address place) with
        | none => rfl
        | some value =>
            obtain ⟨other, hother, -⟩ :=
              served.spares hkinds (hroutes _ List.mem_cons_self) hguarded hpart value hheld
            simp [hbetween] at hother
  | failed rest served =>
      exact served.overwrites_absent hkinds (hroutes _ List.mem_cons_self) hguarded htrail hmem
        hoverwrites

/-- Under the address of a guarded object at most one object is written as a whole. -/
theorem Applied.overwrites_once : exchanged.Pairwise fun first second ↦
    Overwrites address place first → ¬ Overwrites address place second := by
  induction h generalizing start with
  | done => exact .nil
  | next served others ih =>
      obtain ⟨between, hpart, hmore⟩ := htrail.append
      have hrest := fun object hmem ↦ hroutes object (List.mem_cons_of_mem _ hmem)
      refine List.pairwise_append.2 ⟨served.overwrites_once, ih hrest hmore, ?_⟩
      intro first hfirst second hsecond hoverwrites hagain
      exact served.held hpart hfirst hoverwrites
        (others.overwrites_absent hkinds hguarded hrest hmore hsecond hagain)
  | failed rest served => exact served.overwrites_once

end Objects

/-- Whatever is answered, and however often a manifest names an object: writing a manifest calls for
a guarded object to be written as a whole only where none was held at the start and none was written
before, and every guarded object that was held at the start is held in the end with all its fields
but its metadata as they were. -/
theorem guarded_never_overwritten {mapper : Mapper} {manifest : String}
    {exchanged : List (Exchange interface)} {result : Except Error Nat} {start reached : Store κ}
    (hkinds : ∀ a b, address a = address b → a.resource.plural = b.resource.plural)
    (hruns : (applyManifest mapper scopes manifest false).Runs exchanged result)
    (htrail : Trail address start exchanged reached)
    (hguarded : place.resource.plural ∈ scopes.guarded) :
    (∀ before exchange after, exchanged = before ++ exchange :: after →
        Overwrites address place exchange →
        start (address place) = none ∧
          ∀ earlier ∈ before, ¬ Overwrites address place earlier) ∧
      Spared (start (address place)) (reached (address place)) := by
  by_cases hrefused : ∃ document ∈ Manifest.documents manifest, Manifest.Refused mapper document
  · obtain ⟨error, herror⟩ := Manifest.discover_of_refused scopes hrefused
    simp only [applyManifest, herror] at hruns
    obtain ⟨rfl, rfl⟩ := Program.runs_pure_iff.1 hruns
    cases htrail
    exact ⟨by simp, .refl _⟩
  · obtain ⟨found, hfound, hdiscover⟩ := Manifest.discover_of_sound scopes hrefused
    have happlied := applied_of_discover hdiscover hruns
    have hroutes : ∀ object ∈ found.reduceOption,
        object.route = scopes.route object.location.resource.plural := by
      intro object hmem
      obtain ⟨document, -, -, hplaces⟩ := Manifest.placed_of_yields hfound object hmem
      exact hplaces.route
    refine ⟨?_, happlied.spares hkinds hguarded hroutes htrail⟩
    rintro before exchange after rfl hoverwrites
    have honce := happlied.overwrites_once hkinds hguarded hroutes htrail
    refine ⟨happlied.overwrites_absent hkinds hguarded hroutes htrail (by simp) hoverwrites, ?_⟩
    intro earlier hearlier hbefore
    exact (List.pairwise_append.1 honce).2.2 earlier hearlier exchange List.mem_cons_self hbefore
      hoverwrites

/-- While metadata cannot be changed, the namespace that is missing is written, and the one that is
held is read and left as it is. -/
theorem guarded_never_overwritten_shared :
    sharedExchanges.map (·.call.verb) = ["get", "apply", "get", "patch_metadata"] ∧
      (∀ before exchange after, sharedExchanges = before ++ exchange :: after →
        Overwrites triple (sharedPlace "argocd") exchange →
        sharedStore (triple (sharedPlace "argocd")) = none ∧
          ∀ earlier ∈ before, ¬ Overwrites triple (sharedPlace "argocd") earlier) ∧
      Spared (sharedStore (triple (sharedPlace "argocd")))
        (sharedRemains (triple (sharedPlace "argocd"))) := by
  refine ⟨?_, guarded_never_overwritten (fun a b haddress ↦ congrArg Prod.fst haddress)
    (Program.runs_exchanges _ sharedApplication _) trail_shared (by decide)⟩
  simp only [sharedExchanges, sharedApplication, applyManifest, discover_shared]
  decide +kernel

end FleetOperator.Target
