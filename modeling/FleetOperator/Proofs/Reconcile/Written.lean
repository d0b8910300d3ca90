import FleetOperator.Proofs.Reconcile.Plan

/-!
# Written objects

What stays as it is after a write that went well. Read `Scheme.IsWritten` first: the platform holds
what is stored for the request of the resource, and looks, rests and further writes leave it so.
-/

namespace FleetOperator.Scheme

variable {σ ω κ μ W : Type} {scheme : Scheme σ κ μ} {external : External σ ω}
  {handler : Handler effects W} {holdings : Holdings W κ} {m : μ} {fact : σ → Prop}
  {s t : Situation σ ω W}

/-- A situation after a request was written: the platform holds what is stored for it under the name
on the resource, and the resource asks for nothing else. A fact about its specification is known. -/
structure IsWritten (scheme : Scheme σ κ μ) (holdings : Holdings W κ) (m : μ) (fact : σ → Prop)
    (s : Situation σ ω W) : Prop where
  calm : holdings.calm s.world
  name : s.resource.externalName? = some (scheme.name m)
  held : holdings.held s.world (scheme.name m) = some (scheme.stored m)
  request : scheme.request? s.resource.spec = .ok m
  known : fact s.resource.spec

/-- Late initialization from what is stored for a request keeps a fact about specifications. -/
def Keeps (scheme : Scheme σ κ μ) (m : μ) (fact : σ → Prop) : Prop :=
  ∀ spec own, scheme.request? spec = .ok m →
    scheme.lateInitialize spec (scheme.stored m) = { spec := own } → fact spec → fact own

/-- Time in which nothing changes leaves a written object written. -/
theorem IsWritten.rest (h : scheme.IsWritten holdings m fact s) (hrest : holdings.Rest s t) :
    scheme.IsWritten holdings m fact t where
  calm := hrest.calm
  name := hrest.externalName.trans h.name
  held := (hrest.held _).trans h.held
  request := by rw [hrest.spec, h.request]
  known := by rw [hrest.spec]; exact h.known

variable (hfollowed : scheme.Followed external handler holdings)
include hfollowed

/-- A look at a written object leaves it written. -/
theorem IsWritten.looked (hlawful : scheme.Lawful) (hkept : scheme.Keeps m fact)
    (h : scheme.IsWritten holdings m fact s) :
    scheme.IsWritten holdings m fact (external.looked handler s) := by
  have hlooks := hfollowed.looks s h.calm
  have hsees := hlooks.sees
  obtain ⟨own, hinit, hown⟩ := hlawful.stored _ _ h.request
  rw [h.name, Option.bind_some, h.held] at hsees
  obtain ⟨hspec, -⟩ := hsees
  rw [hinit] at hspec
  constructor
  · exact hlooks.calm
  · exact hlooks.externalName.trans h.name
  · exact (hlooks.held _).trans h.held
  · rw [hspec]
    exact hown
  · rw [hspec]
    exact hkept _ _ h.request hinit h.known

/-- An update of a written object leaves it written, whether it goes well or not. -/
theorem IsWritten.updated (h : scheme.IsWritten holdings m fact s) :
    scheme.IsWritten holdings m fact
      { s with world := ((external.update s.resource).run.run handler s.world).2 } where
  calm := (hfollowed.updates s.resource s.world m h.calm h.request).1.applied.calm
  name := h.name
  held := by
    have hwritten := (hfollowed.updates s.resource s.world m h.calm h.request).1.applied.written
    rw [h.held] at hwritten
    simpa using hwritten
  request := h.request
  known := h.known

/-- A write that went well leaves the object written. -/
theorem Followed.isWritten_of_wrote {before after : Situation σ ω W} {name : String}
    (hcalm : holdings.calm before.world) (hname : name ≠ "")
    (hnamed : ∀ m, scheme.request? before.resource.spec = .ok m → scheme.name m = name)
    (hknown : fact before.resource.spec) (hwrote : external.Wrote handler name before after) :
    ∃ m, scheme.request? before.resource.spec = .ok m ∧
      scheme.IsWritten holdings m fact after := by
  cases hrequest : scheme.request? before.resource.spec with
  | error error =>
      obtain ⟨hcreate, -, hupdate, -⟩ :=
        hfollowed.fails before.resource before.world error hrequest
      cases hwrote with
      | created h => exact absurd (hcreate.symm.trans h) (by simp)
      | updated _ h => exact absurd (hupdate.symm.trans h) (by simp)
  | ok m =>
      refine ⟨m, rfl, ?_⟩
      have hsame := hnamed m hrequest
      cases hwrote with
      | created h =>
          obtain ⟨hwrites, hcreated⟩ := hfollowed.creates _ _ m hcalm hrequest
          rw [h] at hwrites hcreated
          obtain ⟨rfl, hheld⟩ := hcreated _ rfl
          refine ⟨hwrites.applied.calm, ?_, hheld, hrequest, hknown⟩
          show (before.resource.withExternalName (scheme.name m)).externalName? = _
          rw [Resource.externalName?_withExternalName, hsame, if_neg hname]
      | updated hexternal h =>
          obtain ⟨hwrites, hstored⟩ := hfollowed.updates _ _ m hcalm hrequest
          rw [h] at hwrites hstored
          refine ⟨hwrites.applied.calm, ?_, hstored rfl, hrequest, hknown⟩
          rw [hsame]
          exact hexternal

end FleetOperator.Scheme
