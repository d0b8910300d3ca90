import FleetOperator.Drift.LateInit
import FleetOperator.Proofs.Reconcile.Undisturbed

/-!
# Planned writes

Which write a situation has in store, whatever kind of object is written. Read `Scheme.planned` and
`Scheme.Followed.writes_planned` first: a pass keeps the planned write, whether it writes or not and
whether the write goes well or not, and so all writes of an undisturbed run are the one that its
start has planned.
-/

namespace FleetOperator

variable {σ ω κ μ W : Type}

/-- How objects are asked for: what late initialization takes over from a held one, the request for a
specification, the name under which the request is stored, what is stored, and the effect that asks
for it. -/
structure Scheme (σ κ μ : Type) where
  lateInitialize : σ → κ → LateInitialized σ
  request? : σ → Except Error μ
  name : μ → String
  stored : μ → κ
  write : μ → Effect

namespace Scheme

/-- A scheme in which late initialization takes over the same a second time, and in which what was
stored for a specification changes nothing of what it asks for. -/
structure Lawful (scheme : Scheme σ κ μ) : Prop where
  twice : ∀ spec object, scheme.lateInitialize (scheme.lateInitialize spec object).spec object =
    scheme.lateInitialize spec object
  stored : ∀ spec m, scheme.request? spec = .ok m → ∃ own,
    scheme.lateInitialize spec (scheme.stored m) = { spec := own } ∧ scheme.request? own = .ok m

/-- The request that would be written next: the one for the specification after late initialization
from what is held under the name on the resource, if anything is. -/
def planned (scheme : Scheme σ κ μ) (holdings : Holdings W κ) (s : Situation σ ω W) : Option μ :=
  match s.resource.externalName?.bind (holdings.held s.world) with
  | none => (scheme.request? s.resource.spec).toOption
  | some object =>
    let done := scheme.lateInitialize s.resource.spec object
    if done.error.isSome then none else (scheme.request? done.spec).toOption

/-- What a look sees, and what it makes of the specification, by what is held under the name on the
resource. -/
def Sees (scheme : Scheme σ κ μ) (spec own : σ) (seen : Except Error Observation) :
    Option κ → Prop
  | none => seen = .ok .absent ∧ own = spec
  | some object =>
    own = (scheme.lateInitialize spec object).spec ∧
      match (scheme.lateInitialize spec object).error with
      | some error => seen = .error error
      | none => ∃ upToDate, seen = .ok (.present upToDate)

/-- What a look may do to a situation: it changes nothing that is held and writes nothing. -/
structure Looks (scheme : Scheme σ κ μ) (holdings : Holdings W κ) (s looked : Situation σ ω W)
    (seen : Except Error Observation) (calls : List Effect) : Prop where
  calm : holdings.calm looked.world
  held : ∀ name, holdings.held looked.world name = holdings.held s.world name
  externalName : looked.resource.externalName? = s.resource.externalName?
  sees : scheme.Sees s.resource.spec looked.resource.spec seen
    (s.resource.externalName?.bind (holdings.held s.world))
  quiet : ∀ effect ∈ calls, ¬ effect.isWrite

/-- What a creation or an update may do to a world: it writes the given request and nothing else,
and the request took effect or did not. -/
structure Writes (scheme : Scheme σ κ μ) (holdings : Holdings W κ) (m : μ) (before after : W)
    (calls : List Effect) : Prop where
  applied : holdings.Applied (scheme.name m) (scheme.stored m) before after
  only : ∀ effect ∈ calls, effect.isWrite → effect = scheme.write m

/-- What is done with remote objects follows a scheme on a platform: a look writes nothing and takes
over what is held, and a creation or an update writes the request for the specification, if there is
one, and nothing else. -/
structure Followed (scheme : Scheme σ κ μ) (external : External σ ω) (handler : Handler effects W)
    (holdings : Holdings W κ) : Prop where
  looks : ∀ s : Situation σ ω W, holdings.calm s.world →
    scheme.Looks holdings s (external.looked handler s) (external.seen handler s)
      (external.looks handler s)
  creates : ∀ (cr : Resource σ ω) world m, holdings.calm world →
    scheme.request? cr.spec = .ok m →
    scheme.Writes holdings m world ((external.create cr).run.run handler world).2
        ((external.create cr).run.calls handler world) ∧
      ∀ created, ((external.create cr).run.run handler world).1 = .ok created →
        created = cr.withExternalName (scheme.name m) ∧
          holdings.held ((external.create cr).run.run handler world).2 (scheme.name m) =
            some (scheme.stored m)
  updates : ∀ (cr : Resource σ ω) world m, holdings.calm world →
    scheme.request? cr.spec = .ok m →
    scheme.Writes holdings m world ((external.update cr).run.run handler world).2
        ((external.update cr).run.calls handler world) ∧
      (((external.update cr).run.run handler world).1 = .ok () →
        holdings.held ((external.update cr).run.run handler world).2 (scheme.name m) =
          some (scheme.stored m))
  fails : ∀ (cr : Resource σ ω) world error, scheme.request? cr.spec = .error error →
    (external.create cr).run.run handler world = (.error error, world) ∧
      (external.create cr).run.calls handler world = [] ∧
      (external.update cr).run.run handler world = (.error error, world) ∧
      (external.update cr).run.calls handler world = []

variable {scheme : Scheme σ κ μ} {external : External σ ω} {handler : Handler effects W}
  {holdings : Holdings W κ} {s t : Situation σ ω W}

/-- The planned write depends on the specification and on what is held under the name on the
resource. -/
theorem planned_congr (hspec : t.resource.spec = s.resource.spec)
    (hheld : t.resource.externalName?.bind (holdings.held t.world) =
      s.resource.externalName?.bind (holdings.held s.world)) :
    scheme.planned holdings t = scheme.planned holdings s := by
  unfold planned
  rw [hspec, hheld]

/-- Where nothing is held, the request for the specification is planned. -/
theorem planned_missing (h : s.resource.externalName?.bind (holdings.held s.world) = none) :
    scheme.planned holdings s = (scheme.request? s.resource.spec).toOption := by
  unfold planned
  rw [h]

/-- Where an object is held, the request for the specification after late initialization is
planned. -/
theorem planned_held {object : κ}
    (h : s.resource.externalName?.bind (holdings.held s.world) = some object) :
    scheme.planned holdings s =
      if (scheme.lateInitialize s.resource.spec object).error.isSome then none
      else (scheme.request? (scheme.lateInitialize s.resource.spec object).spec).toOption := by
  unfold planned
  rw [h]

section

variable (hlawful : scheme.Lawful) {m : μ} (hrequest : scheme.request? s.resource.spec = .ok m)
include hlawful hrequest

/-- Where the request for the specification is stored, it stays the planned one. -/
theorem planned_stored
    (h : s.resource.externalName?.bind (holdings.held s.world) = some (scheme.stored m)) :
    scheme.planned holdings s = some m := by
  obtain ⟨own, hinit, hown⟩ := hlawful.stored _ _ hrequest
  rw [planned_held h, hinit]
  simp [hown, Except.toOption]

/-- A write of the planned request, whether it takes effect or not, keeps the plan. -/
theorem planned_applied (hplanned : scheme.planned holdings s = some m) {world : W}
    (happlied : holdings.Applied (scheme.name m) (scheme.stored m) s.world world) :
    scheme.planned holdings { s with world } = some m := by
  have hsame (h : s.resource.externalName?.bind (holdings.held world) =
      s.resource.externalName?.bind (holdings.held s.world)) :
      scheme.planned holdings { s with world } = some m := by
    rw [← hplanned]
    exact planned_congr rfl h
  -- Only a write under the name on the resource can change what late initialization takes over.
  cases hname : s.resource.externalName? with
  | none => exact hsame (by rw [hname]; rfl)
  | some name =>
      by_cases hown : name = scheme.name m
      · subst hown
        have hwritten := happlied.written
        simp only [List.mem_cons, List.not_mem_nil, or_false] at hwritten
        rcases hwritten with hwritten | hwritten
        · exact planned_stored hlawful hrequest (by rw [hname]; exact hwritten)
        · exact hsame (by rw [hname]; exact hwritten)
      · exact hsame (by rw [hname]; exact happlied.others name hown)

end

/-- A look keeps the planned write, and after it the request for the specification is planned unless
the look failed. -/
theorem Followed.look (hfollowed : scheme.Followed external handler holdings)
    (hlawful : scheme.Lawful) (hcalm : holdings.calm s.world) :
    scheme.planned holdings (external.looked handler s) = scheme.planned holdings s ∧
      ((∃ error, external.seen handler s = .error error) ∨
        scheme.planned holdings (external.looked handler s) =
          (scheme.request? (external.looked handler s).resource.spec).toOption) := by
  have hlooks := hfollowed.looks s hcalm
  have hsees := hlooks.sees
  have hbind : (external.looked handler s).resource.externalName?.bind
      (holdings.held (external.looked handler s).world) =
        s.resource.externalName?.bind (holdings.held s.world) := by
    rw [hlooks.externalName, funext hlooks.held]
  cases hobject : s.resource.externalName?.bind (holdings.held s.world) with
  | none =>
      rw [hobject] at hsees hbind
      obtain ⟨-, hspec⟩ := hsees
      exact ⟨planned_congr hspec (hbind.trans hobject.symm), .inr (planned_missing hbind)⟩
  | some object =>
      rw [hobject] at hsees hbind
      obtain ⟨hspec, hseen⟩ := hsees
      -- What was taken over once is taken over again, so the plan stays as it is.
      rw [planned_held hbind, planned_held hobject, hspec, hlawful.twice]
      refine ⟨rfl, ?_⟩
      cases herror : (scheme.lateInitialize s.resource.spec object).error with
      | some error =>
          rw [herror] at hseen
          exact .inl ⟨error, hseen⟩
      | none => exact .inr rfl

section

variable (hfollowed : scheme.Followed external handler holdings) (hlawful : scheme.Lawful)
include hfollowed hlawful

/-- Where the request for the specification is planned, an update keeps the plan and writes nothing
else. -/
theorem Followed.update (hcalm : holdings.calm s.world)
    (hopen : scheme.planned holdings s = (scheme.request? s.resource.spec).toOption) :
    holdings.calm ((external.update s.resource).run.run handler s.world).2 ∧
      scheme.planned holdings
          { s with world := ((external.update s.resource).run.run handler s.world).2 } =
        scheme.planned holdings s ∧
      ∀ effect ∈ (external.update s.resource).run.calls handler s.world, effect.isWrite →
        ∃ m, scheme.planned holdings s = some m ∧ effect = scheme.write m := by
  cases hrequest : scheme.request? s.resource.spec with
  | error error =>
      obtain ⟨-, -, hrun, hcalls⟩ := hfollowed.fails s.resource s.world error hrequest
      rw [hrun, hcalls]
      exact ⟨hcalm, rfl, by simp⟩
  | ok m =>
      have hplanned : scheme.planned holdings s = some m := by
        rw [hopen, hrequest]
        rfl
      obtain ⟨hwrites, -⟩ := hfollowed.updates s.resource s.world m hcalm hrequest
      rw [hplanned]
      refine ⟨hwrites.applied.calm,
        planned_applied hlawful hrequest hplanned hwrites.applied, ?_⟩
      exact fun effect hasked hwrite ↦ ⟨m, rfl, hwrites.only effect hasked hwrite⟩

/-- Where the request for the specification is planned, a creation keeps the plan and writes nothing
else. -/
theorem Followed.create (hcalm : holdings.calm s.world)
    (hopen : scheme.planned holdings s = (scheme.request? s.resource.spec).toOption) :
    holdings.calm ((external.create s.resource).run.run handler s.world).2 ∧
      scheme.planned holdings
          { resource :=
              match ((external.create s.resource).run.run handler s.world).1 with
              | .ok created => created.record .creating
              | .error _ => s.resource
            world := ((external.create s.resource).run.run handler s.world).2 } =
        scheme.planned holdings s ∧
      ∀ effect ∈ (external.create s.resource).run.calls handler s.world, effect.isWrite →
        ∃ m, scheme.planned holdings s = some m ∧ effect = scheme.write m := by
  cases hrequest : scheme.request? s.resource.spec with
  | error error =>
      obtain ⟨hrun, hcalls, -, -⟩ := hfollowed.fails s.resource s.world error hrequest
      rw [hrun, hcalls]
      exact ⟨hcalm, rfl, by simp⟩
  | ok m =>
      have hplanned : scheme.planned holdings s = some m := by
        rw [hopen, hrequest]
        rfl
      obtain ⟨hwrites, hcreated⟩ := hfollowed.creates s.resource s.world m hcalm hrequest
      rw [hplanned]
      refine ⟨hwrites.applied.calm, ?_, ?_⟩
      · cases hresult : ((external.create s.resource).run.run handler s.world).1 with
        | error error => exact planned_applied hlawful hrequest hplanned hwrites.applied
        | ok created =>
            -- The resource has its own name now, unless that is empty and counts as none.
            obtain ⟨rfl, hheld⟩ := hcreated created hresult
            have hname : ((s.resource.withExternalName (scheme.name m)).record
                .creating).externalName? =
                  if scheme.name m = "" then none else some (scheme.name m) := by
              rw [Resource.externalName?_record, Resource.externalName?_withExternalName]
            by_cases hempty : scheme.name m = ""
            · rw [if_pos hempty] at hname
              rw [planned_missing (by simp only [hname, Option.bind_none])]
              show (scheme.request? s.resource.spec).toOption = _
              rw [hrequest]
              rfl
            · rw [if_neg hempty] at hname
              refine planned_stored hlawful hrequest ?_
              simp only [hname, Option.bind_some, hheld]
      · exact fun effect hasked hwrite ↦ ⟨m, rfl, hwrites.only effect hasked hwrite⟩

/-- A pass keeps the planned write, and writes nothing else. -/
theorem Followed.pass (hcalm : holdings.calm s.world) :
    holdings.calm (external.after handler s).world ∧
      scheme.planned holdings (external.after handler s) = scheme.planned holdings s ∧
      ∀ effect ∈ external.calls handler s, effect.isWrite →
        ∃ m, scheme.planned holdings s = some m ∧ effect = scheme.write m := by
  have hcalmLooked := (hfollowed.looks s hcalm).calm
  have hquiet := (hfollowed.looks s hcalm).quiet
  obtain ⟨hplanned, hopen⟩ := hfollowed.look hlawful hcalm
  -- What a pass does after the look is judged by the plan after the look, which is the same.
  have hacts {calls : List Effect}
      (h : ∀ effect ∈ calls, effect.isWrite →
        ∃ m, scheme.planned holdings (external.looked handler s) = some m ∧
          effect = scheme.write m) :
      ∀ effect ∈ external.looks handler s ++ calls, effect.isWrite →
        ∃ m, scheme.planned holdings s = some m ∧ effect = scheme.write m := by
    intro effect hasked hwrite
    rcases List.mem_append.1 hasked with hasked | hasked
    · exact absurd hwrite (hquiet effect hasked)
    · rw [← hplanned]
      exact h effect hasked hwrite
  have hlooks : ∀ effect ∈ external.looks handler s, effect.isWrite →
      ∃ m, scheme.planned holdings s = some m ∧ effect = scheme.write m :=
    fun effect hasked hwrite ↦ absurd hwrite (hquiet effect hasked)
  rcases hseen : external.seen handler s with error | ⟨_ | _, upToDate⟩
  · obtain ⟨hafter, hcalls⟩ := External.pass_failed hseen
    rw [hafter, hcalls]
    exact ⟨hcalmLooked, hplanned, hlooks⟩
  · obtain ⟨-, hafter, hcalls⟩ := External.pass_absent hseen
    obtain ⟨hcalmDone, hkept, honly⟩ := hfollowed.create hlawful hcalmLooked
      (hopen.resolve_left (by simp [hseen]))
    rw [hafter, hcalls]
    exact ⟨hcalmDone, hkept.trans hplanned, hacts honly⟩
  · cases upToDate with
    | false =>
        obtain ⟨-, hafter, hcalls⟩ := External.pass_outdated hseen
        obtain ⟨hcalmDone, hkept, honly⟩ := hfollowed.update hlawful hcalmLooked
          (hopen.resolve_left (by simp [hseen]))
        rw [hafter, hcalls]
        exact ⟨hcalmDone, hkept.trans hplanned, hacts honly⟩
    | true =>
        obtain ⟨-, hafter, hcalls⟩ := External.pass_upToDate hseen
        rw [hafter, hcalls]
        exact ⟨hcalmLooked, hplanned, hlooks⟩

/-- All writes of an undisturbed run are the one that its start has planned. -/
theorem Followed.writes_planned {start : Situation σ ω W} (hcalm : holdings.calm start.world)
    {trace : List Effect} (hrun : Undisturbed external handler holdings start trace s) :
    ∀ effect ∈ trace, effect.isWrite →
      ∃ m, scheme.planned holdings start = some m ∧ effect = scheme.write m := by
  refine (hrun.invariant
    (fun s ↦ holdings.calm s.world ∧
      scheme.planned holdings s = scheme.planned holdings start)
    (fun effect ↦ effect.isWrite →
      ∃ m, scheme.planned holdings start = some m ∧ effect = scheme.write m)
    ?_ ?_ ?_ ⟨hcalm, rfl⟩).2
  · rintro s ⟨hcalm, hsame⟩
    obtain ⟨hcalmAfter, hkept, -⟩ := hfollowed.pass hlawful hcalm
    exact ⟨hcalmAfter, hkept.trans hsame⟩
  · rintro s t ⟨-, hsame⟩ hrest
    refine ⟨hrest.calm, (planned_congr hrest.spec ?_).trans hsame⟩
    rw [hrest.externalName, funext hrest.held]
  · rintro s ⟨hcalm, hsame⟩ effect hasked hwrite
    rw [← hsame]
    exact (hfollowed.pass hlawful hcalm).2.2 effect hasked hwrite

/-- Any two writes of an undisturbed run are the same. -/
theorem Followed.writes_agree {start : Situation σ ω W} (hcalm : holdings.calm start.world)
    {trace : List Effect} (hrun : Undisturbed external handler holdings start trace s) :
    ∀ effect ∈ trace, ∀ other ∈ trace, effect.isWrite → other.isWrite → effect = other := by
  intro effect heffect other hother hwrite hotherWrite
  have hplanned := hfollowed.writes_planned hlawful hcalm hrun
  obtain ⟨m, hm, rfl⟩ := hplanned effect heffect hwrite
  obtain ⟨n, hn, rfl⟩ := hplanned other hother hotherWrite
  obtain rfl : m = n := Option.some.inj (hm.symm.trans hn)
  rfl

end

end Scheme

end FleetOperator
