import FleetOperator.Proofs.Reconcile.Deletion
import FleetOperator.Proofs.Reconcile.Written

/-!
# Courses of passes

Converging and retiring passes in any order, after a request was applied. Read
`Scheme.Followed.tracked` first: as long as nobody else changes anything, either the object is held
and the resource carries no name, or the resource carries the name of the object and nothing else is
held under it. `Scheme.Untold.after` tells how the one becomes the other.
-/

namespace FleetOperator

variable {σ ω W κ μ : Type}

/-- A name on a resource is not empty. -/
theorem Resource.externalName?_ne_empty {r : Resource σ ω} {name : String}
    (h : r.externalName? = some name) : name ≠ "" := by
  obtain ⟨-, hname⟩ := Option.filter_eq_some_iff.1 h
  simpa using hname

/-! ## Retiring in a situation -/

namespace External

variable (external : External σ ω) (handler : Handler effects W) (s : Situation σ ω W)

/-- The result of a retiring pass. -/
def retirement : Except Error Outcome := ((external.retire s.resource).run handler s.world).1.2

/-- The situation after a retiring pass. -/
def retired : Situation σ ω W :=
  let ((resource, _), world) := (external.retire s.resource).run handler s.world
  { resource, world }

/-- The exchanges of a retiring pass. -/
def retiring : List (Exchange effects) := (external.retire s.resource).exchanges handler s.world

/-- A retiring pass is a look, followed by removing what was seen. -/
theorem run_retire :
    (external.retire s.resource).run handler s.world =
      (external.remove (external.looked handler s).resource (external.seen handler s)).run handler
        (external.looked handler s).world := by
  rw [retire_eq, Program.run_bind]
  rfl

variable {external handler s}

/-- A retiring pass that sees no remote object does nothing else. -/
theorem retire_absent {upToDate : Bool}
    (h : external.seen handler s = .ok { isPresent := false, upToDate }) :
    external.retirement handler s = .ok .noOp ∧
      external.retired handler s =
        { resource := (external.looked handler s).resource.record .deleting
          world := (external.looked handler s).world } := by
  have hremove : ∀ cr : Resource σ ω, external.remove cr (.ok { isPresent := false, upToDate }) =
      (pure (cr.record .deleting, .ok .noOp) : Program effects _) := fun _ ↦ rfl
  rw [retirement, retired, run_retire, h, hremove]
  exact ⟨rfl, rfl⟩

/-- A retiring pass that sees a remote object deletes it, and goes as the deletion goes. -/
theorem retire_present {upToDate : Bool}
    (h : external.seen handler s = .ok (.present upToDate)) :
    let live := (external.looked handler s).resource.record .deleting
    let deletion := (external.delete live).run.run handler (external.looked handler s).world
    external.retirement handler s = deletion.1.map (fun _ ↦ .deleted) ∧
      external.retired handler s = { resource := live, world := deletion.2 } ∧
      ∀ exchange ∈ (external.delete live).run.exchanges handler (external.looked handler s).world,
        exchange ∈ external.retiring handler s := by
  have hremove : ∀ cr : Resource σ ω, external.remove cr (.ok (.present upToDate)) =
      (external.delete (cr.record .deleting)).run >>= fun deleted ↦
        (pure (cr.record .deleting, deleted.map fun _ ↦ .deleted) : Program effects _) := by
    intro cr
    show ((external.delete (cr.record .deleting)).run >>= _) = _
    congr 1
    funext deleted
    cases deleted <;> rfl
  refine ⟨?_, ?_, fun exchange hexchange ↦ ?_⟩
  · rw [retirement, run_retire, h, hremove, Program.run_bind]
    rfl
  · rw [retired, run_retire, h, hremove, Program.run_bind]
    rfl
  · -- A retiring pass is a look, the deletion and nothing more.
    have hexchanges : external.retiring handler s =
        (external.observe s.resource).exchanges handler s.world ++
          (external.remove (external.looked handler s).resource
            (external.seen handler s)).exchanges handler (external.looked handler s).world := by
      rw [retiring, retire_eq, Program.exchanges_bind]
      rfl
    rw [hexchanges, h, hremove, Program.exchanges_bind]
    exact List.mem_append_right _ (List.mem_append_left _ hexchange)

/-- Deletions remove what is held under the name on a resource: a deletion that goes well does, and
one that fails took effect or changed nothing. -/
structure Removes (external : External σ ω) (handler : Handler effects W)
    (holdings : Holdings W κ) : Prop where
  calm_after : ∀ (cr : Resource σ ω) world, holdings.calm world →
    holdings.calm ((external.delete cr).run.run handler world).2
  removes : ∀ (cr : Resource σ ω) world name, holdings.calm world →
    cr.externalName? = some name → ((external.delete cr).run.run handler world).1 = .ok () →
    holdings.held ((external.delete cr).run.run handler world).2 name = none
  removes_or_not : ∀ (cr : Resource σ ω) world name, holdings.calm world →
    cr.externalName? = some name →
    holdings.held ((external.delete cr).run.run handler world).2 name ∈
      [none, holdings.held world name]

end External

/-- A course of passes from a situation: converging and retiring ones in any order, whether they go
well or not, with nothing but rests between them. -/
inductive Course (external : External σ ω) (handler : Handler effects W) (holdings : Holdings W κ)
    (start : Situation σ ω W) : Situation σ ω W → Prop
  | start : Course external handler holdings start start
  | converge {s : Situation σ ω W} (before : Course external handler holdings start s) :
      Course external handler holdings start (external.after handler s)
  | retire {s : Situation σ ω W} (before : Course external handler holdings start s) :
      Course external handler holdings start (external.retired handler s)
  | rest {s t : Situation σ ω W} (before : Course external handler holdings start s)
      (resting : holdings.Rest s t) : Course external handler holdings start t

namespace Scheme

variable {scheme : Scheme σ κ μ} {external : External σ ω} {handler : Handler effects W}
  {holdings : Holdings W κ} {m : μ} {s t : Situation σ ω W}

/-- A situation in which the object that a resource asks for is held, but the resource does not tell
so: it carries no name. -/
structure Untold (scheme : Scheme σ κ μ) (holdings : Holdings W κ) (m : μ)
    (s : Situation σ ω W) : Prop where
  calm : holdings.calm s.world
  name : s.resource.externalName? = none
  held : holdings.held s.world (scheme.name m) = some (scheme.stored m)
  request : scheme.request? s.resource.spec = .ok m

/-- A situation in which a resource carries the name of the object that it asks for, and nothing
else is held under this name. -/
structure Told (scheme : Scheme σ κ μ) (holdings : Holdings W κ) (m : μ)
    (s : Situation σ ω W) : Prop where
  calm : holdings.calm s.world
  name : s.resource.externalName? = some (scheme.name m)
  held : holdings.held s.world (scheme.name m) ∈ [none, some (scheme.stored m)]
  request : scheme.request? s.resource.spec = .ok m

/-- A resource that carries the name of a held object tells so. -/
theorem IsWritten.told {fact : σ → Prop} (h : scheme.IsWritten holdings m fact s) :
    scheme.Told holdings m s where
  calm := h.calm
  name := h.name
  held := by simp [h.held]
  request := h.request

/-- Where a resource tells of its object, the object is gone or it is as it was written. -/
theorem Told.gone_or_written (h : scheme.Told holdings m s) :
    holdings.held s.world (scheme.name m) = none ∨
      scheme.IsWritten holdings m (fun _ ↦ True) s := by
  have hheld := h.held
  simp only [List.mem_cons, List.not_mem_nil, or_false] at hheld
  exact hheld.imp_right fun hstored ↦ ⟨h.calm, h.name, hstored, h.request, trivial⟩

/-- Time in which nothing changes does not tell a resource of its object. -/
theorem Untold.rest (h : scheme.Untold holdings m s) (hrest : holdings.Rest s t) :
    scheme.Untold holdings m t where
  calm := hrest.calm
  name := hrest.externalName.trans h.name
  held := (hrest.held _).trans h.held
  request := by rw [hrest.spec, h.request]

/-- Time in which nothing changes leaves a resource telling of its object. -/
theorem Told.rest (h : scheme.Told holdings m s) (hrest : holdings.Rest s t) :
    scheme.Told holdings m t where
  calm := hrest.calm
  name := hrest.externalName.trans h.name
  held := by rw [hrest.held]; exact h.held
  request := by rw [hrest.spec, h.request]

section

variable (hfollowed : scheme.Followed external handler holdings)
include hfollowed

/-- A look where nothing is held under the name on the resource sees nothing and changes nothing. -/
theorem Followed.look_missing (hcalm : holdings.calm s.world)
    (hmissing : s.resource.externalName?.bind (holdings.held s.world) = none) :
    external.seen handler s = .ok .absent ∧
      (external.looked handler s).resource.spec = s.resource.spec := by
  have hsees := (hfollowed.looks s hcalm).sees
  rw [hmissing] at hsees
  exact hsees

/-- Where nothing is held under the name on the resource, a converging pass applies the request. The
resource carries the name that the request gives, unless that is empty, if the pass goes well, and
is left as it is if it does not. -/
theorem Followed.after_missing (hcalm : holdings.calm s.world)
    (hrequest : scheme.request? s.resource.spec = .ok m)
    (hmissing : s.resource.externalName?.bind (holdings.held s.world) = none) :
    holdings.calm (external.after handler s).world ∧
      scheme.request? (external.after handler s).resource.spec = .ok m ∧
      holdings.held (external.after handler s).world (scheme.name m) ∈
        [some (scheme.stored m), holdings.held s.world (scheme.name m)] ∧
      ((∃ error, external.result handler s = .error error ∧
          (external.after handler s).resource.externalName? = s.resource.externalName?) ∨
        (external.after handler s).resource.externalName? =
          if scheme.name m = "" then none else some (scheme.name m)) := by
  -- The look sees nothing, so the pass is a creation for the specification as it was.
  have hlooks := hfollowed.looks s hcalm
  obtain ⟨hseen, hspec⟩ := hfollowed.look_missing hcalm hmissing
  have hrequestLooked : scheme.request? (external.looked handler s).resource.spec = .ok m := by
    rw [hspec, hrequest]
  obtain ⟨hresult, hafter, -⟩ := External.pass_absent hseen
  obtain ⟨hwrites, hcreated⟩ := hfollowed.creates (external.looked handler s).resource
    (external.looked handler s).world m hlooks.calm hrequestLooked
  have hwritten := hwrites.applied.written
  rw [hlooks.held] at hwritten
  rw [hafter, hresult]
  cases hcreation : ((external.create (external.looked handler s).resource).run.run handler
      (external.looked handler s).world).1 with
  | error error =>
      exact ⟨hwrites.applied.calm, hrequestLooked, hwritten,
        .inl ⟨error, rfl, hlooks.externalName⟩⟩
  | ok created =>
      obtain ⟨rfl, -⟩ := hcreated created hcreation
      refine ⟨hwrites.applied.calm, hrequestLooked, hwritten, .inr ?_⟩
      rw [Resource.externalName?_record, Resource.externalName?_withExternalName]

/-- A converging pass over a resource that does not tell of its object leaves it so if it fails. If
it goes well, the resource carries the name of the object, unless that is empty. -/
theorem Untold.after (h : scheme.Untold holdings m s) :
    (∀ outcome, external.result handler s = .ok outcome →
        (external.after handler s).resource.externalName? =
          if scheme.name m = "" then none else some (scheme.name m)) ∧
      (scheme.Untold holdings m (external.after handler s) ∨
        scheme.Told holdings m (external.after handler s)) := by
  have hmissing : s.resource.externalName?.bind (holdings.held s.world) = none := by
    rw [h.name, Option.bind_none]
  obtain ⟨hcalm, hrequest, hheld, hend⟩ := hfollowed.after_missing h.calm h.request hmissing
  -- The object is held already, so it does not matter whether the application took effect.
  rw [h.held] at hheld
  have hheld : holdings.held (external.after handler s).world (scheme.name m) =
      some (scheme.stored m) := by simpa using hheld
  obtain ⟨error, hresult, hname⟩ | hname := hend
  · refine ⟨fun outcome hok ↦ ?_, .inl ⟨hcalm, hname.trans h.name, hheld, hrequest⟩⟩
    rw [hresult] at hok
    simp at hok
  · refine ⟨fun _ _ ↦ hname, ?_⟩
    split at hname
    · exact .inl ⟨hcalm, hname, hheld, hrequest⟩
    · exact .inr ⟨hcalm, hname, by simp [hheld], hrequest⟩

/-- A retiring pass over a resource that does not tell of its object leaves the object behind. -/
theorem Untold.retired (h : scheme.Untold holdings m s) :
    external.retirement handler s = .ok .noOp ∧
      scheme.Untold holdings m (external.retired handler s) := by
  have hlooks := hfollowed.looks s h.calm
  obtain ⟨hseen, hspec⟩ := hfollowed.look_missing h.calm (by rw [h.name, Option.bind_none])
  obtain ⟨hresult, hafter⟩ := External.retire_absent hseen
  rw [hafter]
  refine ⟨hresult, hlooks.calm, ?_, ?_, ?_⟩
  · rw [Resource.externalName?_record]
    exact hlooks.externalName.trans h.name
  · exact (hlooks.held _).trans h.held
  · show scheme.request? (external.looked handler s).resource.spec = _
    rw [hspec, h.request]

variable (hlawful : scheme.Lawful)
include hlawful

/-- A look at a written object sees it. -/
theorem IsWritten.seen {fact : σ → Prop} (h : scheme.IsWritten holdings m fact s) :
    ∃ upToDate, external.seen handler s = .ok (.present upToDate) := by
  have hsees := (hfollowed.looks s h.calm).sees
  obtain ⟨own, hinit, -⟩ := hlawful.stored _ _ h.request
  rw [h.name, Option.bind_some, h.held] at hsees
  simpa only [Sees, hinit] using hsees.2

/-- A converging pass over a resource that tells of its object leaves it so. -/
theorem Told.after (h : scheme.Told holdings m s) :
    scheme.Told holdings m (external.after handler s) := by
  -- An object that is gone is created again, and one that is held is at most written again.
  rcases h.gone_or_written with hgone | hwritten
  · have hmissing : s.resource.externalName?.bind (holdings.held s.world) = none := by
      rw [h.name, Option.bind_some, hgone]
    obtain ⟨hcalm, hrequest, hheld, hend⟩ := hfollowed.after_missing h.calm h.request hmissing
    rw [hgone] at hheld
    refine ⟨hcalm, ?_, by simpa [or_comm] using hheld, hrequest⟩
    obtain ⟨error, -, hname⟩ | hname := hend
    · exact hname.trans h.name
    · rw [hname, if_neg (Resource.externalName?_ne_empty h.name)]
  · have hlooked := hwritten.looked hfollowed hlawful fun _ _ _ _ _ ↦ trivial
    obtain ⟨upToDate, hseen⟩ := hwritten.seen hfollowed hlawful
    cases upToDate with
    | true =>
        obtain ⟨-, hafter, -⟩ := External.pass_upToDate hseen
        rw [hafter]
        exact hlooked.told
    | false =>
        obtain ⟨-, hafter, -⟩ := External.pass_outdated hseen
        rw [hafter]
        exact (hlooked.updated hfollowed).told

/-- A retiring pass over a resource that tells of its object leaves it so, and removes the object if
it goes well. -/
theorem Told.retired (hremoves : external.Removes handler holdings)
    (h : scheme.Told holdings m s) :
    scheme.Told holdings m (external.retired handler s) ∧
      ∀ outcome, external.retirement handler s = .ok outcome →
        holdings.held (external.retired handler s).world (scheme.name m) = none := by
  rcases h.gone_or_written with hgone | hwritten
  · have hlooks := hfollowed.looks s h.calm
    obtain ⟨hseen, hspec⟩ := hfollowed.look_missing h.calm (by rw [h.name, Option.bind_some, hgone])
    obtain ⟨-, hafter⟩ := External.retire_absent hseen
    have hheld : holdings.held (external.looked handler s).world (scheme.name m) = none :=
      (hlooks.held _).trans hgone
    rw [hafter]
    refine ⟨⟨hlooks.calm, ?_, by simp [hheld], ?_⟩, fun _ _ ↦ hheld⟩
    · rw [Resource.externalName?_record]
      exact hlooks.externalName.trans h.name
    · show scheme.request? (external.looked handler s).resource.spec = _
      rw [hspec, h.request]
  · have hlooked := hwritten.looked hfollowed hlawful fun _ _ _ _ _ ↦ trivial
    obtain ⟨upToDate, hseen⟩ := hwritten.seen hfollowed hlawful
    obtain ⟨hresult, hafter, -⟩ := External.retire_present hseen
    have hname : ((external.looked handler s).resource.record .deleting).externalName? =
        some (scheme.name m) := hlooked.name
    -- A deletion that fails may have taken effect all the same.
    have hheld := hremoves.removes_or_not _ _ _ hlooked.calm hname
    rw [hlooked.held] at hheld
    rw [hafter, hresult]
    refine ⟨⟨hremoves.calm_after _ _ hlooked.calm, hname, hheld, hlooked.request⟩, ?_⟩
    intro outcome hok
    obtain ⟨value, hdeleted, -⟩ := map_eq_ok.1 hok
    exact hremoves.removes _ _ _ hlooked.calm hname hdeleted

/-- In every course of passes the object of a resource is held while the resource does not tell of
it, and nothing else is held under its name when it does. -/
theorem Followed.tracked (hremoves : external.Removes handler holdings)
    {start : Situation σ ω W} (hstart : scheme.Untold holdings m start)
    (hcourse : Course external handler holdings start s) :
    scheme.Untold holdings m s ∨ scheme.Told holdings m s := by
  -- Induction on the course: no pass loses track of the object, and rests change nothing.
  induction hcourse with
  | start => exact .inl hstart
  | converge before ih =>
      exact ih.elim (fun h ↦ (h.after hfollowed).2) fun h ↦ .inr (h.after hfollowed hlawful)
  | retire before ih =>
      exact ih.imp (fun h ↦ (h.retired hfollowed).2)
        fun h ↦ (h.retired hfollowed hlawful hremoves).1
  | rest before resting ih => exact ih.imp (·.rest resting) (·.rest resting)

end

end Scheme

end FleetOperator
