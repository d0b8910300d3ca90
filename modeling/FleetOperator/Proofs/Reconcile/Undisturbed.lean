import FleetOperator.Proofs.Platform.Holdings
import FleetOperator.Reconcile.Pass

/-!
# Undisturbed runs

Converging passes one after the other, with nothing but time between them. Read
`Undisturbed.invariant` first: what a pass and a rest preserve holds in every situation of a run, and
confines every effect of the run.
-/

namespace FleetOperator

variable {σ ω W κ : Type}

namespace Resource

/-- A resource carries the name that was put on it, unless that is empty. -/
theorem externalName?_withExternalName (r : Resource σ ω) (name : String) :
    (r.withExternalName name).externalName? = if name = "" then none else some name := by
  simp only [externalName?, withExternalName, Metadata.annotation?, Metadata.annotate,
    Option.bind_some, Dict.get?_insert_self, Option.filter]
  by_cases h : name = ""
  · simp [h]
  · simp [h]

@[simp] theorem externalName?_record (r : Resource σ ω) (condition : Condition) :
    (r.record condition).externalName? = r.externalName? := rfl

end Resource

/-- A custom resource together with the world around it. -/
structure Situation (σ ω W : Type) where
  resource : Resource σ ω
  world : W

namespace External

/-- What a converging pass does once it has seen the remote object. -/
def act (external : External σ ω) (cr : Resource σ ω) :
    Except Error Observation → Program effects (Resource σ ω × Except Error Outcome)
  | .error error => return (cr, .error error)
  | .ok observation => do
    if !observation.isPresent then
      match ← (external.create cr).run with
      | .ok created => return (created.record .creating, .ok .created)
      | .error error => return (cr, .error error)
    else if !observation.upToDate then
      match ← (external.update cr).run with
      | .ok () => return (cr, .ok .updated)
      | .error error => return (cr, .error error)
    else return (cr, .ok .noOp)

/-- A converging pass looks at the remote object and acts on what it has seen. -/
theorem converge_eq (external : External σ ω) (cr : Resource σ ω) :
    external.converge cr = (do
      let seen ← external.observe cr
      external.act seen.1 seen.2) := rfl

variable (external : External σ ω) (handler : Handler effects W) (s : Situation σ ω W)

/-- What a look at the remote object gives in a situation. -/
def seen : Except Error Observation := ((external.observe s.resource).run handler s.world).1.2

/-- The situation after a look at the remote object. -/
def looked : Situation σ ω W :=
  let ((resource, _), world) := (external.observe s.resource).run handler s.world
  { resource, world }

/-- The result of a converging pass. -/
def result : Except Error Outcome := ((external.converge s.resource).run handler s.world).1.2

/-- The situation after a converging pass. -/
def after : Situation σ ω W :=
  let ((resource, _), world) := (external.converge s.resource).run handler s.world
  { resource, world }

/-- The effects of a converging pass. -/
def calls : List Effect := (external.converge s.resource).calls handler s.world

/-- What a look at the remote object asks. -/
def looks : List Effect := (external.observe s.resource).calls handler s.world

/-- A pass is a look, followed by acting on what was seen. -/
theorem run_converge :
    (external.converge s.resource).run handler s.world =
      (external.act (external.looked handler s).resource (external.seen handler s)).run handler
        (external.looked handler s).world := by
  rw [converge_eq, Program.run_bind]
  rfl

/-- The effects of a pass are those of the look and those of acting on what was seen. -/
theorem calls_eq :
    external.calls handler s = external.looks handler s ++
      (external.act (external.looked handler s).resource (external.seen handler s)).calls handler
        (external.looked handler s).world := by
  rw [calls, converge_eq, Program.calls_bind]
  rfl

variable {external handler s}

/-- A pass that sees the remote object up to date does nothing else. -/
theorem pass_upToDate (h : external.seen handler s = .ok (.present true)) :
    external.result handler s = .ok .noOp ∧
      external.after handler s = external.looked handler s ∧
      external.calls handler s = external.looks handler s := by
  have hact : ∀ cr : Resource σ ω, external.act cr (.ok (.present true)) =
      (pure (cr, .ok .noOp) : Program effects _) := fun _ ↦ rfl
  rw [result, after, calls_eq, run_converge, h, hact]
  exact ⟨rfl, rfl, List.append_nil _⟩

/-- A pass that cannot tell what is there does nothing else. -/
theorem pass_failed {error : Error} (h : external.seen handler s = .error error) :
    external.after handler s = external.looked handler s ∧
      external.calls handler s = external.looks handler s := by
  have hact : ∀ cr : Resource σ ω, external.act cr (.error error) =
      (pure (cr, .error error) : Program effects _) := fun _ ↦ rfl
  rw [after, calls_eq, run_converge, h, hact]
  exact ⟨rfl, List.append_nil _⟩

/-- A pass that sees a difference updates the remote object, and leaves the resource as it is. -/
theorem pass_outdated (h : external.seen handler s = .ok (.present false)) :
    external.result handler s =
        ((external.update (external.looked handler s).resource).run.run handler
          (external.looked handler s).world).1.map (fun _ ↦ .updated) ∧
      external.after handler s =
        { resource := (external.looked handler s).resource
          world := ((external.update (external.looked handler s).resource).run.run handler
            (external.looked handler s).world).2 } ∧
      external.calls handler s = external.looks handler s ++
        (external.update (external.looked handler s).resource).run.calls handler
          (external.looked handler s).world := by
  have hact : ∀ cr : Resource σ ω, external.act cr (.ok (.present false)) =
      (external.update cr).run >>= fun updated ↦
        (pure (cr, updated.map fun _ ↦ .updated) : Program effects _) := by
    intro cr
    show ((external.update cr).run >>= _) = _
    congr 1
    funext updated
    cases updated <;> rfl
  rw [result, after, calls_eq, run_converge, h, hact, Program.run_bind, Program.calls_bind]
  exact ⟨rfl, rfl, congrArg _ (List.append_nil _)⟩

/-- A pass that sees no remote object creates it. A creation that fails leaves the resource as it
is. -/
theorem pass_absent {upToDate : Bool}
    (h : external.seen handler s = .ok { isPresent := false, upToDate }) :
    external.result handler s =
        ((external.create (external.looked handler s).resource).run.run handler
          (external.looked handler s).world).1.map (fun _ ↦ .created) ∧
      external.after handler s =
        { resource :=
            match ((external.create (external.looked handler s).resource).run.run handler
              (external.looked handler s).world).1 with
            | .ok created => created.record .creating
            | .error _ => (external.looked handler s).resource
          world := ((external.create (external.looked handler s).resource).run.run handler
            (external.looked handler s).world).2 } ∧
      external.calls handler s = external.looks handler s ++
        (external.create (external.looked handler s).resource).run.calls handler
          (external.looked handler s).world := by
  have hact : ∀ cr : Resource σ ω, external.act cr (.ok { isPresent := false, upToDate }) =
      (external.create cr).run >>= fun created ↦
        (pure (match created with
          | .ok created => (created.record .creating, .ok .created)
          | .error error => (cr, .error error)) : Program effects _) := by
    intro cr
    show ((external.create cr).run >>= _) = _
    congr 1
    funext created
    cases created <;> rfl
  rw [result, after, calls_eq, run_converge, h, hact, Program.run_bind, Program.calls_bind]
  refine ⟨?_, ?_, congrArg _ (List.append_nil _)⟩ <;>
    cases ((external.create (external.looked handler s).resource).run.run handler
      (external.looked handler s).world).1 <;> rfl

end External

/-- Time in which nobody changes what a resource asks for or what the platform holds. The status of
the resource, and what else is in the world, may change. -/
structure Holdings.Rest (holdings : Holdings W κ) (s t : Situation σ ω W) : Prop where
  spec : t.resource.spec = s.resource.spec
  externalName : t.resource.externalName? = s.resource.externalName?
  calm : holdings.calm t.world
  held : ∀ name, holdings.held t.world name = holdings.held s.world name

/-- A run of converging passes from a situation with nothing but rests between them, with the
effects of the passes in their order. -/
inductive Undisturbed (external : External σ ω) (handler : Handler effects W)
    (holdings : Holdings W κ) (start : Situation σ ω W) : List Effect → Situation σ ω W → Prop
  | start : Undisturbed external handler holdings start [] start
  | pass {trace : List Effect} {s : Situation σ ω W}
      (before : Undisturbed external handler holdings start trace s) :
      Undisturbed external handler holdings start (trace ++ external.calls handler s)
        (external.after handler s)
  | rest {trace : List Effect} {s t : Situation σ ω W}
      (before : Undisturbed external handler holdings start trace s)
      (resting : holdings.Rest s t) :
      Undisturbed external handler holdings start trace t

variable {external : External σ ω} {handler : Handler effects W} {holdings : Holdings W κ}

/-- What a pass and a rest preserve holds at the end of a run, and what it says of the effects of a
pass holds of all effects of the run. -/
theorem Undisturbed.invariant (invariant : Situation σ ω W → Prop) (allowed : Effect → Prop)
    (hpass : ∀ s, invariant s → invariant (external.after handler s))
    (hrest : ∀ s t, invariant s → holdings.Rest s t → invariant t)
    (hcalls : ∀ s, invariant s → ∀ effect ∈ external.calls handler s, allowed effect)
    {start s : Situation σ ω W} {trace : List Effect} (hstart : invariant start)
    (hrun : Undisturbed external handler holdings start trace s) :
    invariant s ∧ ∀ effect ∈ trace, allowed effect := by
  -- Induction on the run: the effects of a pass are confined by the invariant before it.
  induction hrun with
  | start => exact ⟨hstart, by simp⟩
  | pass before ih =>
      obtain ⟨hs, htrace⟩ := ih
      refine ⟨hpass _ hs, ?_⟩
      intro effect heffect
      rcases List.mem_append.1 heffect with heffect | heffect
      · exact htrace effect heffect
      · exact hcalls _ hs effect heffect
  | rest before resting ih => exact ⟨hrest _ _ ih.1 resting, ih.2⟩

/-- A write of the remote object of a name that went well: a creation, or an update of a resource
that already carries the name. -/
inductive External.Wrote (external : External σ ω) (handler : Handler effects W) (name : String) :
    Situation σ ω W → Situation σ ω W → Prop
  | created {before : Situation σ ω W} {created : Resource σ ω} {world : W}
      (h : (external.create before.resource).run.run handler before.world = (.ok created, world)) :
      Wrote external handler name before { resource := created, world }
  | updated {before : Situation σ ω W} {world : W}
      (hname : before.resource.externalName? = some name)
      (h : (external.update before.resource).run.run handler before.world = (.ok (), world)) :
      Wrote external handler name before { resource := before.resource, world }

end FleetOperator
