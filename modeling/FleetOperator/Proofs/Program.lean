import FleetOperator.Operator.Effect
import FleetOperator.Proofs.Except

/-!
# Running programs

What a program asks and answers when it is run. Read `run_bind` and `calls_bind` first: a program
followed by another one is run by running the two in turn, and asks what the two ask. `Asks`
confines the questions of a program whatever the answers are, and `run_invariant` carries what
those questions preserve over a whole run.
-/

namespace FleetOperator.Program

variable {I : Interface} {α β σ : Type} {handler : Handler I σ}

/-- The questions that a program asks when it is run, in their order. -/
def calls (handler : Handler I σ) : Program I α → σ → List I.Call
  | done _, _ => []
  | ask question next, world =>
    question :: (next (handler question world).1).calls handler (handler question world).2

/-- Whether every question of a program is of a kind, whatever the answers are. -/
def Asks (kind : I.Call → Prop) : Program I α → Prop
  | done _ => True
  | ask question next => kind question ∧ ∀ answer, (next answer).Asks kind

@[simp] theorem run_pure (value : α) (world : σ) :
    (pure value : Program I α).run handler world = (value, world) := rfl

@[simp] theorem calls_pure (value : α) (world : σ) :
    (pure value : Program I α).calls handler world = [] := rfl

/-- A program followed by another one is run by running the two in turn. -/
theorem run_bind (program : Program I α) (f : α → Program I β) (world : σ) :
    (program >>= f).run handler world =
      (f (program.run handler world).1).run handler (program.run handler world).2 := by
  induction program generalizing world with
  | done value => rfl
  | ask question next ih => exact ih (handler question world).1 (handler question world).2

/-- A program followed by another one asks what the two ask. -/
theorem calls_bind (program : Program I α) (f : α → Program I β) (world : σ) :
    (program >>= f).calls handler world =
      program.calls handler world ++
        (f (program.run handler world).1).calls handler (program.run handler world).2 := by
  induction program generalizing world with
  | done value => rfl
  | ask question next ih =>
      exact congrArg (question :: ·) (ih (handler question world).1 (handler question world).2)

/-- Every program asks questions of some kind. -/
theorem asks_true (program : Program I α) : program.Asks fun _ ↦ True := by
  induction program with
  | done value => trivial
  | ask question next ih => exact ⟨trivial, ih⟩

section

variable {kind : I.Call → Prop}

/-- A program followed by others asks questions of a kind if all of them do. -/
theorem Asks.bind {program : Program I α} {f : α → Program I β} (h : program.Asks kind)
    (hnext : ∀ value, (f value).Asks kind) : (program >>= f).Asks kind := by
  induction program with
  | done value => exact hnext value
  | ask question next ih => exact ⟨h.1, fun answer ↦ ih answer (h.2 answer)⟩

/-- The questions that are asked in a run are of the kind that the program asks. -/
theorem Asks.calls {program : Program I α} (h : program.Asks kind) (world : σ) :
    ∀ call ∈ program.calls handler world, kind call := by
  induction program generalizing world with
  | done value => simp [Program.calls]
  | ask question next ih =>
      intro call hcall
      rcases List.mem_cons.1 hcall with rfl | hcall
      · exact h.1
      · exact ih _ (h.2 _) _ call hcall

/-- What every question of a kind preserves is preserved by a run. -/
theorem run_invariant (invariant : σ → Prop)
    (hstep : ∀ question world, kind question → invariant world →
      invariant (handler question world).2)
    {program : Program I α} (hasks : program.Asks kind) {world : σ} (h : invariant world) :
    invariant (program.run handler world).2 := by
  induction program generalizing world with
  | done value => exact h
  | ask question next ih => exact ih _ (hasks.2 _) (hstep question world hasks.1 h)

end

end FleetOperator.Program

namespace FleetOperator.Attempt

open Program

variable {α β W : Type} {handler : Handler effects W}

@[simp] theorem run_pure (value : α) (world : W) :
    Program.run handler (pure value : Attempt α).run world = (.ok value, world) := rfl

@[simp] theorem calls_pure (value : α) (world : W) :
    Program.calls handler (pure value : Attempt α).run world = [] := rfl

@[simp] theorem run_ofExcept (result : Except Error α) (world : W) :
    Program.run handler (ofExcept result).run world = (result, world) := rfl

@[simp] theorem calls_ofExcept (result : Except Error α) (world : W) :
    Program.calls handler (ofExcept result).run world = [] := rfl

@[simp] theorem run_platform (request : Platform.Request) (world : W) :
    Program.run handler (platform request).run world =
      ((handler (.platform request) world).1.mapError Error.ofRemote,
        (handler (.platform request) world).2) := rfl

/-- A step after which the next one goes on with its value is run by running the two in turn. -/
theorem run_bind_ok {step : Attempt α} {f : α → Attempt β} {world : W} {value : α}
    (h : (Program.run handler step.run world).1 = .ok value) :
    Program.run handler (step >>= f).run world =
      Program.run handler (f value).run (Program.run handler step.run world).2 := by
  have hbind : (step >>= f).run = step.run >>= ExceptT.bindCont f := rfl
  rw [hbind, Program.run_bind, h]
  rfl

/-- A step that fails ends the run. -/
theorem run_bind_error {step : Attempt α} {f : α → Attempt β} {world : W} {error : Error}
    (h : (Program.run handler step.run world).1 = .error error) :
    Program.run handler (step >>= f).run world =
      (.error error, (Program.run handler step.run world).2) := by
  have hbind : (step >>= f).run = step.run >>= ExceptT.bindCont f := rfl
  rw [hbind, Program.run_bind, h]
  rfl

/-- A step and the next one ask what the two ask. -/
theorem calls_bind_ok {step : Attempt α} {f : α → Attempt β} {world : W} {value : α}
    (h : (Program.run handler step.run world).1 = .ok value) :
    Program.calls handler (step >>= f).run world =
      Program.calls handler step.run world ++
        Program.calls handler (f value).run (Program.run handler step.run world).2 := by
  have hbind : (step >>= f).run = step.run >>= ExceptT.bindCont f := rfl
  rw [hbind, Program.calls_bind, h]
  rfl

/-- Nothing is asked after a step that fails. -/
theorem calls_bind_error {step : Attempt α} {f : α → Attempt β} {world : W} {error : Error}
    (h : (Program.run handler step.run world).1 = .error error) :
    Program.calls handler (step >>= f).run world = Program.calls handler step.run world := by
  have hbind : (step >>= f).run = step.run >>= ExceptT.bindCont f := rfl
  rw [hbind, Program.calls_bind, h]
  exact List.append_nil _

/-- A step asks questions of a kind if it and all that may follow do. -/
theorem asks_bind {kind : Effect → Prop} {step : Attempt α} {f : α → Attempt β}
    (h : Asks (I := effects) kind step.run)
    (hnext : ∀ value, Asks (I := effects) kind (f value).run) :
    Asks (I := effects) kind (step >>= f).run := by
  refine Asks.bind h ?_
  rintro (error | value)
  · trivial
  · exact hnext value

end FleetOperator.Attempt
