import FleetOperator.Proofs.Program

/-!
# Runs in any world

What a program may ask and be answered when nothing is known of the world. Read `Program.Runs` and
`Program.runs_bind_iff` first: a run is a list of questions with their answers, and a run of a
program followed by another one is a run of the first and then one of the second.
`Program.runs_exchanges` ties the two views of running together: what a world answers is a run.
-/

namespace FleetOperator

/-- A question with the answer that was given to it. -/
structure Exchange (I : Interface) where
  call : I.Call
  answer : I.Answer call

namespace Program

variable {I : Interface} {α β σ : Type}

/-- The runs of a program, whatever the world is: the questions with the answers that were given to
them, in their order, and the value in the end. -/
inductive Runs : Program I α → List (Exchange I) → α → Prop
  | done (value : α) : Runs (.done value) [] value
  | ask {question : I.Call} {next : I.Answer question → Program I α} (answer : I.Answer question)
      {exchanges : List (Exchange I)} {value : α} (rest : Runs (next answer) exchanges value) :
      Runs (.ask question next) (⟨question, answer⟩ :: exchanges) value

/-- The questions that a program asks when it is run, with their answers. -/
def exchanges (handler : Handler I σ) : Program I α → σ → List (Exchange I)
  | done _, _ => []
  | ask question next, world =>
    ⟨question, (handler question world).1⟩ ::
      (next (handler question world).1).exchanges handler (handler question world).2

variable {program : Program I α} {f : α → Program I β} {exchanged : List (Exchange I)}

/-- What a world answers to a program is a run of it. -/
theorem runs_exchanges (handler : Handler I σ) (program : Program I α) (world : σ) :
    program.Runs (program.exchanges handler world) (program.run handler world).1 := by
  induction program generalizing world with
  | done value => exact .done value
  | ask question next ih => exact .ask _ (ih _ _)

/-- A program followed by another one has the exchanges of the two. -/
theorem exchanges_bind (handler : Handler I σ) (program : Program I α) (f : α → Program I β)
    (world : σ) : (program >>= f).exchanges handler world =
      program.exchanges handler world ++
        (f (program.run handler world).1).exchanges handler (program.run handler world).2 := by
  induction program generalizing world with
  | done value => rfl
  | ask question next ih => exact congrArg (_ :: ·) (ih _ _)

/-- The last exchange of a run with a world was had with a world that the run led to, and led to the
world in the end. -/
theorem run_of_exchanges_concat {handler : Handler I σ} (invariant : σ → Prop)
    (hstep : ∀ question world, invariant world → invariant (handler question world).2)
    {program : Program I α} {world : σ} (hworld : invariant world)
    {before : List (Exchange I)} {question : I.Call} {answer : I.Answer question}
    (h : program.exchanges handler world = before ++ [⟨question, answer⟩]) :
    ∃ reached, invariant reached ∧
      handler question reached = (answer, (program.run handler world).2) := by
  induction program generalizing world before with
  | done value => simp [exchanges] at h
  | ask first next ih =>
      cases before with
      | nil =>
          obtain ⟨hfirst, hrest⟩ := List.cons.inj h
          cases hfirst
          refine ⟨world, hworld, Prod.ext rfl ?_⟩
          -- Nothing is asked after the first question, so the run ends there.
          cases hnext : next (handler question world).1 with
          | done value => simp only [run, hnext]
          | ask other after => simp [hnext, exchanges] at hrest
      | cons exchange before =>
          exact ih _ (hstep first world hworld) (List.cons.inj h).2

@[simp] theorem runs_pure_iff {value found : α} :
    (pure value : Program I α).Runs exchanged found ↔ exchanged = [] ∧ found = value := by
  constructor
  · intro h
    cases h
    exact ⟨rfl, rfl⟩
  · rintro ⟨rfl, rfl⟩
    exact .done _

/-- A program that asks a question is given an answer and goes on with it. -/
theorem runs_ask_iff {question : I.Call} {next : I.Answer question → Program I α} {value : α} :
    (ask question next).Runs exchanged value ↔
      ∃ answer rest, exchanged = ⟨question, answer⟩ :: rest ∧ (next answer).Runs rest value := by
  constructor
  · intro h
    cases h with
    | ask answer rest => exact ⟨answer, _, rfl, rest⟩
  · rintro ⟨answer, rest, rfl, h⟩
    exact .ask answer h

/-- A program followed by another one runs as the one and then as the other. -/
theorem runs_bind_iff {value : β} : (program >>= f).Runs exchanged value ↔
    ∃ first found second, program.Runs first found ∧ (f found).Runs second value ∧
      exchanged = first ++ second := by
  constructor
  · intro h
    induction program generalizing exchanged with
    | done found => exact ⟨[], found, exchanged, .done found, h, rfl⟩
    | ask question next ih =>
        obtain ⟨answer, rest, rfl, hrest⟩ := runs_ask_iff.1 h
        obtain ⟨first, found, second, hfirst, hsecond, rfl⟩ := ih answer hrest
        exact ⟨_, found, second, .ask answer hfirst, hsecond, rfl⟩
  · rintro ⟨first, found, second, hfirst, hsecond, rfl⟩
    induction hfirst with
    | done found => exact hsecond
    | ask answer rest ih => exact .ask answer (ih hsecond)

/-- The questions of a run are of the kind that the program asks. -/
theorem Asks.runs {kind : I.Call → Prop} {value : α} (h : program.Asks kind)
    (hruns : program.Runs exchanged value) : ∀ exchange ∈ exchanged, kind exchange.call := by
  induction hruns with
  | done value => simp
  | ask answer rest ih =>
      intro exchange hexchange
      rcases List.mem_cons.1 hexchange with rfl | hexchange
      · exact h.1
      · exact ih (h.2 answer) exchange hexchange

/-- Whether exchanges were answered like earlier ones wherever the same was asked. -/
def AnsweredAlike (exchanged earlier : List (Exchange I)) : Prop :=
  ∀ exchange ∈ exchanged, ∀ other ∈ earlier, exchange.call = other.call → exchange = other

/-- Two runs of a program that are answered alike are the same. -/
theorem Runs.unique {value found : α} {earlier : List (Exchange I)}
    (h : program.Runs earlier found) (hruns : program.Runs exchanged value)
    (halike : AnsweredAlike exchanged earlier) : exchanged = earlier ∧ value = found := by
  induction h generalizing exchanged with
  | done found => exact runs_pure_iff.1 hruns
  | ask answer hrest ih =>
      obtain ⟨given, rest, rfl, hnext⟩ := runs_ask_iff.1 hruns
      have hsame := halike _ List.mem_cons_self _ List.mem_cons_self rfl
      obtain rfl : given = answer := by
        cases hsame
        rfl
      obtain ⟨rfl, rfl⟩ := ih hnext fun exchange hmem other hother ↦
        halike exchange (List.mem_cons_of_mem _ hmem) other (List.mem_cons_of_mem _ hother)
      exact ⟨rfl, rfl⟩

/-- What a program asks may be said more loosely. -/
theorem Asks.mono {kind other : I.Call → Prop} (h : program.Asks kind)
    (hkind : ∀ question, kind question → other question) : program.Asks other := by
  induction program with
  | done value => trivial
  | ask question next ih => exact ⟨hkind question h.1, fun answer ↦ ih answer (h.2 answer)⟩

end Program

namespace Attempt

open Program

variable {α β : Type} {exchanged : List (Exchange effects)}

/-- A step that is known runs without a question. -/
@[simp] theorem runs_pure_iff {value : α} {result : Except Error α} :
    Runs (I := effects) (pure value : Attempt α).run exchanged result ↔
      exchanged = [] ∧ result = .ok value :=
  Program.runs_pure_iff

/-- A step whose result is known runs without a question. -/
@[simp] theorem runs_ofExcept_iff {known result : Except Error α} :
    Runs (I := effects) (ofExcept known).run exchanged result ↔
      exchanged = [] ∧ result = known :=
  Program.runs_pure_iff

/-- A step goes on with a result that is known. -/
theorem ofExcept_ok_bind (value : α) (f : α → Attempt β) : ofExcept (.ok value) >>= f = f value :=
  rfl

/-- A call to the platform is one question. -/
theorem runs_platform_iff {request : Platform.Request} {result : Except Error request.Value} :
    Runs (I := effects) (platform request).run exchanged result ↔
      ∃ answer : Except RemoteError request.Value,
        exchanged = [⟨.platform request, answer⟩] ∧ result = answer.mapError Error.ofRemote := by
  have heq : (platform request).run = Program.ask (I := effects) (Effect.platform request)
      fun answer : Except RemoteError request.Value ↦ .done (answer.mapError Error.ofRemote) := rfl
  rw [heq, runs_ask_iff]
  constructor
  · rintro ⟨answer, rest, rfl, hrest⟩
    cases hrest
    exact ⟨answer, rfl, rfl⟩
  · rintro ⟨answer, rfl, rfl⟩
    exact ⟨answer, [], rfl, .done _⟩

/-- A step followed by another one fails with the first, or goes on with its value. -/
theorem runs_bind_iff {step : Attempt α} {f : α → Attempt β} {result : Except Error β} :
    Runs (I := effects) (step >>= f).run exchanged result ↔
      (∃ error, Runs (I := effects) step.run exchanged (.error error) ∧ result = .error error) ∨
        ∃ first value second, Runs (I := effects) step.run first (.ok value) ∧
          Runs (I := effects) (f value).run second result ∧ exchanged = first ++ second := by
  have hbind : (step >>= f).run = step.run >>= ExceptT.bindCont f := rfl
  rw [hbind, Program.runs_bind_iff]
  constructor
  · rintro ⟨first, error | value, second, hfirst, hsecond, rfl⟩
    · obtain ⟨rfl, rfl⟩ := Program.runs_pure_iff.1 hsecond
      exact .inl ⟨error, by simpa using hfirst, rfl⟩
    · exact .inr ⟨first, value, second, hfirst, hsecond, rfl⟩
  · rintro (⟨error, hstep, rfl⟩ | ⟨first, value, second, hfirst, hsecond, rfl⟩)
    · exact ⟨exchanged, .error error, [], hstep, .done _, by simp⟩
    · exact ⟨first, .ok value, second, hfirst, hsecond, rfl⟩

/-- What holds of all exchanges of the runs of two steps holds of all exchanges of the runs of their
sequence. -/
theorem runs_bind_all {step : Attempt α} {f : α → Attempt β} {p : Exchange effects → Prop}
    (hstep : ∀ {first found}, Runs (I := effects) step.run first found → ∀ e ∈ first, p e)
    (hnext : ∀ {value second last}, Runs (I := effects) (f value).run second last →
      ∀ e ∈ second, p e)
    {result : Except Error β} (h : Runs (I := effects) (step >>= f).run exchanged result) :
    ∀ e ∈ exchanged, p e := by
  rcases runs_bind_iff.1 h with ⟨error, hfailed, -⟩ | ⟨first, value, second, hfirst, hsecond, rfl⟩
  · exact hstep hfailed
  · intro e he
    exact (List.mem_append.1 he).elim (hstep hfirst e) (hnext hsecond e)

/-- A sequence of two steps that goes well is a run of both. -/
theorem runs_bind_ok {step : Attempt α} {f : α → Attempt β} {value : β}
    (h : Runs (I := effects) (step >>= f).run exchanged (.ok value)) :
    ∃ first found second, Runs (I := effects) step.run first (.ok found) ∧
      Runs (I := effects) (f found).run second (.ok value) ∧ exchanged = first ++ second := by
  rcases runs_bind_iff.1 h with ⟨error, -, herror⟩ | hboth
  · simp at herror
  · exact hboth

end Attempt

end FleetOperator
