/-!
# Programs

A program is a computation that asks questions of the world around it and goes on with the answers.
The world is not part of the program: it is a handler that answers each question and keeps a state
of its own, so that one program can be run against any behaviour of the world.
-/

namespace FleetOperator

/-- What may be asked, and what is answered to each question. -/
structure Interface where
  Call : Type
  Answer : Call → Type

/-- A computation of a value: it is done, or it asks a question and goes on with the answer. -/
inductive Program (I : Interface) (α : Type) where
  | done (value : α)
  | ask (call : I.Call) (next : I.Answer call → Program I α)

/-- A behaviour of the world with a state: it answers a question and moves on. -/
abbrev Handler (I : Interface) (σ : Type) := (call : I.Call) → σ → I.Answer call × σ

namespace Program

variable {I J : Interface} {α β σ : Type}

/-- A program followed by another one that depends on its value. -/
def bind : Program I α → (α → Program I β) → Program I β
  | done value, f => f value
  | ask call next, f => ask call fun answer ↦ (next answer).bind f

instance : Monad (Program I) where
  pure := done
  bind := bind

/-- The program that asks one question. -/
def call (question : I.Call) : Program I (I.Answer question) := ask question done

/-- The value of a program against a behaviour of the world, and the state of the world after it. -/
def run (handler : Handler I σ) : Program I α → σ → α × σ
  | done value, world => (value, world)
  | ask question next, world =>
    let (answer, world) := handler question world
    (next answer).run handler world

/-- A program with every question replaced by a program that finds its answer. -/
def interpret (answer : (question : I.Call) → Program J (I.Answer question)) :
    Program I α → Program J α
  | done value => done value
  | ask question next => (answer question).bind fun found ↦ (next found).interpret answer

end Program

end FleetOperator
