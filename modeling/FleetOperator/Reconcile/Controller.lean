import FleetOperator.Operator.Access
import FleetOperator.Operator.World
import FleetOperator.Reconcile.Drive

/-!
# Controllers

All listed custom resources under reconciliation at once. Every resource is reconciled at the start
and again when the action of its last reconciliation says, always as it was listed. Reconciliations
take turns: one that waits lets the others go on, and what is due first goes first. From a stop time
on no reconciliation begins, and those that have begun are finished.
-/

namespace FleetOperator

/-- Where a program stands when it can go on no further: it is finished, or it waits. -/
inductive Pause (α : Type) where
  | finished (value : α)
  | waiting (delay : Duration) (rest : Program effects α)

/-- A program run until it waits or is finished. -/
def Program.runToPause {α σ : Type} (handler : Handler effects σ) :
    Program effects α → σ → Pause α × σ
  | .done value, world => (.finished value, world)
  | .ask (.sleep delay) next, world => (.waiting delay (next ()), world)
  | .ask question next, world =>
    let (answer, world) := handler question world
    (next answer).runToPause handler world

/-- Where the reconciliation of a resource stands: it is to begin, or to go on, at a time, or it is
not to begin again. -/
inductive Turn where
  | begin (time : Duration)
  | resume (time : Duration) (rest : Program effects Action)
  | never

/-- A resource under control: its reconciliation, and where that stands. -/
structure Task where
  pass : Program effects Action
  turn : Turn

namespace Task

/-- The time at which a task is due, and what is to run then. No reconciliation begins from a stop
time on. -/
def due? (stop : Duration) (task : Task) : Option (Duration × Program effects Action) :=
  match task.turn with
  | .begin time => if time.nanoseconds < stop.nanoseconds then some (time, task.pass) else none
  | .resume time rest => some (time, rest)
  | .never => none

/-- The turn that follows a pause at a time. -/
def turnAfter (time : Duration) : Pause Action → Turn
  | .finished .awaitChange => .never
  | .finished (.requeue delay) => .begin (time.plus delay)
  | .waiting delay rest => .resume (time.plus delay) rest

end Task

/-- Tasks in a world whose clock shows the time of the last turn. -/
structure Schedule where
  tasks : List Task
  world : World

namespace Schedule

/-- The position of the task that is due first, with its time and what is to run. Of tasks that are
due at one time the first one goes first. -/
def first? (stop : Duration) : List Task → Option (Nat × Duration × Program effects Action)
  | [] => none
  | task :: rest =>
    match task.due? stop, first? stop rest with
    | some (time, program), some (i, later, other) =>
      if time.nanoseconds ≤ later.nanoseconds then some (0, time, program)
      else some (i + 1, later, other)
    | some (time, program), none => some (0, time, program)
    | none, some (i, later, other) => some (i + 1, later, other)
    | none, none => none

/-- One turn: the task that is due first runs until it waits or is finished. -/
def next (stop : Duration) (s : Schedule) : Option Schedule :=
  match first? stop s.tasks with
  | none => none
  | some (i, time, program) =>
    let (pause, world) := program.runToPause World.answer { s.world with clock := time }
    some { tasks := s.tasks.modify i fun task ↦ { task with turn := Task.turnAfter time pause }
           world }

/-- A number of turns at most. -/
def run (stop : Duration) : Nat → Schedule → Schedule
  | 0, s => s
  | turns + 1, s =>
    match s.next stop with
    | some following => run stop turns following
    | none => s

end Schedule

/-- The objects under a path. -/
def Kube.Memory.objectsUnder (m : Kube.Memory) (path : String) : List Json :=
  let start := (path ++ "/").toList
  (m.objects.toList.filter fun entry ↦ start.isPrefixOf entry.1.toList).map (·.2)

/-- The resources of a kind that a world lists. Where one of them cannot be read, there are none. -/
def World.listed {σ ω : Type} (w : World) (kind : Kind σ ω) : List (Resource σ ω) :=
  ((w.kube.objectsUnder kind.path).mapM kind.codec.ofJson?).getD []

/-- The task of a resource: its reconciliation and what follows from the result, by requests to
Kubernetes, from the start. -/
def taskOf {σ ω : Type} [DecidableEq σ] [DecidableEq ω] (kind : Kind σ ω)
    (reconcile : Resource σ ω → Attempt Action) (cr : Resource σ ω) : Task where
  pass :=
    Program.interpret accessKubernetes do
      settle kind (← (reconcile cr).run)
  turn := .begin ⟨0⟩

/-- The way in which the operator works with some settings. -/
def Settings.practice (settings : Settings) : Practice where
  requeue := settings.pollInterval
  poll := settings.poll

/-- The tasks of the resources that a world lists. -/
def World.tasks (w : World) (practice : Practice) : List Task :=
  (w.listed Kind.cluster).map (taskOf Kind.cluster (reconcileCluster practice)) ++
  (w.listed Kind.inst).map (taskOf Kind.inst (reconcileInstance practice))

/-- A bound on the number of turns. It is not reached where a second or more lies between two
reconciliations of a resource: none of them takes more turns than there are attempts, and one. -/
def enoughTurns (practice : Practice) (stop : Duration) (tasks : List Task) : Nat :=
  tasks.length * (stop.seconds + 2) * (practice.poll.attempts + 2)

/-- A world after the operator has worked in it with some settings until it was told to stop. The
clock shows when the last reconciliation was finished, or the stop time when that is later. -/
def World.operate (settings : Settings) (stop : Duration) (w : World) : World :=
  let practice := settings.practice
  let tasks := w.tasks practice
  let after := (Schedule.run stop (enoughTurns practice stop tasks) { tasks, world := w }).world
  { after with clock := ⟨max after.clock.nanoseconds stop.nanoseconds⟩ }

end FleetOperator
