import FleetOperator.Number.Digits
import FleetOperator.Text.Quoted

/-!
# Events and counters

What the operator tells the outside about its passes: events that belong to a resource, and counters
of passes and of written documents.
-/

namespace FleetOperator

/-- What a pass did to the remote object. -/
inductive Outcome where
  | noOp
  | created
  | updated
  | deleted
deriving DecidableEq, Repr

namespace Outcome

/-- The name of an outcome. -/
def text : Outcome → String
  | noOp => "noop"
  | created => "created"
  | updated => "updated"
  | deleted => "deleted"

/-- The reason of the event of an outcome. What changed nothing is no event. -/
def reason? : Outcome → Option String
  | noOp => none
  | created => some "Created"
  | updated => some "Updated"
  | deleted => some "Deleted"

end Outcome

/-- An event that belongs to a resource, given by its kind and name. -/
structure Event where
  isWarning : Bool
  reason : String
  note : String
  kind : String
  name : String
deriving DecidableEq, Repr

/-- The type of an event. -/
def Event.type (e : Event) : String := if e.isWarning then "Warning" else "Normal"

/-- Whether an event repeats another one: all but the notes are the same. -/
def Event.repeats (e other : Event) : Bool :=
  e.isWarning == other.isWarning && e.reason == other.reason && e.kind == other.kind &&
    e.name == other.name

/-- A counter: of passes by kind and outcome, or of written documents by action. -/
inductive Counter where
  | reconciliations (kind outcome : String)
  | documents (action : String)
deriving DecidableEq, Repr

namespace Counter

/-- The counter of documents that were applied or deleted. -/
def documentsOf (removing : Bool) : Counter := documents (if removing then "delete" else "apply")

/-- The name of a counter with its labels. -/
def text : Counter → String
  | reconciliations kind outcome =>
    "akuity_operator_reconciliations_total\x7bkind=" ++ Text.quoted kind ++ ",outcome=" ++
      Text.quoted outcome ++ "\x7d"
  | documents action =>
    "akuity_operator_manifest_documents_total\x7baction=" ++ Text.quoted action ++ "\x7d"

end Counter

/-- Counters with their values, in the order in which they were first used. -/
abbrev Counters := List (Counter × Nat)

/-- Counters with an amount added to one of them. -/
def Counters.add (counter : Counter) (amount : Nat) : Counters → Counters
  | [] => [(counter, amount)]
  | (c, n) :: rest =>
    if c = counter then (c, n + amount) :: rest else (c, n) :: add counter amount rest

end FleetOperator
