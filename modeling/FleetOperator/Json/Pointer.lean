import FleetOperator.Json.Value

/-!
# Pointers

A pointer is a text that addresses a value inside a JSON value: the empty text addresses the whole,
and every slash begins a step to a field of an object or to an item of an array. In a step, a slash
is written `~1` and a tilde `~0`.
-/

namespace FleetOperator.Json

/-- The step that its written form stands for. -/
def readStep : List Char → List Char
  | '~' :: '1' :: rest => '/' :: readStep rest
  | '~' :: '0' :: rest => '~' :: readStep rest
  | c :: rest => c :: readStep rest
  | [] => []

/-- The written steps of a pointer after its first slash. -/
def splitSteps : List Char → List (List Char)
  | [] => [[]]
  | '/' :: rest => [] :: splitSteps rest
  | c :: rest =>
    match splitSteps rest with
    | [] => [[c]]
    | step :: steps => (c :: step) :: steps

/-- The steps of a pointer. Any text but the empty one must begin with a slash. -/
def pointerSteps? : List Char → Option (List String)
  | [] => some []
  | '/' :: rest => some ((splitSteps rest).map fun step ↦ String.ofList (readStep step))
  | _ => none

/-- The position that decimal digits without a leading zero write. -/
def readPosition? (digits : List Char) : Option Nat :=
  match digits with
  | [] => none
  | ['0'] => some 0
  | '0' :: _ => none
  | _ =>
    if digits.all Char.isDigit then
      some (digits.foldl (fun n c ↦ n * 10 + (c.toNat - '0'.toNat)) 0)
    else none

/-- The value to which a step leads. -/
def step? (value : Json) (step : String) : Option Json :=
  match value with
  | object fields => lookup step fields
  | array items => (readPosition? step.toList).bind (items[·]?)
  | _ => none

/-- The value to which steps lead. -/
def follow? : Json → List String → Option Json
  | value, [] => some value
  | value, step :: rest => (value.step? step).bind (·.follow? rest)

/-- The value that a pointer addresses. -/
def pointer? (value : Json) (pointer : String) : Option Json :=
  (pointerSteps? pointer.toList).bind value.follow?

end FleetOperator.Json
