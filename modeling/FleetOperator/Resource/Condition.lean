import FleetOperator.Codec.Basic

/-!
# Conditions

What a custom resource reports about itself: the status codes seen on the platform, and conditions
by type. A list of conditions has one condition of each type; setting a condition replaces the one
of its type in place.
-/

namespace FleetOperator

/-- A status code reported by the platform together with its message. -/
structure ObservedStatus where
  code : Int32 := 0
  message : Option String := none
deriving DecidableEq, Repr, Inhabited

/-- The written form of `ObservedStatus`. -/
def ObservedStatus.codec : Codec ObservedStatus :=
  .described "A status code reported by the Akuity Platform together with its message." <|
  .record ObservedStatus.mk <|
    .next (.defaulted "code" (·.code) .int32 0) <|
    .next (.optional "message" (·.message) .text) <|
    .done

/-- A condition of a custom resource. -/
structure Condition where
  type : String
  status : String
  reason : Option String := none
  message : Option String := none
deriving DecidableEq, Repr, Inhabited

namespace Condition

/-- The written form of `Condition`. -/
def codec : Codec Condition :=
  .record Condition.mk <|
    .next (.required "type" (·.type) .text) <|
    .next (.required "status" (·.status) .text) <|
    .next (.nullable "reason" (·.reason) .text) <|
    .next (.nullable "message" (·.message) .text) <|
    .done

/-- The type of the condition that tells whether the remote object is healthy. -/
def ready : String := "Ready"

/-- The type of the condition that tells whether the last pass succeeded. -/
def synced : String := "Synced"

/-- The remote object is healthy. -/
def available : Condition := { type := ready, status := "True", reason := some "Available" }

/-- The remote object is not healthy. -/
def unavailable : Condition := { type := ready, status := "False", reason := some "Unavailable" }

/-- The remote object was created just now. -/
def creating : Condition := { type := ready, status := "False", reason := some "Creating" }

/-- The remote object is being deleted. -/
def deleting : Condition := { type := ready, status := "False", reason := some "Deleting" }

/-- The last pass succeeded. -/
def reconcileSuccess : Condition :=
  { type := synced, status := "True", reason := some "ReconcileSuccess" }

/-- The last pass failed with a message. -/
def reconcileError (message : String) : Condition :=
  { type := synced, status := "False", reason := some "ReconcileError", message := some message }

/-- The health code of a healthy object. -/
def healthyCode : Int32 := 1

/-- The readiness that a health code tells. -/
def readiness (code : Int32) : Condition :=
  if code = healthyCode then available else unavailable

/-- A list of conditions with a condition in place of the first one of its type, or at the end when
there is none of its type. -/
def set (condition : Condition) : List Condition → List Condition
  | [] => [condition]
  | first :: rest =>
    if first.type = condition.type then condition :: rest else first :: set condition rest

end Condition

end FleetOperator
