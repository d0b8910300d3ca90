import FleetOperator.Drift.Normalize
import FleetOperator.Json.Comparison

/-!
# Drift

A desired specification is up to date with an observed one when their normalized copies are
equivalent as JSON values.
-/

namespace FleetOperator

/-- Whether two values of one type are equivalent as JSON values. -/
def Codec.equivalent {α : Type} (c : Codec α) (a b : α) : Bool :=
  Json.equal (c.toJson a) (c.toJson b)

/-- Whether two values of one type are equivalent as JSON values, as far as the comparison gets. -/
def Codec.equivalent? {α : Type} (c : Codec α) (a b : α) : Except Quantity.Overflow Bool :=
  Json.equal? (c.toJson a) (c.toJson b)

/-- The places at which two values of one type differ as JSON values, as far as the comparison
gets. -/
def Codec.differences? {α : Type} (c : Codec α) (a b : α) :
    Except Quantity.Overflow (List String) :=
  Json.differences? (c.toJson a) (c.toJson b)

/-- What was found out about a remote object: whether it exists, and if so whether it is as it is
desired. -/
structure Observation where
  isPresent : Bool := false
  upToDate : Bool := false
deriving DecidableEq, Repr, Inhabited

namespace Observation

/-- There is no remote object. -/
def absent : Observation := {}

/-- There is a remote object. -/
def present (upToDate : Bool) : Observation := { isPresent := true, upToDate }

end Observation

/-- Whether a cluster's desired specification is up to date with an observed one. -/
def ClusterSpec.isUpToDate (desired observed : ClusterSpec) : Bool :=
  ClusterSpec.codec.equivalent (desired.normalize observed) observed

/-- Whether an instance's desired specification is up to date with an observed one. -/
def InstanceSpec.isUpToDate (rules : NormalizeRules) (desired observed : InstanceSpec) : Bool :=
  InstanceSpec.codec.equivalent (desired.normalizeDesired rules observed)
    (observed.normalizeObserved rules)

end FleetOperator
