import FleetOperator.Cluster.Spec
import FleetOperator.Kube.Config
import FleetOperator.Kube.Discovery
import FleetOperator.Operator.Event
import FleetOperator.Platform.Request
import FleetOperator.Time

/-!
# Effects

All that the operator does to the world around it. A step of the operator is a program over these
effects that may fail.
-/

namespace FleetOperator

/-- An effect: a call to the platform, waiting, finding the platform's name of the instance behind a
resource, applying or deleting an agent's manifests, a request to the operator's own cluster or to a
workload cluster, an event, and counting. -/
inductive Effect where
  | platform (request : Platform.Request)
  | sleep (delay : Duration)
  | instanceName (resource : String)
  | install (spec : ClusterSpec) (manifests : String) (removing : Bool)
  | kube (request : Kube.Request)
  | ownCluster
  | workload (endpoint : Kube.Endpoint) (request : Kube.Request)
  | publish (event : Event)
  | count (counter : Counter) (amount : Nat)

/-- What is answered to an effect. Whether an event could be published does not matter. -/
abbrev Effect.Answer : Effect → Type
  | platform request => Except RemoteError request.Value
  | instanceName _ => Except Error String
  | install _ _ _ => Except Error Nat
  | kube _ | workload _ _ => Kube.Response
  | ownCluster => Except String Kube.Endpoint
  | sleep _ | publish _ | count _ _ => Unit

/-- The effects with their answers. -/
abbrev effects : Interface := ⟨Effect, Effect.Answer⟩

/-- A step of the operator that may fail. -/
abbrev Attempt (α : Type) := ExceptT Error (Program effects) α

/-- Calls the platform. -/
def callPlatform (request : Platform.Request) : Program effects (Except RemoteError request.Value) :=
  .ask (Effect.platform request) .done

/-- Waits. -/
def sleep (delay : Duration) : Program effects Unit := .ask (Effect.sleep delay) .done

/-- The client of the operator's own cluster. -/
def homeClient : Kube.Client effects := fun request ↦ .ask (Effect.kube request) .done

/-- The client of a workload cluster. -/
def workloadClient (endpoint : Kube.Endpoint) : Kube.Client effects :=
  fun request ↦ .ask (Effect.workload endpoint request) .done

/-- Publishes an event. -/
def publish (event : Event) : Program effects Unit := .ask (Effect.publish event) .done

/-- Adds to a counter. -/
def count (counter : Counter) (amount : Nat) : Program effects Unit :=
  .ask (Effect.count counter amount) .done

namespace Attempt

/-- A step whose result is known. -/
def ofExcept {α : Type} (result : Except Error α) : Attempt α := .mk (.done result)

/-- A call to the platform whose failure ends the step. -/
def platform (request : Platform.Request) : Attempt request.Value :=
  .mk do return (← callPlatform request).mapError Error.ofRemote

/-- A request to a Kubernetes cluster whose failure ends the step. -/
def kube {α : Type} (answer : Program effects (Except Kube.Failure α)) : Attempt α :=
  .mk do return (← answer).mapError fun failure ↦ .kube failure.message

/-- The platform's name of the instance behind a resource. -/
def instanceName (resource : String) : Attempt String :=
  .mk (.ask (Effect.instanceName resource) .done)

/-- Applies or deletes the manifests of a cluster's agent, and tells how many documents they are. -/
def install (spec : ClusterSpec) (manifests : String) (removing : Bool) : Attempt Nat :=
  .mk (.ask (Effect.install spec manifests removing) .done)

end Attempt

end FleetOperator
