import FleetOperator.Kube.Memory
import FleetOperator.Operator.Effect
import FleetOperator.Platform.Memory
import FleetOperator.Resource.Kind
import FleetOperator.Target.Apply
import FleetOperator.Target.Memory

/-!
# A world in memory

A world in which the operator can be run: a platform, a workload cluster and an API server in
memory, a clock that only waiting moves, counters, and a record of everything that was asked. There
is no network: a workload cluster that is addressed by an endpoint cannot be reached, and the
operator does not run inside a cluster.
-/

namespace FleetOperator

/-- The types of objects that a workload cluster serves when nothing else is said. -/
def usualTypes : List Kube.ResourceType :=
  [{ kind := "Namespace", plural := "namespaces", isNamespaced := false },
    { kind := "ConfigMap", plural := "configmaps" },
    { kind := "ServiceAccount", plural := "serviceaccounts" },
    { group := "apps", kind := "Deployment", plural := "deployments" },
    { group := "rbac.authorization.k8s.io", kind := "ClusterRole", plural := "clusterroles",
      isNamespaced := false },
    { group := "rbac.authorization.k8s.io", kind := "ClusterRoleBinding",
      plural := "clusterrolebindings", isNamespaced := false }]

/-- What an API server was asked: a request, or the publication of an event, which repeats an
earlier one when it has a count. -/
inductive KubeEntry where
  | request (request : Kube.Request)
  | event (event : Event) (count : Option Nat)
deriving DecidableEq, Repr

/-- The path of the object that an entry is about. -/
def KubeEntry.objectPath : KubeEntry → String
  | request r => Kube.Memory.objectPath r.path
  | event e _ =>
    let plural := if e.kind = Kind.cluster.name then Kind.cluster.plural else Kind.inst.plural
    "/apis/" ++ apiVersion ++ "/" ++ plural ++ "/" ++ e.name

/-- Something that was asked at a time. -/
structure Timed (α : Type) where
  time : Duration
  entry : α
deriving Repr

/-- The content and the past of a world. -/
structure World where
  clock : Duration := ⟨0⟩
  platform : Platform.Memory := {}
  target : Target.Memory := {}
  kube : Kube.Memory := {}
  published : List (Event × Nat) := []
  counters : Counters := []
  platformLog : List (Timed Platform.Request) := []
  targetLog : List Target.Call := []
  kubeLog : List (Timed KubeEntry) := []

namespace World

/-- A world without a record of what was asked. -/
def unrecorded (w : World) : World := { w with platformLog := [], targetLog := [], kubeLog := [] }

/-- Events as often as they were published, with an event published once more. The note of the first
one stands. -/
def addEvent (event : Event) : List (Event × Nat) → List (Event × Nat)
  | [] => [(event, 1)]
  | (first, n) :: rest =>
    if event.repeats first then (first, n + 1) :: rest else (first, n) :: addEvent event rest

/-- The event as it is sent: the first one that it repeats with a new count, or itself. -/
def sentEvent (published : List (Event × Nat)) (event : Event) : Event × Option Nat :=
  match published.find? fun past ↦ event.repeats past.1 with
  | some (first, n) => (first, some (n + 1))
  | none => (event, none)

/-- The path by which failures of the publication of events are prepared. -/
def eventsPath : String := "events"

/-- A world in which an event is published. -/
def publish (w : World) (event : Event) : World :=
  let (sent, repetition) := sentEvent w.published event
  let method := if repetition.isSome then "PATCH" else "POST"
  let w := { w with kubeLog := w.kubeLog ++ [⟨w.clock, .event sent repetition⟩] }
  if (w.kube.failure? method eventsPath).isSome then w
  else { w with published := addEvent event w.published }

/-- A call to the workload cluster of a world. -/
def answerTarget : Handler Target.interface World := fun call w ↦
  let (answer, target) := Target.Memory.answer call w.target
  (answer, { w with target, targetLog := w.targetLog ++ [call] })

/-- The answer to an effect. -/
def answer : Handler effects World
  | .platform request, w =>
    let (answer, platform) := w.platform.answer request
    (answer, { w with platform, platformLog := w.platformLog ++ [⟨w.clock, request⟩] })
  | .sleep delay, w => ((), { w with clock := w.clock.plus delay })
  | .instanceName resource, w =>
    match w.platform.lookup.get? resource with
    | some name => (.ok name, w)
    | none => (.error (.notFound ("instance " ++ resource)), w)
  | .install _ manifests removing, w =>
    (Target.applyManifest (Kube.ResourceType.resolve usualTypes) {} manifests removing).run
      answerTarget w
  | .kube request, w =>
    let (answer, kube) := w.kube.answer request
    (answer, { w with kube, kubeLog := w.kubeLog ++ [⟨w.clock, .request request⟩] })
  | .ownCluster, w => (.error "not in a cluster", w)
  | .workload _ _, w => (.error (.service "no connection"), w)
  | .publish event, w => ((), w.publish event)
  | .count counter amount, w => ((), { w with counters := Counters.add counter amount w.counters })

end World

end FleetOperator
