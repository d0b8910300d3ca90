import FleetOperator.Operator.Access
import FleetOperator.Proofs.Interpreted
import FleetOperator.Proofs.Reconcile.WriteBack

/-!
# What access to Kubernetes asks

What the operator asks to find an instance and to install an agent by requests to Kubernetes alone.
Read `accessKubernetes_asks` first: instances and secrets are only read, a workload cluster is
reached only to install an agent, and all else is asked as it is.
-/

namespace FleetOperator

variable {I : Interface}

/-- Whether an effect reaches a workload cluster: it applies or deletes the manifests of an agent, or
it is a request to the cluster. -/
def Effect.reachesTarget : Effect → Bool
  | .install _ _ _ | .workload _ _ => true
  | _ => false

/-- What may be asked to find the answer to an effect: the effect itself, and reads of objects in the
operator's own cluster. For the installation of an agent the workload cluster is found and reached as
well, and the documents are counted. -/
inductive Effect.Serves (effect : Effect) : Effect → Prop
  | self : Serves effect effect
  | looks (request : Kube.Request) (hread : request.method = .get) : Serves effect (.kube request)
  | finds {spec : ClusterSpec} {manifests : String} {removing : Bool}
      (h : effect = .install spec manifests removing) : Serves effect .ownCluster
  | reaches {spec : ClusterSpec} {manifests : String} {removing : Bool}
      (h : effect = .install spec manifests removing) (endpoint : Kube.Endpoint)
      (request : Kube.Request) : Serves effect (.workload endpoint request)
  | counts {spec : ClusterSpec} {manifests : String} {removing : Bool}
      (h : effect = .install spec manifests removing) (counter : Counter) (amount : Nat) :
      Serves effect (.count counter amount)

/-- A step that may fail and the next one ask questions of a kind if both do. -/
theorem Program.Asks.bindT {ε α β : Type} {kind : I.Call → Prop} {step : ExceptT ε (Program I) α}
    {f : α → ExceptT ε (Program I) β} (h : Program.Asks kind step.run)
    (hnext : ∀ value, Program.Asks kind (f value).run) : Program.Asks kind (step >>= f).run := by
  refine Program.Asks.bind h ?_
  rintro (error | value)
  · trivial
  · exact hnext value

namespace Kube.Client

variable {client : Kube.Client I} {asked : I.Call → Prop}
  (hclient : ∀ request, (client request).Asks asked)
include hclient

/-- A request for an object asks what a client asks. -/
theorem object_asks {α : Type} (c : Codec α) (collection name part : String) (method : Method)
    (query : List String) : (client.object c collection name part method query).Asks asked := by
  unfold object
  dsimp only
  split
  · trivial
  · split
    · trivial
    · refine Program.Asks.bind (hclient _) ?_
      rintro (failure | answer) <;> trivial

/-- Reading a field of a document asks what a client asks. -/
theorem readField_asks {α : Type} (path name : String) (c : Codec α) :
    Program.Asks asked (client.readField path name c).run := by
  have hdocument : Program.Asks asked
      (ExceptT.mk (client { method := .get, path }) : ExceptT Failure (Program I) Json).run :=
    hclient _
  refine Program.Asks.bindT hdocument ?_
  intro document
  split <;> trivial

/-- Asking for the types in a version of a group asks what a client asks. -/
theorem typesIn_asks (path group version : String) :
    Program.Asks asked (client.typesIn path group version).run :=
  Program.Asks.bindT (readField_asks hclient _ _ _) fun _ ↦ trivial

/-- Asking for the types in versions of a group asks what a client asks. -/
theorem typesInVersions_asks (group : String) (versions : List GroupVersion) :
    Program.Asks asked (client.typesInVersions group versions).run := by
  induction versions with
  | nil => trivial
  | cons version rest ih =>
      exact Program.Asks.bindT (typesIn_asks hclient _ _ _) fun _ ↦
        Program.Asks.bindT ih fun _ ↦ trivial

/-- Asking for the types in groups asks what a client asks. -/
theorem typesInGroups_asks (groups : List Group) :
    Program.Asks asked (client.typesInGroups groups).run := by
  induction groups with
  | nil => trivial
  | cons group rest ih =>
      have hnext : Program.Asks asked (do
          let types ← client.typesInVersions group.name group.versions
          return types ++ (← client.typesInGroups rest) :
            ExceptT Failure (Program I) (List ResourceType)).run :=
        Program.Asks.bindT (typesInVersions_asks hclient _ _) fun _ ↦
          Program.Asks.bindT ih fun _ ↦ trivial
      unfold typesInGroups
      dsimp only
      split
      · trivial
      · exact hnext

/-- Asking for the types in versions of the core group asks what a client asks. -/
theorem coreTypes_asks (versions : List String) :
    Program.Asks asked (client.coreTypes versions).run := by
  induction versions with
  | nil => trivial
  | cons version rest ih =>
      exact Program.Asks.bindT (typesIn_asks hclient _ _ _) fun _ ↦
        Program.Asks.bindT ih fun _ ↦ trivial

/-- Asking for all types asks what a client asks. -/
theorem discover_asks : Program.Asks asked client.discover.run := by
  unfold discover
  refine Program.Asks.bindT (readField_asks hclient _ _ _) fun groups ↦
    Program.Asks.bindT (typesInGroups_asks hclient _) fun types ↦
    Program.Asks.bindT (readField_asks hclient _ _ _) fun versions ↦ ?_
  dsimp only
  split
  · trivial
  · exact Program.Asks.bindT (coreTypes_asks hclient _) fun _ ↦ trivial

/-- Serving a call to a workload cluster asks what a client asks. -/
theorem serve_asks (call : Target.Call) : (Target.serve client call).Asks asked := by
  have hrequest : ∀ place method query, (Target.request client place method query).Asks asked := by
    intro place method query
    refine Program.Asks.bind (object_asks hclient _ _ _ _ _ _) ?_
    rintro (failure | value) <;> trivial
  cases call with
  | get place => exact hrequest _ _ _
  | apply | patchMetadata | delete => exact (hrequest _ _ _).bind fun _ ↦ trivial

end Kube.Client

/-- Finding an instance only reads in the operator's own cluster. -/
theorem lookupInstance_asks (resource : String) (effect : Effect) :
    Program.Asks (I := effects) effect.Serves (lookupInstance resource).run := by
  unfold lookupInstance
  refine Attempt.asks_bind (Attempt.asks_kube (Program.Asks.bind (object_asks ?_) ?_)) ?_
  · exact .looks _ rfl
  · rintro (failure | value) <;> trivial
  · rintro (_ | cr) <;> trivial

/-- Installing an agent reads in the operator's own cluster and reaches the workload cluster. -/
theorem installAgent_asks (spec : ClusterSpec) (manifests : String) (removing : Bool) :
    Program.Asks (I := effects) (Effect.install spec manifests removing).Serves
      (installAgent spec manifests removing).run := by
  unfold installAgent
  refine Attempt.asks_bind ?_ fun endpoint ↦ Attempt.asks_bind ?_ fun documents ↦ ?_
  · unfold ClusterSpec.endpoint
    split
    · exact ⟨.finds rfl, fun _ ↦ trivial⟩
    · split
      · trivial
      · refine Attempt.asks_bind (Attempt.asks_kube (object_asks ?_)) fun _ ↦ trivial
        exact .looks _ rfl
  · have hclient : ∀ request, (workloadClient endpoint request).Asks
        (Effect.install spec manifests removing).Serves :=
      fun request ↦ ⟨.reaches rfl endpoint request, fun _ ↦ trivial⟩
    exact Attempt.asks_bind (Attempt.asks_kube (Kube.Client.discover_asks hclient)) fun types ↦
      Program.Asks.interpret (Kube.Client.serve_asks hclient) _
  · exact Attempt.asks_bind ⟨.counts rfl _ _, fun _ ↦ trivial⟩ fun _ ↦ trivial

/-- What is asked to find the answer to an effect serves this effect. -/
theorem accessKubernetes_asks (effect : Effect) :
    (accessKubernetes effect).Asks effect.Serves := by
  cases effect with
  | instanceName resource => exact lookupInstance_asks resource _
  | install spec manifests removing => exact installAgent_asks spec manifests removing
  | platform | sleep | kube | ownCluster | workload | publish | count =>
      exact ⟨.self, fun _ ↦ trivial⟩

end FleetOperator
