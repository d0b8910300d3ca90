import FleetOperator.Operator.Effect
import FleetOperator.Resource.Kind
import FleetOperator.Target.Apply
import FleetOperator.Target.Server
import FleetOperator.Text.Utf8

/-!
# Access to Kubernetes

How the operator finds instances and installs agents by requests to Kubernetes alone: an instance is
found by its custom resource, and an agent is installed on the cluster that the specification gives
access to, by the operator's own service account or by a client configuration in a secret.
-/

namespace FleetOperator

/-- A secret, as far as it is read. -/
structure Secret where
  metadata : Metadata
  data : Option (Dict (List UInt8))

/-- The written form of octets. -/
def octetsCodec : Codec (List UInt8) where
  encode _ := .null
  decode? source := source.text?.bind fun text ↦ Base64.decode? text.toList
  schema := []

/-- The written form of `Secret`. -/
def Secret.codec : Codec Secret :=
  .keyedRecord Secret.mk <|
    .next (.defaulted "metadata" (·.metadata) Metadata.codec {}) <|
    .next (.optional "data" (·.data) (.dict octetsCodec)) <|
    .done

/-- The key of a secret under which a client configuration stands. -/
def configKey : String := "kubeconfig"

/-- The path of the secrets in a namespace. -/
def secretsPath («namespace» : String) : String :=
  "/api/v1/namespaces/" ++ «namespace» ++ "/secrets"

/-- The cluster that the client configuration in a secret gives access to. -/
def Secret.endpoint (secret : Secret) (reference : SecretRef) : Except Error Kube.Endpoint :=
  match secret.data.bind (·.get? configKey) with
  | none => .error (.config ("secret " ++ reference.name ++ " in namespace " ++
      reference.namespace ++ " has no " ++ configKey ++ " key"))
  | some octets =>
    match Utf8.decode octets with
    | .error fault => .error (.config ("kubeconfig is not UTF-8: " ++ fault.message))
    | .ok text =>
      match Kube.Config.read? (String.ofList text) with
      | none => .error (.config "could not parse kubeconfig: not a client configuration")
      | some config => config.endpoint.mapError fun detail ↦
          .config ("could not load kubeconfig: " ++ detail)

/-- The workload cluster that a specification gives access to. -/
def ClusterSpec.endpoint (spec : ClusterSpec) : Attempt Kube.Endpoint :=
  if spec.enableInClusterKubeconfig then
    .mk do
      return (← Program.ask (I := effects) Effect.ownCluster .done).mapError fun detail ↦
        .config ("could not build in cluster kube config: " ++ detail)
  else
    match spec.kubeconfigSecretRef with
    | none =>
      throw (.config "kubeconfigSecretRef must be set without in cluster kubeconfig")
    | some reference => do
      let secret ← Attempt.kube
        (homeClient.get Secret.codec (secretsPath reference.namespace) reference.name)
      Attempt.ofExcept (secret.endpoint reference)

/-- The platform's name of the instance behind a resource, from the resource itself. -/
def lookupInstance (resource : String) : Attempt String := do
  match ← Attempt.kube (homeClient.get? Kind.inst.codec Kind.inst.path resource) with
  | some cr => return cr.spec.name
  | none => throw (.notFound ("instance with instanceRef " ++ resource))

/-- Applies or deletes a manifest by requests to a cluster, whose types are asked from it first. -/
def applyByRequests (client : Kube.Client effects) (manifest : String) (removing : Bool) :
    Attempt Nat := do
  let types ← Attempt.kube client.discover
  ExceptT.mk ((Target.applyManifest (Kube.ResourceType.resolve types) {} manifest
    removing).interpret (Target.serve client))

/-- Applies or deletes the manifests of an agent on the cluster that a specification gives access
to, and counts their documents. -/
def installAgent (spec : ClusterSpec) (manifests : String) (removing : Bool) : Attempt Nat := do
  let endpoint ← spec.endpoint
  let applied ← applyByRequests (workloadClient endpoint) manifests removing
  count (.documentsOf removing) applied
  return applied

/-- The effects with instances found by requests to Kubernetes. -/
def findInstances : (effect : Effect) → Program effects effect.Answer
  | .instanceName resource => (lookupInstance resource).run
  | effect => .ask effect .done

/-- The effects with instances found and agents installed by requests to Kubernetes. -/
def accessKubernetes : (effect : Effect) → Program effects effect.Answer
  | .instanceName resource => (lookupInstance resource).run
  | .install spec manifests removing => (installAgent spec manifests removing).run
  | effect => .ask effect .done

end FleetOperator
