import FleetOperator.Kube.Client
import FleetOperator.Operator.Effect
import FleetOperator.Resource.Kind

/-!
# The finalizer

As long as a custom resource carries the operator's finalizer, Kubernetes does not remove it. The
operator adds its finalizer before it touches the remote object and removes it once the remote
object is gone. The finalizers of others keep their places.
-/

namespace FleetOperator

/-- The operator's finalizer. -/
def finalizerName : String := "core.akuity.io/finalizer"

namespace Resource

variable {σ ω : Type}

/-- The finalizers of a resource. -/
def finalizers (cr : Resource σ ω) : List String := cr.metadata.finalizerList

/-- Whether a resource carries the operator's finalizer. -/
def hasFinalizer (cr : Resource σ ω) : Bool := cr.finalizers.contains finalizerName

/-- Whether a resource is being deleted. -/
def isDeleting (cr : Resource σ ω) : Bool := cr.metadata.isDeleting

/-- The patch that sets the finalizers of a resource. -/
def finalizerPatch (finalizers : List String) : Json :=
  .object [("metadata", .object [("finalizers", .array (finalizers.map .text))])]

/-- Sets the finalizers of a resource. -/
def patchFinalizers (kind : Kind σ ω) (cr : Resource σ ω) (finalizers : List String) :
    Attempt Unit :=
  .mk do
    let patch := finalizerPatch finalizers
    match ← homeClient.merge Kube.MetadataOnly.codec kind.path cr.name patch with
    | .ok _ => return .ok ()
    | .error failure =>
      return .error (.finalizer ("could not update finalizers of " ++ cr.name ++ ": " ++
        failure.message))

/-- Adds the operator's finalizer to a resource that does not carry it. -/
def ensureFinalizer (kind : Kind σ ω) (cr : Resource σ ω) : Attempt Outcome :=
  if cr.hasFinalizer then return .noOp
  else do
    patchFinalizers kind cr (cr.finalizers ++ [finalizerName])
    return .created

/-- Removes the operator's finalizer from a resource that carries it. -/
def removeFinalizer (kind : Kind σ ω) (cr : Resource σ ω) : Attempt Outcome :=
  if !cr.hasFinalizer then return .noOp
  else do
    patchFinalizers kind cr (cr.finalizers.filter (· != finalizerName))
    return .deleted

end Resource

end FleetOperator
