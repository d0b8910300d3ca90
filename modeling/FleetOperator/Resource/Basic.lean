import FleetOperator.Resource.Condition
import FleetOperator.Resource.Metadata

/-!
# Custom resources

The two kinds of custom resource share one shape: metadata, a specification, and a status with an
observation of the remote object and conditions. The identifier of the remote object is kept in an
annotation; an empty annotation counts as none.
-/

namespace FleetOperator

/-- A reference to an object by name. -/
structure NameRef where
  name : String := ""
deriving DecidableEq, Repr, Inhabited

/-- The written form of `NameRef`. -/
def NameRef.codec : Codec NameRef :=
  .record NameRef.mk <|
    .next (.required "name" (·.name) .text) <|
    .done

/-- A reference to a secret. -/
structure SecretRef where
  name : String := ""
  «namespace» : String := ""
deriving DecidableEq, Repr, Inhabited

/-- The written form of `SecretRef`. -/
def SecretRef.codec : Codec SecretRef :=
  .record SecretRef.mk <|
    .next (.required "name" (·.name) .text) <|
    .next (.required "namespace" (·.namespace) .text) <|
    .done

/-- The status of a custom resource: what was last seen of the remote object, and conditions. -/
structure Status (ω : Type) where
  atProvider : Option ω := none
  conditions : Option (List Condition) := none
deriving DecidableEq, Repr, Inhabited

/-- The written form of `Status`, from that of the observation. -/
def Status.codec {ω : Type} (observation : Codec ω) : Codec (Status ω) :=
  .record Status.mk <|
    .next (.nullable "atProvider" (·.atProvider) observation) <|
    .next (.nullable "conditions" (·.conditions) (.list Condition.codec)) <|
    .done

/-- The group of the custom resources. -/
def apiGroup : String := "core.akuity.io"

/-- The version of the custom resources. -/
def apiVersionName : String := "v1alpha1"

/-- The group and the version of the custom resources. -/
def apiVersion : String := apiGroup ++ "/" ++ apiVersionName

/-- The annotation that holds the identifier of the object on the platform. -/
def externalNameKey : String := "core.akuity.io/external-name"

/-- A custom resource with a specification of type `σ` and an observation of type `ω`. -/
structure Resource (σ ω : Type) where
  metadata : Metadata
  spec : σ
  status : Option (Status ω) := none
deriving DecidableEq, Repr, Inhabited

namespace Resource

variable {σ ω : Type}

/-- The written form of a custom resource of a kind. The version and the kind are always written
and never read. -/
def codec (kind : String) (spec : Codec σ) (observation : Codec ω) : Codec (Resource σ ω) :=
  let fields : Codec (Resource σ ω) :=
    .record Resource.mk <|
      .next (.required "metadata" (·.metadata) Metadata.codec) <|
      .next (.required "spec" (·.spec) spec) <|
      .next { Field.optional "status" (·.status) (Status.codec observation) with beyond := none } <|
      .done
  { fields with
    encode := fun resource ↦
      match fields.encode resource with
      | .object written =>
        .object (("apiVersion", .text apiVersion) :: ("kind", .text kind) :: written)
      | other => other }

/-- The identifier of the remote object: the annotation, unless it is empty. -/
def externalName? (r : Resource σ ω) : Option String :=
  (r.metadata.annotation? externalNameKey).filter (· != "")

/-- A resource with the identifier of its remote object. -/
def withExternalName (r : Resource σ ω) (name : String) : Resource σ ω :=
  { r with metadata := r.metadata.annotate externalNameKey name }

/-- A resource with a condition set in its status. -/
def record (r : Resource σ ω) (condition : Condition) : Resource σ ω :=
  let status := r.status.getD {}
  { r with
    status := some
      { status with conditions := some (condition.set (status.conditions.getD [])) } }

/-- A resource with an observation of its remote object. -/
def observed (r : Resource σ ω) (observation : ω) : Resource σ ω :=
  { r with status := some { r.status.getD {} with atProvider := some observation } }

/-- The name of a resource, or else what its name is to start with, or else nothing. -/
def name (r : Resource σ ω) : String := (r.metadata.name <|> r.metadata.generateName).getD ""

end Resource

end FleetOperator
