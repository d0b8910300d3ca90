import FleetOperator.Resource.Timestamp

/-!
# Metadata

The metadata of a Kubernetes object as far as the operator knows it. Reading keeps the known fields
and drops all others; writing leaves out what is absent.
-/

namespace FleetOperator

/-- The owner of an object. -/
structure OwnerReference where
  apiVersion : String
  blockOwnerDeletion : Option Bool
  controller : Option Bool
  kind : String
  name : String
  uid : String
deriving DecidableEq, Repr, Inhabited

/-- A text for which null stands for the empty one. -/
def lenientText : Codec String where
  encode := .text
  decode? source := (Codec.text.optional.decode? source).map (·.getD "")
  schema := Codec.text.schema

/-- The written form of `OwnerReference`. -/
def OwnerReference.codec : Codec OwnerReference :=
  .keyedRecord OwnerReference.mk <|
    .next (.defaulted "apiVersion" (·.apiVersion) lenientText "") <|
    .next (.optional "blockOwnerDeletion" (·.blockOwnerDeletion) .flag) <|
    .next (.optional "controller" (·.controller) .flag) <|
    .next (.defaulted "kind" (·.kind) lenientText "") <|
    .next (.defaulted "name" (·.name) lenientText "") <|
    .next (.defaulted "uid" (·.uid) lenientText "") <|
    .done

/-- The fields of an object that one manager has set. -/
structure ManagedFields where
  apiVersion : Option String
  fieldsType : Option String
  fields : Option Json
  manager : Option String
  operation : Option String
  subresource : Option String
  time : Option Timestamp
deriving DecidableEq, Repr, Inhabited

/-- The written form of `ManagedFields`. -/
def ManagedFields.codec : Codec ManagedFields :=
  .keyedRecord ManagedFields.mk <|
    .next (.optional "apiVersion" (·.apiVersion) .text) <|
    .next (.optional "fieldsType" (·.fieldsType) .text) <|
    .next (.optional "fieldsV1" (·.fields) .json) <|
    .next (.optional "manager" (·.manager) .text) <|
    .next (.optional "operation" (·.operation) .text) <|
    .next (.optional "subresource" (·.subresource) .text) <|
    .next (.optional "time" (·.time) Timestamp.codec) <|
    .done

/-- The metadata of a Kubernetes object. -/
structure Metadata where
  annotations : Option (Dict String) := none
  creationTimestamp : Option Timestamp := none
  deletionGracePeriodSeconds : Option Int64 := none
  deletionTimestamp : Option Timestamp := none
  finalizers : Option (List String) := none
  generateName : Option String := none
  generation : Option Int64 := none
  labels : Option (Dict String) := none
  managedFields : Option (List ManagedFields) := none
  name : Option String := none
  «namespace» : Option String := none
  ownerReferences : Option (List OwnerReference) := none
  resourceVersion : Option String := none
  selfLink : Option String := none
  uid : Option String := none
deriving DecidableEq, Repr, Inhabited

namespace Metadata

/-- The written form of `Metadata`. -/
def codec : Codec Metadata :=
  .keyedRecord Metadata.mk <|
    .next (.optional "annotations" (·.annotations) (.dict .text)) <|
    .next (.optional "creationTimestamp" (·.creationTimestamp) Timestamp.codec) <|
    .next (.optional "deletionGracePeriodSeconds" (·.deletionGracePeriodSeconds) .int64) <|
    .next (.optional "deletionTimestamp" (·.deletionTimestamp) Timestamp.codec) <|
    .next (.optional "finalizers" (·.finalizers) (.list .text)) <|
    .next (.optional "generateName" (·.generateName) .text) <|
    .next (.optional "generation" (·.generation) .int64) <|
    .next (.optional "labels" (·.labels) (.dict .text)) <|
    .next (.optional "managedFields" (·.managedFields) (.list ManagedFields.codec)) <|
    .next (.optional "name" (·.name) .text) <|
    .next (.optional "namespace" (·.namespace) .text) <|
    .next (.optional "ownerReferences" (·.ownerReferences) (.list OwnerReference.codec)) <|
    .next (.optional "resourceVersion" (·.resourceVersion) .text) <|
    .next (.optional "selfLink" (·.selfLink) .text) <|
    .next (.optional "uid" (·.uid) .text) <|
    .done

/-- The value of an annotation. -/
def annotation? (m : Metadata) (key : String) : Option String :=
  m.annotations.bind (·.get? key)

/-- Metadata with an annotation set. -/
def annotate (m : Metadata) (key value : String) : Metadata :=
  { m with annotations := some ((m.annotations.getD .empty).insert key value) }

/-- The finalizers, none when they are absent. -/
def finalizerList (m : Metadata) : List String := m.finalizers.getD []

/-- Whether the object is being deleted. -/
def isDeleting (m : Metadata) : Bool := m.deletionTimestamp.isSome

end Metadata

end FleetOperator
