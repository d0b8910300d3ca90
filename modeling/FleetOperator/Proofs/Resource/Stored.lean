import FleetOperator.Proofs.Resource.Mergeable
import FleetOperator.Reconcile.Finalizer

/-!
# Stored resources

A custom resource as the API server keeps it. Read `Kind.Keeps.parts` first: the value is an object
with the metadata, the specification and the status of the resource under their names. What is read
after a change is told part by part by `Kind.codec_ofJson?_iff` and `Metadata.reannotated_iff`. That
a specification or a status comes back as it was written is `stored_values_read_back`.
-/

namespace FleetOperator

variable {σ ω : Type}

/-- The annotations of an object, as its metadata write them. -/
def Metadata.annotationsField : Field Metadata (Option (Dict String)) :=
  .optional "annotations" (·.annotations) (.dict .text)

/-- Metadata of which the annotations alone were changed read as the same metadata with the
annotations that are read there. -/
theorem Metadata.reannotated_iff {before after : List (String × Json)} {metadata : Metadata}
    (hbefore : (before.map (·.1)).Nodup) (hafter : (after.map (·.1)).Nodup)
    (hread : codec.ofJson? (.object before) = some metadata)
    (hsame : ∀ key, key ≠ "annotations" → Json.lookup key after = Json.lookup key before)
    (annotations : Dict String) :
    (∃ found, codec.ofJson? (.object after) = some found ∧
        found.annotations.getD .empty = annotations) ↔
      ∃ found, annotationsField.readAt (Json.lookup "annotations" after) = some found ∧
        found.getD .empty = annotations := by
  obtain ⟨-, hothers⟩ := (Codec.keyedRecord_ofJson?_iff (by simp)
    (fun _ ↦ rfl) hbefore metadata).1 hread
  constructor
  · rintro ⟨found, hfound, hannotations⟩
    exact ⟨_, ((Codec.keyedRecord_ofJson?_iff (by simp)
      (fun _ ↦ rfl) hafter found).1 hfound).1, hannotations⟩
  · rintro ⟨found, hfound, hannotations⟩
    have hkept : Fields.Reads (Json.lookup · after) _ metadata :=
      (Fields.reads_congr (fun key hkey ↦ hsame key (by rintro rfl; revert hkey; decide))
        metadata).2 hothers
    exact ⟨{ metadata with annotations := found },
      (Codec.keyedRecord_ofJson?_iff (by simp)
        (fun _ ↦ rfl) hafter _).2 ⟨hfound, hkept⟩, hannotations⟩

namespace Kind

variable (kind : Kind σ ω)

/-- The metadata of a resource, as it writes them. -/
def metadataField : Field (Resource σ ω) Metadata :=
  .required "metadata" (·.metadata) Metadata.codec

/-- The specification of a resource, as it writes it. -/
def specField : Field (Resource σ ω) σ := .required "spec" (·.spec) kind.spec

/-- The status of a resource, as a patch of it writes it: absence is written as null. -/
def statusField : Field (Resource σ ω) (Option (Status ω)) :=
  .nullable "status" (·.status) (Status.codec kind.observation)

/-- The fields of a resource, as a whole resource writes them: an absent status is left out. -/
def fields : Fields (Resource σ ω) (Metadata → σ → Option (Status ω) → Resource σ ω) :=
  .next (.required "metadata" (·.metadata) Metadata.codec) <|
  .next (.required "spec" (·.spec) kind.spec) <|
  .next { Field.optional "status" (·.status) (Status.codec kind.observation) with beyond := none } <|
  .done

/-- A resource is read from an object exactly if its metadata, its specification and its status are
read there. -/
theorem codec_ofJson?_iff {object : List (String × Json)} (h : (object.map (·.1)).Nodup)
    (cr : Resource σ ω) :
    kind.codec.ofJson? (.object object) = some cr ↔
      (metadataField (σ := σ) (ω := ω)).readAt (Json.lookup "metadata" object) =
          some cr.metadata ∧
        kind.specField.readAt (Json.lookup "spec" object) = some cr.spec ∧
        kind.statusField.readAt (Json.lookup "status" object) = some cr.status := by
  have hreads : kind.codec.ofJson? (.object object) = some cr ↔
      kind.fields.Reads (Json.lookup · object) cr :=
    Fields.decode?_eq_some_iff (by simp) (fun _ ↦ rfl) h cr
  rw [hreads]
  simp only [fields, Fields.Reads, and_true]
  exact Iff.rfl

/-- A resource is written as an object with its metadata, its specification and, if it has one, its
status. -/
theorem lookup_toJson (cr : Resource σ ω) :
    ∃ object, kind.codec.toJson cr = .object object ∧ (object.map (·.1)).Nodup ∧
      Json.lookup "metadata" object = some (Metadata.codec.toJson cr.metadata) ∧
      Json.lookup "spec" object = some (kind.spec.toJson cr.spec) ∧
      Json.lookup "status" object = cr.status.map (Status.codec kind.observation).toJson := by
  have hnames : ("apiVersion" :: "kind" :: kind.fields.names).Nodup :=
    (by decide : ["apiVersion", "kind", "metadata", "spec", "status"].Nodup)
  have hkeys : ((("apiVersion", Json.text apiVersion) :: ("kind", Json.text kind.name) ::
      kind.fields.encode cr).map (·.1)).Nodup :=
    hnames.sublist (((kind.fields.encode_keys_sublist cr).cons_cons _).cons_cons _)
  have hown : ∀ key, "apiVersion" ≠ key → "kind" ≠ key →
      Json.lookup key (Json.sortFields (Json.sortedFields (("apiVersion", .text apiVersion) ::
        ("kind", .text kind.name) :: kind.fields.encode cr))) = kind.fields.writtenAt key cr := by
    intro key hversion hkind
    rw [Json.lookup_sorted hkeys, Json.lookup, if_neg hversion, Json.lookup, if_neg hkind,
      ← Json.lookup_sorted (List.nodup_cons.1 (List.nodup_cons.1 hkeys).2).2,
      Fields.lookup_encode (List.nodup_cons.1 (List.nodup_cons.1 hnames).2).2]
  refine ⟨_, by simp only [Codec.toJson]; rfl,
    Dict.nodup_of_increasing (Json.sortFields_increasing _), hown "metadata" (by decide) (by decide),
    hown "spec" (by decide) (by decide), (hown "status" (by decide) (by decide)).trans ?_⟩
  cases hstatus : cr.status <;>
    simp [fields, Fields.writtenAt, Field.written, Field.required, Field.optional, hstatus]

/-- Whether the API server keeps a resource as a JSON value: the value is in key order, reads as the
resource, and has objects where the resource is written with objects. -/
structure Keeps (stored : Json) (cr : Resource σ ω) : Prop where
  ordered : stored.Ordered
  reads : kind.codec.ofJson? stored = some cr
  shaped : stored.follows (kind.codec.toJson cr) = true

/-- Whether an object keeps a resource part by part, with its metadata as a further object. -/
structure Parts (object named : List (String × Json)) (cr : Resource σ ω) : Prop where
  ordered : (Json.object object).Ordered
  found : Json.lookup "metadata" object = some (.object named)
  metadata : Metadata.codec.ofJson? (.object named) = some cr.metadata
  annotations : Json.followsAt (Json.lookup "annotations" named)
    (Metadata.annotationsField.written cr.metadata.annotations) = true
  spec : kind.specField.readAt (Json.lookup "spec" object) = some cr.spec
  specShaped : Json.followsAt (Json.lookup "spec" object) (kind.specField.written cr.spec) = true
  status : kind.statusField.readAt (Json.lookup "status" object) = some cr.status
  statusShaped : Json.followsAt (Json.lookup "status" object)
    (kind.statusField.written cr.status) = true

variable {kind}

/-- A stored resource is an object that keeps it part by part. -/
theorem Keeps.parts {stored : Json} {cr : Resource σ ω} (h : kind.Keeps stored cr) :
    ∃ object named, stored = .object object ∧ kind.Parts object named cr := by
  obtain ⟨written, hwritten, hkeys, hmetadata, hspec, hstatus⟩ := kind.lookup_toJson cr
  have hshaped := h.shaped
  rw [hwritten] at hshaped
  obtain ⟨object, rfl⟩ := Json.object_of_follows hshaped
  rw [Json.follows, Json.followsFields_iff hkeys] at hshaped
  obtain ⟨hmeta, hownSpec, hownStatus⟩ :=
    (kind.codec_ofJson?_iff h.ordered.nodup cr).1 h.reads
  have hmetaShaped := hshaped "metadata"
  have hspecShaped := hshaped "spec"
  have hstatusShaped := hshaped "status"
  rw [hmetadata] at hmetaShaped
  rw [hspec] at hspecShaped
  rw [hstatus] at hstatusShaped
  cases hfound : Json.lookup "metadata" object with
  | none =>
      rw [hfound] at hmeta
      simp [metadataField, Field.readAt, Field.required] at hmeta
  | some json =>
      rw [hfound] at hmeta hmetaShaped
      have hjson : json.follows (Metadata.codec.toJson cr.metadata) = true := hmetaShaped
      rw [Metadata.codec, Codec.keyedRecord_toJson] at hjson
      obtain ⟨named, rfl⟩ := Json.object_of_follows hjson
      rw [Json.follows,
        Json.followsFields_iff (Dict.nodup_of_increasing (Json.sortFields_increasing _))] at hjson
      have hannotations := hjson "annotations"
      rw [Fields.lookup_encode (by decide)] at hannotations
      refine ⟨object, named, rfl, h.ordered, hfound, hmeta, hannotations, hownSpec, hspecShaped,
        hownStatus, ?_⟩
      cases hown : cr.status with
      | none => exact Json.followsAt_null _
      | some status =>
          rw [hown] at hstatusShaped
          exact hstatusShaped

end Kind

/-! ## Values that come back -/

/-- Every specification and every status of a cluster or an instance is read back from the JSON
value that it is written as, with all that is nested in it. -/
theorem stored_values_read_back :
    (∀ spec : ClusterSpec, ClusterSpec.codec.ofJson? (ClusterSpec.codec.toJson spec) = some spec) ∧
    (∀ spec : InstanceSpec,
      InstanceSpec.codec.ofJson? (InstanceSpec.codec.toJson spec) = some spec) ∧
    (∀ status : ClusterStatus,
      ClusterStatus.codec.ofJson? (ClusterStatus.codec.toJson status) = some status) ∧
    ∀ status : InstanceStatus,
      InstanceStatus.codec.ofJson? (InstanceStatus.codec.toJson status) = some status :=
  ⟨ClusterSpec.mergeable.read, InstanceSpec.mergeable.read,
    (Status.mergeable ClusterObservation.mergeable).read,
    (Status.mergeable InstanceObservation.mergeable).read⟩

end FleetOperator
