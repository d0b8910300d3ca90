import FleetOperator.Proofs.ArgoCD.Mergeable
import FleetOperator.Resource.Kind

/-!
# Custom resources written by merge patches

The specifications and the statuses of both kinds can be merged over stored ones. What they cover
differs: read `ObservedStatus.covers_iff` and `Status.covers_iff` together. A status without an
observation leaves none behind, since it is written as null, but an observation without a message
leaves an older one behind, since it is not written.
-/

namespace FleetOperator

open Codec

@[simp] theorem NameRef.mergeable : NameRef.codec.Mergeable :=
  record_mergeable ⟨by decide, by simp, fun _ ↦ rfl, by simp⟩

@[simp] theorem SecretRef.mergeable : SecretRef.codec.Mergeable :=
  record_mergeable ⟨by decide, by simp, fun _ ↦ rfl, by simp⟩

@[simp] theorem ObservedStatus.mergeable : ObservedStatus.codec.Mergeable :=
  described_mergeable (record_mergeable ⟨by decide, by simp, fun _ ↦ rfl, by simp⟩)

@[simp] theorem ObservedStatus.isCovered : ObservedStatus.codec.IsCovered {} :=
  described_isCovered (record_isCovered (by decide) (by simp))

@[simp] theorem Condition.mergeable : Condition.codec.Mergeable :=
  record_mergeable ⟨by decide, by simp, fun _ ↦ rfl, by simp⟩

/-- A status can be merged over a stored one if the observation can. -/
@[simp] theorem Status.mergeable {ω : Type} {observation : Codec ω} (h : observation.Mergeable) :
    (Status.codec observation).Mergeable :=
  record_mergeable
    ⟨(by decide : ["atProvider", "conditions"].Nodup), by simp, fun _ ↦ rfl, by simp [h]⟩

/-! ## What a status covers -/

/-- A value that is not written when it is absent covers an older one exactly if it is there where
the older one is, and covers that one. -/
theorem Codec.Lawful.coversAt_iff {α : Type} {c : Codec α} (h : c.Lawful) (value old : Option α) :
    Json.coversAt (value.map c.toJson) (old.map c.toJson) = true ↔
      ∀ own, old = some own → ∃ new, value = some new ∧
        (c.toJson new).covers (c.toJson own) = true := by
  cases old with
  | none => simp
  | some own => cases value <;> simp [h.not_null own]

/-- A value that is written as null when it is absent covers an older one exactly if it does where
both are there. -/
theorem Codec.Lawful.coversAt_nullable_iff {α : Type} {c : Codec α} (h : c.Lawful)
    (value old : Option α) :
    Json.coversAt (some ((value.map c.toJson).getD .null)) (some ((old.map c.toJson).getD .null)) =
        true ↔
      ∀ new own, value = some new → old = some own →
        (c.toJson new).covers (c.toJson own) = true := by
  cases value with
  | none => simp
  | some new => cases old <;> simp [h.not_null]

/-- A dictionary of texts covers an older one exactly if it has all of its keys. -/
theorem Codec.text_dict_covers_iff (dict old : Dict String) :
    ((Codec.dict .text).toJson dict).covers ((Codec.dict .text).toJson old) = true ↔
      ∀ key, old.contains key → dict.contains key := by
  rw [dict_covers_iff]
  refine forall_congr' fun key ↦ ?_
  rw [text_lawful.coversAt_iff]
  simp [Dict.contains, Option.isSome_iff_exists, Json.covers]

/-- A status code covers an older one exactly if it has a message where the older one has one. -/
theorem ObservedStatus.covers_iff (seen old : ObservedStatus) :
    (codec.toJson seen).covers (codec.toJson old) = true ↔
      (old.message.isSome → seen.message.isSome) := by
  have hcode := Field.defaulted_isCovered (int32_isCovered old.code) "code" ObservedStatus.code 0
    seen.code
  rw [codec, described_toJson, described_toJson, record_covers_iff (by decide)]
  simp only [Fields.Covers, Field.written_optional, text_lawful.coversAt_iff, and_true]
  refine (and_iff_right hcode).trans ?_
  simp [Option.isSome_iff_exists, Json.covers]

/-- A status covers an older one exactly if its observation covers the older one, where there are
both. -/
theorem Status.covers_iff {ω : Type} {observation : Codec ω} (h : observation.Lawful)
    (status old : Status ω) :
    ((Status.codec observation).toJson status).covers ((Status.codec observation).toJson old) =
        true ↔
      ∀ seen own, status.atProvider = some seen → old.atProvider = some own →
        (observation.toJson seen).covers (observation.toJson own) = true := by
  refine (record_covers_iff ?_ status old).trans ?_
  · exact (by decide : ["atProvider", "conditions"].Nodup)
  have hconditions : (Condition.codec.list).Lawful := list_lawful Condition.mergeable.toLawful
  simp only [Fields.Covers, Field.written_nullable, h.coversAt_nullable_iff,
    hconditions.coversAt_nullable_iff, and_true]
  refine and_iff_left fun new own _ _ ↦ ?_
  rw [list_toJson, list_toJson]
  rfl

/-! ## Clusters -/

@[simp] theorem ClusterSize.mergeable : ClusterSize.codec.Mergeable :=
  choice_mergeable (by rintro (_ | _ | _) <;> rfl)

@[simp] theorem ClusterData.mergeable : ClusterData.codec.Mergeable :=
  record_mergeable ⟨by decide, by simp, fun _ ↦ rfl, by simp⟩

@[simp] theorem ClusterData.isCovered : ClusterData.codec.IsCovered {} :=
  record_isCovered (by decide) (by simp)

@[simp] theorem ClusterProperties.mergeable : ClusterProperties.codec.Mergeable :=
  record_mergeable ⟨by decide, by simp, fun _ ↦ rfl, by simp⟩

@[simp] theorem ClusterProperties.isCovered : ClusterProperties.codec.IsCovered {} :=
  record_isCovered (by decide) (by simp)

/-- Specifications of clusters can be merged over stored ones. -/
theorem ClusterSpec.mergeable : ClusterSpec.codec.Mergeable :=
  record_mergeable ⟨by decide, by simp, fun _ ↦ rfl, by simp⟩

@[simp] theorem AgentObservation.mergeable : AgentObservation.codec.Mergeable :=
  record_mergeable ⟨by decide, by simp, fun _ ↦ rfl, by simp⟩

@[simp] theorem AgentObservation.isCovered : AgentObservation.codec.IsCovered {} :=
  record_isCovered (by decide) (by simp)

/-- Observations of clusters can be merged over stored ones. -/
theorem ClusterObservation.mergeable : ClusterObservation.codec.Mergeable :=
  record_mergeable ⟨by decide, by simp, fun _ ↦ rfl, by simp⟩

/-- What was seen of an agent covers what was seen before exactly if it has the status of each part
that was seen before, and a message where that had one. -/
theorem AgentObservation.covers_iff (seen old : AgentObservation) :
    (codec.toJson seen).covers (codec.toJson old) = true ↔
      ∀ part own, old.statuses.get? part = some own → ∃ new, seen.statuses.get? part = some new ∧
        (own.message.isSome → new.message.isSome) := by
  refine (record_covers_iff (by decide) seen old).trans ?_
  simp only [Fields.Covers, Field.coversAt_defaulted_iff text_lawful, dict_covers_iff,
    Field.coversAt_defaulted_iff (dict_lawful ObservedStatus.mergeable.toLawful),
    ObservedStatus.mergeable.toLawful.coversAt_iff, ObservedStatus.covers_iff, and_true]
  simp [Json.covers]

/-- What was seen of a cluster covers what was seen before exactly if it has each label and each
annotation that was seen before, covers what was seen of the agent, and has the messages of both
status codes where they had one. -/
theorem ClusterObservation.covers_iff (seen old : ClusterObservation) :
    (codec.toJson seen).covers (codec.toJson old) = true ↔
      (∀ key, old.labels.contains key → seen.labels.contains key) ∧
      (∀ key, old.annotations.contains key → seen.annotations.contains key) ∧
      (∀ part own, old.agentState.statuses.get? part = some own →
        ∃ new, seen.agentState.statuses.get? part = some new ∧
          (own.message.isSome → new.message.isSome)) ∧
      (old.healthStatus.message.isSome → seen.healthStatus.message.isSome) ∧
      (old.reconciliationStatus.message.isSome → seen.reconciliationStatus.message.isSome) := by
  refine (record_covers_iff (by decide) seen old).trans ?_
  simp only [Fields.Covers, Field.written_described, Field.coversAt_required_iff text_lawful,
    Field.coversAt_defaulted_iff text_lawful, Field.coversAt_defaulted_iff flag_lawful,
    Field.coversAt_defaulted_iff (dict_lawful text_lawful), text_dict_covers_iff,
    Field.coversAt_defaulted_iff AgentObservation.mergeable.toLawful, AgentObservation.covers_iff,
    Field.coversAt_defaulted_iff ObservedStatus.mergeable.toLawful, ObservedStatus.covers_iff,
    and_true]
  simp [Json.covers]

/-! ## Instances -/

/-- Specifications of instances can be merged over stored ones. -/
theorem InstanceSpec.mergeable : InstanceSpec.codec.Mergeable :=
  record_mergeable ⟨by decide, by simp, fun _ ↦ rfl, by simp⟩

/-- Observations of instances can be merged over stored ones. -/
theorem InstanceObservation.mergeable : InstanceObservation.codec.Mergeable :=
  record_mergeable ⟨by decide, by simp, fun _ ↦ rfl, by simp⟩

end FleetOperator
