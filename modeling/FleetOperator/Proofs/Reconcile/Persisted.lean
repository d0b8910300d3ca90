import FleetOperator.Operator.World
import FleetOperator.Proofs.Reconcile.History
import FleetOperator.Proofs.Resource.Stored

/-!
# What is stored after writing back

Which resource the API server holds once a pass was written back. Read `persisted_iff_covered`
first: it is the one that the pass made exactly if the patches cover those of the resource before,
and otherwise a pass that makes the same again sends the same patches again.
-/

namespace FleetOperator

variable {σ ω : Type}

/-- Whether the patches of a resource leave nothing behind of what those of an older one wrote. -/
def Resource.covers (kind : Kind σ ω) (cr old : Resource σ ω) : Bool :=
  (cr.mainPatch kind).covers (old.mainPatch kind) &&
    (cr.statusPatch kind).covers (old.statusPatch kind)

/-- Whether a stored value reads as a resource with the annotations, the specification and the
status of another one. -/
def Kind.Holds (kind : Kind σ ω) (stored : Json) (cr : Resource σ ω) : Prop :=
  ∃ held, kind.codec.ofJson? stored = some held ∧ held.annotations = cr.annotations ∧
    held.spec = cr.spec ∧ held.status = cr.status

/-- The object of a resource after requests of the operator with nothing in between. -/
def Kind.afterRequests (kind : Kind σ ω) (cr : Resource σ ω) (stored : Json)
    (exchanged : List (Exchange effects)) : Json :=
  replay (kind.path ++ "/" ++ cr.name) stored (exchanged.map (.answered · false))

/-! ## Parts that are patched where this is needed -/

section

variable {ρ α : Type} (needed : Prop) [Decidable needed]

/-- What a field writes covers itself. -/
theorem Field.coversAt_refl (field : Field ρ α) (value : α) :
    Json.coversAt (field.written value) (field.written value) = true := by
  unfold written
  split
  · rfl
  · simp [Json.coversAt, Json.covers_refl _ (field.codec.toJson_ordered value)]

/-- A field that is patched where this is needed reads as the new value exactly if that covers the
old one. -/
theorem Field.Mergeable.patched_iff {field : Field ρ α} (h : field.Mergeable)
    {stored : Option Json} {old value : α} (hordered : ∀ json, stored = some json → json.Ordered)
    (hread : field.readAt stored = some old)
    (hfollows : Json.followsAt stored (field.written old) = true) (hsame : ¬ needed → value = old) :
    field.readAt (Json.changed stored (if needed then field.written value else none)) =
        some value ↔
      Json.coversAt (field.written value) (field.written old) = true := by
  split
  · exact h.merges_iff value hordered hread hfollows
  · next hneeded =>
    obtain rfl := hsame hneeded
    exact iff_of_true hread (field.coversAt_refl value)

/-- Annotations that are patched where this is needed read as the new ones, where absent ones count
as none, exactly if these cover the old ones. -/
theorem Metadata.annotations_patched_iff {stored : Option Json} {old : Option (Dict String)}
    {annotations : Dict String} (hordered : ∀ json, stored = some json → json.Ordered)
    (hread : annotationsField.readAt stored = some old)
    (hfollows : Json.followsAt stored (annotationsField.written old) = true)
    (hsame : ¬ needed → annotations = old.getD .empty) :
    (∃ found, annotationsField.readAt (Json.changed stored
        (if needed then some ((Codec.dict .text).toJson annotations) else none)) = some found ∧
        found.getD .empty = annotations) ↔
      ((Codec.dict .text).toJson annotations).covers
        ((Codec.dict .text).toJson (old.getD .empty)) = true := by
  have hdict : (Codec.dict .text).Mergeable := by simp
  split
  · have hne := Json.mergePatch_ne_null (hdict.not_null annotations) (stored.getD .null)
    rw [Json.changed_some (hdict.not_null annotations)]
    -- What was patched is an object, so annotations are read there and not their absence.
    have hpresent : (∃ found, annotationsField.readAt (some ((stored.getD .null).mergePatch
        ((Codec.dict .text).toJson annotations))) = some found ∧
          found.getD .empty = annotations) ↔
        annotationsField.readAt (some ((stored.getD .null).mergePatch
          ((Codec.dict .text).toJson annotations))) = some (some annotations) := by
      constructor
      · rintro ⟨_ | found, hfound, hannotations⟩
        · exact absurd (Codec.optional_ofJson?_none.1 hfound) hne
        · have hsome : found = annotations := hannotations
          rw [hfound, hsome]
      · exact fun hfound ↦ ⟨_, hfound, rfl⟩
    rw [annotationsField, Field.written_optional] at hfollows
    rw [hpresent, Field.readAt_merged_iff hdict rfl rfl annotations hordered hread hfollows]
    cases old with
    | none => exact iff_of_true rfl (Codec.dict_isCovered annotations)
    | some own => rw [Option.map_some, Json.coversAt_present _ (hdict.not_null own)]; rfl
  · next hneeded =>
    obtain rfl := hsame hneeded
    exact iff_of_true ⟨old, hread, rfl⟩
      (Json.covers_refl _ ((Codec.dict .text).toJson_ordered _))

end

/-- An object that is patched where this is needed has each field changed by the change under its
key, where this is needed. -/
theorem Json.patched_where (needed : Prop) [Decidable needed]
    {fields : List (String × Json)} (h : (Json.object fields).Ordered)
    {changes : List (String × Json)} (hchanges : (Json.object changes).Ordered) :
    ∃ result, (if needed then [Json.object changes] else []).foldl Json.mergePatch
        (.object fields) = .object result ∧ (Json.object result).Ordered ∧
      ∀ key, Json.lookup key result = Json.changed (Json.lookup key fields)
        (if needed then Json.lookup key changes else none) := by
  split
  · exact ⟨_, rfl, h.mergePatch _ hchanges, Json.lookup_mergeFields hchanges.nodup fields⟩
  · exact ⟨fields, rfl, h, fun _ ↦ rfl⟩

/-! ## The whole resource -/

section

variable {kind : Kind σ ω} {before after : Resource σ ω}

/-- The patches of a resource cover those of an older one exactly if its annotations, its
specification and its status do. -/
theorem Resource.covers_iff (hspec : kind.spec.Lawful) :
    after.covers kind before = true ↔
      ((Codec.dict .text).toJson after.annotations).covers
          ((Codec.dict .text).toJson before.annotations) = true ∧
        Json.coversAt (kind.specField.written after.spec) (kind.specField.written before.spec) =
          true ∧
        Json.coversAt (kind.statusField.written after.status)
          (kind.statusField.written before.status) = true := by
  have hdict : (Codec.dict .text).Mergeable := by simp
  have hstatus : ∀ status, kind.statusField.written status =
      some ((Status.codec kind.observation).optional.toJson status) := fun _ ↦ rfl
  have hown : ∀ spec, kind.specField.written spec = some (kind.spec.toJson spec) := fun _ ↦ rfl
  rw [hown, hown, hstatus, hstatus]
  simp [covers, mainPatch, statusPatch, Json.covers, Json.coversFields, Json.lookup, Json.coversAt,
    hdict.not_null, hspec.not_null, and_assoc]

/-- The patches of a resource cover those of an older one exactly if it has all annotations that the
older one has, its specification covers the older one, and so does its observation where both have
one. -/
theorem Resource.covers_parts_iff (hspec : kind.spec.Lawful)
    (hobservation : kind.observation.Mergeable) :
    after.covers kind before = true ↔
      (∀ key, before.annotations.contains key → after.annotations.contains key) ∧
      (kind.spec.toJson after.spec).covers (kind.spec.toJson before.spec) = true ∧
      ∀ status old seen own, after.status = some status → before.status = some old →
        status.atProvider = some seen → old.atProvider = some own →
        (kind.observation.toJson seen).covers (kind.observation.toJson own) = true := by
  have hspecs : Json.coversAt (kind.specField.written after.spec)
      (kind.specField.written before.spec) =
        (kind.spec.toJson after.spec).covers (kind.spec.toJson before.spec) :=
    Json.coversAt_present _ (hspec.not_null _)
  have hstatus : ∀ status, kind.statusField.written status =
      some ((status.map (Status.codec kind.observation).toJson).getD .null) := by
    rintro (_ | status) <;> rfl
  rw [covers_iff hspec, Codec.text_dict_covers_iff, hspecs, hstatus, hstatus,
    (Status.mergeable hobservation).toLawful.coversAt_nullable_iff]
  simp only [Status.covers_iff hobservation.toLawful]
  refine and_congr_right fun _ ↦ and_congr_right fun _ ↦ ?_
  constructor
  · exact fun h status old seen own hafter hbefore ↦ h status old hafter hbefore seen own
  · exact fun h status old hafter hbefore seen own ↦ h status old seen own hafter hbefore

variable {object named : List (String × Json)}

/-- The metadata of a stored resource, patched by annotations where this is needed, have the new
annotations exactly if these cover the old ones. -/
theorem Kind.Parts.annotations_iff (h : kind.Parts object named before) {annotations : Dict String}
    (needed : Prop) [Decidable needed] (hsame : ¬ needed → annotations = before.annotations) :
    (∃ metadata, (metadataField : Field (Resource σ ω) Metadata).readAt
        (Json.changed (Json.lookup "metadata" object) (if needed then some
          (.object [("annotations", (Codec.dict .text).toJson annotations)]) else none)) =
          some metadata ∧ metadata.annotations.getD .empty = annotations) ↔
      ((Codec.dict .text).toJson annotations).covers
        ((Codec.dict .text).toJson before.annotations) = true := by
  have hnamed : (Json.object named).Ordered := Json.Ordered.of_lookup h.ordered.2 h.found
  have hpatch : (Json.object [("annotations", (Codec.dict .text).toJson annotations)]).Ordered :=
    ⟨by simp, Codec.toJson_ordered _ _, trivial⟩
  obtain ⟨result, hresult, hordered, hlookup⟩ := Json.patched_where needed hnamed hpatch
  have hchanged : Json.changed (Json.lookup "metadata" object) (if needed then some
      (.object [("annotations", (Codec.dict .text).toJson annotations)]) else none) =
        some (.object result) := by
    rw [h.found, ← hresult]
    split <;> rfl
  have hothers : ∀ key, key ≠ "annotations" → Json.lookup key result = Json.lookup key named := by
    intro key hkey
    simp [hlookup, Json.lookup, hkey.symm]
  have hfound : Json.lookup "annotations" result = Json.changed (Json.lookup "annotations" named)
      (if needed then some ((Codec.dict .text).toJson annotations) else none) :=
    hlookup "annotations"
  obtain ⟨hread, -⟩ := (Codec.keyedRecord_ofJson?_iff (by simp)
    (fun _ ↦ rfl) hnamed.nodup before.metadata).1 h.metadata
  rw [hchanged]
  refine (Metadata.reannotated_iff hnamed.nodup hordered.nodup h.metadata hothers
    annotations).trans ?_
  rw [hfound]
  exact Metadata.annotations_patched_iff needed
    (fun _ ↦ Json.Ordered.of_lookup hnamed.2) hread h.annotations hsame

variable [DecidableEq σ] [DecidableEq ω] {exchanged : List (Exchange effects)}

/-- The patches that are needed to write a pass back, as they are sent to the resource. -/
theorem patches_needed (kind : Kind σ ω) (before after : Resource σ ω) :
    ((neededPatches kind before after).filterMap fun request ↦
        (Effect.kube request).patch? (kind.path ++ "/" ++ after.name)) =
      (if before.annotations ≠ after.annotations ∨ before.spec ≠ after.spec then
        [after.mainPatch kind] else []) ++
      (if before.status ≠ after.status then [after.statusPatch kind] else []) := by
  rw [neededPatches, List.filterMap_append]
  congr 1
  · unfold neededMain
    split <;> simp [Resource.patchRequest, Effect.patch?]
  · unfold neededStatus
    split <;> simp [Resource.patchRequest, Effect.patch?]

/-- After writing back, each part of a stored resource is changed by what is written for it, where
this is needed. -/
theorem Kind.lookup_afterRequests (hordered : (Json.object object).Ordered)
    (hrun : Program.Runs (I := effects) (persist kind before after).run exchanged (.ok ())) :
    ∃ fields, kind.afterRequests after (.object object) exchanged = .object fields ∧
      (Json.object fields).Ordered ∧
      Json.lookup "metadata" fields = Json.changed (Json.lookup "metadata" object)
        (if before.annotations ≠ after.annotations ∨ before.spec ≠ after.spec then some
          (.object [("annotations", (Codec.dict .text).toJson after.annotations)]) else none) ∧
      Json.lookup "spec" fields = Json.changed (Json.lookup "spec" object)
        (if before.annotations ≠ after.annotations ∨ before.spec ≠ after.spec then
          kind.specField.written after.spec else none) ∧
      Json.lookup "status" fields = Json.changed (Json.lookup "status" object)
        (if before.status ≠ after.status then kind.statusField.written after.status else none) := by
  rw [afterRequests, replay_applied (persist_runs_ok hrun), patches_needed]
  obtain ⟨middle, hmiddle, hmiddleOrdered, hlookupMiddle⟩ := Json.patched_where
    (before.annotations ≠ after.annotations ∨ before.spec ≠ after.spec) hordered
    (after.mainPatch_ordered kind)
  obtain ⟨fields, hfields, hfieldsOrdered, hlookupFields⟩ := Json.patched_where
    (before.status ≠ after.status) hmiddleOrdered (after.statusPatch_ordered kind)
  refine ⟨fields, ?_, hfieldsOrdered, ?_, ?_, ?_⟩
  · rw [List.foldl_append]
    exact (congrArg (List.foldl Json.mergePatch · _) hmiddle).trans hfields
  · simp [hlookupFields, hlookupMiddle, Json.lookup]
  · simp [hlookupFields, hlookupMiddle, Json.lookup]
    rfl
  · simp [hlookupFields, hlookupMiddle, Json.lookup]
    rfl

/-- A resource whose pass was written back holds what the pass made exactly if the patches of the
pass cover those of the resource before. -/
theorem Kind.Keeps.holds_iff (hspec : kind.spec.Mergeable)
    (hobservation : kind.observation.Mergeable) {stored : Json} (h : kind.Keeps stored before)
    (hrun : Program.Runs (I := effects) (persist kind before after).run exchanged (.ok ())) :
    kind.Holds (kind.afterRequests after stored exchanged) after ↔
      after.covers kind before = true := by
  obtain ⟨object, named, rfl, hparts⟩ := h.parts
  obtain ⟨fields, hfields, hordered, hmetadata, hspecField, hstatusField⟩ :=
    lookup_afterRequests hparts.ordered hrun
  rw [Resource.covers_iff hspec.toLawful, hfields]
  have hlookup : ∀ key json, Json.lookup key object = some json → json.Ordered :=
    fun _ _ ↦ Json.Ordered.of_lookup hparts.ordered.2
  have hneeded : ¬ (before.annotations ≠ after.annotations ∨ before.spec ≠ after.spec) →
      before.annotations = after.annotations ∧ before.spec = after.spec := by
    simp
  -- Specification and status are patched as wholes, and of the metadata the annotations alone.
  have hownSpec := Field.Mergeable.patched_iff
    (before.annotations ≠ after.annotations ∨ before.spec ≠ after.spec)
    (Field.required_mergeable hspec "spec" Resource.spec) (hlookup "spec") hparts.spec
    hparts.specShaped fun hnot ↦ (hneeded hnot).2.symm
  have hownStatus := Field.Mergeable.patched_iff (before.status ≠ after.status)
    (Field.nullable_mergeable (Status.mergeable hobservation) "status" Resource.status)
    (hlookup "status") hparts.status hparts.statusShaped fun hnot ↦ (Decidable.not_not.1 hnot).symm
  have hownAnnotations := hparts.annotations_iff
    (before.annotations ≠ after.annotations ∨ before.spec ≠ after.spec)
    fun hnot ↦ (hneeded hnot).1.symm
  constructor
  · rintro ⟨held, hread, hannotations, hheldSpec, hheldStatus⟩
    obtain ⟨hheldMetadata, hreadSpec, hreadStatus⟩ :=
      (kind.codec_ofJson?_iff hordered.nodup held).1 hread
    rw [hspecField, hheldSpec] at hreadSpec
    rw [hstatusField, hheldStatus] at hreadStatus
    rw [hmetadata] at hheldMetadata
    exact ⟨hownAnnotations.1 ⟨_, hheldMetadata, hannotations⟩, hownSpec.1 hreadSpec,
      hownStatus.1 hreadStatus⟩
  · rintro ⟨hcovers, hcoversSpec, hcoversStatus⟩
    obtain ⟨metadata, hreadMetadata, hannotations⟩ := hownAnnotations.2 hcovers
    refine ⟨⟨metadata, after.spec, after.status⟩,
      (kind.codec_ofJson?_iff hordered.nodup _).2 ⟨?_, ?_, ?_⟩, hannotations, rfl, rfl⟩
    · rw [hmetadata]
      exact hreadMetadata
    · rw [hspecField]
      exact hownSpec.2 hcoversSpec
    · rw [hstatusField]
      exact hownStatus.2 hcoversStatus

/-- A resource has nothing to write back from a held one exactly if annotations, specification and
status are the same. -/
theorem neededPatches_eq_nil_iff {held again : Resource σ ω} :
    neededPatches kind held again = [] ↔ held.annotations = again.annotations ∧
      held.spec = again.spec ∧ held.status = again.status := by
  unfold neededPatches neededMain neededStatus
  rw [List.append_eq_nil_iff]
  simp [and_assoc]

/-- A pass that makes the same as one that was written back has nothing to write back exactly if the
patches of that one covered those of the resource before. -/
theorem Kind.Keeps.needs_nothing_iff (hspec : kind.spec.Mergeable)
    (hobservation : kind.observation.Mergeable) {stored : Json} (h : kind.Keeps stored before)
    (hrun : Program.Runs (I := effects) (persist kind before after).run exchanged (.ok ()))
    {held again : Resource σ ω}
    (hheld : kind.codec.ofJson? (kind.afterRequests after stored exchanged) = some held)
    (hannotations : again.annotations = after.annotations) (hsame : again.spec = after.spec)
    (hstatus : again.status = after.status) :
    neededPatches kind held again = [] ↔ after.covers kind before = true := by
  rw [neededPatches_eq_nil_iff, hannotations, hsame, hstatus, ← h.holds_iff hspec hobservation hrun]
  constructor
  · exact fun hparts ↦ ⟨held, hheld, hparts⟩
  · rintro ⟨other, hother, hparts⟩
    rw [hheld] at hother
    obtain rfl := Option.some.inj hother
    exact hparts

end

/-- Whatever a pass made of a stored resource, once that is written back the API server holds the
annotations, the specification and the status that the pass made exactly if the patches of what the
pass made cover those of the resource before. Then, and only then, a pass that makes the same again
has nothing to write back. -/
theorem persisted_iff_covered {stored : Json} {exchanged : List (Exchange effects)} :
    (∀ {before after : Cluster}, Kind.cluster.Keeps stored before →
      Program.Runs (I := effects) (persist Kind.cluster before after).run exchanged (.ok ()) →
      (Kind.cluster.Holds (Kind.cluster.afterRequests after stored exchanged) after ↔
          after.covers Kind.cluster before = true) ∧
        ∀ {held again : Cluster},
          Kind.cluster.codec.ofJson? (Kind.cluster.afterRequests after stored exchanged) =
            some held →
          again.annotations = after.annotations → again.spec = after.spec →
          again.status = after.status →
          (neededPatches Kind.cluster held again = [] ↔
            after.covers Kind.cluster before = true)) ∧
      ∀ {before after : Instance}, Kind.inst.Keeps stored before →
        Program.Runs (I := effects) (persist Kind.inst before after).run exchanged (.ok ()) →
        (Kind.inst.Holds (Kind.inst.afterRequests after stored exchanged) after ↔
            after.covers Kind.inst before = true) ∧
          ∀ {held again : Instance},
            Kind.inst.codec.ofJson? (Kind.inst.afterRequests after stored exchanged) = some held →
            again.annotations = after.annotations → again.spec = after.spec →
            again.status = after.status →
            (neededPatches Kind.inst held again = [] ↔ after.covers Kind.inst before = true) := by
  constructor
  · intro before after hkeeps hrun
    exact ⟨hkeeps.holds_iff ClusterSpec.mergeable ClusterObservation.mergeable hrun,
      fun hheld ↦ hkeeps.needs_nothing_iff ClusterSpec.mergeable ClusterObservation.mergeable hrun
        hheld⟩
  · intro before after hkeeps hrun
    exact ⟨hkeeps.holds_iff InstanceSpec.mergeable InstanceObservation.mergeable hrun,
      fun hheld ↦ hkeeps.needs_nothing_iff InstanceSpec.mergeable InstanceObservation.mergeable hrun
        hheld⟩

/-- The resource of a cluster that was seen with a health code and with a message or without. -/
def seenWith (code : Int32) (message : Option String) : Cluster where
  metadata := { name := some "prod", annotations := some (.ofList [(externalNameKey, "prod")]) }
  spec := { name := "prod" }
  status := some { atProvider := some {
    id := "c-1", name := "prod", healthStatus := { code, message } } }

/-- A world that holds a resource. -/
def holding (cr : Cluster) : World where
  kube := { objects := .ofList [(Kind.cluster.path ++ "/prod", Kind.cluster.codec.toJson cr)] }

/-- The exchanges by which a change of a resource is written back in the world that holds it. -/
def persisting (before after : Cluster) : List (Exchange effects) :=
  (persist Kind.cluster before after).run.exchanges World.answer (holding before)

/-- Where a message is gone, it stays in the stored status, and the status is to be written again.
Where one is new, it is stored. -/
theorem persisted_iff_covered_degraded :
    let degraded := seenWith 2 (some "degraded")
    let healthy := seenWith 1 none
    ¬ Kind.cluster.Holds (Kind.cluster.afterRequests healthy (Kind.cluster.codec.toJson degraded)
        (persisting degraded healthy)) healthy ∧
      (∃ held, Kind.cluster.codec.ofJson? (Kind.cluster.afterRequests healthy
          (Kind.cluster.codec.toJson degraded) (persisting degraded healthy)) = some held ∧
        neededPatches Kind.cluster held healthy ≠ []) ∧
      Kind.cluster.Holds (Kind.cluster.afterRequests degraded (Kind.cluster.codec.toJson healthy)
        (persisting healthy degraded)) degraded := by
  intro degraded healthy
  have hdegraded : Kind.cluster.Keeps (Kind.cluster.codec.toJson degraded) degraded :=
    ⟨Codec.toJson_ordered _ _, by decide +kernel, by decide +kernel⟩
  have hhealthy : Kind.cluster.Keeps (Kind.cluster.codec.toJson healthy) healthy :=
    ⟨Codec.toJson_ordered _ _, by decide +kernel, by decide +kernel⟩
  have hrun : ∀ before after : Cluster,
      ((persist Kind.cluster before after).run.run World.answer (holding before)).1 = .ok () →
      Program.Runs (I := effects) (persist Kind.cluster before after).run
        (persisting before after) (.ok ()) := by
    intro before after hok
    rw [← hok]
    exact Program.runs_exchanges World.answer _ _
  obtain ⟨hholds, hneeded⟩ := persisted_iff_covered.1 hdegraded
    (hrun degraded healthy (by decide +kernel))
  have hleft : ¬ healthy.covers Kind.cluster degraded = true := by decide +kernel
  have hread : (Kind.cluster.codec.ofJson? (Kind.cluster.afterRequests healthy
      (Kind.cluster.codec.toJson degraded) (persisting degraded healthy))).isSome = true := by
    decide +kernel
  obtain ⟨held, hheld⟩ := Option.isSome_iff_exists.1 hread
  refine ⟨mt hholds.1 hleft, ⟨held, hheld, mt (hneeded hheld rfl rfl rfl).1 hleft⟩, ?_⟩
  exact (persisted_iff_covered.1 hhealthy (hrun healthy degraded (by decide +kernel))).1.2
    (by decide +kernel)

end FleetOperator
