import FleetOperator.Proofs.Codec.Merge

/-!
# Fields written by merge patches

Which fields of records can be merged over stored ones, one theorem for each kind of field. Read
`Field.optional_mergeable` and `Field.nullable_mergeable` together: an absent value that is not
written leaves behind what is stored, and one that is written as null does not. A default must be
covered by every value, since it is what a missing field stands for: `Codec.IsCovered`. The laws of
both are for the simplifier, so that those of a record follow from those of its fields.
-/

namespace FleetOperator

variable {ρ α : Type} {c : Codec α}

/-- An optional value is read from anything but null exactly if a value is. -/
theorem Codec.optional_ofJson?_some {json : Json} (h : json ≠ .null) (value : α) :
    c.optional.ofJson? json = some (some value) ↔ c.ofJson? json = some value := by
  have hnull : Source.isNull? (.json json) = some false := by
    simpa [Source.isNull?] using h
  simp [ofJson?, optional, hnull]

/-- Only null is read as an absent value. -/
theorem Codec.optional_ofJson?_none {json : Json} :
    c.optional.ofJson? json = some none ↔ json = .null := by
  by_cases h : json = .null
  · subst h
    exact iff_of_true rfl rfl
  · have hnull : Source.isNull? (.json json) = some false := by
      simpa [Source.isNull?] using h
    simp [ofJson?, optional, hnull, h]

/-! ## Values that every value covers -/

/-- Whether every value, written over a value, leaves nothing of that one behind. -/
def Codec.IsCovered (c : Codec α) (value : α) : Prop :=
  ∀ own, (c.toJson own).covers (c.toJson value) = true

/-- Whether every value of a field, written over a value, leaves nothing of that one behind. -/
def Field.IsCovered (field : Field ρ α) (value : α) : Prop :=
  ∀ own, Json.coversAt (field.written own) (field.written value) = true

/-- Whether every record, written over a record, leaves no field of that one behind. -/
@[simp] def Fields.IsCovered {f : Type} : Fields ρ f → ρ → Prop
  | done, _ => True
  | next field rest, record => field.IsCovered (field.get record) ∧ rest.IsCovered record

namespace Codec

/-- What is written as no object is covered by every value. -/
theorem isCovered_of_atomic {value : α} (h : ∀ fields, c.toJson value ≠ .object fields) :
    c.IsCovered value :=
  fun _ ↦ Json.covers_not_object _ h

@[simp] theorem text_isCovered (value : String) : text.IsCovered value :=
  isCovered_of_atomic (by simp)

@[simp] theorem flag_isCovered (value : Bool) : flag.IsCovered value :=
  isCovered_of_atomic (by simp)

@[simp] theorem int32_isCovered (value : Int32) : int32.IsCovered value :=
  isCovered_of_atomic (by simp)

@[simp] theorem uint32_isCovered (value : UInt32) : uint32.IsCovered value :=
  isCovered_of_atomic (by simp)

@[simp] theorem list_isCovered (value : List α) : c.list.IsCovered value :=
  isCovered_of_atomic (by simp)

/-- Every dictionary covers the empty one. -/
@[simp] theorem dict_isCovered : c.dict.IsCovered .empty := by
  intro own
  rw [dict_toJson, dict_toJson]
  rfl

/-- A description does not matter for covering. -/
theorem described_isCovered {description : String} {value : α} (h : c.IsCovered value) :
    (c.described description).IsCovered value := h

/-- A record is covered by every one if its fields are. -/
theorem record_isCovered {f : Type} {make : f} {fields : Fields ρ f} {record : ρ}
    (hnames : fields.names.Nodup) (h : fields.IsCovered record) :
    (Codec.record make fields).IsCovered record := by
  intro own
  rw [record_covers_iff hnames]
  clear hnames make
  induction fields with
  | done => trivial
  | next field rest ih => exact ⟨h.1 _, ih h.2⟩

end Codec

namespace Field

section

variable (name : String)

@[simp] theorem required_get (get : ρ → α) : (required name get c).get = get := rfl

@[simp] theorem defaulted_get (get : ρ → α) (value : α) : (defaulted name get c value).get = get :=
  rfl

@[simp] theorem optional_get (get : ρ → Option α) : (optional name get c).get = get := rfl

@[simp] theorem nullable_get (get : ρ → Option α) : (nullable name get c).get = get := rfl

@[simp] theorem list_get (get : ρ → List α) : (list name get c).get = get := rfl

@[simp] theorem dict_get (get : ρ → Dict α) : (dict name get c).get = get := rfl

@[simp] theorem described_get (field : Field ρ α) (description : String) :
    (field.described description).get = field.get := rfl

end

/-- A description does not matter for merging. -/
@[simp] theorem described_mergeable_iff (field : Field ρ α) (description : String) :
    (field.described description).Mergeable ↔ field.Mergeable :=
  ⟨fun h ↦ ⟨h.lawful, h.fresh, h.merges_iff⟩, fun h ↦ ⟨h.lawful, h.fresh, h.merges_iff⟩⟩

@[simp] theorem required_isCovered {value : α} (h : c.IsCovered value) (name : String)
    (get : ρ → α) : (required name get c).IsCovered value :=
  fun own ↦ by simp [Json.coversAt, required, written, h own]

@[simp] theorem defaulted_isCovered {value : α} (h : c.IsCovered value) (name : String)
    (get : ρ → α) (own : α) : (defaulted name get c own).IsCovered value :=
  fun own ↦ by simp [Json.coversAt, defaulted, written, h own]

@[simp] theorem optional_isCovered (name : String) (get : ρ → Option α) :
    (optional name get c).IsCovered none :=
  fun _ ↦ rfl

@[simp] theorem list_isCovered_nil (name : String) (get : ρ → List α) :
    (list name get c).IsCovered [] :=
  fun _ ↦ rfl

@[simp] theorem dict_isCovered_empty (name : String) (get : ρ → Dict α) :
    (dict name get c).IsCovered .empty :=
  fun _ ↦ rfl

@[simp] theorem described_isCovered_iff (field : Field ρ α) (description : String) (value : α) :
    (field.described description).IsCovered value ↔ field.IsCovered value :=
  Iff.rfl

/-- A field that is always written can be merged if its codec can, and if the value that a missing
field stands for is covered by every one. -/
theorem mergeable_of_written {field : Field ρ α} (h : field.codec.Mergeable)
    (homits : ∀ value, field.omits value = false)
    (hmissing : ∀ old, field.missing = some old → field.codec.IsCovered old) :
    field.Mergeable := by
  have hwritten : ∀ value, field.written value = some (field.codec.toJson value) := fun value ↦ by
    rw [written, homits value]
    rfl
  refine ⟨fun value ↦ ?_, fun value ↦ ?_, ?_⟩
  · rw [homits value]
    exact h.read value
  · rw [hwritten, Json.changed_some (h.not_null value)]
    exact h.fresh value
  · intro stored old value hordered hread hfollows
    rw [hwritten] at hfollows
    rw [hwritten, hwritten, Json.changed_some (h.not_null value),
      Json.coversAt_present _ (h.not_null old)]
    cases stored with
    | none => exact iff_of_true (h.fresh value) (hmissing old hread value)
    | some json => exact h.merges_iff value (hordered json rfl) hread hfollows

/-- A field that must be given can be merged if its codec can. -/
@[simp] theorem required_mergeable (h : c.Mergeable) (name : String) (get : ρ → α) :
    (required name get c).Mergeable :=
  mergeable_of_written h (fun _ ↦ rfl) (by simp [required])

/-- A field with a default can be merged if its codec can, and if every value covers the default. -/
@[simp] theorem defaulted_mergeable (h : c.Mergeable) {value : α} (hdefault : c.IsCovered value)
    (name : String) (get : ρ → α) : (defaulted name get c value).Mergeable :=
  mergeable_of_written h (fun _ ↦ rfl) (by simpa [defaulted] using hdefault)

/-- A field that is not written when it is empty can be merged if its codec can. What is left of an
older value then stays. -/
theorem mergeable_of_skipped {field : Field ρ α} (empty : α) (h : field.codec.Mergeable)
    (hmissing : field.missing = some empty)
    (homits : ∀ value, field.omits value = true ↔ value = empty)
    (hcovers : field.codec.IsCovered empty)
    (hfollows : ∀ json, field.codec.ofJson? json = some empty →
      json.follows (field.codec.toJson empty) = true) : field.Mergeable := by
  have hskipped : field.written empty = none := by
    rw [written, (homits empty).2 rfl]
    rfl
  have hwritten : ∀ value, value ≠ empty → field.written value = some (field.codec.toJson value) :=
    fun value hvalue ↦ by rw [written, if_neg (mt (homits value).1 hvalue)]
  refine ⟨fun value ↦ ?_, fun value ↦ ?_, ?_⟩
  · split
    · next hempty => rw [hmissing, (homits value).1 hempty]
    · exact h.read value
  · by_cases hvalue : value = empty
    · subst hvalue
      rw [hskipped]
      exact hmissing
    · rw [hwritten value hvalue, Json.changed_some (h.not_null value)]
      exact h.fresh value
  · intro stored old value hordered hread hshape
    by_cases hvalue : value = empty
    · -- Nothing is written, so what is stored stays, and nothing may be there.
      subst hvalue
      rw [hskipped, Json.changed, hread]
      by_cases hold : old = value
      · subst hold
        rw [hskipped]
        exact iff_of_true rfl rfl
      · rw [hwritten old hold, Json.coversAt_absent (h.not_null old)]
        simpa using hold
    · rw [hwritten value hvalue, Json.changed_some (h.not_null value)]
      have hpresent : Json.coversAt (some (field.codec.toJson value)) (field.written old) = true ↔
          (field.codec.toJson value).covers (field.codec.toJson old) = true := by
        by_cases hold : old = empty
        · subst hold
          rw [hskipped]
          exact iff_of_true rfl (hcovers value)
        · rw [hwritten old hold, Json.coversAt_present _ (h.not_null old)]
      rw [hpresent]
      cases stored with
      | none =>
          obtain rfl : empty = old := Option.some.inj (hmissing.symm.trans hread)
          exact iff_of_true (h.fresh value) (hcovers value)
      | some json =>
          refine h.merges_iff value (hordered json rfl) hread ?_
          by_cases hold : old = empty
          · subst hold
            exact hfollows json hread
          · rw [hwritten old hold] at hshape
            exact hshape

/-- A list that is not written when it is empty can be merged if its codec can. -/
@[simp] theorem list_mergeable (h : c.Mergeable) (name : String) (get : ρ → List α) :
    (list name get c).Mergeable := by
  refine mergeable_of_skipped [] (Codec.list_mergeable h) rfl (by simp [list])
    (Codec.list_isCovered _) fun json _ ↦ ?_
  rw [list, Codec.list_toJson, Json.follows]
  exact fun _ ↦ Json.noConfusion

/-- A dictionary that is not written when it is empty can be merged if its codec can. -/
@[simp] theorem dict_mergeable (h : c.Mergeable) (name : String) (get : ρ → Dict α) :
    (dict name get c).Mergeable := by
  refine mergeable_of_skipped .empty (Codec.dict_mergeable h) rfl
    (fun _ ↦ Dict.isEmpty_iff) Codec.dict_isCovered fun json hread ↦ ?_
  -- Only an object is read as a dictionary.
  cases json with
  | object fields => rfl
  | _ => simp [dict, Codec.ofJson?, Codec.dict, Source.fields?] at hread

/-! ## Optional values -/

section

variable {field : Field ρ (Option α)} (h : c.Mergeable) (hcodec : field.codec = c.optional)
include h hcodec

/-- Over nothing a value of an optional field reads back. -/
theorem readAt_fresh (value : α) :
    field.readAt (some (Json.null.mergePatch (c.toJson value))) = some (some value) := by
  rw [readAt, hcodec, Codec.optional_ofJson?_some (Json.mergePatch_ne_null (h.not_null value) _)]
  exact h.fresh value

/-- A value that is merged over what is stored for an optional field reads back exactly if it covers
the stored value, if there is one. -/
theorem readAt_merged_iff (hmissing : field.missing = some none) {stored : Option Json}
    {old : Option α} (value : α)
    (hordered : ∀ json, stored = some json → json.Ordered) (hread : field.readAt stored = some old)
    (hfollows : Json.followsAt stored (old.map c.toJson) = true) :
    field.readAt (some ((stored.getD .null).mergePatch (c.toJson value))) = some (some value) ↔
      Json.coversAt (some (c.toJson value)) (old.map c.toJson) = true := by
  cases old with
  | none =>
      have hnull : stored.getD .null = .null := by
        cases stored with
        | none => rfl
        | some json =>
            rw [readAt, hcodec] at hread
            exact Codec.optional_ofJson?_none.1 hread
      rw [hnull]
      exact iff_of_true (readAt_fresh h hcodec value) rfl
  | some own =>
      cases stored with
      | none => simp [readAt, hmissing] at hread
      | some json =>
          rw [readAt, hcodec] at hread
          have hjson : json ≠ .null := by
            rintro rfl
            simp [Codec.optional_ofJson?_none.2 rfl] at hread
          rw [Codec.optional_ofJson?_some hjson] at hread
          rw [readAt, hcodec,
            Codec.optional_ofJson?_some (Json.mergePatch_ne_null (h.not_null value) _),
            Option.map_some, Json.coversAt_present _ (h.not_null own)]
          exact h.merges_iff value (hordered json rfl) hread hfollows

end

@[simp] theorem written_described (field : Field ρ α) (description : String) (value : α) :
    (field.described description).written value = field.written value := rfl

/-- A field that must be given covers an older value as its codec does. -/
theorem coversAt_required_iff (h : c.Lawful) (name : String) (get : ρ → α) (value old : α) :
    Json.coversAt ((required name get c).written value) ((required name get c).written old) =
        true ↔
      (c.toJson value).covers (c.toJson old) = true := by
  simp [written, required, h.not_null old]

/-- A field with a default covers an older value as its codec does. -/
theorem coversAt_defaulted_iff (h : c.Lawful) (name : String) (get : ρ → α)
    (default value old : α) :
    Json.coversAt ((defaulted name get c default).written value)
        ((defaulted name get c default).written old) = true ↔
      (c.toJson value).covers (c.toJson old) = true := by
  simp [written, defaulted, h.not_null old]

@[simp] theorem written_optional (name : String) (get : ρ → Option α) (value : Option α) :
    (optional name get c).written value = value.map c.toJson := by
  cases value <;> rfl

@[simp] theorem written_nullable (name : String) (get : ρ → Option α) (value : Option α) :
    (nullable name get c).written value = some ((value.map c.toJson).getD .null) := by
  cases value <;> rfl

/-- An optional field that is not written when it is absent can be merged if its codec can. What is
left of an older value then stays. -/
@[simp] theorem optional_mergeable (h : c.Mergeable) (name : String) (get : ρ → Option α) :
    (optional name get c).Mergeable where
  lawful := optional_lawful h.toLawful name get
  fresh value := by
    rw [written_optional]
    cases value with
    | none => rfl
    | some value =>
        rw [Option.map_some, Json.changed_some (h.not_null value)]
        exact readAt_fresh h rfl value
  merges_iff := by
    intro stored old value hordered hread hfollows
    rw [written_optional] at hfollows
    rw [written_optional, written_optional]
    cases value with
    | none =>
        rw [Option.map_none, Json.changed, hread]
        cases old with
        | none => exact iff_of_true rfl rfl
        | some own => simp [h.not_null own]
    | some value =>
        rw [Option.map_some, Json.changed_some (h.not_null value)]
        exact readAt_merged_iff h rfl rfl value hordered hread hfollows

/-- An optional field that is written as null when it is absent can be merged if its codec can. An
absent value leaves nothing behind. -/
@[simp] theorem nullable_mergeable (h : c.Mergeable) (name : String) (get : ρ → Option α) :
    (nullable name get c).Mergeable where
  lawful value := Codec.optional_read h.toLawful value
  fresh value := by
    rw [written_nullable]
    cases value with
    | none => rfl
    | some value =>
        rw [Option.map_some, Option.getD_some, Json.changed_some (h.not_null value)]
        exact readAt_fresh h rfl value
  merges_iff := by
    intro stored old value hordered hread hfollows
    rw [written_nullable] at hfollows
    rw [written_nullable, written_nullable]
    cases value with
    | none => exact iff_of_true rfl (Json.coversAt_null _)
    | some value =>
        rw [Option.map_some, Option.getD_some, Json.changed_some (h.not_null value)]
        have hold : Json.coversAt (some (c.toJson value)) (some ((old.map c.toJson).getD .null)) =
            Json.coversAt (some (c.toJson value)) (old.map c.toJson) := by
          cases old <;> rfl
        rw [hold]
        refine readAt_merged_iff h rfl rfl value hordered hread ?_
        cases old with
        | none => rfl
        | some own => exact hfollows

end Field

end FleetOperator
