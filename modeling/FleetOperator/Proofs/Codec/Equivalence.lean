import FleetOperator.Drift.Basic
import FleetOperator.Proofs.Json.Comparison

/-!
# Equivalence of written values

When two typed values are equivalent once they are written as JSON. Read `record_equivalent_iff`
first: two records are equivalent exactly when they are field by field, where a field that is not
written counts as null. From there on a comparison of specifications is a list of comparisons of
their fields, and an optional text, flag or dictionary that is absent counts as an empty one.
-/

namespace FleetOperator

variable {ρ α f : Type}

namespace Codec

/-- The written form of a value is ordered. -/
theorem toJson_ordered (c : Codec α) (value : α) : (c.toJson value).Ordered :=
  Json.sorted_ordered _

/-- A value is equivalent to itself. -/
@[simp] theorem equivalent_refl (c : Codec α) (value : α) : c.equivalent value value = true :=
  Json.equal_refl _ (c.toJson_ordered value)

/-- Two values are equivalent exactly if a comparison that may break off finds them so. -/
theorem equivalent?_eq_ok_true_iff (c : Codec α) (a b : α) :
    c.equivalent? a b = .ok true ↔ c.equivalent a b = true :=
  Json.equal?_eq_ok_true_iff

@[simp] theorem optional_toJson_none (c : Codec α) : c.optional.toJson none = .null := by
  simp [toJson, optional, Json.sorted]

@[simp] theorem optional_toJson_some (c : Codec α) (value : α) :
    c.optional.toJson (some value) = c.toJson value := rfl

@[simp] theorem text_toJson (value : String) : text.toJson value = .text value := by
  simp [toJson, text, Json.sorted]

@[simp] theorem flag_toJson (value : Bool) : flag.toJson value = .bool value := by
  simp [toJson, flag, Json.sorted]

end Codec

/-- The field of a record as a JSON value, null when it is not written. -/
def Field.json (field : Field ρ α) (record : ρ) : Json :=
  if field.omits (field.get record) then .null else field.codec.toJson (field.get record)

namespace Fields

/-- The field of a record with a name as a JSON value, null when it is not written. -/
def jsonAt (key : String) {f : Type} : Fields ρ f → ρ → Json
  | done, _ => .null
  | next field rest, record => if field.name = key then field.json record else rest.jsonAt key record

/-- Whether two records are equivalent field by field. -/
def Agree {f : Type} : Fields ρ f → ρ → ρ → Prop
  | done, _, _ => True
  | next field rest, a, b => Json.equal (field.json a) (field.json b) = true ∧ rest.Agree a b

/-- The written fields of a record have names of its fields, in their order. -/
theorem encode_keys_sublist {f : Type} (fields : Fields ρ f) (record : ρ) :
    ((fields.encode record).map (·.1)).Sublist fields.names := by
  induction fields with
  | done => exact List.Sublist.refl _
  | next field rest ih =>
      simp only [encode, Field.encode, names, List.map_append]
      split
      · exact ih.cons field.name
      · exact ih.cons_cons field.name

/-- A field with a name is written as its JSON value, if no name is repeated. -/
theorem field_encode {f : Type} {fields : Fields ρ f} (hnames : fields.names.Nodup) (record : ρ)
    (key : String) :
    ((Json.lookup key (fields.encode record)).map Json.sorted).getD .null =
      fields.jsonAt key record := by
  induction fields with
  | done => rfl
  | next field rest ih =>
      obtain ⟨hfresh, hrest⟩ := List.nodup_cons.1 hnames
      have hmissing : Json.lookup field.name (rest.encode record) = none := by
        rw [Json.lookup_eq_find, Dict.find_eq_none_iff]
        exact fun hmem ↦ hfresh ((rest.encode_keys_sublist record).subset hmem)
      by_cases hkey : field.name = key
      · subst hkey
        simp only [encode, Field.encode, jsonAt, Field.json, if_pos]
        split
        · simp [hmissing]
        · simp [Json.lookup, Codec.toJson]
      · rw [jsonAt, if_neg hkey, ← ih hrest]
        simp only [encode, Field.encode]
        split
        · rfl
        · simp [Json.lookup, hkey]

/-- Records agree exactly if they are equivalent under every name, if no name is repeated. -/
theorem agree_iff {f : Type} {fields : Fields ρ f} (hnames : fields.names.Nodup) (a b : ρ) :
    fields.Agree a b ↔
      ∀ key, Json.equal (fields.jsonAt key a) (fields.jsonAt key b) = true := by
  induction fields with
  | done => simp [Agree, jsonAt, Json.equal, Json.isZero]
  | next field rest ih =>
      obtain ⟨hfresh, hrest⟩ := List.nodup_cons.1 hnames
      simp only [Agree, ih hrest]
      constructor
      · rintro ⟨hfield, hothers⟩ key
        simp only [jsonAt]
        split
        · exact hfield
        · exact hothers key
      · intro h
        refine ⟨by simpa [jsonAt] using h field.name, ?_⟩
        intro key
        by_cases hkey : field.name = key
        · subst hkey
          -- A name that no further field has stands for null on both sides.
          have hnull : ∀ record, rest.jsonAt field.name record = .null := by
            intro record
            rw [← field_encode hrest, Json.lookup_eq_find, Dict.find_eq_none_iff.2]
            · rfl
            · exact fun hmem ↦ hfresh ((rest.encode_keys_sublist record).subset hmem)
          rw [hnull, hnull]
          rfl
        · simpa [jsonAt, hkey] using h key

end Fields

namespace Codec

variable {make : f} {fields : Fields ρ f}

/-- A record is written as an object that has each field under its name. -/
theorem record_toJson (value : ρ) :
    (record make fields).toJson value =
      .object (Json.sortFields (Json.sortedFields (fields.encode value))) := by
  simp only [toJson, record, Json.sorted]

/-- A field of a written record is what the record holds under its name. -/
theorem field_record (hnames : fields.names.Nodup) (value : ρ) (key : String) :
    Json.field (Json.sortFields (Json.sortedFields (fields.encode value))) key =
      fields.jsonAt key value := by
  rw [Json.field, Json.lookup_sorted (hnames.sublist (fields.encode_keys_sublist value)),
    Fields.field_encode hnames]

/-- Two records are equivalent exactly if they agree field by field. -/
theorem record_equivalent_iff (hnames : fields.names.Nodup) (a b : ρ) :
    (record make fields).equivalent a b = true ↔ fields.Agree a b := by
  rw [equivalent, record_toJson, record_toJson,
    Json.equal_object_iff (Dict.nodup_of_increasing (Json.sortFields_increasing _))
      (Dict.nodup_of_increasing (Json.sortFields_increasing _)), Fields.agree_iff hnames]
  simp only [field_record hnames]

end Codec

/-! ## Fields of each kind -/

namespace Field

variable {a b : ρ}

@[simp] theorem json_required (name : String) (get : ρ → α) (c : Codec α) (record : ρ) :
    (required name get c).json record = c.toJson (get record) := rfl

@[simp] theorem json_defaulted (name : String) (get : ρ → α) (c : Codec α) (value : α)
    (record : ρ) : (defaulted name get c value).json record = c.toJson (get record) := rfl

@[simp] theorem json_optional (name : String) (get : ρ → Option α) (c : Codec α) (record : ρ) :
    (optional name get c).json record = c.optional.toJson (get record) := by
  show (if (get record).isNone then .null else c.optional.toJson (get record)) = _
  generalize get record = value
  cases value with
  | none => simp
  | some value => rfl

@[simp] theorem json_described (field : Field ρ α) (description : String) (record : ρ) :
    (field.described description).json record = field.json record := rfl

/-- A field that two records share is equivalent. -/
theorem equal_json_of_get_eq {field : Field ρ α} (h : field.get a = field.get b) :
    Json.equal (field.json a) (field.json b) = true := by
  have hsame : field.json b = field.json a := by simp only [json, h]
  rw [hsame]
  apply Json.equal_refl
  unfold json
  split
  · simp only [Json.Ordered]
  · exact field.codec.toJson_ordered _

end Field

namespace Codec

/-- Two present values are equivalent as optional ones exactly if they are equivalent. -/
theorem equal_optional_some (c : Codec α) (a b : α) :
    Json.equal (c.optional.toJson (some a)) (c.optional.toJson (some b)) = c.equivalent a b := rfl

/-- An absent text counts as the empty one. -/
theorem equal_optional_text (a b : Option String) :
    Json.equal (text.optional.toJson a) (text.optional.toJson b) =
      Json.equalTexts (a.getD "") (b.getD "") := by
  rw [Bool.eq_iff_iff]
  cases a <;> cases b <;>
    simp [Json.equal, Json.isZero, Json.equalTexts_empty_left, Json.equalTexts_empty_right]

/-- An absent flag counts as one that is not set. -/
theorem equal_optional_flag (a b : Option Bool) :
    Json.equal (flag.optional.toJson a) (flag.optional.toJson b) =
      (a.getD false == b.getD false) := by
  rcases a with _ | _ | _ <;> rcases b with _ | _ | _ <;> simp [Json.equal, Json.isZero]

/-- A dictionary is written as the dictionary of its written values. -/
theorem dict_toJson (c : Codec α) (d : Dict α) :
    c.dict.toJson d = .object (d.mapValues fun _ ↦ c.toJson).entries := by
  have hvalues : ∀ list : List (String × α),
      Json.sortedFields (list.map fun entry ↦ (entry.1, c.encode entry.2)) =
        list.map fun entry ↦ (entry.1, c.toJson entry.2) := by
    intro list
    induction list with
    | nil => rfl
    | cons entry rest ih => simp [Json.sortedFields, toJson, ih]
  simp only [toJson, dict, Json.sorted, hvalues]
  exact congrArg Json.object
    (Json.sortFields_of_increasing (d.mapValues fun _ ↦ c.toJson).increasing)

/-- A written dictionary has each value under its key. -/
theorem lookup_mapValues (c : Codec α) (d : Dict α) (key : String) :
    Json.lookup key (d.mapValues fun _ ↦ c.toJson).entries =
      (d.get? key).map c.toJson := by
  rw [Json.lookup_eq_find]
  exact Dict.get?_mapValues d _ key

/-- A field of a written dictionary is the written value at its key. -/
theorem field_dict (c : Codec α) (d : Dict α) (key : String) :
    Json.field (d.mapValues fun _ ↦ c.toJson).entries key = c.optional.toJson (d.get? key) := by
  rw [Json.field, lookup_mapValues]
  cases d.get? key with
  | none => simp
  | some value => rfl

/-- Dictionaries are equivalent exactly if their values are at every key, a missing one counting as
absent. -/
theorem dict_equivalent_iff (c : Codec α) (a b : Dict α) :
    c.dict.equivalent a b = true ↔ ∀ key,
      Json.equal (c.optional.toJson (a.get? key)) (c.optional.toJson (b.get? key)) = true := by
  rw [equivalent, dict_toJson, dict_toJson,
    Json.equal_object_iff (Dict.nodup_of_increasing (Dict.increasing _))
      (Dict.nodup_of_increasing (Dict.increasing _))]
  simp only [field_dict]

/-- An absent dictionary counts as the empty one. -/
theorem equal_optional_dict (c : Codec α) (a b : Option (Dict α)) :
    Json.equal (c.dict.optional.toJson a) (c.dict.optional.toJson b) =
      c.dict.equivalent (a.getD .empty) (b.getD .empty) := by
  have hempty : c.dict.toJson .empty = .object [] := by simp [dict_toJson, Dict.mapValues, Dict.empty]
  cases a with
  | none =>
      cases b with
      | none => simp [Json.equal, Json.isZero]
      | some b =>
          simp only [optional_toJson_none, optional_toJson_some, Option.getD_none,
            Option.getD_some, equivalent, hempty, Json.equal_null_left]
          rw [dict_toJson, Json.equal_object_nil_left, Json.isZero]
  | some a =>
      cases b with
      | none =>
          simp only [optional_toJson_none, optional_toJson_some, Option.getD_none,
            Option.getD_some, equivalent, hempty, Json.equal_null_right]
          rw [dict_toJson, Json.equal_object_nil_right, Json.isZero]
      | some b => rfl

/-- A dictionary of values is equivalent to what is left of it without an empty one. -/
theorem equal_optional_dict_of_getD_eq (c : Codec α) {a b : Option (Dict α)}
    (h : a.getD .empty = b.getD .empty) :
    Json.equal (c.dict.optional.toJson a) (c.dict.optional.toJson b) = true := by
  rw [equal_optional_dict, h]
  exact c.dict.equivalent_refl _

end Codec

end FleetOperator
