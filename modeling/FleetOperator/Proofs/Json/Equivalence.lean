import FleetOperator.Json.Equivalence
import FleetOperator.Proofs.Json.Ordered

/-!
# The equivalence of JSON values

What the tolerant comparison of JSON values decides. Read `equal_object_iff` first: two objects are
equivalent exactly when they are at every key, a missing field counting as null. Every ordered value
is equivalent to itself, and any two zero values are equivalent.
-/

namespace FleetOperator

/-- A number is the same as itself. -/
theorem Number.same_refl (n : Number) : n.same n = true := by
  cases n with
  | integer value => simp [Number.same]
  | double value => simp [Number.same, Double.sameValue]

namespace Json

/-- A text is equivalent to itself. -/
@[simp] theorem equalTexts_refl (a : String) : equalTexts a a = true := by
  simp [equalTexts]

/-- The empty text is equivalent to no other text, since it is no quantity. -/
theorem equalTexts_empty_left {a : String} : equalTexts "" a = true ↔ a = "" := by
  have hparse : Quantity.parse? "" = none := by simp [Quantity.parse?]
  simp only [equalTexts, hparse, Bool.or_false, beq_iff_eq]
  exact eq_comm

/-- No other text is equivalent to the empty one. -/
theorem equalTexts_empty_right {a : String} : equalTexts a "" = true ↔ a = "" := by
  have hparse : Quantity.parse? "" = none := by simp [Quantity.parse?]
  simp [equalTexts, hparse]

/-- A value is equivalent to null exactly if it is zero. -/
theorem equal_null_right (a : Json) : equal a null = isZero a := by
  cases a <;> simp [equal, isZero]

/-- Any two zero values are equivalent. -/
theorem equal_of_isZero {a b : Json} (ha : isZero a = true) (hb : isZero b = true) :
    equal a b = true := by
  cases a <;> cases b <;> simp_all [equal, isZero, equalItems]

/-- Every field is zero exactly if each is. -/
theorem allZero_iff {fields : List (String × Json)} :
    allZero fields = true ↔ ∀ entry ∈ fields, isZero entry.2 = true := by
  induction fields with
  | nil => simp [allZero]
  | cons entry rest ih => simp [allZero, ih]

/-- Fields are equivalent to those of another object exactly if each is to the one of its key. -/
theorem equalFields_iff {fields other : List (String × Json)} :
    equalFields fields other = true ↔
      ∀ entry ∈ fields, equal entry.2 (field other entry.1) = true := by
  induction fields with
  | nil => simp [equalFields]
  | cons entry rest ih => simp [equalFields, ih]

/-- What only the second object has is zero exactly if each of its other fields is. -/
theorem onlySecondZero_iff {first second : List (String × Json)} :
    onlySecondZero first second = true ↔
      ∀ entry ∈ second, lookup entry.1 first = none → isZero entry.2 = true := by
  induction second with
  | nil => simp [onlySecondZero]
  | cons entry rest ih =>
      simp only [onlySecondZero, Bool.and_eq_true, Bool.or_eq_true, ih, List.forall_mem_cons]
      cases lookup entry.1 first with
      | none => simp
      | some value => simp

/-- An object is equivalent to the empty one exactly if all its fields are zero. -/
theorem equal_object_nil_right (fields : List (String × Json)) :
    equal (object fields) (object []) = allZero fields := by
  rw [Bool.eq_iff_iff]
  simp [equal, allZero, onlySecondZero, equalFields_iff, field, lookup, equal_null_right,
    allZero_iff]

/-- The empty object is equivalent to another one exactly if all fields of that are zero. -/
theorem equal_object_nil_left (fields : List (String × Json)) :
    equal (object []) (object fields) = allZero fields := by
  rw [Bool.eq_iff_iff]
  simp [equal, allZero, equalFields, onlySecondZero_iff, lookup, allZero_iff]

/-- Without repeated keys the field of a key is what an entry with the key holds. -/
theorem field_of_mem {fields : List (String × Json)} {entry : String × Json}
    (hnodup : (fields.map (·.1)).Nodup) (h : entry ∈ fields) : field fields entry.1 = entry.2 := by
  rw [field, lookup_eq_find, Dict.find_of_mem hnodup h, Option.getD_some]

/-- Fields that are all zero are zero under every key. -/
theorem isZero_field {fields : List (String × Json)} (h : allZero fields = true) (key : String) :
    isZero (field fields key) = true := by
  rw [field, lookup_eq_find]
  cases hfind : Dict.find key fields with
  | none => rfl
  | some value => exact allZero_iff.1 h _ (Dict.mem_of_find hfind)

/-- Two objects without repeated keys are equivalent exactly if they are under every key. -/
theorem equal_object_iff {a b : List (String × Json)} (ha : (a.map (·.1)).Nodup)
    (hb : (b.map (·.1)).Nodup) :
    equal (object a) (object b) = true ↔
      ∀ key, equal (field a key) (field b key) = true := by
  simp only [equal, Bool.or_eq_true, Bool.and_eq_true]
  constructor
  · -- A key of the first object is compared by the first pass over the fields, a key that only the
    -- second one has by the second pass.
    rintro (⟨hza, hzb⟩ | ⟨hfields, hrest⟩) key
    · exact equal_of_isZero (isZero_field hza key) (isZero_field hzb key)
    · cases hfind : lookup key a with
      | some value =>
          rw [lookup_eq_find] at hfind
          have hentry := equalFields_iff.1 hfields _ (Dict.mem_of_find hfind)
          rwa [field, lookup_eq_find, hfind]
      | none =>
          rw [field, hfind, Option.getD_none, equal_null_left, field]
          cases hother : lookup key b with
          | none => rfl
          | some value =>
              rw [lookup_eq_find] at hother
              exact onlySecondZero_iff.1 hrest _ (Dict.mem_of_find hother) hfind
  · intro h
    refine Or.inr ⟨equalFields_iff.2 ?_, onlySecondZero_iff.2 ?_⟩
    · intro entry hentry
      rw [← field_of_mem ha hentry]
      exact h entry.1
    · intro entry hentry hmissing
      have hkey := h entry.1
      rwa [field, hmissing, Option.getD_none, equal_null_left, field_of_mem hb hentry] at hkey

mutual

/-- An ordered value is equivalent to itself. -/
theorem equal_refl : (value : Json) → value.Ordered → equal value value = true
  | null, _ => by simp [equal, isZero]
  | bool _, _ => by simp [equal]
  | number n, _ => by simp [equal, equalNumbers, n.same_refl]
  | text _, _ => by simp [equal]
  | array items, h => by
      simp only [equal]
      exact equalItems_refl items (by simpa only [Ordered] using h)
  | object fields, h => by
      obtain ⟨hincreasing, hfields⟩ : (fields.Pairwise fun a b ↦ a.1 < b.1) ∧
          OrderedFields fields := by simpa only [Ordered] using h
      have hnodup := Dict.nodup_of_increasing hincreasing
      simp only [equal, Bool.or_eq_true, Bool.and_eq_true]
      refine Or.inr ⟨equalFields_iff.2 ?_, onlySecondZero_iff.2 ?_⟩
      · intro entry hentry
        rw [field_of_mem hnodup hentry]
        exact equalValues_refl fields hfields entry hentry
      · intro entry hentry hmissing
        rw [lookup_eq_find, Dict.find_of_mem hnodup hentry] at hmissing
        exact absurd hmissing (by simp)

/-- Ordered items are equivalent to themselves. -/
theorem equalItems_refl : (items : List Json) → OrderedItems items → equalItems items items = true
  | [], _ => by simp [equalItems]
  | item :: rest, ⟨hitem, hrest⟩ => by
      simp [equalItems, equal_refl item hitem, equalItems_refl rest hrest]

/-- Ordered values of fields are equivalent to themselves. -/
theorem equalValues_refl : (fields : List (String × Json)) → OrderedFields fields →
    ∀ entry ∈ fields, equal entry.2 entry.2 = true
  | [], _ => by simp
  | (_, value) :: rest, ⟨hvalue, hrest⟩ => by
      simp only [List.forall_mem_cons]
      exact ⟨equal_refl value hvalue, equalValues_refl rest hrest⟩

end

end Json

end FleetOperator
