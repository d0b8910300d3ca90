import FleetOperator.Json.MergePatch
import FleetOperator.Proofs.Json.Ordered

/-!
# What a merge patch changes

The places of a value that a merge patch changes, and the ones that it leaves alone. Read
`lookup_mergeFields` first: a field is changed by the change under its key alone. From there on
`valueAt?_mergePatch_of_untouched` says that a place which the patch does not reach keeps its value,
and `valueAt?_mergePatch_of_set` that a place which the patch sets has the value of the patch.
-/

namespace FleetOperator.Json

/-- A removed field is not found, and all others are. -/
theorem lookup_removeField (key k : String) (fields : List (String × Json)) :
    lookup k (removeField key fields) = if key = k then none else lookup k fields := by
  induction fields with
  | nil => simp [removeField, lookup]
  | cons entry rest ih =>
      obtain ⟨l, value⟩ := entry
      simp only [removeField] at ih
      by_cases hl : l = key
      · subst hl
        by_cases hk : l = k
        · subst hk
          simpa [removeField] using ih
        · simp [removeField, lookup, ih, hk]
      · by_cases hk : key = k
        · subst hk
          simp [removeField, lookup, hl, ih]
        · simp [removeField, lookup, hl, hk, ih]

/-- An inserted field is found under its key, and all others are. -/
theorem lookup_insertField (key : String) (value : Json) (k : String)
    (fields : List (String × Json)) :
    lookup k (insertField key value fields) = if key = k then some value else lookup k fields := by
  rw [lookup_eq_find, lookup_eq_find, insertField_eq_put, Dict.find_put]

/-- A value that may be absent, changed by a change that may be absent. -/
def changed (value : Option Json) : Option Json → Option Json
  | none => value
  | some .null => none
  | some change => some ((value.getD null).mergePatch change)

@[simp] theorem changed_none (value : Option Json) : changed value none = value := rfl

/-- A change other than null leaves a value. -/
theorem changed_some {change : Json} (h : change ≠ .null) (value : Option Json) :
    changed value (some change) = some ((value.getD null).mergePatch change) := by
  cases change <;> first | rfl | exact absurd rfl h

/-- A change other than null is merged into the field with its key. -/
theorem mergeFields_cons {change : Json} (h : change ≠ .null) (fields : List (String × Json))
    (key : String) (rest : List (String × Json)) :
    mergeFields fields ((key, change) :: rest) = mergeFields
      (insertField key (mergePatch ((lookup key fields).getD null) change) fields) rest := by
  cases change <;> first | rfl | exact absurd rfl h

/-- After a patch the field with a key is the one before, changed by the change under the key. -/
theorem lookup_mergeFields {changes : List (String × Json)} (h : (changes.map (·.1)).Nodup)
    (fields : List (String × Json)) (key : String) :
    lookup key (mergeFields fields changes) =
      changed (lookup key fields) (lookup key changes) := by
  induction changes generalizing fields with
  | nil => rfl
  | cons entry rest ih =>
      obtain ⟨k, change⟩ := entry
      obtain ⟨hfresh, hrest⟩ := List.nodup_cons.1 h
      -- Each change concerns one key, and no later one concerns the same key.
      have hstep : ∀ kept, lookup key kept =
          (if k = key then changed (lookup k fields) (some change) else lookup key fields) →
          lookup key (mergeFields kept rest) =
            changed (lookup key fields) (lookup key ((k, change) :: rest)) := by
        intro kept hkept
        rw [ih hrest, hkept]
        by_cases hk : k = key
        · subst hk
          have hmissing : lookup k rest = none := by
            rw [lookup_eq_find]
            exact Dict.find_eq_none_iff.2 hfresh
          rw [if_pos rfl, hmissing, lookup, if_pos rfl]
          rfl
        · rw [if_neg hk, lookup, if_neg hk]
      by_cases hnull : change = .null
      · subst hnull
        rw [mergeFields]
        exact hstep _ (lookup_removeField k key fields)
      · rw [mergeFields_cons hnull]
        refine hstep _ ?_
        rw [lookup_insertField, changed_some hnull]

/-- A patch that is no object replaces the whole value. -/
theorem mergePatch_of_not_object {patch : Json} (h : ∀ fields, patch ≠ .object fields)
    (value : Json) : value.mergePatch patch = patch := by
  cases patch <;> first | rfl | exact absurd rfl (h _)

/-- A patch other than null leaves a value other than null. -/
theorem mergePatch_ne_null {patch : Json} (h : patch ≠ .null) (value : Json) :
    value.mergePatch patch ≠ .null := by
  cases patch <;> first | exact Json.noConfusion | exact absurd rfl h

/-- A value that is no object has no fields. -/
theorem get?_eq_lookup (key : String) (value : Json) :
    value.get? key = lookup key (fieldsOf value) := by
  cases value <;> rfl

/-- After a patch by an object, the value at a key is the one before, changed by the change under
the key. -/
theorem get?_mergePatch {changes : List (String × Json)} (h : (changes.map (·.1)).Nodup)
    (value : Json) (key : String) :
    (value.mergePatch (.object changes)).get? key =
      changed (value.get? key) (lookup key changes) := by
  rw [get?_eq_lookup key value, mergePatch, get?, lookup_mergeFields h]

/-! ## Order -/

/-- The fields of an ordered value are in key order, and their values are ordered. -/
theorem Ordered.fieldsOf {value : Json} (h : value.Ordered) :
    ((fieldsOf value).Pairwise fun a b ↦ a.1 < b.1) ∧ OrderedFields (fieldsOf value) := by
  cases value with
  | object fields => exact h
  | _ => exact ⟨.nil, trivial⟩

/-- What is found in an ordered value is ordered. -/
theorem Ordered.of_lookup {fields : List (String × Json)} {key : String} {value : Json}
    (h : OrderedFields fields) (hfound : lookup key fields = some value) : value.Ordered := by
  rw [lookup_eq_find] at hfound
  exact orderedFields_iff.1 h _ (Dict.mem_of_find hfound)

/-- No key of an ordered object is repeated. -/
theorem Ordered.nodup {fields : List (String × Json)} (h : (object fields).Ordered) :
    (fields.map (·.1)).Nodup :=
  Dict.nodup_of_increasing h.1

/-- Inserting an ordered value keeps fields ordered. -/
theorem ordered_insertField {fields : List (String × Json)} {key : String} {value : Json}
    (h : (object fields).Ordered) (hvalue : value.Ordered) :
    (object (insertField key value fields)).Ordered := by
  rw [insertField_eq_put]
  refine ⟨Dict.put_increasing key value h.1, orderedFields_iff.2 fun entry hentry ↦ ?_⟩
  rcases Dict.mem_put hentry with rfl | hold
  · exact hvalue
  · exact orderedFields_iff.1 h.2 entry hold

/-- Removing a field keeps the others ordered. -/
theorem ordered_removeField {fields : List (String × Json)} {key : String}
    (h : (object fields).Ordered) : (object (removeField key fields)).Ordered :=
  ⟨h.1.filter _, orderedFields_iff.2 fun entry hentry ↦
    orderedFields_iff.1 h.2 entry (List.mem_filter.1 hentry).1⟩

mutual

/-- An ordered value changed by an ordered patch is ordered. -/
theorem Ordered.mergePatch {value : Json} (h : value.Ordered) :
    (patch : Json) → patch.Ordered → (value.mergePatch patch).Ordered
  | null, hpatch => hpatch
  | bool _, hpatch => hpatch
  | number _, hpatch => hpatch
  | text _, hpatch => hpatch
  | array _, hpatch => hpatch
  | object changes, hpatch => by
      rw [Json.mergePatch]
      exact Ordered.mergeFields h.fieldsOf changes hpatch.2

/-- Ordered fields changed by ordered changes are ordered. -/
theorem Ordered.mergeFields {fields : List (String × Json)} (h : (object fields).Ordered) :
    (changes : List (String × Json)) → OrderedFields changes →
      (object (mergeFields fields changes)).Ordered
  | [], _ => h
  | (key, change) :: rest, hchanges => by
      have hvalue : ((lookup key fields).getD null).Ordered := by
        cases hfound : lookup key fields with
        | none => trivial
        | some value => exact Ordered.of_lookup h.2 hfound
      by_cases hnull : change = .null
      · rw [hnull, Json.mergeFields]
        exact Ordered.mergeFields (ordered_removeField h) rest hchanges.2
      · rw [mergeFields_cons hnull]
        exact Ordered.mergeFields
          (ordered_insertField h (hvalue.mergePatch change hchanges.1)) rest hchanges.2

end

/-! ## Places -/

/-- The value at a place, which is given by the keys that lead to it. -/
def valueAt? : List String → Json → Option Json
  | [], value => some value
  | key :: rest, value => (value.get? key).bind (valueAt? rest)

/-- Whether a patch reaches a place: it has a change there, or replaces what the place is in. -/
def touches : List String → Json → Bool
  | [], _ => true
  | key :: rest, object changes => (lookup key changes).any (touches rest)
  | _ :: _, _ => true

/-- A place that a patch does not reach keeps its value. -/
theorem valueAt?_mergePatch_of_untouched {place : List String} {patch : Json}
    (hpatch : patch.Ordered) (h : touches place patch = false) (value : Json) :
    valueAt? place (value.mergePatch patch) = valueAt? place value := by
  induction place generalizing value patch with
  | nil => simp [touches] at h
  | cons key rest ih =>
      cases patch with
      | object changes =>
          simp only [valueAt?]
          rw [get?_mergePatch hpatch.nodup]
          cases hchange : lookup key changes with
          | none => rfl
          | some change =>
              have hrest : touches rest change = false := by simpa [touches, hchange] using h
              have hordered := Ordered.of_lookup hpatch.2 hchange
              -- The change goes deeper, so it is an object and the place is not at its key.
              have hnull : change ≠ .null := by
                rintro rfl
                cases rest <;> simp [touches] at hrest
              rw [changed_some hnull, Option.bind_some, ih hordered hrest]
              cases value.get? key with
              | some found => rfl
              | none =>
                  cases rest with
                  | nil => simp [touches] at hrest
                  | cons next more => rfl
      | _ => simp [touches] at h

/-- A place that a patch sets to a value that is neither null nor an object has that value. -/
theorem valueAt?_mergePatch_of_set {place : List String} {patch leaf : Json}
    (hpatch : patch.Ordered) (hset : valueAt? place patch = some leaf) (hnull : leaf ≠ .null)
    (hleaf : ∀ fields, leaf ≠ .object fields) (value : Json) :
    valueAt? place (value.mergePatch patch) = some leaf := by
  induction place generalizing value patch with
  | nil =>
      obtain rfl : patch = leaf := by simpa [valueAt?] using hset
      rw [mergePatch_of_not_object hleaf]
      rfl
  | cons key rest ih =>
      cases patch with
      | object changes =>
          obtain ⟨change, hchange, hrest⟩ := Option.bind_eq_some_iff.1 hset
          simp only [get?] at hchange
          have hset' : change ≠ .null := by
            rintro rfl
            cases rest with
            | nil => exact hnull (by simpa [valueAt?] using hrest.symm)
            | cons next more => simp [valueAt?, get?] at hrest
          simp only [valueAt?]
          rw [get?_mergePatch hpatch.nodup, hchange, changed_some hset', Option.bind_some]
          exact ih (Ordered.of_lookup hpatch.2 hchange) hrest _
      | _ => simp [valueAt?, get?] at hset

end FleetOperator.Json
