import FleetOperator.Proofs.Json.MergePatch

/-!
# What a merge patch leaves behind

A merge patch that writes a whole value over an older one leaves behind what the older one has and
the patch does not name. Read `covers` first: a value covers an older one if it names each of its
fields, and so at every depth, as far as both are objects.
-/

namespace FleetOperator.Json

mutual

/-- Whether a value, as a patch of an older one, leaves nothing of it behind: it names every field of
the older one that is not null, and so at every depth. -/
def covers (value : Json) : Json → Bool
  | object old =>
    match value with
    | object fields => coversFields fields old
    | _ => true
  | _ => true

/-- Whether fields, as changes of older ones, leave nothing of them behind. -/
def coversFields (fields : List (String × Json)) : List (String × Json) → Bool
  | [] => true
  | (key, old) :: rest =>
    (old == null || (lookup key fields).any (·.covers old)) && coversFields fields rest

end

mutual

/-- Whether a value has an object wherever another one has. -/
def follows (value : Json) : Json → Bool
  | object shape =>
    match value with
    | object fields => followsFields fields shape
    | _ => false
  | _ => true

/-- Whether fields have objects wherever other ones have. -/
def followsFields (fields : List (String × Json)) : List (String × Json) → Bool
  | [] => true
  | (key, shape) :: rest => (lookup key fields).all (·.follows shape) && followsFields fields rest

end

/-- Whether a value that may be absent leaves nothing of an older one behind. -/
def coversAt (value old : Option Json) : Bool :=
  old.all fun own ↦ own == null || value.any (·.covers own)

/-- Whether a value that may be absent has objects wherever another one has, if it is there. -/
def followsAt (value shape : Option Json) : Bool :=
  shape.all fun own ↦ value.all (·.follows own)

@[simp] theorem coversAt_none (value : Option Json) : coversAt value none = true := rfl

@[simp] theorem coversAt_some_null (value : Option Json) : coversAt value (some null) = true := rfl

/-- An absent value leaves behind what was there. -/
@[simp] theorem coversAt_absent {old : Json} (h : old ≠ null) :
    coversAt none (some old) = false := by
  simp [coversAt, h]

/-- A value that is there leaves behind what it does not cover. -/
@[simp] theorem coversAt_present {old : Json} (value : Json) (h : old ≠ null) :
    coversAt (some value) (some old) = value.covers old := by
  simp [coversAt, h]

@[simp] theorem followsAt_null (value : Option Json) : followsAt value (some null) = true := by
  cases value <;> simp [followsAt, follows]

/-- A value that is no object replaces what was there. -/
theorem covers_of_not_object {value : Json} (h : ∀ fields, value ≠ object fields) (old : Json) :
    value.covers old = true := by
  cases old with
  | object fields => cases value <;> first | rfl | exact absurd rfl (h _)
  | _ => rfl

/-- What is no object leaves nothing behind. -/
theorem covers_not_object (value : Json) {old : Json} (h : ∀ fields, old ≠ object fields) :
    value.covers old = true := by
  cases old <;> first | rfl | exact absurd rfl (h _)

/-- Null leaves nothing behind. -/
@[simp] theorem coversAt_null (old : Option Json) : coversAt (some null) old = true := by
  cases old with
  | none => rfl
  | some own =>
      have hcovers : null.covers own = true := covers_of_not_object (by simp) own
      simp [coversAt, hcovers]

/-- All fields pass a test exactly if what is found under every key does, if no key is repeated. -/
theorem all_fields_iff {fields : List (String × Json)} (h : (fields.map (·.1)).Nodup)
    (test : String → Json → Bool) :
    fields.all (fun field ↦ test field.1 field.2) = true ↔
      ∀ key, (lookup key fields).all (test key) = true := by
  simp only [List.all_eq_true, Option.all_eq_true, Prod.forall, lookup_eq_find]
  exact ⟨fun hall key value hfound ↦ hall key value (Dict.mem_of_find hfound),
    fun hall key value hmem ↦ hall key value (Dict.find_of_mem h hmem)⟩

/-- Fields leave nothing of older ones behind exactly if they do so under every key, if no key is
repeated. -/
theorem coversFields_iff {fields old : List (String × Json)} (h : (old.map (·.1)).Nodup) :
    coversFields fields old = true ↔
      ∀ key, coversAt (lookup key fields) (lookup key old) = true := by
  have hall : coversFields fields old =
      old.all fun field ↦ field.2 == null || (lookup field.1 fields).any (·.covers field.2) := by
    clear h
    induction old with
    | nil => rfl
    | cons entry rest ih => rw [coversFields, ih, List.all_cons]
  rw [hall]
  exact all_fields_iff h fun key own ↦ own == null || (lookup key fields).any (·.covers own)

/-- Fields have objects wherever others have exactly if they do so under every key, if no key is
repeated. -/
theorem followsFields_iff {fields shape : List (String × Json)} (h : (shape.map (·.1)).Nodup) :
    followsFields fields shape = true ↔
      ∀ key, followsAt (lookup key fields) (lookup key shape) = true := by
  have hall : followsFields fields shape =
      shape.all fun field ↦ (lookup field.1 fields).all (·.follows field.2) := by
    clear h
    induction shape with
    | nil => rfl
    | cons entry rest ih => rw [followsFields, ih, List.all_cons]
  rw [hall]
  exact all_fields_iff h fun key own ↦ (lookup key fields).all (·.follows own)

/-- What has objects wherever an object has is an object. -/
theorem object_of_follows {value : Json} {shape : List (String × Json)}
    (h : value.follows (object shape) = true) : ∃ fields, value = object fields := by
  cases value with
  | object fields => exact ⟨fields, rfl⟩
  | _ => simp [follows] at h

mutual

/-- An ordered value covers itself. -/
theorem covers_refl : (value : Json) → value.Ordered → value.covers value = true
  | null, _ => rfl
  | bool _, _ => rfl
  | number _, _ => rfl
  | text _, _ => rfl
  | array _, _ => rfl
  | object fields, h => by
      rw [covers, coversFields_iff h.nodup]
      intro key
      cases hfound : lookup key fields with
      | none => rfl
      | some value =>
          rw [lookup_eq_find] at hfound
          have hself := coversFields_refl fields h.2 value ⟨key, Dict.mem_of_find hfound⟩
          simp [coversAt, hself]

/-- The values of ordered fields cover themselves. -/
theorem coversFields_refl : (fields : List (String × Json)) → OrderedFields fields →
    ∀ value, (∃ key, (key, value) ∈ fields) → value.covers value = true
  | [], _, _, h => by simp at h
  | (_, own) :: rest, hordered, value, ⟨key, hmem⟩ => by
      rcases List.mem_cons.1 hmem with heq | hmem
      · obtain ⟨rfl, rfl⟩ := Prod.mk.inj heq
        exact covers_refl _ hordered.1
      · exact coversFields_refl rest hordered.2 value ⟨key, hmem⟩

end

end FleetOperator.Json
