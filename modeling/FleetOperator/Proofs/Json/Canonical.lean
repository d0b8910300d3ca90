import FleetOperator.Proofs.Json.Equivalence
import FleetOperator.Proofs.Number.Double
import Mathlib.Logic.Relation

/-!
# The canonical forms of JSON values

What a JSON value means to the comparison, as a value of its own. Read `equal_iff_canonical_eq`
first: two values are equivalent exactly if their canonical forms are equal. So equivalence is an
equivalence relation, and it does not see fields that hold zero values, at whatever depth they
stand.
-/

namespace FleetOperator

/-- What a JSON value means to the comparison. Of the booleans only the one that is set is no zero
value, and a number without a nearest binary64 number has none. -/
inductive Canonical where
  | null
  | flag
  | number (value : Option Double)
  | quantity (nanos : Int)
  | text (value : String)
  | array (items : List Canonical)
  | object (fields : List (String × Canonical))

namespace Json

mutual

/-- The canonical form of a value: null of every zero value, the nearest binary64 number of a
number, the amount of a text that writes a quantity, and an object without its zero values. -/
def canonical (value : Json) : Canonical :=
  if isZero value then .null
  else
    match value with
    | null => .null
    | bool _ => .flag
    | number value => .number value.toDouble
    | text value =>
      match Quantity.parse? value with
      | some nanos => .quantity nanos
      | none => .text value
    | array items => .array (canonicalItems items)
    | object fields => .object (canonicalFields fields)

/-- The canonical forms of values. -/
def canonicalItems : List Json → List Canonical
  | [] => []
  | item :: rest => canonical item :: canonicalItems rest

/-- The canonical forms of the fields that do not hold zero values. -/
def canonicalFields : List (String × Json) → List (String × Canonical)
  | [] => []
  | (key, value) :: rest =>
    if isZero value then canonicalFields rest else (key, canonical value) :: canonicalFields rest

end

/-- The canonical form of a value is null exactly if it is a zero value. -/
theorem canonical_eq_null_iff {value : Json} : value.canonical = .null ↔ isZero value = true := by
  constructor
  · intro h
    refine Decidable.byContradiction fun hzero ↦ ?_
    unfold canonical at h
    rw [if_neg hzero] at h
    cases value with
    | null => exact hzero (by simp [isZero])
    | text value =>
        simp only at h
        split at h <;> simp at h
    | bool | number | array | object => simp at h
  · intro h
    rw [canonical.eq_def, if_pos h]

/-! ## Scalars -/

/-- Numbers that compare as equal are both zero or both not. -/
theorem isZero_of_equalNumbers {a b : Number} (h : equalNumbers a b = true) :
    a.isZero = b.isZero := by
  rcases Bool.or_eq_true_iff.1 h with hsame | hnearest
  · cases a with
    | integer m =>
        cases b with
        | integer n =>
            obtain rfl : m = n := by simpa [Number.same] using hsame
            rfl
        | double d => simp [Number.same] at hsame
    | double c =>
        cases b with
        | integer n => simp [Number.same] at hsame
        | double d => exact Double.isZero_of_sameValue hsame
  · have hfinite {n : Number} (hzero : n.isZero = true) : n.toDouble ≠ none := by
      obtain ⟨d, hd⟩ := Number.toDouble_of_isZero hzero
      rw [hd]
      exact Option.some_ne_none d
    split at hnearest
    · next x y hx hy =>
      rw [Number.isZero_of_toDouble hx, Number.isZero_of_toDouble hy,
        Double.isZero_of_sameValue hnearest]
    · next ha hb =>
      rw [Bool.eq_false_iff.2 fun hzero ↦ hfinite hzero ha,
        Bool.eq_false_iff.2 fun hzero ↦ hfinite hzero hb]
    · simp at hnearest

/-- A number that is not zero compares as equal with the numbers of the same nearest binary64
number. -/
theorem equalNumbers_iff {a b : Number} (ha : a.isZero = false) :
    equalNumbers a b = true ↔ a.toDouble = b.toDouble := by
  constructor
  · intro h
    rcases Bool.or_eq_true_iff.1 h with hsame | hnearest
    · cases a with
      | integer m =>
          cases b with
          | integer n =>
              obtain rfl : m = n := by simpa [Number.same] using hsame
              rfl
          | double d => simp [Number.same] at hsame
      | double c =>
          cases b with
          | integer n => simp [Number.same] at hsame
          | double d => rw [(Double.sameValue_iff ha).1 hsame]
    · split at hnearest
      · next x y hx hy =>
        rw [hx, hy, (Double.sameValue_iff (Number.isZero_of_toDouble hx ▸ ha)).1 hnearest]
      · next hx hy => rw [hx, hy]
      · simp at hnearest
  · intro h
    rw [equalNumbers, h, Bool.or_eq_true]
    refine Or.inr ?_
    cases b.toDouble with
    | none => rfl
    | some d => simp [Double.sameValue]

/-- Numbers are equivalent exactly if their canonical forms are equal. -/
theorem equal_number_iff (a b : Number) :
    equal (number a) (number b) = true ↔ (number a).canonical = (number b).canonical := by
  have hequal : equal (number a) (number b) = true ↔
      (a.isZero = true ∧ b.isZero = true) ∨ equalNumbers a b = true := by
    simp only [equal, Bool.or_eq_true, Bool.and_eq_true]
  have hcanonical (n : Number) :
      (number n).canonical = if n.isZero then .null else .number n.toDouble := by
    rw [canonical.eq_def, isZero]
  rw [hequal, hcanonical, hcanonical]
  cases ha : a.isZero <;> cases hb : b.isZero
  case false.false => simp [equalNumbers_iff ha]
  case true.true => simp
  all_goals
    have hdifferent : equalNumbers a b ≠ true := fun h ↦ by
      simpa [ha, hb] using isZero_of_equalNumbers h
    simp [hdifferent]

/-- Texts are equivalent exactly if their canonical forms are equal. -/
theorem equal_text_iff (a b : String) :
    equal (text a) (text b) = true ↔ (text a).canonical = (text b).canonical := by
  have hempty : Quantity.parse? "" = none := by simp [Quantity.parse?]
  have hcanonical (own : String) : (text own).canonical =
      if own = "" then .null
      else
        match Quantity.parse? own with
        | some nanos => .quantity nanos
        | none => .text own := by
    simp only [canonical, isZero, beq_iff_eq]
  rw [hcanonical, hcanonical, equal]
  by_cases ha : a = ""
  · subst ha
    rw [equalTexts_empty_left, if_pos rfl]
    by_cases hb : b = ""
    · simp [hb]
    · rw [if_neg hb]
      cases Quantity.parse? b <;> simp [hb]
  · by_cases hb : b = ""
    · subst hb
      rw [equalTexts_empty_right, if_pos rfl, if_neg ha]
      cases Quantity.parse? a <;> simp [ha]
    · rw [if_neg ha, if_neg hb]
      -- A text that writes a quantity is not the same as one that does not.
      cases hx : Quantity.parse? a with
      | none =>
          cases hy : Quantity.parse? b with
          | none => simp [equalTexts, hx]
          | some y =>
              have hne : a ≠ b := by
                rintro rfl
                simp [hx] at hy
              simp [equalTexts, hx, hne]
      | some x =>
          cases hy : Quantity.parse? b with
          | none =>
              have hne : a ≠ b := by
                rintro rfl
                simp [hx] at hy
              simp [equalTexts, hx, hy, hne]
          | some y =>
              have hsame : a = b → x = y := by
                rintro rfl
                exact Option.some.inj (hx.symm.trans hy)
              simpa [equalTexts, hx, hy] using hsame

/-! ## Values of different kinds -/

/-- The kinds of values. -/
inductive Kind where
  | null
  | bool
  | number
  | text
  | array
  | object

/-- The kind of a value. -/
def kind : Json → Kind
  | null => .null
  | bool _ => .bool
  | number _ => .number
  | text _ => .text
  | array _ => .array
  | object _ => .object

/-- The kind of the values that have a canonical form and are not zero. -/
def kindOf : Canonical → Kind
  | .null => .null
  | .flag => .bool
  | .number _ => .number
  | .quantity _ => .text
  | .text _ => .text
  | .array _ => .array
  | .object _ => .object

/-- The canonical form of a value that is not zero tells its kind. -/
theorem kindOf_canonical {value : Json} (h : isZero value = false) :
    kindOf value.canonical = value.kind := by
  rw [canonical.eq_def, h]
  cases value with
  | text own =>
      simp only [Bool.false_eq_true, if_false]
      cases Quantity.parse? own <;> rfl
  | null | bool | number | array | object => rfl

/-- Values of different kinds are equivalent exactly if both are zero. -/
theorem equal_of_kind_ne {a b : Json} (h : a.kind ≠ b.kind) :
    equal a b = true ↔ isZero a = true ∧ isZero b = true := by
  cases a <;> cases b <;> simp_all [equal, isZero, kind]

/-- Values of different kinds are equivalent exactly if their canonical forms are equal. -/
theorem equal_iff_of_kind_ne {a b : Json} (h : a.kind ≠ b.kind) :
    equal a b = true ↔ a.canonical = b.canonical := by
  rw [equal_of_kind_ne h]
  constructor
  · rintro ⟨ha, hb⟩
    rw [canonical_eq_null_iff.2 ha, canonical_eq_null_iff.2 hb]
  · intro hsame
    cases ha : isZero a with
    | true =>
        rw [canonical_eq_null_iff.2 ha] at hsame
        exact ⟨rfl, canonical_eq_null_iff.1 hsame.symm⟩
    | false =>
        cases hb : isZero b with
        | true =>
            rw [canonical_eq_null_iff.2 hb, canonical_eq_null_iff, ha] at hsame
            exact ⟨hsame, rfl⟩
        | false =>
            rw [← kindOf_canonical ha, ← kindOf_canonical hb, hsame] at h
            exact absurd rfl h

/-! ## Objects -/

/-- The canonical fields of an object are those of its fields that are not zero. -/
theorem canonicalFields_eq (fields : List (String × Json)) :
    canonicalFields fields =
      (fields.filter fun entry ↦ !isZero entry.2).map fun entry ↦ (entry.1, entry.2.canonical) := by
  induction fields with
  | nil => rfl
  | cons entry rest ih =>
      obtain ⟨key, value⟩ := entry
      cases hzero : isZero value <;> simp [canonicalFields, hzero, ih]

/-- An object has no canonical fields exactly if all its fields are zero. -/
theorem canonicalFields_eq_nil_iff {fields : List (String × Json)} :
    canonicalFields fields = [] ↔ allZero fields = true := by
  rw [canonicalFields_eq, List.map_eq_nil_iff, List.filter_eq_nil_iff, allZero_iff]
  simp

/-- The canonical form of an object is determined by its canonical fields. -/
theorem canonical_object_eq_iff {a b : List (String × Json)} :
    (object a).canonical = (object b).canonical ↔ canonicalFields a = canonicalFields b := by
  have hcanonical (fields : List (String × Json)) : (object fields).canonical =
      if canonicalFields fields = [] then .null else .object (canonicalFields fields) := by
    rw [canonical.eq_def, isZero]
    simp only [canonicalFields_eq_nil_iff]
  rw [hcanonical, hcanonical]
  constructor
  · intro h
    split at h <;> split at h <;> simp_all
  · intro h
    rw [h]

/-- The canonical form of the field of a key, null where there is none. -/
theorem canonical_field {fields : List (String × Json)} (hnodup : (fields.map (·.1)).Nodup)
    (key : String) :
    (field fields key).canonical = (Dict.find key (canonicalFields fields)).getD .null := by
  have hfilter : Dict.find key (fields.filter fun entry ↦ !isZero entry.2) =
      (lookup key fields).filter fun value ↦ !isZero value := by
    apply Option.ext
    intro value
    rw [Option.filter_eq_some_iff, lookup_eq_find]
    constructor
    · intro hfind
      obtain ⟨hmem, hkept⟩ := List.mem_filter.1 (Dict.mem_of_find hfind)
      exact ⟨Dict.find_of_mem hnodup hmem, hkept⟩
    · rintro ⟨hfind, hkept⟩
      exact Dict.find_of_mem (hnodup.sublist (List.filter_sublist.map _))
        (List.mem_filter.2 ⟨Dict.mem_of_find hfind, hkept⟩)
  rw [canonicalFields_eq, Dict.find_map, hfilter, field]
  have hnull {value : Json} (hzero : isZero value = true) : value.canonical = .null :=
    canonical_eq_null_iff.2 hzero
  cases lookup key fields with
  | none => exact hnull rfl
  | some value => cases hzero : isZero value <;> simp [Option.filter, hzero, hnull]

/-- Canonical fields are never null. -/
theorem canonicalFields_ne_null {fields : List (String × Json)} {key : String} {form : Canonical}
    (h : Dict.find key (canonicalFields fields) = some form) : form ≠ .null := by
  have hmem := Dict.mem_of_find h
  rw [canonicalFields_eq] at hmem
  obtain ⟨entry, hentry, heq⟩ := List.mem_map.1 hmem
  obtain rfl : entry.2.canonical = form := congrArg Prod.snd heq
  have hkept := (List.mem_filter.1 hentry).2
  rw [Ne, canonical_eq_null_iff]
  simpa using hkept

/-- The canonical fields of fields in key order are in key order. -/
theorem canonicalFields_increasing {fields : List (String × Json)}
    (h : fields.Pairwise fun a b ↦ a.1 < b.1) :
    (canonicalFields fields).Pairwise fun a b ↦ a.1 < b.1 := by
  rw [canonicalFields_eq, List.pairwise_map]
  exact h.filter _

/-- Objects in key order have equal canonical forms exactly if their fields have under every key. -/
theorem canonical_object_eq_iff_fields {a b : List (String × Json)}
    (ha : a.Pairwise fun x y ↦ x.1 < y.1) (hb : b.Pairwise fun x y ↦ x.1 < y.1) :
    (object a).canonical = (object b).canonical ↔
      ∀ key, (field a key).canonical = (field b key).canonical := by
  have hfound (key : String) : (field a key).canonical = (field b key).canonical ↔
      Dict.find key (canonicalFields a) = Dict.find key (canonicalFields b) := by
    rw [canonical_field (Dict.nodup_of_increasing ha),
      canonical_field (Dict.nodup_of_increasing hb)]
    have hne {fields : List (String × Json)} :
        Dict.find key (canonicalFields fields) ≠ some .null := fun h ↦ canonicalFields_ne_null h rfl
    have hleft := @hne a
    have hright := @hne b
    revert hleft hright
    generalize Dict.find key (canonicalFields a) = x
    generalize Dict.find key (canonicalFields b) = y
    cases x <;> cases y <;> simp [eq_comm]
  rw [canonical_object_eq_iff]
  simp only [hfound]
  exact ⟨fun h key ↦ by rw [h],
    Dict.eq_of_find_eq (canonicalFields_increasing ha) (canonicalFields_increasing hb)⟩

/-- The field of a key of ordered fields is ordered. -/
theorem ordered_field {fields : List (String × Json)} (h : OrderedFields fields) (key : String) :
    (field fields key).Ordered := by
  rw [field, lookup_eq_find]
  cases hfind : Dict.find key fields with
  | none => trivial
  | some value => exact orderedFields_iff.1 h _ (Dict.mem_of_find hfind)

/-- Lists have equal canonical forms exactly if their items have. -/
theorem canonical_array_eq_iff {a b : List Json} :
    (array a).canonical = (array b).canonical ↔ canonicalItems a = canonicalItems b := by
  have hcanonical (items : List Json) : (array items).canonical =
      if items.isEmpty then .null else .array (canonicalItems items) := by
    rw [canonical.eq_def, isZero]
  rw [hcanonical, hcanonical]
  cases a <;> cases b <;> simp [canonicalItems]

/-! ## Equivalence -/

mutual

/-- Ordered values are equivalent exactly if their canonical forms are equal. -/
theorem equal_iff : (a : Json) → {b : Json} → a.Ordered → b.Ordered →
    (equal a b = true ↔ a.canonical = b.canonical)
  | null, b, _, _ => by
      have hnull : null.canonical = .null := canonical_eq_null_iff.2 (by simp [isZero])
      rw [equal_null_left, hnull, eq_comm (a := Canonical.null), canonical_eq_null_iff]
  | bool own, b, _, _ => by
      cases b with
      | bool other => cases own <;> cases other <;> simp [equal, canonical.eq_def, isZero]
      | null | number | text | array | object => exact equal_iff_of_kind_ne nofun
  | number own, b, _, _ => by
      cases b with
      | number other => exact equal_number_iff own other
      | null | bool | text | array | object => exact equal_iff_of_kind_ne nofun
  | text own, b, _, _ => by
      cases b with
      | text other => exact equal_text_iff own other
      | null | bool | number | array | object => exact equal_iff_of_kind_ne nofun
  | array items, b, ha, hb => by
      cases b with
      | array others =>
          rw [canonical_array_eq_iff, equal]
          exact equalItems_iff items (by simpa only [Ordered] using ha)
            (by simpa only [Ordered] using hb)
      | null | bool | number | text | object => exact equal_iff_of_kind_ne nofun
  | object fields, b, ha, hb => by
      cases b with
      | object others =>
          obtain ⟨hincreasing, hvalues⟩ : (fields.Pairwise fun x y ↦ x.1 < y.1) ∧
              OrderedFields fields := by simpa only [Ordered] using ha
          obtain ⟨hothers, hfields⟩ : (others.Pairwise fun x y ↦ x.1 < y.1) ∧
              OrderedFields others := by simpa only [Ordered] using hb
          rw [canonical_object_eq_iff_fields hincreasing hothers,
            equal_object_iff (Dict.nodup_of_increasing hincreasing)
              (Dict.nodup_of_increasing hothers)]
          exact forall_congr' fun key ↦
            equalField_iff fields hvalues key (ordered_field hfields key)
      | null | bool | number | text | array => exact equal_iff_of_kind_ne nofun

/-- Lists of ordered items are equivalent exactly if the canonical forms of their items are
equal. -/
theorem equalItems_iff : (items : List Json) → {others : List Json} → OrderedItems items →
    OrderedItems others →
    (equalItems items others = true ↔ canonicalItems items = canonicalItems others)
  | [], others, _, _ => by cases others <;> simp [equalItems, canonicalItems]
  | item :: rest, others, ⟨hitem, hrest⟩, hothers => by
      cases others with
      | nil => simp [equalItems, canonicalItems]
      | cons other tail =>
          obtain ⟨hother, htail⟩ := hothers
          simp only [equalItems, canonicalItems, Bool.and_eq_true, List.cons.injEq,
            equal_iff item hitem hother, equalItems_iff rest hrest htail]

/-- The field of a key is equivalent to an ordered value exactly if the canonical forms are
equal. -/
theorem equalField_iff : (fields : List (String × Json)) → OrderedFields fields → (key : String) →
    {b : Json} → b.Ordered →
    (equal (field fields key) b = true ↔ (field fields key).canonical = b.canonical)
  | [], _, key, b, hb => equal_iff null trivial hb
  | (k, value) :: rest, ⟨hvalue, hrest⟩, key, b, hb => by
      simp only [field, lookup]
      split
      · exact equal_iff value hvalue hb
      · exact equalField_iff rest hrest key hb

end

/-! ## Fields of zero values -/

/-- One value is another one with a field added that holds a zero value, at any depth. -/
inductive AddsZero : Json → Json → Prop where
  | here {fields : List (String × Json)} {key : String} {value : Json} :
      lookup key fields = none → isZero value = true →
      AddsZero (object fields) (object (insertField key value fields))
  | item {before after : List Json} {a b : Json} :
      AddsZero a b → AddsZero (array (before ++ a :: after)) (array (before ++ b :: after))
  | field {before after : List (String × Json)} {key : String} {a b : Json} :
      AddsZero a b →
      AddsZero (object (before ++ (key, a) :: after)) (object (before ++ (key, b) :: after))

/-- A field that holds a zero value adds no canonical field. -/
theorem canonicalFields_insertField {key : String} {value : Json} (hzero : isZero value = true) :
    {fields : List (String × Json)} → lookup key fields = none →
      canonicalFields (insertField key value fields) = canonicalFields fields
  | [], _ => by simp [insertField, canonicalFields, hzero]
  | (k, own) :: rest, h => by
      have hne : k ≠ key := by
        rintro rfl
        simp [lookup] at h
      have hrest : lookup key rest = none := by simpa [lookup, hne] using h
      simp only [insertField, if_neg hne.symm]
      split
      · simp [canonicalFields, hzero]
      · simp only [canonicalFields, canonicalFields_insertField hzero hrest]

/-- Adding a field that holds a zero value, at any depth, does not change the canonical form. -/
theorem AddsZero.canonical_eq {a b : Json} (h : AddsZero a b) : a.canonical = b.canonical := by
  induction h with
  | here hfresh hzero =>
      rw [canonical_object_eq_iff, canonicalFields_insertField hzero hfresh]
  | @item before after a b _ ih =>
      rw [canonical_array_eq_iff]
      induction before with
      | nil => simp [canonicalItems, ih]
      | cons first _ hothers => simp [canonicalItems, hothers]
  | @field before after key a b _ ih =>
      have hzero : isZero a = isZero b := by
        rw [Bool.eq_iff_iff, ← canonical_eq_null_iff, ← canonical_eq_null_iff, ih]
      rw [canonical_object_eq_iff, canonicalFields_eq, canonicalFields_eq]
      simp only [List.filter_append, List.map_append, List.filter_cons, hzero]
      split
      · simp [ih]
      · rfl

/-- Adding and removing fields that hold zero values does not change the canonical form. -/
theorem canonical_eq_of_zeros {a b : Json} (h : Relation.EqvGen AddsZero a b) :
    a.canonical = b.canonical := by
  induction h with
  | rel _ _ h => exact h.canonical_eq
  | refl _ => rfl
  | symm _ _ _ ih => exact ih.symm
  | trans _ _ _ _ _ ihab ihbc => exact ihab.trans ihbc

/-- A JSON value with the fields of every object in key order, so that it has one form only. -/
abbrev InOrder := { value : Json // value.Ordered }

/-- Two values are equivalent exactly if their canonical forms are equal. So equivalence is an
equivalence relation, and adding or removing fields of zero values anywhere on either side does not
change whether two values are equivalent. -/
theorem equal_iff_canonical_eq :
    (∀ a b : InOrder, equal a.1 b.1 = true ↔ a.1.canonical = b.1.canonical) ∧
    (Equivalence fun a b : InOrder ↦ equal a.1 b.1 = true) ∧
    ∀ a b c d : InOrder, Relation.EqvGen AddsZero a.1 c.1 → Relation.EqvGen AddsZero b.1 d.1 →
      equal a.1 b.1 = equal c.1 d.1 := by
  have hequal (a b : InOrder) : equal a.1 b.1 = true ↔ a.1.canonical = b.1.canonical :=
    equal_iff a.1 a.2 b.2
  refine ⟨hequal, ⟨fun a ↦ (hequal a a).2 rfl, ?_, ?_⟩, ?_⟩
  · intro a b hab
    exact (hequal b a).2 ((hequal a b).1 hab).symm
  · intro a b c hab hbc
    exact (hequal a c).2 (((hequal a b).1 hab).trans ((hequal b c).1 hbc))
  · intro a b c d hac hbd
    rw [Bool.eq_iff_iff, hequal, hequal, canonical_eq_of_zeros hac, canonical_eq_of_zeros hbd]

end Json

end FleetOperator
