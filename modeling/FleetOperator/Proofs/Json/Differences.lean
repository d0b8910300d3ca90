import FleetOperator.Proofs.Json.Canonical
import FleetOperator.Proofs.Json.MergePatch
import Mathlib.Data.List.Nodup

/-!
# Where two JSON values differ

The places that a comparison of JSON values names. A location is a list of steps by key or by
position, and `Leads` goes along it in both values at once, as long as they are two objects or two
lists of one length. Read `differences_locate` first: the paths that are named are those of the
locations at which the comparison can go no further and the parts are not equivalent, each location
once.
-/

namespace FleetOperator.Json

/-- A step into a value: to the field of a key, or to the item at a position. -/
inductive Step where
  | key (name : String)
  | item (position : Nat)
deriving DecidableEq, Repr

/-- A step as it is written in a path. -/
def Step.text : Step → String
  | key name => "." ++ name
  | item position => "[" ++ Digits.textOfNat position ++ "]"

/-- A path with steps written behind it. -/
def pathTo (path : String) (steps : List Step) : String :=
  steps.foldl (fun path step ↦ path ++ step.text) path

/-- Whether a comparison of two values goes on with their parts: they are two objects or two lists
of one length. -/
def descends : Json → Json → Bool
  | object _, object _ => true
  | array a, array b => a.length == b.length
  | _, _ => false

/-- Whether a step leads from two values to two of their parts: from two objects to the fields of a
key, where a missing one counts as null, or from two lists of one length to the items at a
position. -/
inductive Leads : Step → Json → Json → Json → Json → Prop
  | key (x y : List (String × Json)) (name : String) :
      Leads (.key name) (object x) (object y) (field x name) (field y name)
  | item {x y : List Json} {position : Nat} {a b : Json} (hlength : x.length = y.length)
      (hx : x[position]? = some a) (hy : y[position]? = some b) :
      Leads (.item position) (array x) (array y) a b

/-- Whether two values differ at a location: their parts there are not equivalent, and the
comparison does not go on with the parts of these. -/
inductive DiffersAt : Json → Json → List Step → Prop
  | here {a b : Json} (h : equal a b = false) (hends : descends a b = false) : DiffersAt a b []
  | under {a b x y : Json} {step : Step} {rest : List Step} (hleads : Leads step a b x y)
      (h : DiffersAt x y rest) : DiffersAt a b (step :: rest)

/-- Lists are equivalent exactly if they have one length and are equivalent at every position. -/
theorem equalItems_iff_getElem? {x y : List Json} :
    equalItems x y = true ↔ x.length = y.length ∧
      ∀ (position : Nat) (a b : Json), x[position]? = some a → y[position]? = some b →
        equal a b = true := by
  induction x generalizing y with
  | nil => cases y <;> simp [equalItems]
  | cons first x ih =>
      cases y with
      | nil => simp [equalItems]
      | cons second y =>
          simp only [equalItems, Bool.and_eq_true, ih, List.length_cons, Nat.add_right_cancel_iff]
          constructor
          · rintro ⟨hfirst, hlength, hrest⟩
            refine ⟨hlength, ?_⟩
            rintro (_ | position) a b ha hb
            · obtain rfl : first = a := by simpa using ha
              obtain rfl : second = b := by simpa using hb
              exact hfirst
            · exact hrest position a b (by simpa using ha) (by simpa using hb)
          · rintro ⟨hlength, hall⟩
            exact ⟨hall 0 first second rfl rfl, hlength,
              fun position a b ha hb ↦
                hall (position + 1) a b (by simpa using ha) (by simpa using hb)⟩

/-! ## The locations that are found -/

/-- The keys of the fields that only the second of two objects has, where they are not zero. -/
def onlySecondKeys (first second : List (String × Json)) : List String :=
  (second.filter fun entry ↦ (lookup entry.1 first).isNone && !isZero entry.2).map (·.1)

mutual

/-- The locations at which two values differ, in the order in which they are named. -/
def locations : Json → Json → List (List Step)
  | object a, object b =>
    if equal (object a) (object b) then []
    else locationsInFields b a ++ (onlySecondKeys a b).map fun key ↦ [.key key]
  | array a, array b =>
    if equal (array a) (array b) then []
    else if a.length = b.length then locationsInItems 0 a b
    else [[]]
  | a, b => if equal a b then [] else [[]]

/-- The locations at which the items of two lists differ, from a position on. -/
def locationsInItems (position : Nat) : List Json → List Json → List (List Step)
  | a :: as, b :: bs =>
    (locations a b).map (.item position :: ·) ++ locationsInItems (position + 1) as bs
  | _, _ => []

/-- The locations at which fields differ from those of another object. -/
def locationsInFields (other : List (String × Json)) : List (String × Json) → List (List Step)
  | [] => []
  | (key, a) :: rest =>
    (locations a (field other key)).map (.key key :: ·) ++ locationsInFields other rest

end

/-- The paths of the fields that only the second object has are those of their keys. -/
theorem onlySecondPaths_eq (path : String) (first second : List (String × Json)) :
    onlySecondPaths path first second =
      (onlySecondKeys first second).map fun key ↦ pathTo path [.key key] := by
  induction second with
  | nil => rfl
  | cons entry rest ih =>
      cases hfirst : lookup entry.1 first <;> cases hzero : isZero entry.2 <;>
        simp [onlySecondPaths, onlySecondKeys, ih, hfirst, hzero, pathTo, Step.text,
          String.append_assoc]

mutual

/-- The paths that are named are those of the locations. -/
theorem differencesAt_eq (path : String) :
    (a b : Json) → differencesAt path a b = (locations a b).map (pathTo path)
  | object x, object y => by
      simp only [differencesAt, locations]
      split
      · rfl
      · rw [differencesInFields_eq, onlySecondPaths_eq, List.map_append, List.map_map]
        rfl
  | array x, array y => by
      simp only [differencesAt, locations]
      split
      · rfl
      · split
        · exact differencesInItems_eq path 0 x y
        · rfl
  | null, b | bool _, b | number _, b | text _, b => by
      cases b <;> simp only [differencesAt, locations] <;> split <;> rfl
  | array _, null | array _, bool _ | array _, number _ | array _, text _ | array _, object _
  | object _, null | object _, bool _ | object _, number _ | object _, text _
  | object _, array _ => by
      simp only [differencesAt, locations]
      split <;> rfl

/-- The paths that are named for items are those of their locations. -/
theorem differencesInItems_eq (path : String) (position : Nat) :
    (a b : List Json) →
      differencesInItems path position a b = (locationsInItems position a b).map (pathTo path)
  | [], _ => by simp [differencesInItems, locationsInItems]
  | _ :: _, [] => by simp [differencesInItems, locationsInItems]
  | a :: as, b :: bs => by
      rw [differencesInItems, locationsInItems, List.map_append, List.map_map,
        differencesInItems_eq path (position + 1) as bs, differencesAt_eq _ a b]
      simp [Function.comp_def, pathTo, Step.text, String.append_assoc]

/-- The paths that are named for fields are those of their locations. -/
theorem differencesInFields_eq (path : String) (other : List (String × Json)) :
    (fields : List (String × Json)) →
      differencesInFields path other fields = (locationsInFields other fields).map (pathTo path)
  | [] => rfl
  | (key, a) :: rest => by
      rw [differencesInFields, locationsInFields, List.map_append, List.map_map,
        differencesInFields_eq path other rest, differencesAt_eq _ a _]
      simp [Function.comp_def, pathTo, Step.text, String.append_assoc]

end

/-! ## What is found -/

/-- The items of a list are ordered exactly if each item is. -/
theorem orderedItems_iff {items : List Json} :
    OrderedItems items ↔ ∀ item ∈ items, item.Ordered := by
  induction items with
  | nil => simp [OrderedItems]
  | cons item rest ih => simp [OrderedItems, ih]

section

variable {a b : Json} {steps : List Step}

/-- Nothing is found where two values are equivalent. -/
theorem locations_of_equal (h : equal a b = true) : locations a b = [] := by
  cases a <;> cases b <;> simp [locations, h]

/-- What is found between null and another value is found at once. -/
theorem locations_null_left (b : Json) : locations null b = if isZero b then [] else [[]] := by
  simp [locations, equal_null_left]

/-- A location among items begins with one of their positions. -/
theorem mem_locationsInItems_iff {x y : List Json} {first : Nat} :
    steps ∈ locationsInItems first x y ↔ ∃ position u v rest, x[position]? = some u ∧
      y[position]? = some v ∧ rest ∈ locations u v ∧
        steps = .item (first + position) :: rest := by
  induction x generalizing y first with
  | nil => simp [locationsInItems]
  | cons u x ih =>
      cases y with
      | nil => simp [locationsInItems]
      | cons v y =>
          simp only [locationsInItems, List.mem_append, List.mem_map, ih]
          constructor
          · rintro (⟨rest, hrest, rfl⟩ | ⟨position, u', v', rest, hu, hv, hrest, rfl⟩)
            · exact ⟨0, u, v, rest, rfl, rfl, hrest, rfl⟩
            · exact ⟨position + 1, u', v', rest, hu, hv, hrest, by simp; omega⟩
          · rintro ⟨position | position, u', v', rest, hu, hv, hrest, rfl⟩
            · obtain rfl : u = u' := by simpa using hu
              obtain rfl : v = v' := by simpa using hv
              exact .inl ⟨rest, hrest, rfl⟩
            · exact .inr ⟨position, u', v', rest, by simpa using hu, by simpa using hv, hrest,
                by simp; omega⟩

/-- A location among fields begins with one of their keys. -/
theorem mem_locationsInFields_iff {x y : List (String × Json)} :
    steps ∈ locationsInFields y x ↔ ∃ entry ∈ x, ∃ rest ∈ locations entry.2 (field y entry.1),
      steps = .key entry.1 :: rest := by
  induction x with
  | nil => simp [locationsInFields]
  | cons entry x ih => simp [locationsInFields, ih, eq_comm]

/-- The keys that only the second object has are those that the first one lacks, where the field is
not zero. -/
theorem mem_onlySecondKeys_iff {x y : List (String × Json)} (hy : (y.map (·.1)).Nodup)
    {key : String} :
    key ∈ onlySecondKeys x y ↔ lookup key x = none ∧ isZero (field y key) = false := by
  simp only [onlySecondKeys, List.mem_map, List.mem_filter, Bool.and_eq_true,
    Option.isNone_iff_eq_none, Bool.not_eq_true']
  constructor
  · rintro ⟨entry, ⟨hentry, hmissing, hzero⟩, rfl⟩
    exact ⟨hmissing, by rwa [field_of_mem hy hentry]⟩
  · rintro ⟨hmissing, hzero⟩
    cases hfound : lookup key y with
    | none => simp [field, hfound, isZero] at hzero
    | some value =>
        rw [field, hfound, Option.getD_some] at hzero
        rw [lookup_eq_find] at hfound
        exact ⟨(key, value), ⟨Dict.mem_of_find hfound, hmissing, hzero⟩, rfl⟩

/-- Two values are two objects or two lists, or the comparison does not go on with their parts and
finds at most the two themselves. -/
theorem cases_of_pair (a b : Json) :
    (∃ x y, a = object x ∧ b = object y) ∨ (∃ x y, a = array x ∧ b = array y) ∨
      (descends a b = false ∧ locations a b = if equal a b then [] else [[]]) := by
  cases a <;> cases b <;> simp [descends, locations]

/-- The location of the values themselves is found exactly if they are not equivalent and the
comparison does not go on with their parts. -/
theorem nil_mem_locations_iff :
    [] ∈ locations a b ↔ equal a b = false ∧ descends a b = false := by
  by_cases hequal : equal a b = true
  · simp [locations_of_equal hequal, hequal]
  · -- Where the comparison goes on, every location has a step.
    rcases cases_of_pair a b with ⟨x, y, rfl, rfl⟩ | ⟨x, y, rfl, rfl⟩ | ⟨hends, hfound⟩
    · simp [locations, descends, hequal, mem_locationsInFields_iff]
    · by_cases hlength : x.length = y.length <;>
        simp [locations, descends, hequal, hlength, mem_locationsInItems_iff]
    · simp [hfound, hequal, hends]

/-- What is found between two objects that are not equivalent is found between two fields of one
key. -/
theorem mem_locations_object_iff {x y : List (String × Json)} (hx : (x.map (·.1)).Nodup)
    (hy : (y.map (·.1)).Nodup) (h : equal (object x) (object y) = false) :
    steps ∈ locations (object x) (object y) ↔
      ∃ key, ∃ rest ∈ locations (field x key) (field y key), steps = .key key :: rest := by
  simp only [locations, h, Bool.false_eq_true, if_false, List.mem_append,
    mem_locationsInFields_iff, List.mem_map]
  constructor
  · rintro (⟨entry, hentry, rest, hrest, rfl⟩ | ⟨key, hkey, rfl⟩)
    · exact ⟨entry.1, rest, by rwa [field_of_mem hx hentry], rfl⟩
    · obtain ⟨hmissing, hzero⟩ := (mem_onlySecondKeys_iff hy).1 hkey
      refine ⟨key, [], ?_, rfl⟩
      rw [field, hmissing, Option.getD_none, locations_null_left, hzero]
      exact List.mem_singleton_self _
  · rintro ⟨key, rest, hrest, rfl⟩
    cases hfound : lookup key x with
    | some value =>
        rw [field, hfound, Option.getD_some] at hrest
        rw [lookup_eq_find] at hfound
        exact .inl ⟨(key, value), Dict.mem_of_find hfound, rest, hrest, rfl⟩
    | none =>
        rw [field, hfound, Option.getD_none, locations_null_left] at hrest
        cases hzero : isZero (field y key) with
        | true => simp [hzero] at hrest
        | false =>
            obtain rfl : rest = [] := by simpa [hzero] using hrest
            exact .inr ⟨key, (mem_onlySecondKeys_iff hy).2 ⟨hfound, hzero⟩, rfl⟩

/-- A location with a step is found exactly if the values are not equivalent and the rest is found
between the parts to which the step leads. -/
theorem cons_mem_locations_iff (ha : a.Ordered) (hb : b.Ordered) {step : Step} :
    step :: steps ∈ locations a b ↔
      equal a b = false ∧ ∃ x y, Leads step a b x y ∧ steps ∈ locations x y := by
  cases hequal : equal a b with
  | true => simp [locations_of_equal hequal]
  | false =>
      rw [and_iff_right rfl]
      constructor
      · intro hmem
        rcases cases_of_pair a b with ⟨x, y, rfl, rfl⟩ | ⟨x, y, rfl, rfl⟩ | ⟨-, hfound⟩
        · obtain ⟨key, rest, hrest, hsteps⟩ :=
            (mem_locations_object_iff ha.nodup hb.nodup hequal).1 hmem
          cases hsteps
          exact ⟨_, _, .key x y key, hrest⟩
        · simp only [locations, hequal, Bool.false_eq_true, if_false] at hmem
          split at hmem
          · next hlength =>
            obtain ⟨position, u, v, rest, hu, hv, hrest, hsteps⟩ :=
              mem_locationsInItems_iff.1 hmem
            cases hsteps
            rw [Nat.zero_add]
            exact ⟨u, v, .item hlength hu hv, hrest⟩
          · simp at hmem
        · simp [hfound, hequal] at hmem
      · rintro ⟨_, _, hleads, hrest⟩
        cases hleads with
        | key x y key =>
            exact (mem_locations_object_iff ha.nodup hb.nodup hequal).2 ⟨key, steps, hrest, rfl⟩
        | @item x y position _ _ hlength hu hv =>
            simp only [locations, hequal, Bool.false_eq_true, if_false, if_pos hlength]
            exact mem_locationsInItems_iff.2
              ⟨position, _, _, steps, hu, hv, hrest, by rw [Nat.zero_add]⟩

end

/-! ## Where values differ -/

namespace Leads

variable {step : Step} {a b x y : Json} (h : Leads step a b x y)
include h

/-- A step leads from ordered values to ordered ones. -/
theorem ordered (ha : a.Ordered) (hb : b.Ordered) : x.Ordered ∧ y.Ordered := by
  cases h with
  | key => exact ⟨ordered_field ha.2 _, ordered_field hb.2 _⟩
  | item _ hx hy =>
      exact ⟨orderedItems_iff.1 ha _ (List.mem_of_getElem? hx),
        orderedItems_iff.1 hb _ (List.mem_of_getElem? hy)⟩

/-- A step leads from equivalent values to equivalent ones. -/
theorem equal (ha : a.Ordered) (hb : b.Ordered) (hequal : Json.equal a b = true) :
    Json.equal x y = true := by
  cases h with
  | key x y name => exact (equal_object_iff ha.nodup hb.nodup).1 hequal name
  | item _ hx hy =>
      rw [Json.equal] at hequal
      exact (equalItems_iff_getElem?.1 hequal).2 _ _ _ hx hy

/-- A step leads on from two values in either order. -/
theorem swap : Leads step b a y x := by
  cases h with
  | key x y name => exact .key y x name
  | item hlength hx hy => exact .item hlength.symm hy hx

end Leads

section

variable {a b : Json} {steps : List Step}

/-- Two equivalent values differ nowhere. -/
theorem not_differsAt_of_equal (ha : a.Ordered) (hb : b.Ordered) (h : equal a b = true) :
    ¬ DiffersAt a b steps := by
  intro hdiffers
  induction hdiffers with
  | here hunequal => exact absurd h (by simp [hunequal])
  | under hleads _ ih =>
      exact ih (hleads.ordered ha hb).1 (hleads.ordered ha hb).2 (hleads.equal ha hb h)

/-- Values that do not differ themselves are equivalent, where the comparison does not go on with
their parts. -/
theorem equal_of_not_differsAt_nil (hends : descends a b = false) (h : ¬ DiffersAt a b []) :
    equal a b = true :=
  eq_true_of_ne_false fun hequal ↦ h (.here hequal hends)

/-- What is found is where the values differ. -/
theorem mem_locations_iff (ha : a.Ordered) (hb : b.Ordered) :
    steps ∈ locations a b ↔ DiffersAt a b steps := by
  constructor
  · intro hmem
    induction steps generalizing a b with
    | nil =>
        obtain ⟨hequal, hends⟩ := nil_mem_locations_iff.1 hmem
        exact .here hequal hends
    | cons step rest ih =>
        obtain ⟨-, x, y, hleads, hrest⟩ := (cons_mem_locations_iff ha hb).1 hmem
        exact .under hleads (ih (hleads.ordered ha hb).1 (hleads.ordered ha hb).2 hrest)
  · intro hdiffers
    induction hdiffers with
    | here hequal hends => exact nil_mem_locations_iff.2 ⟨hequal, hends⟩
    | @under a b x y step rest hleads hrest ih =>
        obtain ⟨hx, hy⟩ := hleads.ordered ha hb
        refine (cons_mem_locations_iff ha hb).2 ⟨?_, x, y, hleads, ih hx hy⟩
        -- Between equivalent values nothing would differ.
        cases hequal : equal a b with
        | false => rfl
        | true => exact absurd hrest (not_differsAt_of_equal hx hy (hleads.equal ha hb hequal))

/-- It does not matter which of two ordered values comes first in a comparison. -/
theorem equal_comm (ha : a.Ordered) (hb : b.Ordered) : equal a b = equal b a := by
  rw [Bool.eq_iff_iff, equal_iff a ha hb, equal_iff b hb ha, eq_comm]

/-- It does not matter either for whether the comparison goes on with the parts. -/
theorem descends_comm (a b : Json) : descends a b = descends b a := by
  cases a <;> cases b <;> simp [descends, Bool.beq_comm]

/-- Two ordered values differ at a location in either order. -/
theorem DiffersAt.swap (h : DiffersAt a b steps) (ha : a.Ordered) (hb : b.Ordered) :
    DiffersAt b a steps := by
  induction h with
  | @here a b hunequal hends =>
      exact .here (equal_comm ha hb ▸ hunequal) (descends_comm a b ▸ hends)
  | under hleads _ ih =>
      obtain ⟨hx, hy⟩ := hleads.ordered ha hb
      exact .under hleads.swap (ih hx hy)

end

mutual

/-- Two values that differ nowhere are equivalent. -/
theorem equal_of_not_differsAt : (a : Json) → {b : Json} → a.Ordered → b.Ordered →
    (∀ steps, ¬ DiffersAt a b steps) → equal a b = true
  | object x, b, ha, hb, h => by
      cases b with
      | object y =>
          refine (equal_object_iff ha.nodup hb.nodup).2 fun name ↦ ?_
          exact equalField_of_not_differsAt x ha.2 name (ordered_field hb.2 name)
            fun steps hdiffers ↦ h _ (.under (.key x y name) hdiffers)
      | null | bool | number | text | array => exact equal_of_not_differsAt_nil rfl (h [])
  | array x, b, ha, hb, h => by
      cases b with
      | array y =>
          by_cases hlength : x.length = y.length
          · rw [equal]
            exact equalItems_of_not_differsAt x ha hb hlength
              fun _ _ _ hu hv _ hdiffers ↦ h _ (.under (.item hlength hu hv) hdiffers)
          · exact equal_of_not_differsAt_nil (by simpa [descends] using hlength) (h [])
      | null | bool | number | text | object => exact equal_of_not_differsAt_nil rfl (h [])
  | null, b, _, _, h | bool _, b, _, _, h | number _, b, _, _, h | text _, b, _, _, h =>
      equal_of_not_differsAt_nil rfl (h [])

/-- Items that differ nowhere are equivalent. -/
theorem equalItems_of_not_differsAt : (x : List Json) → {y : List Json} → OrderedItems x →
    OrderedItems y → x.length = y.length →
    (∀ (position : Nat) (a b : Json), x[position]? = some a → y[position]? = some b →
      ∀ steps, ¬ DiffersAt a b steps) → equalItems x y = true
  | [], y, _, _, hlength, _ => by
      obtain rfl : y = [] := by simpa using hlength.symm
      rfl
  | a :: x, y, ha, hb, hlength, h => by
      cases y with
      | nil => simp at hlength
      | cons b y =>
          rw [equalItems, equal_of_not_differsAt a ha.1 hb.1 (h 0 a b rfl rfl),
            equalItems_of_not_differsAt x ha.2 hb.2 (by simpa using hlength)
              fun position u v hu hv ↦ h (position + 1) u v (by simpa using hu) (by simpa using hv)]
          rfl

/-- The field of a key that differs nowhere from a value is equivalent to it. -/
theorem equalField_of_not_differsAt : (fields : List (String × Json)) → OrderedFields fields →
    (name : String) → {b : Json} → b.Ordered →
    (∀ steps, ¬ DiffersAt (field fields name) b steps) → equal (field fields name) b = true
  | [], _, _, b, _, h => equal_of_not_differsAt_nil rfl (h [])
  | (key, value) :: rest, hfields, name, b, hb, h => by
      simp only [field, lookup] at h ⊢
      split
      · next hkey => exact equal_of_not_differsAt value hfields.1 hb (by simpa [hkey] using h)
      · next hkey =>
          exact equalField_of_not_differsAt rest hfields.2 name hb (by simpa [hkey, field] using h)

end

/-! ## Each location once -/

mutual

/-- No location is found twice. -/
theorem locations_nodup : (a : Json) → {b : Json} → a.Ordered → b.Ordered → (locations a b).Nodup
  | object x, b, ha, hb => by
      cases b with
      | object y =>
          simp only [locations]
          split
          · exact .nil
          · refine List.nodup_append.2 ⟨locationsInFields_nodup x ha.nodup ha.2 hb.2, ?_, ?_⟩
            · -- The keys of the second object are not repeated either.
              exact List.Nodup.map (fun _ _ hsame ↦ by simpa using hsame)
                (hb.nodup.sublist (List.filter_sublist.map _))
            · -- What is found among the fields begins with a key of the first object.
              intro steps hsteps other hother hsame
              obtain ⟨entry, hentry, rest, -, rfl⟩ := mem_locationsInFields_iff.1 hsteps
              obtain ⟨key, hkey, rfl⟩ := List.mem_map.1 hother
              obtain ⟨rfl, -⟩ : entry.1 = key ∧ rest = [] := by simpa using hsame
              have hmissing := ((mem_onlySecondKeys_iff hb.nodup).1 hkey).1
              rw [lookup_eq_find, Dict.find_of_mem ha.nodup hentry] at hmissing
              cases hmissing
      | null | bool | number | text | array =>
          simp only [locations]
          split <;> simp
  | array x, b, ha, hb => by
      cases b with
      | array y =>
          simp only [locations]
          split
          · exact .nil
          · split
            · exact locationsInItems_nodup 0 x ha hb
            · exact List.nodup_singleton _
      | null | bool | number | text | object =>
          simp only [locations]
          split <;> simp
  | null, b, _, _ | bool _, b, _, _ | number _, b, _, _ | text _, b, _, _ => by
      cases b <;> simp only [locations] <;> split <;> simp

/-- No location is found twice among items. -/
theorem locationsInItems_nodup (position : Nat) : (x : List Json) → {y : List Json} →
    OrderedItems x → OrderedItems y → (locationsInItems position x y).Nodup
  | [], _, _, _ => by simp [locationsInItems]
  | _ :: _, [], _, _ => by simp [locationsInItems]
  | a :: x, b :: y, ha, hb => by
      rw [locationsInItems]
      refine List.nodup_append.2 ⟨List.Nodup.map List.cons_injective (locations_nodup a ha.1 hb.1),
        locationsInItems_nodup (position + 1) x ha.2 hb.2, ?_⟩
      -- The later items have greater positions.
      intro steps hsteps other hother hsame
      obtain ⟨rest, -, rfl⟩ := List.mem_map.1 hsteps
      obtain ⟨later, _, _, _, -, -, -, rfl⟩ := mem_locationsInItems_iff.1 hother
      obtain ⟨hposition, -⟩ : position = position + 1 + later ∧ _ := by simpa using hsame
      omega

/-- No location is found twice among fields. -/
theorem locationsInFields_nodup : (x : List (String × Json)) → {y : List (String × Json)} →
    (x.map (·.1)).Nodup → OrderedFields x → OrderedFields y → (locationsInFields y x).Nodup
  | [], _, _, _, _ => by simp [locationsInFields]
  | (key, a) :: x, y, hkeys, hx, hy => by
      obtain ⟨hfresh, hrest⟩ := List.nodup_cons.1 hkeys
      rw [locationsInFields]
      have hfirst := locations_nodup a hx.1 (ordered_field hy key)
      refine List.nodup_append.2 ⟨List.Nodup.map List.cons_injective hfirst,
        locationsInFields_nodup x hrest hx.2 hy, ?_⟩
      -- The other fields have other keys.
      intro steps hsteps other hother hsame
      obtain ⟨rest, -, rfl⟩ := List.mem_map.1 hsteps
      obtain ⟨entry, hentry, _, -, rfl⟩ := mem_locationsInFields_iff.1 hother
      obtain ⟨rfl, -⟩ : key = entry.1 ∧ _ := by simpa using hsame
      exact hfresh (List.mem_map.2 ⟨entry, hentry, rfl⟩)

end

/-- A comparison names the paths of exactly those locations at which the two values differ, each
location once. So it names none exactly if the values are equivalent, and the same ones whichever
value comes first. -/
theorem differences_locate (a b : InOrder) :
    (∃ found : List (List Step), found.Nodup ∧
      (∀ steps, steps ∈ found ↔ DiffersAt a.1 b.1 steps) ∧
        differences a.1 b.1 = found.map (pathTo "$")) ∧
    (differences a.1 b.1 = [] ↔ equal a.1 b.1 = true) ∧
    (differences b.1 a.1).Perm (differences a.1 b.1) := by
  obtain ⟨a, ha⟩ := a
  obtain ⟨b, hb⟩ := b
  have hpaths (x y : Json) : differences x y = (locations x y).map (pathTo "$") :=
    differencesAt_eq "$" x y
  refine ⟨⟨locations a b, locations_nodup a ha hb, fun _ ↦ mem_locations_iff ha hb, hpaths a b⟩,
    ?_, ?_⟩
  · rw [hpaths, List.map_eq_nil_iff]
    refine ⟨fun hnone ↦ equal_of_not_differsAt a ha hb fun steps hdiffers ↦ ?_, locations_of_equal⟩
    have hfound := (mem_locations_iff ha hb).2 hdiffers
    rw [hnone] at hfound
    cases hfound
  · have hsame : (locations b a).Perm (locations a b) := by
      refine (List.perm_ext_iff_of_nodup (locations_nodup b hb ha) (locations_nodup a ha hb)).2 ?_
      intro steps
      rw [mem_locations_iff hb ha, mem_locations_iff ha hb]
      exact ⟨fun h ↦ h.swap hb ha, fun h ↦ h.swap ha hb⟩
    rw [hpaths, hpaths]
    exact hsame.map _

/-- A port, a replica count that one side leaves out, and a list of another length. -/
example :
    differences
        (object [("ports", array [object [("port", text "80")], text "x"]), ("tags", array [])])
        (object [("ports", array [object [("port", text "81")], text "x"]),
          ("replicas", number (.integer 3)), ("tags", array [text "y"])]) =
      ["$.ports[0].port", "$.tags", "$.replicas"] := by
  decide +kernel

end FleetOperator.Json
