import FleetOperator.Json.Value
import FleetOperator.Dict

/-!
# Dictionaries and the fields of JSON objects

The lookup algebra of entries in key order. Read `find_put` and `Dict.ext_get?` first: a put entry is
found under its key alone, and a dictionary is determined by what it finds. The fields of a JSON
object are put and looked up by the same two functions, so `Json.sortFields` is a dictionary too.
-/

namespace FleetOperator.Dict

variable {α β : Type}

/-- A put entry is found under its key, and hides nothing else. -/
theorem find_put (key : String) (value : α) (k : String) (list : List (String × α)) :
    find k (put key value list) = if key = k then some value else find k list := by
  induction list with
  | nil => rfl
  | cons entry rest ih =>
      obtain ⟨l, v⟩ := entry
      unfold put
      split
      · next hsame =>
        subst hsame
        simp only [find]
        split <;> rfl
      · split
        · simp only [find]
        · next hne _ =>
          simp only [find, ih]
          split
          · next hl =>
            subst hl
            rw [if_neg hne]
          · rfl

/-- What is found among entries is one of them. -/
theorem mem_of_find {key : String} {value : α} {list : List (String × α)}
    (h : find key list = some value) : (key, value) ∈ list := by
  induction list with
  | nil => simp [find] at h
  | cons entry rest ih =>
      obtain ⟨k, v⟩ := entry
      simp only [find] at h
      split at h
      · next hk =>
        obtain rfl : v = value := by simpa using h
        rw [hk]
        exact List.mem_cons_self
      · exact List.mem_cons_of_mem _ (ih h)

/-- Without repeated keys every entry is found under its key. -/
theorem find_of_mem {key : String} {value : α} {list : List (String × α)}
    (hnodup : (list.map (·.1)).Nodup) (h : (key, value) ∈ list) : find key list = some value := by
  induction list with
  | nil => simp at h
  | cons entry rest ih =>
      obtain ⟨k, v⟩ := entry
      obtain ⟨hfresh, hrest⟩ := List.nodup_cons.1 hnodup
      rcases List.mem_cons.1 h with h | h
      · obtain ⟨rfl, rfl⟩ : key = k ∧ value = v := by simpa using h
        simp [find]
      · have hne : k ≠ key := by
          rintro rfl
          exact hfresh (List.mem_map.2 ⟨_, h, rfl⟩)
        rw [find, if_neg hne, ih hrest h]

/-- Nothing is found under a key that no entry has. -/
theorem find_eq_none_iff {key : String} {list : List (String × α)} :
    find key list = none ↔ key ∉ list.map (·.1) := by
  induction list with
  | nil => simp [find]
  | cons entry rest ih =>
      obtain ⟨k, v⟩ := entry
      by_cases hk : k = key
      · simp [find, hk]
      · simp [find, hk, ih, Ne.symm hk]

/-- Entries in increasing key order repeat no key. -/
theorem nodup_of_increasing {list : List (String × α)}
    (h : list.Pairwise fun a b ↦ a.1 < b.1) : (list.map (·.1)).Nodup := by
  rw [List.Nodup, List.pairwise_map]
  refine h.imp ?_
  intro a b hlt heq
  rw [heq] at hlt
  exact String.lt_irrefl _ hlt

/-- A value is found under a key exactly where the entries, in increasing key order, have it. -/
theorem find_eq_some_iff {key : String} {value : α} {list : List (String × α)}
    (h : list.Pairwise fun a b ↦ a.1 < b.1) : find key list = some value ↔ (key, value) ∈ list :=
  ⟨mem_of_find, find_of_mem (nodup_of_increasing h)⟩

/-- Entries in increasing key order are determined by what is found among them. -/
theorem eq_of_find_eq {a b : List (String × α)} (ha : a.Pairwise fun x y ↦ x.1 < y.1)
    (hb : b.Pairwise fun x y ↦ x.1 < y.1) (h : ∀ key, find key a = find key b) : a = b := by
  have hmem : ∀ entry, entry ∈ a ↔ entry ∈ b := by
    intro entry
    rw [← find_eq_some_iff ha, ← find_eq_some_iff hb, h]
  have hnodup : ∀ {list : List (String × α)}, (list.Pairwise fun x y ↦ x.1 < y.1) →
      list.Nodup := by
    intro list hlist
    refine hlist.imp ?_
    rintro x _ hlt rfl
    exact String.lt_irrefl _ hlt
  have hperm : a.Perm b := (List.perm_ext_iff_of_nodup (hnodup ha) (hnodup hb)).2 hmem
  refine hperm.eq_of_pairwise ?_ ha hb
  intro x y _ _ hxy hyx
  exact absurd (String.lt_trans hxy hyx) (String.lt_irrefl _)

/-- Dictionaries with the same value at every key are equal. -/
theorem ext_get? {a b : Dict α} (h : ∀ key, a.get? key = b.get? key) : a = b := by
  obtain ⟨as, ha⟩ := a
  obtain ⟨bs, hb⟩ := b
  obtain rfl : as = bs := eq_of_find_eq ha hb h
  rfl

@[simp] theorem get?_empty (key : String) : (empty : Dict α).get? key = none := rfl

theorem get?_insert (dict : Dict α) (key : String) (value : α) (k : String) :
    (dict.insert key value).get? k = if key = k then some value else dict.get? k :=
  find_put key value k dict.entries

@[simp] theorem get?_insert_self (dict : Dict α) (key : String) (value : α) :
    (dict.insert key value).get? key = some value := by
  rw [get?_insert, if_pos rfl]

theorem get?_insert_ne (dict : Dict α) {key k : String} (value : α) (h : key ≠ k) :
    (dict.insert key value).get? k = dict.get? k := by
  rw [get?_insert, if_neg h]

/-- Filtering keeps the value at a key if the key and the value pass the test. -/
theorem get?_filter (dict : Dict α) (keep : String → α → Bool) (key : String) :
    (dict.filter keep).get? key = (dict.get? key).filter (keep key) := by
  apply Option.ext
  intro value
  have hkept : (dict.filter keep).get? key = some value ↔
      (key, value) ∈ dict.entries ∧ keep key value = true := by
    rw [get?, find_eq_some_iff (dict.filter keep).increasing]
    exact List.mem_filter
  rw [hkept, Option.filter_eq_some_iff, get?, find_eq_some_iff dict.increasing]

/-- An erased key is not there, and all others keep their values. -/
theorem get?_erase (dict : Dict α) (key k : String) :
    (dict.erase key).get? k = if k = key then none else dict.get? k := by
  rw [erase, get?_filter]
  cases dict.get? k with
  | none => simp
  | some value => by_cases h : k = key <;> simp [Option.filter, h]

/-- Entries with a function applied to their values have the images of the values. -/
theorem find_map (list : List (String × α)) (f : α → β) (key : String) :
    find key (list.map fun entry ↦ (entry.1, f entry.2)) = (find key list).map f := by
  induction list with
  | nil => rfl
  | cons entry rest ih =>
      by_cases hk : entry.1 = key
      · simp [find, hk]
      · simp [find, hk, ih]

/-- A mapped dictionary has the images of the values. -/
theorem get?_mapValues (dict : Dict α) (f : String → α → β) (key : String) :
    (dict.mapValues f).get? key = (dict.get? key).map (f key) := by
  show find key (dict.entries.map fun e ↦ (e.1, f e.1 e.2)) = (find key dict.entries).map (f key)
  induction dict.entries with
  | nil => rfl
  | cons entry rest ih =>
      obtain ⟨k, v⟩ := entry
      by_cases hk : k = key
      · simp [find, hk]
      · simp [find, hk, ih]

/-- Of entries one after the other the first one with a key counts. -/
theorem find_append (key : String) (list others : List (String × α)) :
    find key (list ++ others) = (find key list).or (find key others) := by
  induction list with
  | nil => rfl
  | cons entry rest ih =>
      simp only [List.cons_append, find, ih]
      split <;> rfl

/-- Inserting entries one by one finds the last of those with a key, and below them what was there
before. -/
theorem get?_foldl_insert (list : List (String × α)) (dict : Dict α) (key : String) :
    (list.foldl (fun kept entry ↦ kept.insert entry.1 entry.2) dict).get? key =
      (find key list.reverse).or (dict.get? key) := by
  induction list generalizing dict with
  | nil => rfl
  | cons entry rest ih =>
      rw [List.foldl_cons, ih, get?_insert, List.reverse_cons, find_append, Option.or_assoc, find]
      split <;> rfl

/-- The dictionary of a list finds the last of the entries with a key. -/
theorem get?_ofList (list : List (String × α)) (key : String) :
    (ofList list).get? key = find key list.reverse := by
  rw [ofList, get?_foldl_insert, get?_empty, Option.or_none]

/-- Without repeated keys the dictionary of a list finds every entry. -/
theorem get?_ofList_of_nodup {list : List (String × α)} (h : (list.map (·.1)).Nodup)
    (key : String) : (ofList list).get? key = find key list := by
  have hreverse : (list.reverse.map (·.1)).Nodup := by
    rw [List.map_reverse]
    exact (List.reverse_perm _).nodup_iff.2 h
  rw [get?_ofList]
  apply Option.ext
  intro value
  constructor
  · intro hfind
    exact find_of_mem h (List.mem_reverse.1 (mem_of_find hfind))
  · intro hfind
    exact find_of_mem hreverse (List.mem_reverse.2 (mem_of_find hfind))

/-- A dictionary is that of its own entries. -/
@[simp] theorem ofList_toList (dict : Dict α) : ofList dict.toList = dict := by
  apply ext_get?
  intro key
  exact get?_ofList_of_nodup (nodup_of_increasing dict.increasing) key

/-- No key is repeated in a dictionary, so its entries can be searched from either end. -/
theorem find_reverse (dict : Dict α) (key : String) :
    find key dict.toList.reverse = dict.get? key := by
  rw [← get?_ofList, ofList_toList]

/-- A dictionary without entries is the empty one. -/
theorem isEmpty_iff {dict : Dict α} : dict.isEmpty = true ↔ dict = empty := by
  obtain ⟨entries, hincreasing⟩ := dict
  constructor
  · intro h
    obtain rfl : entries = [] := List.isEmpty_iff.1 h
    rfl
  · intro h
    obtain rfl : entries = [] := congrArg Dict.entries h
    rfl

end FleetOperator.Dict

namespace FleetOperator.Json

/-- Fields are looked up like the entries of a dictionary. -/
theorem lookup_eq_find (key : String) (fields : List (String × Json)) :
    lookup key fields = Dict.find key fields := by
  induction fields with
  | nil => rfl
  | cons entry rest ih => simp only [lookup, Dict.find, ih]

/-- Fields are put like the entries of a dictionary. -/
theorem insertField_eq_put (key : String) (value : Json) (fields : List (String × Json)) :
    insertField key value fields = Dict.put key value fields := by
  induction fields with
  | nil => rfl
  | cons entry rest ih => simp only [insertField, Dict.put, ih]

/-- Sorted fields are the entries of the dictionary of the fields. -/
theorem sortFields_eq_entries (fields : List (String × Json)) :
    sortFields fields = (Dict.ofList fields).entries := by
  have hstep : ∀ (list : List (String × Json)) (dict : Dict Json),
      list.foldl (fun kept field ↦ insertField field.1 field.2 kept) dict.entries =
        (list.foldl (fun kept entry ↦ kept.insert entry.1 entry.2) dict).entries := by
    intro list
    induction list with
    | nil => intro dict; rfl
    | cons entry rest ih =>
        intro dict
        rw [List.foldl_cons, insertField_eq_put]
        exact ih (dict.insert entry.1 entry.2)
  exact hstep fields .empty

/-- Sorted fields are in strictly increasing key order. -/
theorem sortFields_increasing (fields : List (String × Json)) :
    (sortFields fields).Pairwise fun a b ↦ a.1 < b.1 := by
  rw [sortFields_eq_entries]
  exact (Dict.ofList fields).increasing

/-- Sorting fields without repeated keys changes no lookup. -/
theorem lookup_sortFields {fields : List (String × Json)} (h : (fields.map (·.1)).Nodup)
    (key : String) : lookup key (sortFields fields) = lookup key fields := by
  rw [lookup_eq_find, lookup_eq_find, sortFields_eq_entries]
  exact Dict.get?_ofList_of_nodup h key

/-- Every sorted field was there before. -/
theorem mem_of_mem_sortFields {entry : String × Json} {fields : List (String × Json)}
    (h : entry ∈ sortFields fields) : entry ∈ fields := by
  rw [sortFields_eq_entries, ← Dict.find_eq_some_iff (Dict.ofList fields).increasing] at h
  have hfind : Dict.find entry.1 fields.reverse = some entry.2 := by
    rw [← Dict.get?_ofList]
    exact h
  exact List.mem_reverse.1 (Dict.mem_of_find hfind)

end FleetOperator.Json
