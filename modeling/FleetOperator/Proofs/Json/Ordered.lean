import FleetOperator.Codec.Source
import FleetOperator.Yaml.Document
import FleetOperator.Proofs.Dict

/-!
# Ordered JSON values

A value is ordered when every object in it lists its fields in strictly increasing key order. Read
`sorted_ordered` and `readJson?_ordered` first: sorting a value and reading one from YAML both give
ordered values. An ordered value is its own sorted form.
-/

namespace FleetOperator.Json

mutual

/-- Whether every object of a value lists its fields in strictly increasing key order. -/
def Ordered : Json → Prop
  | null => True
  | bool _ => True
  | number _ => True
  | text _ => True
  | array items => OrderedItems items
  | object fields => (fields.Pairwise fun a b ↦ a.1 < b.1) ∧ OrderedFields fields

/-- Whether all items of a list are ordered. -/
def OrderedItems : List Json → Prop
  | [] => True
  | item :: rest => Ordered item ∧ OrderedItems rest

/-- Whether the values of all fields are ordered. -/
def OrderedFields : List (String × Json) → Prop
  | [] => True
  | (_, value) :: rest => Ordered value ∧ OrderedFields rest

end

/-- The values of all fields are ordered exactly if that of each field is. -/
theorem orderedFields_iff {fields : List (String × Json)} :
    OrderedFields fields ↔ ∀ entry ∈ fields, Ordered entry.2 := by
  induction fields with
  | nil => simp [OrderedFields]
  | cons entry rest ih => simp [OrderedFields, ih]

/-- Sorting ordered values under their keys gives an ordered object. -/
theorem ordered_object_sortFields {fields : List (String × Json)} (h : OrderedFields fields) :
    Ordered (object (sortFields fields)) := by
  refine ⟨sortFields_increasing fields, orderedFields_iff.2 ?_⟩
  intro entry hentry
  exact orderedFields_iff.1 h entry (mem_of_mem_sortFields hentry)

mutual

/-- A sorted value is ordered. -/
theorem sorted_ordered : (value : Json) → (sorted value).Ordered
  | null => by simp only [sorted, Ordered]
  | bool _ => by simp only [sorted, Ordered]
  | number _ => by simp only [sorted, Ordered]
  | text _ => by simp only [sorted, Ordered]
  | array items => by
      simp only [sorted, Ordered]
      exact sortedItems_ordered items
  | object fields => by
      simp only [sorted]
      exact ordered_object_sortFields (sortedFields_ordered fields)

/-- Sorted items are ordered. -/
theorem sortedItems_ordered : (items : List Json) → OrderedItems (sortedItems items)
  | [] => by simp only [sortedItems, OrderedItems]
  | item :: rest => by
      simp only [sortedItems, OrderedItems]
      exact ⟨sorted_ordered item, sortedItems_ordered rest⟩

/-- Fields with sorted values have ordered values. -/
theorem sortedFields_ordered : (fields : List (String × Json)) → OrderedFields (sortedFields fields)
  | [] => by simp only [sortedFields, OrderedFields]
  | (_, value) :: rest => by
      simp only [sortedFields, OrderedFields]
      exact ⟨sorted_ordered value, sortedFields_ordered rest⟩

end

/-- Sorting the values of fields keeps their keys. -/
theorem sortedFields_keys (fields : List (String × Json)) :
    (sortedFields fields).map (·.1) = fields.map (·.1) := by
  induction fields with
  | nil => rfl
  | cons entry rest ih => simp [sortedFields, ih]

/-- Sorting the values of fields sorts what is looked up. -/
theorem lookup_sortedFields (key : String) (fields : List (String × Json)) :
    lookup key (sortedFields fields) = (lookup key fields).map sorted := by
  induction fields with
  | nil => rfl
  | cons entry rest ih =>
      obtain ⟨k, v⟩ := entry
      by_cases hk : k = key
      · simp [sortedFields, lookup, hk]
      · simp [sortedFields, lookup, hk, ih]

/-- Looking up a key of a sorted object gives the sorted value, if no key is repeated. -/
theorem lookup_sorted {fields : List (String × Json)} (h : (fields.map (·.1)).Nodup)
    (key : String) :
    lookup key (sortFields (sortedFields fields)) = (lookup key fields).map sorted := by
  rw [lookup_sortFields (by rwa [sortedFields_keys]), lookup_sortedFields]

/-- Fields in key order are their own sorted form. -/
theorem sortFields_of_increasing {fields : List (String × Json)}
    (h : fields.Pairwise fun a b ↦ a.1 < b.1) : sortFields fields = fields := by
  rw [sortFields_eq_entries]
  exact congrArg Dict.entries (Dict.ofList_toList ⟨fields, h⟩)

end FleetOperator.Json

namespace FleetOperator.Yaml

/-- The value of a scalar's meaning is ordered. -/
theorem Meaning.json?_ordered {meaning : Meaning} {value : Json} (h : meaning.json? = some value) :
    value.Ordered := by
  unfold Meaning.json? at h
  split at h <;> cases h <;> simp only [Json.Ordered]

mutual

/-- The value that a node writes is ordered. -/
theorem Node.json?_ordered : (node : Node) → {value : Json} → node.json? = some value →
    value.Ordered
  | .absent, value, h => by
      obtain rfl : Json.null = value := by simpa [Node.json?] using h
      simp only [Json.Ordered]
  | .unreadable, _, h => by simp [Node.json?] at h
  | .scalar s, value, h => by
      obtain ⟨meaning, _, hvalue⟩ := Option.bind_eq_some_iff.1 (by simpa only [Node.json?] using h)
      exact Meaning.json?_ordered hvalue
  | .sequence tag items, value, h => by
      simp only [Node.json?] at h
      split at h
      · simp at h
      · obtain ⟨values, hvalues, rfl⟩ := Option.map_eq_some_iff.1 h
        simp only [Json.Ordered]
        exact jsonItems?_ordered items hvalues
  | .mapping tag entries, value, h => by
      simp only [Node.json?] at h
      split at h
      · simp at h
      · obtain ⟨fields, hfields, rfl⟩ := Option.map_eq_some_iff.1 h
        exact Json.ordered_object_sortFields (jsonFields?_ordered entries hfields)

/-- The values that nodes write are ordered. -/
theorem jsonItems?_ordered : (nodes : List Node) → {values : List Json} →
    jsonItems? nodes = some values → Json.OrderedItems values
  | [], values, h => by
      obtain rfl : [] = values := by simpa [jsonItems?] using h
      simp only [Json.OrderedItems]
  | node :: rest, values, h => by
      simp only [jsonItems?] at h
      split at h
      · next item items hitem hitems =>
        obtain rfl : item :: items = values := by simpa using h
        exact ⟨node.json?_ordered hitem, jsonItems?_ordered rest hitems⟩
      · simp at h

/-- The fields that the entries of a mapping write have ordered values. -/
theorem jsonFields?_ordered : (entries : List (Node × Node)) → {fields : List (String × Json)} →
    jsonFields? entries = some fields → Json.OrderedFields fields
  | [], fields, h => by
      obtain rfl : [] = fields := by simpa [jsonFields?] using h
      simp only [Json.OrderedFields]
  | (key, node) :: rest, fields, h => by
      simp only [jsonFields?] at h
      split at h
      · next name value found hname hvalue hfound =>
        obtain rfl : (name, value) :: found = fields := by simpa using h
        exact ⟨node.json?_ordered hvalue, jsonFields?_ordered rest hfound⟩
      · simp at h

end

/-- The value that a text writes is ordered. -/
theorem readJson?_ordered {text : String} {value : Json} (h : readJson? text = some value) :
    value.Ordered := by
  obtain ⟨node, _, hnode⟩ := Option.bind_eq_some_iff.1 h
  exact node.json?_ordered hnode

end FleetOperator.Yaml
