/-!
# Dictionaries

Finite maps from texts, kept as a list of entries in strictly increasing key order. Two
dictionaries with the same value at every key are equal.
-/

namespace FleetOperator

/-- A finite map from texts: its entries in strictly increasing key order. -/
structure Dict (α : Type) where
  entries : List (String × α)
  increasing : entries.Pairwise fun a b ↦ a.1 < b.1
deriving DecidableEq

namespace Dict

variable {α β : Type}

/-- The dictionary without entries. -/
def empty : Dict α := ⟨[], .nil⟩

instance : Inhabited (Dict α) := ⟨empty⟩

instance [Repr α] : Repr (Dict α) := ⟨fun dict _ ↦ repr dict.entries⟩

/-- An entry put among entries in key order, in place of an entry with the same key. -/
def put (key : String) (value : α) : List (String × α) → List (String × α)
  | [] => [(key, value)]
  | (k, v) :: rest =>
    if key = k then (key, value) :: rest
    else if key < k then (key, value) :: (k, v) :: rest
    else (k, v) :: put key value rest

theorem mem_put {key : String} {value : α} {entry : String × α} :
    ∀ {list : List (String × α)}, entry ∈ put key value list → entry = (key, value) ∨ entry ∈ list
  | [], h => by simpa [put] using h
  | (k, v) :: rest, h => by
    unfold put at h
    split at h
    · simp only [List.mem_cons] at h ⊢
      exact h.imp_right .inr
    · split at h
      · simpa using h
      · simp only [List.mem_cons] at h ⊢
        rcases h with h | h
        · exact .inr (.inl h)
        · exact (mem_put h).imp_right .inr

theorem put_increasing (key : String) (value : α) :
    ∀ {list : List (String × α)}, list.Pairwise (fun a b ↦ a.1 < b.1) →
      (put key value list).Pairwise fun a b ↦ a.1 < b.1
  | [], _ => by simp [put]
  | (k, v) :: rest, h => by
    obtain ⟨above, sorted⟩ := List.pairwise_cons.1 h
    unfold put
    split
    · next same => exact List.pairwise_cons.2 ⟨fun e he ↦ same ▸ above e he, sorted⟩
    · split
      · next less =>
        refine List.pairwise_cons.2 ⟨fun e he ↦ ?_, h⟩
        rcases List.mem_cons.1 he with rfl | he
        · exact less
        · exact String.lt_trans less (above e he)
      · next different notLess =>
        refine List.pairwise_cons.2 ⟨fun e he ↦ ?_, put_increasing key value sorted⟩
        rcases mem_put he with rfl | he
        · exact Std.lt_of_le_of_ne (Std.not_lt.1 notLess) fun h ↦ different h.symm
        · exact above e he

/-- A dictionary with a value at a key. -/
def insert (dict : Dict α) (key : String) (value : α) : Dict α :=
  ⟨put key value dict.entries, put_increasing key value dict.increasing⟩

/-- The value of the first entry with a key. -/
def find (key : String) : List (String × α) → Option α
  | [] => none
  | (k, value) :: rest => if k = key then some value else find key rest

/-- The value at a key. -/
def get? (dict : Dict α) (key : String) : Option α := find key dict.entries

/-- Whether there is a value at a key. -/
def contains (dict : Dict α) (key : String) : Bool := (dict.get? key).isSome

/-- A dictionary with those entries alone whose key and value pass a test. -/
def filter (dict : Dict α) (keep : String → α → Bool) : Dict α :=
  ⟨dict.entries.filter fun e ↦ keep e.1 e.2, dict.increasing.filter _⟩

/-- A dictionary without the value at a key. -/
def erase (dict : Dict α) (key : String) : Dict α := dict.filter fun k _ ↦ k != key

/-- The dictionary of a list of entries, where the last of the entries with one key stands. -/
def ofList (list : List (String × α)) : Dict α :=
  list.foldl (fun dict entry ↦ dict.insert entry.1 entry.2) empty

/-- The entries in key order. -/
def toList (dict : Dict α) : List (String × α) := dict.entries

/-- The keys in order. -/
def keys (dict : Dict α) : List String := dict.entries.map (·.1)

/-- Whether there is no entry. -/
def isEmpty (dict : Dict α) : Bool := dict.entries.isEmpty

/-- A dictionary with a function applied to every entry's value. -/
def mapValues (dict : Dict α) (f : String → α → β) : Dict β :=
  ⟨dict.entries.map fun e ↦ (e.1, f e.1 e.2), by
    rw [List.pairwise_map]
    exact dict.increasing⟩

end Dict

end FleetOperator
