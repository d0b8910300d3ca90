import FleetOperator.Proofs.Codec.Lawful

/-!
# Records field by field

A record is written and read one field at a time. Read `lookup_encode` and `decode?_eq_some_iff`
first: the written record has each field under its name, if it is written at all, and a record is
what is read from an object exactly if each of its fields is what is read under the field's name.
-/

namespace FleetOperator

variable {ρ α f : Type}

namespace Field

/-- A value of the field as it is written, if it is. -/
def written (field : Field ρ α) (value : α) : Option Json :=
  if field.omits value then none else some (field.codec.toJson value)

/-- The value of the field that is read from what stands under its name, if anything does. -/
def readAt (field : Field ρ α) : Option Json → Option α
  | none => field.missing
  | some json => field.codec.ofJson? json

/-- The value of a field among the fields of an object is what is read under its name. -/
theorem decode?_eq (field : Field ρ α) {fields : List (String × Json)}
    (h : (fields.map (·.1)).Nodup) :
    field.decode? (fields.map fun entry ↦ (entry.1, Source.json entry.2)) =
      field.readAt (Json.lookup field.name fields) := by
  rw [decode?, sourcesOf_eq h]
  cases Json.lookup field.name fields <;> rfl

end Field

namespace Fields

/-- The field of a record with a name as it is written, if it is. -/
def writtenAt (key : String) {f : Type} : Fields ρ f → ρ → Option Json
  | done, _ => none
  | next field rest, record =>
    if field.name = key then field.written (field.get record) else rest.writtenAt key record

/-- Whether a record has the values that are read under the names of its fields. -/
def Reads (found : String → Option Json) {f : Type} : Fields ρ f → ρ → Prop
  | done, _ => True
  | next field rest, record =>
    field.readAt (found field.name) = some (field.get record) ∧ rest.Reads found record

/-- Whether every record that can be made has a property. -/
@[simp] def All {f : Type} : Fields ρ f → f → (ρ → Prop) → Prop
  | done, record, p => p record
  | next _ rest, make, p => ∀ value, rest.All (make value) p

/-- Whether every record that is made has the values of the fields that it was made from. -/
@[simp] def Projects {f : Type} : Fields ρ f → f → Prop
  | done, _ => True
  | next field rest, make =>
    ∀ value, rest.All (make value) (fun record ↦ field.get record = value) ∧
      rest.Projects (make value)

/-- No further field has a name. -/
theorem writtenAt_eq_none {f : Type} {fields : Fields ρ f} {key : String}
    (h : key ∉ fields.names) (record : ρ) : fields.writtenAt key record = none := by
  induction fields with
  | done => rfl
  | next field rest ih =>
      obtain ⟨hname, hrest⟩ : key ≠ field.name ∧ key ∉ rest.names := by
        simpa only [names, List.mem_cons, not_or] using h
      rw [writtenAt, if_neg (Ne.symm hname), ih hrest]

/-- A written record has each field under its name, if no name is repeated. -/
theorem lookup_encode {f : Type} {fields : Fields ρ f} (hnames : fields.names.Nodup) (record : ρ)
    (key : String) :
    Json.lookup key (Json.sortFields (Json.sortedFields (fields.encode record))) =
      fields.writtenAt key record := by
  rw [Json.lookup_sorted (hnames.sublist (fields.encode_keys_sublist record))]
  induction fields with
  | done => rfl
  | next field rest ih =>
      obtain ⟨hfresh, hrest⟩ := List.nodup_cons.1 hnames
      have hmissing : Json.lookup field.name (rest.encode record) = none := by
        rw [Json.lookup_eq_find, Dict.find_eq_none_iff]
        exact fun hmem ↦ hfresh ((rest.encode_keys_sublist record).subset hmem)
      simp only [encode, Field.encode, writtenAt, Field.written]
      by_cases hkey : field.name = key
      · subst hkey
        split
        · simp [hmissing]
        · simp [Json.lookup, Codec.toJson]
      · rw [if_neg hkey, ← ih hrest]
        split
        · rfl
        · simp [Json.lookup, hkey]

/-- Whether a record has the values that are read depends on what stands under its names alone. -/
theorem reads_congr {f : Type} {fields : Fields ρ f} {found other : String → Option Json}
    (h : ∀ key ∈ fields.names, found key = other key) (record : ρ) :
    fields.Reads found record ↔ fields.Reads other record := by
  induction fields with
  | done => exact Iff.rfl
  | next field rest ih =>
      simp only [Reads, h field.name List.mem_cons_self,
        ih fun key hkey ↦ h key (List.mem_cons_of_mem _ hkey)]

/-- A record that is read is one of those that can be made. -/
theorem All.of_decode? {f : Type} {fields : Fields ρ f} {make : f} {p : ρ → Prop}
    (h : fields.All make p) {sources : List (String × Source)} {record : ρ}
    (hread : fields.decode? make sources = some record) : p record := by
  induction fields with
  | done =>
      obtain rfl := Option.some.inj hread
      exact h
  | next field rest ih =>
      simp only [decode?] at hread
      split at hread
      · next value _ => exact ih (h value) hread
      · simp at hread

/-- A record is read from the fields of an object exactly if each of its values is read under the
name of the field. -/
theorem decode?_eq_some_iff {f : Type} {fields : Fields ρ f} {make : f}
    (hprojects : fields.Projects make) (hrebuild : ∀ record, fields.rebuild make record = record)
    {object : List (String × Json)} (hkeys : (object.map (·.1)).Nodup) (record : ρ) :
    fields.decode? make (object.map fun entry ↦ (entry.1, Source.json entry.2)) = some record ↔
      fields.Reads (Json.lookup · object) record := by
  -- For a part of the fields only the record that they complete is rebuilt.
  have hpart : ∀ {g : Type} (rest : Fields ρ g) (made : g), rest.Projects made →
      (rest.decode? made (object.map fun entry ↦ (entry.1, Source.json entry.2)) = some record ↔
        rest.Reads (Json.lookup · object) record ∧ rest.rebuild made record = record) := by
    intro g rest
    induction rest with
    | done =>
        intro made _
        simp [decode?, Reads, rebuild]
    | next field rest ih =>
        intro made hmade
        simp only [decode?, Reads, rebuild, Field.decode?_eq field hkeys]
        cases hvalue : field.readAt (Json.lookup field.name object) with
        | none => simp
        | some value =>
            obtain ⟨hget, hrest⟩ := hmade value
            dsimp only
            rw [ih (made value) hrest, Option.some.injEq]
            constructor
            · rintro ⟨hreads, hrebuilt⟩
              obtain rfl := hget.of_decode? ((ih (made value) hrest).2 ⟨hreads, hrebuilt⟩)
              exact ⟨⟨rfl, hreads⟩, hrebuilt⟩
            · rintro ⟨⟨rfl, hreads⟩, hrebuilt⟩
              exact ⟨hreads, hrebuilt⟩
  rw [hpart fields make hprojects]
  exact and_iff_left (hrebuild record)

end Fields

namespace Codec

variable {make : f} {fields : Fields ρ f}

/-- A record that is read from objects alone is written in the same way. -/
theorem keyedRecord_toJson (record : ρ) :
    (Codec.keyedRecord make fields).toJson record =
      .object (Json.sortFields (Json.sortedFields (fields.encode record))) := by
  simp [toJson, Codec.keyedRecord, Json.sorted]

/-- A record is read from an object exactly if each of its values is read under the name of the
field. -/
theorem record_ofJson?_iff (hprojects : fields.Projects make)
    (hrebuild : ∀ record, fields.rebuild make record = record) {object : List (String × Json)}
    (hkeys : (object.map (·.1)).Nodup) (record : ρ) :
    (Codec.record make fields).ofJson? (.object object) = some record ↔
      fields.Reads (Json.lookup · object) record := by
  rw [← Fields.decode?_eq_some_iff hprojects hrebuild hkeys]
  rfl

/-- A record that is read from objects alone is read exactly if each of its values is. -/
theorem keyedRecord_ofJson?_iff (hprojects : fields.Projects make)
    (hrebuild : ∀ record, fields.rebuild make record = record) {object : List (String × Json)}
    (hkeys : (object.map (·.1)).Nodup) (record : ρ) :
    (Codec.keyedRecord make fields).ofJson? (.object object) = some record ↔
      fields.Reads (Json.lookup · object) record := by
  rw [← Fields.decode?_eq_some_iff hprojects hrebuild hkeys]
  rfl

end Codec

end FleetOperator
