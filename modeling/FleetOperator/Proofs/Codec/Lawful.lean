import FleetOperator.Proofs.Codec.Equivalence

/-!
# Codecs that read back what they write

A codec is lawful when reading a written value gives the value again and no value is written as
null. Read `record_lawful` first: a record whose fields are lawful is lawful, so the law of a whole
document follows from those of texts, flags, lists and dictionaries.
-/

namespace FleetOperator

variable {ρ α f : Type}

/-- A codec reads back what it writes, and writes no value as null. -/
structure Codec.Lawful (c : Codec α) : Prop where
  read : ∀ value, c.ofJson? (c.toJson value) = some value
  not_null : ∀ value, c.toJson value ≠ .null

/-- A field reads back what it writes, and a missing field stands for the value that is not
written. -/
def Field.Lawful (field : Field ρ α) : Prop :=
  ∀ value, if field.omits value then field.missing = some value
    else field.codec.ofJson? (field.codec.toJson value) = some value

/-- Every field of a record is lawful. -/
def Fields.Lawful {f : Type} : Fields ρ f → Prop
  | .done => True
  | .next field rest => field.Lawful ∧ rest.Lawful

namespace Field

/-- The sources of a key among fields without repeated keys are the one of the field with the key. -/
theorem sourcesOf_eq {fields : List (String × Json)} (h : (fields.map (·.1)).Nodup) (key : String) :
    sourcesOf key (fields.map fun entry ↦ (entry.1, Source.json entry.2)) =
      ((Json.lookup key fields).map Source.json).toList := by
  induction fields with
  | nil => rfl
  | cons entry rest ih =>
      obtain ⟨k, value⟩ := entry
      obtain ⟨hfresh, hrest⟩ := List.nodup_cons.1 h
      by_cases hk : k = key
      · subst hk
        have hmissing : Json.lookup k rest = none := by
          rw [Json.lookup_eq_find]
          exact Dict.find_eq_none_iff.2 hfresh
        simp [sourcesOf, Json.lookup, ih hrest, hmissing]
      · simp [sourcesOf, Json.lookup, hk, ih hrest]

end Field

namespace Fields

/-- Lawful fields read a record back from sources that hold its written fields by name. -/
theorem decode?_of_lawful {f : Type} {fields : Fields ρ f} (hnames : fields.names.Nodup)
    (hlawful : fields.Lawful) (make : f) (record : ρ) (sources : List (String × Source))
    (hsources : ∀ key ∈ fields.names, Field.sourcesOf key sources =
      ((Json.lookup key (fields.encode record)).map fun value ↦ Source.json value.sorted).toList) :
    fields.decode? make sources = some (fields.rebuild make record) := by
  induction fields with
  | done => rfl
  | next field rest ih =>
      obtain ⟨hfresh, hrest⟩ := List.nodup_cons.1 hnames
      obtain ⟨hfield, hothers⟩ := hlawful
      have hmissing : Json.lookup field.name (rest.encode record) = none := by
        rw [Json.lookup_eq_find, Dict.find_eq_none_iff]
        exact fun hmem ↦ hfresh ((rest.encode_keys_sublist record).subset hmem)
      have hread : field.decode? sources = some (field.get record) := by
        have hvalue := hfield (field.get record)
        have hown := hsources field.name List.mem_cons_self
        simp only [encode, Field.encode] at hown
        by_cases homits : field.omits (field.get record) = true
        · rw [if_pos homits] at hvalue hown
          rw [List.nil_append, hmissing] at hown
          simp only [Field.decode?, hown]
          exact hvalue
        · rw [if_neg homits] at hvalue hown
          rw [List.cons_append, Json.lookup, if_pos rfl] at hown
          simp only [Field.decode?, hown]
          exact hvalue
      rw [decode?, hread]
      -- The remaining fields see the same sources, since none of them has the name of this one.
      refine ih hrest hothers _ ?_
      intro key hkey
      have hne : field.name ≠ key := by
        rintro rfl
        exact hfresh hkey
      rw [hsources key (List.mem_cons_of_mem _ hkey)]
      simp only [encode, Field.encode]
      split
      · rfl
      · simp [Json.lookup, hne]

end Fields

namespace Codec

/-- A record of lawful fields is lawful, if no name is repeated and its fields make it up. -/
theorem record_lawful {make : f} {fields : Fields ρ f} (hnames : fields.names.Nodup)
    (hlawful : fields.Lawful) (hrebuild : ∀ record, fields.rebuild make record = record) :
    (record make fields).Lawful where
  read := by
    intro value
    have hkeys : ((fields.encode value).map (·.1)).Nodup :=
      hnames.sublist (fields.encode_keys_sublist value)
    have hread := Fields.decode?_of_lawful hnames hlawful make value
      ((Json.sortFields (Json.sortedFields (fields.encode value))).map fun entry ↦
        (entry.1, Source.json entry.2)) (by
        intro key _
        rw [Field.sourcesOf_eq (Dict.nodup_of_increasing (Json.sortFields_increasing _)),
          Json.lookup_sorted hkeys, Option.map_map]
        rfl)
    rw [hrebuild] at hread
    simpa [ofJson?, toJson, record, Json.sorted, Source.positions?, Source.fields?] using hread
  not_null := by
    intro value
    simp [toJson, record, Json.sorted]

/-- Texts are lawful. -/
theorem text_lawful : Codec.text.Lawful where
  read value := by simp [ofJson?, text, Source.text?, toJson, Json.sorted]
  not_null value := by simp

/-- Flags are lawful. -/
theorem flag_lawful : Codec.flag.Lawful where
  read value := by simp [ofJson?, flag, Source.bool?, toJson, Json.sorted]
  not_null value := by simp

variable {c : Codec α}

/-- Lists of what is lawful are lawful. -/
theorem list_lawful (h : c.Lawful) : c.list.Lawful where
  read := by
    intro items
    have hitems : decodeItems? c.decode? ((Json.sortedItems (items.map c.encode)).map Source.json) =
        some items := by
      induction items with
      | nil => rfl
      | cons item rest ih =>
          have hread : c.decode? (.json (c.encode item).sorted) = some item := h.read item
          simp [Json.sortedItems, decodeItems?, hread, ih]
    simpa [ofJson?, toJson, list, Json.sorted, Source.items?] using hitems
  not_null := by
    intro items
    simp [toJson, list, Json.sorted]

/-- Dictionaries of what is lawful are lawful. -/
theorem dict_lawful (h : c.Lawful) : c.dict.Lawful where
  read := by
    intro d
    have hentries : ∀ entries : List (String × α),
        decodeEntries? c.decode? (entries.map fun entry ↦
          (entry.1, Source.json (c.toJson entry.2))) = some entries := by
      intro entries
      induction entries with
      | nil => rfl
      | cons entry rest ih =>
          have hread : c.decode? (.json (c.toJson entry.2)) = some entry.2 := h.read entry.2
          simp [decodeEntries?, hread, ih]
    rw [dict_toJson, ofJson?]
    have hsame : (d.mapValues fun _ ↦ c.toJson).entries.map (fun field ↦
        (field.1, Source.json field.2)) =
          d.toList.map fun entry ↦ (entry.1, Source.json (c.toJson entry.2)) := by
      simp [Dict.mapValues, Dict.toList]
    simp [dict, Source.fields?, hsame, hentries]
  not_null := by
    intro d
    rw [dict_toJson]
    exact Json.noConfusion

/-- An optional value of a lawful codec is read back, where null stands for its absence. -/
theorem optional_read (h : c.Lawful) (value : Option α) :
    c.optional.ofJson? (c.optional.toJson value) = some value := by
  cases value with
  | none => rfl
  | some value =>
      have hread : c.decode? (.json (c.toJson value)) = some value := h.read value
      have hnull : Source.isNull? (.json (c.toJson value)) = some false := by
        simpa [Source.isNull?] using h.not_null value
      rw [optional_toJson_some]
      simp only [ofJson?, optional, hnull, hread, Option.map_some]

end Codec

namespace Field

variable {c : Codec α}

/-- A field that must be given is lawful if its codec is. -/
theorem required_lawful (h : c.Lawful) (name : String) (get : ρ → α) :
    (required name get c).Lawful := by
  intro value
  simpa [required] using h.read value

/-- A field with a default is lawful if its codec is. -/
theorem defaulted_lawful (h : c.Lawful) (name : String) (get : ρ → α) (value : α) :
    (defaulted name get c value).Lawful := by
  intro own
  simpa [defaulted] using h.read own

/-- An optional field is lawful if its codec is. -/
theorem optional_lawful (h : c.Lawful) (name : String) (get : ρ → Option α) :
    (optional name get c).Lawful := by
  intro value
  have hread := Codec.optional_read h value
  cases value with
  | none => rfl
  | some value => simpa [optional] using hread

/-- A list that is not written when it is empty is lawful if its codec is. -/
theorem list_lawful (h : c.Lawful) (name : String) (get : ρ → List α) :
    (list name get c).Lawful := by
  intro value
  cases value with
  | nil => rfl
  | cons item rest => simpa [list] using (Codec.list_lawful h).read (item :: rest)

/-- A dictionary that is not written when it is empty is lawful if its codec is. -/
theorem dict_lawful (h : c.Lawful) (name : String) (get : ρ → Dict α) :
    (dict name get c).Lawful := by
  intro value
  by_cases hempty : value.isEmpty = true
  · obtain rfl : value = .empty := Dict.isEmpty_iff.1 hempty
    rfl
  · simpa [dict, hempty] using (Codec.dict_lawful h).read value

end Field

end FleetOperator
