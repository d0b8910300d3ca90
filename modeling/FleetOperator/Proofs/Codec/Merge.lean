import FleetOperator.Proofs.Codec.Records
import FleetOperator.Proofs.Json.Coverage

/-!
# Typed values written by merge patches

What is read back when the written form of a value is merged over what is stored. Read
`Codec.Mergeable` first: the value is read back exactly if its written form covers that of the value
which was stored before. `record_mergeable` gives this law for records, so that of a whole resource
follows from those of texts, numbers, lists and dictionaries; `record_covers_iff` says field by field
what is covered.
-/

namespace FleetOperator

variable {ρ α f : Type}

/-- A codec whose written values can be merged over stored ones: over nothing a value reads back,
and over what an older value is read from exactly if it covers the older value. -/
structure Codec.Mergeable (c : Codec α) : Prop extends c.Lawful where
  fresh : ∀ value, c.ofJson? (Json.null.mergePatch (c.toJson value)) = some value
  merges_iff : ∀ {stored : Json} {old : α} (value : α), stored.Ordered →
    c.ofJson? stored = some old → stored.follows (c.toJson old) = true →
    (c.ofJson? (stored.mergePatch (c.toJson value)) = some value ↔
      (c.toJson value).covers (c.toJson old) = true)

/-- A field whose written values can be merged over stored ones. -/
structure Field.Mergeable (field : Field ρ α) : Prop where
  lawful : field.Lawful
  fresh : ∀ value, field.readAt (Json.changed none (field.written value)) = some value
  merges_iff : ∀ {stored : Option Json} {old : α} (value : α),
    (∀ json, stored = some json → json.Ordered) → field.readAt stored = some old →
    Json.followsAt stored (field.written old) = true →
    (field.readAt (Json.changed stored (field.written value)) = some value ↔
      Json.coversAt (field.written value) (field.written old) = true)

namespace Fields

/-- Every field of a record can be merged. -/
@[simp] def Mergeable {f : Type} : Fields ρ f → Prop
  | done => True
  | next field rest => field.Mergeable ∧ rest.Mergeable

/-- Whether a record leaves no field of an older one behind. -/
def Covers {f : Type} : Fields ρ f → ρ → ρ → Prop
  | done, _, _ => True
  | next field rest, record, old =>
    Json.coversAt (field.written (field.get record)) (field.written (field.get old)) = true ∧
      rest.Covers record old

/-- The fields of a record type, as far as merging needs to know: no name is repeated, a record is
made of the values of its fields and of nothing else, and each field can be merged. -/
structure Sound (make : f) (fields : Fields ρ f) : Prop where
  names : fields.names.Nodup
  projects : fields.Projects make
  rebuild : ∀ record, fields.rebuild make record = record
  mergeable : fields.Mergeable

theorem Mergeable.lawful {f : Type} {fields : Fields ρ f} (h : fields.Mergeable) :
    fields.Lawful := by
  induction fields with
  | done => trivial
  | next field rest ih => exact ⟨h.1.lawful, ih h.2⟩

/-- A record covers an older one exactly if it does so under every name, if no name is repeated. -/
theorem covers_iff {f : Type} {fields : Fields ρ f} (hnames : fields.names.Nodup)
    (record old : ρ) : fields.Covers record old ↔
      ∀ key, Json.coversAt (fields.writtenAt key record) (fields.writtenAt key old) = true := by
  induction fields with
  | done => simp [Covers, writtenAt]
  | next field rest ih =>
      obtain ⟨hfresh, hrest⟩ := List.nodup_cons.1 hnames
      rw [Covers, ih hrest]
      constructor
      · rintro ⟨hfield, hothers⟩ key
        simp only [writtenAt]
        split
        · exact hfield
        · exact hothers key
      · intro h
        refine ⟨by simpa [writtenAt] using h field.name, fun key ↦ ?_⟩
        by_cases hkey : field.name = key
        · subst hkey
          rw [writtenAt_eq_none hfresh old, Json.coversAt_none]
        · simpa [writtenAt, hkey] using h key

/-- What is stored under the names of a record, changed by what is written for a record, reads as
this record in each field. -/
theorem reads_changed_iff {f : Type} {fields : Fields ρ f} (hnames : fields.names.Nodup)
    (hfields : fields.Mergeable) {found : String → Option Json} {old : ρ} (record : ρ)
    (hordered : ∀ key json, found key = some json → json.Ordered) (hread : fields.Reads found old)
    (hfollows : ∀ key ∈ fields.names,
      Json.followsAt (found key) (fields.writtenAt key old) = true) :
    fields.Reads (fun key ↦ Json.changed (found key) (fields.writtenAt key record)) record ↔
      fields.Covers record old := by
  induction fields with
  | done => exact Iff.rfl
  | next field rest ih =>
      obtain ⟨hfresh, hrest⟩ := List.nodup_cons.1 hnames
      obtain ⟨hfield, hothers⟩ := hfields
      have hskip : ∀ key ∈ rest.names, ∀ other : ρ,
          (next field rest).writtenAt key other = rest.writtenAt key other := by
        intro key hkey other
        have hne : field.name ≠ key := fun heq ↦ hfresh (heq ▸ hkey)
        rw [writtenAt, if_neg hne]
      have hown := hfollows field.name List.mem_cons_self
      have hmerged := hfield.merges_iff (field.get record) (hordered field.name) hread.1
        (by simpa [writtenAt] using hown)
      have hlater := ih hrest hothers hread.2 fun key hkey ↦
        hskip key hkey old ▸ hfollows key (List.mem_cons_of_mem _ hkey)
      rw [Reads, Covers, reads_congr fun key hkey ↦ by rw [hskip key hkey record], hlater]
      simp only [writtenAt, if_pos]
      rw [hmerged]

/-- What is written for a record over nothing reads as the record in each field. -/
theorem reads_fresh {f : Type} {fields : Fields ρ f} (hnames : fields.names.Nodup)
    (hfields : fields.Mergeable) (record : ρ) :
    fields.Reads (fun key ↦ Json.changed none (fields.writtenAt key record)) record := by
  induction fields with
  | done => trivial
  | next field rest ih =>
      obtain ⟨hfresh, hrest⟩ := List.nodup_cons.1 hnames
      refine ⟨by simpa [writtenAt] using hfields.1.fresh (field.get record), ?_⟩
      refine (reads_congr (fun key hkey ↦ ?_) record).1 (ih hrest hfields.2)
      have hne : field.name ≠ key := fun heq ↦ hfresh (heq ▸ hkey)
      rw [writtenAt, if_neg hne]

end Fields

namespace Codec

variable {make : f} {fields : Fields ρ f}

/-- A record covers an older one exactly if it leaves none of its fields behind. -/
theorem record_covers_iff (hnames : fields.names.Nodup) (record old : ρ) :
    ((Codec.record make fields).toJson record).covers ((Codec.record make fields).toJson old) =
        true ↔
      fields.Covers record old := by
  rw [record_toJson, record_toJson, Json.covers,
    Json.coversFields_iff (Dict.nodup_of_increasing (Json.sortFields_increasing _)),
    Fields.covers_iff hnames]
  simp only [Fields.lookup_encode hnames]

/-- Records of fields that can be merged can be merged. -/
theorem record_mergeable (h : Fields.Sound make fields) : (Codec.record make fields).Mergeable where
  toLawful := record_lawful h.names h.mergeable.lawful h.rebuild
  fresh := by
    intro value
    have hordered : ((Codec.record make fields).toJson value).Ordered := toJson_ordered _ _
    have hmerged := (show Json.null.Ordered from trivial).mergePatch _ hordered
    rw [record_toJson] at hordered hmerged ⊢
    rw [Json.mergePatch] at hmerged ⊢
    rw [record_ofJson?_iff h.projects h.rebuild hmerged.nodup]
    refine (Fields.reads_congr (fun key _ ↦ ?_) value).1
      (Fields.reads_fresh h.names h.mergeable value)
    rw [Json.lookup_mergeFields hordered.nodup, Fields.lookup_encode h.names]
    rfl
  merges_iff := by
    intro stored old value hstored hread hfollows
    have hordered : ((Codec.record make fields).toJson value).Ordered := toJson_ordered _ _
    have hmerged := hstored.mergePatch _ hordered
    rw [record_covers_iff h.names]
    rw [record_toJson] at hfollows hordered hmerged ⊢
    obtain ⟨object, rfl⟩ := Json.object_of_follows hfollows
    rw [Json.mergePatch] at hmerged ⊢
    rw [Json.follows,
      Json.followsFields_iff (Dict.nodup_of_increasing (Json.sortFields_increasing _))] at hfollows
    rw [record_ofJson?_iff h.projects h.rebuild hstored.nodup] at hread
    rw [record_ofJson?_iff h.projects h.rebuild hmerged.nodup,
      ← Fields.reads_changed_iff h.names h.mergeable value
        (fun _ _ hfound ↦ Json.Ordered.of_lookup hstored.2 hfound) hread
        fun key _ ↦ by rw [← Fields.lookup_encode h.names]; exact hfollows key]
    refine Fields.reads_congr (fun key _ ↦ ?_) value
    rw [Json.lookup_mergeFields hordered.nodup, Fields.lookup_encode h.names]
    rfl

variable {c : Codec α}

/-- A description does not matter for what is written. -/
theorem described_toJson (description : String) (value : α) :
    (c.described description).toJson value = c.toJson value := rfl

/-- A description does not matter for merging. -/
theorem described_mergeable {description : String} (h : c.Mergeable) :
    (c.described description).Mergeable :=
  ⟨⟨h.read, h.not_null⟩, h.fresh, h.merges_iff⟩

/-! ## Values that are no objects -/

/-- What is written as no object replaces what was stored. -/
theorem mergeable_of_atomic (h : c.Lawful)
    (hatomic : ∀ value fields, c.toJson value ≠ .object fields) :
    c.Mergeable where
  toLawful := h
  fresh value := by
    rw [Json.mergePatch_of_not_object (hatomic value)]
    exact h.read value
  merges_iff value _ _ _ := by
    rw [Json.mergePatch_of_not_object (hatomic value)]
    exact iff_of_true (h.read value) (Json.covers_of_not_object (hatomic value) _)

/-- Texts can be merged. -/
@[simp] theorem text_mergeable : Codec.text.Mergeable := mergeable_of_atomic text_lawful (by simp)

/-- Flags can be merged. -/
@[simp] theorem flag_mergeable : Codec.flag.Mergeable := mergeable_of_atomic flag_lawful (by simp)

@[simp] theorem int32_toJson (value : Int32) :
    int32.toJson value = .number (.integer value.toInt) := by
  show Json.sorted (.number (.integer value.toInt)) = _
  simp only [Json.sorted]

@[simp] theorem uint32_toJson (value : UInt32) :
    uint32.toJson value = .number (.integer value.toNat) := by
  show Json.sorted (.number (.integer value.toNat)) = _
  simp only [Json.sorted]

/-- A number of 32 bits with a sign is the one of its integer. -/
theorem int32OfInt?_toInt (value : Int32) : int32OfInt? value.toInt = some value := by
  rw [int32OfInt?, if_pos ⟨value.le_toInt, value.toInt_lt⟩, Int32.ofInt_toInt]

/-- A number of 32 bits without a sign is the one of its integer. -/
theorem uint32OfInt?_toNat (value : UInt32) : uint32OfInt? value.toNat = some value := by
  have hhigh : value.toNat < Nat.pow 2 32 := value.toNat_lt
  have hrange : (0 : Int) ≤ value.toNat ∧ (value.toNat : Int) < (Nat.pow 2 32 : Nat) :=
    ⟨Int.natCast_nonneg _, Int.ofNat_lt.2 hhigh⟩
  rw [uint32OfInt?, if_pos hrange, Int.toNat_natCast, UInt32.ofNat_toNat]

/-- Integers of 32 bits with a sign can be merged. -/
@[simp] theorem int32_mergeable : Codec.int32.Mergeable := by
  refine mergeable_of_atomic ⟨fun value ↦ ?_, by simp⟩ (by simp)
  have hread : ∀ source, int32.decode? source = source.integer?.bind int32OfInt? := fun _ ↦ rfl
  rw [int32_toJson, ofJson?, hread, Source.integer?, Option.bind_some, int32OfInt?_toInt]

/-- Integers of 32 bits without a sign can be merged. -/
@[simp] theorem uint32_mergeable : Codec.uint32.Mergeable := by
  refine mergeable_of_atomic ⟨fun value ↦ ?_, by simp⟩ (by simp)
  have hread : ∀ source, uint32.decode? source = source.integer?.bind uint32OfInt? := fun _ ↦ rfl
  rw [uint32_toJson, ofJson?, hread, Source.integer?, Option.bind_some, uint32OfInt?_toNat]

/-- Words can be merged, if each is found under its spelling. -/
theorem choice_mergeable {spelling : α → String} {choices : List α}
    (h : ∀ value, findWord spelling (spelling value) choices = some value) :
    (Codec.choice spelling choices).Mergeable := by
  refine mergeable_of_atomic ⟨fun value ↦ ?_, ?_⟩ ?_
  · simp [ofJson?, toJson, choice, Json.sorted, Source.word?, h]
  · simp [toJson, choice, Json.sorted]
  · simp [toJson, choice, Json.sorted]

/-- A list is written item by item. -/
@[simp] theorem list_toJson (items : List α) :
    c.list.toJson items = .array (items.map c.toJson) := by
  have hitems : Json.sortedItems (items.map c.encode) = items.map c.toJson := by
    induction items with
    | nil => rfl
    | cons item rest ih => exact congrArg (c.toJson item :: ·) ih
  rw [toJson, list, Json.sorted, hitems]

/-- Lists of what can be merged can be merged: they replace what was stored. -/
@[simp] theorem list_mergeable (h : c.Mergeable) : c.list.Mergeable :=
  mergeable_of_atomic (list_lawful h.toLawful) (by simp)

/-! ## Dictionaries -/

/-- What is read from the fields of an object, one after another. -/
theorem decodeEntries?_iff {fields : List (String × Json)} {entries : List (String × α)} :
    decodeEntries? c.decode? (fields.map fun field ↦ (field.1, Source.json field.2)) =
        some entries ↔
      fields.map (fun field ↦ (field.1, c.ofJson? field.2)) =
        entries.map fun entry ↦ (entry.1, some entry.2) := by
  induction fields generalizing entries with
  | nil => cases entries <;> simp [decodeEntries?]
  | cons field rest ih =>
      obtain ⟨key, json⟩ := field
      simp only [List.map_cons, decodeEntries?]
      constructor
      · intro h
        split at h
        · next value others hvalue hothers =>
          obtain rfl := Option.some.inj h
          rw [List.map_cons, ih.1 hothers, ofJson?, hvalue]
        · simp at h
      · intro h
        cases entries with
        | nil => simp at h
        | cons entry others =>
            obtain ⟨hfirst, hrest⟩ := List.cons.inj h
            obtain ⟨rfl, hvalue⟩ := Prod.mk.inj hfirst
            have hread : c.decode? (.json json) = some entry.2 := hvalue
            rw [ih.2 hrest, hread]

/-- A dictionary is read from an object exactly if each of its values is read under its key, and
nothing else is there. -/
theorem dict_ofJson?_iff {fields : List (String × Json)}
    (h : fields.Pairwise fun a b ↦ a.1 < b.1) (dict : Dict α) :
    c.dict.ofJson? (.object fields) = some dict ↔
      ∀ key, (Json.lookup key fields).map c.ofJson? = (dict.get? key).map some := by
  have hread : c.dict.ofJson? (.object fields) = (decodeEntries? c.decode?
      (fields.map fun field ↦ (field.1, Source.json field.2))).map Dict.ofList := rfl
  have hfound : ∀ key, (Json.lookup key fields).map c.ofJson? =
      Dict.find key (fields.map fun field ↦ (field.1, c.ofJson? field.2)) := by
    intro key
    rw [Json.lookup_eq_find, Dict.find_map]
  rw [hread, Option.map_eq_some_iff]
  constructor
  · rintro ⟨entries, hentries, rfl⟩ key
    have hsame := decodeEntries?_iff.1 hentries
    have hkeys : entries.map (·.1) = fields.map (·.1) := by
      simpa [Function.comp_def] using (congrArg (List.map (·.1)) hsame).symm
    rw [Dict.get?_ofList_of_nodup (hkeys ▸ Dict.nodup_of_increasing h), hfound, hsame,
      Dict.find_map]
  · intro hall
    refine ⟨dict.entries, decodeEntries?_iff.2 ?_, dict.ofList_toList⟩
    refine Dict.eq_of_find_eq ?_ ?_ fun key ↦ ?_
    · rw [List.pairwise_map]
      exact h
    · rw [List.pairwise_map]
      exact dict.increasing
    · rw [← hfound, Dict.find_map]
      exact hall key

/-- A dictionary covers an older one exactly if its values do under every key. -/
theorem dict_covers_iff (c : Codec α) (dict old : Dict α) :
    (c.dict.toJson dict).covers (c.dict.toJson old) = true ↔
      ∀ key, Json.coversAt ((dict.get? key).map c.toJson) ((old.get? key).map c.toJson) = true := by
  rw [dict_toJson, dict_toJson, Json.covers,
    Json.coversFields_iff (Dict.nodup_of_increasing (Dict.increasing _))]
  simp only [lookup_mapValues]

/-- Dictionaries of what can be merged can be merged. -/
@[simp] theorem dict_mergeable (h : c.Mergeable) : c.dict.Mergeable where
  toLawful := dict_lawful h.toLawful
  fresh := by
    intro dict
    have hordered := toJson_ordered c.dict dict
    have hmerged := (show Json.null.Ordered from trivial).mergePatch _ hordered
    rw [dict_toJson] at hordered hmerged ⊢
    rw [Json.mergePatch] at hmerged ⊢
    rw [dict_ofJson?_iff hmerged.1]
    intro key
    rw [Json.lookup_mergeFields hordered.nodup, lookup_mapValues]
    cases dict.get? key with
    | none => rfl
    | some value =>
        rw [Option.map_some, Json.changed_some (h.not_null value), Option.map_some]
        exact congrArg some (h.fresh value)
  merges_iff := by
    intro stored old dict hstored hread hfollows
    have hordered := toJson_ordered c.dict dict
    have hmerged := hstored.mergePatch _ hordered
    rw [dict_covers_iff]
    rw [dict_toJson] at hfollows hordered hmerged ⊢
    obtain ⟨fields, rfl⟩ := Json.object_of_follows hfollows
    have hfields : Json.fieldsOf (.object fields) = fields := rfl
    rw [Json.mergePatch, hfields] at hmerged ⊢
    rw [Json.follows, Json.followsFields_iff (Dict.nodup_of_increasing (Dict.increasing _))]
      at hfollows
    rw [dict_ofJson?_iff hstored.1] at hread
    rw [dict_ofJson?_iff hmerged.1]
    refine forall_congr' fun key ↦ ?_
    have hown := hread key
    have hshape := hfollows key
    rw [lookup_mapValues] at hshape
    rw [Json.lookup_mergeFields hordered.nodup, lookup_mapValues]
    -- Under a key there may be something stored or not, and something new or not.
    cases hnew : dict.get? key with
    | none =>
        rw [Option.map_none, Option.map_none, Json.changed]
        rw [hown]
        cases old.get? key with
        | none => simp
        | some own => simp [h.not_null own]
    | some value =>
        rw [Option.map_some, Json.changed_some (h.not_null value), Option.map_some,
          Option.map_some, Option.some.injEq]
        cases hheld : Json.lookup key fields with
        | none =>
            rw [hheld] at hown
            obtain hnone : old.get? key = none := by simpa using hown.symm
            rw [hnone]
            exact iff_of_true (h.fresh value) rfl
        | some json =>
            rw [hheld] at hown hshape
            obtain ⟨own, hsome, hjson⟩ : ∃ own, old.get? key = some own ∧
                c.ofJson? json = some own := by
              cases hgot : old.get? key with
              | none => simp [hgot] at hown
              | some own => exact ⟨own, rfl, by simpa [hgot] using hown⟩
            rw [hsome] at hshape ⊢
            rw [Option.map_some, Json.coversAt_present _ (h.not_null own)]
            exact h.merges_iff value (Json.Ordered.of_lookup hstored.2 hheld) hjson hshape

end Codec

end FleetOperator
