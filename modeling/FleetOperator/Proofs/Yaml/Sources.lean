import FleetOperator.Proofs.Codec.Equivalence
import FleetOperator.Proofs.Json.Canonical
import Mathlib.Data.List.Forall2

/-!
# Nodes as sources and as JSON values

A YAML node can be read as a typed value and can be written as a JSON value, and a mapping is both
entry by entry. Read `Yaml.exists_jsonFields?_map` first: when the values of a mapping's entries are
changed, the fields that it writes correspond to whatever the changed values correspond to one by
one, and by `Dict.get?_of_forall₂` so do the values under every key. `Yaml.Node.decode?_optional_cases`
says what is read of a node that is no mapping.
-/

namespace FleetOperator

open Yaml (Node Scalar localName? jsonFields?)

/-! ## Entries side by side -/

section Entries

variable {α β : Type} {R : α → β → Prop}

/-- Under a key, entries that correspond one by one hold values that correspond. -/
theorem Dict.find_of_forall₂ {as : List (String × α)} {bs : List (String × β)}
    (h : List.Forall₂ (fun a b ↦ a.1 = b.1 ∧ R a.2 b.2) as bs) (key : String) :
    Option.Rel R (find key as) (find key bs) := by
  induction h with
  | nil => exact .none
  | cons hentry _ ih =>
      simp only [find, hentry.1]
      split
      · exact .some hentry.2
      · exact ih

/-- Under a key, the dictionaries of entries that correspond one by one hold values that
correspond. -/
theorem Dict.get?_of_forall₂ {as : List (String × α)} {bs : List (String × β)}
    (h : List.Forall₂ (fun a b ↦ a.1 = b.1 ∧ R a.2 b.2) as bs) (key : String) :
    Option.Rel R ((ofList as).get? key) ((ofList bs).get? key) := by
  rw [get?_ofList, get?_ofList]
  exact find_of_forall₂ (List.forall₂_reverse_iff.2 h) key

/-- A field of sorted fields is the value at its key. -/
theorem Json.field_sortFields (fields : List (String × Json)) (key : String) :
    field (sortFields fields) key = ((Dict.ofList fields).get? key).getD null := by
  rw [field, lookup_eq_find, sortFields_eq_entries]
  rfl

/-- Fields whose values stay where they have a property are the same in key order if all of those
have it. -/
theorem Json.sortFields_eq_of_forall₂ {P : Json → Prop} {fields changed : List (String × Json)}
    (h : List.Forall₂ (fun a b ↦ a.1 = b.1 ∧ (P a.2 → b.2 = a.2)) fields changed)
    (hall : ∀ field ∈ sortFields fields, P field.2) :
    sortFields changed = sortFields fields := by
  rw [sortFields_eq_entries, sortFields_eq_entries]
  refine congrArg Dict.entries (Dict.ext_get? fun key ↦ ?_)
  have hfound := Dict.get?_of_forall₂ (R := fun a b ↦ P a → b = a) h key
  cases hkey : (Dict.ofList fields).get? key with
  | none =>
      rw [hkey] at hfound
      generalize (Dict.ofList changed).get? key = found at hfound ⊢
      cases hfound
      rfl
  | some value =>
      have hmem : (key, value) ∈ sortFields fields := by
        rw [sortFields_eq_entries]
        exact Dict.mem_of_find hkey
      rw [hkey] at hfound
      generalize (Dict.ofList changed).get? key = found at hfound ⊢
      obtain ⟨hsame⟩ := hfound
      rw [hsame (hall _ hmem)]

/-- Every key of fields is one of the sorted fields. -/
theorem Json.exists_mem_sortFields {fields : List (String × Json)} {field : String × Json}
    (h : field ∈ fields) : ∃ value, (field.1, value) ∈ sortFields fields := by
  cases hfound : (Dict.ofList fields).get? field.1 with
  | none =>
      rw [Dict.get?_ofList, Dict.find_eq_none_iff, List.map_reverse, List.mem_reverse] at hfound
      exact absurd (List.mem_map_of_mem h) hfound
  | some value =>
      rw [sortFields_eq_entries]
      exact ⟨value, Dict.mem_of_find hfound⟩

/-- Among the entries whose keys are kept, a kept key finds what it finds among all. -/
theorem Dict.find_filter (keep : String → Bool) {key : String} (hkey : keep key = true)
    (list : List (String × α)) :
    find key (list.filter fun entry ↦ keep entry.1) = find key list := by
  induction list with
  | nil => rfl
  | cons entry rest ih =>
      by_cases hentry : entry.1 = key
      · simp [find, hentry, hkey]
      · by_cases hkept : keep entry.1 = true <;> simp [find, hentry, hkept, ih]

/-- A dictionary is written as an object of values that correspond to its values one by one. -/
theorem Codec.canonical_dict_ofList {c : Codec α} {values : List (String × α)}
    {fields : List (String × Json)}
    (h : List.Forall₂ (fun value field ↦ value.1 = field.1 ∧
      (c.toJson value.2).canonical = field.2.canonical) values fields) :
    (c.dict.toJson (Dict.ofList values)).canonical =
      (Json.object (Json.sortFields fields)).canonical := by
  rw [dict_toJson, Json.canonical_object_eq_iff_fields (Dict.increasing _)
    (Json.sortFields_increasing fields)]
  intro key
  have hfound := Dict.get?_of_forall₂
    (R := fun a (value : Json) ↦ (c.toJson a).canonical = value.canonical) h key
  rw [field_dict, Json.field_sortFields]
  generalize (Dict.ofList values).get? key = a, (Dict.ofList fields).get? key = b at hfound ⊢
  cases hfound with
  | some hvalue => exact hvalue
  | none => rfl

end Entries

namespace Field

variable {ρ : Type} {name : String} {sources : List (String × Source)}

/-- The sources with a name are those of the entries under it. -/
theorem sourcesOf_eq_filter (name : String) (sources : List (String × Source)) :
    sourcesOf name sources = (sources.filter (·.1 = name)).map (·.2) := by
  induction sources with
  | nil => rfl
  | cons entry rest ih => by_cases hentry : entry.1 = name <;> simp [sourcesOf, hentry, ih]

/-- The dictionary of named sources holds the last one with a name. -/
theorem get?_ofList_sources (name : String) (sources : List (String × Source)) :
    (Dict.ofList sources).get? name = (sourcesOf name sources).getLast? := by
  have hfirst (list : List (String × Source)) :
      Dict.find name list = (sourcesOf name list).head? := by
    induction list with
    | nil => rfl
    | cons entry rest ih =>
        by_cases hentry : entry.1 = name <;> simp [Dict.find, sourcesOf, hentry, ih]
  rw [Dict.get?_ofList, hfirst, sourcesOf_eq_filter, List.filter_reverse, List.map_reverse,
    ← sourcesOf_eq_filter, List.head?_reverse]

/-- A text that is empty where it is not given is read from no source or from a single one. -/
theorem sourcesOf_of_decode? {get : ρ → String} {value : String}
    (h : (defaulted name get .text "").decode? sources = some value) :
    (sourcesOf name sources = [] ∧ value = "") ∨
      ∃ source, sourcesOf name sources = [source] ∧ source.text? = some value := by
  simp only [decode?, defaulted] at h
  split at h
  · next hnone => exact .inl ⟨hnone, by simpa using h.symm⟩
  · next source hone => exact .inr ⟨source, hone, h⟩
  · simp at h

/-- Where a text is read, every source with its name gives a text. -/
theorem exists_text_of_decode? {get : ρ → String} {value : String}
    (h : (defaulted name get .text "").decode? sources = some value) {source : Source}
    (hmem : (name, source) ∈ sources) : ∃ text, source.text? = some text := by
  have hnamed : source ∈ sourcesOf name sources := by
    rw [sourcesOf_eq_filter]
    exact List.mem_map.2 ⟨_, List.mem_filter.2 ⟨hmem, by simp⟩, rfl⟩
  rcases sourcesOf_of_decode? h with ⟨hnone, -⟩ | ⟨only, hone, htext⟩
  · simp [hnone] at hnamed
  · obtain rfl : source = only := by simpa [hone] using hnamed
    exact ⟨value, htext⟩

end Field

/-- A record is made from its first field and then from the others. -/
theorem Fields.exists_of_decode? {ρ α f : Type} {field : Field ρ α} {rest : Fields ρ f}
    {make : α → f} {sources : List (String × Source)} {r : ρ}
    (h : (next field rest).decode? make sources = some r) :
    ∃ value, field.decode? sources = some value ∧
      rest.decode? (make value) sources = some r := by
  simp only [decode?] at h
  split at h
  · next value hvalue => exact ⟨value, hvalue, h⟩
  · simp at h

namespace Yaml

variable {β : Type}

/-- A mapping without a local tag writes the dictionary of its fields. -/
theorem Node.json?_mapping_iff {tag : Option String} {entries : List (Node × Node)} {value : Json} :
    (Node.mapping tag entries).json? = some value ↔ localName? tag = none ∧
      ∃ fields, jsonFields? entries = some fields ∧ Json.object (Json.sortFields fields) = value := by
  rw [Node.json?]
  cases localName? tag <;> simp

/-- The fields of entries are their keys and values. -/
theorem jsonFields?_forall₂ {entries : List (Node × Node)} {fields : List (String × Json)}
    (h : jsonFields? entries = some fields) :
    List.Forall₂ (fun entry field ↦ entry.1.text? = some field.1 ∧ entry.2.json? = some field.2)
      entries fields := by
  induction entries generalizing fields with
  | nil =>
      obtain rfl : [] = fields := by simpa [jsonFields?] using h
      exact .nil
  | cons entry rest ih =>
      obtain ⟨key, node⟩ := entry
      simp only [jsonFields?] at h
      split at h
      · next name value found hname hvalue hfound =>
        obtain rfl : (name, value) :: found = fields := by simpa using h
        exact .cons ⟨hname, hvalue⟩ (ih hfound)
      · simp at h

/-- Every entry of a mapping that writes fields writes a JSON value. -/
theorem exists_json?_of_mem {entries : List (Node × Node)} {fields : List (String × Json)}
    (h : jsonFields? entries = some fields) {entry : Node × Node} (hentry : entry ∈ entries) :
    ∃ value, entry.2.json? = some value := by
  have hfields := jsonFields?_forall₂ h
  clear h
  induction hfields with
  | nil => simp at hentry
  | @cons first field _ _ hfirst _ ih =>
      rcases List.mem_cons.1 hentry with rfl | hrest
      · exact ⟨field.2, hfirst.2⟩
      · exact ih hrest

/-- The sources of entries are their values under their keys. -/
theorem namedEntries?_forall₂ {entries : List (Node × Node)} {sources : List (String × Source)}
    (h : Source.namedEntries? entries = some sources) :
    List.Forall₂ (fun entry source ↦ entry.1.text? = some source.1 ∧ source.2 = .yaml entry.2)
      entries sources := by
  induction entries generalizing sources with
  | nil =>
      obtain rfl : [] = sources := by simpa [Source.namedEntries?] using h
      exact .nil
  | cons entry rest ih =>
      obtain ⟨key, node⟩ := entry
      simp only [Source.namedEntries?] at h
      split at h
      · next name found hname hfound =>
        obtain rfl : (name, .yaml node) :: found = sources := by simpa using h
        exact .cons ⟨hname, rfl⟩ (ih hfound)
      · simp at h

/-- What is read of the values of a mapping are the values of its entries. -/
theorem forall₂_of_decodeEntries? {α : Type} {decode? : Source → Option α}
    {entries : List (Node × Node)} {sources : List (String × Source)} {values : List (String × α)}
    (hsources : Source.namedEntries? entries = some sources)
    (hdecode : Codec.decodeEntries? decode? sources = some values) :
    List.Forall₂ (fun entry value ↦ entry.1.text? = some value.1 ∧
      decode? (.yaml entry.2) = some value.2) entries values := by
  have hentries := namedEntries?_forall₂ hsources
  clear hsources
  induction hentries generalizing values with
  | nil =>
      obtain rfl : [] = values := by simpa [Codec.decodeEntries?] using hdecode
      exact .nil
  | @cons entry source rest others hentry _ ih =>
      simp only [Codec.decodeEntries?] at hdecode
      split at hdecode
      · next value found hvalue hfound =>
        obtain rfl : (source.1, value) :: found = values := by simpa using hdecode
        exact .cons ⟨hentry.1, hentry.2 ▸ hvalue⟩ (ih hfound)
      · simp at hdecode

/-- Entries with changed values have fields that correspond to whatever the changed values
correspond to. -/
theorem exists_jsonFields?_map {f : Node → Node} {P : Node → β → Prop} {R : β → Json → Prop}
    {entries : List (Node × Node)} {values : List (String × β)}
    (hentries : List.Forall₂ (fun entry value ↦ entry.1.text? = some value.1 ∧ P entry.2 value.2)
      entries values)
    (hchange : ∀ entry ∈ entries, ∀ value ∈ values, P entry.2 value.2 →
      ∃ changed, (f entry.2).json? = some changed ∧ R value.2 changed) :
    ∃ fields, jsonFields? (entries.map fun entry ↦ (entry.1, f entry.2)) = some fields ∧
      List.Forall₂ (fun value field ↦ value.1 = field.1 ∧ R value.2 field.2) values fields := by
  induction hentries with
  | nil => exact ⟨[], rfl, .nil⟩
  | @cons entry value rest others hentry _ ih =>
      obtain ⟨fields, hfields, hrest⟩ := ih fun e he v hv ↦ hchange e (.tail _ he) v (.tail _ hv)
      obtain ⟨changed, hchanged, hrelated⟩ := hchange entry (.head _) value (.head _) hentry.2
      refine ⟨(value.1, changed) :: fields, ?_, .cons ⟨rfl, hrelated⟩ hrest⟩
      simp only [List.map_cons, jsonFields?, hentry.1, hchanged, hfields]

/-- What a scalar can mean: its text, what the text means when it is written plainly, or what the
type that its tag names reads in the text. -/
theorem Scalar.meaning?_cases {s : Scalar} {meaning : Meaning} (h : s.meaning? = some meaning) :
    meaning = .text s.text ∨ meaning = .ofPlain s.text ∨
      (∃ value, readBool? s.text = some value ∧ meaning = .bool value) ∨
      (readInteger? s.text).bind Meaning.ofInteger? = some meaning ∨
      (∃ value, readFloating? s.text = some value ∧ meaning = .floating value) ∨
      isNullWord s.text = true ∧ meaning = .null := by
  unfold Scalar.meaning? at h
  split at h
  · split at h
    · exact .inr (.inl (Option.some.inj h).symm)
    · exact .inl (Option.some.inj h).symm
  · split_ifs at h with _ _ _ _ _ hword
    · obtain ⟨value, hvalue, rfl⟩ := Option.map_eq_some_iff.1 h
      exact .inr (.inr (.inl ⟨value, hvalue, rfl⟩))
    · exact .inr (.inr (.inr (.inl h)))
    · obtain ⟨value, hvalue, rfl⟩ := Option.map_eq_some_iff.1 h
      exact .inr (.inr (.inr (.inr (.inl ⟨value, hvalue, rfl⟩))))
    · exact .inr (.inr (.inr (.inr (.inr ⟨hword, (Option.some.inj h).symm⟩))))
    · exact .inl (Option.some.inj h).symm

/-- A scalar without a text writes a zero value. -/
theorem Scalar.isZero_of_text_empty {s : Scalar} {value : Json} (htext : s.text = "")
    (h : (Node.scalar s).json? = some value) : value.isZero = true := by
  obtain ⟨meaning, hmeaning, hvalue⟩ :=
    Option.bind_eq_some_iff.1 (by simpa only [Node.json?] using h)
  have hbool : readBool? "" = none := by decide
  have hinteger : (readInteger? "").bind Meaning.ofInteger? = none := by decide
  have hfloating : readFloating? "" = none := by decide
  obtain rfl | rfl : meaning = .text "" ∨ meaning = .null := by
    have hcases := Scalar.meaning?_cases hmeaning
    simp only [htext, hbool, hinteger, hfloating, reduceCtorEq, false_and, exists_false,
      false_or] at hcases
    rcases hcases with rfl | rfl | ⟨-, rfl⟩
    · exact .inl rfl
    · exact .inr rfl
    · exact .inr rfl
  · obtain rfl : Json.text "" = value := Option.some.inj hvalue
    rfl
  · obtain rfl : Json.null = value := Option.some.inj hvalue
    rfl

/-- No integer means a text. -/
theorem Meaning.ofInteger?_ne_text (n? : Option Int) (text : String) :
    n?.bind ofInteger? ≠ some (.text text) := by
  cases n? with
  | none => simp
  | some n =>
      simp only [Option.bind_some, ofInteger?]
      split_ifs <;> simp

/-- A plain scalar that means a text means its own. -/
theorem Meaning.text_of_ofPlain {written text : String} (h : ofPlain written = .text text) :
    text = written := by
  unfold ofPlain at h
  split at h
  · contradiction
  · split at h
    · contradiction
    · split at h
      · next hinteger =>
        rw [h] at hinteger
        exact absurd hinteger (ofInteger?_ne_text _ text)
      · split at h
        · simpa using h.symm
        · split at h
          · contradiction
          · simpa using h.symm

/-- A scalar that means a text means its own. -/
theorem Scalar.text_of_meaning? {s : Scalar} {text : String} (h : s.meaning? = some (.text text)) :
    text = s.text := by
  rcases Scalar.meaning?_cases h with h | h | ⟨_, _, h⟩ | h | ⟨_, _, h⟩ | ⟨_, h⟩
  · simpa using h
  · exact Meaning.text_of_ofPlain h.symm
  · contradiction
  · exact absurd h (Meaning.ofInteger?_ne_text _ text)
  · contradiction
  · contradiction

/-- A scalar with a text that stands for an absent value means null. -/
theorem Scalar.meaning?_of_isNull? {s : Scalar} (htext : s.text ≠ "")
    (hnull : Source.isNull? (.yaml (.scalar s)) = some true) : s.meaning? = some .null := by
  obtain ⟨style, tag, text⟩ := s
  have hplain : style = .plain := by
    by_contra hstyle
    simp [Source.isNull?, hstyle] at hnull
  subst hplain
  cases tag with
  | none =>
      have hword : isNullWord text = true := by simpa [Source.isNull?, htext] using hnull
      simp [Scalar.meaning?, Meaning.ofPlain, hword]
  | some tag =>
      obtain ⟨rfl, hword⟩ : tag = coreTag "null" ∧ isNullWord text = true := by
        simp only [Source.isNull?] at hnull
        split at hnull
        · contradiction
        · split at hnull <;> simp_all
      have htag : (localName? (some (coreTag "null"))).isSome = false ∧
          coreTag "null" ≠ coreTag "bool" ∧ coreTag "null" ≠ coreTag "int" ∧
          coreTag "null" ≠ coreTag "float" := by decide
      simp [Scalar.meaning?, hword, htag]

/-- A node that stands for an absent value is no mapping, and writes a zero value. -/
theorem Node.isZero_of_isNull? {node : Node} (hnull : Source.isNull? (.yaml node) = some true) :
    (node = .absent ∨ ∃ s, node = .scalar s) ∧
      ∀ value, node.json? = some value → value.isZero = true := by
  cases node with
  | absent =>
      refine ⟨.inl rfl, fun value h ↦ ?_⟩
      obtain rfl : Json.null = value := by simpa [Node.json?] using h
      rfl
  | scalar s =>
      refine ⟨.inr ⟨s, rfl⟩, fun value h ↦ ?_⟩
      by_cases htext : s.text = ""
      · exact Scalar.isZero_of_text_empty htext h
      · have hmeaning := Scalar.meaning?_of_isNull? htext hnull
        obtain rfl : Json.null = value := by simpa [Node.json?, hmeaning, Meaning.json?] using h
        rfl
  | unreadable | sequence | mapping => simp [Source.isNull?] at hnull

/-- How an optional value is read that is read from the fields of an object: a node that is no
mapping writes a zero value and gives nothing or no fields, and a mapping gives its entries. -/
theorem Node.decode?_optional_cases {α : Type} {c : Codec α}
    {decode? : List (String × Source) → Option α}
    (hc : ∀ node, c.decode? (.yaml node) = (Source.fields? (.yaml node)).bind decode?)
    {node : Node} {value : Json} {read : Option α} (hvalue : node.json? = some value)
    (hread : c.optional.decode? (.yaml node) = some read) :
    ((node = .absent ∨ ∃ s, node = .scalar s) ∧ value.isZero = true ∧
        (read = none ∨ ∃ a, decode? [] = some a ∧ read = some a)) ∨
      ∃ tag entries sources a, node = .mapping tag entries ∧
        Source.namedEntries? entries = some sources ∧ decode? sources = some a ∧
        read = some a := by
  simp only [Codec.optional] at hread
  split at hread
  · next hnull =>
    obtain ⟨hform, hzero⟩ := Node.isZero_of_isNull? hnull
    exact .inl ⟨hform, hzero value hvalue, .inl (by simpa using hread.symm)⟩
  · obtain ⟨a, ha, rfl⟩ := Option.map_eq_some_iff.1 hread
    obtain ⟨sources, hsources, hdecode⟩ := Option.bind_eq_some_iff.1 (hc node ▸ ha)
    cases node with
    | absent => simp [Source.isNull?] at *
    | scalar s =>
        simp only [Source.fields?] at hsources
        split at hsources
        · next hbare =>
          obtain rfl : [] = sources := by simpa using hsources
          have htext : s.text = "" := by simpa using (Bool.and_eq_true_iff.1 hbare).2
          exact .inl ⟨.inr ⟨s, rfl⟩, Scalar.isZero_of_text_empty htext hvalue,
            .inr ⟨a, hdecode, rfl⟩⟩
        · simp at hsources
    | mapping tag entries => exact .inr ⟨tag, entries, sources, a, rfl, hsources, hdecode, rfl⟩
    | unreadable | sequence => simp [Source.fields?] at hsources
  · simp at hread

end Yaml

end FleetOperator
