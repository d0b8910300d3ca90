import FleetOperator.Proofs.Drift.Normalize
import FleetOperator.Proofs.Yaml.Sources

/-!
# What adopted customizations have in common

An entry of resource customizations is read as a map of records of four texts before it is compared,
so the comparison sees less than the documents hold. Read `adopted_customizations_equal` first: where
an observed text takes the place of the desired one, the two documents are equivalent as soon as
other fields are left out of the records and every setting is read as a text. Documents that hold
nothing else are equivalent as they stand.
-/

namespace FleetOperator

open Yaml (Node)

namespace ResourceCustomization

/-! ## Settings alone -/

/-- The names of the settings of a record. -/
def settingNames : List String := ["health.lua", "actions", "ignoreDifferences", "knownTypeFields"]

/-- Whether an entry of a record is one of its settings. -/
def isSetting (entry : Node × Node) : Bool := entry.1.text?.any settingNames.contains

/-- A scalar as the text that it is written with, whatever it means. -/
def asText : Node → Node
  | .scalar s => .scalar { style := .doubleQuoted, tag := none, text := s.text }
  | node => node

/-- A record with its settings alone, as texts. -/
def asRecord : Node → Node
  | .mapping tag entries =>
    .mapping tag ((entries.filter isSetting).map fun entry ↦ (entry.1, asText entry.2))
  | node => node

/-- A map of records with their settings alone, as texts. -/
def asRecords : Node → Node
  | .mapping tag entries => .mapping tag (entries.map fun entry ↦ (entry.1, asRecord entry.2))
  | node => node

/-- What a node writes as a text is the text that it gives. -/
theorem json?_asText {node : Node} {text : String} (h : node.text? = some text) :
    (asText node).json? = some (.text text) := by
  cases node with
  | scalar s =>
      obtain rfl : s.text = text := by simpa [Node.text?] using h
      simp [asText, Node.json?, Yaml.Scalar.meaning?, Yaml.Meaning.json?]
  | absent | unreadable | sequence | mapping => simp [Node.text?] at h

/-- The setting of a record with a name, empty where it has none. -/
def setting (r : ResourceCustomization) (name : String) : String :=
  if name = "health.lua" then r.health
  else if name = "actions" then r.actions
  else if name = "ignoreDifferences" then r.ignoreDifferences
  else if name = "knownTypeFields" then r.knownTypeFields
  else ""

/-- The fields of a record. -/
def fields : Fields ResourceCustomization (String → String → String → String →
    ResourceCustomization) :=
  .next (.defaulted "health.lua" (·.health) .text "") <|
  .next (.defaulted "actions" (·.actions) .text "") <|
  .next (.defaulted "ignoreDifferences" (·.ignoreDifferences) .text "") <|
  .next (.defaulted "knownTypeFields" (·.knownTypeFields) .text "") <|
  .done

/-- A record is written as an object of its settings. -/
theorem exists_written (r : ResourceCustomization) :
    ∃ written, codec.toJson r = .object written ∧ (written.Pairwise fun a b ↦ a.1 < b.1) ∧
      ∀ key, (Json.field written key).canonical = (Json.text (setting r key)).canonical := by
  have hwritten : codec.toJson r = .object (Json.sortFields (Json.sortedFields (fields.encode r))) :=
    Codec.record_toJson r
  refine ⟨_, hwritten, Json.sortFields_increasing _, fun key ↦ ?_⟩
  rw [Codec.field_record (by decide)]
  simp only [fields, Fields.jsonAt, Field.json_defaulted, Codec.text_toJson]
  show (if "health.lua" = key then _ else if "actions" = key then _
    else if "ignoreDifferences" = key then _ else if "knownTypeFields" = key then _ else _ :
      Json).canonical = _
  simp only [setting, eq_comm (b := key)]
  -- Under other keys null stands for the empty text, and both are zero values.
  split_ifs <;> rfl

/-- A record is read setting by setting. -/
theorem decode?_setting {sources : List (String × Source)} {r : ResourceCustomization}
    (h : fields.decode? ResourceCustomization.mk sources = some r) {name : String}
    (hname : name ∈ settingNames) :
    (Field.defaulted name (setting · name) .text "").decode? sources = some (setting r name) := by
  obtain ⟨health, hhealth, h⟩ := Fields.exists_of_decode? h
  obtain ⟨actions, hactions, h⟩ := Fields.exists_of_decode? h
  obtain ⟨ignoreDifferences, hignore, h⟩ := Fields.exists_of_decode? h
  obtain ⟨knownTypeFields, hknown, h⟩ := Fields.exists_of_decode? h
  obtain rfl : ResourceCustomization.mk health actions ignoreDifferences knownTypeFields = r :=
    Option.some.inj h
  simp only [settingNames, List.mem_cons, List.not_mem_nil, or_false] at hname
  rcases hname with rfl | rfl | rfl | rfl
  · exact hhealth
  · exact hactions
  · exact hignore
  · exact hknown

/-! ## What is read -/

/-- The settings among the entries of a record correspond to those among what they are read as. -/
theorem forall₂_filter_isSetting {β : Type} {P : Node → β → Prop} {entries : List (Node × Node)}
    {values : List (String × β)}
    (h : List.Forall₂ (fun entry value ↦ entry.1.text? = some value.1 ∧ P entry.2 value.2) entries
      values) :
    List.Forall₂ (fun entry value ↦ entry.1.text? = some value.1 ∧ P entry.2 value.2)
      (entries.filter isSetting) (values.filter (settingNames.contains ·.1)) := by
  refine List.rel_filter ?_ h
  intro entry value hentry
  simp only [isSetting, hentry.1, Option.any_some]

/-- Whether a source gives a text and a JSON value is that text. -/
def WritesTextOf (source : Source) (value : Json) : Prop :=
  ∃ text, source.text? = some text ∧ value = .text text

/-- Where a setting was read, the settings of the record as texts hold it. -/
theorem canonical_setting {sources : List (String × Source)} {texts : List (String × Json)}
    {name text : String} {get : ResourceCustomization → String} (hname : name ∈ settingNames)
    (htexts : List.Forall₂ (fun source field ↦ source.1 = field.1 ∧ WritesTextOf source.2 field.2)
      (sources.filter (settingNames.contains ·.1)) texts)
    (h : (Field.defaulted name get .text "").decode? sources = some text) :
    (Json.text text).canonical = (Json.field (Json.sortFields texts) name).canonical := by
  have hfound := Dict.get?_of_forall₂ htexts name
  rw [Dict.get?_ofList, ← List.filter_reverse,
    Dict.find_filter settingNames.contains (by simpa using hname), ← Dict.get?_ofList,
    Field.get?_ofList_sources] at hfound
  rw [Json.field_sortFields]
  rcases Field.sourcesOf_of_decode? h with ⟨hnone, rfl⟩ | ⟨source, hone, htext⟩
  · rw [hnone] at hfound
    generalize (Dict.ofList texts).get? name = found at hfound ⊢
    cases hfound
    rfl
  · rw [hone] at hfound
    generalize (Dict.ofList texts).get? name = found at hfound ⊢
    obtain ⟨⟨other, hother, rfl⟩⟩ := hfound
    obtain rfl : text = other := Option.some.inj (htext.symm.trans hother)
    rfl

/-- Other keys are not among the settings of a record as texts. -/
theorem field_of_not_setting {sources : List (String × Source)} {texts : List (String × Json)}
    {key : String} (hkey : key ∉ settingNames)
    (htexts : List.Forall₂ (fun source field ↦ source.1 = field.1 ∧ WritesTextOf source.2 field.2)
      (sources.filter (settingNames.contains ·.1)) texts) :
    Json.field (Json.sortFields texts) key = .null := by
  have hnone : Dict.find key (sources.filter (settingNames.contains ·.1)).reverse = none := by
    rw [Dict.find_eq_none_iff]
    simp only [List.mem_map, List.mem_reverse, List.mem_filter, not_exists, not_and]
    rintro source ⟨-, hsetting⟩ rfl
    exact hkey (by simpa using hsetting)
  have hfound := Dict.get?_of_forall₂ htexts key
  rw [Dict.get?_ofList, hnone] at hfound
  rw [Json.field_sortFields]
  generalize (Dict.ofList texts).get? key = found at hfound ⊢
  cases hfound
  rfl

/-- A record that can be read and writes a JSON value writes what was read, with its settings alone
and as texts. -/
theorem canonical_asRecord {node : Node} {r : Option ResourceCustomization} {value : Json}
    (hread : codec.optional.decode? (.yaml node) = some r) (hvalue : node.json? = some value) :
    ∃ record, (asRecord node).json? = some record ∧
      (codec.optional.toJson r).canonical = record.canonical := by
  rcases Yaml.Node.decode?_optional_cases (fun _ ↦ rfl) hvalue hread with
    ⟨hform, hzero, hnothing⟩ | ⟨tag, entries, sources, r, rfl, hsources, hdecode, rfl⟩
  · have hsame : asRecord node = node := by
      rcases hform with rfl | ⟨s, rfl⟩ <;> rfl
    refine ⟨value, by rw [hsame, hvalue], ?_⟩
    rw [Json.canonical_eq_null_iff.2 hzero, Json.canonical_eq_null_iff]
    rcases hnothing with rfl | ⟨empty, hempty, rfl⟩
    · rfl
    · obtain rfl : ⟨"", "", "", ""⟩ = empty := Option.some.inj hempty
      rfl
  · obtain ⟨htag, -⟩ := Yaml.Node.json?_mapping_iff.1 hvalue
    -- The reading refuses a record in which a setting is repeated or is no text, so every setting
    -- that is kept can be written as a text.
    have hsettings {name : String} (hname : name ∈ settingNames) := decode?_setting hdecode hname
    have hkept := forall₂_filter_isSetting (P := fun node source ↦ source = Source.yaml node)
      (Yaml.namedEntries?_forall₂ hsources)
    have hgives : ∀ entry ∈ entries.filter isSetting,
        ∀ source ∈ sources.filter (settingNames.contains ·.1), source.2 = .yaml entry.2 →
          ∃ changed, (asText entry.2).json? = some changed ∧ WritesTextOf source.2 changed := by
      rintro ⟨_, node⟩ - ⟨name, source⟩ hsource rfl
      obtain ⟨hmem, hname⟩ := List.mem_filter.1 hsource
      obtain ⟨text, htext⟩ := Field.exists_text_of_decode? (hsettings (by simpa using hname)) hmem
      exact ⟨.text text, json?_asText htext, text, htext, rfl⟩
    obtain ⟨texts, htexts, hcorrespond⟩ := Yaml.exists_jsonFields?_map (f := asText)
      (P := fun node source ↦ source = Source.yaml node) (R := WritesTextOf) hkept hgives
    refine ⟨_, Yaml.Node.json?_mapping_iff.2 ⟨htag, texts, htexts, rfl⟩, ?_⟩
    obtain ⟨written, hwritten, hincreasing, hfields⟩ := exists_written r
    rw [Codec.optional_toJson_some, hwritten,
      Json.canonical_object_eq_iff_fields hincreasing (Json.sortFields_increasing texts)]
    intro key
    rw [hfields]
    by_cases hkey : key ∈ settingNames
    · exact canonical_setting hkey hcorrespond (hsettings hkey)
    · have hempty : setting r key = "" := by
        simp only [settingNames, List.mem_cons, List.not_mem_nil, or_false, not_or] at hkey
        simp only [setting, hkey, if_false]
      rw [field_of_not_setting hkey hcorrespond, hempty]
      rfl

/-- A map of records that can be read and writes a JSON value writes what was read, with the
settings of the records alone and as texts. -/
theorem canonical_asRecords {node : Node} {m : Option (Dict (Option ResourceCustomization))}
    {value : Json} (hread : mapCodec.optional.decode? (.yaml node) = some m)
    (hvalue : node.json? = some value) :
    ∃ records, (asRecords node).json? = some records ∧
      (mapCodec.toJson (m.getD .empty)).canonical = records.canonical := by
  have hfields (node : Node) : mapCodec.decode? (.yaml node) = (Source.fields? (.yaml node)).bind
      fun sources ↦ (Codec.decodeEntries? codec.optional.decode? sources).map Dict.ofList :=
    Option.map_bind
  rcases Yaml.Node.decode?_optional_cases hfields hvalue hread with
    ⟨hform, hzero, hnothing⟩ | ⟨tag, entries, sources, map, rfl, hsources, hdecode, rfl⟩
  · have hsame : asRecords node = node := by
      rcases hform with rfl | ⟨s, rfl⟩ <;> rfl
    refine ⟨value, by rw [hsame, hvalue], ?_⟩
    rw [Json.canonical_eq_null_iff.2 hzero, Json.canonical_eq_null_iff]
    rcases hnothing with rfl | ⟨empty, hempty, rfl⟩
    · rfl
    · obtain rfl : .empty = empty := Option.some.inj hempty
      rfl
  · obtain ⟨htag, fields, hjson, -⟩ := Yaml.Node.json?_mapping_iff.1 hvalue
    obtain ⟨values, hvalues, rfl⟩ := Option.map_eq_some_iff.1 hdecode
    have hrecord : ∀ entry ∈ entries, ∀ value ∈ values,
        codec.optional.decode? (.yaml entry.2) = some value.2 →
          ∃ record, (asRecord entry.2).json? = some record ∧
            (codec.optional.toJson value.2).canonical = record.canonical := by
      intro entry hentry value _ hread
      obtain ⟨written, hwritten⟩ := Yaml.exists_json?_of_mem hjson hentry
      exact canonical_asRecord hread hwritten
    obtain ⟨records, hrecords, hcorrespond⟩ := Yaml.exists_jsonFields?_map (f := asRecord)
      (P := fun node r ↦ codec.optional.decode? (.yaml node) = some r)
      (R := fun r record ↦ (codec.optional.toJson r).canonical = record.canonical)
      (Yaml.forall₂_of_decodeEntries? hsources hvalues) hrecord
    refine ⟨_, Yaml.Node.json?_mapping_iff.2 ⟨htag, records, hrecords, rfl⟩, ?_⟩
    exact Codec.canonical_dict_ofList hcorrespond

/-! ## Plain documents -/

/-- Whether a value is a record of settings that are texts, or none. -/
def IsPlainRecord : Json → Prop
  | .null => True
  | .object fields => ∀ field ∈ fields, field.1 ∈ settingNames ∧ ∃ text, field.2 = .text text
  | _ => False

/-- Whether a value is a map of records of settings that are texts, or none. -/
def IsPlain : Json → Prop
  | .null => True
  | .object fields => ∀ field ∈ fields, IsPlainRecord field.2
  | _ => False

/-- A node that writes a JSON value writes one as a text, and the same one if it is a text. -/
theorem exists_json?_asText {node : Node} {value : Json} (h : node.json? = some value) :
    ∃ changed, (asText node).json? = some changed ∧
      ((∃ text, value = .text text) → changed = value) := by
  cases node with
  | scalar s =>
      refine ⟨.text s.text, json?_asText rfl, ?_⟩
      rintro ⟨text, rfl⟩
      obtain ⟨meaning, hmeaning, hvalue⟩ :=
        Option.bind_eq_some_iff.1 (by simpa only [Node.json?] using h)
      obtain rfl : meaning = .text text := by
        unfold Yaml.Meaning.json? at hvalue
        split at hvalue <;> simp_all
      rw [Yaml.Scalar.text_of_meaning? hmeaning]
  | absent | unreadable | sequence | mapping => exact ⟨value, h, fun _ ↦ rfl⟩

/-- A record that writes a JSON value writes one with its settings alone and as texts, and the same
one if it holds nothing else. -/
theorem exists_json?_asRecord {node : Node} {value : Json} (h : node.json? = some value) :
    ∃ record, (asRecord node).json? = some record ∧ (IsPlainRecord value → record = value) := by
  cases node with
  | mapping tag entries =>
      obtain ⟨htag, fields, hfields, rfl⟩ := Yaml.Node.json?_mapping_iff.1 h
      obtain ⟨settings, hsettings, hcorrespond⟩ := Yaml.exists_jsonFields?_map (f := asText)
        (P := fun node value ↦ node.json? = some value)
        (R := fun value changed ↦ (∃ text, value = .text text) → changed = value)
        (forall₂_filter_isSetting (P := fun node value ↦ node.json? = some value)
          (Yaml.jsonFields?_forall₂ hfields)) fun _ _ _ _ ↦ exists_json?_asText
      refine ⟨_, Yaml.Node.json?_mapping_iff.2 ⟨htag, settings, hsettings, rfl⟩, fun hplain ↦ ?_⟩
      have hall : fields.filter (settingNames.contains ·.1) = fields := by
        refine List.filter_eq_self.2 fun field hfield ↦ ?_
        obtain ⟨value, hvalue⟩ := Json.exists_mem_sortFields hfield
        simpa using (hplain _ hvalue).1
      rw [hall] at hcorrespond
      rw [Json.sortFields_eq_of_forall₂ (P := fun value ↦ ∃ text, value = Json.text text) hcorrespond
        fun field hfield ↦ (hplain field hfield).2]
  | absent | unreadable | scalar | sequence => exact ⟨value, h, fun _ ↦ rfl⟩

/-- A document that holds nothing but settings that are texts is compared as a whole. -/
theorem json?_asRecords_of_isPlain {node : Node} {value : Json} (h : node.json? = some value)
    (hplain : IsPlain value) : (asRecords node).json? = some value := by
  cases node with
  | mapping tag entries =>
      obtain ⟨htag, fields, hfields, rfl⟩ := Yaml.Node.json?_mapping_iff.1 h
      obtain ⟨records, hrecords, hcorrespond⟩ := Yaml.exists_jsonFields?_map (f := asRecord)
        (P := fun node value ↦ node.json? = some value)
        (R := fun value record ↦ IsPlainRecord value → record = value)
        (Yaml.jsonFields?_forall₂ hfields) fun _ _ _ _ ↦ exists_json?_asRecord
      refine Yaml.Node.json?_mapping_iff.2 ⟨htag, records, hrecords, ?_⟩
      rw [Json.sortFields_eq_of_forall₂ hcorrespond hplain]
  | absent | unreadable | scalar | sequence => exact h

/-! ## Texts -/

/-- The JSON value of a document of customizations with the settings of the records alone and as
texts. -/
def settingsJson? (text : String) : Option Json :=
  (Yaml.document? text).bind fun node ↦ (asRecords node).json?

/-- A text that can be read and writes a JSON value writes what was read with its settings alone and
as texts. -/
theorem canonical_settingsJson? {text : String} {m : Dict (Option ResourceCustomization)}
    {value : Json} (hread : readMap? text = some m) (hvalue : Yaml.readJson? text = some value) :
    ∃ settings, settingsJson? text = some settings ∧ settings.Ordered ∧
      (mapCodec.toJson m).canonical = settings.canonical ∧ (IsPlain value → settings = value) := by
  obtain ⟨node, hnode, hdecode⟩ := Option.bind_eq_some_iff.1 hread
  obtain ⟨read, hnode', rfl⟩ := Option.map_eq_some_iff.1 hdecode
  have hjson : node.json? = some value := by
    rwa [Yaml.readJson?, hnode, Option.bind_some] at hvalue
  obtain ⟨settings, hsettings, hcanonical⟩ := canonical_asRecords hnode' hjson
  refine ⟨settings, by rw [settingsJson?, hnode, Option.bind_some, hsettings],
    Yaml.Node.json?_ordered _ hsettings, hcanonical, fun hplain ↦ ?_⟩
  exact Option.some.inj (hsettings.symm.trans (json?_asRecords_of_isPlain hjson hplain))

end ResourceCustomization

namespace InstanceSpec

open ResourceCustomization (settingsJson? IsPlain)

/-- Where an observed text of customizations takes the place of the desired one, the two documents
are equivalent with the settings of the records alone and as texts, and they are as they stand if
they hold nothing else. -/
theorem adopted_customizations_equal (rules : NormalizeRules) (desired observed : InstanceSpec)
    {key own text : String} {a b : Json}
    (hset : ¬ rules.setValuedStart.toList <+: key.toList)
    (hown : desired.configValue? key = some own)
    (htext : (desired.normalizeDesired rules observed).configValue? key = some text)
    (hother : text ≠ own) (ha : Yaml.readJson? own = some a) (hb : Yaml.readJson? text = some b) :
    key ∈ rules.structuredKeys ∧ observed.configValue? key = some text ∧
      (∃ a' b', settingsJson? own = some a' ∧ settingsJson? text = some b' ∧
        Json.equal a' b' = true) ∧
      (IsPlain a → IsPlain b → Json.equal a b = true) := by
  have hkept : key ∉ rules.ignoredConfigKeys := by
    intro hignored
    rw [configValue?_normalizeDesired, if_pos hignored] at htext
    contradiction
  have hdue : (entrySlot rules key).Due desired observed := by
    by_contra hstay
    have hsame := (entrySlot_follows rules desired observed hkept).2 hstay
    exact hother (Option.some.inj (htext.symm.trans (hsame.trans hown)))
  have hseen : observed.configValue? key = some text :=
    ((entrySlot_follows rules desired observed hkept).1 hdue).symm.trans htext
  obtain ⟨_, _, hown', hseen', hsame⟩ := hdue
  obtain rfl := Option.some.inj (hown.symm.trans hown')
  obtain rfl := Option.some.inj (hseen.symm.trans hseen')
  obtain ⟨-, hkey, x, y, hx, hy, hequivalent⟩ := hsame.resolve_left fun h ↦ hset h.1
  obtain ⟨a', ha', horderedA, hcanonicalA, hplainA⟩ :=
    ResourceCustomization.canonical_settingsJson? hx ha
  obtain ⟨b', hb', horderedB, hcanonicalB, hplainB⟩ :=
    ResourceCustomization.canonical_settingsJson? hy hb
  have hequal : Json.equal a' b' = true := by
    rw [Json.equal_iff a' horderedA horderedB, ← hcanonicalA, ← hcanonicalB]
    exact (Json.equal_iff _ (Codec.toJson_ordered _ x) (Codec.toJson_ordered _ y)).1 hequivalent
  refine ⟨hkey, hseen, ⟨a', b', ha', hb', hequal⟩, fun hplain hplain' ↦ ?_⟩
  rwa [hplainA hplain, hplainB hplain'] at hequal

/-- A specification with one entry of resource customizations. -/
def withCustomizations (text : String) : InstanceSpec :=
  { name := "prod"
    configMaps := { ConfigMaps.all none with
      general := some (.ofList [("resource.customizations", text)]) } }

/-- A setting in quotes is adopted, beside an empty one that is not written on the other side. -/
theorem adopted_customizations_equal_quoted :
    let own := "apps/Deployment:\n  health.lua: return hs\n"
    let seen := "apps/Deployment:\n  actions: \"\"\n  health.lua: \"return hs\"\n"
    ((withCustomizations own).normalizeDesired {} (withCustomizations seen)).configValue?
        "resource.customizations" = some seen ∧
      ∃ a b, Yaml.readJson? own = some a ∧ Yaml.readJson? seen = some b ∧
        Json.equal a b = true := by
  intro own seen
  have ha : Yaml.readJson? own = some (.object [("apps/Deployment", .object [("health.lua",
    .text "return hs")])]) := by decide +kernel
  have hb : Yaml.readJson? seen = some (.object [("apps/Deployment", .object [("actions", .text ""),
    ("health.lua", .text "return hs")])]) := by decide +kernel
  have htaken : ((withCustomizations own).normalizeDesired {} (withCustomizations seen)).configValue?
      "resource.customizations" = some seen := by decide +kernel
  obtain ⟨-, -, -, hequal⟩ := adopted_customizations_equal {} (withCustomizations own)
    (withCustomizations seen) (by decide) (by decide +kernel) htaken (by decide) ha hb
  refine ⟨htaken, _, _, ha, hb, hequal ?_ ?_⟩ <;>
    simp [IsPlain, ResourceCustomization.IsPlainRecord, ResourceCustomization.settingNames,
      or_imp, forall_and]

/-- A field that is no setting, and a number in the place of a text, are hidden from the
comparison. -/
theorem adopted_customizations_differ :
    let rules : NormalizeRules := {}
    let key := "resource.customizations"
    let updates := "apps/Deployment:\n  health.lua: return hs\n  ignoreResourceUpdates: all\n"
    let health := "apps/Deployment:\n  health.lua: return hs\n"
    let number := "apps/Deployment:\n  actions: 1\n"
    let digit := "apps/Deployment:\n  actions: \"1\"\n"
    (key ∈ rules.structuredKeys ∧ ¬ rules.setValuedStart.toList <+: key.toList) ∧
    (((withCustomizations updates).normalizeDesired rules
        (withCustomizations health)).configValue? key = some health ∧
      ∃ a b, Yaml.readJson? updates = some a ∧ Yaml.readJson? health = some b ∧
        Json.equal a b = false) ∧
    (((withCustomizations number).normalizeDesired rules
        (withCustomizations digit)).configValue? key = some digit ∧
      ∃ a b, Yaml.readJson? number = some a ∧ Yaml.readJson? digit = some b ∧
        Json.equal a b = false) := by
  intro rules key updates health number digit
  have hupdates : Yaml.readJson? updates = some (.object [("apps/Deployment", .object
    [("health.lua", .text "return hs"), ("ignoreResourceUpdates", .text "all")])]) := by
      decide +kernel
  have hhealth : Yaml.readJson? health = some (.object [("apps/Deployment", .object
    [("health.lua", .text "return hs")])]) := by decide +kernel
  have hnumber : Yaml.readJson? number = some (.object [("apps/Deployment", .object
    [("actions", .number (.integer 1))])]) := by decide +kernel
  have hdigit : Yaml.readJson? digit = some (.object [("apps/Deployment", .object
    [("actions", .text "1")])]) := by decide +kernel
  refine ⟨by decide, ⟨?_, _, _, hupdates, hhealth, ?_⟩, ⟨?_, _, _, hnumber, hdigit, ?_⟩⟩ <;>
    decide +kernel

end InstanceSpec

end FleetOperator
