import FleetOperator.Bridge.Document
import FleetOperator.Proofs.Codec.Lawful

/-!
# Config maps and plugins read back from their documents

The documents of an instance hold what they were made from. Read `ConfigMapData.ofDocument?_toDocument`
and `Plugins.ofDocuments?_toDocuments` first: reading what was written gives the data again, where
data without entries are none.
-/

namespace FleetOperator

/-- A dictionary that is left of an optional one has entries. -/
theorem nonEmptyDict_of_bind {α : Type} {optional : Option (Dict α)} {d : Dict α}
    (h : optional.bind nonEmptyDict = some d) : nonEmptyDict d = some d := by
  obtain ⟨own, -, hown⟩ := Option.bind_eq_some_iff.1 h
  unfold nonEmptyDict at hown
  split at hown
  · simp at hown
  · next hentries =>
    obtain rfl : own = d := by simpa using hown
    rw [nonEmptyDict, if_neg hentries]

namespace ConfigMapData

/-- Fields that hold texts are read as those texts. -/
theorem ofFields?_texts (name : String) (entries : List (String × String)) :
    ofFields? name (entries.map fun entry ↦ (entry.1, Json.text entry.2)) = .ok entries := by
  induction entries with
  | nil => rfl
  | cons entry rest ih => simp [ofFields?, ih, Except.map]

/-- The data of a config map are read back from its document. -/
theorem ofDocument?_toDocument (name subject : String) (data : Option ConfigMapData) :
    ofDocument? subject (toDocument name data) = .ok (data.bind nonEmptyDict) := by
  unfold toDocument
  cases hdata : data.bind nonEmptyDict with
  | none => rfl
  | some own =>
      have hread := ofFields?_texts subject own.toList
      simp only [Option.map_some, ofDocument?, Codec.dict, Codec.text, Json.lookup,
        String.reduceEq, if_false, if_true, hread, Except.map, Dict.ofList_toList,
        nonEmptyDict_of_bind hdata]

end ConfigMapData

namespace ArgoCD.Plugin

theorem Command.codec_lawful : Command.codec.Lawful :=
  Codec.record_lawful (by decide)
    ⟨Field.list_lawful Codec.text_lawful _ _, Field.list_lawful Codec.text_lawful _ _, trivial⟩
    fun _ ↦ rfl

theorem FileSearch.codec_lawful : FileSearch.codec.Lawful :=
  Codec.record_lawful (by decide)
    ⟨Field.list_lawful Codec.text_lawful _ _, Field.list_lawful Codec.text_lawful _ _,
      Field.optional_lawful Codec.text_lawful _ _, trivial⟩
    fun _ ↦ rfl

theorem Discovery.codec_lawful : Discovery.codec.Lawful :=
  Codec.record_lawful (by decide)
    ⟨Field.optional_lawful FileSearch.codec_lawful _ _,
      Field.optional_lawful Codec.text_lawful _ _, trivial⟩
    fun _ ↦ rfl

theorem Parameter.codec_lawful : Parameter.codec.Lawful :=
  have htext {ρ : Type} name (get : ρ → Option String) :=
    Field.optional_lawful Codec.text_lawful name get
  Codec.record_lawful (by decide)
    ⟨Field.defaulted_lawful Codec.text_lawful _ _ _, htext _ _, htext _ _,
      Field.optional_lawful Codec.flag_lawful _ _, htext _ _, htext _ _, htext _ _,
      Field.list_lawful Codec.text_lawful _ _, Field.dict_lawful Codec.text_lawful _ _, trivial⟩
    fun _ ↦ rfl

theorem Parameters.codec_lawful : Parameters.codec.Lawful :=
  Codec.record_lawful (by decide)
    ⟨Field.list_lawful Parameter.codec_lawful _ _,
      Field.optional_lawful Command.codec_lawful _ _, trivial⟩
    fun _ ↦ rfl

theorem Spec.codec_lawful : Spec.codec.Lawful :=
  Codec.record_lawful (by decide)
    ⟨Field.optional_lawful Codec.text_lawful _ _, Field.optional_lawful Command.codec_lawful _ _,
      Field.optional_lawful Command.codec_lawful _ _,
      Field.optional_lawful Discovery.codec_lawful _ _,
      Field.optional_lawful Parameters.codec_lawful _ _,
      Field.optional_lawful Codec.flag_lawful _ _, trivial⟩
    fun _ ↦ rfl

end ArgoCD.Plugin

namespace PluginDocument

theorem metadata_lawful : PluginMetadata.codec.Lawful :=
  Codec.record_lawful (by decide)
    ⟨Field.required_lawful Codec.text_lawful _ _, Field.dict_lawful Codec.text_lawful _ _, trivial⟩
    fun _ ↦ rfl

/-- The document of a plugin is read back as it was written. -/
theorem codec_lawful : codec.Lawful :=
  Codec.record_lawful (by decide)
    ⟨Field.defaulted_lawful Codec.text_lawful _ _ _,
      Field.defaulted_lawful Codec.text_lawful _ _ _, Field.required_lawful metadata_lawful _ _,
      Field.defaulted_lawful ArgoCD.Plugin.Spec.codec_lawful _ _ _, trivial⟩
    fun _ ↦ rfl

/-- The plugin of a plugin's document is the plugin. -/
theorem toPlugin_ofPlugin (name : String) (plugin : ArgoCD.Plugin) :
    (ofPlugin name plugin).toPlugin = plugin := by
  have hdistinct : ([(enabledKey, if plugin.enabled then "true" else "false"),
      (imageKey, plugin.image)].map (·.1)).Nodup := by
    simp [enabledKey, imageKey]
  have henabled : (ofPlugin name plugin).metadata.annotations.get? enabledKey =
      some (if plugin.enabled then "true" else "false") := by
    rw [ofPlugin, Dict.get?_ofList_of_nodup hdistinct, Dict.find, if_pos rfl]
  have himage : (ofPlugin name plugin).metadata.annotations.get? imageKey = some plugin.image := by
    rw [ofPlugin, Dict.get?_ofList_of_nodup hdistinct, Dict.find, if_neg (by decide), Dict.find,
      if_pos rfl]
  obtain ⟨enabled, image, spec⟩ := plugin
  simp only [toPlugin, henabled, himage, Option.getD_some]
  cases enabled <;> rfl

end PluginDocument

namespace Plugins

/-- Plugins are read back from their documents, in the order of their names. -/
theorem ofDocumentList?_documents (entries : List (String × ArgoCD.Plugin)) :
    ofDocumentList? (entries.map fun entry ↦
      PluginDocument.codec.toJson (.ofPlugin entry.1 entry.2)) = .ok entries := by
  induction entries with
  | nil => rfl
  | cons entry rest ih =>
      simp only [List.map_cons, ofDocumentList?, PluginDocument.codec_lawful.read, ih,
        PluginDocument.toPlugin_ofPlugin, Except.map]
      rfl

/-- Plugins are read back from their documents. -/
theorem ofDocuments?_toDocuments (plugins : Option Plugins) :
    ofDocuments? (toDocuments plugins) = .ok (plugins.bind nonEmptyDict) := by
  rcases plugins with _ | plugins
  · rfl
  · by_cases hempty : plugins.isEmpty = true
    · obtain rfl : plugins = .empty := Dict.isEmpty_iff.1 hempty
      rfl
    · have hdocuments : (toDocuments (some plugins)).isEmpty = false := by
        simpa [toDocuments, Dict.isEmpty, Dict.toList] using hempty
      rw [ofDocuments?, hdocuments]
      simp only [toDocuments, ofDocumentList?_documents, Except.map, Dict.ofList_toList,
        Option.bind_some, nonEmptyDict, if_neg hempty]
      rfl

end Plugins

end FleetOperator
