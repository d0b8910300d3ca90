import FleetOperator.Proofs.Drift.LateInit
import FleetOperator.Proofs.Text.Trim

/-!
# What normalization hides

Normalization takes differences out of copies of two specifications, and a difference that it takes
out must not matter. Read `InstanceSpec.normalize_hides_sanctioned` first: of the observed
specification only entries that the platform manages itself are left out, of the desired one a fixed
table of slots follows the observed values under a condition for each, and specifications that are
equivalent stay so.
-/

namespace FleetOperator

/-! ## Comparison of records -/

section Records

variable {ρ α f : Type}

/-- Whether every field in which two records are equivalent is so in two other ones. -/
def Fields.StillAgree : {f : Type} → Fields ρ f → ρ → ρ → ρ → ρ → Prop
  | _, done, _, _, _, _ => True
  | _, next field rest, a, b, a', b' =>
    (Json.equal (field.json a) (field.json b) = true →
        Json.equal (field.json a') (field.json b') = true) ∧
      rest.StillAgree a b a' b'

theorem Fields.StillAgree.agree {fields : Fields ρ f} {a b a' b' : ρ}
    (hstill : fields.StillAgree a b a' b') (h : fields.Agree a b) : fields.Agree a' b' := by
  induction fields with
  | done => trivial
  | next field rest ih => exact ⟨hstill.1 h.1, ih hstill.2 h.2⟩

/-- Equivalent records stay so if every field does. -/
theorem Codec.record_equivalent_of_stillAgree (make : f) {fields : Fields ρ f}
    (hnames : fields.names.Nodup) {a b a' b' : ρ} (hstill : fields.StillAgree a b a' b')
    (h : (Codec.record make fields).equivalent a b = true) :
    (Codec.record make fields).equivalent a' b' = true :=
  (Codec.record_equivalent_iff hnames a' b').2
    (hstill.agree ((Codec.record_equivalent_iff hnames a b).1 h))

/-- A field that is taken over from either side of a comparison stays equivalent. -/
theorem Field.equal_json_of_either {field : Field ρ α} {a b c : ρ}
    (hc : field.get c = field.get a ∨ field.get c = field.get b)
    (h : Json.equal (field.json a) (field.json b) = true) :
    Json.equal (field.json c) (field.json b) = true := by
  rcases hc with hc | hc
  · rw [Field.json, hc]
    exact h
  · exact Field.equal_json_of_get_eq hc

end Records

/-! ## Kustomizations -/

/-- Whether two kustomizations are there and write equivalent YAML documents. -/
def Kustomization.SameDocument (own seen : Option String) : Prop :=
  ∃ a b x y, own = some a ∧ seen = some b ∧ Yaml.readJson? a = some x ∧
    Yaml.readJson? b = some y ∧ Json.equal x y = true

/-- Whichever of two texts is kept, it is the observed one exactly if they write equivalent
documents. -/
theorem adoptEquivalentYaml_follows (own seen : Option String) :
    (Kustomization.SameDocument own seen → adoptEquivalentYaml own seen = seen) ∧
      (¬ Kustomization.SameDocument own seen → adoptEquivalentYaml own seen = own) := by
  constructor
  · rintro ⟨a, b, x, y, rfl, rfl, hx, hy, hequal⟩
    simp only [adoptEquivalentYaml, hx, hy, hequal, if_true]
  · intro hdiffer
    unfold adoptEquivalentYaml
    split
    · next a b =>
      split
      · next x y hx hy =>
        exact if_neg fun hequal ↦ hdiffer ⟨a, b, x, y, rfl, rfl, hx, hy, hequal⟩
      · rfl
    · rfl

/-- The kept text is one of the two. -/
theorem adoptEquivalentYaml_either (own seen : Option String) :
    adoptEquivalentYaml own seen = own ∨ adoptEquivalentYaml own seen = seen :=
  (Classical.em (Kustomization.SameDocument own seen)).elim
    (fun hsame ↦ .inr ((adoptEquivalentYaml_follows own seen).1 hsame))
    fun hdiffer ↦ .inl ((adoptEquivalentYaml_follows own seen).2 hdiffer)

/-- Keeping a text twice is keeping it once. -/
theorem adoptEquivalentYaml_twice (own seen : Option String) :
    adoptEquivalentYaml (adoptEquivalentYaml own seen) seen = adoptEquivalentYaml own seen := by
  rcases adoptEquivalentYaml_either own seen with h | h
  · rw [h, h]
  · rw [h]
    rcases adoptEquivalentYaml_either seen seen with h | h <;> exact h

/-! ## Settings -/

namespace ArgoCD.ResourceSettings

/-- The slots of settings in which normalization follows the observed values. -/
def sanctioned : List (Slot ResourceSettings) := [
  .unset (·.multiClusterDashboardEnabled),
  .unset (·.kubeVisionConfig),
  .unset (·.aiSupportEngineerExtension),
  ⟨_, fun s ↦ (s.fqdn, s.subdomain),
    fun own _ ↦ isGiven own.fqdn = true ∧ isGiven own.subdomain = true⟩,
  ⟨_, kustomization, fun own seen ↦ Kustomization.SameDocument own.kustomization seen.kustomization⟩]

/-- Settings without what normalization may change. -/
def withoutSanctioned (s : ResourceSettings) : ResourceSettings :=
  { s with
    multiClusterDashboardEnabled := none
    fqdn := none
    subdomain := none
    kubeVisionConfig := none
    aiSupportEngineerExtension := none
    clusterCustomizationDefaults := withoutText s.clusterCustomizationDefaults }

/-- The kustomization of normalized settings is the desired one or the observed one of two that are
there. -/
theorem kustomization_normalize (own seen : ResourceSettings) :
    (own.normalize seen).kustomization =
      adoptEquivalentYaml own.kustomization seen.kustomization := by
  unfold normalize kustomization
  cases own.clusterCustomizationDefaults with
  | none => rfl
  | some c =>
      cases seen.clusterCustomizationDefaults with
      | some d => rfl
      | none => cases hc : c.kustomization <;> simp [adoptEquivalentYaml, hc]

/-- What normalization may not change stays. -/
theorem withoutSanctioned_normalize (own seen : ResourceSettings) :
    (own.normalize seen).withoutSanctioned = own.withoutSanctioned := by
  unfold normalize withoutSanctioned
  cases own.clusterCustomizationDefaults <;> cases seen.clusterCustomizationDefaults <;> rfl

/-- Every slot that normalization may change follows the observed settings. -/
theorem sanctioned_follow (own seen : ResourceSettings) :
    ∀ slot ∈ sanctioned, slot.Follows own seen (own.normalize seen) := by
  have hadopted {α : Type} (a b : Option α) : a.or b = adopt a b := by cases a <;> rfl
  simp only [sanctioned, List.mem_cons, List.not_mem_nil, or_false, forall_eq_or_imp, forall_eq]
  refine ⟨Slot.unset_follows (hadopted _ _), Slot.unset_follows (hadopted _ _),
    Slot.unset_follows (hadopted _ _), ?_, ?_⟩
  · refine Slot.follows_of_ite (p := (isGiven own.fqdn && isGiven own.subdomain) = true)
      (Bool.and_eq_true_iff).symm ?_
    simp only [normalize]
    split <;> rfl
  · have hfollows := adoptEquivalentYaml_follows own.kustomization seen.kustomization
    rw [← kustomization_normalize] at hfollows
    exact hfollows

/-- Normalizing settings a second time changes nothing. -/
theorem normalize_twice (own seen : ResourceSettings) :
    (own.normalize seen).normalize seen = own.normalize seen := by
  cases hnames : isGiven own.fqdn && isGiven own.subdomain <;>
    cases hown : own.clusterCustomizationDefaults <;>
    cases hseen : seen.clusterCustomizationDefaults <;>
    simp only [normalize, hnames, hown, hseen, adoptEquivalentYaml_twice, if_true,
      Bool.false_eq_true, if_false, ite_self, Option.or_assoc, Option.or_self]

/-- A customization whose kustomization is taken over from either side stays equivalent. -/
theorem equal_customization_normalize {c d : ClusterCustomization String}
    (h : (ClusterCustomization.codec .text).equivalent c d = true) :
    (ClusterCustomization.codec .text).equivalent
      { c with kustomization := adoptEquivalentYaml c.kustomization d.kustomization } d = true := by
  refine Codec.record_equivalent_of_stillAgree ClusterCustomization.mk (by decide) ?_ h
  exact ⟨id, Field.equal_json_of_either (adoptEquivalentYaml_either _ _), id, id, trivial⟩

/-- Settings that are equivalent stay so when they are normalized. -/
theorem equivalent_normalize {own seen : ResourceSettings}
    (h : codec.equivalent own seen = true) : codec.equivalent (own.normalize seen) seen = true := by
  have hadopted {α : Type} {a b : Option α} : a.or b = a ∨ a.or b = b := by cases a <;> simp
  have hnames {α : Type} {a b : α} {p : Bool} :
      (if p then b else a) = a ∨ (if p then b else a) = b := by cases p <;> simp
  refine Codec.record_equivalent_of_stillAgree Settings.mk (by decide) ?_ h
  -- All fields but the sanctioned ones are as they were.
  refine ⟨id, Field.equal_json_of_either hnames, id, id, ?_, id, id, id, id, id, id, id, id, id, id,
    id, id, Field.equal_json_of_either hnames, Field.equal_json_of_either hadopted, id, id, id,
    Field.equal_json_of_either hadopted, id, id, id, Field.equal_json_of_either hadopted, id, id,
    id, trivial⟩
  rw [Field.json_optional, Field.json_optional, Field.json_optional]
  simp only [normalize]
  cases own.clusterCustomizationDefaults with
  | none => exact id
  | some c =>
      cases seen.clusterCustomizationDefaults with
      | none => exact id
      | some d => exact equal_customization_normalize

end ArgoCD.ResourceSettings

/-! ## Entries of the general config map -/

/-- A text is taken apart at every comma. -/
theorem splitAtCommas_eq_splitOn (text : List Char) : splitAtCommas text = text.splitOn ',' := by
  induction text with
  | nil => rfl
  | cons c rest ih =>
      have hsplit : (c :: rest).splitOn ',' =
          if c == ',' then [] :: rest.splitOn ',' else (rest.splitOn ',').modifyHead (c :: ·) :=
        List.splitOnP_cons_eq_if_modifyHead c rest
      rw [splitAtCommas, ih, hsplit]
      by_cases hc : c = ','
      · simp [hc]
      · rw [if_neg hc, if_neg (by simpa using hc)]
        cases hrest : rest.splitOn ',' with
        | nil => exact absurd hrest (List.splitOn_ne_nil _ _)
        | cons first others => rfl

/-- No part between commas has one. -/
theorem comma_notMem_of_mem_splitAtCommas {text part : List Char} (h : part ∈ splitAtCommas text) :
    ',' ∉ part := by
  induction text generalizing part with
  | nil =>
      obtain rfl := List.mem_singleton.1 h
      simp
  | cons c rest ih =>
      rw [splitAtCommas] at h
      split at h
      · rcases List.mem_cons.1 h with rfl | hrest
        · simp
        · exact ih hrest
      · next hc =>
        cases hrest : splitAtCommas rest with
        | nil =>
            rw [hrest] at h
            obtain rfl := List.mem_singleton.1 h
            simpa using Ne.symm hc
        | cons first others =>
            rw [hrest] at h ih
            rcases List.mem_cons.1 h with rfl | hother
            · simpa [Ne.symm hc] using ih List.mem_cons_self
            · exact ih (List.mem_cons_of_mem _ hother)

/-- The members of a set are what is left of the parts between its commas without the blank characters
at their ends, unless nothing is left. -/
theorem mem_setMembers_iff {text member : String} :
    member ∈ setMembers text ↔ member ≠ "" ∧ ∃ parts : List (List Char),
      [','].intercalate parts = text.toList ∧ (∀ part ∈ parts, ',' ∉ part) ∧
        ∃ part ∈ parts, Text.Trims part member.toList := by
  have hpart (part : List Char) : setMembers.nonBlank (String.ofList part) = some member ↔
      member ≠ "" ∧ Text.Trims part member.toList := by
    rw [← Text.trim_eq_iff, String.ofList_toList, setMembers.nonBlank,
      Option.ite_none_left_eq_some, Option.some.injEq]
    exact and_congr_left fun htrim ↦ by rw [htrim]
  simp only [setMembers, List.mem_filterMap, hpart]
  constructor
  · rintro ⟨part, hmem, hne, htrims⟩
    refine ⟨hne, _, ?_, fun _ ↦ comma_notMem_of_mem_splitAtCommas, part, hmem, htrims⟩
    rw [splitAtCommas_eq_splitOn, List.intercalate_splitOn]
  · rintro ⟨hne, parts, htext, hcommas, part, hmem, htrims⟩
    refine ⟨part, ?_, hne, htrims⟩
    rwa [splitAtCommas_eq_splitOn, ← htext,
      List.splitOn_intercalate ',' hcommas (List.ne_nil_of_mem hmem)]

/-- A login and an API key, with blanks and a comma too many. -/
example : setMembers " login,, apiKey\t" = ["login", "apiKey"] := by
  decide +kernel

/-- Texts write the same set exactly if they have the same members. -/
theorem sameSets_iff {a b : String} :
    sameSets a b = true ↔ ∀ member, member ∈ setMembers a ↔ member ∈ setMembers b := by
  simp only [sameSets, Bool.and_eq_true, List.all_eq_true, List.contains_eq_mem, decide_eq_true_eq]
  exact ⟨fun h member ↦ ⟨h.1 member, h.2 member⟩,
    fun h ↦ ⟨fun member ↦ (h member).1, fun member ↦ (h member).2⟩⟩

/-- Texts write the same customizations exactly if both can be read and are equivalent. -/
theorem ResourceCustomization.sameMaps_iff {a b : String} :
    sameMaps a b = true ↔ ∃ x y, readMap? a = some x ∧ readMap? b = some y ∧
      mapCodec.equivalent x y = true := by
  unfold sameMaps
  cases readMap? a <;> cases readMap? b <;> simp [Codec.equivalent]

namespace NormalizeRules

variable (rules : NormalizeRules)

/-- Whether the values of an entry mean the same by these rules: the same set under the start of
set-valued keys, and equivalent customizations under other keys that are structured. -/
def SameEntry (key own seen : String) : Prop :=
  (rules.setValuedStart.toList <+: key.toList ∧
      ∀ member, member ∈ setMembers own ↔ member ∈ setMembers seen) ∨
    (¬ rules.setValuedStart.toList <+: key.toList ∧ key ∈ rules.structuredKeys ∧
      ∃ x y, ResourceCustomization.readMap? own = some x ∧
        ResourceCustomization.readMap? seen = some y ∧
        ResourceCustomization.mapCodec.equivalent x y = true)

theorem sameEntry_iff {key own seen : String} :
    rules.sameEntry key own seen = true ↔ rules.SameEntry key own seen := by
  unfold sameEntry SameEntry
  rw [← sameSets_iff, ← ResourceCustomization.sameMaps_iff, ← List.isPrefixOf_iff_prefix]
  cases rules.setValuedStart.toList.isPrefixOf key.toList <;> simp

/-- An entry without those that the platform manages itself. -/
theorem get?_dropIgnored (config : ConfigMapData) (key : String) :
    (rules.dropIgnored config).get? key =
      if key ∈ rules.ignoredConfigKeys then none else config.get? key := by
  rw [dropIgnored, Dict.get?_filter]
  cases config.get? key <;> by_cases h : key ∈ rules.ignoredConfigKeys <;> simp [Option.filter, h]

/-- An entry of a config map in which the observed values were taken over. -/
theorem get?_adoptEntries (config : ConfigMapData) (observed : Option ConfigMapData)
    (key : String) :
    (rules.adoptEntries config observed).get? key =
      (config.get? key).map fun own ↦
        match observed.bind (·.get? key) with
        | some seen => if rules.sameEntry key own seen then seen else own
        | none => own :=
  Dict.get?_mapValues config _ key

end NormalizeRules

namespace InstanceSpec

/-- The value of an entry of the general config map. -/
def configValue? (spec : InstanceSpec) (key : String) : Option String :=
  spec.configMaps.general.bind (·.get? key)

/-- The entry of the general config map with a key. It is due if it is there on both sides and its
values mean the same. -/
def entrySlot (rules : NormalizeRules) (key : String) : Slot InstanceSpec where
  Value := Option String
  get spec := spec.configValue? key
  Due desired observed := ∃ own seen, desired.configValue? key = some own ∧
    observed.configValue? key = some seen ∧ rules.SameEntry key own seen

/-- A specification without the entries of its general config map. -/
def withoutEntries (spec : InstanceSpec) : InstanceSpec :=
  { spec with
    configMaps := { spec.configMaps with general := spec.configMaps.general.map fun _ ↦ .empty } }

/-- Specifications with the same entries that are otherwise the same are the same. -/
theorem eq_of_configValue?_eq {a b : InstanceSpec} (hrest : a.withoutEntries = b.withoutEntries)
    (hentries : ∀ key, a.configValue? key = b.configValue? key) : a = b := by
  have hgeneral : a.configMaps.general = b.configMaps.general := by
    have hpresent := congrArg (·.configMaps.general) hrest
    simp only [withoutEntries] at hpresent
    simp only [configValue?] at hentries
    cases ha : a.configMaps.general <;> cases hb : b.configMaps.general <;>
      simp only [ha, hb, Option.map_some, Option.map_none, reduceCtorEq, Option.bind_some] at *
    exact congrArg some (Dict.ext_get? hentries)
  obtain ⟨_, _, ⟨_, _, _, _, _, _, _⟩, _⟩ := a
  obtain ⟨_, _, ⟨_, _, _, _, _, _, _⟩, _⟩ := b
  simp_all [withoutEntries]

variable (rules : NormalizeRules) (desired observed : InstanceSpec)

/-- The entries of a normalized observed specification. -/
theorem configValue?_normalizeObserved (key : String) :
    (observed.normalizeObserved rules).configValue? key =
      if key ∈ rules.ignoredConfigKeys then none else observed.configValue? key := by
  unfold configValue? normalizeObserved
  cases observed.configMaps.general with
  | none => simp
  | some config => exact rules.get?_dropIgnored config key

/-- The entries of a normalized desired specification. -/
theorem configValue?_normalizeDesired (key : String) :
    (desired.normalizeDesired rules observed).configValue? key =
      if key ∈ rules.ignoredConfigKeys then none
      else (desired.configValue? key).map fun own ↦
        match observed.configValue? key with
        | some seen => if rules.sameEntry key own seen then seen else own
        | none => own := by
  unfold configValue? normalizeDesired
  cases desired.configMaps.general with
  | none => simp
  | some config =>
      simp only [Option.map_some, Option.bind_some, rules.get?_dropIgnored,
        rules.get?_adoptEntries]

/-- An entry that is not ignored follows the observed one. -/
theorem entrySlot_follows {key : String} (hkept : key ∉ rules.ignoredConfigKeys) :
    (entrySlot rules key).Follows desired observed (desired.normalizeDesired rules observed) := by
  simp only [Slot.Follows, entrySlot, configValue?_normalizeDesired, if_neg hkept]
  constructor
  · rintro ⟨own, seen, hown, hseen, hsame⟩
    simp only [hown, hseen, Option.map_some, rules.sameEntry_iff.2 hsame, if_true]
  · intro hdiffer
    cases hown : desired.configValue? key with
    | none => rfl
    | some own =>
        cases hseen : observed.configValue? key with
        | none => rfl
        | some seen =>
            have hnot : ¬ rules.sameEntry key own seen = true := fun hsame ↦
              hdiffer ⟨own, seen, hown, hseen, rules.sameEntry_iff.1 hsame⟩
            simp only [Option.map_some, if_neg hnot]

/-- The settings of a normalized specification. -/
theorem settings?_normalizeDesired :
    (∃ own seen, desired.settings? = some own ∧ observed.settings? = some seen ∧
      (desired.normalizeDesired rules observed).settings? = some (own.normalize seen)) ∨
    (desired.settings? = none ∨ observed.settings? = none) ∧
      (desired.normalizeDesired rules observed).settings? = desired.settings? := by
  unfold normalizeDesired settings?
  cases desired.argocd with
  | none => exact .inr ⟨.inl rfl, rfl⟩
  | some own =>
      cases observed.argocd with
      | none => exact .inr ⟨.inr rfl, rfl⟩
      | some seen => exact .inl ⟨own.spec.settings, seen.spec.settings, rfl, rfl, rfl⟩

/-- Every slot of the settings that normalization may change follows the observed settings. -/
theorem sanctioned_follow :
    ∀ slot ∈ ArgoCD.ResourceSettings.sanctioned,
      (slot.within settings?).Follows desired observed
        (desired.normalizeDesired rules observed) := by
  intro slot hslot
  rcases settings?_normalizeDesired rules desired observed with
    ⟨own, seen, hown, hseen, hafter⟩ | ⟨hmissing, hafter⟩
  · exact Slot.within_follows hown hseen hafter
      (ArgoCD.ResourceSettings.sanctioned_follow own seen slot hslot)
  · exact Slot.within_follows_of_missing hmissing hafter

/-- Desired and observed entries that are equivalent stay so. -/
theorem equal_general_normalize
    (h : Json.equal (Codec.text.dict.optional.toJson desired.configMaps.general)
      (Codec.text.dict.optional.toJson observed.configMaps.general) = true) :
    Json.equal
      (Codec.text.dict.optional.toJson
        (desired.normalizeDesired rules observed).configMaps.general)
      (Codec.text.dict.optional.toJson
        (observed.normalizeObserved rules).configMaps.general) = true := by
  have hentry (spec : InstanceSpec) (key : String) :
      (spec.configMaps.general.getD .empty).get? key = spec.configValue? key := by
    unfold configValue?
    cases spec.configMaps.general <;> rfl
  rw [Codec.equal_optional_dict, Codec.dict_equivalent_iff] at h ⊢
  intro key
  have hkey := h key
  rw [hentry, hentry] at hkey ⊢
  by_cases hignored : key ∈ rules.ignoredConfigKeys
  · rw [configValue?_normalizeDesired, configValue?_normalizeObserved, if_pos hignored,
      if_pos hignored]
    exact Codec.text.optional.equivalent_refl none
  · rw [configValue?_normalizeObserved, if_neg hignored]
    obtain ⟨htaken, hkept⟩ := entrySlot_follows rules desired observed hignored
    by_cases hdue : (entrySlot rules key).Due desired observed
    · rw [show configValue? _ key = _ from htaken hdue]
      exact Codec.text.optional.equivalent_refl _
    · rw [show configValue? _ key = _ from hkept hdue]
      exact hkey

/-- Specifications that are equivalent stay so when they are normalized. -/
theorem equivalent_normalize (h : codec.equivalent desired observed = true) :
    codec.equivalent (desired.normalizeDesired rules observed)
      (observed.normalizeObserved rules) = true := by
  refine Codec.record_equivalent_of_stillAgree _ (by decide) ?_ h
  refine ⟨id, ?_, ?_, id, id, id, id, id, id, id, trivial⟩
  · rw [Field.json_optional, Field.json_optional, Field.json_optional, Field.json_optional]
    simp only [normalizeDesired, normalizeObserved]
    cases desired.argocd with
    | none => exact id
    | some own =>
        cases observed.argocd with
        | none => exact id
        | some seen =>
            simp only [Codec.equal_optional_some, ArgoCD.equivalent_iff]
            exact fun hparts ↦ ⟨hparts.1, hparts.2.1,
              ArgoCD.ResourceSettings.equivalent_normalize hparts.2.2⟩
  · rw [Field.json_optional, Field.json_optional, Field.json_optional, Field.json_optional]
    exact equal_general_normalize rules desired observed

/-- Normalizing an observed specification a second time changes nothing. -/
theorem normalizeObserved_twice :
    (observed.normalizeObserved rules).normalizeObserved rules =
      observed.normalizeObserved rules := by
  refine eq_of_configValue?_eq ?_ fun key ↦ ?_
  · simp only [withoutEntries, normalizeObserved, Option.map_map]
    rfl
  · rw [configValue?_normalizeObserved]
    split
    · next hignored => rw [configValue?_normalizeObserved, if_pos hignored]
    · rfl

/-- Normalizing a desired specification a second time changes nothing. -/
theorem normalizeDesired_twice :
    (desired.normalizeDesired rules observed).normalizeDesired rules
      (observed.normalizeObserved rules) = desired.normalizeDesired rules observed := by
  refine eq_of_configValue?_eq ?_ fun key ↦ ?_
  · simp only [withoutEntries, normalizeDesired, normalizeObserved, Option.map_map]
    cases desired.argocd with
    | none => rfl
    | some own =>
        cases observed.argocd with
        | none => rfl
        | some seen => simp only [ArgoCD.ResourceSettings.normalize_twice]; rfl
  · rw [configValue?_normalizeDesired, configValue?_normalizeDesired,
      configValue?_normalizeObserved]
    by_cases hignored : key ∈ rules.ignoredConfigKeys
    · rw [if_pos hignored, if_pos hignored]
    · simp only [if_neg hignored]
      cases desired.configValue? key with
      | none => rfl
      | some own =>
          cases observed.configValue? key with
          | none => rfl
          | some seen => by_cases hsame : rules.sameEntry key own seen = true <;> simp [hsame]

/-- What two specifications become when nothing changes but what is sanctioned: of both the ignored
entries are left out, and the other entries and the slots of the settings of the desired one follow
the observed ones. -/
structure NormalizedTo (desired' observed' : InstanceSpec) : Prop where
  observed_rest : observed'.withoutEntries = observed.withoutEntries
  observed_entry : ∀ key, observed'.configValue? key =
    if key ∈ rules.ignoredConfigKeys then none else observed.configValue? key
  desired_rest :
    (desired'.mapSettings ArgoCD.ResourceSettings.withoutSanctioned).withoutEntries =
      (desired.mapSettings ArgoCD.ResourceSettings.withoutSanctioned).withoutEntries
  desired_settings : ∀ slot ∈ ArgoCD.ResourceSettings.sanctioned,
    (slot.within settings?).Follows desired observed desired'
  desired_ignored : ∀ key ∈ rules.ignoredConfigKeys, desired'.configValue? key = none
  desired_entry : ∀ key, key ∉ rules.ignoredConfigKeys →
    (entrySlot rules key).Follows desired observed desired'

/-- Normalization hides the sanctioned differences and never adds one. -/
theorem normalize_hides_sanctioned :
    NormalizedTo rules desired observed (desired.normalizeDesired rules observed)
        (observed.normalizeObserved rules) ∧
      (codec.equivalent desired observed = true →
        codec.equivalent (desired.normalizeDesired rules observed)
          (observed.normalizeObserved rules) = true) ∧
      (desired.normalizeDesired rules observed).normalizeDesired rules
        (observed.normalizeObserved rules) = desired.normalizeDesired rules observed ∧
      (observed.normalizeObserved rules).normalizeObserved rules =
        observed.normalizeObserved rules := by
  refine ⟨?_, equivalent_normalize rules desired observed,
    normalizeDesired_twice rules desired observed, normalizeObserved_twice rules observed⟩
  constructor
  case observed_rest =>
    simp only [withoutEntries, normalizeObserved, Option.map_map]
    rfl
  case observed_entry => exact configValue?_normalizeObserved rules observed
  case desired_rest =>
    simp only [mapSettings, withoutEntries, normalizeDesired, Option.map_map]
    cases desired.argocd with
    | none => rfl
    | some own =>
        cases observed.argocd with
        | none => rfl
        | some seen =>
            simp only [Option.map_some, ArgoCD.ResourceSettings.withoutSanctioned_normalize]
            rfl
  case desired_settings => exact sanctioned_follow rules desired observed
  case desired_ignored =>
    intro key hignored
    rw [configValue?_normalizeDesired, if_pos hignored]
  case desired_entry => exact fun key ↦ entrySlot_follows rules desired observed

/-- An entry that the platform manages itself is left out, and the rest stays equivalent. -/
theorem normalize_hides_sanctioned_url :
    let rules : NormalizeRules := {}
    let desired : InstanceSpec :=
      { name := "prod", configMaps := { ConfigMaps.all none with
          general := some (.ofList [("url", ""), ("accounts.ci", "login")]) } }
    let observed : InstanceSpec :=
      { name := "prod", configMaps := { ConfigMaps.all none with
          general := some (.ofList [("accounts.ci", "login")]) } }
    codec.equivalent desired observed = true ∧
      codec.equivalent (desired.normalizeDesired rules observed)
        (observed.normalizeObserved rules) = true ∧
      (desired.normalizeDesired rules observed).configValue? "url" = none := by
  intro rules desired observed
  have hequivalent : codec.equivalent desired observed = true := by decide +kernel
  obtain ⟨hchanges, hstays, _, _⟩ := normalize_hides_sanctioned rules desired observed
  exact ⟨hequivalent, hstays hequivalent, hchanges.desired_ignored "url" (by decide)⟩

end InstanceSpec

end FleetOperator
