import FleetOperator.Bridge.Instance
import FleetOperator.Proofs.Bridge.Documents
import FleetOperator.Proofs.Cluster.Stored
import FleetOperator.Proofs.Platform.Holdings

/-!
# Instances that were stored as they were asked for

What an instance's specification becomes when the platform reports back what was written for it.
Read `lateInitialize_stored` and `isUpToDate_stored` first: late initialization settles the
specification without changing what it asks for, and by any rules the comparison fails only if the
kustomization of the customization defaults is vacuous.
-/

namespace FleetOperator

namespace ArgoCD

/-- A customization after late initialization from what was stored for it: an empty kustomization
is none. -/
def ClusterCustomization.settled (c : ClusterCustomization String) : ClusterCustomization String :=
  { c with kustomization := Kustomization.given c.kustomization }

/-- Settings after late initialization from what was stored for them. -/
def ResourceSettings.settled (s : ResourceSettings) : ResourceSettings :=
  { s with
    clusterCustomizationDefaults := s.clusterCustomizationDefaults.map (·.settled) }

/-- A customization is stored with the document of its kustomization. -/
theorem ClusterCustomization.toPlatform?_eq_ok {c : ClusterCustomization String}
    {stored : ClusterCustomization Json} :
    c.toPlatform? = .ok stored ↔ ∃ document, Kustomization.ofYaml? c.kustomization = .ok document ∧
      stored =
        { autoUpgradeDisabled := c.autoUpgradeDisabled
          kustomization := document
          appReplication := c.appReplication
          redisTunneling := c.redisTunneling } := by
  unfold toPlatform? mapKustomization?
  rw [mapError_eq_ok, bind_eq_ok]
  refine exists_congr fun document ↦ and_congr_right fun _ ↦ ?_
  exact ⟨fun h ↦ (Except.ok.inj h).symm, fun h ↦ congrArg _ h.symm⟩

/-- Settings are stored with their texts and the stored form of their customization. -/
theorem ResourceSettings.toPlatform?_eq_ok {s : ResourceSettings}
    {stored : Platform.InstanceSettings} :
    s.toPlatform? = .ok stored ↔ ∃ customization,
      s.clusterCustomizationDefaults.mapM ClusterCustomization.toPlatform? = .ok customization ∧
        stored = s.withForms (·.getD "") customization := by
  unfold toPlatform?
  rw [bind_eq_ok]
  refine exists_congr fun customization ↦ and_congr_right fun _ ↦ ?_
  exact ⟨fun h ↦ (Except.ok.inj h).symm, fun h ↦ congrArg _ h.symm⟩

/-- A customization that may be absent is stored as the document of its kustomization, if it is
there. -/
theorem mapM_toPlatform?_eq_ok {own : Option (ClusterCustomization String)}
    {stored : Option (ClusterCustomization Json)} :
    own.mapM ClusterCustomization.toPlatform? = .ok stored ↔
      (own = none ∧ stored = none) ∨
        ∃ c held, own = some c ∧ stored = some held ∧ c.toPlatform? = .ok held := by
  rcases own with _ | c
  · simp [pure, Except.pure, eq_comm]
  · rw [Option.mapM_some]
    cases hheld : c.toPlatform? with
    | error error => simp [hheld, Functor.map, Except.map]
    | ok held => simp [hheld, Functor.map, Except.map, eq_comm]

/-- Taking over a customization that was stored settles it. -/
theorem adoptCustomization_stored {own : Option (ClusterCustomization String)}
    {stored : Option (ClusterCustomization Json)}
    (hstored : own.mapM ClusterCustomization.toPlatform? = .ok stored) :
    adoptCustomization own (stored.map (·.ofPlatform)) = (own.map (·.settled), none) := by
  rcases mapM_toPlatform?_eq_ok.1 hstored with ⟨rfl, rfl⟩ | ⟨c, held, rfl, rfl, hheld⟩
  · rfl
  · obtain ⟨document, hread, rfl⟩ := ClusterCustomization.toPlatform?_eq_ok.1 hheld
    simp only [adoptCustomization, Option.map_some, ClusterCustomization.ofPlatform,
      adoptKustomization_stored _ hread]
    rfl

/-- Taking over the same customization twice is taking it over once. -/
theorem adoptCustomization_twice (own seen : Option (ClusterCustomization String)) :
    adoptCustomization (adoptCustomization own seen).1 seen = adoptCustomization own seen := by
  rcases seen with _ | seen
  · cases own <;> rfl
  · cases own with
    | some own => simp only [adoptCustomization, adoptKustomization_twice]
    | none =>
        cases herror : kustomizationError? customizationSubject seen.kustomization with
        | some error => simp only [adoptCustomization, herror]
        | none =>
            have hself : adoptKustomization customizationSubject seen.kustomization
                seen.kustomization = (seen.kustomization, none) := by
              simp only [adoptKustomization, herror, ite_self]
            simp only [adoptCustomization, herror, hself]

/-- Settling a customization does not change its stored form. -/
theorem mapM_toPlatform?_settled (own : Option (ClusterCustomization String)) :
    (own.map (·.settled)).mapM ClusterCustomization.toPlatform? =
      own.mapM ClusterCustomization.toPlatform? := by
  rcases own with _ | c
  · rfl
  · have hsame : c.settled.toPlatform? = c.toPlatform? := by
      unfold ClusterCustomization.toPlatform? ClusterCustomization.mapKustomization?
      simp only [ClusterCustomization.settled, Kustomization.ofYaml?_given]
    simp only [Option.map_some, Option.mapM_some, hsame]

namespace ResourceSettings

/-- Settings that were stored and reported back settle by late initialization. -/
theorem lateInitialize_stored {own : ResourceSettings} {stored : Platform.InstanceSettings}
    (hstored : own.toPlatform? = .ok stored) :
    own.lateInitialize (ofPlatform stored) = { spec := own.settled } := by
  obtain ⟨customization, hcustomization, rfl⟩ := toPlatform?_eq_ok.1 hstored
  simp only [lateInitialize, ofPlatform, Settings.withForms,
    adoptCustomization_stored hcustomization, adopt_nonEmpty_getD, adopt_self]
  rfl

/-- Late initialization of settings takes over the same ones a second time, or fails again. -/
theorem lateInitialize_twice (own seen : ResourceSettings) :
    (own.lateInitialize seen).spec.lateInitialize seen = own.lateInitialize seen := by
  simp only [lateInitialize, adoptCustomization_twice, adopt_adopt]

/-- Settling settings does not change their stored form. -/
theorem toPlatform?_settled (own : ResourceSettings) :
    own.settled.toPlatform? = own.toPlatform? := by
  unfold toPlatform?
  simp only [settled, mapM_toPlatform?_settled]
  rfl

/-- The kustomization of the customization defaults. -/
def kustomization (s : ResourceSettings) : Option String :=
  s.clusterCustomizationDefaults.bind (·.kustomization)

/-- Compared with what was stored for it, a settled customization is equivalent if its kustomization
is not vacuous. -/
theorem equal_customization_stored {own : ResourceSettings}
    {customization : Option (ClusterCustomization Json)}
    (hstored : own.clusterCustomizationDefaults.mapM ClusterCustomization.toPlatform? =
      .ok customization)
    (hvacuous : Kustomization.isVacuous own.kustomization = false)
    (hreads : ∀ document, Kustomization.ofYaml? own.kustomization = .ok (some document) →
      Yaml.ReadsBack document) :
    Json.equal
      ((ClusterCustomization.codec .text).optional.toJson
        (match own.settled.clusterCustomizationDefaults, customization.map (·.ofPlatform) with
        | some c, some d =>
          some { c with kustomization := adoptEquivalentYaml c.kustomization d.kustomization }
        | c, _ => c))
      ((ClusterCustomization.codec .text).optional.toJson (customization.map (·.ofPlatform))) =
        true := by
  rcases mapM_toPlatform?_eq_ok.1 hstored with ⟨hown, rfl⟩ | ⟨c, held, hown, rfl, hheld⟩
  · simp [settled, hown, Json.equal, Json.isZero]
  · obtain ⟨document, hread, rfl⟩ := ClusterCustomization.toPlatform?_eq_ok.1 hheld
    have hkustomization : own.kustomization = c.kustomization := by
      rw [kustomization, hown, Option.bind_some]
    rw [hkustomization] at hvacuous hreads
    have hcompared := Kustomization.compared_with_stored hread fun stored hsome ↦
      hreads stored (hsome ▸ hread)
    rw [hvacuous] at hcompared
    simp only [settled, hown, Option.map_some, ClusterCustomization.settled,
      ClusterCustomization.ofPlatform, Codec.equal_optional_some]
    show (Codec.record ClusterCustomization.mk _).equivalent _ _ = true
    rw [Codec.record_equivalent_iff (by decide)]
    exact ⟨Field.equal_json_of_get_eq rfl,
      by rw [Field.json_optional, Field.json_optional, Codec.equal_optional_text]; exact hcompared,
      Field.equal_json_of_get_eq rfl, Field.equal_json_of_get_eq rfl, trivial⟩

/-- Compared with what was stored for them, settled settings are equivalent if the kustomization of
the customization defaults is not vacuous. -/
theorem equivalent_stored {own : ResourceSettings} {stored : Platform.InstanceSettings}
    (hstored : own.toPlatform? = .ok stored)
    (hvacuous : Kustomization.isVacuous own.kustomization = false)
    (hreads : ∀ document, Kustomization.ofYaml? own.kustomization = .ok (some document) →
      Yaml.ReadsBack document) :
    codec.equivalent (own.settled.normalize (ofPlatform stored)) (ofPlatform stored) = true := by
  obtain ⟨customization, hcustomization, rfl⟩ := toPlatform?_eq_ok.1 hstored
  have hdefaults := equal_customization_stored hcustomization hvacuous hreads
  -- Every other field is the same on both sides, up to a text that is absent on one of them.
  have same {α : Type} {field : Field ResourceSettings α} {a b : ResourceSettings}
      (h : field.get a = field.get b) : Json.equal (field.json a) (field.json b) = true :=
    Field.equal_json_of_get_eq h
  have sameText {name : String} {get : ResourceSettings → Option String} {a b : ResourceSettings}
      (h : (get a).getD "" = (get b).getD "") :
      Json.equal ((Field.optional name get .text).json a)
        ((Field.optional name get .text).json b) = true := by
    rw [Field.json_optional, Field.json_optional, Codec.equal_optional_text, h]
    exact Json.equalTexts_refl _
  show (Codec.record Settings.mk _).equivalent _ _ = true
  rw [Codec.record_equivalent_iff (by decide)]
  refine ⟨same rfl, sameText ?_, same rfl, same rfl, ?_, same rfl, same rfl, same rfl, same rfl,
    same rfl, same rfl, same rfl, same rfl, same rfl, same rfl, same rfl, same rfl, sameText ?_,
    same (Option.or_self), same rfl, sameText ?_, same rfl, same (Option.or_self), same rfl,
    sameText ?_, same rfl, same (Option.or_self), same rfl, same rfl, same rfl, trivial⟩
  · simp only [normalize]
    split
    · rfl
    · exact (getD_nonEmpty _).symm
  · rw [Field.json_optional, Field.json_optional]
    exact hdefaults
  · simp only [normalize]
    split
    · rfl
    · exact (getD_nonEmpty _).symm
  · exact (getD_nonEmpty _).symm
  · exact (getD_nonEmpty _).symm

end ResourceSettings

/-- Two instances are equivalent exactly if their descriptions, versions and settings are. -/
theorem equivalent_iff (a b : ArgoCD) :
    codec.equivalent a b = true ↔
      Json.equalTexts (a.spec.description.getD "") (b.spec.description.getD "") = true ∧
      Json.equalTexts a.spec.version b.spec.version = true ∧
      ResourceSettings.codec.equivalent a.spec.settings b.spec.settings = true := by
  have hspec : codec.equivalent a b = true ↔ Spec.codec.equivalent a.spec b.spec = true := by
    rw [codec, Codec.record_equivalent_iff (by decide)]
    simp only [Fields.Agree, Field.json_defaulted, and_true, Codec.equivalent]
  rw [hspec, Spec.codec, Codec.record_equivalent_iff (by decide)]
  simp only [Fields.Agree, Field.json_optional, Field.json_required, Field.json_defaulted,
    Codec.equal_optional_text, Codec.text_toJson, Json.equal, and_true, Codec.equivalent]

end ArgoCD

/-- Data that are there stay, and absent data are not made up from what is left of them. -/
theorem adopt_bind {α : Type} (own : Option α) (f : α → Option α) :
    adopt own (own.bind f) = own := by
  cases own <;> rfl

@[simp] theorem getD_bind_nonEmptyDict {α : Type} (d : Option (Dict α)) :
    (d.bind nonEmptyDict).getD .empty = d.getD .empty := by
  cases d with
  | none => rfl
  | some d => exact getD_nonEmptyDict d

/-- A dictionary of values is equivalent to what is reported of it. -/
theorem Codec.equal_optional_dict_nonEmpty {α : Type} (c : Codec α) (d : Option (Dict α)) :
    Json.equal (c.dict.optional.toJson d) (c.dict.optional.toJson (d.bind nonEmptyDict)) = true :=
  c.equal_optional_dict_of_getD_eq (getD_bind_nonEmptyDict d).symm

namespace NormalizeRules

/-- Taking over the stored values of the same entries changes nothing. -/
theorem adoptEntries_stored (rules : NormalizeRules) (config : ConfigMapData) :
    rules.adoptEntries config (nonEmptyDict config) = config := by
  apply Dict.ext_get?
  intro key
  rw [adoptEntries, Dict.get?_mapValues]
  cases hown : config.get? key with
  | none => rfl
  | some own =>
      have hsome : nonEmptyDict config = some config := by
        unfold nonEmptyDict
        split
        · next hempty =>
          rw [Dict.isEmpty_iff.1 hempty] at hown
          simp at hown
        · rfl
      simp only [hsome, Option.bind_some, hown, Option.map_some, ite_self]

/-- By any rules a general config map is equivalent to what is reported of it. -/
theorem equal_general_stored (rules : NormalizeRules) (config : Option ConfigMapData) :
    Json.equal
      (Codec.text.dict.optional.toJson (config.map fun own ↦
        rules.dropIgnored (rules.adoptEntries own (config.bind nonEmptyDict))))
      (Codec.text.dict.optional.toJson ((config.bind nonEmptyDict).map rules.dropIgnored)) =
        true := by
  apply Codec.equal_optional_dict_of_getD_eq
  cases config with
  | none => rfl
  | some own =>
      simp only [Option.map_some, Option.bind_some, adoptEntries_stored, Option.getD_some]
      unfold nonEmptyDict
      split
      · next hempty =>
        rw [Dict.isEmpty_iff.1 hempty]
        rfl
      · rfl

end NormalizeRules

namespace InstanceSpec

/-- The kustomization of the customization defaults that a specification asks for. -/
def kustomization (spec : InstanceSpec) : Option String :=
  spec.argocd.bind (·.spec.settings.kustomization)

/-- The specification after late initialization from what was stored for it. -/
def settled (spec : InstanceSpec) : InstanceSpec :=
  { spec with
    argocd := spec.argocd.map fun own ↦
      { own with spec := { own.spec with settings := own.spec.settings.settled } } }

/-- The request for a specification with stored settings. -/
def request (spec : InstanceSpec) (argocd : ArgoCD) (stored : Platform.InstanceSettings) :
    Platform.ApplyInstance where
  id := spec.name
  argocd := {
    apiVersion := Platform.manifestVersion
    kind := "ArgoCD"
    metadata := { name := spec.name }
    spec := {
      description := argocd.spec.description.getD ""
      version := argocd.spec.version
      settings := stored } }
  configMaps := ConfigMaps.zipWith ConfigMapData.toDocument .names spec.configMaps
  plugins := Plugins.toDocuments spec.plugins

/-- What the platform reports of a specification that it stored: config maps and plugins without
entries are not reported. -/
def reported (spec : InstanceSpec) (argocd : ArgoCD) (stored : Platform.InstanceSettings) :
    InstanceSpec where
  name := spec.name
  argocd := some { spec := {
    description := nonEmpty (argocd.spec.description.getD "")
    version := argocd.spec.version
    settings := .ofPlatform stored } }
  configMaps := ConfigMaps.zipWith (fun _ data ↦ data.bind nonEmptyDict) .names spec.configMaps
  plugins := spec.plugins.bind nonEmptyDict

/-- A specification has a request exactly if it asks for an instance whose settings can be stored. -/
theorem toRequest?_eq_ok {spec : InstanceSpec} {r : Platform.ApplyInstance} :
    spec.toRequest? = .ok r ↔ ∃ argocd stored, spec.argocd = some argocd ∧
      argocd.spec.settings.toPlatform? = .ok stored ∧ r = spec.request argocd stored := by
  unfold toRequest?
  cases spec.argocd with
  | none => simp [throw, throwThe, MonadExceptOf.throw]
  | some argocd =>
      -- Only the kustomization of the customization defaults can fail to be stored.
      simp only [Option.some.injEq, exists_and_left, exists_eq_left']
      rw [bind_eq_ok]
      refine exists_congr fun stored ↦ and_congr_right fun _ ↦ ?_
      exact ⟨fun h ↦ (Except.ok.inj h).symm, fun h ↦ congrArg _ h.symm⟩

/-- Settling a specification does not change its request. -/
theorem toRequest?_settled (spec : InstanceSpec) : spec.settled.toRequest? = spec.toRequest? := by
  unfold toRequest?
  cases hargocd : spec.argocd with
  | none => simp [settled, hargocd]
  | some argocd =>
      simp only [settled, hargocd, Option.map_some, ArgoCD.ResourceSettings.toPlatform?_settled]

/-- Settling a specification keeps the kustomization that is given. -/
theorem kustomization_settled (spec : InstanceSpec) :
    spec.settled.kustomization = Kustomization.given spec.kustomization := by
  obtain ⟨name, _ | argocd, configMaps, plugins⟩ := spec
  · rfl
  · simp only [kustomization, settled, ArgoCD.ResourceSettings.kustomization,
      ArgoCD.ResourceSettings.settled, Option.map_some, Option.bind_some]
    cases argocd.spec.settings.clusterCustomizationDefaults <;> rfl

/-- What the platform says by itself is no part of a specification. -/
theorem ofPlatform?_declared (inst : Platform.Instance) (exported : Platform.Export) :
    ofPlatform? { inst := inst.declared, exported } = ofPlatform? { inst, exported } := rfl

/-- What was stored for a request is reported as a specification. -/
theorem ofPlatform?_stored {spec : InstanceSpec} {argocd : ArgoCD}
    {stored : Platform.InstanceSettings} {inst : Platform.Instance}
    (hinst : inst.declared = (spec.request argocd stored).toBundle.inst) :
    ofPlatform? { inst, exported := (spec.request argocd stored).toBundle.exported } =
      .ok (spec.reported argocd stored) := by
  rw [← ofPlatform?_declared, hinst]
  simp only [ofPlatform?, Platform.ApplyInstance.toBundle, Platform.ApplyInstance.toExport, request,
    ConfigMaps.zipWith, ConfigMaps.sequence, ConfigMapData.ofDocument?_toDocument,
    Plugins.ofDocuments?_toDocuments, bind, Except.bind, pure, Except.pure]
  rfl

/-- Late initialization from what was stored for a specification settles it, and cannot fail. -/
theorem lateInitialize_stored {spec : InstanceSpec} {argocd : ArgoCD}
    {stored : Platform.InstanceSettings} (hargocd : spec.argocd = some argocd)
    (hstored : argocd.spec.settings.toPlatform? = .ok stored) :
    spec.lateInitialize (spec.reported argocd stored) = { spec := spec.settled } := by
  simp only [lateInitialize, hargocd, reported,
    ArgoCD.ResourceSettings.lateInitialize_stored hstored, adoptDocuments, ConfigMaps.zipWith,
    adopt_bind, settled, Option.map_some]

/-- Late initialization takes over the same settings a second time, or fails again. -/
theorem lateInitialize_twice (spec observed : InstanceSpec) :
    (spec.lateInitialize observed).spec.lateInitialize observed =
      spec.lateInitialize observed := by
  cases hown : spec.argocd with
  | none => simp only [lateInitialize, hown, adoptDocuments, adopt_adopt]
  | some own =>
      cases hseen : observed.argocd with
      | none => simp only [lateInitialize, hown, hseen, adoptDocuments, adopt_adopt]
      | some seen =>
          have htwice := own.spec.settings.lateInitialize_twice seen.spec.settings
          cases herror : (own.spec.settings.lateInitialize seen.spec.settings).error with
          | some error => simp only [lateInitialize, hown, hseen, herror, htwice]
          | none =>
              simp only [lateInitialize, hown, hseen, herror, adoptDocuments, htwice, adopt_adopt]

/-- By any rules a settled specification is up to date with what was stored for it, if the
kustomization of the customization defaults is not vacuous. -/
theorem isUpToDate_stored (rules : NormalizeRules) {spec : InstanceSpec} {argocd : ArgoCD}
    {stored : Platform.InstanceSettings} (hargocd : spec.argocd = some argocd)
    (hstored : argocd.spec.settings.toPlatform? = .ok stored)
    (hvacuous : Kustomization.isVacuous spec.kustomization = false)
    (hreads : ∀ document, Kustomization.ofYaml? spec.kustomization = .ok (some document) →
      Yaml.ReadsBack document) :
    spec.settled.isUpToDate rules (spec.reported argocd stored) = true := by
  have hkustomization : spec.kustomization = argocd.spec.settings.kustomization := by
    rw [kustomization, hargocd, Option.bind_some]
  rw [hkustomization] at hvacuous hreads
  have hsettings := ArgoCD.ResourceSettings.equivalent_stored hstored hvacuous hreads
  rw [isUpToDate, codec, Codec.record_equivalent_iff (by decide)]
  -- What is left of the comparison is the settings: all documents are reported as they were asked
  -- for, up to empty ones.
  simp only [Fields.Agree, Field.json_required, Field.json_optional, normalizeDesired,
    normalizeObserved, settled, reported, hargocd, Option.map_some, Codec.equal_optional_some,
    ConfigMaps.zipWith, Codec.equal_optional_dict_nonEmpty, rules.equal_general_stored,
    ArgoCD.equivalent_iff, getD_nonEmpty, hsettings, Codec.text_toJson, Json.equal,
    Json.equalTexts_refl, and_self]

/-- What was stored for a request is reported. It settles the specification, which is then up to
date by any rules, if the kustomization of the customization defaults is not vacuous. -/
theorem stored_of_request {spec : InstanceSpec} {request : Platform.ApplyInstance}
    (hrequest : spec.toRequest? = .ok request) {inst : Platform.Instance}
    (hinst : inst.declared = request.toBundle.inst) :
    ∃ observed, ofPlatform? { inst, exported := request.toBundle.exported } = .ok observed ∧
      spec.lateInitialize observed = { spec := spec.settled } ∧
      (Kustomization.isVacuous spec.kustomization = false →
        (∀ document, Kustomization.ofYaml? spec.kustomization = .ok (some document) →
          Yaml.ReadsBack document) →
        ∀ rules, spec.settled.isUpToDate rules observed = true) := by
  obtain ⟨argocd, stored, hargocd, hstored, rfl⟩ := toRequest?_eq_ok.1 hrequest
  exact ⟨spec.reported argocd stored, ofPlatform?_stored hinst,
    lateInitialize_stored hargocd hstored,
    fun hvacuous hreads rules ↦ isUpToDate_stored rules hargocd hstored hvacuous hreads⟩

end InstanceSpec

end FleetOperator
