import FleetOperator.Proofs.Drift.Slot
import FleetOperator.Proofs.Instance.Stored

/-!
# What late initialization fills

The settings that late initialization may take over are a table of slots for each kind of
specification. Read `lateInitialize_fills_table` first: what is not in the table stays, a slot that
changes was open and then holds what was observed, after a success all open slots are filled, and it
fails exactly if a kustomization that is due is no YAML document.
-/

namespace FleetOperator

/-- The slots of a specification that late initialization may fill, of which the kustomization is
checked before it is taken over, and all of the specification besides them. Together they make up
the specification. -/
structure FillTable (σ : Type) where
  kustomization : σ → Option String
  kustomizationDue : σ → σ → Prop
  settings : List (Slot σ)
  rest : σ → σ
  determined : ∀ a b, rest a = rest b → kustomization a = kustomization b →
    (∀ slot ∈ settings, slot.get a = slot.get b) → a = b

/-- The empty text is a YAML document. -/
theorem Yaml.isDocument_empty : isDocument "" = true := by decide +kernel

namespace FillTable

variable {σ : Type}

/-- All slots of a table. -/
def slots (table : FillTable σ) : List (Slot σ) :=
  ⟨Option String, table.kustomization, table.kustomizationDue⟩ :: table.settings

/-- A kustomization is due and cannot be taken over. -/
def Refused (table : FillTable σ) (desired observed : σ) : Prop :=
  table.kustomizationDue desired observed ∧
    ∃ text, table.kustomization observed = some text ∧ Yaml.isDocument text = false

/-- Late initialization fills the slots of a table and nothing else. -/
structure FilledBy (table : FillTable σ) (fill : σ → σ → LateInitialized σ) : Prop where
  rest : ∀ desired observed, table.rest (fill desired observed).spec = table.rest desired
  changed : ∀ desired observed, ∀ slot ∈ table.slots,
    slot.get (fill desired observed).spec ≠ slot.get desired →
      slot.Due desired observed ∧ slot.get (fill desired observed).spec = slot.get observed
  filled : ∀ desired observed, (fill desired observed).error = none →
    ∀ slot ∈ table.slots, slot.Follows desired observed (fill desired observed).spec
  fails_iff : ∀ desired observed,
    (fill desired observed).error.isSome = true ↔ table.Refused desired observed
  self : ∀ observed, fill observed observed = { spec := observed }
  again : ∀ desired observed, (fill desired observed).error = none →
    fill (fill desired observed).spec observed = { spec := (fill desired observed).spec }

variable {table : FillTable σ} {fill : σ → σ → LateInitialized σ}

/-- What late initialization does to a slot: it follows, or it stays because of a failure. -/
def FollowsOrStays (fill : σ → σ → LateInitialized σ) (slot : Slot σ) : Prop :=
  ∀ desired observed, slot.Follows desired observed (fill desired observed).spec ∨
    (fill desired observed).error.isSome = true ∧
      slot.get (fill desired observed).spec = slot.get desired

/-- What is made of a slot does what the slot does. -/
theorem FollowsOrStays.map {slot : Slot σ} {α : Type} (h : FollowsOrStays fill slot)
    (f : slot.Value → α) : FollowsOrStays fill (slot.map f) := fun desired observed ↦
  (h desired observed).imp (·.map f) fun hstays ↦ ⟨hstays.1, congrArg f hstays.2⟩

/-- A slot follows or stays if it follows without a failure and stays after one. -/
theorem followsOrStays_of_error {slot : Slot σ}
    (hfollows : ∀ desired observed, (fill desired observed).error = none →
      slot.Follows desired observed (fill desired observed).spec)
    (hstays : ∀ desired observed, (fill desired observed).error.isSome = true →
      slot.get (fill desired observed).spec = slot.get desired) :
    FollowsOrStays fill slot := by
  intro desired observed
  by_cases hfailed : (fill desired observed).error.isSome = true
  · exact .inr ⟨hfailed, hstays desired observed hfailed⟩
  · exact .inl (hfollows desired observed (Option.not_isSome_iff_eq_none.1 hfailed))

/-- Without a failure a slot follows. -/
theorem FollowsOrStays.follows {slot : Slot σ} (h : FollowsOrStays fill slot)
    {desired observed : σ} (herror : (fill desired observed).error = none) :
    slot.Follows desired observed (fill desired observed).spec :=
  (h desired observed).resolve_right fun hfailed ↦ by simp [herror] at hfailed

/-- Late initialization fills a table if it does so slot by slot, it fails exactly at a
kustomization that is refused, and a kustomization that is due in the observed specification itself
is not given. -/
theorem FilledBy.of_slots
    (hrest : ∀ desired observed, table.rest (fill desired observed).spec = table.rest desired)
    (hslots : ∀ slot ∈ table.slots, FollowsOrStays fill slot)
    (hfails : ∀ desired observed,
      (fill desired observed).error.isSome = true ↔ table.Refused desired observed)
    (hdue : ∀ observed, table.kustomizationDue observed observed →
      Kustomization.given (table.kustomization observed) = none)
    (hagain : ∀ desired observed,
      fill (fill desired observed).spec observed = fill desired observed) :
    table.FilledBy fill where
  rest := hrest
  changed desired observed slot hslot hchanged := by
    rcases hslots slot hslot desired observed with hfollows | ⟨_, hstays⟩
    · exact hfollows.changed hchanged
    · exact absurd hstays hchanged
  filled desired observed herror slot hslot := (hslots slot hslot).follows herror
  fails_iff := hfails
  self observed := by
    -- Only an empty kustomization can be due, and that one is a YAML document.
    have herror : (fill observed observed).error = none := by
      rw [← Option.not_isSome_iff_eq_none, hfails]
      rintro ⟨hopen, text, htext, hdocument⟩
      obtain rfl : text = "" := by
        simpa [Kustomization.given, Option.filter, htext] using hdue observed hopen
      rw [Yaml.isDocument_empty] at hdocument
      cases hdocument
    have hget : ∀ slot ∈ table.slots,
        slot.get (fill observed observed).spec = slot.get observed :=
      fun slot hslot ↦ ((hslots slot hslot).follows herror).of_self
    have hspec : (fill observed observed).spec = observed :=
      table.determined _ _ (hrest observed observed) (hget _ List.mem_cons_self)
        fun slot hslot ↦ hget slot (List.mem_cons_of_mem _ hslot)
    cases h : fill observed observed
    rw [h] at hspec herror
    rw [← hspec, ← herror]
  again desired observed herror := by rw [hagain, ← herror]

/-- Blocks that may be missing are the same if they are outside of a table and in its slots. -/
theorem block_eq (table : FillTable σ) {τ : Type} {block : τ → Option σ} {a b : τ}
    (hrest : (block a).map table.rest = (block b).map table.rest)
    (hkustomization : (block a).bind table.kustomization = (block b).bind table.kustomization)
    (hsettings : ∀ slot ∈ table.settings,
      (slot.within block).get a = (slot.within block).get b) : block a = block b := by
  simp only [Slot.within] at hsettings
  cases ha : block a <;> cases hb : block b <;>
    simp only [ha, hb, Option.map_some, Option.map_none, Option.bind_some, Option.some.injEq,
      reduceCtorEq] at hrest hkustomization hsettings ⊢
  exact table.determined _ _ hrest hkustomization hsettings

end FillTable

/-! ## Kustomizations -/

/-- Whether an observed kustomization is there and is no YAML document. -/
def Kustomization.isRefused (seen : Option String) : Bool :=
  seen.any fun text ↦ !Yaml.isDocument text

theorem Kustomization.isRefused_iff {seen : Option String} :
    isRefused seen = true ↔ ∃ text, seen = some text ∧ Yaml.isDocument text = false := by
  simp [isRefused, Option.any_eq_true]

/-- A kustomization that is not given is taken over if it is not refused. One that is given
stays. -/
theorem adoptKustomization_eq (subject : String) (own seen : Option String) :
    adoptKustomization subject own seen =
      if Kustomization.given own = none then
        if Kustomization.isRefused seen then
          (own, some (.transform (subject ++ " kustomization") "not a YAML document"))
        else (seen, none)
      else (own, none) := by
  have hgiven : Kustomization.given own = none ↔ own.any (· != "") = false := by
    rcases own with _ | own
    · simp [Kustomization.given]
    · by_cases h : own = "" <;> simp [Kustomization.given, Option.filter, h]
  cases hown : own.any (· != "") with
  | true =>
      have hset : Kustomization.given own ≠ none := by simp [hgiven, hown]
      rw [if_neg hset, adoptKustomization, if_pos hown]
  | false =>
      rw [if_pos (hgiven.2 hown), adoptKustomization, if_neg (by simp [hown]), kustomizationError?,
        Kustomization.isRefused]
      by_cases hrefused : (seen.any fun text ↦ !Yaml.isDocument text) = true
      · rw [if_pos hrefused, if_pos hrefused]
      · rw [if_neg hrefused, if_neg hrefused]

/-- Taking over a kustomization fails exactly if it is not given and the observed one is refused. -/
theorem adoptKustomization_fails_iff {subject : String} {own seen : Option String} :
    (adoptKustomization subject own seen).2.isSome = true ↔
      Kustomization.given own = none ∧ Kustomization.isRefused seen = true := by
  rw [adoptKustomization_eq]
  by_cases hopen : Kustomization.given own = none
  · by_cases hrefused : Kustomization.isRefused seen = true <;> simp [hopen, hrefused]
  · simp [hopen]

/-- A kustomization that is taken over without a failure is the observed one if none is given. -/
theorem adoptKustomization_of_ok {subject : String} {own seen : Option String}
    (h : (adoptKustomization subject own seen).2 = none) :
    (adoptKustomization subject own seen).1 =
      if Kustomization.given own = none then seen else own := by
  rw [adoptKustomization_eq] at h ⊢
  by_cases hopen : Kustomization.given own = none
  · by_cases hrefused : Kustomization.isRefused seen = true
    · simp [hopen, hrefused] at h
    · simp [hopen, hrefused]
  · simp [hopen]

/-- A failure leaves the kustomization as it is. -/
theorem adoptKustomization_of_failed {subject : String} {own seen : Option String}
    (h : (adoptKustomization subject own seen).2.isSome = true) :
    (adoptKustomization subject own seen).1 = own := by
  obtain ⟨hopen, hrefused⟩ := adoptKustomization_fails_iff.1 h
  rw [adoptKustomization_eq, if_pos hopen, if_pos hrefused]

namespace ClusterSpec

/-- The slots of a cluster's specification that late initialization may fill. -/
def fillTable : FillTable ClusterSpec where
  kustomization spec := spec.properties.data.kustomization
  kustomizationDue desired _ := Kustomization.given desired.properties.data.kustomization = none
  settings := [
    .unset (·.namespace),
    .unset (·.properties.data.size),
    .unset (·.properties.data.autoUpgradeDisabled),
    .unset (·.properties.data.appReplication),
    .unset (·.properties.data.targetVersion),
    .unset (·.properties.data.redisTunneling),
    .unset (·.properties.data.multiClusterDashboardEnabled)]
  rest spec :=
    { spec with «namespace» := none, properties := { spec.properties with data := {} } }
  determined := by
    rintro ⟨_, _, _, _, ⟨_, _, _, _, _, _, _, _, _⟩, _, _, _, _, _⟩
      ⟨_, _, _, _, ⟨_, _, _, _, _, _, _, _, _⟩, _, _, _, _, _⟩ hrest hkustomization hsettings
    simp only [List.mem_cons, List.not_mem_nil, or_false, forall_eq_or_imp, forall_eq,
      Slot.unset] at hsettings
    simp_all

/-- Late initialization fills the table of a cluster's specification. Each of its settings follows,
also if the kustomization is refused. -/
theorem fillTable_filled : fillTable.FilledBy lateInitialize := by
  refine .of_slots (fun _ _ ↦ rfl) ?_ ?_ (fun _ hopen ↦ hopen) lateInitialize_twice
  · simp only [FillTable.slots, fillTable, List.mem_cons, List.not_mem_nil, or_false,
      forall_eq_or_imp, forall_eq]
    refine ⟨?_, fun _ _ ↦ .inl (Slot.unset_follows rfl),
      fun _ _ ↦ .inl (Slot.unset_follows rfl), fun _ _ ↦ .inl (Slot.unset_follows rfl),
      fun _ _ ↦ .inl (Slot.unset_follows rfl), fun _ _ ↦ .inl (Slot.unset_follows rfl),
      fun _ _ ↦ .inl (Slot.unset_follows rfl), fun _ _ ↦ .inl (Slot.unset_follows rfl)⟩
    exact FillTable.followsOrStays_of_error
      (fun _ _ herror ↦ Slot.follows_of_ite Iff.rfl (adoptKustomization_of_ok herror))
      fun _ _ hfailed ↦ adoptKustomization_of_failed hfailed
  · intro desired observed
    rw [FillTable.Refused, ← Kustomization.isRefused_iff]
    exact adoptKustomization_fails_iff

end ClusterSpec

namespace ArgoCD

/-- The kustomization of a customization that may be absent. -/
def customizationText (c : Option (ClusterCustomization String)) : Option String :=
  c.bind (·.kustomization)

/-- A customization that may be absent, without its kustomization. -/
def withoutText (c : Option (ClusterCustomization String)) : Option (ClusterCustomization String) :=
  c.map ({ · with kustomization := none })

/-- Whether the kustomization of a customization is to be taken over: there is an observed
customization, and a kustomization is not given. -/
def TextDue (own seen : Option (ClusterCustomization String)) : Prop :=
  seen.isSome = true ∧ Kustomization.given (customizationText own) = none

instance (own seen : Option (ClusterCustomization String)) : Decidable (TextDue own seen) :=
  inferInstanceAs (Decidable (_ ∧ _))

/-- Customizations with the same kustomization that are otherwise the same are the same. -/
theorem eq_of_withoutText_eq {a b : Option (ClusterCustomization String)}
    (hrest : withoutText a = withoutText b) (htext : customizationText a = customizationText b) :
    a = b := by
  rcases a with _ | ⟨_, _, _, _⟩ <;> rcases b with _ | ⟨_, _, _, _⟩ <;>
    simp_all [withoutText, customizationText]

/-- Taking over a customization fails exactly if its kustomization is to be taken over and is
refused. -/
theorem adoptCustomization_fails_iff {own seen : Option (ClusterCustomization String)} :
    (adoptCustomization own seen).2.isSome = true ↔
      TextDue own seen ∧ Kustomization.isRefused (customizationText seen) = true := by
  rcases seen with _ | seen
  · cases own <;> simp [adoptCustomization, TextDue]
  · cases own with
    | some own =>
        simp only [adoptCustomization, adoptKustomization_fails_iff]
        simp [TextDue, customizationText]
    | none =>
        rw [adoptCustomization, kustomizationError?]
        by_cases hrefused : (seen.kustomization.any fun text ↦ !Yaml.isDocument text) = true <;>
          simp [hrefused, TextDue, customizationText, Kustomization.given, Kustomization.isRefused]

/-- A failure leaves the customization as it is. -/
theorem adoptCustomization_of_failed {own seen : Option (ClusterCustomization String)}
    (h : (adoptCustomization own seen).2.isSome = true) :
    (adoptCustomization own seen).1 = own := by
  rcases seen with _ | seen
  · cases own <;> rfl
  · cases own with
    | some own =>
        simp only [adoptCustomization] at h ⊢
        rw [adoptKustomization_of_failed h]
    | none =>
        rw [adoptCustomization] at h ⊢
        cases herror : kustomizationError? customizationSubject seen.kustomization with
        | some error => rfl
        | none => simp [herror] at h

/-- A customization that is taken over is the observed one without its kustomization where there is
none. -/
theorem withoutText_adoptCustomization {own seen : Option (ClusterCustomization String)}
    (h : (adoptCustomization own seen).2 = none) :
    withoutText (adoptCustomization own seen).1 = adopt (withoutText own) (withoutText seen) := by
  rcases seen with _ | seen
  · cases own <;> rfl
  · cases own with
    | some own => rfl
    | none =>
        rw [adoptCustomization] at h ⊢
        cases herror : kustomizationError? customizationSubject seen.kustomization with
        | some error => simp [herror] at h
        | none => rfl

/-- The kustomization of a customization that is taken over is the observed one if it is to be taken
over. -/
theorem customizationText_adoptCustomization {own seen : Option (ClusterCustomization String)}
    (h : (adoptCustomization own seen).2 = none) :
    customizationText (adoptCustomization own seen).1 =
      if TextDue own seen then customizationText seen else customizationText own := by
  rcases seen with _ | seen
  · cases own <;> simp [adoptCustomization, TextDue]
  · cases own with
    | some own =>
        simp only [adoptCustomization] at h ⊢
        simp [customizationText, TextDue, adoptKustomization_of_ok h]
    | none =>
        rw [adoptCustomization] at h ⊢
        cases herror : kustomizationError? customizationSubject seen.kustomization with
        | some error => simp [herror] at h
        | none => simp [TextDue, customizationText, Kustomization.given]

namespace ResourceSettings

/-- The slots of settings that late initialization may fill. -/
def fillTable : FillTable ResourceSettings where
  kustomization := kustomization
  kustomizationDue own seen :=
    TextDue own.clusterCustomizationDefaults seen.clusterCustomizationDefaults
  settings := [
    .unset (·.subdomain),
    .unset (·.declarativeManagementEnabled),
    .unset (·.appsetPolicy),
    .unset (withoutText ·.clusterCustomizationDefaults)]
  rest s :=
    { s with
      subdomain := none
      declarativeManagementEnabled := none
      appsetPolicy := none
      clusterCustomizationDefaults := none }
  determined a b hrest hkustomization hsettings := by
    simp only [List.mem_cons, List.not_mem_nil, or_false, forall_eq_or_imp, forall_eq,
      Slot.unset] at hsettings
    obtain ⟨hsubdomain, hmanagement, hpolicy, hcustomization⟩ := hsettings
    have hdefaults := eq_of_withoutText_eq hcustomization hkustomization
    cases a
    cases b
    simp_all

/-- Late initialization of settings does its part in every slot. The customization as a whole stays
if its kustomization is refused. -/
theorem fillTable_slots :
    ∀ slot ∈ fillTable.slots, FillTable.FollowsOrStays lateInitialize slot := by
  simp only [FillTable.slots, fillTable, List.mem_cons, List.not_mem_nil, or_false,
    forall_eq_or_imp, forall_eq]
  refine ⟨?_, fun _ _ ↦ .inl (Slot.unset_follows rfl), fun _ _ ↦ .inl (Slot.unset_follows rfl),
    fun _ _ ↦ .inl (Slot.unset_follows rfl), ?_⟩
  · exact FillTable.followsOrStays_of_error
      (fun _ _ herror ↦
        Slot.follows_of_ite Iff.rfl (customizationText_adoptCustomization herror))
      fun _ _ hfailed ↦ congrArg customizationText (adoptCustomization_of_failed hfailed)
  · exact FillTable.followsOrStays_of_error
      (fun _ _ herror ↦ Slot.unset_follows (withoutText_adoptCustomization herror))
      fun _ _ hfailed ↦ congrArg withoutText (adoptCustomization_of_failed hfailed)

/-- Where there is no customization the observed one is taken over as a whole. Where there is one,
all of it but its kustomization stays. -/
theorem customization_lateInitialize {own seen : ResourceSettings}
    (herror : (own.lateInitialize seen).error = none) :
    (own.clusterCustomizationDefaults = none →
      (own.lateInitialize seen).spec.clusterCustomizationDefaults =
        seen.clusterCustomizationDefaults) ∧
    (own.clusterCustomizationDefaults ≠ none →
      withoutText (own.lateInitialize seen).spec.clusterCustomizationDefaults =
        withoutText own.clusterCustomizationDefaults) := by
  have hrest : withoutText (own.lateInitialize seen).spec.clusterCustomizationDefaults =
      adopt (withoutText own.clusterCustomizationDefaults)
        (withoutText seen.clusterCustomizationDefaults) := withoutText_adoptCustomization herror
  refine ⟨fun hopen ↦ ?_, fun hset ↦ ?_⟩
  · refine eq_of_withoutText_eq (by rw [hrest, hopen]; rfl)
      ((customizationText_adoptCustomization herror).trans ?_)
    rw [hopen]
    cases seen.clusterCustomizationDefaults <;>
      simp [TextDue, customizationText, Kustomization.given]
  · obtain ⟨c, hown⟩ := Option.ne_none_iff_exists'.1 hset
    rw [hrest, hown]
    rfl

/-- Late initialization of settings fails exactly if their kustomization is refused. -/
theorem lateInitialize_fails_iff (own seen : ResourceSettings) :
    (own.lateInitialize seen).error.isSome = true ↔ fillTable.Refused own seen := by
  rw [FillTable.Refused, ← Kustomization.isRefused_iff]
  exact adoptCustomization_fails_iff

/-- What late initialization of settings may not fill stays. -/
theorem rest_lateInitialize (own seen : ResourceSettings) :
    fillTable.rest (own.lateInitialize seen).spec = fillTable.rest own := rfl

end ResourceSettings

end ArgoCD

namespace InstanceSpec

/-- The settings of the instance that a specification asks for. -/
def settings? (spec : InstanceSpec) : Option ArgoCD.ResourceSettings :=
  spec.argocd.map (·.spec.settings)

/-- A specification with changed settings, if it has any. -/
def mapSettings (f : ArgoCD.ResourceSettings → ArgoCD.ResourceSettings) (spec : InstanceSpec) :
    InstanceSpec :=
  { spec with
    argocd := spec.argocd.map fun own ↦
      { own with spec := { own.spec with settings := f own.spec.settings } } }

@[simp] theorem settings?_mapSettings (f : ArgoCD.ResourceSettings → ArgoCD.ResourceSettings)
    (spec : InstanceSpec) : (spec.mapSettings f).settings? = spec.settings?.map f := by
  cases h : spec.argocd <;> simp [settings?, mapSettings, h]

/-- The kustomization that a specification asks for is that of its settings. -/
theorem kustomization_eq_bind (spec : InstanceSpec) :
    spec.kustomization = spec.settings?.bind ArgoCD.ResourceSettings.kustomization := by
  cases h : spec.argocd <;> simp [kustomization, settings?, h]

/-- Specifications with the same settings that are otherwise the same are the same. -/
theorem eq_of_settings?_eq {f : ArgoCD.ResourceSettings → ArgoCD.ResourceSettings}
    {a b : InstanceSpec} (hrest : a.mapSettings f = b.mapSettings f)
    (hsettings : a.settings? = b.settings?) : a = b := by
  obtain ⟨_, _ | ⟨⟨_, _, _⟩⟩, _, _⟩ := a <;> obtain ⟨_, _ | ⟨⟨_, _, _⟩⟩, _, _⟩ := b <;>
    simp_all [mapSettings, settings?]

/-- Changes of the same settings that agree up to a function are the same change up to it. -/
theorem mapSettings_const {f : ArgoCD.ResourceSettings → ArgoCD.ResourceSettings}
    {spec : InstanceSpec} {own after : ArgoCD.ResourceSettings} (hown : spec.settings? = some own)
    (h : f after = f own) :
    (spec.mapSettings fun _ ↦ after).mapSettings f = spec.mapSettings f := by
  obtain ⟨_, _ | ⟨⟨_, _, _⟩⟩, _, _⟩ := spec <;> simp_all [mapSettings, settings?]

/-- A specification without the documents that late initialization may fill. -/
def withoutDocuments (spec : InstanceSpec) : InstanceSpec :=
  { spec with
    configMaps := { spec.configMaps with
      general := none, sshKnownHosts := none, rbac := none, tlsCerts := none }
    plugins := none }

@[simp] theorem settings?_withoutDocuments (spec : InstanceSpec) :
    spec.withoutDocuments.settings? = spec.settings? := rfl

/-- The slots of an instance's specification that late initialization may fill: those of its
settings, four of its config maps, and its plugins. -/
def fillTable : FillTable InstanceSpec where
  kustomization spec := spec.kustomization
  kustomizationDue desired observed :=
    ∃ own seen, desired.settings? = some own ∧ observed.settings? = some seen ∧
      ArgoCD.ResourceSettings.fillTable.kustomizationDue own seen
  settings := [
    .unset (·.configMaps.general),
    .unset (·.configMaps.sshKnownHosts),
    .unset (·.configMaps.rbac),
    .unset (·.configMaps.tlsCerts),
    .unset (·.plugins)] ++ ArgoCD.ResourceSettings.fillTable.settings.map (·.within settings?)
  rest spec := (spec.mapSettings ArgoCD.ResourceSettings.fillTable.rest).withoutDocuments
  determined a b hrest hkustomization hslots := by
    obtain ⟨hdocuments, hsettings⟩ := List.forall_mem_append.1 hslots
    rw [kustomization_eq_bind, kustomization_eq_bind] at hkustomization
    have hblock : a.settings? = b.settings? := by
      refine ArgoCD.ResourceSettings.fillTable.block_eq ?_ hkustomization
        (List.forall_mem_map.1 hsettings)
      simpa only [settings?_withoutDocuments, settings?_mapSettings] using congrArg settings? hrest
    refine eq_of_settings?_eq (f := ArgoCD.ResourceSettings.fillTable.rest) ?_ hblock
    simp only [List.mem_cons, List.not_mem_nil, or_false, forall_eq_or_imp, forall_eq,
      Slot.unset] at hdocuments
    obtain ⟨_, _, ⟨_, _, _, _, _, _, _⟩, _⟩ := a
    obtain ⟨_, _, ⟨_, _, _, _, _, _, _⟩, _⟩ := b
    simp_all [withoutDocuments, mapSettings]

/-- Late initialization takes over the documents that are open unless it fails at the settings,
which it takes over if they are there on both sides. -/
theorem lateInitialize_cases (desired observed : InstanceSpec) :
    (∃ own seen, desired.settings? = some own ∧ observed.settings? = some seen ∧
      ((own.lateInitialize seen).error = none ∧
          desired.lateInitialize observed =
            { spec := (desired.mapSettings fun _ ↦ (own.lateInitialize seen).spec).adoptDocuments
                observed } ∨
        (own.lateInitialize seen).error.isSome = true ∧
          desired.lateInitialize observed =
            { spec := desired.mapSettings fun _ ↦ (own.lateInitialize seen).spec
              error := (own.lateInitialize seen).error })) ∨
    (desired.settings? = none ∨ observed.settings? = none) ∧
      desired.lateInitialize observed = { spec := desired.adoptDocuments observed } := by
  unfold lateInitialize
  cases hown : desired.argocd with
  | none => exact .inr ⟨.inl (by simp [settings?, hown]), rfl⟩
  | some own =>
      cases hseen : observed.argocd with
      | none => exact .inr ⟨.inr (by simp [settings?, hseen]), rfl⟩
      | some seen =>
          refine .inl ⟨own.spec.settings, seen.spec.settings, by simp [settings?, hown],
            by simp [settings?, hseen], ?_⟩
          cases herror : (own.spec.settings.lateInitialize seen.spec.settings).error with
          | none => exact .inl ⟨rfl, by simp [mapSettings, hown, herror]⟩
          | some error => exact .inr ⟨rfl, by simp [mapSettings, hown, herror]⟩

/-- If the settings are there on both sides, then late initialization of a specification is that of
its settings, and else it leaves them and cannot fail. -/
theorem settings?_lateInitialize (desired observed : InstanceSpec) :
    (∃ own seen, desired.settings? = some own ∧ observed.settings? = some seen ∧
      (desired.lateInitialize observed).spec.settings? = some (own.lateInitialize seen).spec ∧
      (desired.lateInitialize observed).error = (own.lateInitialize seen).error) ∨
    (desired.settings? = none ∨ observed.settings? = none) ∧
      (desired.lateInitialize observed).spec.settings? = desired.settings? ∧
      (desired.lateInitialize observed).error = none := by
  rcases lateInitialize_cases desired observed with
    ⟨own, seen, hown, hseen, hresult⟩ | ⟨hmissing, hresult⟩
  · have hafter := settings?_mapSettings (fun _ ↦ (own.lateInitialize seen).spec) desired
    rw [hown, Option.map_some] at hafter
    refine .inl ⟨own, seen, hown, hseen, ?_⟩
    rcases hresult with ⟨herror, hresult⟩ | ⟨_, hresult⟩
    · exact ⟨by rw [hresult]; exact hafter, by rw [hresult, herror]⟩
    · exact ⟨by rw [hresult]; exact hafter, by rw [hresult]⟩
  · exact .inr ⟨hmissing, by rw [hresult]; rfl, by rw [hresult]⟩

open FillTable (FollowsOrStays)

/-- A slot of the settings does in a specification what it does in the settings. -/
theorem followsOrStays_within {slot : Slot ArgoCD.ResourceSettings}
    (h : FollowsOrStays ArgoCD.ResourceSettings.lateInitialize slot) :
    FollowsOrStays lateInitialize (slot.within settings?) := by
  intro desired observed
  rcases settings?_lateInitialize desired observed with
    ⟨own, seen, hown, hseen, hafter, herror⟩ | ⟨hmissing, hafter, _⟩
  · rcases h own seen with hfollows | ⟨hfailed, hstays⟩
    · exact .inl (Slot.within_follows hown hseen hafter hfollows)
    · refine .inr ⟨herror ▸ hfailed, ?_⟩
      simp only [Slot.within, hafter, hown, Option.map_some, hstays]
  · exact .inl (Slot.within_follows_of_missing hmissing hafter)

/-- A document that late initialization takes over where there is none follows, or stays because of
a failure in the settings. -/
theorem followsOrStays_document {α : Type} {get : InstanceSpec → Option α}
    (hadopted : ∀ desired observed,
      get (adoptDocuments desired observed) = adopt (get desired) (get observed))
    (hsettings : ∀ f spec, get (mapSettings f spec) = get spec) :
    FollowsOrStays lateInitialize (.unset get) := by
  intro desired observed
  rcases lateInitialize_cases desired observed with
    ⟨own, seen, _, _, ⟨_, hresult⟩ | ⟨hfailed, hresult⟩⟩ | ⟨_, hresult⟩
  · exact .inl (Slot.unset_follows (by rw [hresult, hadopted, hsettings]))
  · have hstays := hsettings (fun _ ↦ (own.lateInitialize seen).spec) desired
    exact .inr ⟨by rw [hresult]; exact hfailed, by rw [hresult]; exact hstays⟩
  · exact .inl (Slot.unset_follows (by rw [hresult, hadopted]))

/-- What late initialization may not fill stays. -/
theorem rest_lateInitialize (desired observed : InstanceSpec) :
    fillTable.rest (desired.lateInitialize observed).spec = fillTable.rest desired := by
  rcases lateInitialize_cases desired observed with
    ⟨own, seen, hown, _, hresult⟩ | ⟨_, hresult⟩
  · have hrest := congrArg withoutDocuments
      (mapSettings_const hown (ArgoCD.ResourceSettings.rest_lateInitialize own seen))
    -- With the documents or without them, what is left is the same.
    rcases hresult with ⟨_, hresult⟩ | ⟨_, hresult⟩
    · rw [hresult]
      exact hrest
    · rw [hresult]
      exact hrest
  · rw [hresult]
    rfl

/-- Late initialization does its part in every slot of an instance's specification. -/
theorem fillTable_slots : ∀ slot ∈ fillTable.slots, FollowsOrStays lateInitialize slot := by
  have hsettings := ArgoCD.ResourceSettings.fillTable_slots
  refine List.forall_mem_cons.2 ⟨?_, List.forall_mem_append.2 ⟨?_, ?_⟩⟩
  · have hblock := (followsOrStays_within (hsettings _ List.mem_cons_self)).map Option.join
    have hjoin (spec : InstanceSpec) :
        (spec.settings?.map ArgoCD.ResourceSettings.fillTable.kustomization).join =
          spec.kustomization := by
      rw [kustomization_eq_bind]
      cases spec.settings? <;> rfl
    intro desired observed
    have hslot := hblock desired observed
    simp only [Slot.Follows, Slot.map, Slot.within, hjoin] at hslot
    exact hslot
  · simp only [List.mem_cons, List.not_mem_nil, or_false, forall_eq_or_imp, forall_eq]
    exact ⟨followsOrStays_document (fun _ _ ↦ rfl) fun _ _ ↦ rfl,
      followsOrStays_document (fun _ _ ↦ rfl) fun _ _ ↦ rfl,
      followsOrStays_document (fun _ _ ↦ rfl) fun _ _ ↦ rfl,
      followsOrStays_document (fun _ _ ↦ rfl) fun _ _ ↦ rfl,
      followsOrStays_document (fun _ _ ↦ rfl) fun _ _ ↦ rfl⟩
  · exact List.forall_mem_map.2 fun slot hslot ↦
      followsOrStays_within (hsettings slot (List.mem_cons_of_mem _ hslot))

/-- Late initialization fails exactly if the kustomization of the settings is refused. -/
theorem lateInitialize_fails_iff (desired observed : InstanceSpec) :
    (desired.lateInitialize observed).error.isSome = true ↔ fillTable.Refused desired observed := by
  rcases settings?_lateInitialize desired observed with
    ⟨own, seen, hown, hseen, _, herror⟩ | ⟨hmissing, _, herror⟩
  · rw [herror, ArgoCD.ResourceSettings.lateInitialize_fails_iff]
    simp only [FillTable.Refused, fillTable, kustomization_eq_bind, hown, hseen, Option.some.injEq,
      exists_and_left, exists_eq_left', Option.bind_some]
    rfl
  · rw [herror]
    constructor
    · simp
    · rintro ⟨⟨own, seen, hown, hseen, _⟩, _⟩
      simp [hown, hseen] at hmissing

/-- Late initialization fills the table of an instance's specification. -/
theorem fillTable_filled : fillTable.FilledBy lateInitialize := by
  refine .of_slots rest_lateInitialize fillTable_slots lateInitialize_fails_iff ?_
    lateInitialize_twice
  rintro observed ⟨own, seen, hown, hseen, _, hopen⟩
  show Kustomization.given observed.kustomization = none
  rw [kustomization_eq_bind, hown]
  exact hopen

end InstanceSpec

/-- Late initialization fills the tables of clusters and of instances and nothing else. Of the
customization defaults it takes over all, or their kustomization alone. -/
theorem lateInitialize_fills_table :
    ClusterSpec.fillTable.FilledBy ClusterSpec.lateInitialize ∧
      InstanceSpec.fillTable.FilledBy InstanceSpec.lateInitialize ∧
      ∀ (desired observed : InstanceSpec) (own seen : ArgoCD.ResourceSettings),
        desired.settings? = some own → observed.settings? = some seen →
          (desired.lateInitialize observed).error = none →
            ∃ after, (desired.lateInitialize observed).spec.settings? = some after ∧
              (own.clusterCustomizationDefaults = none →
                after.clusterCustomizationDefaults = seen.clusterCustomizationDefaults) ∧
              (own.clusterCustomizationDefaults ≠ none →
                ArgoCD.withoutText after.clusterCustomizationDefaults =
                  ArgoCD.withoutText own.clusterCustomizationDefaults) := by
  refine ⟨ClusterSpec.fillTable_filled, InstanceSpec.fillTable_filled,
    fun desired observed own seen hown hseen herror ↦ ?_⟩
  rcases InstanceSpec.settings?_lateInitialize desired observed with
    ⟨own', seen', hown', hseen', hafter, herror'⟩ | ⟨hmissing, _⟩
  · obtain rfl : own = own' := Option.some.inj (hown.symm.trans hown')
    obtain rfl : seen = seen' := Option.some.inj (hseen.symm.trans hseen')
    exact ⟨_, hafter,
      ArgoCD.ResourceSettings.customization_lateInitialize (herror'.symm.trans herror)⟩
  · simp [hown, hseen] at hmissing

/-- A specification that leaves the customization defaults open takes them over as a whole. -/
theorem lateInitialize_fills_table_open :
    let customization : ArgoCD.ClusterCustomization String :=
      { appReplication := some true, kustomization := some "resources: []" }
    let seen : ArgoCD.ResourceSettings :=
      { ArgoCD.ResourceSettings.unset with clusterCustomizationDefaults := some customization }
    let desired : InstanceSpec := { name := "prod", argocd := some {} }
    let observed : InstanceSpec :=
      { name := "prod", argocd := some { spec := { settings := seen } } }
    (desired.lateInitialize observed).error = none ∧
      ∃ after, (desired.lateInitialize observed).spec.settings? = some after ∧
        after.clusterCustomizationDefaults = some customization := by
  intro customization seen desired observed
  have herror : (desired.lateInitialize observed).error = none := by decide +kernel
  obtain ⟨after, hafter, hwhole, _⟩ :=
    lateInitialize_fills_table.2.2 desired observed .unset seen rfl rfl herror
  exact ⟨herror, after, hafter, hwhole rfl⟩

end FleetOperator
