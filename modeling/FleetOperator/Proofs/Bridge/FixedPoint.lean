import FleetOperator.Proofs.Instance.RoundTrip

/-!
# Specifications that read back as they are

A specification that was reported by the platform is in the form in which the platform reports
specifications. Read `reported_reads_back` first: written and reported again, it comes back as it
is. Only a kustomization of blank characters that YAML shows without quotes is lost, as
`blank_report_lost` shows.
-/

namespace FleetOperator

/-- What is reported of a document writes a document that is reported in the same way, unless it is
a text of blank characters that needs no quotes. -/
theorem Kustomization.toYaml_reads_back {document : Option Json}
    (hreads : ∀ own, document = some own → Yaml.ReadsBack own) :
    ∃ held, ofYaml? (toYaml document) = .ok held ∧
      toYaml held = if document.any Yaml.isBlankScalar then none else toYaml document := by
  by_cases hnull : document = some .null
  · exact ⟨none, by rw [hnull]; rfl, by rw [hnull]; rfl⟩
  · refine ⟨kept document, ofYaml?_toYaml hnull hreads, ?_⟩
    rcases document with _ | own
    · rfl
    · by_cases hempty : own = .object []
      · rw [hempty]
        rfl
      · cases hblank : Yaml.isBlankScalar own <;> simp [kept, Option.filter, hblank, hempty, toYaml]

/-! ## Parts that are in their reported form -/

@[simp] theorem filter_nonEmpty (text : String) :
    (nonEmpty text).filter (· != "") = nonEmpty text := by
  by_cases h : text = "" <;> simp [nonEmpty, Option.filter, h]

@[simp] theorem filter_nonEmptyDict {α : Type} (dict : Dict α) :
    (nonEmptyDict dict).filter (!·.isEmpty) = nonEmptyDict dict := by
  cases h : dict.isEmpty <;> simp [nonEmptyDict, Option.filter, h]

/-- The data that are read from the document of a config map are not empty. -/
theorem ConfigMapData.filter_of_ofDocument? {name : String} {document : Option Json}
    {data : Option ConfigMapData} (h : ofDocument? name document = .ok data) :
    data.filter (!·.isEmpty) = data := by
  have hread {fields : List (String × Json)}
      (h : (ofFields? name fields).map (fun entries ↦ nonEmptyDict (Dict.ofList entries)) =
        .ok data) : data.filter (!·.isEmpty) = data := by
    obtain ⟨entries, -, rfl⟩ := map_eq_ok.1 h
    exact filter_nonEmptyDict _
  have hnone (h : (Except.ok none : Except Error (Option ConfigMapData)) = .ok data) :
      data.filter (!·.isEmpty) = data := by
    obtain rfl := Except.ok.inj h
    rfl
  unfold ofDocument? at h
  split at h
  · exact hnone h
  · exact hnone h
  · split at h
    · split at h
      · exact hnone h
      · exact hnone h
      · exact hread h
      · cases h
    · exact hread h
  · cases h

/-- A dictionary of a list that is not empty is not empty. -/
theorem Dict.isEmpty_ofList_cons {α : Type} (entry : String × α) (rest : List (String × α)) :
    (ofList (entry :: rest)).isEmpty = false := by
  rw [Bool.eq_false_iff]
  intro hempty
  have hmissing : (ofList (entry :: rest)).get? entry.1 = none := by
    rw [isEmpty_iff.1 hempty, get?_empty]
  rw [get?_ofList, find_eq_none_iff] at hmissing
  exact hmissing (by simp)

/-- The plugins that are read from documents are not empty. -/
theorem Plugins.filter_of_ofDocuments? {documents : List Json} {plugins : Option Plugins}
    (h : ofDocuments? documents = .ok plugins) : plugins.filter (!·.isEmpty) = plugins := by
  unfold ofDocuments? at h
  cases documents with
  | nil =>
      obtain rfl : none = plugins := Except.ok.inj h
      rfl
  | cons document rest =>
      obtain ⟨entries, hentries, rfl⟩ := map_eq_ok.1 h
      unfold ofDocumentList? at hentries
      split at hentries
      · cases hentries
      · obtain ⟨others, -, rfl⟩ := map_eq_ok.1 hentries
        simp [Option.filter, Dict.isEmpty_ofList_cons]

namespace ClusterSpec

/-- A specification with its own kustomization is the specification. -/
@[simp] theorem withKustomization_self (spec : ClusterSpec) :
    spec.withKustomization spec.properties.data.kustomization = spec := rfl

/-- A reported specification is tidy. -/
theorem tidied_ofPlatform (remote : Platform.Cluster) (desired : ClusterSpec) :
    (ofPlatform remote desired).tidied = ofPlatform remote desired := by
  simp only [tidied, ofPlatform, filter_nonEmpty, filter_nonEmptyDict, Option.getD_some]

/-- A reported specification is written, and reported again as it is up to a kustomization of blank
characters. -/
theorem reported_reads_back {remote : Platform.Cluster} (desired : ClusterSpec)
    (hreads : ∀ document, remote.data.kustomization = some document → Yaml.ReadsBack document) :
    ∃ m, (ofPlatform remote desired).toManifest? = .ok m ∧
      ∀ stored : Platform.Cluster, stored.declared = m.toCluster.declared →
        ofPlatform stored (ofPlatform remote desired) =
          if remote.data.kustomization.any Yaml.isBlankScalar then
            (ofPlatform remote desired).withKustomization none
          else ofPlatform remote desired := by
  obtain ⟨held, hheld, hreported⟩ := Kustomization.toYaml_reads_back hreads
  refine ⟨_, toManifest?_eq_ok.2 ⟨held, hheld, rfl⟩, fun stored hstored ↦ ?_⟩
  rw [ofPlatform_stored hstored, tidied_ofPlatform, hreported]
  split <;> rfl

end ClusterSpec

/-- A sequence that succeeds does so for each config map. -/
theorem ConfigMaps.of_sequence_eq_ok {α ε : Type} {c : ConfigMaps (Except ε α)} {r : ConfigMaps α}
    (h : c.sequence = .ok r) :
    c.general = .ok r.general ∧ c.imageUpdater = .ok r.imageUpdater ∧
      c.imageUpdaterSsh = .ok r.imageUpdaterSsh ∧ c.notifications = .ok r.notifications ∧
      c.rbac = .ok r.rbac ∧ c.sshKnownHosts = .ok r.sshKnownHosts ∧
      c.tlsCerts = .ok r.tlsCerts := by
  unfold sequence at h
  simp only [bind_eq_ok] at h
  obtain ⟨general, hgeneral, updater, hupdater, ssh, hssh, notifications, hnotifications, rbac,
    hrbac, hosts, hhosts, certs, hcerts, hresult⟩ := h
  obtain rfl := Except.ok.inj hresult
  exact ⟨hgeneral, hupdater, hssh, hnotifications, hrbac, hhosts, hcerts⟩

/-- The kustomization document in the customization defaults of an instance. -/
def Platform.Instance.kustomization (inst : Instance) : Option Json :=
  inst.settings.bind fun settings ↦
    settings.clusterCustomizationDefaults.bind (·.kustomization)

namespace ArgoCD

/-- The kustomization that is reported for an instance is written for its document. -/
theorem kustomization_ofPlatform (inst : Platform.Instance) :
    (ofPlatform inst).spec.settings.kustomization = Kustomization.toYaml inst.kustomization := by
  unfold Platform.Instance.kustomization
  cases h : inst.settings with
  | none =>
      simp only [ofPlatform, h]
      rfl
  | some settings =>
      simp only [ofPlatform, h, Option.bind_some, ResourceSettings.kustomization,
        ResourceSettings.ofPlatform, Settings.withForms]
      cases settings.clusterCustomizationDefaults <;> rfl

/-- Reported settings are tidy. -/
theorem tidied_ofPlatform (inst : Platform.Instance) :
    (ofPlatform inst).spec.settings.tidied = (ofPlatform inst).spec.settings := by
  cases h : inst.settings with
  | none => simp only [ofPlatform, h]; rfl
  | some settings =>
      simp only [ofPlatform, h, ResourceSettings.ofPlatform, Settings.withForms,
        ResourceSettings.tidied, filter_nonEmpty]

/-- Settings with their own kustomization are the settings. -/
theorem ResourceSettings.withKustomization_self (s : ResourceSettings) :
    s.withKustomization s.kustomization = s := by
  have hdefaults : (s.clusterCustomizationDefaults.map fun own ↦
      { own with kustomization := s.kustomization }) = s.clusterCustomizationDefaults := by
    cases h : s.clusterCustomizationDefaults <;> simp [kustomization, h]
  rw [withKustomization, hdefaults]

/-- Settings can be stored if their kustomization writes a document. -/
theorem ResourceSettings.toPlatform?_of_ofYaml? {s : ResourceSettings} {document : Option Json}
    (h : Kustomization.ofYaml? s.kustomization = .ok document) :
    ∃ stored, s.toPlatform? = .ok stored := by
  have hdefaults : ∃ stored,
      s.clusterCustomizationDefaults.mapM ClusterCustomization.toPlatform? = .ok stored := by
    unfold kustomization at h
    cases hown : s.clusterCustomizationDefaults with
    | none => exact ⟨none, rfl⟩
    | some c =>
        rw [hown] at h
        exact ⟨_, mapM_toPlatform?_eq_ok.2
          (.inr ⟨c, _, rfl, rfl, ClusterCustomization.toPlatform?_eq_ok.2 ⟨document, h, rfl⟩⟩)⟩
  obtain ⟨stored, hstored⟩ := hdefaults
  exact ⟨_, toPlatform?_eq_ok.2 ⟨stored, hstored, rfl⟩⟩

end ArgoCD

namespace InstanceSpec

/-- A reported specification has the instance, and the data of its config maps and plugins. -/
theorem parts_of_ofPlatform? {bundle : Platform.InstanceBundle} {spec : InstanceSpec}
    (h : ofPlatform? bundle = .ok spec) :
    spec.argocd = some (.ofPlatform bundle.inst) ∧
      (ConfigMaps.zipWith ConfigMapData.ofDocument? .names bundle.exported.configMaps).sequence =
        .ok spec.configMaps ∧
      Plugins.ofDocuments? bundle.exported.plugins = .ok spec.plugins := by
  unfold ofPlatform? at h
  simp only [bind_eq_ok] at h
  obtain ⟨configMaps, hconfigMaps, plugins, hplugins, hresult⟩ := h
  obtain rfl := Except.ok.inj hresult
  exact ⟨rfl, hconfigMaps, hplugins⟩

/-- A reported specification is tidy. -/
theorem tidied_of_reported {bundle : Platform.InstanceBundle} {spec : InstanceSpec}
    (h : ofPlatform? bundle = .ok spec) : spec.tidied = spec := by
  obtain ⟨hargocd, hconfigMaps, hplugins⟩ := parts_of_ofPlatform? h
  obtain ⟨hgeneral, hupdater, hssh, hnotifications, hrbac, hhosts, hcerts⟩ :=
    ConfigMaps.of_sequence_eq_ok hconfigMaps
  have htidied : spec.tidied.argocd = spec.argocd := by
    simp only [tidied, hargocd, Option.map_some, ArgoCD.tidied_ofPlatform]
    simp only [ArgoCD.ofPlatform, filter_nonEmpty]
  obtain ⟨name, argocd, ⟨_, _, _, _, _, _, _⟩, plugins⟩ := spec
  simp only [tidied] at htidied ⊢
  rw [htidied, ConfigMapData.filter_of_ofDocument? hgeneral,
    ConfigMapData.filter_of_ofDocument? hupdater, ConfigMapData.filter_of_ofDocument? hssh,
    ConfigMapData.filter_of_ofDocument? hnotifications, ConfigMapData.filter_of_ofDocument? hrbac,
    ConfigMapData.filter_of_ofDocument? hhosts, ConfigMapData.filter_of_ofDocument? hcerts,
    Plugins.filter_of_ofDocuments? hplugins]

/-- A specification with its own kustomization is the specification. -/
theorem withKustomization_self (spec : InstanceSpec) :
    spec.withKustomization spec.kustomization = spec := by
  obtain ⟨name, _ | ⟨⟨description, version, settings⟩⟩, configMaps, plugins⟩ := spec
  · rfl
  · simp only [withKustomization, kustomization, Option.map_some, Option.bind_some,
      ArgoCD.ResourceSettings.withKustomization_self]

/-- A reported specification has a request. Where the platform carries the request, it is reported
again as it is up to a kustomization of blank characters. -/
theorem reported_reads_back {bundle : Platform.InstanceBundle} {spec : InstanceSpec}
    (hreported : ofPlatform? bundle = .ok spec)
    (hreads : ∀ document, bundle.inst.kustomization = some document → Yaml.ReadsBack document) :
    ∃ request, spec.toRequest? = .ok request ∧
      ∀ carried : Platform.InstanceBundle, carried.Carries request →
        ofPlatform? carried = .ok
          (if bundle.inst.kustomization.any Yaml.isBlankScalar then spec.withKustomization none
          else spec) := by
  obtain ⟨hargocd, -, -⟩ := parts_of_ofPlatform? hreported
  have hkustomization : spec.kustomization = Kustomization.toYaml bundle.inst.kustomization := by
    rw [kustomization, hargocd, Option.bind_some, ArgoCD.kustomization_ofPlatform]
  obtain ⟨held, hheld, hsame⟩ := Kustomization.toYaml_reads_back hreads
  obtain ⟨stored, hstored⟩ := ArgoCD.ResourceSettings.toPlatform?_of_ofYaml?
    (by rw [ArgoCD.kustomization_ofPlatform]; exact hheld)
  refine ⟨_, toRequest?_eq_ok.2 ⟨_, stored, hargocd, hstored, rfl⟩, fun carried hcarried ↦ ?_⟩
  obtain ⟨document, hdocument, -, hagain⟩ := reported_eq hargocd hstored
  obtain rfl : held = document := by
    rw [hkustomization] at hdocument
    exact Except.ok.inj (hheld.symm.trans hdocument)
  have hcarriedAs : ofPlatform? carried =
      .ok (spec.reported (.ofPlatform bundle.inst) stored) := by
    obtain ⟨inst, exported⟩ := carried
    obtain rfl := hcarried.exported_eq
    exact ofPlatform?_stored hcarried.inst_eq
  rw [hcarriedAs, hagain, tidied_of_reported hreported, hsame, ← hkustomization]
  split
  · rfl
  · rw [withKustomization_self]

end InstanceSpec

/-- What is reported of a cluster or an instance is written again without an error. Where the
platform holds what was written, it reports the same specification, except that a kustomization is
lost which is a text of blank characters that needs no quotes. -/
theorem reports_read_back :
    (∀ (remote : Platform.Cluster) (desired : ClusterSpec),
      (∀ document, remote.data.kustomization = some document → Yaml.ReadsBack document) →
      ∃ m, (ClusterSpec.ofPlatform remote desired).toManifest? = .ok m ∧
        ∀ stored : Platform.Cluster, stored.declared = m.toCluster.declared →
          ClusterSpec.ofPlatform stored (.ofPlatform remote desired) =
            if remote.data.kustomization.any Yaml.isBlankScalar then
              (ClusterSpec.ofPlatform remote desired).withKustomization none
            else .ofPlatform remote desired) ∧
    ∀ (bundle : Platform.InstanceBundle) (spec : InstanceSpec),
      InstanceSpec.ofPlatform? bundle = .ok spec →
      (∀ document, bundle.inst.kustomization = some document → Yaml.ReadsBack document) →
      ∃ request, spec.toRequest? = .ok request ∧
        ∀ carried : Platform.InstanceBundle, carried.Carries request →
          InstanceSpec.ofPlatform? carried = .ok
            (if bundle.inst.kustomization.any Yaml.isBlankScalar then spec.withKustomization none
            else spec) :=
  ⟨fun _ desired hreads ↦ ClusterSpec.reported_reads_back desired hreads,
    fun _ _ hreported hreads ↦ InstanceSpec.reported_reads_back hreported hreads⟩

/-- A cluster with an unknown size code and a list as its kustomization, and an instance with a bare
config map, are reported as they were before. -/
theorem reports_read_back_unusual :
    let remote : Platform.Cluster :=
      { name := "prod", data := { size := 7, kustomization := some (.array [.bool true]) } }
    let config : Json := .object [("url", .text "https://cd.acme.io")]
    let bundle : Platform.InstanceBundle :=
      { inst := { name := "prod" }
        exported := { configMaps := { ConfigMaps.all none with general := some config } } }
    (∃ m, (ClusterSpec.ofPlatform remote {}).toManifest? = .ok m ∧
      ClusterSpec.ofPlatform m.toCluster (.ofPlatform remote {}) = .ofPlatform remote {}) ∧
    ∃ spec request, InstanceSpec.ofPlatform? bundle = .ok spec ∧ spec.toRequest? = .ok request ∧
      InstanceSpec.ofPlatform? request.toBundle = .ok spec := by
  intro remote config bundle
  constructor
  · have hreads : ∀ document, remote.data.kustomization = some document →
        Yaml.ReadsBack document := by
      rintro document hdocument
      obtain rfl : Json.array [.bool true] = document := Option.some.inj hdocument
      decide +kernel
    obtain ⟨m, hmanifest, hagain⟩ := reports_read_back.1 remote {} hreads
    exact ⟨m, hmanifest, hagain m.toCluster rfl⟩
  · have hreported : ∃ spec, InstanceSpec.ofPlatform? bundle = .ok spec := ⟨_, rfl⟩
    obtain ⟨spec, hspec⟩ := hreported
    have hreads : ∀ document, bundle.inst.kustomization = some document →
        Yaml.ReadsBack document := by
      rintro document hdocument
      cases hdocument
    obtain ⟨request, hrequest, hagain⟩ := reports_read_back.2 bundle spec hspec hreads
    exact ⟨spec, request, hspec, hrequest, hagain request.toBundle request.toBundle_carries⟩

/-- A kustomization that is a no-break space is reported without quotes, and is lost when that text
is written again. -/
theorem blank_report_lost :
    let remote : Platform.Cluster :=
      { name := "prod", data := { kustomization := some (.text "\u00a0") } }
    let reported := ClusterSpec.ofPlatform remote { name := "prod" }
    Yaml.ReadsBack (.text "\u00a0") ∧
      ∃ m, reported.toManifest? = .ok m ∧
        reported.properties.data.kustomization = some "\u00a0\n" ∧
        (ClusterSpec.ofPlatform m.toCluster reported).properties.data.kustomization = none := by
  intro remote reported
  have hread : Kustomization.ofYaml? reported.properties.data.kustomization = .ok none := by
    decide +kernel
  exact ⟨by decide +kernel, _, ClusterSpec.toManifest?_eq_ok.2 ⟨none, hread, rfl⟩,
    by decide +kernel, rfl⟩

end FleetOperator
