import FleetOperator.Proofs.Cluster.RoundTrip
import FleetOperator.Proofs.Instance.Stored

/-!
# Instance specifications there and back

What an instance's specification reads back as when the platform reports the instance and the
documents that carry its request. Read `request_reads_back` first: every setting, config map and
plugin comes back as it was, with what is empty as absent, and only a kustomization of blank
characters that YAML shows without quotes is lost, as `blank_customization_lost` shows.
-/

namespace FleetOperator

/-- An instance and its export that hold what a request asks for: under its identifier as the name,
with its description, version and settings, and its documents unchanged. -/
structure Platform.InstanceBundle.Carries (bundle : InstanceBundle) (request : ApplyInstance) :
    Prop where
  name : bundle.inst.name = request.id
  description : bundle.inst.description = request.argocd.spec.description
  version : bundle.inst.version = request.argocd.spec.version
  settings : bundle.inst.settings = some request.argocd.spec.settings
  configMaps : bundle.exported.configMaps = request.configMaps
  plugins : bundle.exported.plugins = request.plugins

/-- An instance that carries a request is the one of the request, up to what the platform says of it
by itself. -/
theorem Platform.InstanceBundle.Carries.inst_eq {bundle : InstanceBundle} {request : ApplyInstance}
    (h : bundle.Carries request) : bundle.inst.declared = request.toBundle.inst := by
  simp only [Instance.declared, ApplyInstance.toBundle, ApplyInstance.toInstance, h.name,
    h.description, h.version, h.settings]

/-- An export that carries a request has the documents of the request. -/
theorem Platform.InstanceBundle.Carries.exported_eq {bundle : InstanceBundle}
    {request : ApplyInstance} (h : bundle.Carries request) :
    bundle.exported = request.toBundle.exported := by
  rw [ApplyInstance.toBundle, ApplyInstance.toExport, ← h.configMaps, ← h.plugins]

/-- What the platform in memory holds of a request carries it. -/
theorem Platform.ApplyInstance.toBundle_carries (request : ApplyInstance) :
    request.toBundle.Carries request :=
  ⟨rfl, rfl, rfl, rfl, rfl, rfl⟩

namespace ArgoCD.ResourceSettings

/-- Settings in which an empty text is absent. -/
def tidied (s : ResourceSettings) : ResourceSettings :=
  { s with
    subdomain := s.subdomain.filter (· != "")
    fqdn := s.fqdn.filter (· != "")
    imageUpdaterVersion := s.imageUpdaterVersion.filter (· != "")
    basepath := s.basepath.filter (· != "") }

/-- Settings with another kustomization in the customization defaults, if there are any. -/
def withKustomization (s : ResourceSettings) (kustomization : Option String) : ResourceSettings :=
  { s with
    clusterCustomizationDefaults :=
      s.clusterCustomizationDefaults.map fun own ↦ { own with kustomization } }

/-- Settings that were stored are reported tidied, with the kustomization that is written for the
document of theirs. -/
theorem ofPlatform_stored {own : ResourceSettings} {stored : Platform.InstanceSettings}
    (hstored : own.toPlatform? = .ok stored) :
    ∃ document, Kustomization.ofYaml? own.kustomization = .ok document ∧
      (ofPlatform stored).kustomization = Kustomization.toYaml document ∧
      ofPlatform stored = own.tidied.withKustomization (Kustomization.toYaml document) := by
  obtain ⟨customization, hcustomization, rfl⟩ := toPlatform?_eq_ok.1 hstored
  rcases mapM_toPlatform?_eq_ok.1 hcustomization with ⟨hown, rfl⟩ | ⟨c, held, hown, rfl, hheld⟩
  · refine ⟨none, by rw [kustomization, hown]; rfl, rfl, ?_⟩
    simp only [ofPlatform, Settings.withForms, nonEmpty_getD, tidied, withKustomization, hown,
      Option.map_none]
  · obtain ⟨document, hread, rfl⟩ := ClusterCustomization.toPlatform?_eq_ok.1 hheld
    refine ⟨document, by rw [kustomization, hown]; exact hread, rfl, ?_⟩
    simp only [ofPlatform, Settings.withForms, nonEmpty_getD, tidied, withKustomization, hown,
      Option.map_some, ClusterCustomization.ofPlatform]

end ArgoCD.ResourceSettings

namespace InstanceSpec

/-- A specification in which what is empty is absent. -/
def tidied (spec : InstanceSpec) : InstanceSpec :=
  { spec with
    argocd := spec.argocd.map fun own ↦
      { spec := {
          description := own.spec.description.filter (· != "")
          version := own.spec.version
          settings := own.spec.settings.tidied } }
    configMaps := {
      general := spec.configMaps.general.filter (!·.isEmpty)
      imageUpdater := spec.configMaps.imageUpdater.filter (!·.isEmpty)
      imageUpdaterSsh := spec.configMaps.imageUpdaterSsh.filter (!·.isEmpty)
      notifications := spec.configMaps.notifications.filter (!·.isEmpty)
      rbac := spec.configMaps.rbac.filter (!·.isEmpty)
      sshKnownHosts := spec.configMaps.sshKnownHosts.filter (!·.isEmpty)
      tlsCerts := spec.configMaps.tlsCerts.filter (!·.isEmpty) }
    plugins := spec.plugins.filter (!·.isEmpty) }

/-- A specification with another kustomization in the customization defaults, if there are any. -/
def withKustomization (spec : InstanceSpec) (kustomization : Option String) : InstanceSpec :=
  { spec with
    argocd := spec.argocd.map fun own ↦
      { spec := { own.spec with settings := own.spec.settings.withKustomization kustomization } } }

/-- Data of which nothing is kept when they have no entries are absent exactly then. -/
theorem bind_nonEmptyDict {α : Type} (dict : Option (Dict α)) :
    dict.bind nonEmptyDict = dict.filter (!·.isEmpty) := by
  rcases dict with _ | dict
  · rfl
  · exact nonEmptyDict_getD (some dict)

/-- What is reported of a specification that was stored is the tidied specification, with the
kustomization that is written for the document of its own. -/
theorem reported_eq {spec : InstanceSpec} {argocd : ArgoCD} {stored : Platform.InstanceSettings}
    (hargocd : spec.argocd = some argocd)
    (hstored : argocd.spec.settings.toPlatform? = .ok stored) :
    ∃ document, Kustomization.ofYaml? spec.kustomization = .ok document ∧
      (spec.reported argocd stored).kustomization = Kustomization.toYaml document ∧
      spec.reported argocd stored =
        spec.tidied.withKustomization (Kustomization.toYaml document) := by
  obtain ⟨document, hdocument, hkustomization, hsettings⟩ :=
    ArgoCD.ResourceSettings.ofPlatform_stored hstored
  refine ⟨document, by rw [kustomization, hargocd]; exact hdocument, hkustomization, ?_⟩
  simp only [reported, hsettings, nonEmpty_getD, bind_nonEmptyDict, ConfigMaps.zipWith, tidied,
    withKustomization, hargocd, Option.map_some]

/-- Where the platform carries the request for a specification, it reports the tidied specification,
and the kustomization that it reports writes the same document, of which only an empty one and a
text of blank characters that needs no quotes are not kept. -/
theorem request_reads_back {spec : InstanceSpec} {request : Platform.ApplyInstance}
    (hrequest : spec.toRequest? = .ok request) {bundle : Platform.InstanceBundle}
    (hcarried : bundle.Carries request)
    (hreads : ∀ document, Kustomization.ofYaml? spec.kustomization = .ok (some document) →
      Yaml.ReadsBack document) :
    ∃ reported document,
      ofPlatform? bundle = .ok reported ∧
      reported = spec.tidied.withKustomization reported.kustomization ∧
      Kustomization.ofYaml? spec.kustomization = .ok document ∧
      Kustomization.ofYaml? reported.kustomization = .ok (Kustomization.kept document) := by
  obtain ⟨argocd, stored, hargocd, hstored, rfl⟩ := toRequest?_eq_ok.1 hrequest
  obtain ⟨document, hdocument, hkustomization, hreported⟩ := reported_eq hargocd hstored
  have hbundle : ofPlatform? bundle = .ok (spec.reported argocd stored) := by
    obtain ⟨inst, exported⟩ := bundle
    obtain rfl := hcarried.exported_eq
    exact ofPlatform?_stored hcarried.inst_eq
  refine ⟨_, document, hbundle, by rw [hkustomization]; exact hreported, hdocument, ?_⟩
  rw [hkustomization]
  exact Kustomization.ofYaml?_toYaml (Kustomization.ofYaml?_ne_null hdocument) fun own hown ↦
    hreads own (hown ▸ hdocument)

/-- A specification with empty settings, an empty config map and customization defaults. -/
def loose (kustomization : String) : InstanceSpec where
  name := "prod"
  argocd := some { spec := {
    description := some "", version := "v2.13.1"
    settings := { ArgoCD.ResourceSettings.unset with
      fqdn := some ""
      clusterCustomizationDefaults := some {
        kustomization := some kustomization, redisTunneling := some true } } } }
  configMaps := { ConfigMaps.all none with rbac := some .empty }

/-- Where the kustomization writes a document, the specification has a request, of which the
kustomization that is written for the document is reported. -/
theorem loose_reported {text : String} {document : Option Json}
    (hread : Kustomization.ofYaml? (some text) = .ok document) :
    ∃ request reported, (loose text).toRequest? = .ok request ∧
      ofPlatform? request.toBundle = .ok reported ∧
      reported.kustomization = Kustomization.toYaml document := by
  have hstored : ∃ stored, ArgoCD.ResourceSettings.toPlatform? { ArgoCD.ResourceSettings.unset with
      fqdn := some ""
      clusterCustomizationDefaults := some {
        kustomization := some text, redisTunneling := some true } } = .ok stored :=
    ⟨_, ArgoCD.ResourceSettings.toPlatform?_eq_ok.2 ⟨_, ArgoCD.mapM_toPlatform?_eq_ok.2 (.inr
      ⟨_, _, rfl, rfl, ArgoCD.ClusterCustomization.toPlatform?_eq_ok.2 ⟨_, hread, rfl⟩⟩), rfl⟩⟩
  obtain ⟨stored, hstored⟩ := hstored
  have hargocd : (loose text).argocd = some _ := rfl
  obtain ⟨own, hown, hkustomization, -⟩ := reported_eq hargocd hstored
  obtain rfl : document = own := Except.ok.inj (hread.symm.trans hown)
  exact ⟨_, _, toRequest?_eq_ok.2 ⟨_, stored, rfl, hstored, rfl⟩,
    ofPlatform?_stored rfl, hkustomization⟩

/-- Its empty settings and config maps read back as absent, and its kustomization as the same
document. -/
theorem request_reads_back_loose :
    ∃ request reported, (loose "kind: Kustomization").toRequest? = .ok request ∧
      ofPlatform? request.toBundle = .ok reported ∧
      (reported.argocd.bind (·.spec.description), reported.configMaps) = (none, .all none) ∧
      Kustomization.ofYaml? reported.kustomization =
        .ok (some (.object [("kind", .text "Kustomization")])) := by
  have hread : Kustomization.ofYaml? (some "kind: Kustomization") =
      .ok (some (.object [("kind", .text "Kustomization")])) := by decide +kernel
  have hreads : ∀ document,
      Kustomization.ofYaml? (loose "kind: Kustomization").kustomization = .ok (some document) →
        Yaml.ReadsBack document := by
    rintro document hdocument
    obtain rfl : Json.object [("kind", .text "Kustomization")] = document := by
      simpa using hread.symm.trans hdocument
    decide +kernel
  obtain ⟨request, -, hrequest, -⟩ := loose_reported hread
  obtain ⟨reported, document, hreported, htidied, hdocument, hkept⟩ :=
    request_reads_back hrequest request.toBundle_carries hreads
  obtain rfl : some (Json.object [("kind", .text "Kustomization")]) = document :=
    Except.ok.inj (hread.symm.trans hdocument)
  exact ⟨request, reported, hrequest, hreported, by rw [htidied]; rfl, hkept⟩

/-- A kustomization of customization defaults that is a no-break space between quotes is reported
without them, and is then taken for a blank text. -/
theorem blank_customization_lost :
    ∃ request reported, (loose "\"\u00a0\"").toRequest? = .ok request ∧
      Yaml.ReadsBack (.text "\u00a0") ∧
      ofPlatform? request.toBundle = .ok reported ∧
      Kustomization.ofYaml? (loose "\"\u00a0\"").kustomization = .ok (some (.text "\u00a0")) ∧
      Kustomization.ofYaml? reported.kustomization = .ok none := by
  have hread : Kustomization.ofYaml? (some "\"\u00a0\"") = .ok (some (.text "\u00a0")) := by
    decide +kernel
  obtain ⟨request, reported, hrequest, hreported, hkustomization⟩ := loose_reported hread
  refine ⟨request, reported, hrequest, by decide +kernel, hreported, hread, ?_⟩
  rw [hkustomization]
  decide +kernel

end InstanceSpec

end FleetOperator
