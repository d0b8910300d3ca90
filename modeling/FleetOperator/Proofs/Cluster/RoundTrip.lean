import FleetOperator.Proofs.Cluster.Stored

/-!
# Cluster specifications there and back

What a cluster's specification reads back as when the platform reports the cluster that was stored
for it. Read `written_reads_back` first: every setting comes back as it was, up to what counts as
unset, and only a kustomization of blank characters that YAML shows without quotes is lost, as
`blank_kustomization_lost` shows.
-/

namespace FleetOperator

/-- A text that may be empty is absent exactly if it is. -/
theorem nonEmpty_getD (text : Option String) :
    nonEmpty (text.getD "") = text.filter (· != "") := by
  rcases text with _ | text
  · rfl
  · by_cases h : text = "" <;> simp [nonEmpty, Option.filter, h]

/-- A dictionary that may be empty is absent exactly if it is. -/
theorem nonEmptyDict_getD {α : Type} (dict : Option (Dict α)) :
    nonEmptyDict (dict.getD .empty) = dict.filter (!·.isEmpty) := by
  rcases dict with _ | dict
  · rfl
  · cases h : dict.isEmpty <;> simp [nonEmptyDict, Option.filter, h]

namespace ClusterSpec

/-- A specification with another kustomization. -/
def withKustomization (spec : ClusterSpec) (kustomization : Option String) : ClusterSpec :=
  { spec with
    properties := { spec.properties with
      data := { spec.properties.data with kustomization } } }

/-- A specification in which what is unset has its default, and what is empty is absent. -/
def tidied (spec : ClusterSpec) : ClusterSpec :=
  { spec with
    «namespace» := spec.namespace.filter (· != "")
    labels := spec.labels.filter (!·.isEmpty)
    annotations := spec.annotations.filter (!·.isEmpty)
    properties := {
      description := spec.properties.description.filter (· != "")
      namespaceScoped := some (spec.properties.namespaceScoped.getD false)
      data := { spec.properties.data with
        size := some (spec.properties.data.size.getD .small)
        targetVersion := spec.properties.data.targetVersion.filter (· != "") } } }

/-- A specification has no manifest exactly if its kustomization writes no document. -/
theorem toManifest?_fails_iff {spec : ClusterSpec} :
    (∃ error, spec.toManifest? = .error error) ↔
      ∃ error, Kustomization.ofYaml? spec.properties.data.kustomization = .error error := by
  cases hdocument : Kustomization.ofYaml? spec.properties.data.kustomization with
  | error error =>
      simp only [toManifest?, hdocument]
      exact ⟨fun _ ↦ ⟨_, rfl⟩, fun _ ↦ ⟨_, rfl⟩⟩
  | ok document =>
      rw [toManifest?_eq_ok.2 ⟨document, hdocument, rfl⟩]
      simp

/-- What was stored for a manifest is reported as the tidied specification with the kustomization
that is written for its document. -/
theorem ofPlatform_stored {spec : ClusterSpec} {kustomization : Option Json}
    {remote : Platform.Cluster}
    (hstored : remote.declared = (spec.manifest kustomization).toCluster.declared) :
    ofPlatform remote spec =
      spec.tidied.withKustomization (Kustomization.toYaml kustomization) := by
  rw [← ofPlatform_declared, hstored, ofPlatform_declared]
  simp only [ofPlatform, manifest, Platform.ClusterManifest.toCluster, Platform.ofCode?_sizeCode,
    Option.getD_some, nonEmpty_getD, nonEmptyDict_getD, tidied, withKustomization]

/-- A specification has no manifest exactly if its kustomization is neither blank nor YAML. What was
stored for a manifest is reported as the tidied specification, and the kustomization that is reported
writes the same document, of which only an empty one and a text of blank characters that needs no
quotes are not kept. -/
theorem written_reads_back (spec : ClusterSpec) :
    ((∃ error, spec.toManifest? = .error error) ↔
      ∃ text, spec.properties.data.kustomization = some text ∧
        Text.isBlankText text = false ∧ Yaml.readJson? text = none) ∧
    ∀ (m : Platform.ClusterManifest) (remote : Platform.Cluster),
      spec.toManifest? = .ok m → remote.declared = m.toCluster.declared →
      (∀ document, m.spec.data.kustomization = some document → Yaml.ReadsBack document) →
      ∃ reported document,
        ofPlatform remote spec = spec.tidied.withKustomization reported ∧
        Kustomization.ofYaml? spec.properties.data.kustomization = .ok document ∧
        Kustomization.ofYaml? reported = .ok (Kustomization.kept document) := by
  refine ⟨toManifest?_fails_iff.trans Kustomization.ofYaml?_fails_iff, ?_⟩
  intro m remote hmanifest hstored hreads
  obtain ⟨document, hdocument, rfl⟩ := toManifest?_eq_ok.1 hmanifest
  exact ⟨Kustomization.toYaml document, document, ofPlatform_stored hstored, hdocument,
    Kustomization.ofYaml?_toYaml (Kustomization.ofYaml?_ne_null hdocument) hreads⟩

/-- A specification with a size that is not set, empty settings and a kustomization. -/
def loose (kustomization : String) : ClusterSpec where
  name := "prod"
  «namespace» := some ""
  labels := some .empty
  properties := { data := { kustomization := some kustomization, redisTunneling := some true } }

/-- Its size reads back as small, its empty settings as absent, and its kustomization as the same
document. -/
theorem written_reads_back_loose :
    ∃ reported, ofPlatform ((loose "kind: Kustomization").manifest
        (some (.object [("kind", .text "Kustomization")]))).toCluster (loose "kind: Kustomization") =
      { name := "prod"
        properties := {
          namespaceScoped := some false
          data := {
            size := some .small, redisTunneling := some true, kustomization := reported } } } ∧
      Kustomization.ofYaml? reported = .ok (some (.object [("kind", .text "Kustomization")])) := by
  have hread : Kustomization.ofYaml? (some "kind: Kustomization") =
      .ok (some (.object [("kind", .text "Kustomization")])) := by decide +kernel
  have hreads : ∀ document, some (Json.object [("kind", .text "Kustomization")]) = some document →
      Yaml.ReadsBack document := by
    rintro document hdocument
    obtain rfl := Option.some.inj hdocument
    decide +kernel
  obtain ⟨reported, document, hreported, hdocument, hkept⟩ :=
    (written_reads_back (loose "kind: Kustomization")).2 _ _
      (toManifest?_eq_ok.2 ⟨_, hread, rfl⟩) rfl hreads
  obtain rfl : some (Json.object [("kind", .text "Kustomization")]) = document :=
    Except.ok.inj (hread.symm.trans hdocument)
  exact ⟨reported, hreported, hkept⟩

/-- A kustomization that is a no-break space between quotes is reported without them, and is then
taken for a blank text. -/
theorem blank_kustomization_lost :
    ∃ m, (loose "\"\u00a0\"").toManifest? = .ok m ∧
      Yaml.ReadsBack (.text "\u00a0") ∧
      Kustomization.ofYaml? (some "\"\u00a0\"") = .ok (some (.text "\u00a0")) ∧
      Kustomization.ofYaml?
        (ofPlatform m.toCluster (loose "\"\u00a0\"")).properties.data.kustomization = .ok none := by
  have hread : Kustomization.ofYaml? (some "\"\u00a0\"") = .ok (some (.text "\u00a0")) := by
    decide +kernel
  exact ⟨_, toManifest?_eq_ok.2 ⟨_, hread, rfl⟩, by decide +kernel, hread, by decide +kernel⟩

end ClusterSpec

end FleetOperator
