import FleetOperator.Proofs.Cluster.Scheme

/-!
# Clusters converge

After a write that went well, an undisturbed run has nothing left to do, unless the kustomization is
vacuous. Read `Cluster.writes_converge` first: it says of every later look and pass what is seen and
what is asked, for every specification and every kind of kustomization.
-/

namespace FleetOperator.Cluster

variable {W : Type} {handler : Handler effects W} {holdings : Holdings W Platform.Cluster}
  {policy : PollPolicy} {instanceId : String}

/-- Whether two specifications give the same kustomization. -/
def SameGiven (spec other : ClusterSpec) : Prop :=
  Kustomization.given other.properties.data.kustomization =
    Kustomization.given spec.properties.data.kustomization

/-- Specifications that give the same kustomization are both vacuous or both not. -/
theorem SameGiven.isVacuous {spec other : ClusterSpec} (h : SameGiven spec other) :
    Kustomization.isVacuous other.properties.data.kustomization =
      Kustomization.isVacuous spec.properties.data.kustomization := by
  rw [← Kustomization.isVacuous_given, h, Kustomization.isVacuous_given]

/-- Late initialization from what is stored keeps the kustomization that is given. -/
theorem keeps_given (instanceId : String) (spec : ClusterSpec) (m : Platform.ClusterManifest) :
    (scheme instanceId).Keeps m (SameGiven spec) := by
  intro other own hmanifest hinit hgiven
  have hsettled := ClusterSpec.lateInitialize_stored other hmanifest
    (rfl : m.toCluster.declared.declared = m.toCluster.declared)
  obtain rfl : other.settled = own :=
    congrArg LateInitialized.spec (hsettled.symm.trans hinit)
  exact (Kustomization.given_given other.properties.data.kustomization).trans hgiven

section

variable {spec : ClusterSpec} {m : Platform.ClusterManifest}
  {s : Situation ClusterSpec ClusterObservation W}
  (hkeeps : holdings.KeepsClusters handler instanceId)
  (hreads : ∀ document, m.spec.data.kustomization = some document → Yaml.ReadsBack document)
  (h : (scheme instanceId).IsWritten holdings m (SameGiven spec) s)
include hkeeps h

variable (policy) in
/-- A look at a written cluster asks one question. -/
theorem looks_written : (External.cluster policy instanceId).looks handler s =
    [.platform (.getCluster instanceId m.metadata.name)] := by
  obtain ⟨remote, hremote, -⟩ := hkeeps.reads_held _ _ _ h.calm h.held
  exact (looks_found policy h.name hremote).2.2

include hreads

variable (policy) in
/-- A look at a written cluster finds it up to date exactly if its kustomization is not vacuous. -/
theorem seen_written : (External.cluster policy instanceId).seen handler s =
    .ok (.present (!Kustomization.isVacuous spec.properties.data.kustomization)) := by
  obtain ⟨remote, hremote, hdeclared⟩ := hkeeps.reads_held _ _ _ h.calm h.held
  have hinit := ClusterSpec.lateInitialize_stored s.resource.spec h.request hdeclared
  rw [(looks_found policy h.name hremote).1, reflect_ok (by rw [hinit]), hinit,
    ClusterSpec.isUpToDate_stored h.request hreads hdeclared, h.known.isVacuous]

variable (policy) in
/-- A pass over a written cluster leaves it written. It writes again exactly if the kustomization is
vacuous. -/
theorem pass_written :
    (scheme instanceId).IsWritten holdings m (SameGiven spec)
        ((External.cluster policy instanceId).after handler s) ∧
      (Kustomization.isVacuous spec.properties.data.kustomization = false →
        (External.cluster policy instanceId).result handler s = .ok .noOp ∧
        (External.cluster policy instanceId).calls handler s =
          [.platform (.getCluster instanceId m.metadata.name)]) ∧
      (Kustomization.isVacuous spec.properties.data.kustomization = true →
        (External.cluster policy instanceId).result handler s ≠ .ok .noOp ∧
        (External.cluster policy instanceId).calls handler s =
          [.platform (.getCluster instanceId m.metadata.name),
            .platform (.applyCluster instanceId m)]) := by
  have hfollowed := followed policy hkeeps
  have hseen := seen_written policy hkeeps hreads h
  have hlooks := looks_written policy hkeeps h
  have hlooked := h.looked hfollowed (scheme_lawful instanceId) (keeps_given instanceId spec m)
  cases hvacuous : Kustomization.isVacuous spec.properties.data.kustomization with
  | false =>
      rw [hvacuous] at hseen
      obtain ⟨hresult, hafter, hcalls⟩ := External.pass_upToDate hseen
      rw [hafter, hcalls, hlooks]
      exact ⟨hlooked, fun _ ↦ ⟨hresult, rfl⟩, fun h ↦ absurd h (by simp)⟩
  | true =>
      rw [hvacuous] at hseen
      obtain ⟨hresult, hafter, hcalls⟩ := External.pass_outdated hseen
      obtain ⟨-, hasked⟩ := run_update handler instanceId hlooked.request
        ((External.cluster policy instanceId).looked handler s).world
      refine ⟨?_, fun h ↦ absurd h (by simp), fun _ ↦ ⟨?_, ?_⟩⟩
      · rw [hafter]
        exact hlooked.updated hfollowed
      · rw [hresult]
        generalize (((External.cluster policy instanceId).update _).run.run handler _).1 = outcome
        cases outcome <;> simp [Except.map]
      · rw [hcalls, hlooks]
        show _ ++ (update instanceId _).run.calls handler _ = _
        rw [hasked]
        rfl

end

/-- After a write that went well, every look of an undisturbed run finds the cluster up to date,
and every pass does nothing but look, exactly if the kustomization is not vacuous. A cluster with a
vacuous kustomization is written again by every pass. -/
theorem writes_converge (before after : Situation ClusterSpec ClusterObservation W)
    (hkeeps : holdings.KeepsClusters handler instanceId) (hcalm : holdings.calm before.world)
    (hname : before.resource.spec.name ≠ "")
    (hreads : ∀ document, Kustomization.ofYaml? before.resource.spec.properties.data.kustomization =
      .ok (some document) → Yaml.ReadsBack document)
    (hwrote : (External.cluster policy instanceId).Wrote handler before.resource.spec.name
      before after)
    {trace : List Effect} {s : Situation ClusterSpec ClusterObservation W}
    (hrun : Undisturbed (External.cluster policy instanceId) handler holdings after trace s) :
    (External.cluster policy instanceId).seen handler s = .ok (.present
        (!Kustomization.isVacuous before.resource.spec.properties.data.kustomization)) ∧
      (Kustomization.isVacuous before.resource.spec.properties.data.kustomization = false →
        (External.cluster policy instanceId).result handler s = .ok .noOp ∧
        (External.cluster policy instanceId).calls handler s =
          [.platform (.getCluster instanceId before.resource.spec.name)]) ∧
      (Kustomization.isVacuous before.resource.spec.properties.data.kustomization = true →
        (External.cluster policy instanceId).result handler s ≠ .ok .noOp ∧
        ∃ m, before.resource.spec.toManifest? = .ok m ∧
          (External.cluster policy instanceId).calls handler s =
            [.platform (.getCluster instanceId before.resource.spec.name),
              .platform (.applyCluster instanceId m)]) := by
  have hnamed : ∀ m, (scheme instanceId).request? before.resource.spec = .ok m →
      (scheme instanceId).name m = before.resource.spec.name := by
    intro m hmanifest
    obtain ⟨kustomization, -, rfl⟩ := ClusterSpec.toManifest?_eq_ok.1 hmanifest
    rfl
  have hgiven : SameGiven before.resource.spec before.resource.spec := rfl
  obtain ⟨m, hmanifest, hwritten⟩ := (followed policy hkeeps).isWritten_of_wrote hcalm hname hnamed
    hgiven hwrote
  have hback : ∀ document, m.spec.data.kustomization = some document →
      Yaml.ReadsBack document := by
    obtain ⟨kustomization, hread, rfl⟩ := ClusterSpec.toManifest?_eq_ok.1 hmanifest
    rintro document rfl
    exact hreads document hread
  obtain ⟨hs, -⟩ := hrun.invariant
    ((scheme instanceId).IsWritten holdings m (SameGiven before.resource.spec)) (fun _ ↦ True)
    (fun s h ↦ (pass_written policy hkeeps hback h).1) (fun s t h hrest ↦ h.rest hrest)
    (fun _ _ _ _ ↦ trivial) hwritten
  obtain ⟨-, hidle, hwrites⟩ := pass_written policy hkeeps hback hs
  rw [← hnamed m hmanifest]
  refine ⟨seen_written policy hkeeps hback hs, hidle, fun hvacuous ↦ ?_⟩
  obtain ⟨hresult, hcalls⟩ := hwrites hvacuous
  exact ⟨hresult, m, hmanifest, hcalls⟩

/-- A resource for a cluster with a kustomization. -/
def kustomized (text : String) : Cluster where
  metadata := { name := some "prod" }
  spec := { name := "prod", properties := { data := { kustomization := some text } } }

/-- The situation after the cluster of such a resource was created in an empty world. -/
def kustomizedCreated (text : String) : Situation ClusterSpec ClusterObservation World where
  resource := (kustomized text).withExternalName "prod"
  world := (((External.cluster {} "argo").create (kustomized text)).run.run World.answer {}).2

/-- The creation is a write of the cluster where it goes well. -/
theorem kustomized_wrote {text : String}
    (h : (((External.cluster {} "argo").create (kustomized text)).run.run World.answer {}).1 =
      .ok ((kustomized text).withExternalName "prod")) :
    (External.cluster {} "argo").Wrote World.answer "prod" ⟨kustomized text, {}⟩
      (kustomizedCreated text) :=
  .created (Prod.ext h rfl)

/-- A kustomization with a document is left alone after the creation, and an empty one is written
again by the next pass. -/
theorem writes_converge_kustomized :
    (External.cluster {} "argo").result World.answer (kustomizedCreated "kind: Kustomization") =
        .ok .noOp ∧
      (External.cluster {} "argo").result World.answer (kustomizedCreated "{}") ≠ .ok .noOp := by
  have hcalm : World.clusters.calm {} := ⟨rfl, fun _ ↦ rfl⟩
  constructor
  · have hreads : ∀ document, Kustomization.ofYaml? (some "kind: Kustomization") =
        .ok (some document) → Yaml.ReadsBack document := by
      have hread : Kustomization.ofYaml? (some "kind: Kustomization") =
          .ok (some (.object [("kind", .text "Kustomization")])) := by decide +kernel
      rintro document hdocument
      obtain rfl : Json.object [("kind", .text "Kustomization")] = document := by
        simpa using hread.symm.trans hdocument
      decide +kernel
    have hidle := writes_converge ⟨kustomized "kind: Kustomization", {}⟩
      (kustomizedCreated "kind: Kustomization") (World.keepsClusters "argo") hcalm
      (by decide) hreads (kustomized_wrote (by decide +kernel)) .start
    exact (hidle.2.1 (by decide +kernel)).1
  · have hreads : ∀ document, Kustomization.ofYaml? (some "{}") = .ok (some document) →
        Yaml.ReadsBack document := by
      have hread : Kustomization.ofYaml? (some "{}") = .ok (some (.object [])) := by
        decide +kernel
      rintro document hdocument
      obtain rfl : Json.object [] = document := by simpa using hread.symm.trans hdocument
      decide +kernel
    have hwrites := writes_converge ⟨kustomized "{}", {}⟩ (kustomizedCreated "{}")
      (World.keepsClusters "argo") hcalm (by decide) hreads
      (kustomized_wrote (by decide +kernel)) .start
    exact (hwrites.2.2 (by decide +kernel)).1

end FleetOperator.Cluster
