import FleetOperator.Proofs.Instance.Scheme

/-!
# Instances converge

After a write that went well, an undisturbed run has nothing left to do, whatever the rules of the
comparison are. Read `Instance.left_alone_after_write` first.
-/

namespace FleetOperator.Instance

variable {W : Type} {handler : Handler effects W} {holdings : Holdings W Platform.InstanceBundle}
  {rules : NormalizeRules}

/-- Whether a specification gives the kustomization that another one has for its customization
defaults. -/
def SameGiven (spec other : InstanceSpec) : Prop :=
  Kustomization.given other.kustomization = Kustomization.given spec.kustomization

/-- Late initialization from what is stored keeps the kustomization that is given. -/
theorem keeps_given (spec : InstanceSpec) (request : Platform.ApplyInstance) :
    scheme.Keeps request (SameGiven spec) := by
  intro other own hrequest hinit hgiven
  obtain ⟨observed, hobserved, hsettled, -⟩ := InstanceSpec.stored_of_request hrequest
    (rfl : request.toBundle.inst.declared = request.toBundle.inst)
  simp only [scheme, hobserved, hsettled] at hinit
  obtain rfl : other.settled = own := congrArg LateInitialized.spec hinit
  rw [SameGiven, InstanceSpec.kustomization_settled, Kustomization.given_given]
  exact hgiven

section

variable {spec : InstanceSpec} {request : Platform.ApplyInstance}
  {s : Situation InstanceSpec InstanceObservation W}
  (hkeeps : holdings.KeepsInstances handler)
  (hvacuous : Kustomization.isVacuous spec.kustomization = false)
  (hreads : ∀ document, Kustomization.ofYaml? spec.kustomization = .ok (some document) →
    Yaml.ReadsBack document)
  (h : scheme.IsWritten holdings request (SameGiven spec) s)
include hkeeps hvacuous hreads h

variable (rules) in
/-- A look at a written instance asks two questions and finds it up to date. -/
theorem seen_written :
    (External.inst rules).seen handler s = .ok (.present true) ∧
      (External.inst rules).looks handler s =
        [.platform (.getInstance request.id), .platform (.exportInstance request.id)] := by
  have hheld : holdings.held (handler (.platform (.getInstance request.id)) s.world).2 request.id =
      some request.toBundle := by
    rw [hkeeps.frame _ _ _ h.calm id]
    exact h.held
  obtain ⟨inst, hinst, hdeclared⟩ := hkeeps.reads_held _ _ _ h.calm h.held
  obtain ⟨hseen, -, hlooks⟩ := looks_found rules h.name hinst
    (hkeeps.exports_held _ _ _ (hkeeps.calm_after _ _ h.calm) hheld)
  obtain ⟨canonical, hcanonical, hinit, hidle⟩ :=
    InstanceSpec.stored_of_request h.request hdeclared
  have hsame : Kustomization.isVacuous s.resource.spec.kustomization = false := by
    rw [← Kustomization.isVacuous_given, h.known, Kustomization.isVacuous_given, hvacuous]
  have hback : ∀ document, Kustomization.ofYaml? s.resource.spec.kustomization =
      .ok (some document) → Yaml.ReadsBack document := by
    intro document hdocument
    rw [← Kustomization.ofYaml?_given, h.known, Kustomization.ofYaml?_given] at hdocument
    exact hreads document hdocument
  refine ⟨?_, hlooks⟩
  rw [hseen, reflect_ok rules s.resource hcanonical (by rw [hinit]), hinit, hidle hsame hback]

variable (rules) in
/-- A pass over a written instance does nothing but look, and leaves it written. -/
theorem pass_written :
    (External.inst rules).result handler s = .ok .noOp ∧
      (External.inst rules).calls handler s =
        [.platform (.getInstance request.id), .platform (.exportInstance request.id)] ∧
      scheme.IsWritten holdings request (SameGiven spec)
        ((External.inst rules).after handler s) := by
  obtain ⟨hseen, hlooks⟩ := seen_written rules hkeeps hvacuous hreads h
  obtain ⟨hresult, hafter, hcalls⟩ := External.pass_upToDate hseen
  rw [hafter, hcalls, hlooks]
  exact ⟨hresult, rfl, h.looked (followed rules hkeeps) scheme_lawful (keeps_given spec request)⟩

end

/-- After a write that went well, every pass of an undisturbed run finds nothing to do and asks for
nothing but the instance and what it exports, by any rules, where the kustomization of the
customization defaults is empty, or is not blank and is read as a value that is neither null nor an
empty object. -/
theorem left_alone_after_write (before after : Situation InstanceSpec InstanceObservation W)
    (hkeeps : holdings.KeepsInstances handler) (hcalm : holdings.calm before.world)
    (hname : before.resource.spec.name ≠ "")
    (hkustomization : ∀ text, before.resource.spec.kustomization = some text → text = "" ∨
      Text.isBlankText text = false ∧ ∃ value, Yaml.readJson? text = some value ∧
        value ≠ .null ∧ value ≠ .object [])
    (hreads : ∀ document, Kustomization.ofYaml? before.resource.spec.kustomization =
      .ok (some document) → Yaml.ReadsBack document)
    (hwrote : (External.inst rules).Wrote handler before.resource.spec.name before after)
    {trace : List Effect} {s : Situation InstanceSpec InstanceObservation W}
    (hrun : Undisturbed (External.inst rules) handler holdings after trace s) :
    (External.inst rules).result handler s = .ok .noOp ∧
      (External.inst rules).calls handler s =
        [.platform (.getInstance before.resource.spec.name),
          .platform (.exportInstance before.resource.spec.name)] := by
  have hvacuous : Kustomization.isVacuous before.resource.spec.kustomization = false := by
    cases htext : before.resource.spec.kustomization with
    | none => rfl
    | some text =>
        rcases hkustomization text htext with rfl | ⟨hblank, value, hread, hnull, hempty⟩
        · rfl
        · rw [Kustomization.isVacuous, Kustomization.ofYaml?_of_readJson? hblank hread hnull]
          simp [hempty]
  have hnamed : ∀ request, scheme.request? before.resource.spec = .ok request →
      scheme.name request = before.resource.spec.name := by
    intro request hrequest
    obtain ⟨argocd, stored, -, -, rfl⟩ := InstanceSpec.toRequest?_eq_ok.1 hrequest
    rfl
  have hgiven : SameGiven before.resource.spec before.resource.spec := rfl
  obtain ⟨request, hrequest, hwritten⟩ := (followed rules hkeeps).isWritten_of_wrote hcalm hname
    hnamed hgiven hwrote
  obtain ⟨hs, -⟩ := hrun.invariant
    (scheme.IsWritten holdings request (SameGiven before.resource.spec)) (fun _ ↦ True)
    (fun s h ↦ (pass_written rules hkeeps hvacuous hreads h).2.2)
    (fun s t h hrest ↦ h.rest hrest) (fun _ _ _ _ ↦ trivial) hwritten
  obtain ⟨hresult, hcalls, -⟩ := pass_written rules hkeeps hvacuous hreads hs
  rw [← hnamed request hrequest]
  exact ⟨hresult, hcalls⟩

/-- A resource for an instance with two names, a kustomization for its clusters and a general config
map of which the platform manages an entry itself. -/
def customized : Instance where
  metadata := { name := some "prod" }
  spec := {
    name := "prod"
    argocd := some { spec := {
      version := "v2.13.1"
      settings := { ArgoCD.ResourceSettings.unset with
        subdomain := some "prod"
        fqdn := some "argo.example.com"
        clusterCustomizationDefaults := some { kustomization := some "kind: Kustomization" } } } }
    configMaps := { ConfigMaps.all none with
      general := some (Dict.ofList [("accounts.ci", "login, apiKey"), ("url", "https://argo")]) } }

/-- The situation after the instance of the resource was created in an empty world. -/
def customizedCreated : Situation InstanceSpec InstanceObservation World where
  resource := customized.withExternalName "prod"
  world := (((External.inst {}).create customized).run.run World.answer {}).2

/-- The next pass leaves the created instance alone. -/
theorem left_alone_after_write_customized :
    (External.inst {}).result World.answer customizedCreated = .ok .noOp ∧
      (External.inst {}).calls World.answer customizedCreated =
        [.platform (.getInstance "prod"), .platform (.exportInstance "prod")] := by
  have hcalm : World.instances.calm {} := ⟨rfl, rfl, fun _ ↦ rfl⟩
  have hread : Yaml.readJson? "kind: Kustomization" =
      some (.object [("kind", .text "Kustomization")]) := by decide +kernel
  have hkustomization : ∀ text, customized.spec.kustomization = some text → text = "" ∨
      Text.isBlankText text = false ∧ ∃ value, Yaml.readJson? text = some value ∧
        value ≠ .null ∧ value ≠ .object [] := by
    rintro text htext
    obtain rfl : "kind: Kustomization" = text := Option.some.inj htext
    exact .inr ⟨by decide +kernel, _, hread, by decide, by decide⟩
  have hreads : ∀ document, Kustomization.ofYaml? customized.spec.kustomization =
      .ok (some document) → Yaml.ReadsBack document := by
    rintro document hdocument
    obtain rfl : Json.object [("kind", .text "Kustomization")] = document :=
      Option.some.inj (hread.symm.trans (Kustomization.readJson?_of_ofYaml? hdocument).1)
    decide +kernel
  have hcreated : (((External.inst {}).create customized).run.run World.answer {}).1 =
      .ok (customized.withExternalName "prod") := by decide +kernel
  exact left_alone_after_write ⟨customized, {}⟩ customizedCreated
    World.keepsInstances hcalm (by decide) hkustomization hreads
    (.created (Prod.ext hcreated rfl)) .start

/-- A resource for an instance with an ideographic space as the kustomization for its clusters. -/
def spaced : Instance where
  metadata := { name := some "prod" }
  spec := {
    name := "prod"
    argocd := some { spec := {
      settings := { ArgoCD.ResourceSettings.unset with
        clusterCustomizationDefaults := some { kustomization := some "\u3000" } } } } }

/-- The situation after the instance of the resource was created in an empty world. -/
def spacedCreated : Situation InstanceSpec InstanceObservation World where
  resource := spaced.withExternalName "prod"
  world := (((External.inst {}).create spaced).run.run World.answer {}).2

/-- A blank text that is read as a text, and would be read back as that, is not stored: the next pass
after the instance was created writes it again, and so does the one after that. -/
theorem left_alone_after_write_spaced :
    World.instances.KeepsInstances World.answer ∧ spaced.spec.kustomization = some "\u3000" ∧
      Yaml.readJson? "\u3000" = some (.text "\u3000") ∧ Yaml.ReadsBack (.text "\u3000") ∧
      (((External.inst {}).create spaced).run.run World.answer {}).1 =
        .ok (spaced.withExternalName "prod") ∧
      (External.inst {}).result World.answer spacedCreated = .ok .updated ∧
      (External.inst {}).result World.answer
        ((External.inst {}).after World.answer spacedCreated) = .ok .updated :=
  ⟨World.keepsInstances, by decide +kernel⟩

end FleetOperator.Instance
