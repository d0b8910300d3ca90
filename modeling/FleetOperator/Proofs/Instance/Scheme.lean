import FleetOperator.Proofs.Instance.Passes
import FleetOperator.Proofs.Reconcile.Written

/-!
# The scheme of instances

How instances are asked for, as a scheme. Read `Instance.followed` first: passes over instances
follow the scheme, and it is lawful.
-/

namespace FleetOperator

variable {W : Type} {handler : Handler effects W}

namespace Instance

/-- How instances are asked for. An instance that amounts to no specification cannot be taken
over. -/
def scheme : Scheme InstanceSpec Platform.InstanceBundle Platform.ApplyInstance where
  lateInitialize spec bundle :=
    match InstanceSpec.ofPlatform? bundle with
    | .error error => { spec, error := some error }
    | .ok canonical => spec.lateInitialize canonical
  request? := InstanceSpec.toRequest?
  name request := request.id
  stored request := request.toBundle
  write request := .platform (.applyInstance request)

/-- The scheme of instances is lawful. -/
theorem scheme_lawful : scheme.Lawful where
  twice spec bundle := by
    simp only [scheme]
    cases InstanceSpec.ofPlatform? bundle with
    | error error => rfl
    | ok canonical => exact spec.lateInitialize_twice canonical
  stored spec request hrequest := by
    obtain ⟨observed, hobserved, hinit, -⟩ :=
      InstanceSpec.stored_of_request hrequest
        (rfl : request.toBundle.inst.declared = request.toBundle.inst)
    refine ⟨spec.settled, ?_, (InstanceSpec.toRequest?_settled spec).trans hrequest⟩
    simp only [scheme, hobserved, hinit]

variable (rules : NormalizeRules)

/-- An instance that is read is seen as the scheme says. -/
theorem reflect_sees (cr : Instance) {inst : Platform.Instance} {object : Platform.InstanceBundle}
    (hdeclared : inst.declared = object.inst) :
    scheme.Sees cr.spec (cr.reflect rules { inst, exported := object.exported }).1.spec
        (cr.reflect rules { inst, exported := object.exported }).2 (some object) ∧
      (cr.reflect rules { inst, exported := object.exported }).1.externalName? =
        cr.externalName? := by
  have hsame : InstanceSpec.ofPlatform? { inst, exported := object.exported } =
      InstanceSpec.ofPlatform? object := by
    rw [← InstanceSpec.ofPlatform?_declared, hdeclared]
  cases hcanonical : InstanceSpec.ofPlatform? object with
  | error error =>
      rw [reflect_unreadable rules cr (hsame.trans hcanonical)]
      simp only [Scheme.Sees, scheme, hcanonical, and_self]
  | ok canonical =>
      obtain ⟨hspec, hexternal⟩ := reflect_spec rules cr (hsame.trans hcanonical)
      refine ⟨?_, hexternal⟩
      simp only [Scheme.Sees, scheme, hcanonical]
      refine ⟨hspec, ?_⟩
      cases herror : (cr.spec.lateInitialize canonical).error with
      | some error => exact reflect_error rules cr (hsame.trans hcanonical) herror
      | none => exact ⟨_, reflect_ok rules cr (hsame.trans hcanonical) herror⟩

variable {holdings : Holdings W Platform.InstanceBundle}
  (hkeeps : holdings.KeepsInstances handler)
include hkeeps

/-- A look follows the scheme of instances. -/
theorem looks_follow {s : Situation InstanceSpec InstanceObservation W}
    (hcalm : holdings.calm s.world) :
    scheme.Looks holdings s ((External.inst rules).looked handler s)
      ((External.inst rules).seen handler s) ((External.inst rules).looks handler s) := by
  cases hname : s.resource.externalName? with
  | none =>
      obtain ⟨hseen, hlooked, hlooks⟩ := looks_unnamed rules handler hname
      rw [hseen, hlooked, hlooks]
      refine ⟨hcalm, fun _ ↦ rfl, rfl, ?_, by simp⟩
      rw [hname]
      exact ⟨rfl, rfl⟩
  | some name =>
      have hcalmGet := hkeeps.calm_after (.platform (.getInstance name)) s.world hcalm
      have hframeGet (other : String) :
          holdings.held (handler (.platform (.getInstance name)) s.world).2 other =
            holdings.held s.world other :=
        hkeeps.frame _ _ _ hcalm id
      cases hheld : holdings.held s.world name with
      | none =>
          obtain ⟨what, hmissing⟩ := hkeeps.reads_missing _ _ hcalm hheld
          obtain ⟨hseen, hlooked, hlooks⟩ := looks_missing rules hname hmissing
          rw [hseen, hlooked, hlooks]
          refine ⟨hcalmGet, hframeGet, rfl, ?_, ?_⟩
          · rw [hname, Option.bind_some, hheld]
            exact ⟨rfl, rfl⟩
          · simp [Effect.isWrite, Platform.Request.isWrite]
      | some object =>
          obtain ⟨inst, hinst, hdeclared⟩ := hkeeps.reads_held _ _ _ hcalm hheld
          have hexported := hkeeps.exports_held _ _ _ hcalmGet ((hframeGet name).trans hheld)
          obtain ⟨hseen, hlooked, hlooks⟩ := looks_found rules hname hinst hexported
          obtain ⟨hsees, hexternal⟩ := reflect_sees rules s.resource hdeclared
          rw [hseen, hlooked, hlooks]
          refine ⟨hkeeps.calm_after _ _ hcalmGet, ?_, hexternal, ?_, ?_⟩
          · intro other
            exact (hkeeps.frame (.platform (.exportInstance name)) _ other hcalmGet id).trans
              (hframeGet other)
          · rw [hname, Option.bind_some, hheld]
            exact hsees
          · simp [Effect.isWrite, Platform.Request.isWrite]

/-- Passes over instances follow the scheme of instances. -/
theorem followed : scheme.Followed (External.inst rules) handler holdings where
  looks s hcalm := looks_follow rules hkeeps hcalm
  creates cr world request hcalm hrequest := by
    obtain ⟨hrun, hcalls⟩ := run_create handler hrequest world
    rw [show (External.inst rules).create = create from rfl, hrun, hcalls]
    refine ⟨⟨hkeeps.applied hcalm request, fun _ hasked _ ↦ List.mem_singleton.1 hasked⟩, ?_⟩
    intro created hresult
    obtain ⟨_, hanswer, rfl⟩ := map_eq_ok.1 hresult
    exact ⟨rfl, hkeeps.stores world request hcalm (mapError_eq_ok.1 hanswer)⟩
  updates cr world request hcalm hrequest := by
    obtain ⟨hrun, hcalls⟩ := run_update handler hrequest world
    rw [show (External.inst rules).update = update from rfl, hrun, hcalls]
    refine ⟨⟨hkeeps.applied hcalm request, fun _ hasked _ ↦ List.mem_singleton.1 hasked⟩, ?_⟩
    exact fun hresult ↦ hkeeps.stores world request hcalm (mapError_eq_ok.1 hresult)
  fails cr world error h := run_unwritten handler h world

end Instance

end FleetOperator
