import FleetOperator.Proofs.Instance.Stored
import FleetOperator.Proofs.Reconcile.Undisturbed

/-!
# Passes over instances

What a converging pass over an instance's resource asks and changes, by what the platform answers.
Read `Instance.looks_found` first: a look asks for the instance and for what it exports, takes over
open settings and compares. A creation is one write, and leaves the name of the instance on the
resource if it goes well.
-/

namespace FleetOperator

/-- An instance is shown in the status exactly if it amounts to a specification. -/
theorem InstanceObservation.ofPlatform?_eq_ok {bundle : Platform.InstanceBundle}
    {canonical : InstanceSpec} (h : InstanceSpec.ofPlatform? bundle = .ok canonical) :
    ∃ seen, InstanceObservation.ofPlatform? bundle = .ok seen := by
  unfold InstanceObservation.ofPlatform?
  rw [h]
  exact ⟨_, rfl⟩

namespace Instance

variable (rules : NormalizeRules)

/-- A look at an instance that amounts to no specification fails, and takes nothing over. -/
theorem reflect_unreadable (cr : Instance) {bundle : Platform.InstanceBundle} {error : Error}
    (h : InstanceSpec.ofPlatform? bundle = .error error) :
    cr.reflect rules bundle = (cr, .error error) := by
  simp only [reflect, h]

section

variable (cr : Instance) {bundle : Platform.InstanceBundle} {canonical : InstanceSpec}
  (hcanonical : InstanceSpec.ofPlatform? bundle = .ok canonical)
include hcanonical

/-- The specification after a look is the one after late initialization, and the name stays. -/
theorem reflect_spec :
    (cr.reflect rules bundle).1.spec = (cr.spec.lateInitialize canonical).spec ∧
      (cr.reflect rules bundle).1.externalName? = cr.externalName? := by
  obtain ⟨seen, hseen⟩ := InstanceObservation.ofPlatform?_eq_ok hcanonical
  simp only [reflect, hcanonical, hseen]
  cases (cr.spec.lateInitialize canonical).error <;> exact ⟨rfl, rfl⟩

/-- A look that could take over the open settings tells whether the rest is up to date. -/
theorem reflect_ok (h : (cr.spec.lateInitialize canonical).error = none) :
    (cr.reflect rules bundle).2 =
      .ok (.present ((cr.spec.lateInitialize canonical).spec.isUpToDate rules canonical)) := by
  obtain ⟨seen, hseen⟩ := InstanceObservation.ofPlatform?_eq_ok hcanonical
  simp only [reflect, hcanonical, hseen, h]

/-- A look that could not take over the open settings fails. -/
theorem reflect_error {error : Error}
    (h : (cr.spec.lateInitialize canonical).error = some error) :
    (cr.reflect rules bundle).2 = .error error := by
  simp only [reflect, hcanonical, h]

end

variable {W : Type} (handler : Handler effects W)
  {s : Situation InstanceSpec InstanceObservation W}

/-- Without a name on the resource nothing is asked, and no instance is seen. -/
theorem looks_unnamed (h : s.resource.externalName? = none) :
    (External.inst rules).seen handler s = .ok .absent ∧
      (External.inst rules).looked handler s = s ∧
      (External.inst rules).looks handler s = [] := by
  simp only [External.seen, External.looked, External.looks, External.inst, observe, h]
  exact ⟨rfl, rfl, rfl⟩

/-- What follows the answer to a question for an instance. -/
def afterGet (rules : NormalizeRules) (cr : Instance) (name : String) :
    Except RemoteError Platform.Instance →
      Program effects (Instance × Except Error Observation)
  | .error (.notFound _) => return (cr, .ok .absent)
  | .error failure => return (cr, .error (.ofRemote failure))
  | .ok inst =>
    .ask (Effect.platform (.exportInstance name))
      fun answer : Except RemoteError Platform.Export ↦ .done (match answer with
        | .ok exported => cr.reflect rules { inst, exported }
        | .error failure => (cr, .error (.ofRemote failure)))

section

variable {handler}
variable {name : String} (hname : s.resource.externalName? = some name)
include hname

/-- With a name on the resource a look asks for the instance. -/
theorem observe_named : Instance.observe rules s.resource =
    .ask (Effect.platform (.getInstance name)) (afterGet rules s.resource name) := by
  simp only [observe, hname]
  show Program.ask _ _ = Program.ask _ _
  congr 1
  funext answer
  rcases answer with (_ | _ | _) | inst
  · rfl
  · rfl
  · rfl
  · show Program.ask _ _ = Program.ask _ _
    congr 1
    funext answer
    cases answer <;> rfl

/-- An instance that the platform does not know is none. -/
theorem looks_missing {what : String}
    (h : (handler (.platform (.getInstance name)) s.world).1 = .error (.notFound what)) :
    (External.inst rules).seen handler s = .ok .absent ∧
      (External.inst rules).looked handler s =
        { s with world := (handler (.platform (.getInstance name)) s.world).2 } ∧
      (External.inst rules).looks handler s = [.platform (.getInstance name)] := by
  simp only [External.seen, External.looked, External.looks, External.inst,
    observe_named rules hname, Program.run, Program.calls, h, afterGet]
  exact ⟨rfl, rfl, rfl⟩

/-- An instance that is read together with what it exports is reflected in the resource. -/
theorem looks_found {inst : Platform.Instance} {exported : Platform.Export}
    (hinst : (handler (.platform (.getInstance name)) s.world).1 = .ok inst)
    (hexported : (handler (.platform (.exportInstance name))
      (handler (.platform (.getInstance name)) s.world).2).1 = .ok exported) :
    (External.inst rules).seen handler s =
        (Instance.reflect rules s.resource { inst, exported }).2 ∧
      (External.inst rules).looked handler s =
        { resource := (Instance.reflect rules s.resource { inst, exported }).1
          world := (handler (.platform (.exportInstance name))
            (handler (.platform (.getInstance name)) s.world).2).2 } ∧
      (External.inst rules).looks handler s =
        [.platform (.getInstance name), .platform (.exportInstance name)] := by
  simp only [External.seen, External.looked, External.looks, External.inst,
    observe_named rules hname, Program.run, Program.calls, hinst, afterGet, hexported, and_self]

end

/-! ## Writes -/

section

variable {cr : Instance} {request : Platform.ApplyInstance}
  (hrequest : cr.spec.toRequest? = .ok request) (world : W)
include hrequest

/-- An update is one write. -/
theorem run_update :
    (update cr).run.run handler world =
        ((handler (.platform (.applyInstance request)) world).1.mapError Error.ofRemote,
          (handler (.platform (.applyInstance request)) world).2) ∧
      (update cr).run.calls handler world = [.platform (.applyInstance request)] := by
  have hok : ((Attempt.ofExcept cr.spec.toRequest?).run.run handler world).1 =
      .ok request := hrequest
  unfold update
  rw [Attempt.run_bind_ok hok, Attempt.calls_bind_ok hok]
  exact ⟨rfl, rfl⟩

/-- A creation is one write. If it goes well, the name of the instance is put on the resource. -/
theorem run_create :
    (create cr).run.run handler world =
        (((handler (.platform (.applyInstance request)) world).1.mapError Error.ofRemote).map
            fun _ ↦ cr.withExternalName request.id,
          (handler (.platform (.applyInstance request)) world).2) ∧
      (create cr).run.calls handler world = [.platform (.applyInstance request)] := by
  have hok : ((Attempt.ofExcept cr.spec.toRequest?).run.run handler world).1 =
      .ok request := hrequest
  unfold create
  rw [Attempt.run_bind_ok hok, Attempt.calls_bind_ok hok]
  simp only [Attempt.run_ofExcept, Attempt.calls_ofExcept, List.nil_append]
  cases hanswer : (handler (.platform (.applyInstance request)) world).1 with
  | error failure =>
      have hfailed : ((Attempt.platform (.applyInstance request)).run.run handler world).1 =
          .error (.ofRemote failure) := by
        rw [Attempt.run_platform, hanswer]
        rfl
      rw [Attempt.run_bind_error hfailed, Attempt.calls_bind_error hfailed]
      exact ⟨rfl, rfl⟩
  | ok value =>
      have hdone : ((Attempt.platform (.applyInstance request)).run.run handler world).1 =
          .ok value := by
        rw [Attempt.run_platform, hanswer]
        rfl
      rw [Attempt.run_bind_ok hdone, Attempt.calls_bind_ok hdone]
      exact ⟨rfl, rfl⟩

end

/-- Without a request nothing is written. -/
theorem run_unwritten {cr : Instance} {error : Error} (h : cr.spec.toRequest? = .error error)
    (world : W) :
    (create cr).run.run handler world = (.error error, world) ∧
      (create cr).run.calls handler world = [] ∧
      (update cr).run.run handler world = (.error error, world) ∧
      (update cr).run.calls handler world = [] := by
  have hfailed : ((Attempt.ofExcept cr.spec.toRequest?).run.run handler world).1 =
      .error error := h
  unfold create update
  rw [Attempt.run_bind_error hfailed, Attempt.calls_bind_error hfailed,
    Attempt.run_bind_error hfailed, Attempt.calls_bind_error hfailed]
  exact ⟨rfl, rfl, rfl, rfl⟩

end Instance

end FleetOperator
