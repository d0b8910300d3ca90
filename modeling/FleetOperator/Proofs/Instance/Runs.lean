import FleetOperator.Proofs.Instance.Passes
import FleetOperator.Proofs.Runs

/-!
# What is asked about instances

The questions and answers of looking at an instance, creating, changing and deleting it, in any
world. Read `Instance.Look` first: it lists all that can happen in a look. Only the platform's word
that it does not know the instance is taken for its absence.
-/

namespace FleetOperator

/-- Late initialization does not change the name that a specification asks for. -/
theorem InstanceSpec.name_lateInitialize (desired observed : InstanceSpec) :
    (desired.lateInitialize observed).spec.name = desired.name := by
  unfold lateInitialize
  split
  · dsimp only
    split <;> rfl
  · rfl

namespace Instance

variable {rules : NormalizeRules} {cr : Instance} {exchanged : List (Exchange effects)}

/-- All that can happen in a look at the instance behind a resource: the resource carries no name,
the platform does not know the instance, the instance or what it exports cannot be read, or both are
read and reflected. -/
inductive Look (rules : NormalizeRules) (cr : Instance) :
    List (Exchange effects) → Instance × Except Error Observation → Prop
  | unnamed (hname : cr.externalName? = none) : Look rules cr [] (cr, .ok .absent)
  | unknown {name : String} (hname : cr.externalName? = some name) (what : String) :
      Look rules cr [⟨.platform (.getInstance name), .error (.notFound what)⟩] (cr, .ok .absent)
  | unread {name : String} (hname : cr.externalName? = some name) (failure : RemoteError)
      (hfailure : failure.isNotFound = false) :
      Look rules cr [⟨.platform (.getInstance name), .error failure⟩]
        (cr, .error (.ofRemote failure))
  | unexported {name : String} (hname : cr.externalName? = some name) (inst : Platform.Instance)
      (failure : RemoteError) :
      Look rules cr [⟨.platform (.getInstance name), .ok inst⟩,
        ⟨.platform (.exportInstance name), .error failure⟩] (cr, .error (.ofRemote failure))
  | read {name : String} (hname : cr.externalName? = some name) (bundle : Platform.InstanceBundle) :
      Look rules cr [⟨.platform (.getInstance name), .ok bundle.inst⟩,
        ⟨.platform (.exportInstance name), .ok bundle.exported⟩] (cr.reflect rules bundle)

/-- A run of a look is one of these. -/
theorem observe_runs {looked : Instance × Except Error Observation}
    (h : (observe rules cr).Runs exchanged looked) : Look rules cr exchanged looked := by
  cases hname : cr.externalName? with
  | none =>
      simp only [observe, hname] at h
      obtain ⟨rfl, rfl⟩ := Program.runs_pure_iff.1 h
      exact .unnamed hname
  | some name =>
      rw [observe_named (s := ⟨cr, ()⟩) rules hname] at h
      obtain ⟨answer, rest, rfl, hrest⟩ := Program.runs_ask_iff.1 h
      rcases answer with (what | what | detail) | inst
      · obtain ⟨rfl, rfl⟩ := Program.runs_pure_iff.1 hrest
        exact .unknown hname what
      · obtain ⟨rfl, rfl⟩ := Program.runs_pure_iff.1 hrest
        exact .unread hname _ rfl
      · obtain ⟨rfl, rfl⟩ := Program.runs_pure_iff.1 hrest
        exact .unread hname _ rfl
      · obtain ⟨answer, last, rfl, hdone⟩ := Program.runs_ask_iff.1 hrest
        cases hdone
        cases answer with
        | error failure => exact .unexported hname inst failure
        | ok exported => exact .read hname ⟨inst, exported⟩

/-- Reading an instance does not change the name that a resource asks for, nor the one that it
carries. -/
theorem reflect_names (rules : NormalizeRules) (cr : Instance) (bundle : Platform.InstanceBundle) :
    (cr.reflect rules bundle).1.spec.name = cr.spec.name ∧
      (cr.reflect rules bundle).1.externalName? = cr.externalName? := by
  cases hcanonical : InstanceSpec.ofPlatform? bundle with
  | error error =>
      rw [reflect_unreadable rules cr hcanonical]
      exact ⟨rfl, rfl⟩
  | ok canonical =>
      obtain ⟨hspec, hexternal⟩ := reflect_spec rules cr hcanonical
      exact ⟨by rw [hspec, InstanceSpec.name_lateInitialize], hexternal⟩

/-- A look asks for the instance with the name on the resource, and for what that exports. -/
theorem observe_asks {asked : Effect → Prop}
    (hread : ∀ name, cr.externalName? = some name → asked (.platform (.getInstance name)) ∧
      asked (.platform (.exportInstance name))) :
    (observe rules cr).Asks asked := by
  cases hname : cr.externalName? with
  | none =>
      simp only [observe, hname]
      trivial
  | some name =>
      rw [observe_named (s := ⟨cr, ()⟩) rules hname]
      refine ⟨(hread name hname).1, ?_⟩
      rintro ((what | what | detail) | inst)
      · trivial
      · trivial
      · trivial
      · exact ⟨(hread name hname).2, fun _ ↦ trivial⟩

/-- A look does not change the name that a resource asks for, nor the one that it carries. -/
theorem Look.names {looked : Instance × Except Error Observation}
    (h : Look rules cr exchanged looked) :
    looked.1.spec.name = cr.spec.name ∧ looked.1.externalName? = cr.externalName? := by
  cases h with
  | unnamed | unknown | unread | unexported => exact ⟨rfl, rfl⟩
  | read hname bundle => exact reflect_names rules cr bundle

/-- An instance that was read is there. -/
theorem reflect_isPresent {bundle : Platform.InstanceBundle} {observation : Observation}
    (h : (cr.reflect rules bundle).2 = .ok observation) : observation.isPresent = true := by
  cases hcanonical : InstanceSpec.ofPlatform? bundle with
  | error error =>
      rw [reflect_unreadable rules cr hcanonical] at h
      simp at h
  | ok canonical =>
      cases hinit : (cr.spec.lateInitialize canonical).error with
      | none =>
          rw [reflect_ok rules cr hcanonical hinit] at h
          obtain rfl := Except.ok.inj h
          rfl
      | some error =>
          rw [reflect_error rules cr hcanonical hinit] at h
          simp at h

/-- A deletion of a named instance goes well only if the platform did it. -/
theorem delete_runs_ok {name : String} (hname : cr.externalName? = some name)
    (h : Program.Runs (I := effects) (delete cr).run exchanged (.ok ())) :
    exchanged = [⟨.platform (.deleteInstance name), .ok ()⟩] := by
  simp only [delete, hname] at h
  obtain ⟨answer, rfl, hanswer⟩ := Attempt.runs_platform_iff.1 h
  rw [mapError_eq_ok.1 hanswer.symm]

/-- A deletion asks for the deletion of the instance with the name on the resource. -/
theorem delete_asks {asked : Effect → Prop}
    (hdelete : ∀ name, cr.externalName? = some name → asked (.platform (.deleteInstance name))) :
    Program.Asks (I := effects) asked (delete cr).run := by
  cases hname : cr.externalName? with
  | none =>
      simp only [delete, hname]
      trivial
  | some name =>
      simp only [delete, hname]
      exact ⟨hdelete name hname, fun _ ↦ trivial⟩

/-- A creation and a change ask for an application under the name that the specification gives. -/
theorem write_asks {asked : Effect → Prop}
    (happly : ∀ request : Platform.ApplyInstance, request.id = cr.spec.name →
      asked (.platform (.applyInstance request))) :
    Program.Asks (I := effects) asked (create cr).run ∧
      Program.Asks (I := effects) asked (update cr).run := by
  unfold create update
  cases hrequest : cr.spec.toRequest? with
  | error error => exact ⟨trivial, trivial⟩
  | ok request =>
      obtain ⟨argocd, stored, -, -, rfl⟩ := InstanceSpec.toRequest?_eq_ok.1 hrequest
      rw [Attempt.ofExcept_ok_bind, Attempt.ofExcept_ok_bind]
      exact ⟨Attempt.asks_bind ⟨happly _ rfl, fun _ ↦ trivial⟩ fun _ ↦ trivial,
        happly _ rfl, fun _ ↦ trivial⟩

end Instance

end FleetOperator
