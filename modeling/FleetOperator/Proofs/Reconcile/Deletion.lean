import FleetOperator.Proofs.Reconcile.WriteBack

/-!
# Reconciling a deletion

When a resource that is being deleted is let go. Read `drive_deletes` first: the patch that removes
the finalizer is sent only after a retiring pass went well and all that it changed was written back,
and a reconciliation that does not send it fails.
-/

namespace FleetOperator

variable {σ ω : Type}

namespace External

/-- What a retiring pass does once it has seen the remote object. -/
def remove (external : External σ ω) (cr : Resource σ ω) :
    Except Error Observation → Program effects (Resource σ ω × Except Error Outcome)
  | .error error => return (cr, .error error)
  | .ok observation => do
    let cr := cr.record .deleting
    if !observation.isPresent then return (cr, .ok .noOp)
    else
      match ← (external.delete cr).run with
      | .ok () => return (cr, .ok .deleted)
      | .error error => return (cr, .error error)

/-- A retiring pass looks at the remote object and removes what it has seen. -/
theorem retire_eq (external : External σ ω) (cr : Resource σ ω) :
    external.retire cr = (do
      let seen ← external.observe cr
      external.remove seen.1 seen.2) := rfl

variable {external : External σ ω} {cr live : Resource σ ω} {exchanged : List (Exchange effects)}

/-- A removal asks what a deletion asks. -/
theorem remove_asks {asked : Effect → Prop}
    (hdelete : Program.Asks (I := effects) asked (external.delete (cr.record .deleting)).run)
    (seen : Except Error Observation) : (external.remove cr seen).Asks asked := by
  cases seen with
  | error error => trivial
  | ok observation =>
      simp only [remove]
      split
      · trivial
      · refine Program.Asks.bind hdelete ?_
        rintro (error | value) <;> trivial

/-- A retiring pass asks what a look and a deletion ask. -/
theorem retire_asks {asked : Effect → Prop} (hlook : (external.observe cr).Asks asked)
    (hdelete : ∀ cr, Program.Asks (I := effects) asked (external.delete cr).run) :
    (external.retire cr).Asks asked :=
  Program.Asks.bind hlook fun _ ↦ remove_asks (hdelete _) _

/-- A retiring pass that goes well saw no remote object, or it saw one and deleted it. -/
theorem retire_runs_ok {outcome : Outcome}
    (h : (external.retire cr).Runs exchanged (live, .ok outcome)) :
    ∃ looking looked observation, (external.observe cr).Runs looking (looked, .ok observation) ∧
      ((observation.isPresent = false ∧ exchanged = looking) ∨
        (observation.isPresent = true ∧ ∃ deleting, exchanged = looking ++ deleting ∧
          Program.Runs (I := effects) (external.delete (looked.record .deleting)).run deleting
            (.ok ()))) := by
  rw [retire_eq] at h
  obtain ⟨looking, ⟨looked, seen⟩, rest, hlook, hrest, rfl⟩ := Program.runs_bind_iff.1 h
  cases seen with
  | error error =>
      obtain ⟨-, hresult⟩ := Program.runs_pure_iff.1 hrest
      simp at hresult
  | ok observation =>
      refine ⟨looking, looked, observation, hlook, ?_⟩
      simp only [remove] at hrest
      split at hrest
      · next habsent =>
        obtain ⟨rfl, -⟩ := Program.runs_pure_iff.1 hrest
        exact .inl ⟨by simpa using habsent, List.append_nil _⟩
      · next hpresent =>
        obtain ⟨deleting, deleted, last, hdelete, hdone, rfl⟩ := Program.runs_bind_iff.1 hrest
        cases deleted with
        | error error =>
            obtain ⟨-, hresult⟩ := Program.runs_pure_iff.1 hdone
            simp at hresult
        | ok value =>
            obtain ⟨rfl, -⟩ := Program.runs_pure_iff.1 hdone
            exact .inr ⟨by simpa using hpresent, deleting, by simp, hdelete⟩

end External

variable [DecidableEq σ] [DecidableEq ω] {kind : Kind σ ω} {cr : Resource σ ω}
  {exchanged : List (Exchange effects)}

/-- The pass of a reconciliation. -/
def passOver (external : Except Error (External σ ω)) (cr : Resource σ ω) :
    Program effects (Resource σ ω × Except Error Outcome) :=
  match external with
  | .error error => pure (cr, .error error)
  | .ok external => if cr.isDeleting then external.retire cr else external.converge cr

/-- What follows a pass: it is written back, and its result stands unless that fails. -/
def writeBack (kind : Kind σ ω) (cr : Resource σ ω) (passed : Resource σ ω × Except Error Outcome) :
    Program effects (Except Error Outcome) := do
  match ← (persist kind cr (passed.1.markSynced passed.2)).run, passed.2 with
  | .error error, .ok _ => return .error error
  | _, _ => return passed.2

theorem syncPass_eq (kind : Kind σ ω) (cr : Resource σ ω) (external : Except Error (External σ ω)) :
    (syncPass kind cr external).run = passOver external cr >>= writeBack kind cr := by
  cases external with
  | error error => rfl
  | ok external =>
      simp only [syncPass, passOver]
      split <;> rfl

/-- A pass is run and written back, and goes well only if both do. -/
theorem syncPass_runs {external : Except Error (External σ ω)} {result : Except Error Outcome}
    (h : Program.Runs (I := effects) (syncPass kind cr external).run exchanged result) :
    ∃ passing live passed writing written, (passOver external cr).Runs passing (live, passed) ∧
      Program.Runs (I := effects) (persist kind cr (live.markSynced passed)).run writing written ∧
      exchanged = passing ++ writing ∧
      ∀ outcome, result = .ok outcome → passed = .ok outcome ∧ written = .ok () := by
  rw [syncPass_eq] at h
  obtain ⟨passing, ⟨live, passed⟩, rest, hpass, hrest, rfl⟩ := Program.runs_bind_iff.1 h
  obtain ⟨writing, written, last, hwrite, hdone, rfl⟩ := Program.runs_bind_iff.1 hrest
  refine ⟨passing, live, passed, writing, written, hpass, hwrite, ?_⟩
  rcases written with error | ⟨⟩ <;> rcases passed with failure | outcome <;>
    obtain ⟨rfl, rfl⟩ := Program.runs_pure_iff.1 hdone <;> simp

omit [DecidableEq σ] [DecidableEq ω] in
/-- A step whose outcome is told asks what the step asks, and then for the publication of an event
at most. -/
theorem withEvent_runs {step : Attempt Outcome} {result : Except Error Outcome}
    (h : Program.Runs (I := effects) (withEvent kind cr step).run exchanged result) :
    ∃ working telling, Program.Runs (I := effects) step.run working result ∧
      exchanged = working ++ telling ∧
      ∀ exchange ∈ telling, ∃ event, exchange.call = .publish event := by
  have htold : ∀ (event : Event), Program.Asks (I := effects)
      (fun effect ↦ ∃ event, effect = .publish event) (publish event) :=
    fun event ↦ ⟨⟨event, rfl⟩, fun _ ↦ trivial⟩
  unfold withEvent at h
  obtain ⟨working, worked, rest, hwork, hrest, rfl⟩ := Program.runs_bind_iff.1 h
  refine ⟨working, rest, ?_⟩
  cases worked with
  | ok outcome =>
      dsimp only at hrest
      split at hrest
      · obtain ⟨telling, value, last, hpublish, hdone, rfl⟩ := Program.runs_bind_iff.1 hrest
        obtain ⟨rfl, rfl⟩ := Program.runs_pure_iff.1 hdone
        exact ⟨hwork, rfl, by simpa using (htold _).runs hpublish⟩
      · obtain ⟨rfl, rfl⟩ := Program.runs_pure_iff.1 hrest
        exact ⟨hwork, rfl, by simp⟩
  | error error =>
      obtain ⟨telling, value, last, hpublish, hdone, rfl⟩ := Program.runs_bind_iff.1 hrest
      obtain ⟨rfl, rfl⟩ := Program.runs_pure_iff.1 hdone
      exact ⟨hwork, rfl, by simpa using (htold _).runs hpublish⟩

/-- A reconciliation of a deletion is a pass whose outcome is told, and then the removal of the
finalizer. -/
theorem drive_deleting (hdeleting : cr.isDeleting = true) (hfinalizer : cr.hasFinalizer = true)
    (requeue : Duration) (external : Except Error (External σ ω)) :
    drive kind requeue cr external = (do
      let outcome ← withEvent kind cr (syncPass kind cr external)
      let _ ← Resource.removeFinalizer kind cr
      count (.reconciliations kind.name outcome.text) 1
      return .awaitChange) := by
  simp [drive, hdeleting, hfinalizer]

/-- A reconciliation of a deletion either fails without the removal of the finalizer, or the pass
went well and the removal follows. -/
theorem drive_runs (hdeleting : cr.isDeleting = true) (hfinalizer : cr.hasFinalizer = true)
    {requeue : Duration} {external : Except Error (External σ ω)} {result : Except Error Action}
    (h : Program.Runs (I := effects) (drive kind requeue cr external).run exchanged result) :
    ∃ told worked ending,
      Program.Runs (I := effects) (withEvent kind cr (syncPass kind cr external)).run told worked ∧
      exchanged = told ++ ending ∧
      ((ending = [] ∧ ∃ error, result = .error error) ∨
        ∃ outcome removal counting, worked = .ok outcome ∧ ending = removal :: counting ∧
          removal.call.removesFinalizer = true ∧
          ∀ exchange ∈ counting, exchange.call.removesFinalizer = false) := by
  rw [drive_deleting hdeleting hfinalizer] at h
  rcases Attempt.runs_bind_iff.1 h with
    ⟨error, hfailed, rfl⟩ | ⟨told, outcome, ending, hworked, hending, rfl⟩
  · exact ⟨exchanged, _, [], hfailed, by simp, .inl ⟨rfl, error, rfl⟩⟩
  · -- After the pass a patch of the finalizers is sent at most once, and then only counted.
    refine ⟨told, _, ending, hworked, rfl, ?_⟩
    rcases Attempt.runs_bind_iff.1 hending with
      ⟨error, hfailed, rfl⟩ | ⟨removing, removed, counting, hremoved, hcounted, rfl⟩
    · rcases Resource.removeFinalizer_runs hfinalizer hfailed with
        ⟨hnone, -⟩ | ⟨removal, rfl, hremoves⟩
      · exact .inl ⟨hnone, error, rfl⟩
      · exact .inr ⟨outcome, removal, [], rfl, rfl, hremoves, by simp⟩
    · rcases Resource.removeFinalizer_runs hfinalizer hremoved with
        ⟨-, error, herror⟩ | ⟨removal, rfl, hremoves⟩
      · simp at herror
      · have hcounts : Program.Asks (I := effects) (fun effect ↦ effect.removesFinalizer = false)
            (do
              count (.reconciliations kind.name outcome.text) 1
              return Action.awaitChange : Attempt Action).run :=
          Attempt.asks_bind ⟨rfl, fun _ ↦ trivial⟩ fun _ ↦ trivial
        exact .inr ⟨outcome, removal, counting, rfl, rfl, hremoves, hcounts.runs hcounted⟩

/-- Whether exchanges are those of a retiring pass that went well, and further ones those of the
patches that were needed to write it back, each of them accepted. -/
def Retired (kind : Kind σ ω) (external : External σ ω) (cr : Resource σ ω)
    (passing writing : List (Exchange effects)) : Prop :=
  ∃ live outcome, (external.retire cr).Runs passing (live, .ok outcome) ∧
    kind.Applied (neededPatches kind cr (live.markSynced (.ok outcome))) writing

section

variable {α : Type} {p : α → Prop} {first rest before after : List α} {y : α}

/-- An element of a kind comes after a part without any. -/
theorem exists_middle (hfirst : ∀ a ∈ first, ¬ p a) (hy : p y)
    (h : first ++ rest = before ++ y :: after) :
    ∃ between, before = first ++ between ∧ rest = between ++ y :: after := by
  rcases List.append_eq_append_iff.1 h with ⟨between, hbefore, hrest⟩ | ⟨between, hsplit, hafter⟩
  · exact ⟨between, hbefore, hrest⟩
  · cases between with
    | nil => exact ⟨[], by simpa using hsplit.symm, by simpa using hafter.symm⟩
    | cons a between =>
        obtain ⟨rfl, -⟩ := List.cons.inj hafter
        exact absurd hy (hfirst y (by simp [hsplit]))

/-- Only one part can stand before the only element of a kind. -/
theorem eq_of_append_cons {x : α} (hfirst : ∀ a ∈ first, ¬ p a) (hrest : ∀ a ∈ rest, ¬ p a)
    (hy : p y) (h : first ++ x :: rest = before ++ y :: after) : before = first := by
  obtain ⟨between, rfl, hbetween⟩ := exists_middle hfirst hy h
  cases between with
  | nil => exact List.append_nil _
  | cons a between =>
      obtain ⟨-, rfl⟩ := List.cons.inj hbetween
      exact absurd hy (hrest y (by simp))

end

/-- The patch that removes the finalizer of a resource that is being deleted is sent only after a
retiring pass went well and was written back, and a reconciliation that does not send it fails. -/
theorem drive_deletes (hdeleting : cr.isDeleting = true) (hfinalizer : cr.hasFinalizer = true)
    {requeue : Duration} {external : Except Error (External σ ω)}
    (hquiet : (passOver external cr).Asks fun effect : Effect ↦ effect.removesFinalizer = false)
    {result : Except Error Action}
    (h : Program.Runs (I := effects) (drive kind requeue cr external).run exchanged result) :
    (∀ before removal after, exchanged = before ++ removal :: after →
      removal.call.removesFinalizer = true →
        ∃ known passing writing telling, external = .ok known ∧
          before = passing ++ writing ++ telling ∧ Retired kind known cr passing writing ∧
          ∀ exchange ∈ telling, ∃ event, exchange.call = .publish event) ∧
      ((∀ exchange ∈ exchanged, exchange.call.removesFinalizer = false) →
        ∃ error, result = .error error) := by
  obtain ⟨told, worked, ending, hworked, rfl, hending⟩ := drive_runs hdeleting hfinalizer h
  obtain ⟨working, telling, hstep, rfl, htelling⟩ := withEvent_runs hworked
  obtain ⟨passing, live, passed, writing, written, hpass, hwrite, rfl, hok⟩ := syncPass_runs hstep
  -- Neither the pass, nor writing it back, nor telling its outcome touches the finalizers.
  have hkeeps : ∀ exchange ∈ passing ++ writing ++ telling,
      exchange.call.removesFinalizer = false := by
    intro exchange hexchange
    rcases List.mem_append.1 hexchange with hexchange | hexchange
    · rcases List.mem_append.1 hexchange with hexchange | hexchange
      · exact hquiet.runs hpass exchange hexchange
      · obtain ⟨request, hneeded, heq⟩ := (persist_asks kind cr _).runs hwrite exchange hexchange
        rw [heq]
        exact removesFinalizer_of_needed hneeded
    · obtain ⟨event, heq⟩ := htelling exchange hexchange
      rw [heq]
      rfl
  rcases hending with ⟨rfl, error, rfl⟩ | ⟨outcome, sent, counting, rfl, rfl, hsent, hcounting⟩
  · refine ⟨fun before removal after heq hremoves ↦ ?_, fun _ ↦ ⟨error, rfl⟩⟩
    rw [List.append_nil] at heq
    have hmem : removal ∈ passing ++ writing ++ telling := by rw [heq]; simp
    exact absurd (hkeeps removal hmem) (by simp [hremoves])
  · refine ⟨fun before removal after heq hremoves ↦ ?_, fun hnone ↦ ?_⟩
    · -- So the removal is the one after the pass, and all before it belongs to the pass.
      obtain rfl := eq_of_append_cons (p := fun exchange : Exchange effects ↦
        exchange.call.removesFinalizer = true) (by simpa using hkeeps) (by simpa using hcounting)
        hremoves heq
      obtain ⟨rfl, rfl⟩ := hok outcome rfl
      cases external with
      | error error =>
          obtain ⟨-, hpassed⟩ := Program.runs_pure_iff.1 hpass
          simp at hpassed
      | ok known =>
          simp only [passOver, hdeleting, if_true] at hpass
          exact ⟨known, passing, writing, telling, rfl, rfl,
            ⟨live, outcome, hpass, persist_runs_ok hwrite⟩, htelling⟩
    · exact absurd (hnone sent (by simp)) (by simp [hsent])

end FleetOperator
