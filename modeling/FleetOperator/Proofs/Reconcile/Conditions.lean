import FleetOperator.Proofs.Reconcile.Concurrent
import FleetOperator.Proofs.Reconcile.Looking

/-!
# Conditions over whole runs

What the conditions of a resource tell after any number of passes. Read `conditions_tell_last_pass`
first: whatever the platform answers, each type has one condition, the conditions of others are
kept, and the two of the operator tell how the last pass went. `Shown` and `Went` list what a look
and a pass can do to the conditions, and `Passes.tended` says what no run changes.
-/

namespace FleetOperator

/-! ## Setting conditions -/

namespace Condition

variable {condition : Condition} {conditions : List Condition}

/-- The types of the conditions with one more set are those from before and its own. -/
theorem mem_types_set {type : String} :
    type ∈ (condition.set conditions).map (·.type) ↔
      type = condition.type ∨ type ∈ conditions.map (·.type) := by
  induction conditions with
  | nil => simp [set]
  | cons first rest ih =>
      simp only [set]
      split
      · next hsame => simp [hsame]
      · rw [List.map_cons, List.mem_cons, ih, List.map_cons, List.mem_cons, or_left_comm]

/-- Setting a condition repeats no type. -/
theorem nodup_types_set (condition : Condition) (h : (conditions.map (·.type)).Nodup) :
    ((condition.set conditions).map (·.type)).Nodup := by
  induction conditions with
  | nil => simp [set]
  | cons first rest ih =>
      obtain ⟨hfresh, hrest⟩ : first.type ∉ rest.map (·.type) ∧ (rest.map (·.type)).Nodup :=
        List.nodup_cons.1 h
      simp only [set]
      split
      · next hsame => exact List.nodup_cons.2 ⟨by simpa only [← hsame] using hfresh, hrest⟩
      · next hother =>
        refine List.nodup_cons.2 ⟨fun hmem ↦ ?_, ih hrest⟩
        exact (mem_types_set.1 hmem).elim hother hfresh

/-- Setting a condition leaves the first one of another type as it is. -/
theorem find?_set_of_ne {type : String} (h : condition.type ≠ type) :
    (condition.set conditions).find? (·.type == type) =
      conditions.find? (·.type == type) := by
  rw [← List.head?_filter, ← List.head?_filter,
    filter_set_of_type (p := (· == type)) (by simpa using h)]

/-- The condition for the result of a pass. -/
def ofResult : Except Error Outcome → Condition
  | .ok _ => reconcileSuccess
  | .error error => reconcileError error.message

/-- Whether a condition is of a type that the operator does not set. -/
def isForeign (condition : Condition) : Bool :=
  condition.type != ready && condition.type != synced

/-- Whether conditions are older ones with nothing changed but those that the operator sets. -/
structure Tended (old new : List Condition) : Prop where
  distinct : (old.map (·.type)).Nodup → (new.map (·.type)).Nodup
  others : new.filter isForeign = old.filter isForeign

namespace Tended

theorem refl (conditions : List Condition) : Tended conditions conditions := ⟨id, rfl⟩

variable {old new : List Condition}

/-- Setting a condition that the operator sets. -/
theorem set (h : Tended old new) (hforeign : condition.isForeign = false) :
    Tended old (condition.set new) where
  distinct hold := nodup_types_set condition (h.distinct hold)
  others := (filter_set_of_type (p := fun type ↦ type != ready && type != synced) hforeign).trans
    h.others

theorem trans {last : List Condition} (h : Tended old new) (hlast : Tended new last) :
    Tended old last where
  distinct hold := hlast.distinct (h.distinct hold)
  others := hlast.others.trans h.others

end Tended

/-- Readiness is told by the operator. -/
theorem readiness_isForeign (code : Int32) : (readiness code).isForeign = false := by
  simp [isForeign, readiness_type]

end Condition

variable {σ ω : Type}

namespace Resource

/-- The condition of a type. -/
def condition? (cr : Resource σ ω) (type : String) : Option Condition :=
  cr.conditions.find? (·.type == type)

/-- Recording a condition sets it. -/
theorem conditions_record (cr : Resource σ ω) (condition : Condition) :
    (cr.record condition).conditions = condition.set cr.conditions := by
  cases hstatus : cr.status <;> simp [record, conditions, hstatus]

/-- Marking how a pass went sets the condition for its result. -/
theorem conditions_markSynced (cr : Resource σ ω) (result : Except Error Outcome) :
    (cr.markSynced result).conditions = (Condition.ofResult result).set cr.conditions := by
  cases result <;> exact conditions_record _ _

end Resource

/-! ## One pass -/

/-- What a pass aims at: that the remote object is as the user asks, or that it is gone. -/
inductive Aim where
  | converge
  | retire
deriving DecidableEq, Repr

/-- What a look does to the conditions, by what it sees: readiness is set by the health that it was
told if it sees a remote object, and else nothing is set. -/
inductive Shown (told : Int32 → Prop) (old : List Condition) :
    Except Error Observation → List Condition → Prop
  | failed (error : Error) : Shown told old (.error error) old
  | absent {observation : Observation} (h : observation.isPresent = false) :
      Shown told old (.ok observation) old
  | present {observation : Observation} {code : Int32} (h : observation.isPresent = true)
      (htold : told code) : Shown told old (.ok observation) ((Condition.readiness code).set old)

/-- What a pass does to the conditions, by its aim, what it sees and its result, before it is told
there how it went. -/
inductive Went (told : Int32 → Prop) (old : List Condition) :
    Aim → Except Error Observation → Except Error Outcome → List Condition → Prop
  | unseen (aim : Aim) (error : Error) : Went told old aim (.error error) (.error error) old
  | created {observation : Observation} (h : observation.isPresent = false) :
      Went told old .converge (.ok observation) (.ok .created) (Condition.creating.set old)
  | uncreated {observation : Observation} (h : observation.isPresent = false) (error : Error) :
      Went told old .converge (.ok observation) (.error error) old
  | present {observation : Observation} {code : Int32} (h : observation.isPresent = true)
      (htold : told code) {result : Except Error Outcome} (hresult : result ≠ .ok .created) :
      Went told old .converge (.ok observation) result ((Condition.readiness code).set old)
  | retired {observation : Observation} {shown : List Condition}
      (hshown : Shown told old (.ok observation) shown) {result : Except Error Outcome}
      (hresult : result ≠ .ok .created) :
      Went told old .retire (.ok observation) result (Condition.deleting.set shown)

/-- A look changes no conditions but those of the operator. -/
theorem Shown.tended {told : Int32 → Prop} {old new : List Condition}
    {seen : Except Error Observation} (h : Shown told old seen new) : Condition.Tended old new := by
  cases h with
  | failed | absent => exact .refl old
  | present _ _ => exact (Condition.Tended.refl old).set (Condition.readiness_isForeign _)

/-- A pass changes no conditions but those of the operator. -/
theorem Went.tended {told : Int32 → Prop} {old new : List Condition} {aim : Aim}
    {seen : Except Error Observation} {result : Except Error Outcome}
    (h : Went told old aim seen result new) : Condition.Tended old new := by
  cases h with
  | unseen | uncreated => exact .refl old
  | created => exact (Condition.Tended.refl old).set (by decide)
  | present => exact (Condition.Tended.refl old).set (Condition.readiness_isForeign _)
  | retired hshown => exact hshown.tended.set (by decide)

namespace External

/-- A pass with an aim. -/
def pass (external : External σ ω) :
    Aim → Resource σ ω → Program effects (Resource σ ω × Except Error Outcome)
  | .converge => external.converge
  | .retire => external.retire

/-- How the conditions of resources are treated: a look sets readiness by the health that it was
told, and a creation sets nothing. -/
structure Tends (external : External σ ω)
    (told : Resource σ ω → List (Exchange effects) → Int32 → Prop) : Prop where
  looked : ∀ {cr looking looked}, (external.observe cr).Runs looking looked →
    Shown (told cr looking) cr.conditions looked.2 looked.1.conditions
  created : ∀ {cr exchanged created},
    Program.Runs (I := effects) (external.create cr).run exchanged (.ok created) →
      created.conditions = cr.conditions

variable {external : External σ ω} {cr looked live : Resource σ ω}
  {looking exchanged : List (Exchange effects)} {seen : Except Error Observation}
  {result : Except Error Outcome}

/-- All that can happen when a converging pass acts on what it has seen: it saw nothing for an
error, or no remote object, which is then created or not, or one, whatever is then done with it. -/
inductive Acted (external : External σ ω) (looked : Resource σ ω) :
    Except Error Observation → Except Error Outcome → Resource σ ω → Prop
  | unseen (error : Error) : Acted external looked (.error error) (.error error) looked
  | created {observation : Observation} (h : observation.isPresent = false)
      {exchanged : List (Exchange effects)} {created : Resource σ ω}
      (hcreate : Program.Runs (I := effects) (external.create looked).run exchanged (.ok created)) :
      Acted external looked (.ok observation) (.ok .created) (created.record .creating)
  | uncreated {observation : Observation} (h : observation.isPresent = false) (error : Error) :
      Acted external looked (.ok observation) (.error error) looked
  | present {observation : Observation} (h : observation.isPresent = true)
      {result : Except Error Outcome} (hresult : result ≠ .ok .created) :
      Acted external looked (.ok observation) result looked

/-- A run of acting is one of these. -/
theorem act_runs (h : (external.act looked seen).Runs exchanged (live, result)) :
    Acted external looked seen result live := by
  cases seen with
  | error error =>
      obtain ⟨-, hdone⟩ := Program.runs_pure_iff.1 h
      cases hdone
      exact .unseen error
  | ok observation =>
      simp only [act] at h
      split at h
      · next habsent =>
        have habsent : observation.isPresent = false := by simpa using habsent
        obtain ⟨first, made, second, hcreate, hdone, -⟩ := Program.runs_bind_iff.1 h
        cases made with
        | error error =>
            obtain ⟨-, hdone⟩ := Program.runs_pure_iff.1 hdone
            cases hdone
            exact .uncreated habsent error
        | ok created =>
            obtain ⟨-, hdone⟩ := Program.runs_pure_iff.1 hdone
            cases hdone
            exact .created habsent hcreate
      · next hpresent =>
        have hpresent : observation.isPresent = true := by simpa using hpresent
        split at h
        · obtain ⟨first, changed, second, -, hdone, -⟩ := Program.runs_bind_iff.1 h
          cases changed <;>
          · obtain ⟨-, hdone⟩ := Program.runs_pure_iff.1 hdone
            cases hdone
            exact .present hpresent (by simp)
        · obtain ⟨-, hdone⟩ := Program.runs_pure_iff.1 h
          cases hdone
          exact .present hpresent (by simp)

/-- A removal creates nothing, and shows that it removes what it has seen unless it saw nothing for
an error. -/
theorem remove_runs (h : (external.remove looked seen).Runs exchanged (live, result)) :
    (∃ error, seen = .error error ∧ result = .error error ∧ live = looked) ∨
      (∃ observation, seen = .ok observation) ∧ result ≠ .ok .created ∧
        live = looked.record .deleting := by
  cases seen with
  | error error =>
      obtain ⟨-, hdone⟩ := Program.runs_pure_iff.1 h
      cases hdone
      exact .inl ⟨error, rfl, rfl, rfl⟩
  | ok observation =>
      refine .inr ⟨⟨observation, rfl⟩, ?_⟩
      simp only [remove] at h
      split at h
      · obtain ⟨-, hdone⟩ := Program.runs_pure_iff.1 h
        cases hdone
        exact ⟨by simp, rfl⟩
      · obtain ⟨first, deleted, second, -, hdone, -⟩ := Program.runs_bind_iff.1 h
        cases deleted <;>
        · obtain ⟨-, hdone⟩ := Program.runs_pure_iff.1 hdone
          cases hdone
          exact ⟨by simp, rfl⟩

variable {told : Resource σ ω → List (Exchange effects) → Int32 → Prop}

/-- What a pass does to the conditions is told by its look. -/
theorem Tends.pass_went (h : external.Tends told) {aim : Aim}
    (hrun : (external.pass aim cr).Runs exchanged (live, result)) :
    ∃ looking looked seen, looking <+: exchanged ∧
      (external.observe cr).Runs looking (looked, seen) ∧
      Went (told cr looking) cr.conditions aim seen result live.conditions := by
  cases aim with
  | converge =>
      rw [pass, converge_eq] at hrun
      obtain ⟨looking, ⟨looked, seen⟩, acting, hlook, hact, rfl⟩ := Program.runs_bind_iff.1 hrun
      refine ⟨looking, looked, seen, List.prefix_append _ _, hlook, ?_⟩
      have hshown := h.looked hlook
      generalize hnew : looked.conditions = new at hshown
      cases act_runs hact with
      | unseen error =>
          cases hshown
          exact hnew ▸ .unseen .converge error
      | created habsent hcreate =>
          rw [Resource.conditions_record, h.created hcreate]
          cases hshown with
          | absent => exact hnew ▸ .created habsent
          | present hpresent => simp [hpresent] at habsent
      | uncreated habsent error =>
          cases hshown with
          | absent => exact hnew ▸ .uncreated habsent error
          | present hpresent => simp [hpresent] at habsent
      | present hpresent hresult =>
          cases hshown with
          | absent habsent => simp [hpresent] at habsent
          | present _ htold => exact hnew ▸ .present hpresent htold hresult
  | retire =>
      rw [pass, retire_eq] at hrun
      obtain ⟨looking, ⟨looked, seen⟩, acting, hlook, hremove, rfl⟩ := Program.runs_bind_iff.1 hrun
      refine ⟨looking, looked, seen, List.prefix_append _ _, hlook, ?_⟩
      have hshown := h.looked hlook
      rcases remove_runs hremove with
        ⟨error, rfl, rfl, rfl⟩ | ⟨⟨observation, rfl⟩, hresult, rfl⟩
      · generalize live.conditions = new at hshown
        cases hshown
        exact .unseen .retire error
      · rw [Resource.conditions_record]
        exact .retired hshown hresult

end External

/-! ## Runs of passes -/

/-- What passes one after the other make of a resource. Each has one of the given remote objects and
an aim of its own, is answered whatever it may be, and is told in the conditions. In between others
may change anything but the conditions. -/
inductive Passes {ι : Type} (externals : ι → External σ ω) (start : Resource σ ω) :
    Resource σ ω → Prop
  | none : Passes externals start start
  | pass {before live : Resource σ ω} {exchanged : List (Exchange effects)}
      {result : Except Error Outcome} (h : Passes externals start before) (known : ι) (aim : Aim)
      (hrun : ((externals known).pass aim before).Runs exchanged (live, result)) :
      Passes externals start (live.markSynced result)
  | edited {before after : Resource σ ω} (h : Passes externals start before)
      (hconditions : after.conditions = before.conditions) : Passes externals start after

/-- A run changes no conditions but those of the operator. -/
theorem Passes.tended {ι : Type} {externals : ι → External σ ω}
    {told : ι → Resource σ ω → List (Exchange effects) → Int32 → Prop}
    (htends : ∀ known, (externals known).Tends (told known)) {start after : Resource σ ω}
    (h : Passes externals start after) :
    Condition.Tended start.conditions after.conditions := by
  induction h with
  | none => exact .refl _
  | @pass before live exchanged result _ known aim hrun ih =>
      obtain ⟨_, _, _, _, _, hwent⟩ := (htends known).pass_went hrun
      have hforeign : (Condition.ofResult result).isForeign = false := by cases result <;> rfl
      rw [Resource.conditions_markSynced]
      exact (ih.trans hwent.tended).set hforeign
  | edited _ hconditions ih => exact hconditions ▸ ih

/-- Whether readiness is what a pass tells of it, by its aim, what it saw and its result, or what it
was before if the pass tells nothing of it. -/
structure TellsReadiness (told : Int32 → Prop) (aim : Aim) (seen : Except Error Observation)
    (result : Except Error Outcome) (before after : Option Condition) : Prop where
  created : result = .ok .created → after = some .creating
  deleting : aim = .retire → (∃ observation, seen = .ok observation) → after = some .deleting
  present : aim = .converge →
    (∃ observation, seen = .ok observation ∧ observation.isPresent = true) →
      ∃ code, told code ∧ after = some (.readiness code)
  unchanged : result ≠ .ok .created →
    (∀ observation, seen = .ok observation → aim = .converge ∧ observation.isPresent = false) →
      after = before

/-- Whether the conditions of a resource tell how its last pass went: each type has one condition,
those of others are as they were in the beginning, the condition of the result is true exactly if
the pass went well and carries its error otherwise, and readiness is as the pass tells it. -/
structure TellsLastPass (told : Int32 → Prop) (aim : Aim) (seen : Except Error Observation)
    (result : Except Error Outcome) (start before after : Resource σ ω) : Prop where
  distinct : (after.conditions.map (·.type)).Nodup
  others : after.conditions.filter (·.isForeign) = start.conditions.filter (·.isForeign)
  synced : ∃ condition, after.condition? Condition.synced = some condition ∧
    (condition.status = "True" ↔ ∃ outcome, result = .ok outcome) ∧
    ∀ error, result = .error error →
      condition.status = "False" ∧ condition.message = some error.message
  readiness : TellsReadiness told aim seen result (before.condition? Condition.ready)
    (after.condition? Condition.ready)

/-- Readiness is as a pass tells it. -/
theorem Went.tellsReadiness {told : Int32 → Prop} {aim : Aim} {seen : Except Error Observation}
    {result : Except Error Outcome} {old new : List Condition}
    (h : Went told old aim seen result new) :
    TellsReadiness told aim seen result (old.find? (·.type == Condition.ready))
      (new.find? (·.type == Condition.ready)) := by
  cases h with
  | unseen => exact ⟨nofun, by simp, by simp, fun _ _ ↦ rfl⟩
  | @created observation habsent =>
      exact ⟨fun _ ↦ Condition.find?_set .creating old, nofun, by simp [habsent],
        fun hresult ↦ absurd rfl hresult⟩
  | @uncreated observation habsent =>
      exact ⟨nofun, nofun, by simp [habsent], fun _ _ ↦ rfl⟩
  | @present observation code hpresent htold result hresult =>
      have hfound := Condition.find?_set (.readiness code) old
      rw [Condition.readiness_type] at hfound
      exact ⟨fun hcreated ↦ absurd hcreated hresult, nofun, fun _ _ ↦ ⟨code, htold, hfound⟩,
        fun _ hnone ↦ by simp [hpresent] at hnone⟩
  | @retired observation shown hshown result hresult =>
      exact ⟨fun hcreated ↦ absurd hcreated hresult,
        fun _ _ ↦ Condition.find?_set .deleting shown, nofun, fun _ hnone ↦ by simp at hnone⟩

/-- After any run the conditions tell how the last pass went. -/
theorem External.Tends.tellsLastPass {ι : Type} {externals : ι → External σ ω}
    {told : ι → Resource σ ω → List (Exchange effects) → Int32 → Prop}
    (htends : ∀ known, (externals known).Tends (told known)) {start before live : Resource σ ω}
    (hdistinct : (start.conditions.map (·.type)).Nodup) (hpasses : Passes externals start before)
    (known : ι) {aim : Aim} {exchanged : List (Exchange effects)} {result : Except Error Outcome}
    (hrun : ((externals known).pass aim before).Runs exchanged (live, result)) :
    ∃ looking looked seen, looking <+: exchanged ∧
      ((externals known).observe before).Runs looking (looked, seen) ∧
      TellsLastPass (told known before looking) aim seen result start before
        (live.markSynced result) := by
  obtain ⟨looking, looked, seen, hprefix, hlook, hwent⟩ := (htends known).pass_went hrun
  refine ⟨looking, looked, seen, hprefix, hlook, ?_⟩
  have htended := (Passes.pass hpasses known aim hrun).tended htends
  have hsynced : (Condition.ofResult result).type = Condition.synced := by cases result <;> rfl
  have hready : (live.markSynced result).condition? Condition.ready =
      live.conditions.find? (·.type == Condition.ready) := by
    rw [Resource.condition?, Resource.conditions_markSynced]
    exact Condition.find?_set_of_ne (by rw [hsynced]; decide)
  constructor
  · exact htended.distinct hdistinct
  · exact htended.others
  · refine ⟨.ofResult result, ?_, ?_⟩
    · rw [Resource.condition?, Resource.conditions_markSynced, ← hsynced]
      exact Condition.find?_set _ _
    · cases result with
      | ok outcome => exact ⟨by simp [Condition.ofResult, Condition.reconcileSuccess], nofun⟩
      | error error =>
          refine ⟨by simp [Condition.ofResult, Condition.reconcileError], ?_⟩
          rintro _ ⟨⟩
          exact ⟨rfl, rfl⟩
  · rw [hready]
    exact hwent.tellsReadiness

/-! ## Clusters and instances -/

namespace Cluster

/-- What a look at a cluster was told of its health. -/
def ToldHealth (instanceId : String) (cr : Cluster) (looking : List (Exchange effects))
    (code : Int32) : Prop :=
  ∃ canonical seen, Told instanceId cr looking canonical seen code

/-- How the conditions of clusters are treated. -/
theorem tends (policy : PollPolicy) (instanceId : String) :
    (External.cluster policy instanceId).Tends (ToldHealth instanceId) where
  looked {cr looking looked} hlook := by
    cases observe_runs hlook with
    | unnamed | unread => exact .absent rfl
    | read hname remote =>
        cases herror : (cr.spec.lateInitialize (.ofPlatform remote cr.spec)).error with
        | some error =>
            simp only [reflect, herror]
            exact .failed error
        | none =>
            rw [reflect_eq herror, Resource.observed_record]
            exact .present rfl ⟨_, _, told_of_read instanceId hname remote⟩
  created hcreate := by
    obtain ⟨name, rfl⟩ := (leaves policy instanceId).created hcreate
    rfl

end Cluster

namespace Instance

/-- What a look at an instance was told of its health. -/
def ToldHealth (cr : Instance) (looking : List (Exchange effects)) (code : Int32) : Prop :=
  ∃ canonical seen, Told cr looking canonical seen code

/-- How the conditions of instances are treated. -/
theorem tends (rules : NormalizeRules) : (External.inst rules).Tends ToldHealth where
  looked {cr looking looked} hlook := by
    cases observe_runs hlook with
    | unnamed | unknown => exact .absent rfl
    | unread | unexported => exact .failed _
    | read hname bundle =>
        cases hcanonical : InstanceSpec.ofPlatform? bundle with
        | error error =>
            rw [reflect_unreadable rules cr hcanonical]
            exact .failed error
        | ok canonical =>
            obtain ⟨seen, hseen⟩ := InstanceObservation.ofPlatform?_eq_ok hcanonical
            cases herror : (cr.spec.lateInitialize canonical).error with
            | some error =>
                simp only [reflect, hcanonical, herror]
                exact .failed error
            | none =>
                rw [reflect_eq hcanonical hseen herror, Resource.observed_record]
                exact .present rfl ⟨_, _, told_of_read hname hcanonical hseen⟩
  created hcreate := by
    obtain ⟨name, rfl⟩ := (leaves rules).created hcreate
    rfl

end Instance

/-- Whatever passes over a cluster or an instance are answered, and however many there were: if each
type had one condition in the beginning, then after a further pass the conditions tell how this one
went, which began with a look. -/
theorem conditions_tell_last_pass :
    (∀ {start before live : Cluster} {policy : PollPolicy} {instanceId : String} {aim : Aim}
        {exchanged : List (Exchange effects)} {result : Except Error Outcome},
      (start.conditions.map (·.type)).Nodup →
      Passes (fun known : PollPolicy × String ↦ External.cluster known.1 known.2) start before →
      ((External.cluster policy instanceId).pass aim before).Runs exchanged (live, result) →
        ∃ looking looked seen, looking <+: exchanged ∧
          (Cluster.observe instanceId before).Runs looking (looked, seen) ∧
          TellsLastPass (Cluster.ToldHealth instanceId before looking) aim seen result start before
            (live.markSynced result)) ∧
    ∀ {start before live : Instance} {rules : NormalizeRules} {aim : Aim}
        {exchanged : List (Exchange effects)} {result : Except Error Outcome},
      (start.conditions.map (·.type)).Nodup →
      Passes External.inst start before →
      ((External.inst rules).pass aim before).Runs exchanged (live, result) →
        ∃ looking looked seen, looking <+: exchanged ∧
          (Instance.observe rules before).Runs looking (looked, seen) ∧
          TellsLastPass (Instance.ToldHealth before looking) aim seen result start before
            (live.markSynced result) := by
  constructor
  · intro start before live policy instanceId aim exchanged result hdistinct hpasses hrun
    exact External.Tends.tellsLastPass
      (fun known : PollPolicy × String ↦ Cluster.tends known.1 known.2) hdistinct hpasses
      (policy, instanceId) hrun
  · intro start before live rules aim exchanged result hdistinct hpasses hrun
    exact External.Tends.tellsLastPass Instance.tends hdistinct hpasses rules hrun

/-- The resource of a cluster that is being created, with a condition of somebody else. -/
def audited : Cluster :=
  { watched with
    status := some { conditions := some [⟨"Audited", "True", none, none⟩, .creating] } }

/-- A world that holds the cluster, on a platform that deletes none. -/
def refusing : World :=
  { watchedWorld with
    platform.failures := .ofList [("delete_cluster", .transport "no connection")] }

/-- A cluster is seen and cannot be deleted later on, and an instance is created. -/
theorem conditions_tell_last_pass_refused :
    let converging := (External.cluster {} "argo").pass .converge audited
    let seen := converging.run World.answer watchedWorld
    let before := seen.1.1.markSynced seen.1.2
    let retiring := (External.cluster {} "argo").pass .retire before
    let refused := retiring.run World.answer refusing
    let creating := (External.inst {}).pass .converge watchedInstance
    let created := creating.run World.answer {}
    (audited.conditions.map (·.type)).Nodup ∧
      before.conditions = [⟨"Audited", "True", none, none⟩, .available, .reconcileSuccess] ∧
      (refused.1.1.markSynced refused.1.2).conditions =
        [⟨"Audited", "True", none, none⟩, .deleting,
          .reconcileError "Akuity API error: no connection"] ∧
      (∃ looking looked seen, looking <+: retiring.exchanges World.answer refusing ∧
        (Cluster.observe "argo" before).Runs looking (looked, seen) ∧
        TellsLastPass (Cluster.ToldHealth "argo" before looking) .retire seen refused.1.2 audited
          before (refused.1.1.markSynced refused.1.2)) ∧
      (watchedInstance.conditions.map (·.type)).Nodup ∧
      (created.1.1.markSynced created.1.2).conditions = [.creating, .reconcileSuccess] ∧
      ∃ looking looked seen, looking <+: creating.exchanges World.answer {} ∧
        (Instance.observe {} watchedInstance).Runs looking (looked, seen) ∧
        TellsLastPass (Instance.ToldHealth watchedInstance looking) .converge seen created.1.2
          watchedInstance watchedInstance (created.1.1.markSynced created.1.2) := by
  intro converging seen before retiring refused creating created
  have haudited : (audited.conditions.map (·.type)).Nodup := by decide
  have hwatched : (watchedInstance.conditions.map (·.type)).Nodup := by decide
  refine ⟨haudited, by decide +kernel, by decide +kernel, ?_, hwatched, by decide +kernel, ?_⟩
  · have hbefore : Passes (fun known : PollPolicy × String ↦ External.cluster known.1 known.2)
        audited before :=
      Passes.none.pass ({}, "argo") .converge
        (Program.runs_exchanges World.answer converging watchedWorld)
    exact conditions_tell_last_pass.1 haudited hbefore
      (Program.runs_exchanges World.answer retiring refusing)
  · exact conditions_tell_last_pass.2 hwatched .none
      (Program.runs_exchanges World.answer creating {})

end FleetOperator
