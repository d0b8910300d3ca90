import FleetOperator.Operator.World
import FleetOperator.Proofs.Bridge.Observation
import FleetOperator.Proofs.Cluster.Runs
import FleetOperator.Proofs.Drift.LateInit
import FleetOperator.Proofs.Instance.Runs

/-!
# Looking at remote objects

What a look at a remote object does to its resource. Read `looks_framed` first: a look only reads; it
leaves the resource alone if it finds nothing, and else it fills open settings, shows the object in
the status and tells its readiness, with all else kept; and as long as the platform answers the same
a further look sees the same and changes nothing. `FramedLook` says this for both kinds.
-/

namespace FleetOperator

/-! ## Conditions -/

namespace Condition

variable {condition : Condition} {conditions : List Condition}

/-- The first condition of a type is the one that was set. -/
theorem find?_set (condition : Condition) (conditions : List Condition) :
    (condition.set conditions).find? (·.type == condition.type) = some condition := by
  induction conditions with
  | nil => simp [set]
  | cons first rest ih =>
      simp only [set]
      split
      · simp
      · next hother =>
        rw [List.find?_cons_of_neg (by simpa using hother), ih]

/-- Setting a condition leaves those alone whose type is told apart from its own. -/
theorem filter_set_of_type {p : String → Bool} (h : p condition.type = false) :
    (condition.set conditions).filter (p ·.type) = conditions.filter (p ·.type) := by
  induction conditions with
  | nil => simp [set, h]
  | cons first rest ih =>
      simp only [set]
      split
      · next hsame => simp [hsame, h]
      · simp only [List.filter_cons, ih]

/-- The conditions of other types stay as they are. -/
theorem filter_set (condition : Condition) (conditions : List Condition) :
    (condition.set conditions).filter (·.type != condition.type) =
      conditions.filter (·.type != condition.type) :=
  filter_set_of_type (p := (· != condition.type)) (by simp)

/-- Setting a condition again changes nothing. -/
theorem set_set (condition : Condition) (conditions : List Condition) :
    condition.set (condition.set conditions) = condition.set conditions := by
  induction conditions with
  | nil => simp [set]
  | cons first rest ih =>
      simp only [set]
      split
      · simp [set]
      · next hother => simp only [set, if_neg hother, ih]

/-- Readiness is told by the condition of this type. -/
theorem readiness_type (code : Int32) : (readiness code).type = ready := by
  unfold readiness
  split <;> rfl

/-- Only the code of a healthy object tells readiness. -/
theorem readiness_status (code : Int32) :
    (readiness code).status = if code = 1 then "True" else "False" := by
  rw [readiness, healthyCode]
  split <;> rfl

end Condition

namespace Resource

variable {σ ω : Type}

/-- The conditions in the status of a resource. -/
def conditions (cr : Resource σ ω) : List Condition := (cr.status.bind (·.conditions)).getD []

/-- A resource that shows an observation and a condition has these and its other conditions in the
status. -/
theorem observed_record (cr : Resource σ ω) (seen : ω) (condition : Condition) :
    (cr.observed seen).record condition = { cr with
      status := some
        { atProvider := some seen, conditions := some (condition.set cr.conditions) } } := by
  cases hstatus : cr.status <;> simp [observed, record, conditions, hstatus]

/-- Showing the same again changes nothing. -/
theorem observed_record_twice (cr : Resource σ ω) (seen : ω) (condition : Condition) :
    (((cr.observed seen).record condition).observed seen).record condition =
      (cr.observed seen).record condition := by
  rw [observed_record cr, observed_record]
  simp only [conditions, Option.bind_some, Option.getD_some, Condition.set_set]

end Resource

variable {σ ω : Type} {exchanged : List (Exchange effects)}

/-- Whether an effect is a read of a cluster or an instance, or of what an instance exports. -/
def Effect.isLook : Effect → Bool
  | .platform (.getCluster _ _) | .platform (.getInstance _) | .platform (.exportInstance _) => true
  | _ => false

/-- Whether a resource reflects a remote object, given in the shape of a specification, as it is
shown, and by its health: the open slots of a table are filled, the status shows the object and its
readiness, and all else is as it was. -/
structure Reflected (table : FillTable σ) (canonical : σ) (seen : ω) (code : Int32)
    (before after : Resource σ ω) : Prop where
  metadata : after.metadata = before.metadata
  rest : table.rest after.spec = table.rest before.spec
  slots : ∀ slot ∈ table.slots, slot.Follows before.spec canonical after.spec
  observation : after.status.bind (·.atProvider) = some seen
  readiness : after.conditions.find? (·.type == Condition.ready) = some (.readiness code)
  ready : (after.conditions.find? (·.type == Condition.ready)).map (·.status) =
    some (if code = 1 then "True" else "False")
  others : after.conditions.filter (·.type != Condition.ready) =
    before.conditions.filter (·.type != Condition.ready)

/-- Whether a look is framed: it only reads, it leaves the resource alone if it finds nothing and lets
it reflect what it was told if it finds something, and the same look at the resource that it leaves
sees the same and changes nothing, as does any other one that is answered alike. -/
structure FramedLook (external : External σ ω) (table : FillTable σ)
    (told : List (Exchange effects) → σ → ω → Int32 → Prop) (cr : Resource σ ω)
    (exchanged : List (Exchange effects)) (looked : Resource σ ω × Except Error Observation) :
    Prop where
  reads : ∀ exchange ∈ exchanged, exchange.call.isLook = true
  absent : ∀ observation, looked.2 = .ok observation → observation.isPresent = false →
    looked.1 = cr
  present : ∀ observation, looked.2 = .ok observation → observation.isPresent = true →
    ∃ canonical seen code, told exchanged canonical seen code ∧
      Reflected table canonical seen code cr looked.1
  repeated : (external.observe looked.1).Runs exchanged looked
  settled : ∀ again relooked, (external.observe looked.1).Runs again relooked →
    Program.AnsweredAlike again exchanged → again = exchanged ∧ relooked = looked

/-- A resource whose open settings were filled and that shows the object reflects it. -/
theorem reflected_of_filled {table : FillTable σ} {fill : σ → σ → LateInitialized σ}
    (hfilled : table.FilledBy fill) {canonical : σ} {cr : Resource σ ω}
    (herror : (fill cr.spec canonical).error = none) (seen : ω) (code : Int32) :
    Reflected table canonical seen code cr
      (({ cr with spec := (fill cr.spec canonical).spec }.observed seen).record
        (.readiness code)) := by
  have hconditions : ∀ r : Resource σ ω, ((r.observed seen).record (.readiness code)).conditions =
      (Condition.readiness code).set r.conditions := by
    intro r
    rw [Resource.observed_record]
    rfl
  have htype := Condition.readiness_type code
  have hready : ∀ conditions : List Condition,
      ((Condition.readiness code).set conditions).find? (·.type == Condition.ready) =
        some (.readiness code) := by
    intro conditions
    rw [← htype]
    exact Condition.find?_set _ _
  constructor
  · rw [Resource.observed_record]
  · rw [Resource.observed_record]
    exact hfilled.rest cr.spec canonical
  · rw [Resource.observed_record]
    exact hfilled.filled cr.spec canonical herror
  · rw [Resource.observed_record]
    rfl
  · rw [hconditions, hready]
  · rw [hconditions, hready, Option.map_some, Condition.readiness_status]
  · rw [hconditions, ← htype]
    exact Condition.filter_set _ _

/-! ## Clusters -/

namespace Cluster

/-- Reflecting a cluster that could be taken over fills the specification and shows the cluster. -/
theorem reflect_eq {cr : Cluster} {remote : Platform.Cluster}
    (herror : (cr.spec.lateInitialize (.ofPlatform remote cr.spec)).error = none) :
    cr.reflect remote =
      (({ cr with spec := (cr.spec.lateInitialize (.ofPlatform remote cr.spec)).spec }.observed
          (ClusterObservation.ofPlatform remote)).record
            (.readiness (ClusterObservation.ofPlatform remote).healthStatus.code),
        .ok (.present ((cr.spec.lateInitialize (.ofPlatform remote cr.spec)).spec.isUpToDate
          (.ofPlatform remote cr.spec)))) := by
  simp only [reflect, herror]

/-- Reflecting a cluster again changes nothing. -/
theorem reflect_twice (cr : Cluster) (remote : Platform.Cluster) :
    (cr.reflect remote).1.reflect remote = cr.reflect remote := by
  have htwice := cr.spec.lateInitialize_twice (.ofPlatform remote cr.spec)
  have hspec := (reflect_spec cr remote).1
  -- What only the resource knows is not filled, so both times the same is taken over.
  have hcanonical : ClusterSpec.ofPlatform remote (cr.reflect remote).1.spec =
      .ofPlatform remote cr.spec := by
    rw [hspec]
    rfl
  cases herror : (cr.spec.lateInitialize (.ofPlatform remote cr.spec)).error with
  | some error =>
      simp only [reflect, herror] at hspec hcanonical ⊢
      simp only [hcanonical, htwice, herror]
  | none =>
      have hagain : ((cr.reflect remote).1.spec.lateInitialize
          (.ofPlatform remote (cr.reflect remote).1.spec)).error = none := by
        rw [hcanonical, hspec, htwice, herror]
      rw [reflect_eq hagain, hcanonical, hspec, htwice, ← hspec]
      refine Prod.ext ?_ ?_
      · show (((cr.reflect remote).1.observed _).record _) = (cr.reflect remote).1
        rw [reflect_eq herror]
        exact Resource.observed_record_twice _ _ _
      · rw [hspec, reflect_eq herror]

/-- What a look at a cluster was told: the cluster with the name on the resource, which is shown field
by field, and the code of its health. -/
inductive Told (instanceId : String) (cr : Cluster) :
    List (Exchange effects) → ClusterSpec → ClusterObservation → Int32 → Prop
  | intro {name : String} (hname : cr.externalName? = some name) (remote : Platform.Cluster)
      {seen : ClusterObservation} (hshown : remote.ShownAs seen) :
      Told instanceId cr [⟨.platform (.getCluster instanceId name), .ok remote⟩]
        (.ofPlatform remote cr.spec) seen (Platform.codeOf remote.healthStatus)

/-- The cluster that a look read is what it was told. -/
theorem told_of_read (instanceId : String) {cr : Cluster} {name : String}
    (hname : cr.externalName? = some name) (remote : Platform.Cluster) :
    Told instanceId cr [⟨.platform (.getCluster instanceId name), .ok remote⟩]
      (.ofPlatform remote cr.spec) (.ofPlatform remote)
      (ClusterObservation.ofPlatform remote).healthStatus.code := by
  have hshown := ClusterObservation.shownAs_ofPlatform remote
  rw [hshown.health.code]
  exact .intro hname remote hshown

/-- A look at a cluster is framed. -/
theorem framedLook {policy : PollPolicy} {instanceId : String} {cr : Cluster}
    {looked : Cluster × Except Error Observation}
    (hrun : (observe instanceId cr).Runs exchanged looked) :
    FramedLook (External.cluster policy instanceId) ClusterSpec.fillTable (Told instanceId cr) cr
      exchanged looked := by
  have hlook := observe_runs hrun
  have hrepeated : (observe instanceId looked.1).Runs exchanged looked := by
    cases hlook with
    | unnamed | unread => exact hrun
    | @read name hname remote =>
        have hnamed := (reflect_spec cr remote).2.trans hname
        rw [observe_named (s := ⟨(cr.reflect remote).1, ()⟩) hnamed]
        refine .ask _ ?_
        show (Program.done ((cr.reflect remote).1.reflect remote) : Program effects _).Runs _ _
        rw [reflect_twice]
        exact .done _
  constructor
  · have hasks : (observe instanceId cr).Asks (Effect.isLook · = true) :=
      observe_asks fun _ _ ↦ rfl
    exact hasks.runs hrun
  · intro observation hok habsent
    cases hlook with
    | unnamed | unread => rfl
    | read hname remote => exact absurd (reflect_isPresent hok) (by simp [habsent])
  · intro observation hok hpresent
    cases hlook with
    | unnamed | unread =>
        obtain rfl := Except.ok.inj hok
        cases hpresent
    | read hname remote =>
        cases herror : (cr.spec.lateInitialize (.ofPlatform remote cr.spec)).error with
        | some error =>
            rw [reflect_error herror] at hok
            cases hok
        | none =>
            rw [reflect_eq herror]
            exact ⟨_, _, _, told_of_read instanceId hname remote,
              reflected_of_filled ClusterSpec.fillTable_filled herror _ _⟩
  · exact hrepeated
  · exact fun again relooked hagain halike ↦ hrepeated.unique hagain halike

end Cluster

/-! ## Instances -/

namespace Instance

section

variable {rules : NormalizeRules} {cr : Instance} {bundle : Platform.InstanceBundle}
  {canonical : InstanceSpec} (hcanonical : InstanceSpec.ofPlatform? bundle = .ok canonical)
include hcanonical

/-- Reflecting an instance that could be taken over fills the specification and shows the
instance. -/
theorem reflect_eq {seen : InstanceObservation}
    (hseen : InstanceObservation.ofPlatform? bundle = .ok seen)
    (herror : (cr.spec.lateInitialize canonical).error = none) :
    cr.reflect rules bundle =
      (({ cr with spec := (cr.spec.lateInitialize canonical).spec }.observed seen).record
          (.readiness seen.healthStatus.code),
        .ok (.present ((cr.spec.lateInitialize canonical).spec.isUpToDate rules canonical))) := by
  simp only [reflect, hcanonical, hseen, herror]

end

/-- Reflecting an instance again changes nothing. -/
theorem reflect_twice (rules : NormalizeRules) (cr : Instance) (bundle : Platform.InstanceBundle) :
    (cr.reflect rules bundle).1.reflect rules bundle = cr.reflect rules bundle := by
  cases hcanonical : InstanceSpec.ofPlatform? bundle with
  | error error => rw [reflect_unreadable rules cr hcanonical, reflect_unreadable rules cr hcanonical]
  | ok canonical =>
      obtain ⟨seen, hseen⟩ := InstanceObservation.ofPlatform?_eq_ok hcanonical
      have htwice := cr.spec.lateInitialize_twice canonical
      have hspec := (reflect_spec rules cr hcanonical).1
      cases herror : (cr.spec.lateInitialize canonical).error with
      | some error =>
          simp only [reflect, hcanonical, herror, htwice]
      | none =>
          have hagain : ((cr.reflect rules bundle).1.spec.lateInitialize canonical).error = none := by
            rw [hspec, htwice, herror]
          rw [reflect_eq hcanonical hseen hagain, hspec, htwice, ← hspec]
          refine Prod.ext ?_ ?_
          · show (((cr.reflect rules bundle).1.observed _).record _) = (cr.reflect rules bundle).1
            rw [reflect_eq hcanonical hseen herror]
            exact Resource.observed_record_twice _ _ _
          · rw [hspec, reflect_eq hcanonical hseen herror]

/-- What a look at an instance was told: the instance with the name on the resource and what it
exports, which are shown field by field, and the code of its health. -/
inductive Told (cr : Instance) :
    List (Exchange effects) → InstanceSpec → InstanceObservation → Int32 → Prop
  | intro {name : String} (hname : cr.externalName? = some name) {bundle : Platform.InstanceBundle}
      {canonical : InstanceSpec} {seen : InstanceObservation}
      (hcanonical : InstanceSpec.ofPlatform? bundle = .ok canonical)
      (hshown : bundle.ShownAs canonical seen) :
      Told cr [⟨.platform (.getInstance name), .ok bundle.inst⟩,
        ⟨.platform (.exportInstance name), .ok bundle.exported⟩] canonical seen
        (Platform.codeOf bundle.inst.healthStatus)

/-- The instance that a look read is what it was told. -/
theorem told_of_read {cr : Instance} {name : String} (hname : cr.externalName? = some name)
    {bundle : Platform.InstanceBundle} {canonical : InstanceSpec} {seen : InstanceObservation}
    (hcanonical : InstanceSpec.ofPlatform? bundle = .ok canonical)
    (hseen : InstanceObservation.ofPlatform? bundle = .ok seen) :
    Told cr [⟨.platform (.getInstance name), .ok bundle.inst⟩,
      ⟨.platform (.exportInstance name), .ok bundle.exported⟩] canonical seen
      seen.healthStatus.code := by
  have hshown := InstanceObservation.shownAs_of_ofPlatform? hcanonical hseen
  rw [hshown.health.code]
  exact .intro hname hcanonical hshown

/-- A look at an instance is framed. -/
theorem framedLook {rules : NormalizeRules} {cr : Instance}
    {looked : Instance × Except Error Observation}
    (hrun : (observe rules cr).Runs exchanged looked) :
    FramedLook (External.inst rules) InstanceSpec.fillTable (Told cr) cr exchanged looked := by
  have hlook := observe_runs hrun
  have hrepeated : (observe rules looked.1).Runs exchanged looked := by
    cases hlook with
    | unnamed | unknown | unread | unexported => exact hrun
    | @read name hname bundle =>
        have hnamed := (reflect_names rules cr bundle).2.trans hname
        rw [observe_named (s := ⟨(cr.reflect rules bundle).1, ()⟩) rules hnamed]
        refine .ask _ (.ask _ ?_)
        show (Program.done ((cr.reflect rules bundle).1.reflect rules bundle) :
          Program effects _).Runs _ _
        rw [reflect_twice]
        exact .done _
  constructor
  · have hasks : (observe rules cr).Asks (Effect.isLook · = true) :=
      observe_asks fun _ _ ↦ ⟨rfl, rfl⟩
    exact hasks.runs hrun
  · intro observation hok habsent
    cases hlook with
    | unnamed | unknown | unread | unexported => rfl
    | read hname bundle => exact absurd (reflect_isPresent hok) (by simp [habsent])
  · intro observation hok hpresent
    cases hlook with
    | unnamed | unknown =>
        obtain rfl := Except.ok.inj hok
        cases hpresent
    | unread | unexported => cases hok
    | read hname bundle =>
        cases hcanonical : InstanceSpec.ofPlatform? bundle with
        | error error =>
            rw [reflect_unreadable rules cr hcanonical] at hok
            cases hok
        | ok canonical =>
            obtain ⟨seen, hseen⟩ := InstanceObservation.ofPlatform?_eq_ok hcanonical
            cases herror : (cr.spec.lateInitialize canonical).error with
            | some error =>
                rw [reflect_error rules cr hcanonical herror] at hok
                cases hok
            | none =>
                rw [reflect_eq hcanonical hseen herror]
                exact ⟨_, _, _, told_of_read hname hcanonical hseen,
                  reflected_of_filled InstanceSpec.fillTable_filled herror _ _⟩
  · exact hrepeated
  · exact fun again relooked hagain halike ↦ hrepeated.unique hagain halike

end Instance

/-- Every look at a cluster or an instance is framed, whatever the platform answers. -/
theorem looks_framed :
    (∀ {policy : PollPolicy} {instanceId : String} {cr : Cluster}
        {exchanged : List (Exchange effects)} {looked : Cluster × Except Error Observation},
      ((External.cluster policy instanceId).observe cr).Runs exchanged looked →
        FramedLook (External.cluster policy instanceId) ClusterSpec.fillTable
          (Cluster.Told instanceId cr) cr exchanged looked) ∧
      ∀ {rules : NormalizeRules} {cr : Instance}
        {exchanged : List (Exchange effects)} {looked : Instance × Except Error Observation},
      ((External.inst rules).observe cr).Runs exchanged looked →
        FramedLook (External.inst rules) InstanceSpec.fillTable (Instance.Told cr) cr exchanged
          looked :=
  ⟨fun hrun ↦ Cluster.framedLook hrun, fun hrun ↦ Instance.framedLook hrun⟩

/-- The resource of a cluster, with open settings and the condition of its last pass. -/
def watched : Cluster where
  metadata := { name := some "prod", annotations := some (.ofList [(externalNameKey, "prod")]) }
  spec := { name := "prod" }
  status := some { conditions := some [.reconcileSuccess] }

/-- The resource of an instance, with open settings. -/
def watchedInstance : Instance where
  metadata := { name := some "main", annotations := some (.ofList [(externalNameKey, "argo")]) }
  spec := { name := "argo", argocd := some {} }

/-- A world that holds the cluster and the instance. -/
def watchedWorld : World where
  platform := {
    clusters := .ofList [("prod",
      { id := "c-1", name := "prod", «namespace» := "akuity", healthStatus := some { code := 1 } })]
    instances := .ofList [("argo",
      { id := "i-1", name := "argo", version := "v2.13.1", healthStatus := some { code := 1 } })]
    exported := .ofList [("argo", {})] }

/-- A look at the cluster and one at the instance fill a setting, show what they were told and tell the
readiness. -/
theorem looks_framed_watched :
    let cluster := (External.cluster {} "argo").observe watched
    let inst := (External.inst {}).observe watchedInstance
    (cluster.run World.answer watchedWorld).1.2.toOption.any (·.isPresent) = true ∧
      (cluster.run World.answer watchedWorld).1.1.spec.namespace = some "akuity" ∧
      ((cluster.run World.answer watchedWorld).1.1.status.bind (·.atProvider)).map
          (fun seen ↦ (seen.id, seen.name, seen.healthStatus.code)) = some ("c-1", "prod", 1) ∧
      (cluster.run World.answer watchedWorld).1.1.conditions = [.reconcileSuccess, .available] ∧
      FramedLook (External.cluster {} "argo") ClusterSpec.fillTable (Cluster.Told "argo" watched)
        watched (cluster.exchanges World.answer watchedWorld)
        (cluster.run World.answer watchedWorld).1 ∧
      (inst.run World.answer watchedWorld).1.2.toOption.any (·.isPresent) = true ∧
      ((inst.run World.answer watchedWorld).1.1.status.bind (·.atProvider)).map
          (fun seen ↦ (seen.id, seen.name, seen.healthStatus.code)) = some ("i-1", "argo", 1) ∧
      (inst.run World.answer watchedWorld).1.1.conditions = [.available] ∧
      FramedLook (External.inst {}) InstanceSpec.fillTable (Instance.Told watchedInstance)
        watchedInstance (inst.exchanges World.answer watchedWorld)
        (inst.run World.answer watchedWorld).1 := by
  intro cluster inst
  refine ⟨by decide +kernel, by decide +kernel, by decide +kernel, by decide +kernel, ?_,
    by decide +kernel, by decide +kernel, by decide +kernel, ?_⟩
  · exact looks_framed.1 (Program.runs_exchanges World.answer cluster watchedWorld)
  · exact looks_framed.2 (Program.runs_exchanges World.answer inst watchedWorld)

end FleetOperator
