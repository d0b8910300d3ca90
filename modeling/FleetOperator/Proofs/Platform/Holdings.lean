import FleetOperator.Operator.World
import FleetOperator.Proofs.Cluster.Stored
import FleetOperator.Proofs.Program

/-!
# Platforms that hold what was applied

What is asked of a platform so that the operator can settle: it reports an object under its name the
way it was applied, a write that succeeds takes effect, and nothing else changes what it holds. Read
`Holdings.KeepsClusters` and `Holdings.KeepsInstances` first; the platform in memory keeps both, as
`World.keepsClusters` and `World.keepsInstances` state.
-/

namespace FleetOperator

/-- What a platform holds by name, and the worlds in which it does what it is asked to do. -/
structure Holdings (W κ : Type) where
  calm : W → Prop
  held : W → String → Option κ

/-- Whether an effect writes or deletes the cluster with a name. -/
def Effect.writesCluster (name : String) : Effect → Prop
  | .platform (.applyCluster _ manifest) => manifest.metadata.name = name
  | .platform (.deleteCluster _ own) => own = name
  | _ => False

/-- Whether an effect writes or deletes the instance with a name. -/
def Effect.writesInstance (name : String) : Effect → Prop
  | .platform (.applyInstance request) => request.id = name
  | .platform (.deleteInstance own) => own = name
  | _ => False

/-- Whether an effect changes the platform. -/
def Effect.isWrite : Effect → Prop
  | .platform request => request.isWrite = true
  | _ => False

instance (effect : Effect) : Decidable effect.isWrite :=
  match effect with
  | .platform request => inferInstanceAs (Decidable (request.isWrite = true))
  | .sleep _ | .instanceName _ | .install _ _ _ | .kube _ | .ownCluster | .workload _ _ |
    .publish _ | .count _ _ => inferInstanceAs (Decidable False)

/-- Whether a program leaves the platform as it is, whatever it is answered. -/
def Program.Quiet {α : Type} (program : Program effects α) : Prop :=
  program.Asks fun effect ↦ ¬ Effect.isWrite effect

/-- An effect that writes a cluster changes the platform. -/
theorem Effect.isWrite_of_writesCluster {name : String} {effect : Effect}
    (h : effect.writesCluster name) : effect.isWrite := by
  cases effect with
  | platform request => cases request <;> first | rfl | exact absurd h id
  | _ => exact absurd h id

namespace Platform

/-- An instance without what the platform says of it by itself: its identifier, its address, its
owner, its clusters and its status. -/
def Instance.declared (inst : Instance) : Instance :=
  { inst with
    id := "", hostname := "", clusterCount := 0, ownerOrganizationName := ""
    healthStatus := none, reconciliationStatus := none }

/-- The instance of a request together with what it exports, as far as it was asked for. -/
def ApplyInstance.toBundle (request : ApplyInstance) : InstanceBundle :=
  { inst := request.toInstance.declared, exported := request.toExport }

end Platform

namespace Holdings

variable {W : Type}

/-- A platform that keeps the clusters of an instance. A write that fails either took effect or
changed nothing. -/
structure KeepsClusters (holdings : Holdings W Platform.Cluster) (handler : Handler effects W)
    (instanceId : String) : Prop where
  calm_after : ∀ effect world, holdings.calm world → holdings.calm (handler effect world).2
  reads_held : ∀ world name object, holdings.calm world → holdings.held world name = some object →
    ∃ remote, (handler (.platform (.getCluster instanceId name)) world).1 = .ok remote ∧
      remote.declared = object
  reads_missing : ∀ world name, holdings.calm world → holdings.held world name = none →
    ∃ failure, (handler (.platform (.getCluster instanceId name)) world).1 = .error failure
  stores : ∀ world manifest, holdings.calm world →
    (handler (.platform (.applyCluster instanceId manifest)) world).1 = .ok () →
    holdings.held (handler (.platform (.applyCluster instanceId manifest)) world).2
      manifest.metadata.name = some manifest.toCluster.declared
  stores_or_not : ∀ world manifest, holdings.calm world →
    holdings.held (handler (.platform (.applyCluster instanceId manifest)) world).2
      manifest.metadata.name ∈
        [some manifest.toCluster.declared, holdings.held world manifest.metadata.name]
  frame : ∀ effect world name, holdings.calm world → ¬ effect.writesCluster name →
    holdings.held (handler effect world).2 name = holdings.held world name

/-- A platform that stores the clusters of an instance whatever else fails: a write that succeeds
takes effect, and nothing else changes what is held. -/
structure StoresClusters (holdings : Holdings W Platform.Cluster) (handler : Handler effects W)
    (instanceId : String) : Prop where
  stores : ∀ world manifest,
    (handler (.platform (.applyCluster instanceId manifest)) world).1 = .ok () →
    holdings.held (handler (.platform (.applyCluster instanceId manifest)) world).2
      manifest.metadata.name = some manifest.toCluster.declared
  frame : ∀ effect world name, ¬ effect.writesCluster name →
    holdings.held (handler effect world).2 name = holdings.held world name

/-- A platform that deletes the clusters of an instance: a deletion that fails either took effect or
changed nothing. -/
structure DeletesClusters (holdings : Holdings W Platform.Cluster) (handler : Handler effects W)
    (instanceId : String) : Prop where
  deletes : ∀ world name, holdings.calm world →
    (handler (.platform (.deleteCluster instanceId name)) world).1 = .ok () →
    holdings.held (handler (.platform (.deleteCluster instanceId name)) world).2 name = none
  deletes_or_not : ∀ world name, holdings.calm world →
    holdings.held (handler (.platform (.deleteCluster instanceId name)) world).2 name ∈
      [none, holdings.held world name]

/-- A platform that keeps instances. A write that fails either took effect or changed nothing. -/
structure KeepsInstances (holdings : Holdings W Platform.InstanceBundle)
    (handler : Handler effects W) : Prop where
  calm_after : ∀ effect world, holdings.calm world → holdings.calm (handler effect world).2
  reads_held : ∀ world name object, holdings.calm world → holdings.held world name = some object →
    ∃ inst, (handler (.platform (.getInstance name)) world).1 = .ok inst ∧
      inst.declared = object.inst
  exports_held : ∀ world name object, holdings.calm world →
    holdings.held world name = some object →
    (handler (.platform (.exportInstance name)) world).1 = .ok object.exported
  reads_missing : ∀ world name, holdings.calm world → holdings.held world name = none →
    ∃ what, (handler (.platform (.getInstance name)) world).1 = .error (.notFound what)
  stores : ∀ world request, holdings.calm world →
    (handler (.platform (.applyInstance request)) world).1 = .ok () →
    holdings.held (handler (.platform (.applyInstance request)) world).2 request.id =
      some request.toBundle
  stores_or_not : ∀ world request, holdings.calm world →
    holdings.held (handler (.platform (.applyInstance request)) world).2 request.id ∈
      [some request.toBundle, holdings.held world request.id]
  frame : ∀ effect world name, holdings.calm world → ¬ effect.writesInstance name →
    holdings.held (handler effect world).2 name = holdings.held world name

/-- A write of an object under a name, which either took effect or changed nothing. -/
structure Applied {κ : Type} (holdings : Holdings W κ) (name : String) (object : κ)
    (before after : W) : Prop where
  calm : holdings.calm after
  written : holdings.held after name ∈ [some object, holdings.held before name]
  others : ∀ other, other ≠ name → holdings.held after other = holdings.held before other

/-- Applying a cluster is a write of it. -/
theorem KeepsClusters.applied {holdings : Holdings W Platform.Cluster}
    {handler : Handler effects W} {instanceId : String}
    (hkeeps : holdings.KeepsClusters handler instanceId) {world : W} (hcalm : holdings.calm world)
    (m : Platform.ClusterManifest) :
    holdings.Applied m.metadata.name m.toCluster.declared world
      (handler (.platform (.applyCluster instanceId m)) world).2 where
  calm := hkeeps.calm_after _ _ hcalm
  written := hkeeps.stores_or_not world m hcalm
  others _ hother := hkeeps.frame _ _ _ hcalm (Ne.symm hother)

/-- Applying an instance is a write of it. -/
theorem KeepsInstances.applied {holdings : Holdings W Platform.InstanceBundle}
    {handler : Handler effects W} (hkeeps : holdings.KeepsInstances handler) {world : W}
    (hcalm : holdings.calm world) (request : Platform.ApplyInstance) :
    holdings.Applied request.id request.toBundle world
      (handler (.platform (.applyInstance request)) world).2 where
  calm := hkeeps.calm_after _ _ hcalm
  written := hkeeps.stores_or_not world request hcalm
  others _ hother := hkeeps.frame _ _ _ hcalm (Ne.symm hother)

/-- A quiet program leaves what is held as it is. -/
theorem KeepsClusters.run_quiet {holdings : Holdings W Platform.Cluster}
    {handler : Handler effects W} {instanceId : String}
    (hkeeps : holdings.KeepsClusters handler instanceId) {α : Type} {program : Program effects α}
    (hquiet : program.Quiet) {world : W} (hcalm : holdings.calm world) :
    holdings.calm (program.run handler world).2 ∧
      ∀ name, holdings.held (program.run handler world).2 name = holdings.held world name := by
  -- Every single effect of the program leaves all clusters as they are.
  refine Program.run_invariant
    (fun w ↦ holdings.calm w ∧ ∀ name, holdings.held w name = holdings.held world name)
    ?_ hquiet ⟨hcalm, fun _ ↦ rfl⟩
  rintro effect w hquiet ⟨hcalm, hsame⟩
  refine ⟨hkeeps.calm_after effect w hcalm, fun name ↦ ?_⟩
  rw [hkeeps.frame effect w name hcalm fun hwrites ↦
    hquiet (Effect.isWrite_of_writesCluster hwrites)]
  exact hsame name

/-- A quiet program leaves what is stored as it is. -/
theorem StoresClusters.run_quiet {holdings : Holdings W Platform.Cluster}
    {handler : Handler effects W} {instanceId : String}
    (hstores : holdings.StoresClusters handler instanceId) {α : Type} {program : Program effects α}
    (hquiet : program.Quiet) (world : W) (name : String) :
    holdings.held (program.run handler world).2 name = holdings.held world name := by
  refine Program.run_invariant (fun w ↦ holdings.held w name = holdings.held world name) ?_ hquiet
    rfl
  intro effect w hquiet hsame
  rw [hstores.frame effect w name fun hwrites ↦ hquiet (Effect.isWrite_of_writesCluster hwrites)]
  exact hsame

end Holdings

/-! ## The platform in memory -/

namespace Platform.Memory

/-- The instance with a name together with what it exports, as far as it was asked for. -/
def bundle? (m : Memory) (name : String) : Option InstanceBundle :=
  match m.instances.get? name, m.exported.get? name with
  | some inst, some exported => some { inst := inst.declared, exported }
  | _, _ => none

/-- No call changes which methods are made to fail. -/
theorem answer_failures (request : Request) (m : Memory) :
    (answer request m).2.failures = m.failures := by
  unfold answer
  split
  · rfl
  · cases request with
    | getCluster instanceId name =>
        simp only [serve, readCluster]
        split
        · split <;> rfl
        · rfl
    | _ => rfl

/-- An instance that is held is stored together with what it exports. -/
theorem bundle?_eq_some {m : Memory} {name : String} {bundle : InstanceBundle}
    (h : m.bundle? name = some bundle) : ∃ inst exported, m.instances.get? name = some inst ∧
      m.exported.get? name = some exported ∧ bundle = { inst := inst.declared, exported } := by
  unfold bundle? at h
  split at h
  · next inst exported hinst hexported => exact ⟨inst, exported, hinst, hexported, by simpa using h.symm⟩
  · simp at h

/-- A platform without scripted reads reads a cluster as it is stored. -/
theorem readCluster_stored {m : Memory} {name : String} (h : (m.reads.get? name).getD [] = []) :
    m.readCluster name = (find "cluster" m.clusters name, m) := by
  unfold readCluster
  split
  · next read rest heq =>
    rw [heq] at h
    simp at h
  · rfl

/-- Without scripted reads no call brings any. -/
theorem answer_reads {m : Memory} (h : ∀ name, (m.reads.get? name).getD [] = [])
    (request : Request) : (answer request m).2.reads = m.reads := by
  unfold answer
  split
  · rfl
  · cases request with
    | getCluster instanceId name => simp only [serve, readCluster_stored (h name)]
    | _ => rfl

/-- A call that does not write a cluster leaves it as it is. -/
theorem answer_clusters {request : Request} {name : String}
    (h : ¬ (Effect.platform request).writesCluster name) (m : Memory) :
    (answer request m).2.clusters.get? name = m.clusters.get? name := by
  unfold answer
  split
  · rfl
  · cases request with
    | getCluster instanceId own =>
        simp only [serve, readCluster]
        split
        · split <;> rfl
        · rfl
    | applyCluster instanceId manifest =>
        simp only [serve]
        exact Dict.get?_insert_ne _ _ h
    | deleteCluster instanceId own =>
        simp only [serve]
        rw [Dict.get?_erase, if_neg (Ne.symm h)]
    | _ => rfl

/-- A call that does not write an instance leaves it and its configuration as they are. -/
theorem answer_instances {request : Request} {name : String}
    (h : ¬ (Effect.platform request).writesInstance name) (m : Memory) :
    (answer request m).2.instances.get? name = m.instances.get? name ∧
      (answer request m).2.exported.get? name = m.exported.get? name := by
  unfold answer
  split
  · exact ⟨rfl, rfl⟩
  · cases request with
    | getCluster instanceId own =>
        simp only [serve, readCluster]
        split
        · split <;> exact ⟨rfl, rfl⟩
        · exact ⟨rfl, rfl⟩
    | applyInstance request =>
        simp only [serve]
        exact ⟨Dict.get?_insert_ne _ _ h, Dict.get?_insert_ne _ _ h⟩
    | deleteInstance own =>
        simp only [serve]
        rw [Dict.get?_erase, Dict.get?_erase, if_neg (Ne.symm h), if_neg (Ne.symm h)]
        exact ⟨rfl, rfl⟩
    | _ => exact ⟨rfl, rfl⟩

end Platform.Memory

namespace World

/-- The clusters of a world whose reads are neither scripted nor made to fail. -/
def clusters : Holdings World Platform.Cluster where
  calm world := world.platform.failures.get? "get_cluster" = none ∧
    ∀ name, (world.platform.reads.get? name).getD [] = []
  held world name := (world.platform.clusters.get? name).map (·.declared)

/-- The instances of a world whose reads are not made to fail and in which exactly the instances
export a configuration. -/
def instances : Holdings World Platform.InstanceBundle where
  calm world := world.platform.failures.get? "get_instance" = none ∧
    world.platform.failures.get? "export_instance" = none ∧
    ∀ name, (world.platform.exported.get? name).isSome =
      (world.platform.instances.get? name).isSome
  held world name := world.platform.bundle? name

/-- No effect other than a call to the platform changes the platform. -/
theorem answer_platform_eq {effect : Effect} (world : World)
    (h : ∀ request, effect ≠ .platform request) :
    (answer effect world).2.platform = world.platform := by
  cases effect with
  | platform request => exact absurd rfl (h request)
  | install spec manifests removing =>
      exact Program.run_invariant (fun w : World ↦ w.platform = world.platform)
        (fun _ _ _ hsame ↦ hsame) (Program.asks_true _) rfl
  | instanceName resource =>
      simp only [answer]
      split <;> rfl
  | publish event =>
      show (world.publish event).platform = world.platform
      simp only [World.publish, apply_ite World.platform, ite_self]
  | sleep _ | kube _ | ownCluster | workload _ _ | count _ _ => rfl

/-- What every call to the platform preserves of it is preserved by every effect. -/
theorem answer_platform_invariant (invariant : Platform.Memory → Prop)
    (hcall : ∀ request m, invariant m → invariant (Platform.Memory.answer request m).2)
    (effect : Effect) (world : World) (h : invariant world.platform) :
    invariant (answer effect world).2.platform := by
  by_cases hplatform : ∃ request, effect = .platform request
  · obtain ⟨request, rfl⟩ := hplatform
    exact hcall request world.platform h
  · rw [answer_platform_eq world fun request heq ↦ hplatform ⟨request, heq⟩]
    exact h

/-- The platform in memory stores the clusters of every instance. -/
theorem storesClusters (instanceId : String) : clusters.StoresClusters answer instanceId where
  stores world manifest hok := by
    change (Platform.Memory.answer (.applyCluster instanceId manifest) world.platform).1 = _ at hok
    show ((Platform.Memory.answer (.applyCluster instanceId manifest)
      world.platform).2.clusters.get? manifest.metadata.name).map _ = _
    unfold Platform.Memory.answer at hok ⊢
    split at hok
    · simp at hok
    · next hnone => simp [Platform.Memory.serve]
  frame effect world name h := by
    by_cases hplatform : ∃ request, effect = .platform request
    · obtain ⟨request, rfl⟩ := hplatform
      exact congrArg (Option.map Platform.Cluster.declared)
        (Platform.Memory.answer_clusters h world.platform)
    · simp only [clusters,
        answer_platform_eq world fun request heq ↦ hplatform ⟨request, heq⟩]

/-- The platform in memory keeps the clusters of every instance. -/
theorem keepsClusters (instanceId : String) : clusters.KeepsClusters answer instanceId where
  calm_after effect world h := by
    refine answer_platform_invariant (fun m ↦ m.failures.get? "get_cluster" = none ∧
      ∀ name, (m.reads.get? name).getD [] = []) ?_ effect world h
    intro request m ⟨hfailures, hreads⟩
    rw [Platform.Memory.answer_failures, Platform.Memory.answer_reads hreads]
    exact ⟨hfailures, hreads⟩
  reads_held world name object h hheld := by
    obtain ⟨remote, hremote, rfl⟩ := Option.map_eq_some_iff.1 hheld
    refine ⟨remote, ?_, rfl⟩
    show (Platform.Memory.answer (.getCluster instanceId name) world.platform).1 = _
    simp [Platform.Memory.answer, Platform.Request.method, h.1, Platform.Memory.serve,
      Platform.Memory.readCluster_stored (h.2 name), Platform.Memory.find, hremote]
  reads_missing world name h hheld := by
    have hmissing := Option.map_eq_none_iff.1 hheld
    refine ⟨.notFound ("cluster " ++ name), ?_⟩
    show (Platform.Memory.answer (.getCluster instanceId name) world.platform).1 = _
    simp [Platform.Memory.answer, Platform.Request.method, h.1, Platform.Memory.serve,
      Platform.Memory.readCluster_stored (h.2 name), Platform.Memory.find, hmissing]
  stores world manifest _ hok := (storesClusters instanceId).stores world manifest hok
  stores_or_not world manifest _ := by
    show ((Platform.Memory.answer (.applyCluster instanceId manifest)
      world.platform).2.clusters.get? manifest.metadata.name).map _ ∈ _
    unfold Platform.Memory.answer
    split
    · exact List.mem_cons_of_mem _ List.mem_cons_self
    · simp [Platform.Memory.serve]
  frame effect world name _ h := (storesClusters instanceId).frame effect world name h

/-- The platform in memory deletes the clusters of every instance. -/
theorem deletesClusters (instanceId : String) : clusters.DeletesClusters answer instanceId where
  deletes world name _ hok := by
    change (Platform.Memory.answer (.deleteCluster instanceId name) world.platform).1 = _ at hok
    show ((Platform.Memory.answer (.deleteCluster instanceId name)
      world.platform).2.clusters.get? name).map _ = _
    unfold Platform.Memory.answer at hok ⊢
    split at hok
    · simp at hok
    · next hnone => simp [Platform.Memory.serve, Dict.get?_erase]
  deletes_or_not world name _ := by
    show ((Platform.Memory.answer (.deleteCluster instanceId name)
      world.platform).2.clusters.get? name).map _ ∈ _
    unfold Platform.Memory.answer
    split
    · exact List.mem_cons_of_mem _ List.mem_cons_self
    · simp [Platform.Memory.serve, Dict.get?_erase]

/-- The platform in memory keeps instances. -/
theorem keepsInstances : instances.KeepsInstances answer where
  calm_after effect world h := by
    refine answer_platform_invariant (fun m ↦
      m.failures.get? "get_instance" = none ∧ m.failures.get? "export_instance" = none ∧
      ∀ name, (m.exported.get? name).isSome = (m.instances.get? name).isSome) ?_ effect world h
    intro request m ⟨hget, hexport, hpaired⟩
    rw [Platform.Memory.answer_failures]
    refine ⟨hget, hexport, fun name ↦ ?_⟩
    by_cases hwrites : (Effect.platform request).writesInstance name
    · unfold Platform.Memory.answer
      split
      · exact hpaired name
      · cases request with
        | applyInstance request =>
            obtain rfl : request.id = name := hwrites
            simp [Platform.Memory.serve]
        | deleteInstance own =>
            obtain rfl : own = name := hwrites
            simp [Platform.Memory.serve, Dict.get?_erase]
        | _ => exact absurd hwrites id
    · obtain ⟨hinst, hexported⟩ := Platform.Memory.answer_instances hwrites m
      rw [hinst, hexported]
      exact hpaired name
  reads_held world name object h hheld := by
    obtain ⟨inst, exported, hinst, -, rfl⟩ := Platform.Memory.bundle?_eq_some hheld
    refine ⟨inst, ?_, rfl⟩
    show (Platform.Memory.answer (.getInstance name) world.platform).1 = _
    simp [Platform.Memory.answer, Platform.Request.method, h.1, Platform.Memory.serve,
      Platform.Memory.find, hinst]
  exports_held world name object h hheld := by
    obtain ⟨inst, exported, -, hfound, rfl⟩ := Platform.Memory.bundle?_eq_some hheld
    show (Platform.Memory.answer (.exportInstance name) world.platform).1 = _
    simp [Platform.Memory.answer, Platform.Request.method, h.2.1, Platform.Memory.serve,
      Platform.Memory.find, hfound]
  reads_missing world name h hheld := by
    have hmissing : world.platform.instances.get? name = none := by
      cases hinst : world.platform.instances.get? name with
      | none => rfl
      | some inst =>
          have hpaired := h.2.2 name
          rw [hinst] at hpaired
          obtain ⟨exported, hexported⟩ := Option.isSome_iff_exists.1 hpaired
          simp [instances, Platform.Memory.bundle?, hinst, hexported] at hheld
    refine ⟨"instance " ++ name, ?_⟩
    show (Platform.Memory.answer (.getInstance name) world.platform).1 = _
    simp [Platform.Memory.answer, Platform.Request.method, h.1, Platform.Memory.serve,
      Platform.Memory.find, hmissing]
  stores world request _ hok := by
    change (Platform.Memory.answer (.applyInstance request) world.platform).1 = _ at hok
    show (Platform.Memory.answer (.applyInstance request) world.platform).2.bundle? request.id = _
    unfold Platform.Memory.answer at hok ⊢
    split at hok
    · simp at hok
    · next hnone =>
      simp only [Platform.Memory.serve, Platform.Memory.bundle?, Dict.get?_insert_self]
      rfl
  stores_or_not world request _ := by
    show (Platform.Memory.answer (.applyInstance request) world.platform).2.bundle? request.id ∈ _
    unfold Platform.Memory.answer
    split
    · exact List.mem_cons_of_mem _ List.mem_cons_self
    · simp [Platform.Memory.serve, Platform.Memory.bundle?, Platform.ApplyInstance.toBundle]
  frame effect world name _ h := by
    by_cases hplatform : ∃ request, effect = .platform request
    · obtain ⟨request, rfl⟩ := hplatform
      obtain ⟨hinst, hexported⟩ := Platform.Memory.answer_instances h world.platform
      show (Platform.Memory.answer request world.platform).2.bundle? name = _
      rw [Platform.Memory.bundle?, hinst, hexported]
      rfl
    · simp only [instances,
        answer_platform_eq world fun request heq ↦ hplatform ⟨request, heq⟩]

end World

end FleetOperator
