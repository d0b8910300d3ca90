import FleetOperator.Proofs.Cluster.Scheme
import FleetOperator.Proofs.Instance.Scheme

/-!
# Writes do not oscillate

Clusters and instances are asked for by schemes in which what was stored changes nothing of what is
asked for. Read `writes_repeat_themselves` first: all writes of an undisturbed run are the same.
-/

namespace FleetOperator

/-- What was stored for a specification after late initialization changes nothing of what the
specification asks for when it is taken over in turn, for clusters and for instances. So all writes
of an undisturbed run of passes are the same, from whatever specification and platform it starts. -/
theorem writes_repeat_themselves :
    (∀ {desired first : ClusterSpec} {remote stored : Platform.Cluster}
      {m : Platform.ClusterManifest},
      desired.lateInitialize (.ofPlatform remote desired) = { spec := first } →
      first.toManifest? = .ok m → stored.declared = m.toCluster.declared →
      ∃ second, first.lateInitialize (.ofPlatform stored first) = { spec := second } ∧
        second.toManifest? = .ok m) ∧
    (∀ {desired first canonical : InstanceSpec} {remote stored : Platform.InstanceBundle}
      {request : Platform.ApplyInstance},
      InstanceSpec.ofPlatform? remote = .ok canonical →
      desired.lateInitialize canonical = { spec := first } →
      first.toRequest? = .ok request → stored.inst.declared = request.toBundle.inst →
      stored.exported = request.toBundle.exported →
      ∃ reported second, InstanceSpec.ofPlatform? stored = .ok reported ∧
        first.lateInitialize reported = { spec := second } ∧ second.toRequest? = .ok request) ∧
    (∀ {W : Type} {handler : Handler effects W} {holdings : Holdings W Platform.Cluster}
      {policy : PollPolicy} {instanceId : String}
      {start s : Situation ClusterSpec ClusterObservation W} {trace : List Effect},
      holdings.KeepsClusters handler instanceId → holdings.calm start.world →
      Undisturbed (External.cluster policy instanceId) handler holdings start trace s →
      ∀ effect ∈ trace, ∀ other ∈ trace, effect.isWrite → other.isWrite → effect = other) ∧
    (∀ {W : Type} {handler : Handler effects W} {holdings : Holdings W Platform.InstanceBundle}
      {rules : NormalizeRules} {start s : Situation InstanceSpec InstanceObservation W}
      {trace : List Effect},
      holdings.KeepsInstances handler → holdings.calm start.world →
      Undisturbed (External.inst rules) handler holdings start trace s →
      ∀ effect ∈ trace, ∀ other ∈ trace, effect.isWrite → other.isWrite → effect = other) := by
  refine ⟨?_, ?_, ?_, ?_⟩
  · intro desired first remote stored m _ hmanifest hstored
    exact ⟨first.settled, ClusterSpec.lateInitialize_stored first hmanifest hstored,
      (ClusterSpec.toManifest?_settled first).trans hmanifest⟩
  · rintro desired first canonical remote ⟨inst, exported⟩ request - - hrequest hinst rfl
    obtain ⟨reported, hreported, hinit, -⟩ := InstanceSpec.stored_of_request hrequest hinst
    exact ⟨reported, first.settled, hreported, hinit,
      (InstanceSpec.toRequest?_settled first).trans hrequest⟩
  · intro W handler holdings policy instanceId start s trace hkeeps hcalm hrun
    exact (Cluster.followed policy hkeeps).writes_agree (Cluster.scheme_lawful instanceId) hcalm hrun
  · intro W handler holdings rules start s trace hkeeps hcalm hrun
    exact (Instance.followed rules hkeeps).writes_agree Instance.scheme_lawful hcalm hrun

/-- A cluster on the platform that is described in another way than its resource says. -/
def disputedRemote : Platform.Cluster where
  name := "prod"
  description := "theirs"
  «namespace» := "argo"
  data := { size := 3 }

/-- A resource with an empty kustomization, which every pass writes, beside that cluster. -/
def disputedCluster : Situation ClusterSpec ClusterObservation World where
  resource := {
    metadata := { annotations := some (.ofList [(externalNameKey, "prod")]) }
    spec := { name := "prod", properties := { data := { kustomization := some "{}" } } } }
  world := { platform := { clusters := .ofList [("prod", disputedRemote)] } }

/-- The specification of the resource with the settings of that cluster taken over. -/
def disputedSpec : ClusterSpec :=
  (disputedCluster.resource.spec.lateInitialize
    (.ofPlatform disputedRemote disputedCluster.resource.spec)).spec

/-- An instance on the platform of another version than its resource says. -/
def outdatedRemote : Platform.InstanceBundle where
  inst := {
    name := "prod", version := "v2.12.0"
    settings := some { Platform.InstanceSettings.unset with subdomain := "prod" } }
  exported := {}

/-- A resource beside that instance. -/
def outdatedInstance : Situation InstanceSpec InstanceObservation World where
  resource := {
    metadata := { annotations := some (.ofList [(externalNameKey, "prod")]) }
    spec := { name := "prod", argocd := some { spec := { version := "v2.13.1" } } } }
  world := { platform := {
    instances := .ofList [("prod", outdatedRemote.inst)]
    exported := .ofList [("prod", outdatedRemote.exported)] } }

/-- What that instance amounts to. -/
def outdatedSpec : InstanceSpec where
  name := "prod"
  argocd := some (.ofPlatform outdatedRemote.inst)

/-- The namespace and the size of the disputed cluster, and the subdomain of the outdated instance,
are taken over and stay in what is asked for. Two passes over the cluster write twice, and the
same. -/
theorem writes_repeat_themselves_disputed :
    (∃ m second, disputedSpec.toManifest? = .ok m ∧ m.metadata.namespace = "argo" ∧
      disputedSpec.lateInitialize (.ofPlatform m.toCluster disputedSpec) = { spec := second } ∧
      second.toManifest? = .ok m) ∧
    (∃ request reported second,
      (outdatedInstance.resource.spec.lateInitialize outdatedSpec).spec.toRequest? = .ok request ∧
        request.argocd.spec.settings.subdomain = "prod" ∧
        InstanceSpec.ofPlatform? request.toBundle = .ok reported ∧
        (outdatedInstance.resource.spec.lateInitialize outdatedSpec).spec.lateInitialize reported =
          { spec := second } ∧
        second.toRequest? = .ok request) ∧
    (let once := (External.cluster {} "argo").calls World.answer disputedCluster
      let again := (External.cluster {} "argo").calls World.answer
        ((External.cluster {} "argo").after World.answer disputedCluster)
      (∃ write ∈ once, write.isWrite) ∧ (∃ write ∈ again, write.isWrite) ∧
        ∀ effect ∈ [] ++ once ++ again, ∀ other ∈ [] ++ once ++ again,
          effect.isWrite → other.isWrite → effect = other) ∧
    (let once := (External.inst {}).calls World.answer outdatedInstance
      let again := (External.inst {}).calls World.answer
        ((External.inst {}).after World.answer outdatedInstance)
      (∃ write ∈ once, write.isWrite) ∧
        ∀ effect ∈ [] ++ once ++ again, ∀ other ∈ [] ++ once ++ again,
          effect.isWrite → other.isWrite → effect = other) := by
  obtain ⟨hclusters, hinstances, hclusterRuns, hinstanceRuns⟩ := writes_repeat_themselves
  refine ⟨?_, ?_, ⟨by decide +kernel, by decide +kernel, ?_⟩, ⟨by decide +kernel, ?_⟩⟩
  · have hinit : disputedCluster.resource.spec.lateInitialize
        (.ofPlatform disputedRemote disputedCluster.resource.spec) = { spec := disputedSpec } := rfl
    have hmanifest : disputedSpec.toManifest? = .ok (disputedSpec.manifest (some (.object []))) :=
      ClusterSpec.toManifest?_eq_ok.2 ⟨_, by decide +kernel, rfl⟩
    obtain ⟨second, hsecond, hsame⟩ := hclusters hinit hmanifest rfl
    exact ⟨_, second, hmanifest, by decide +kernel, hsecond, hsame⟩
  · have hcanonical : InstanceSpec.ofPlatform? outdatedRemote = .ok outdatedSpec := rfl
    have hinit : outdatedInstance.resource.spec.lateInitialize outdatedSpec =
        { spec := (outdatedInstance.resource.spec.lateInitialize outdatedSpec).spec } := rfl
    obtain ⟨request, hrequest, hsubdomain⟩ : ∃ request,
        (outdatedInstance.resource.spec.lateInitialize outdatedSpec).spec.toRequest? = .ok request ∧
          request.argocd.spec.settings.subdomain = "prod" := ⟨_, rfl, rfl⟩
    obtain ⟨reported, second, hreported, hsecond, hsame⟩ :=
      hinstances hcanonical hinit hrequest
        (rfl : request.toBundle.inst.declared = request.toBundle.inst) rfl
    exact ⟨request, reported, second, hrequest, hsubdomain, hreported, hsecond, hsame⟩
  · exact hclusterRuns (World.keepsClusters "argo") ⟨rfl, fun _ ↦ rfl⟩ (.pass (.pass .start))
  · refine hinstanceRuns World.keepsInstances ⟨rfl, rfl, fun name ↦ ?_⟩ (.pass (.pass .start))
    simp only [outdatedInstance, Dict.get?_ofList, List.reverse_cons, List.reverse_nil,
      List.nil_append, Dict.find]
    split <;> rfl

end FleetOperator
