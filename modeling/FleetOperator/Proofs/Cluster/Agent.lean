import FleetOperator.Operator.World
import FleetOperator.Proofs.Cluster.Interrupted
import FleetOperator.Proofs.Cluster.Waiting
import FleetOperator.Proofs.Operator.Access
import FleetOperator.Proofs.Reconcile.Deletion

/-!
# Agents on clusters

When the operator reaches a cluster itself. Read `Cluster.agent_gated` first: a creation applies the
cluster before it does anything else, and installs the agent only with the text that was downloaded
for the cluster that a read has found settled; a deletion that is to remove the agent deletes the
cluster only after the agent was removed in the same way. `Cluster.Handled` lists all that can
happen when the manifests of an agent are applied or deleted.
-/

namespace FleetOperator

/-- The effects of waiting for a cluster: time passes, and the cluster is read. -/
inductive Effect.Waits (instanceId name : String) : Effect → Prop
  | sleep (delay : Duration) : Waits instanceId name (.sleep delay)
  | read : Waits instanceId name (.platform (.getCluster instanceId name))

/-- The effects of getting the manifests of a cluster's agent: the cluster is waited for, and
manifests are downloaded. -/
inductive Effect.Fetches (instanceId name : String) : Effect → Prop
  | waits {effect : Effect} (h : effect.Waits instanceId name) : Fetches instanceId name effect
  | download (id : String) : Fetches instanceId name (.platform (.getClusterManifests instanceId id))

/-- Getting manifests leaves the workload cluster alone and changes nothing on the platform. -/
theorem Effect.Fetches.quiet {instanceId name : String} {effect : Effect}
    (h : effect.Fetches instanceId name) :
    effect.reachesTarget = false ∧ ¬ effect.isWrite := by
  cases h with
  | waits h => cases h <;> exact ⟨rfl, by simp [isWrite, Platform.Request.isWrite]⟩
  | download id => exact ⟨rfl, by simp [isWrite, Platform.Request.isWrite]⟩

namespace Cluster

variable {policy : PollPolicy} {instanceId name : String} {cr : Cluster}
  {exchanged : List (Exchange effects)}

/-- Exchanges by which the manifests of a cluster's agent were got: the cluster was waited for until
a read found it settled, and the download for the cluster of that very read gave the text. -/
inductive Fetched (instanceId name : String) : List (Exchange effects) → String → Prop
  | intro {waiting : List (Exchange effects)} {cluster : Platform.Cluster}
      {deliveries : List Platform.Delivery} {text : String}
      (hwaiting : ∀ exchange ∈ waiting, exchange.call.Waits instanceId name)
      (hsettled : cluster.isSettled = true)
      (hcollected : Platform.collect deliveries = .ok text) :
      Fetched instanceId name (waiting ++
        [⟨.platform (.getCluster instanceId name), .ok cluster⟩,
          ⟨.platform (.getClusterManifests instanceId cluster.id), .ok deliveries⟩]) text

/-! ## Getting the manifests -/

/-- Whether exchanges end with a read of a cluster that was found settled. -/
def EndsSettled (instanceId name : String) (cluster : Platform.Cluster)
    (exchanged : List (Exchange effects)) : Prop :=
  cluster.isSettled = true ∧
    ∃ waiting, exchanged = waiting ++ [⟨.platform (.getCluster instanceId name), .ok cluster⟩]

/-- What stands before such exchanges does not matter. -/
theorem EndsSettled.after {cluster : Platform.Cluster}
    (h : EndsSettled instanceId name cluster exchanged) (first : List (Exchange effects)) :
    EndsSettled instanceId name cluster (first ++ exchanged) := by
  obtain ⟨hsettled, waiting, rfl⟩ := h
  exact ⟨hsettled, first ++ waiting, (List.append_assoc _ _ _).symm⟩

/-- A wait that ends with a cluster ends with a read that found it settled. -/
theorem waitFrom_runs_ok {left attempt : Nat} {last : RemoteError} {cluster : Platform.Cluster}
    (h : (waitFrom policy instanceId name left attempt last).Runs exchanged (.ok cluster)) :
    EndsSettled instanceId name cluster exchanged := by
  -- Induction on the attempts that are left, since each but the last one may be followed by others.
  induction left generalizing attempt last exchanged with
  | zero =>
      obtain ⟨-, hresult⟩ := Program.runs_pure_iff.1 h
      cases hresult
  | succ left ih =>
      obtain ⟨answer, rest, rfl, hrest⟩ := waitFrom_succ_runs_iff.1 h
      by_cases hdecisive : Decisive answer
      · rw [afterRead_of_decisive hdecisive] at hrest
        obtain ⟨rfl, rfl⟩ := Program.runs_pure_iff.1 hrest
        exact ⟨hdecisive, _, List.append_nil _⟩
      · rw [afterRead_of_not_decisive hdecisive] at hrest
        exact (ih hrest).after _

/-- Getting manifests goes well only in this way. -/
theorem agentManifests_runs_ok {text : String}
    (h : Program.Runs (I := effects) (agentManifests policy instanceId name).run exchanged
      (.ok text)) : Fetched instanceId name exchanged text := by
  obtain ⟨waiting, cluster, rest, hwait, hrest, rfl⟩ := Attempt.runs_bind_ok h
  obtain ⟨downloading, deliveries, last, hdownload, hcollect, rfl⟩ := Attempt.runs_bind_ok hrest
  obtain ⟨waited, found, ended, hwaited, hfound, rfl⟩ := Program.runs_bind_iff.1 hwait
  obtain ⟨rfl, hok⟩ := Program.runs_pure_iff.1 hfound
  obtain rfl := mapError_eq_ok.1 hok.symm
  obtain ⟨answer, rfl, hanswer⟩ := Attempt.runs_platform_iff.1 hdownload
  obtain rfl := mapError_eq_ok.1 hanswer.symm
  obtain ⟨rfl, hcollected⟩ := Attempt.runs_ofExcept_iff.1 hcollect
  obtain ⟨hsettled, before, rfl⟩ := waitFrom_runs_ok hwaited
  have hwaits : ∀ exchange ∈ before ++ [⟨.platform (.getCluster instanceId name), .ok cluster⟩],
      exchange.call.Waits instanceId name :=
    (waitFrom_asks .read .sleep policy policy.attempts 0 (unreconciled name)).runs hwaited
  have hintro := Fetched.intro (fun exchange hmem ↦ hwaits exchange (List.mem_append_left _ hmem))
    hsettled (mapError_eq_ok.1 hcollected.symm)
  simpa using hintro

/-- Getting manifests has no other effects, also where it fails. -/
theorem agentManifests_fetches (policy : PollPolicy) (instanceId name : String) :
    Program.Asks (I := effects) (Effect.Fetches instanceId name)
      (agentManifests policy instanceId name).run :=
  agentManifests_asks (.waits .read) (fun delay ↦ .waits (.sleep delay)) .download policy

/-- What manifests were got by are the effects of getting manifests. -/
theorem Fetched.fetches {text : String} (h : Fetched instanceId name exchanged text) :
    ∀ exchange ∈ exchanged, exchange.call.Fetches instanceId name := by
  obtain ⟨hwaiting, -, -⟩ := h
  intro exchange hmem
  simp only [List.mem_append, List.mem_cons, List.not_mem_nil, or_false] at hmem
  rcases hmem with hmem | rfl | rfl
  · exact .waits (hwaiting exchange hmem)
  · exact .waits .read
  · exact .download _

/-! ## Applying and deleting the manifests -/

/-- All that can happen when the manifests of the agent of a cluster are applied or deleted: they
cannot be got, or they are got and the cluster is reached with them. -/
inductive Handled (instanceId : String) (spec : ClusterSpec) (removing : Bool) :
    List (Exchange effects) → Except Error Nat → Prop
  | unfetched {fetching : List (Exchange effects)}
      (hfetching : ∀ exchange ∈ fetching, exchange.call.Fetches instanceId spec.name)
      (error : Error) : Handled instanceId spec removing fetching (.error error)
  | reached {fetching : List (Exchange effects)} {text : String}
      (hfetched : Fetched instanceId spec.name fetching text) (answer : Except Error Nat) :
      Handled instanceId spec removing (fetching ++ [⟨.install spec text removing, answer⟩]) answer

/-- A step that applies or deletes the manifests of an agent first either fails at that, or goes on
after it went well. -/
theorem handled_of_runs {α : Type} {spec : ClusterSpec} {removing : Bool} {next : Attempt α}
    {result : Except Error α}
    (h : Program.Runs (I := effects) (do
      let manifests ← agentManifests policy instanceId spec.name
      let _ ← Attempt.install spec manifests removing
      next : Attempt α).run exchanged result) :
    (∃ error, Handled instanceId spec removing exchanged (.error error) ∧
        result = .error error) ∨
      ∃ handling documents rest, Handled instanceId spec removing handling (.ok documents) ∧
        Program.Runs (I := effects) next.run rest result ∧ exchanged = handling ++ rest := by
  rcases Attempt.runs_bind_iff.1 h with
    ⟨error, hfailed, rfl⟩ | ⟨fetching, text, reaching, hfetch, hreach, rfl⟩
  · exact .inl ⟨error, .unfetched ((agentManifests_fetches _ _ _).runs hfailed) error, rfl⟩
  · have hfetched := agentManifests_runs_ok hfetch
    have hinstalled : ∀ {installing : List (Exchange effects)} {answer : Except Error Nat},
        Program.Runs (I := effects) (Attempt.install spec text removing).run installing answer →
        Handled instanceId spec removing (fetching ++ installing) answer := by
      intro installing answer hinstall
      obtain ⟨given, last, rfl, hlast⟩ := Program.runs_ask_iff.1 hinstall
      cases hlast
      exact .reached hfetched _
    rcases Attempt.runs_bind_iff.1 hreach with
      ⟨error, hfailed, rfl⟩ | ⟨installing, documents, rest, hinstall, hrest, rfl⟩
    · exact .inl ⟨error, hinstalled hfailed, rfl⟩
    · exact .inr ⟨fetching ++ installing, documents, rest, hinstalled hinstall, hrest,
        (List.append_assoc _ _ _).symm⟩

/-- Exchanges that go well when manifests are handled end with reaching the cluster. -/
theorem Handled.of_ok {spec : ClusterSpec} {removing : Bool} {documents : Nat}
    (h : Handled instanceId spec removing exchanged (.ok documents)) :
    ∃ fetching text, Fetched instanceId spec.name fetching text ∧
      exchanged = fetching ++ [⟨.install spec text removing, .ok documents⟩] := by
  cases h with
  | reached hfetched => exact ⟨_, _, hfetched, rfl⟩

/-- The cluster is reached at most once when its manifests are handled: in the end, with the text
that was got before. -/
theorem Handled.reaches_last {spec : ClusterSpec} {removing : Bool} {answer : Except Error Nat}
    (h : Handled instanceId spec removing exchanged answer)
    {before after : List (Exchange effects)} {exchange : Exchange effects}
    (hsplit : exchanged = before ++ exchange :: after)
    (hreaches : exchange.call.reachesTarget = true) :
    after = [] ∧ ∃ text, Fetched instanceId spec.name before text ∧
      exchange.call = .install spec text removing := by
  have hquiet : ∀ {fetching : List (Exchange effects)},
      (∀ exchange ∈ fetching, exchange.call.Fetches instanceId spec.name) →
      ∀ exchange ∈ fetching, ¬ exchange.call.reachesTarget = true :=
    fun hfetching exchange hmem ↦ by simp [(hfetching exchange hmem).quiet.1]
  cases h with
  | unfetched hfetching error =>
      exact absurd hreaches (hquiet hfetching exchange (by simp [hsplit]))
  | @reached fetching text hfetched answer =>
      -- Nothing but the last exchange reaches the cluster, so this is the one.
      obtain rfl := eq_of_append_cons (hquiet hfetched.fetches) (by simp) hreaches hsplit
      obtain ⟨rfl, hafter⟩ := List.cons.inj (List.append_cancel_left hsplit)
      exact ⟨hafter.symm, text, hfetched, rfl⟩

/-- Handling manifests changes nothing on the platform. -/
theorem Handled.writes_nothing {spec : ClusterSpec} {removing : Bool} {answer : Except Error Nat}
    (h : Handled instanceId spec removing exchanged answer) :
    ∀ exchange ∈ exchanged, ¬ exchange.call.isWrite := by
  intro exchange hmem
  cases h with
  | unfetched hfetching error => exact (hfetching exchange hmem).quiet.2
  | reached hfetched answer =>
      rcases List.mem_append.1 hmem with hmem | hmem
      · exact (hfetched.fetches exchange hmem).quiet.2
      · obtain rfl := List.mem_singleton.1 hmem
        exact id

/-! ## Creations and deletions -/

/-- All that can happen in a creation: the specification gives no manifest, the platform does not
take it, or the cluster is applied and the manifests of its agent are handled where the operator can
reach the cluster. -/
inductive Creation (instanceId : String) (cr : Cluster) :
    List (Exchange effects) → Except Error Cluster → Prop
  | unwritten {error : Error} (hmanifest : cr.spec.toManifest? = .error error) :
      Creation instanceId cr [] (.error error)
  | refused {m : Platform.ClusterManifest} (hmanifest : cr.spec.toManifest? = .ok m)
      (failure : RemoteError) :
      Creation instanceId cr [⟨.platform (.applyCluster instanceId m), .error failure⟩]
        (.error (.ofRemote failure))
  | unreached {m : Platform.ClusterManifest} (hmanifest : cr.spec.toManifest? = .ok m)
      (haccess : cr.spec.hasTargetAccess = false) :
      Creation instanceId cr [⟨.platform (.applyCluster instanceId m), .ok ()⟩]
        (.ok (cr.withExternalName cr.spec.name))
  | handled {m : Platform.ClusterManifest} (hmanifest : cr.spec.toManifest? = .ok m)
      (haccess : cr.spec.hasTargetAccess = true) {handling : List (Exchange effects)}
      {answer : Except Error Nat} (hhandled : Handled instanceId cr.spec false handling answer) :
      Creation instanceId cr (⟨.platform (.applyCluster instanceId m), .ok ()⟩ :: handling)
        (answer.map fun _ ↦ cr.withExternalName cr.spec.name)

/-- A run of a creation is one of these. -/
theorem create_runs {result : Except Error Cluster}
    (h : Program.Runs (I := effects) (create policy instanceId cr).run exchanged result) :
    Creation instanceId cr exchanged result := by
  rw [create_eq] at h
  cases hmanifest : cr.spec.toManifest? with
  | error error =>
      rw [hmanifest] at h
      obtain ⟨rfl, rfl⟩ := Program.runs_pure_iff.1 h
      exact .unwritten hmanifest
  | ok m =>
      rw [hmanifest, Attempt.ofExcept_ok_bind] at h
      have hname : m.metadata.name = cr.spec.name := by
        obtain ⟨kustomization, -, rfl⟩ := ClusterSpec.toManifest?_eq_ok.1 hmanifest
        rfl
      rw [hname] at h
      rcases Attempt.runs_bind_iff.1 h with
        ⟨error, hrefused, rfl⟩ | ⟨applying, _, rest, happly, hrest, rfl⟩
      · obtain ⟨answer, rfl, hanswer⟩ := Attempt.runs_platform_iff.1 hrefused
        cases answer with
        | ok value => cases hanswer
        | error failure =>
            obtain rfl := Except.error.inj hanswer
            exact .refused hmanifest failure
      · obtain ⟨answer, rfl, hanswer⟩ := Attempt.runs_platform_iff.1 happly
        obtain rfl := mapError_eq_ok.1 hanswer.symm
        unfold finish at hrest
        split at hrest
        · next haccess =>
          rcases handled_of_runs hrest with
            ⟨error, hhandled, rfl⟩ | ⟨handling, documents, last, hhandled, hdone, rfl⟩
          · exact .handled hmanifest haccess hhandled
          · obtain ⟨rfl, rfl⟩ := Attempt.runs_pure_iff.1 hdone
            rw [List.append_nil]
            exact .handled hmanifest haccess hhandled
        · next haccess =>
          obtain ⟨rfl, rfl⟩ := Attempt.runs_pure_iff.1 hrest
          exact .unreached hmanifest (by simpa using haccess)

/-- Whether a deletion is to remove the agent, and can. -/
def removesAgent (cr : Cluster) : Bool :=
  cr.spec.removeAgentResourcesOnDestroy && cr.spec.hasTargetAccess

/-- All that can happen in a deletion: the resource carries no name, the agent stays and the platform
is asked for the deletion, the manifests of the agent cannot be handled, or they are handled and the
platform is asked then. -/
inductive Deletion (instanceId : String) (cr : Cluster) :
    List (Exchange effects) → Except Error Unit → Prop
  | unnamed (hname : cr.externalName? = none) : Deletion instanceId cr [] (.ok ())
  | kept {name : String} (hname : cr.externalName? = some name) (hkept : cr.removesAgent = false)
      (answer : Except RemoteError Unit) :
      Deletion instanceId cr [⟨.platform (.deleteCluster instanceId name), answer⟩]
        (answer.mapError Error.ofRemote)
  | unhandled {name : String} (hname : cr.externalName? = some name)
      (hremoves : cr.removesAgent = true) {handling : List (Exchange effects)} {error : Error}
      (hhandled : Handled instanceId cr.spec true handling (.error error)) :
      Deletion instanceId cr handling (.error error)
  | handled {name : String} (hname : cr.externalName? = some name)
      (hremoves : cr.removesAgent = true) {handling : List (Exchange effects)} {documents : Nat}
      (hhandled : Handled instanceId cr.spec true handling (.ok documents))
      (answer : Except RemoteError Unit) :
      Deletion instanceId cr (handling ++ [⟨.platform (.deleteCluster instanceId name), answer⟩])
        (answer.mapError Error.ofRemote)

/-- A run of a deletion is one of these. -/
theorem delete_runs {result : Except Error Unit}
    (h : Program.Runs (I := effects) (delete policy instanceId cr).run exchanged result) :
    Deletion instanceId cr exchanged result := by
  cases hname : cr.externalName? with
  | none =>
      simp only [delete, hname] at h
      obtain ⟨rfl, rfl⟩ := Attempt.runs_pure_iff.1 h
      exact .unnamed hname
  | some name =>
      rw [delete_eq hname] at h
      split at h
      · next hremoves =>
        rcases handled_of_runs h with
          ⟨error, hhandled, rfl⟩ | ⟨handling, documents, last, hhandled, hdelete, rfl⟩
        · exact .unhandled hname hremoves hhandled
        · obtain ⟨answer, rfl, rfl⟩ := Attempt.runs_platform_iff.1 hdelete
          exact .handled hname hremoves hhandled answer
      · next hkept =>
        obtain ⟨answer, rfl, rfl⟩ := Attempt.runs_platform_iff.1 h
        exact .kept hname ((Bool.not_eq_true _).mp hkept) answer

/-- A creation that is gated: it applies the cluster first, and reaches the cluster itself only where
it can, in the end, and with the manifests that were got after the cluster was applied. It puts the
name of the cluster on the resource if it goes well, in which case the agent was installed if that
was possible. -/
structure CreatesGated (instanceId : String) (cr : Cluster) (exchanged : List (Exchange effects))
    (result : Except Error Cluster) : Prop where
  applies_first : ∀ first rest, exchanged = first :: rest →
    ∃ m, cr.spec.toManifest? = .ok m ∧ first.call = .platform (.applyCluster instanceId m)
  reaches_last : ∀ before exchange after, exchanged = before ++ exchange :: after →
    exchange.call.reachesTarget = true →
      cr.spec.hasTargetAccess = true ∧ after = [] ∧ ∃ m fetching text,
        before = ⟨.platform (.applyCluster instanceId m), .ok ()⟩ :: fetching ∧
        Fetched instanceId cr.spec.name fetching text ∧
        exchange.call = .install cr.spec text false
  named : ∀ created, result = .ok created → created = cr.withExternalName cr.spec.name ∧
    (cr.spec.hasTargetAccess = true → ∃ before text documents,
      exchanged = before ++ [⟨.install cr.spec text false, .ok documents⟩])

/-- A deletion that is gated: where it is to remove the agent, and can, it reaches the cluster itself
with the manifests that were got, and changes the platform only after that went well; and else it
leaves the cluster itself alone. -/
structure DeletesGated (instanceId : String) (cr : Cluster) (exchanged : List (Exchange effects)) :
    Prop where
  reaches : cr.removesAgent = true → ∀ before exchange after,
    exchanged = before ++ exchange :: after → exchange.call.reachesTarget = true →
      ∃ text, Fetched instanceId cr.spec.name before text ∧
        exchange.call = .install cr.spec text true
  writes : cr.removesAgent = true → ∀ before exchange after,
    exchanged = before ++ exchange :: after → exchange.call.isWrite →
      ∃ fetching text documents, Fetched instanceId cr.spec.name fetching text ∧
        before = fetching ++ [⟨.install cr.spec text true, .ok documents⟩]
  spares : cr.removesAgent = false → ∀ exchange ∈ exchanged, exchange.call.reachesTarget = false

namespace Creation

variable {result : Except Error Cluster} (h : Creation instanceId cr exchanged result)
include h

/-- A creation applies the cluster first. -/
theorem applies_first {first : Exchange effects} {rest : List (Exchange effects)}
    (hsplit : exchanged = first :: rest) :
    ∃ m, cr.spec.toManifest? = .ok m ∧ first.call = .platform (.applyCluster instanceId m) := by
  cases h with
  | unwritten hmanifest => cases hsplit
  | refused hmanifest | unreached hmanifest | handled hmanifest =>
      obtain ⟨rfl, -⟩ := List.cons.inj hsplit
      exact ⟨_, hmanifest, rfl⟩

/-- A creation reaches the cluster only in the end, to install what was got before. -/
theorem reaches_last {before after : List (Exchange effects)} {exchange : Exchange effects}
    (hsplit : exchanged = before ++ exchange :: after)
    (hreaches : exchange.call.reachesTarget = true) :
    cr.spec.hasTargetAccess = true ∧ after = [] ∧ ∃ m fetching text,
      before = ⟨.platform (.applyCluster instanceId m), .ok ()⟩ :: fetching ∧
      Fetched instanceId cr.spec.name fetching text ∧
      exchange.call = .install cr.spec text false := by
  have hmem : exchange ∈ exchanged := by simp [hsplit]
  cases h with
  | unwritten hmanifest => cases hmem
  | refused hmanifest | unreached hmanifest =>
      obtain rfl := List.mem_singleton.1 hmem
      cases hreaches
  | @handled m hmanifest haccess handling answer hhandled =>
      -- The application does not reach the cluster, so it stands before.
      cases before with
      | nil =>
          obtain ⟨rfl, -⟩ := List.cons.inj hsplit
          cases hreaches
      | cons first fetching =>
          obtain ⟨rfl, hrest⟩ := List.cons.inj hsplit
          obtain ⟨hafter, text, hfetched, hcall⟩ := hhandled.reaches_last hrest hreaches
          exact ⟨haccess, hafter, m, fetching, text, rfl, hfetched, hcall⟩

/-- A creation that goes well names the cluster, and has installed the agent if that is possible. -/
theorem named {created : Cluster} (hok : result = .ok created) :
    created = cr.withExternalName cr.spec.name ∧
      (cr.spec.hasTargetAccess = true → ∃ before text documents,
        exchanged = before ++ [⟨.install cr.spec text false, .ok documents⟩]) := by
  cases h with
  | unwritten hmanifest => cases hok
  | refused hmanifest failure => cases hok
  | unreached hmanifest haccess => exact ⟨(Except.ok.inj hok).symm, by simp [haccess]⟩
  | handled hmanifest haccess hhandled =>
      obtain ⟨documents, rfl, rfl⟩ := map_eq_ok.1 hok
      obtain ⟨fetching, text, -, rfl⟩ := hhandled.of_ok
      exact ⟨rfl, fun _ ↦ ⟨_ :: fetching, text, documents, rfl⟩⟩

/-- Every creation is gated. -/
theorem gated : CreatesGated instanceId cr exchanged result :=
  ⟨fun _ _ hsplit ↦ h.applies_first hsplit, fun _ _ _ hsplit ↦ h.reaches_last hsplit,
    fun _ hok ↦ h.named hok⟩

end Creation

namespace Deletion

variable {result : Except Error Unit} (h : Deletion instanceId cr exchanged result)
include h

/-- A deletion that leaves the agent does not reach the cluster. -/
theorem spares (hkept : cr.removesAgent = false) :
    ∀ exchange ∈ exchanged, exchange.call.reachesTarget = false := by
  intro exchange hmem
  cases h with
  | unnamed hname => cases hmem
  | kept hname hkept answer =>
      obtain rfl := List.mem_singleton.1 hmem
      rfl
  | unhandled hname hremoves | handled hname hremoves =>
      rw [hremoves] at hkept
      cases hkept

section

variable (hremoves : cr.removesAgent = true) {before after : List (Exchange effects)}
  {exchange : Exchange effects} (hsplit : exchanged = before ++ exchange :: after)
include hremoves hsplit

/-- A deletion that removes the agent reaches the cluster with what was got before. -/
theorem reaches (hreaches : exchange.call.reachesTarget = true) :
    ∃ text, Fetched instanceId cr.spec.name before text ∧
      exchange.call = .install cr.spec text true := by
  cases h with
  | unnamed hname => simp at hsplit
  | kept hname hkept =>
      rw [hremoves] at hkept
      cases hkept
  | unhandled hname hremoves hhandled => exact (hhandled.reaches_last hsplit hreaches).2
  | handled hname hremoves hhandled answer =>
      obtain ⟨fetching, text, hfetched, rfl⟩ := hhandled.of_ok
      rw [List.append_assoc] at hsplit
      -- Neither getting the manifests nor the platform's deletion reaches the cluster.
      obtain rfl := eq_of_append_cons (p := fun exchange : Exchange effects ↦
        exchange.call.reachesTarget = true)
        (fun exchange hmem ↦ by simp [(hfetched.fetches exchange hmem).quiet.1])
        (by simp [Effect.reachesTarget]) hreaches hsplit
      obtain ⟨rfl, -⟩ := List.cons.inj (List.append_cancel_left hsplit)
      exact ⟨text, hfetched, rfl⟩

/-- A deletion that removes the agent changes the platform only after the agent was removed. -/
theorem writes (hwrites : exchange.call.isWrite) :
    ∃ fetching text documents, Fetched instanceId cr.spec.name fetching text ∧
      before = fetching ++ [⟨.install cr.spec text true, .ok documents⟩] := by
  cases h with
  | unnamed hname => simp at hsplit
  | kept hname hkept =>
      rw [hremoves] at hkept
      cases hkept
  | unhandled hname hremoves hhandled =>
      exact absurd hwrites (hhandled.writes_nothing exchange (by simp [hsplit]))
  | @handled name hname hremoves handling documents hhandled answer =>
      obtain ⟨fetching, text, hfetched, rfl⟩ := hhandled.of_ok
      -- Only the last exchange changes the platform.
      obtain rfl := eq_of_append_cons (p := fun exchange : Exchange effects ↦
        exchange.call.isWrite) hhandled.writes_nothing (by simp) hwrites hsplit
      exact ⟨fetching, text, documents, hfetched, rfl⟩

end

/-- Every deletion is gated. -/
theorem gated : DeletesGated instanceId cr exchanged :=
  ⟨fun hremoves _ _ _ hsplit ↦ h.reaches hremoves hsplit,
    fun hremoves _ _ _ hsplit ↦ h.writes hremoves hsplit, h.spares⟩

end Deletion

/-- Creations and deletions of clusters are gated, whatever the platform and the installation of
agents answer. A converging pass that creates a cluster leaves the resource as it is if the creation
fails, and puts the name of the cluster on it if the creation goes well. -/
theorem agent_gated (policy : PollPolicy) (instanceId : String) (cr : Cluster) :
    (∀ exchanged result,
      Program.Runs (I := effects) (create policy instanceId cr).run exchanged result →
        CreatesGated instanceId cr exchanged result) ∧
      (∀ exchanged live result,
        ((External.cluster policy instanceId).act cr (.ok .absent)).Runs exchanged (live, result) →
          (result = .ok .created ∧ live = (cr.withExternalName cr.spec.name).record .creating) ∨
            ∃ error, result = .error error ∧ live = cr) ∧
      ∀ exchanged result,
        Program.Runs (I := effects) (delete policy instanceId cr).run exchanged result →
          DeletesGated instanceId cr exchanged := by
  refine ⟨fun _ _ hrun ↦ (create_runs hrun).gated, ?_, fun _ _ hrun ↦ (delete_runs hrun).gated⟩
  intro exchanged live result hrun
  obtain ⟨creating, created, last, hcreate, hdone, -⟩ := Program.runs_bind_iff.1 hrun
  cases created with
  | error error =>
      obtain ⟨-, hlive⟩ := Program.runs_pure_iff.1 hdone
      obtain ⟨rfl, rfl⟩ := Prod.mk.inj hlive
      exact .inr ⟨error, rfl, rfl⟩
  | ok created =>
      obtain ⟨-, hlive⟩ := Program.runs_pure_iff.1 hdone
      obtain ⟨rfl, rfl⟩ := Prod.mk.inj hlive
      rw [((create_runs hcreate).gated.named created rfl).1]
      exact .inl ⟨rfl, rfl⟩

/-- A world in which the manifests of the agent of a cluster "prod" can be downloaded. -/
def provisioned : World where
  platform := { manifests := .ofList [("id-prod",
    ["apiVersion: v1\nkind: Namespace\nmetadata:\n  name: akuity\n".toUTF8.toList])] }

/-- The operator creates and then deletes the cluster in which it runs itself, and reaches it both
times. -/
theorem agent_gated_hosting :
    ((create {} "argo" hosting).run.exchanges World.answer provisioned).any
        (·.call.reachesTarget) = true ∧
      CreatesGated "argo" hosting ((create {} "argo" hosting).run.exchanges World.answer provisioned)
        ((create {} "argo" hosting).run.run World.answer provisioned).1 ∧
      (((External.cluster {} "argo").act hosting (.ok .absent)).run World.answer
        provisioned).1 = ((hosting.withExternalName "prod").record .creating, .ok .created) ∧
      ((delete {} "argo" (hosting.withExternalName "prod")).run.exchanges World.answer
        ((create {} "argo" hosting).run.run World.answer provisioned).2).any
          (·.call.reachesTarget) = true ∧
      DeletesGated "argo" (hosting.withExternalName "prod")
        ((delete {} "argo" (hosting.withExternalName "prod")).run.exchanges World.answer
          ((create {} "argo" hosting).run.run World.answer provisioned).2) := by
  obtain ⟨hcreate, hact, -⟩ := agent_gated {} "argo" hosting
  obtain ⟨-, -, hdelete⟩ := agent_gated {} "argo" (hosting.withExternalName "prod")
  refine ⟨by decide +kernel, hcreate _ _ (Program.runs_exchanges World.answer _ _), ?_,
    by decide +kernel, hdelete _ _ (Program.runs_exchanges World.answer _ _)⟩
  have hwell : (((External.cluster {} "argo").act hosting (.ok .absent)).run World.answer
      provisioned).1.2.isOk = true := by decide +kernel
  have hrun := Program.runs_exchanges World.answer
    ((External.cluster {} "argo").act hosting (.ok .absent)) provisioned
  generalize (((External.cluster {} "argo").act hosting (.ok .absent)).run World.answer
    provisioned).1 = reached at hwell hrun ⊢
  obtain ⟨live, result⟩ := reached
  rcases hact _ _ _ hrun with ⟨rfl, rfl⟩ | ⟨error, rfl, -⟩
  · rfl
  · cases hwell

end Cluster

end FleetOperator
