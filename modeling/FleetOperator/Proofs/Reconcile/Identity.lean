import FleetOperator.Operator.World
import FleetOperator.Proofs.Cluster.Runs
import FleetOperator.Proofs.Instance.Runs
import FleetOperator.Proofs.Reconcile.Deletion

/-!
# Names on the platform

By which name a pass addresses the remote object. Read `passes_split_identity` first: a pass looks
at the object with the name on the resource and deletes that one, but it writes the object with the
name in the specification and waits for that one. As long as the two names are the same, a pass
touches one object only.
-/

namespace FleetOperator

/-- The name by which a call addresses a cluster or an instance. A download addresses its cluster by
an identifier. -/
def Platform.Request.addressed? : Platform.Request → Option String
  | .getCluster _ name | .deleteCluster _ name => some name
  | .applyCluster _ manifest => some manifest.metadata.name
  | .getInstance name | .exportInstance name | .deleteInstance name => some name
  | .applyInstance request => some request.id
  | .getClusterManifests _ _ => none

/-- Whether a call deletes a cluster or an instance. -/
def Platform.Request.isDeletion : Platform.Request → Bool
  | .deleteCluster _ _ | .deleteInstance _ => true
  | _ => false

/-- The name by which an effect addresses a cluster or an instance. -/
def Effect.addressed? : Effect → Option String
  | .platform request => request.addressed?
  | _ => none

/-- Whether an effect reads the object with a name. -/
def Effect.Reads (name : String) (effect : Effect) : Prop :=
  effect.addressed? = some name ∧ ¬ effect.isWrite

/-- Whether an effect, where it addresses a cluster or an instance, does so by one name if it
deletes it, and by another one if it does anything else. -/
def Effect.AddressedBy (deleted other : String) : Effect → Prop
  | .platform request =>
    ∀ name, request.addressed? = some name → name = if request.isDeletion then deleted else other
  | _ => True

/-- Exchanges of a pass that reads the object with the carried name and may then delete that one,
but does everything else with the object that has its own name. -/
def SplitIdentity (carried own : String) (exchanged : List (Exchange effects)) : Prop :=
  ∃ looking acting, exchanged = looking ++ acting ∧
    (∀ exchange ∈ looking, exchange.call.Reads carried) ∧
    ∀ exchange ∈ acting, exchange.call.AddressedBy carried own

/-- With the same name for both, every effect that addresses an object does so by this name. -/
theorem SplitIdentity.addressed {name : String} {exchanged : List (Exchange effects)}
    (h : SplitIdentity name name exchanged) {exchange : Exchange effects}
    (hexchange : exchange ∈ exchanged) {addressed : String}
    (haddressed : Effect.addressed? exchange.call = some addressed) : addressed = name := by
  obtain ⟨looking, acting, rfl, hlook, hact⟩ := h
  rcases List.mem_append.1 hexchange with hlooking | hacting
  · exact Option.some.inj (haddressed.symm.trans (hlook exchange hlooking).1)
  · have hcall := hact exchange hacting
    cases hkind : exchange.call with
    | platform request =>
        rw [hkind] at hcall haddressed
        simpa using hcall addressed haddressed
    | _ => simp [hkind, Effect.addressed?] at haddressed

variable {σ ω : Type}

namespace External

/-- By which names remote objects are addressed: a look by the name on the resource, a deletion by
the same name, and a creation or a change by the name that the specification gives. A look changes
neither name. -/
structure AddressedBy (external : External σ ω) (own : σ → String) : Prop where
  looks : ∀ cr carried, cr.externalName? = some carried →
    (external.observe cr).Asks (Effect.Reads carried)
  names : ∀ cr exchanged looked, (external.observe cr).Runs exchanged looked →
    own looked.1.spec = own cr.spec ∧ looked.1.externalName? = cr.externalName?
  creates : ∀ cr carried, Program.Asks (I := effects) (Effect.AddressedBy carried (own cr.spec))
    (external.create cr).run
  updates : ∀ cr carried, Program.Asks (I := effects) (Effect.AddressedBy carried (own cr.spec))
    (external.update cr).run
  deletes : ∀ cr carried, cr.externalName? = some carried →
    Program.Asks (I := effects) (Effect.AddressedBy carried (own cr.spec)) (external.delete cr).run

variable {external : External σ ω} {own : σ → String} {cr : Resource σ ω} {carried : String}
  {exchanged : List (Exchange effects)} {result : Resource σ ω × Except Error Outcome}

/-- What a converging pass does once it has seen the remote object asks what a creation and an
update ask. -/
theorem act_asks {asked : Effect → Prop}
    (hcreate : Program.Asks (I := effects) asked (external.create cr).run)
    (hupdate : Program.Asks (I := effects) asked (external.update cr).run)
    (seen : Except Error Observation) : (external.act cr seen).Asks asked := by
  cases seen with
  | error error => trivial
  | ok observation =>
      simp only [act]
      split
      · refine Program.Asks.bind hcreate ?_
        rintro (error | created) <;> trivial
      · split
        · refine Program.Asks.bind hupdate ?_
          rintro (error | updated) <;> trivial
        · trivial

/-- A pass that is a look and what follows from it addresses objects as both do. -/
theorem AddressedBy.split (haddressed : external.AddressedBy own)
    (hname : cr.externalName? = some carried)
    {next : Resource σ ω → Except Error Observation →
      Program effects (Resource σ ω × Except Error Outcome)}
    (hnext : ∀ looked seen, looked.externalName? = some carried →
      (next looked seen).Asks (Effect.AddressedBy carried (own looked.spec)))
    (h : (external.observe cr >>= fun seen ↦ next seen.1 seen.2).Runs exchanged result) :
    SplitIdentity carried (own cr.spec) exchanged := by
  obtain ⟨looking, ⟨looked, seen⟩, acting, hlook, hact, rfl⟩ := Program.runs_bind_iff.1 h
  obtain ⟨hown, hexternal⟩ := haddressed.names cr looking _ hlook
  refine ⟨looking, acting, rfl, (haddressed.looks cr carried hname).runs hlook, ?_⟩
  rw [← hown]
  exact (hnext looked seen (hexternal.trans hname)).runs hact

/-- Every pass over a resource that carries a name splits its identity. -/
theorem AddressedBy.passes (haddressed : external.AddressedBy own)
    (hname : cr.externalName? = some carried)
    (h : (external.converge cr).Runs exchanged result ∨
      (external.retire cr).Runs exchanged result) :
    SplitIdentity carried (own cr.spec) exchanged := by
  rcases h with h | h
  · rw [converge_eq] at h
    exact haddressed.split hname (fun looked seen _ ↦
      act_asks (haddressed.creates looked carried) (haddressed.updates looked carried) seen) h
  · rw [retire_eq] at h
    exact haddressed.split hname (fun looked seen hlooked ↦
      remove_asks (haddressed.deletes (looked.record .deleting) carried hlooked) seen) h

end External

/-- Clusters are addressed by the name on the resource and by that in the specification. -/
theorem Cluster.addressedBy (policy : PollPolicy) (instanceId : String) :
    (External.cluster policy instanceId).AddressedBy (·.name) := by
  have hmanifests : ∀ (cr : Cluster) (carried : String), Program.Asks (I := effects)
      (Effect.AddressedBy carried cr.spec.name)
      (agentManifests policy instanceId cr.spec.name).run := fun cr carried ↦
    agentManifests_asks (by rintro name ⟨⟩; rfl) (fun _ ↦ trivial) (by rintro id name ⟨⟩) policy
  constructor
  case looks =>
    intro cr carried hname
    refine observe_asks fun name hother ↦ ?_
    obtain rfl := Option.some.inj (hother.symm.trans hname)
    exact ⟨rfl, by simp [Effect.isWrite, Platform.Request.isWrite]⟩
  case names => exact fun cr exchanged looked h ↦ (observe_runs h).names
  case creates =>
    intro cr carried
    refine create_asks (hmanifests cr carried) (fun m hm ↦ ?_) fun _ ↦ trivial
    rintro addressed ⟨⟩
    exact hm
  case updates =>
    intro cr carried
    refine update_asks fun m hm ↦ ?_
    rintro addressed ⟨⟩
    exact hm
  case deletes =>
    intro cr carried hname
    refine delete_asks (hmanifests cr carried) (fun name hother ↦ ?_) fun _ ↦ trivial
    rintro addressed ⟨⟩
    exact Option.some.inj (hother.symm.trans hname)

/-- Instances are addressed by the name on the resource and by that in the specification. -/
theorem Instance.addressedBy (rules : NormalizeRules) :
    (External.inst rules).AddressedBy (·.name) := by
  constructor
  case looks =>
    intro cr carried hname
    refine observe_asks fun name hother ↦ ?_
    obtain rfl := Option.some.inj (hother.symm.trans hname)
    constructor <;> exact ⟨rfl, by simp [Effect.isWrite, Platform.Request.isWrite]⟩
  case names => exact fun cr exchanged looked h ↦ (observe_runs h).names
  case creates =>
    intro cr carried
    refine (write_asks fun request hrequest ↦ ?_).1
    rintro addressed ⟨⟩
    exact hrequest
  case updates =>
    intro cr carried
    refine (write_asks fun request hrequest ↦ ?_).2
    rintro addressed ⟨⟩
    exact hrequest
  case deletes =>
    intro cr carried hname
    refine delete_asks fun name hother ↦ ?_
    rintro addressed ⟨⟩
    exact Option.some.inj (hother.symm.trans hname)

/-- A pass over a resource that carries a name reads the object with that name and deletes that one,
but writes the object with the name in the specification and waits for that one. Where the two names
are the same, everything that the pass addresses by name has this name. -/
theorem passes_split_identity {carried : String} {exchanged : List (Exchange effects)} :
    (∀ policy instanceId (cr : Cluster) result, cr.externalName? = some carried →
      (((External.cluster policy instanceId).converge cr).Runs exchanged result ∨
        ((External.cluster policy instanceId).retire cr).Runs exchanged result) →
      SplitIdentity carried cr.spec.name exchanged ∧
        (cr.spec.name = carried → ∀ exchange ∈ exchanged, ∀ name,
          Effect.addressed? exchange.call = some name → name = carried)) ∧
      ∀ rules (cr : Instance) result, cr.externalName? = some carried →
        (((External.inst rules).converge cr).Runs exchanged result ∨
          ((External.inst rules).retire cr).Runs exchanged result) →
        SplitIdentity carried cr.spec.name exchanged ∧
          (cr.spec.name = carried → ∀ exchange ∈ exchanged, ∀ name,
            Effect.addressed? exchange.call = some name → name = carried) := by
  constructor
  · intro policy instanceId cr result hname h
    have hsplit := (Cluster.addressedBy policy instanceId).passes hname h
    refine ⟨hsplit, ?_⟩
    rintro rfl exchange hexchange name haddressed
    exact hsplit.addressed hexchange haddressed
  · intro rules cr result hname h
    have hsplit := (Instance.addressedBy rules).passes hname h
    refine ⟨hsplit, ?_⟩
    rintro rfl exchange hexchange name haddressed
    exact hsplit.addressed hexchange haddressed

/-- A resource for a cluster whose name in the specification was changed after the creation. -/
def renamed : Cluster where
  metadata := {
    name := some "prod", annotations := some (.ofList [(externalNameKey, "prod")]) }
  spec := { name := "staging" }

/-- A world that holds the cluster of the resource. -/
def renamedWorld : World where
  platform := { clusters := .ofList [("prod", { id := "c-1", name := "prod" })] }

/-- A converging pass over the resource looks at one cluster and writes another one. -/
theorem passes_split_identity_renamed :
    SplitIdentity "prod" "staging"
        (((External.cluster {} "argo").converge renamed).exchanges World.answer renamedWorld) ∧
      (((External.cluster {} "argo").converge renamed).calls World.answer renamedWorld).map
          Effect.addressed? = [some "prod", some "staging"] := by
  refine ⟨(passes_split_identity.1 {} "argo" renamed _ (by decide) (.inl
    (Program.runs_exchanges World.answer _ _))).1, ?_⟩
  decide +kernel

end FleetOperator
