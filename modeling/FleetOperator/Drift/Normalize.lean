import FleetOperator.Cluster.Spec
import FleetOperator.Instance.Spec
import FleetOperator.Json.Equivalence
import FleetOperator.Text.Blank
import FleetOperator.Yaml.Document

/-!
# Normalization

Before a desired specification is compared with the observed one, the differences that mean nothing
are taken out of copies of the two: settings that the platform manages itself, sets that are written
in another order, and documents that are spelled differently.
-/

namespace FleetOperator

/-- Which entries of the general config map are compared how. -/
structure NormalizeRules where
  /-- The keys that the platform manages itself. -/
  ignoredConfigKeys : List String :=
    ["cluster.inClusterEnabled", "resource.respectRBAC", "application.resourceTrackingMethod",
      "url"]
  /-- The start of the keys whose values are sets, separated by commas. -/
  setValuedStart : String := "accounts."
  /-- The keys whose values are maps of resource customizations. -/
  structuredKeys : List String := ["resource.customizations"]
deriving DecidableEq, Repr, Inhabited

/-- How Argo CD treats the resources of one kind. -/
structure ResourceCustomization where
  health : String := ""
  actions : String := ""
  ignoreDifferences : String := ""
  knownTypeFields : String := ""
deriving DecidableEq, Repr

namespace ResourceCustomization

/-- The written form of `ResourceCustomization`. -/
def codec : Codec ResourceCustomization :=
  .record ResourceCustomization.mk <|
    .next (.defaulted "health.lua" (·.health) .text "") <|
    .next (.defaulted "actions" (·.actions) .text "") <|
    .next (.defaulted "ignoreDifferences" (·.ignoreDifferences) .text "") <|
    .next (.defaulted "knownTypeFields" (·.knownTypeFields) .text "") <|
    .done

/-- The written form of maps of resource customizations. -/
def mapCodec : Codec (Dict (Option ResourceCustomization)) := .dict (.optional codec)

/-- The map of resource customizations that a YAML text writes, where null is the empty map. -/
def readMap? (text : String) : Option (Dict (Option ResourceCustomization)) :=
  (Yaml.document? text).bind fun node ↦
    (mapCodec.optional.decode? (.yaml node)).map (·.getD .empty)

/-- Whether two texts write equivalent maps of resource customizations. -/
def sameMaps (a b : String) : Bool :=
  match readMap? a, readMap? b with
  | some x, some y => Json.equal (mapCodec.toJson x) (mapCodec.toJson y)
  | _, _ => false

end ResourceCustomization

/-- The parts of a text between commas. -/
def splitAtCommas : List Char → List (List Char)
  | [] => [[]]
  | c :: rest =>
    if c = ',' then [] :: splitAtCommas rest
    else
      match splitAtCommas rest with
      | [] => [[c]]
      | first :: others => (c :: first) :: others

/-- The members of a set that is written with commas: the parts without blanks around them, empty
ones left out. -/
def setMembers (text : String) : List String :=
  (splitAtCommas text.toList).filterMap fun part ↦ nonBlank (String.ofList part)
where
  /-- A text without blanks around it, when something is left of it. -/
  nonBlank (part : String) : Option String :=
    let trimmed := Text.trim part
    if trimmed = "" then none else some trimmed

/-- Whether two texts write the same set. -/
def sameSets (a b : String) : Bool :=
  (setMembers a).all (setMembers b).contains && (setMembers b).all (setMembers a).contains

/-- The observed text where both texts write equivalent YAML documents, and else the desired
one. -/
def adoptEquivalentYaml (desired observed : Option String) : Option String :=
  match desired, observed with
  | some own, some seen =>
    match Yaml.readJson? own, Yaml.readJson? seen with
    | some a, some b => if Json.equal a b then observed else desired
    | _, _ => desired
  | _, _ => desired

namespace ClusterSpec

/-- A desired specification without the differences from an observed one that mean nothing. -/
def normalize (desired observed : ClusterSpec) : ClusterSpec :=
  let own := desired.properties.data
  let seen := observed.properties.data
  { desired with
    properties := { desired.properties with
      data := { own with
        multiClusterDashboardEnabled :=
          own.multiClusterDashboardEnabled.or seen.multiClusterDashboardEnabled
        kustomization := adoptEquivalentYaml own.kustomization seen.kustomization } } }

end ClusterSpec

namespace ArgoCD

/-- Whether a text is there and not empty. -/
def isGiven (text : Option String) : Bool := text.any (· != "")

/-- Desired settings without the differences from observed ones that mean nothing. Of a domain name
and a subdomain only one takes effect, so where both are given the observed ones count. -/
def ResourceSettings.normalize (own seen : ResourceSettings) : ResourceSettings :=
  let bothNames := isGiven own.fqdn && isGiven own.subdomain
  { own with
    multiClusterDashboardEnabled :=
      own.multiClusterDashboardEnabled.or seen.multiClusterDashboardEnabled
    fqdn := if bothNames then seen.fqdn else own.fqdn
    subdomain := if bothNames then seen.subdomain else own.subdomain
    kubeVisionConfig := own.kubeVisionConfig.or seen.kubeVisionConfig
    aiSupportEngineerExtension :=
      own.aiSupportEngineerExtension.or seen.aiSupportEngineerExtension
    clusterCustomizationDefaults :=
      match own.clusterCustomizationDefaults, seen.clusterCustomizationDefaults with
      | some c, some d =>
        some { c with kustomization := adoptEquivalentYaml c.kustomization d.kustomization }
      | c, _ => c }

end ArgoCD

namespace NormalizeRules

/-- Whether the values of an entry mean the same by these rules. -/
def sameEntry (rules : NormalizeRules) (key desired observed : String) : Bool :=
  if rules.setValuedStart.toList.isPrefixOf key.toList then sameSets desired observed
  else rules.structuredKeys.contains key && ResourceCustomization.sameMaps desired observed

/-- A desired config map with the observed values where they mean the same. -/
def adoptEntries (rules : NormalizeRules) (desired : ConfigMapData)
    (observed : Option ConfigMapData) : ConfigMapData :=
  desired.mapValues fun key own ↦
    match observed.bind (·.get? key) with
    | some seen => if rules.sameEntry key own seen then seen else own
    | none => own

/-- A config map without the entries that the platform manages itself. -/
def dropIgnored (rules : NormalizeRules) (config : ConfigMapData) : ConfigMapData :=
  config.filter fun key _ ↦ !rules.ignoredConfigKeys.contains key

end NormalizeRules

namespace InstanceSpec

/-- A desired specification without the differences from an observed one that mean nothing. -/
def normalizeDesired (rules : NormalizeRules) (desired observed : InstanceSpec) : InstanceSpec :=
  { desired with
    argocd :=
      match desired.argocd, observed.argocd with
      | some own, some seen =>
        some { own with
          spec := { own.spec with settings := own.spec.settings.normalize seen.spec.settings } }
      | own, _ => own
    configMaps := { desired.configMaps with
      general := desired.configMaps.general.map fun config ↦
        rules.dropIgnored (rules.adoptEntries config observed.configMaps.general) } }

/-- An observed specification without what is not compared. -/
def normalizeObserved (rules : NormalizeRules) (observed : InstanceSpec) : InstanceSpec :=
  { observed with
    configMaps := { observed.configMaps with
      general := observed.configMaps.general.map rules.dropIgnored } }

end InstanceSpec

end FleetOperator
