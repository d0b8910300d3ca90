import FleetOperator.Codec.Basic

/-!
# Secrets management

Which secrets of which clusters are copied where.
-/

namespace FleetOperator.ArgoCD

/-- A condition on the values of a label. -/
structure SelectorRequirement where
  key : Option String := none
  operator : Option String := none
  values : List String := []
deriving DecidableEq, Repr, Inhabited

/-- The written form of `SelectorRequirement`. -/
def SelectorRequirement.codec : Codec SelectorRequirement :=
  .record SelectorRequirement.mk <|
    .next (.optional "key" (·.key) .text) <|
    .next (.optional "operator" (·.operator) .text) <|
    .next (.list "values" (·.values) .text) <|
    .done

/-- A choice of objects by their labels. -/
structure ObjectSelector where
  matchLabels : Dict String := .empty
  matchExpressions : List SelectorRequirement := []
deriving DecidableEq, Repr, Inhabited

/-- The written form of `ObjectSelector`. -/
def ObjectSelector.codec : Codec ObjectSelector :=
  .record ObjectSelector.mk <|
    .next (.dict "matchLabels" (·.matchLabels) .text) <|
    .next (.list "matchExpressions" (·.matchExpressions) SelectorRequirement.codec) <|
    .done

/-- Secrets of clusters, both chosen by labels. -/
structure SecretMapping where
  clusters : Option ObjectSelector := none
  secrets : Option ObjectSelector := none
deriving DecidableEq, Repr, Inhabited

/-- The written form of `SecretMapping`. -/
def SecretMapping.codec : Codec SecretMapping :=
  .record SecretMapping.mk <|
    .next (.optional "clusters" (·.clusters) ObjectSelector.codec) <|
    .next (.optional "secrets" (·.secrets) ObjectSelector.codec) <|
    .done

/-- Where secrets are taken from and where they are put. -/
structure SecretsManagement where
  sources : List SecretMapping := []
  destinations : List SecretMapping := []
deriving DecidableEq, Repr, Inhabited

/-- The written form of `SecretsManagement`. -/
def SecretsManagement.codec : Codec SecretsManagement :=
  .record SecretsManagement.mk <|
    .next (.list "sources" (·.sources) SecretMapping.codec) <|
    .next (.list "destinations" (·.destinations) SecretMapping.codec) <|
    .done

end FleetOperator.ArgoCD
