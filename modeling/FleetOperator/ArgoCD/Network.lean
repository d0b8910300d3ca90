import FleetOperator.Codec.Basic

/-!
# Network access and permissions

Who may reach an Argo CD instance, the host names it knows, and what its agents may do.
-/

namespace FleetOperator.ArgoCD

/-- An address range that may reach the instance. -/
structure AllowedAddress where
  ip : String := ""
  description : Option String := none
deriving DecidableEq, Repr, Inhabited

/-- The written form of `AllowedAddress`. -/
def AllowedAddress.codec : Codec AllowedAddress :=
  .record AllowedAddress.mk <|
    .next (.defaulted "ip" (·.ip) .text "") <|
    .next (.optional "description" (·.description) .text) <|
    .done

/-- Host names that resolve to an address. -/
structure HostAlias where
  ip : String := ""
  hostnames : List String := []
deriving DecidableEq, Repr, Inhabited

/-- The written form of `HostAlias`. -/
def HostAlias.codec : Codec HostAlias :=
  .record HostAlias.mk <|
    .next (.defaulted "ip" (·.ip) .text "") <|
    .next (.list "hostnames" (·.hostnames) .text) <|
    .done

/-- What agents may do with the resources of API groups. -/
structure AgentPermission where
  apiGroups : List String := []
  resources : List String := []
  verbs : List String := []
deriving DecidableEq, Repr, Inhabited

/-- The written form of `AgentPermission`. -/
def AgentPermission.codec : Codec AgentPermission :=
  .record AgentPermission.mk <|
    .next (.list "apiGroups" (·.apiGroups) .text) <|
    .next (.list "resources" (·.resources) .text) <|
    .next (.list "verbs" (·.verbs) .text) <|
    .done

end FleetOperator.ArgoCD
