import FleetOperator.Codec.Basic

/-!
# Application sets

The policy, the plugins and the extension for application sets.
-/

namespace FleetOperator.ArgoCD

/-- The policy of the application set controller. -/
structure ApplicationSetPolicy where
  policy : Option String := none
  overridePolicy : Option Bool := none
deriving DecidableEq, Repr, Inhabited

/-- The written form of `ApplicationSetPolicy`. -/
def ApplicationSetPolicy.codec : Codec ApplicationSetPolicy :=
  .record ApplicationSetPolicy.mk <|
    .next (.optional "policy" (·.policy) .text) <|
    .next (.optional "overridePolicy" (·.overridePolicy) .flag) <|
    .done

/-- A generator plugin of application sets. -/
structure ApplicationSetPlugin where
  name : String := ""
  token : String := ""
  baseUrl : String := ""
  requestTimeout : Int32 := 0
deriving DecidableEq, Repr, Inhabited

/-- The written form of `ApplicationSetPlugin`. -/
def ApplicationSetPlugin.codec : Codec ApplicationSetPlugin :=
  .record ApplicationSetPlugin.mk <|
    .next (.defaulted "name" (·.name) .text "") <|
    .next (.defaulted "token" (·.token) .text "") <|
    .next (.defaulted "baseUrl" (·.baseUrl) .text "") <|
    .next (.defaulted "requestTimeout" (·.requestTimeout) .int32 0) <|
    .done

/-- The application set extension. -/
structure ApplicationSetExtension where
  enabled : Option Bool := none
deriving DecidableEq, Repr, Inhabited

/-- The written form of `ApplicationSetExtension`. -/
def ApplicationSetExtension.codec : Codec ApplicationSetExtension :=
  .record ApplicationSetExtension.mk <|
    .next (.optional "enabled" (·.enabled) .flag) <|
    .done

end FleetOperator.ArgoCD
