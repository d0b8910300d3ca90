import FleetOperator.Codec.Basic

/-!
# Cluster insight

The cluster insight extension: who may use it, vulnerability scans, runbooks and incidents.
-/

namespace FleetOperator.ArgoCD

/-- Who may use the extension. -/
structure KubeVisionExtension where
  enabled : Option Bool := none
  allowedUsernames : List String := []
  allowedGroups : List String := []
deriving DecidableEq, Repr, Inhabited

/-- The written form of `KubeVisionExtension`. -/
def KubeVisionExtension.codec : Codec KubeVisionExtension :=
  .record KubeVisionExtension.mk <|
    .next (.optional "enabled" (·.enabled) .flag) <|
    .next (.list "allowedUsernames" (·.allowedUsernames) .text) <|
    .next (.list "allowedGroups" (·.allowedGroups) .text) <|
    .done

/-- Scans for known vulnerabilities. -/
structure VulnerabilityScan where
  scanEnabled : Option Bool := none
  rescanInterval : Option String := none
deriving DecidableEq, Repr, Inhabited

/-- The written form of `VulnerabilityScan`. -/
def VulnerabilityScan.codec : Codec VulnerabilityScan :=
  .record VulnerabilityScan.mk <|
    .next (.optional "scanEnabled" (·.scanEnabled) .flag) <|
    .next (.optional "rescanInterval" (·.rescanInterval) .text) <|
    .done

/-- A runbook by name. -/
structure Runbook where
  name : String := ""
  content : String := ""
deriving DecidableEq, Repr, Inhabited

/-- The written form of `Runbook`. -/
def Runbook.codec : Codec Runbook :=
  .record Runbook.mk <|
    .next (.defaulted "name" (·.name) .text "") <|
    .next (.defaulted "content" (·.content) .text "") <|
    .done

/-- What incidents are raised for, and the runbooks that handle them. -/
structure Subscription where
  argocdApplications : List String := []
  k8sNamespaces : List String := []
  clusters : List String := []
  runbooks : List String := []
deriving DecidableEq, Repr, Inhabited

/-- The written form of `Subscription`. -/
def Subscription.codec : Codec Subscription :=
  .record Subscription.mk <|
    .next (.list "argocdApplications" (·.argocdApplications) .text) <|
    .next (.list "k8sNamespaces" (·.k8sNamespaces) .text) <|
    .next (.list "clusters" (·.clusters) .text) <|
    .next (.list "runbooks" (·.runbooks) .text) <|
    .done

/-- A webhook that raises incidents, with the places of their parts in its payload. -/
structure Webhook where
  name : String := ""
  descriptionPath : String := ""
  clusterPath : String := ""
  k8sNamespacePath : String := ""
  argocdApplicationNamePath : String := ""
deriving DecidableEq, Repr, Inhabited

/-- The written form of `Webhook`. -/
def Webhook.codec : Codec Webhook :=
  .record Webhook.mk <|
    .next (.defaulted "name" (·.name) .text "") <|
    .next (.defaulted "descriptionPath" (·.descriptionPath) .text "") <|
    .next (.defaulted "clusterPath" (·.clusterPath) .text "") <|
    .next (.defaulted "k8sNamespacePath" (·.k8sNamespacePath) .text "") <|
    .next (.defaulted "argocdApplicationNamePath" (·.argocdApplicationNamePath) .text "") <|
    .done

/-- When incidents are raised. -/
structure Incidents where
  degradedArgocdApps : Option Bool := none
  degradedK8sNamespaces : Option Bool := none
  subscriptions : List Subscription := []
  webhooks : List Webhook := []
deriving DecidableEq, Repr, Inhabited

/-- The written form of `Incidents`. -/
def Incidents.codec : Codec Incidents :=
  .record Incidents.mk <|
    .next (.optional "degradedArgocdApps" (·.degradedArgocdApps) .flag) <|
    .next (.optional "degradedK8sNamespaces" (·.degradedK8sNamespaces) .flag) <|
    .next (.list "subscriptions" (·.subscriptions) Subscription.codec) <|
    .next (.list "webhooks" (·.webhooks) Webhook.codec) <|
    .done

/-- Runbooks and incidents. -/
structure AiSettings where
  runbooks : List Runbook := []
  incidents : Option Incidents := none
deriving DecidableEq, Repr, Inhabited

/-- The written form of `AiSettings`. -/
def AiSettings.codec : Codec AiSettings :=
  .record AiSettings.mk <|
    .next (.list "runbooks" (·.runbooks) Runbook.codec) <|
    .next (.optional "incidents" (·.incidents) Incidents.codec) <|
    .done

/-- The settings of the extension. -/
structure KubeVision where
  cveScanConfig : Option VulnerabilityScan := none
  aiConfig : Option AiSettings := none
deriving DecidableEq, Repr, Inhabited

/-- The written form of `KubeVision`. -/
def KubeVision.codec : Codec KubeVision :=
  .record KubeVision.mk <|
    .next (.optional "cveScanConfig" (·.cveScanConfig) VulnerabilityScan.codec) <|
    .next (.optional "aiConfig" (·.aiConfig) AiSettings.codec) <|
    .done

end FleetOperator.ArgoCD
