import FleetOperator.Codec.Basic

/-!
# Delegates

Components of an Argo CD instance that run on a managed cluster or on the control plane.
-/

namespace FleetOperator.ArgoCD

/-- A managed cluster by name. -/
structure ManagedCluster where
  clusterName : String := ""
deriving DecidableEq, Repr, Inhabited

/-- The written form of `ManagedCluster`. -/
def ManagedCluster.codec : Codec ManagedCluster :=
  .record ManagedCluster.mk <|
    .next (.defaulted "clusterName" (·.clusterName) .text "") <|
    .done

/-- Where the repo server runs. -/
structure RepoServerDelegate where
  controlPlane : Option Bool := none
  managedCluster : Option ManagedCluster := none
deriving DecidableEq, Repr, Inhabited

/-- The written form of `RepoServerDelegate`. -/
def RepoServerDelegate.codec : Codec RepoServerDelegate :=
  .record RepoServerDelegate.mk <|
    .next (.optional "controlPlane" (·.controlPlane) .flag) <|
    .next (.optional "managedCluster" (·.managedCluster) ManagedCluster.codec) <|
    .done

/-- Where the image updater runs. -/
structure ImageUpdaterDelegate where
  controlPlane : Option Bool := none
  managedCluster : Option ManagedCluster := none
deriving DecidableEq, Repr, Inhabited

/-- The written form of `ImageUpdaterDelegate`. -/
def ImageUpdaterDelegate.codec : Codec ImageUpdaterDelegate :=
  .record ImageUpdaterDelegate.mk <|
    .next (.optional "controlPlane" (·.controlPlane) .flag) <|
    .next (.optional "managedCluster" (·.managedCluster) ManagedCluster.codec) <|
    .done

/-- Where the application set controller runs. -/
structure AppSetDelegate where
  managedCluster : Option ManagedCluster := none
deriving DecidableEq, Repr, Inhabited

/-- The written form of `AppSetDelegate`. -/
def AppSetDelegate.codec : Codec AppSetDelegate :=
  .record AppSetDelegate.mk <|
    .next (.optional "managedCluster" (·.managedCluster) ManagedCluster.codec) <|
    .done

end FleetOperator.ArgoCD
