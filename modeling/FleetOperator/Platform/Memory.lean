import FleetOperator.Platform.Request

/-!
# A platform in memory

A platform that keeps clusters and instances by name and reports them back the way they were
applied. Its behaviour can be prepared: reads of a cluster may be scripted, and whole methods may be
made to fail.
-/

namespace FleetOperator.Platform

/-- A scripted read of a cluster: the stored cluster with a reconciliation code, or a failure. -/
inductive ScriptedRead where
  | code (code : Int32)
  | failure (error : RemoteError)
deriving DecidableEq, Repr

/-- The content and the prepared behaviour of a platform. -/
structure Memory where
  clusters : Dict Cluster := .empty
  reads : Dict (List ScriptedRead) := .empty
  manifests : Dict (List (List UInt8)) := .empty
  manifestFailures : List RemoteError := []
  instances : Dict Instance := .empty
  exported : Dict Export := .empty
  lookup : Dict String := .empty
  failures : Dict RemoteError := .empty

/-- The status code of what is healthy and reconciled. -/
def StatusCode.settled : StatusCode := { code := 1 }

/-- The code of a size by its name, zero when there is no such size. -/
def sizeCode (name : String) : Int32 :=
  match ClusterSize.ofText? name with
  | some size => size.code
  | none => 0

/-- The cluster that a manifest asks for. -/
def ClusterManifest.toCluster (manifest : ClusterManifest) : Cluster :=
  let data := manifest.spec.data
  { id := "id-" ++ manifest.metadata.name
    name := manifest.metadata.name
    description := manifest.spec.description
    «namespace» := manifest.metadata.namespace
    namespaceScoped := manifest.spec.namespaceScoped
    data := {
      size := sizeCode data.size
      autoUpgradeDisabled := data.autoUpgradeDisabled
      kustomization := data.kustomization
      appReplication := data.appReplication
      targetVersion := data.targetVersion
      redisTunneling := data.redisTunneling
      multiClusterDashboardEnabled := data.multiClusterDashboardEnabled
      labels := manifest.metadata.labels
      annotations := manifest.metadata.annotations }
    healthStatus := some .settled
    reconciliationStatus := some .settled }

/-- The instance that a request asks for. -/
def ApplyInstance.toInstance (request : ApplyInstance) : Instance where
  id := "id-" ++ request.id
  name := request.id
  description := request.argocd.spec.description
  version := request.argocd.spec.version
  hostname := request.id ++ ".cd.akuity.cloud"
  ownerOrganizationName := "acme"
  healthStatus := some .settled
  reconciliationStatus := some .settled
  settings := some request.argocd.spec.settings

/-- The documents that the instance of a request exports. -/
def ApplyInstance.toExport (request : ApplyInstance) : Export where
  configMaps := request.configMaps
  plugins := request.plugins

namespace Memory

/-- The stored value at a name, or the failure that it is not there. -/
def find {α : Type} (kind : String) (values : Dict α) (name : String) : Except RemoteError α :=
  match values.get? name with
  | some value => .ok value
  | none => .error (.notFound (kind ++ " " ++ name))

/-- Reads a cluster: by the next scripted read of its name, if there is one, and else as it is
stored. -/
def readCluster (m : Memory) (name : String) : Except RemoteError Cluster × Memory :=
  match m.reads.get? name with
  | some (read :: rest) =>
    let m := { m with reads := m.reads.insert name rest }
    match read with
    | .failure error => (.error error, m)
    | .code code =>
      let stored := (m.clusters.get? name).getD { id := "id-" ++ name, name }
      (.ok { stored with reconciliationStatus := some { code } }, m)
  | _ => (find "cluster" m.clusters name, m)

/-- The pieces of the download of a cluster's manifests. -/
def download (m : Memory) (clusterId : String) : List Delivery :=
  m.manifestFailures.map .failure ++ .failuresEnd ::
    ((m.manifests.get? clusterId).getD []).map .octets ++ [.octetsEnd]

/-- The answer to a call whose method is not made to fail. -/
def serve : (request : Request) → Memory → Except RemoteError request.Value × Memory
  | .getCluster _ name, m => m.readCluster name
  | .getClusterManifests _ clusterId, m => (.ok (m.download clusterId), m)
  | .applyCluster _ manifest, m =>
    (.ok (), { m with clusters := m.clusters.insert manifest.metadata.name manifest.toCluster })
  | .deleteCluster _ name, m =>
    ((find "cluster" m.clusters name).map fun _ ↦ (),
      { m with clusters := m.clusters.erase name })
  | .getInstance name, m => (find "instance" m.instances name, m)
  | .exportInstance name, m => (find "instance" m.exported name, m)
  | .applyInstance request, m =>
    (.ok (), { m with
      exported := m.exported.insert request.id request.toExport
      instances := m.instances.insert request.id request.toInstance })
  | .deleteInstance name, m =>
    ((find "instance" m.instances name).map fun _ ↦ (),
      { m with exported := m.exported.erase name, instances := m.instances.erase name })

/-- The answer to a call. -/
def answer (request : Request) (m : Memory) : Except RemoteError request.Value × Memory :=
  match m.failures.get? request.method with
  | some error => (.error error, m)
  | none => serve request m

end Memory

end FleetOperator.Platform
