import FleetOperator.Error
import FleetOperator.Platform.Instance

/-!
# Calls to the platform

The calls by which the operator reads and changes clusters and instances on the platform. A cluster
is addressed by the identifier of its instance and its name, an instance by its name. The manifests
of a cluster's agent arrive piece by piece.
-/

namespace FleetOperator.Platform

/-- A piece of a download. Octets and failures arrive on channels of their own, each in order, and
each channel ends once. -/
inductive Delivery where
  | octets (chunk : List UInt8)
  | failure (error : RemoteError)
  | octetsEnd
  | failuresEnd
deriving DecidableEq, Repr

/-- A call to the platform. -/
inductive Request where
  | getCluster (instanceId name : String)
  | getClusterManifests (instanceId clusterId : String)
  | applyCluster (instanceId : String) (manifest : ClusterManifest)
  | deleteCluster (instanceId name : String)
  | getInstance (name : String)
  | exportInstance (name : String)
  | applyInstance (request : ApplyInstance)
  | deleteInstance (name : String)

namespace Request

/-- What a call gives when it succeeds. A download is given as the pieces in the order in which they
arrive. -/
abbrev Value : Request → Type
  | getCluster _ _ => Cluster
  | getClusterManifests _ _ => List Delivery
  | getInstance _ => Instance
  | exportInstance _ => Export
  | applyCluster _ _ | deleteCluster _ _ | applyInstance _ | deleteInstance _ => Unit

/-- The name of a call. -/
def method : Request → String
  | getCluster _ _ => "get_cluster"
  | getClusterManifests _ _ => "get_cluster_manifests"
  | applyCluster _ _ => "apply_cluster"
  | deleteCluster _ _ => "delete_cluster"
  | getInstance _ => "get_instance"
  | exportInstance _ => "export_instance"
  | applyInstance _ => "apply_instance"
  | deleteInstance _ => "delete_instance"

/-- What a call addresses. -/
def subject : Request → String
  | getCluster instanceId name => instanceId ++ "/" ++ name
  | getClusterManifests instanceId clusterId => instanceId ++ "/" ++ clusterId
  | applyCluster instanceId manifest => instanceId ++ "/" ++ manifest.metadata.name
  | deleteCluster instanceId name => instanceId ++ "/" ++ name
  | getInstance name => name
  | exportInstance name => name
  | applyInstance request => request.id
  | deleteInstance name => name

/-- Whether a call is about a cluster, and not about an instance. -/
def isOnCluster : Request → Bool
  | getCluster _ _ | getClusterManifests _ _ | applyCluster _ _ | deleteCluster _ _ => true
  | _ => false

/-- Whether a call changes the platform. -/
def isWrite : Request → Bool
  | applyCluster _ _ | deleteCluster _ _ | applyInstance _ | deleteInstance _ => true
  | _ => false

end Request

end FleetOperator.Platform
