import FleetOperator.Cluster.Observation
import FleetOperator.Instance.Spec

/-!
# Kinds

The two kinds of custom resource, as far as they differ in how they are addressed and written.
-/

namespace FleetOperator

/-- A kind of custom resource. -/
structure Kind (σ ω : Type) where
  name : String
  plural : String
  spec : Codec σ
  observation : Codec ω

namespace Kind

variable {σ ω : Type}

/-- The written form of a resource of a kind. -/
def codec (kind : Kind σ ω) : Codec (Resource σ ω) :=
  Resource.codec kind.name kind.spec kind.observation

/-- The path of the resources of a kind. -/
def path (kind : Kind σ ω) : String := "/apis/" ++ apiVersion ++ "/" ++ kind.plural

/-- Clusters. -/
def cluster : Kind ClusterSpec ClusterObservation :=
  ⟨"Cluster", "clusters", ClusterSpec.codec, ClusterObservation.codec⟩

/-- Instances. -/
def inst : Kind InstanceSpec InstanceObservation :=
  ⟨"Instance", "instances", InstanceSpec.codec, InstanceObservation.codec⟩

end Kind

end FleetOperator
