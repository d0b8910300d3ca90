import FleetOperator.ArgoCD.ApplicationSet
import FleetOperator.ArgoCD.Delegate
import FleetOperator.ArgoCD.Extension
import FleetOperator.ArgoCD.KubeVision
import FleetOperator.ArgoCD.Network
import FleetOperator.ArgoCD.Plugin
import FleetOperator.ArgoCD.Secrets
import FleetOperator.ArgoCD.Settings
import FleetOperator.Bridge.Cluster
import FleetOperator.Bridge.Document
import FleetOperator.Bridge.Instance
import FleetOperator.Cluster.Observation
import FleetOperator.Cluster.Remote
import FleetOperator.Cluster.Spec
import FleetOperator.Codec.Basic
import FleetOperator.Codec.Source
import FleetOperator.Dict
import FleetOperator.Drift.Basic
import FleetOperator.Drift.LateInit
import FleetOperator.Drift.Normalize
import FleetOperator.Error
import FleetOperator.Instance.ConfigMaps
import FleetOperator.Instance.Remote
import FleetOperator.Instance.Spec
import FleetOperator.Json.Comparison
import FleetOperator.Json.Equivalence
import FleetOperator.Json.MergePatch
import FleetOperator.Json.Pointer
import FleetOperator.Json.Text
import FleetOperator.Json.Value
import FleetOperator.Kube.Address
import FleetOperator.Kube.Client
import FleetOperator.Kube.Config
import FleetOperator.Kube.Discovery
import FleetOperator.Kube.Memory
import FleetOperator.Kube.Request
import FleetOperator.Kube.ResourceType
import FleetOperator.Main
import FleetOperator.Manifest.Digest
import FleetOperator.Manifest.Document
import FleetOperator.Manifest.Object
import FleetOperator.Manifest.Route
import FleetOperator.Number.Digits
import FleetOperator.Number.Double
import FleetOperator.Number.Quantity
import FleetOperator.Number.Shortest
import FleetOperator.Operator.Access
import FleetOperator.Operator.Effect
import FleetOperator.Operator.Event
import FleetOperator.Operator.Poll
import FleetOperator.Operator.World
import FleetOperator.Platform.Cluster
import FleetOperator.Platform.Download
import FleetOperator.Platform.Instance
import FleetOperator.Platform.Memory
import FleetOperator.Platform.Request
import FleetOperator.Program
import FleetOperator.Proofs.ArgoCD.Mergeable
import FleetOperator.Proofs.Bridge.Documents
import FleetOperator.Proofs.Bridge.FixedPoint
import FleetOperator.Proofs.Bridge.Kustomization
import FleetOperator.Proofs.Bridge.Observation
import FleetOperator.Proofs.Cluster.Agent
import FleetOperator.Proofs.Cluster.Convergence
import FleetOperator.Proofs.Cluster.Deletion
import FleetOperator.Proofs.Cluster.Drift
import FleetOperator.Proofs.Cluster.Equivalence
import FleetOperator.Proofs.Cluster.Interrupted
import FleetOperator.Proofs.Cluster.Passes
import FleetOperator.Proofs.Cluster.RoundTrip
import FleetOperator.Proofs.Cluster.Runs
import FleetOperator.Proofs.Cluster.Scheme
import FleetOperator.Proofs.Cluster.Stored
import FleetOperator.Proofs.Cluster.Waiting
import FleetOperator.Proofs.Codec.Equivalence
import FleetOperator.Proofs.Codec.FieldMerge
import FleetOperator.Proofs.Codec.Lawful
import FleetOperator.Proofs.Codec.Merge
import FleetOperator.Proofs.Codec.Records
import FleetOperator.Proofs.Dict
import FleetOperator.Proofs.Drift.Customizations
import FleetOperator.Proofs.Drift.LateInit
import FleetOperator.Proofs.Drift.Normalize
import FleetOperator.Proofs.Drift.Slot
import FleetOperator.Proofs.Except
import FleetOperator.Proofs.Instance.Convergence
import FleetOperator.Proofs.Instance.Deletion
import FleetOperator.Proofs.Instance.Passes
import FleetOperator.Proofs.Instance.RoundTrip
import FleetOperator.Proofs.Instance.Runs
import FleetOperator.Proofs.Instance.Scheme
import FleetOperator.Proofs.Instance.Stored
import FleetOperator.Proofs.Interpreted
import FleetOperator.Proofs.Json.Canonical
import FleetOperator.Proofs.Json.Comparison
import FleetOperator.Proofs.Json.Coverage
import FleetOperator.Proofs.Json.Differences
import FleetOperator.Proofs.Json.Equivalence
import FleetOperator.Proofs.Json.MergePatch
import FleetOperator.Proofs.Json.Ordered
import FleetOperator.Proofs.Manifest.Objects
import FleetOperator.Proofs.Manifest.Split
import FleetOperator.Proofs.Number.Amount
import FleetOperator.Proofs.Number.Double
import FleetOperator.Proofs.Number.Quantity
import FleetOperator.Proofs.Number.Spelling
import FleetOperator.Proofs.Operator.Access
import FleetOperator.Proofs.Platform.Download
import FleetOperator.Proofs.Platform.Holdings
import FleetOperator.Proofs.Program
import FleetOperator.Proofs.Reconcile.Accepted
import FleetOperator.Proofs.Reconcile.Concurrent
import FleetOperator.Proofs.Reconcile.Conditions
import FleetOperator.Proofs.Reconcile.Course
import FleetOperator.Proofs.Reconcile.Deletion
import FleetOperator.Proofs.Reconcile.History
import FleetOperator.Proofs.Reconcile.Identity
import FleetOperator.Proofs.Reconcile.Looking
import FleetOperator.Proofs.Reconcile.NeverCreated
import FleetOperator.Proofs.Reconcile.OwnPatches
import FleetOperator.Proofs.Reconcile.Persisted
import FleetOperator.Proofs.Reconcile.Plan
import FleetOperator.Proofs.Reconcile.Stability
import FleetOperator.Proofs.Reconcile.UnderFinalizer
import FleetOperator.Proofs.Reconcile.Undisturbed
import FleetOperator.Proofs.Reconcile.WriteBack
import FleetOperator.Proofs.Reconcile.Written
import FleetOperator.Proofs.Resource.Mergeable
import FleetOperator.Proofs.Resource.Stored
import FleetOperator.Proofs.Runs
import FleetOperator.Proofs.Target.Application
import FleetOperator.Proofs.Target.Guard
import FleetOperator.Proofs.Target.Resumption
import FleetOperator.Proofs.Target.Store
import FleetOperator.Proofs.Text.Trim
import FleetOperator.Proofs.Text.Utf8
import FleetOperator.Proofs.Yaml.Blank
import FleetOperator.Proofs.Yaml.Sources
import FleetOperator.Proofs.Yaml.Writer
import FleetOperator.Reconcile.Controller
import FleetOperator.Reconcile.Drive
import FleetOperator.Reconcile.Finalizer
import FleetOperator.Reconcile.Pass
import FleetOperator.Resource.Basic
import FleetOperator.Resource.Condition
import FleetOperator.Resource.Definition
import FleetOperator.Resource.Kind
import FleetOperator.Resource.Metadata
import FleetOperator.Resource.Timestamp
import FleetOperator.Settings
import FleetOperator.Target.Apply
import FleetOperator.Target.Call
import FleetOperator.Target.Memory
import FleetOperator.Target.Server
import FleetOperator.Text.Base64
import FleetOperator.Text.Blank
import FleetOperator.Text.Graphic
import FleetOperator.Text.Quoted
import FleetOperator.Text.Utf8
import FleetOperator.Time
import FleetOperator.Yaml.Cursor
import FleetOperator.Yaml.Document
import FleetOperator.Yaml.Node
import FleetOperator.Yaml.Scalar
import FleetOperator.Yaml.ScalarText
import FleetOperator.Yaml.Token
import FleetOperator.Yaml.Value
import FleetOperator.Yaml.Writer
