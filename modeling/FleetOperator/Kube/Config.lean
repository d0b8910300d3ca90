import FleetOperator.Codec.Basic
import FleetOperator.Kube.Address
import FleetOperator.Text.Base64
import FleetOperator.Yaml.Value

/-!
# Client configurations

A client configuration names clusters, users and contexts; its current context says which cluster to
use, and in which namespace. It is read from a text of one or more YAML documents, where what stands
in an earlier document is not replaced by a later one.
-/

namespace FleetOperator.Kube

/-- How a cluster is reached. -/
structure ClusterAccess where
  server : Option String
  skipVerification : Option Bool
  authority : Option String
  authorityData : Option String
  proxy : Option String
  serverName : Option String
deriving DecidableEq, Repr, Inhabited

/-- The written form of `ClusterAccess`. -/
def ClusterAccess.codec : Codec ClusterAccess :=
  .keyedRecord ClusterAccess.mk <|
    .next (.optional "server" (·.server) .text) <|
    .next (.optional "insecure-skip-tls-verify" (·.skipVerification) .flag) <|
    .next (.optional "certificate-authority" (·.authority) .text) <|
    .next (.optional "certificate-authority-data" (·.authorityData) .text) <|
    .next (.optional "proxy-url" (·.proxy) .text) <|
    .next (.optional "tls-server-name" (·.serverName) .text) <|
    .done

/-- Whether the certificate authority can be read: it is not given, or it is given here. No files
are read. -/
def ClusterAccess.hasReadableAuthority (c : ClusterAccess) : Bool :=
  match c.authorityData with
  | some data => (Base64.decode? data.toList).isSome
  | none => c.authority.isNone

/-- What a user identifies with, as far as its form is checked. -/
structure UserAccess where
  username : Option String
  password : Option String
  token : Option String
  tokenFile : Option String
  clientCertificate : Option String
  clientCertificateData : Option String
  clientKey : Option String
  clientKeyData : Option String
  impersonated : Option String
  impersonatedGroups : Option (List String)
deriving DecidableEq, Repr, Inhabited

/-- The written form of `UserAccess`. -/
def UserAccess.codec : Codec UserAccess :=
  .keyedRecord UserAccess.mk <|
    .next (.optional "username" (·.username) .text) <|
    .next (.optional "password" (·.password) .text) <|
    .next (.optional "token" (·.token) .text) <|
    .next (.optional "tokenFile" (·.tokenFile) .text) <|
    .next (.optional "client-certificate" (·.clientCertificate) .text) <|
    .next (.optional "client-certificate-data" (·.clientCertificateData) .text) <|
    .next (.optional "client-key" (·.clientKey) .text) <|
    .next (.optional "client-key-data" (·.clientKeyData) .text) <|
    .next (.optional "as" (·.impersonated) .text) <|
    .next (.optional "as-groups" (·.impersonatedGroups) (.list .text)) <|
    .done

/-- A cluster, a user and a namespace to be used together. -/
structure Context where
  cluster : String
  user : Option String
  «namespace» : Option String
deriving DecidableEq, Repr, Inhabited

/-- The written form of `Context`. -/
def Context.codec : Codec Context :=
  .keyedRecord Context.mk <|
    .next (.required "cluster" (·.cluster) .text) <|
    .next (.optional "user" (·.user) .text) <|
    .next (.optional "namespace" (·.namespace) .text) <|
    .done

/-- A named entry, which may have no content. -/
structure Named (α : Type) where
  name : String
  content : Option α
deriving DecidableEq, Repr, Inhabited

/-- The written form of `Named`, whose content stands under a key. -/
def Named.codec {α : Type} (key : String) (c : Codec α) : Codec (Named α) :=
  .keyedRecord Named.mk <|
    .next (.required "name" (·.name) .text) <|
    .next (.optional key (·.content) c) <|
    .done

/-- The content of the first entry with a name. -/
def Named.find? {α : Type} (name : String) (entries : List (Named α)) : Option α :=
  (entries.find? (·.name == name)).bind (·.content)

/-- Entries followed by those of other entries whose names are new. -/
def Named.append {α : Type} (entries others : List (Named α)) : List (Named α) :=
  others.foldl (fun kept entry ↦
    if kept.any (·.name == entry.name) then kept else kept ++ [entry]) entries

/-- A client configuration. -/
structure Config where
  clusters : Option (List (Named ClusterAccess)) := none
  users : Option (List (Named UserAccess)) := none
  contexts : Option (List (Named Context)) := none
  currentContext : Option String := none
  kind : Option String := none
  apiVersion : Option String := none
deriving DecidableEq, Repr, Inhabited

namespace Config

/-- The written form of `Config`. -/
def codec : Codec Config :=
  .keyedRecord Config.mk <|
    .next (.optional "clusters" (·.clusters) (.list (Named.codec "cluster" ClusterAccess.codec))) <|
    .next (.optional "users" (·.users) (.list (Named.codec "user" UserAccess.codec))) <|
    .next (.optional "contexts" (·.contexts) (.list (Named.codec "context" Context.codec))) <|
    .next (.optional "current-context" (·.currentContext) .text) <|
    .next (.optional "kind" (·.kind) .text) <|
    .next (.optional "apiVersion" (·.apiVersion) .text) <|
    .done

/-- Whether two optional texts are both there and differ. -/
def differ (a b : Option String) : Bool := a.isSome && b.isSome && a != b

/-- A configuration filled up from another one of the same kind and version. -/
def merge? (c other : Config) : Option Config :=
  if differ c.kind other.kind || differ c.apiVersion other.apiVersion then none
  else some {
    clusters := some (Named.append (c.clusters.getD []) (other.clusters.getD []))
    users := some (Named.append (c.users.getD []) (other.users.getD []))
    contexts := some (Named.append (c.contexts.getD []) (other.contexts.getD []))
    currentContext := c.currentContext <|> other.currentContext
    kind := c.kind <|> other.kind
    apiVersion := c.apiVersion <|> other.apiVersion }

/-- The configuration of one document. An empty one is a configuration without entries. -/
def ofNode? (node : Yaml.Node) : Option Config :=
  match node.value?.bind (·.json?) with
  | some .null => some {}
  | some value => codec.ofJson? value
  | none => none

/-- A configuration filled up from documents. -/
def mergeNodes? : Config → List Yaml.Node → Option Config
  | c, [] => some c
  | c, node :: rest =>
    match (ofNode? node).bind c.merge? with
    | some merged => mergeNodes? merged rest
    | none => none

/-- The configuration that a text writes. -/
def read? (text : String) : Option Config := (Yaml.documents? text).bind (mergeNodes? {})

end Config

/-- The cluster to be used: the address of its server, and the namespace to use where none is
given. -/
structure Endpoint where
  server : String
  defaultNamespace : String
deriving DecidableEq, Repr

/-- The cluster of the current context, or why there is none. -/
def Config.endpoint (c : Config) : Except String Endpoint :=
  match c.currentContext with
  | none => .error "there is no current context"
  | some name =>
    match Named.find? name (c.contexts.getD []) with
    | none => .error ("there is no context " ++ name)
    | some context =>
      match Named.find? context.cluster (c.clusters.getD []) with
      | none => .error ("there is no cluster " ++ context.cluster)
      | some cluster =>
        match cluster.server with
        | none => .error ("the server of " ++ context.cluster ++ " is missing")
        | some server =>
          if !isAddress server then .error ("the server " ++ server ++ " is no address")
          else if !cluster.hasReadableAuthority then
            .error ("the certificate authority of " ++ context.cluster ++ " cannot be read")
          else .ok { server, defaultNamespace := context.namespace.getD "default" }

end FleetOperator.Kube
