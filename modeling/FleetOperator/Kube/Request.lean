import FleetOperator.Json.Value

/-!
# Requests to Kubernetes

Requests to the API server of a Kubernetes cluster, and the ways in which they fail.
-/

namespace FleetOperator.Kube

/-- How the body of a patch is to be read: as a merge patch, or as the object that is to be. -/
inductive PatchKind where
  | merge
  | apply
deriving DecidableEq, Repr

/-- The media type of a patch. -/
def PatchKind.contentType : PatchKind → String
  | merge => "application/merge-patch+json"
  | apply => "application/apply-patch+yaml"

/-- What a request does. -/
inductive Method where
  | get
  | patch (kind : PatchKind) (body : Json)
  | delete
deriving DecidableEq, Repr

/-- The name of what a request does. -/
def Method.text : Method → String
  | get => "GET"
  | patch _ _ => "PATCH"
  | delete => "DELETE"

/-- A request. -/
structure Request where
  method : Method
  path : String
  query : List String := []
deriving DecidableEq, Repr

/-- Why a request failed: the server answered with a failure, it could not be reached, its answer
could not be read, or the request could not be made at all. -/
inductive Failure where
  | status (code : Int) (reason message : String)
  | service (detail : String)
  | response (detail : String)
  | request (detail : String)
deriving DecidableEq, Repr

namespace Failure

/-- The wording of a failure. -/
def message : Failure → String
  | status _ reason text => "ApiError: " ++ text ++ ": " ++ reason
  | service detail => "ServiceError: " ++ detail
  | response detail => "Error deserializing response: " ++ detail
  | request detail => "failed to build request: " ++ detail

/-- The failure of a request for something that is not there. -/
def notFound (path : String) : Failure := status 404 "NotFound" (path ++ " not found")

/-- Whether the server answered that something is not there, by its reason. -/
def saysNotFound : Failure → Bool
  | status _ reason _ => reason == "NotFound"
  | _ => false

/-- Whether the server answered that something is not there, by its code. -/
def hasCodeNotFound : Failure → Bool
  | status code _ _ => code == 404
  | _ => false

end Failure

/-- The answer to a request: a JSON value, or a failure. -/
abbrev Response := Except Failure Json

end FleetOperator.Kube
