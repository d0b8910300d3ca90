/-!
# Errors

What may go wrong, by cause: a call to the platform, a call to a workload cluster, or a step of the
operator itself. `Error.message` is the one wording of every error.
-/

namespace FleetOperator

/-- A failed call to the platform. -/
inductive RemoteError where
  | notFound (what : String)
  | notReconciled (what : String)
  | transport (detail : String)
deriving DecidableEq, Repr, Inhabited

namespace RemoteError

/-- The wording of a failed call to the platform. -/
def message : RemoteError → String
  | notFound what => what ++ " was not found"
  | notReconciled what => what ++ " has not yet been reconciled"
  | transport detail => detail

/-- Whether the object of the call does not exist. -/
def isNotFound : RemoteError → Bool
  | notFound _ => true
  | _ => false

/-- Whether the object of the call is still being worked on. -/
def isNotReconciled : RemoteError → Bool
  | notReconciled _ => true
  | _ => false

end RemoteError

/-- A failed call to a workload cluster. -/
inductive TargetError where
  | notFound (what : String)
  | request (detail : String)
deriving DecidableEq, Repr, Inhabited

namespace TargetError

/-- The wording of a failed call to a workload cluster. -/
def message : TargetError → String
  | notFound what => what ++ " not found"
  | request detail => detail

/-- Whether the object of the call does not exist. -/
def isNotFound : TargetError → Bool
  | notFound _ => true
  | _ => false

end TargetError

/-- A failed step of the operator. -/
inductive Error where
  | kube (detail : String)
  | json (detail : String)
  | yaml (detail : String)
  | transform (subject reason : String)
  | notFound (what : String)
  | notReconciled (what : String)
  | remote (detail : String)
  | manifest (reason : String)
  | target (cause : TargetError)
  | config (reason : String)
  | finalizer (reason : String)
deriving DecidableEq, Repr, Inhabited

namespace Error

/-- The wording of an error. -/
def message : Error → String
  | kube detail => "Kubernetes API error: " ++ detail
  | json detail => "JSON error: " ++ detail
  | yaml detail => "YAML error: " ++ detail
  | transform subject reason => "could not transform " ++ subject ++ ": " ++ reason
  | notFound what => "not found: " ++ what
  | notReconciled what => "not reconciled: " ++ what
  | remote detail => "Akuity API error: " ++ detail
  | manifest reason => "manifest error: " ++ reason
  | target cause => "target cluster error: " ++ cause.message
  | config reason => "configuration error: " ++ reason
  | finalizer reason => "finalizer error: " ++ reason

/-- Whether an object does not exist. -/
def isNotFound : Error → Bool
  | notFound _ => true
  | _ => false

/-- Whether an object is still being worked on. -/
def isNotReconciled : Error → Bool
  | notReconciled _ => true
  | _ => false

/-- The error of a failed call to the platform. -/
def ofRemote : RemoteError → Error
  | .notFound what => notFound what
  | .notReconciled what => notReconciled what
  | .transport detail => remote detail

/-- The error of a subject that another error keeps from being transformed. -/
def transformOf (subject : String) (cause : Error) : Error := transform subject cause.message

end Error

end FleetOperator
