import FleetOperator.Operator.Effect
import FleetOperator.Settings

/-!
# Waiting for a cluster

A cluster is read until the platform is done with it. A cluster that is not there yet and one that
is still being worked on are read again after a delay that doubles; any other failure ends the
waiting at once. When the attempts run out, the cluster has not been reconciled, whatever the last
read said.
-/

namespace FleetOperator

/-- The delay after an attempt, counted from zero. The factor stops growing before `2 ^ 32`. -/
def PollPolicy.delayAfter (policy : PollPolicy) (attempt : Nat) : Duration :=
  policy.initialDelay.times (if attempt < 32 then Nat.pow 2 attempt else Nat.pow 2 32 - 1)

/-- The failure of a cluster that is still being worked on. -/
def unreconciled (name : String) : RemoteError := .notReconciled ("cluster " ++ name)

/-- The failure after the last attempt, given that of the last read. -/
def exhausted (policy : PollPolicy) (name : String) (last : RemoteError) : RemoteError :=
  .notReconciled ("cluster " ++ name ++ " after " ++ Digits.textOfNat policy.attempts ++
    " attempts: " ++ last.message)

/-- Reads a cluster until it is settled, with some attempts left after some others, the last of
which gave a failure. -/
def waitFrom (policy : PollPolicy) (instanceId name : String) :
    Nat → Nat → RemoteError → Program effects (Except RemoteError Platform.Cluster)
  | 0, _, last => return .error (exhausted policy name last)
  | left + 1, attempt, _ => do
    if attempt > 0 then sleep (policy.delayAfter (attempt - 1))
    match ← callPlatform (.getCluster instanceId name) with
    | .ok cluster =>
      if cluster.isSettled then return .ok cluster
      else waitFrom policy instanceId name left (attempt + 1) (unreconciled name)
    | .error (.transport detail) => return .error (.transport detail)
    | .error failure => waitFrom policy instanceId name left (attempt + 1) failure

/-- Reads a cluster until it is settled. -/
def waitUntilSettled (policy : PollPolicy) (instanceId name : String) :
    Program effects (Except RemoteError Platform.Cluster) :=
  waitFrom policy instanceId name policy.attempts 0 (unreconciled name)

end FleetOperator
