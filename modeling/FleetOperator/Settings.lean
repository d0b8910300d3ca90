import FleetOperator.Error
import FleetOperator.Number.Digits
import FleetOperator.Text.Blank
import FleetOperator.Text.Quoted
import FleetOperator.Time

/-!
# Settings

What the operator is told by its environment: the address of the platform, the credentials it uses
there, and how often it looks. The three parts of the credentials must be given and must not be
empty; all else has a default.
-/

namespace FleetOperator

/-- What the operator identifies itself with on the platform. -/
structure Credentials where
  organizationId : String
  apiKeyId : String
  apiKeySecret : String
deriving DecidableEq

namespace Credentials

/-- Credentials of three parts, none of which may be empty. -/
def make (organizationId apiKeyId apiKeySecret : String) : Except Error Credentials :=
  if organizationId = "" then .error (.config "organization ID must not be empty")
  else if apiKeyId = "" then .error (.config "API key ID must not be empty")
  else if apiKeySecret = "" then .error (.config "API key secret must not be empty")
  else .ok { organizationId, apiKeyId, apiKeySecret }

/-- The value of the header that authorizes a call to the platform. -/
def authorization (c : Credentials) : String := "Bearer " ++ c.apiKeyId ++ ":" ++ c.apiKeySecret

/-- Credentials for people to read, without the secret. -/
def describe (c : Credentials) : String :=
  "Credentials \x7b organization_id: " ++ Text.quoted c.organizationId ++ ", api_key_id: " ++
    Text.quoted c.apiKeyId ++ ", .. \x7d"

end Credentials

/-- Bounded retries: how often to try, and the delay after the first try, which doubles with every
further one. -/
structure PollPolicy where
  attempts : Nat := 5
  initialDelay : Duration := .ofSeconds 1
deriving DecidableEq, Repr, Inhabited

/-- Why a text is no natural number below a bound. -/
inductive NumberFault where
  | empty
  | digit
  | large
deriving DecidableEq, Repr

namespace NumberFault

/-- The wording of a fault. -/
def message : NumberFault → String
  | empty => "cannot parse integer from empty string"
  | digit => "invalid digit found in string"
  | large => "number too large to fit in target type"

end NumberFault

/-- The number below a bound that decimal digits continue. -/
def continueNat (bound : Nat) : Nat → List Char → Except NumberFault Nat
  | n, [] => .ok n
  | n, c :: rest =>
    if c.isDigit then
      let next := n * 10 + (c.toNat - '0'.toNat)
      if next < bound then continueNat bound next rest else .error .large
    else .error .digit

/-- The number below a bound that decimal digits write, perhaps after a plus sign. -/
def readNat (bound : Nat) (text : List Char) : Except NumberFault Nat :=
  match text with
  | [] => .error .empty
  | ['+'] => .error .digit
  | '+' :: digits => continueNat bound 0 digits
  | digits => continueNat bound 0 digits

/-- What the operator is told by its environment. -/
structure Settings where
  serverUrl : String
  credentials : Credentials
  pollInterval : Duration
  poll : PollPolicy
deriving DecidableEq

namespace Settings

/-- The address of the platform. -/
def defaultServerUrl : String := "https://akuity.cloud/"

/-- A variable that must be set and not be empty. -/
def required (lookup : String → Option String) (key : String) : Except Error String :=
  match (lookup key).filter (· != "") with
  | some value => .ok value
  | none => .error (.config (key ++ " must be set"))

/-- A variable that holds a number of 64 bits, perhaps between blanks. -/
def number (lookup : String → Option String) (key : String) (default : Nat) : Except Error Nat :=
  match lookup key with
  | none => .ok default
  | some value =>
    match readNat (Nat.pow 2 64) (Text.trim value).toList with
    | .ok n => .ok n
    | .error fault => .error (.config (key ++ "=" ++ value ++ ": " ++ fault.message))

/-- The settings in an environment, given by the values of its variables. -/
def ofLookup (lookup : String → Option String) : Except Error Settings := do
  let organizationId ← required lookup "AKUITY_ORGANIZATION_ID"
  let apiKeyId ← required lookup "AKUITY_API_KEY_ID"
  let apiKeySecret ← required lookup "AKUITY_API_KEY_SECRET"
  let credentials ← Credentials.make organizationId apiKeyId apiKeySecret
  let attempts ← number lookup "AKUITY_RECONCILE_ATTEMPTS" 5
  if Nat.pow 2 32 ≤ attempts then
    throw (.config ("AKUITY_RECONCILE_ATTEMPTS: " ++ NumberFault.large.message))
  let interval ← number lookup "AKUITY_POLL_INTERVAL_SECS" 60
  let delay ← number lookup "AKUITY_RECONCILE_DELAY_MS" 1000
  return {
    serverUrl := (lookup "AKUITY_SERVER_URL").getD defaultServerUrl
    credentials
    pollInterval := .ofSeconds interval
    poll := { attempts, initialDelay := .ofMilliseconds delay } }

end Settings

end FleetOperator
