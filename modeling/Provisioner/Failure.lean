import Provisioner.Text.Quoted

/-!
What can go wrong, as causes.

`Failure.message` is the wording that ends in a status, an event or a report; the three predicates
say how a cause is treated.
-/

namespace Provisioner

/-- The body with which the API server refuses a request. -/
structure Refusal where
  status : String := ""
  message : String := ""
  reason : String := ""
  code : Nat := 0
  deriving Repr, DecidableEq

def Refusal.fields (r : Refusal) : String :=
  "ErrorResponse \x7b status: " ++ Text.quoted r.status ++ ", message: " ++ Text.quoted r.message ++
    ", reason: " ++ Text.quoted r.reason ++ ", code: " ++ toString r.code ++ " \x7d"

/-- Why a request to the API server came to nothing. -/
inductive ApiFailure where
  | refused (r : Refusal)
  | lineTooLong
  | tlsRequired
  | emptyName
  | badAddress
  | longAddress
  | unreadable (detail : String)
  deriving Repr, DecidableEq

def ApiFailure.message : ApiFailure → String
  | .refused r => "ApiError: " ++ r.message ++ ": " ++ r.reason ++ " (" ++ r.fields ++ ")"
  | .lineTooLong => "Error finding newline character"
  | .tlsRequired => "TLS required but no TLS stack selected"
  | .emptyName =>
    "Failed to build request: failed to validate request: A non-empty name is required"
  | .badAddress => "Failed to build request: failed to build request: invalid uri character"
  | .longAddress => "Failed to build request: failed to build request: uri too long"
  | .unreadable detail => "Error deserializing response: " ++ detail

inductive Failure where
  /-- The API server did not take a request. -/
  | api (cause : ApiFailure)
  /-- The SQL server refused a statement. -/
  | sql (text : String)
  /-- No connection to the SQL server. -/
  | connection (text : String)
  | invalidIdentifier (name : String)
  | invalidSpec (text : String)
  | invalidKey (text : String)
  | cacheSync
  | internal (text : String)
  deriving Repr, DecidableEq

namespace Failure

def message : Failure → String
  | .api cause => "Kubernetes API error: " ++ cause.message
  | .sql text => text
  | .connection text => "PostgreSQL connection failed: " ++ text
  | .invalidIdentifier name => "Invalid SQL identifier '" ++ name ++ "'"
  | .invalidSpec text => "Validation error: " ++ text
  | .invalidKey text => "Invalid resource key: " ++ Text.quoted text
  | .cacheSync => "failed to wait for caches to sync"
  | .internal text => "Internal error: " ++ text

/-- Another attempt may succeed. -/
def isRetryable : Failure → Bool
  | .api _ | .sql _ | .connection _ => true
  | _ => false

/-- The code with which the API server answered, if it did. -/
def refusalCode? : Failure → Option Nat
  | .api (.refused r) => some r.code
  | _ => none

/-- The object was changed by someone else in the meantime. -/
def isConflict (f : Failure) : Bool := f.refusalCode? == some 409

/-- The object is no longer there. -/
def isNotFound (f : Failure) : Bool := f.refusalCode? == some 404

end Failure

end Provisioner
