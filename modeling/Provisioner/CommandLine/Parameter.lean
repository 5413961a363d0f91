import Provisioner.Decimal.Numeral
import Provisioner.Net.Address
import Provisioner.Reconcile.Policy

/-!
The parameters of the command line: their names, the values they take, and where a value comes from
when the command line has none.
-/

namespace Provisioner.CommandLine

/-- What a parameter takes. -/
inductive Kind where
  | text
  /-- A whole number up to the limit. -/
  | natural (limit : Nat)
  /-- A number of 32 bits, read as a wider one first. -/
  | count
  | fraction
  | policy
  | socketAddress
  | logLevel
  /-- No value: it is given or not. -/
  | switch
  deriving Repr, DecidableEq

def maxNat64 : Nat := UInt64.size - 1

def maxNat32 : Nat := UInt32.size - 1

def logLevels : List String := ["error", "warn", "info", "debug", "trace"]

/-- A level is a word or its number, counted from the one that says least. -/
def logLevel? (s : String) : Option String :=
  match Decimal.readNat maxNat64 s with
  | .ok n => if n = 0 then none else logLevels[n - 1]?
  | .error _ => logLevels.find? (· == Decimal.lowerAscii s)

def logLevelMessage : String :=
  "error parsing level: expected one of \"error\", \"warn\", \"info\", \"debug\", \"trace\", " ++
    "or a number 1-5"

def readCount (s : String) : Except String Nat :=
  match Decimal.readInt64 s with
  | .error f => .error f.message
  | .ok n =>
    if 0 ≤ n ∧ n ≤ maxNat32 then .ok n.toNat
    else .error (toString n ++ " is not in 0..=" ++ toString maxNat32)

/-- What is wrong with a value; the empty text if there is nothing to say about it. -/
def Kind.check (k : Kind) (s : String) : Except String Unit :=
  match k with
  | .text => .ok ()
  | .natural limit => ((Decimal.readNat limit s).mapError Decimal.Fault.message).map fun _ => ()
  | .count => (readCount s).map fun _ => ()
  | .fraction => ((Decimal.readDouble s).mapError Decimal.Fault.message).map fun _ => ()
  | .policy => (Policy.parse s).map fun _ => ()
  | .socketAddress =>
    if (Net.socketHost? s).isSome then .ok () else .error "invalid socket address syntax"
  | .logLevel => if (logLevel? s).isSome then .ok () else .error logLevelMessage
  | .switch => if s = "true" ∨ s = "false" then .ok () else .error ""

structure Parameter where
  name : String
  kind : Kind
  summary : String
  /-- The environment variable that stands in for it. -/
  inherited? : Option String := none
  usual? : Option String := none
  deriving Repr, DecidableEq

namespace Parameter

def takesValue (p : Parameter) : Bool := p.kind != .switch

/-- The word for the value. -/
def placeholder (p : Parameter) : String :=
  p.name.map fun c => if c = '-' then '_' else c.toUpper

/-- What follows the name. -/
def placeholderText (p : Parameter) : String :=
  if p.takesValue then " <" ++ p.placeholder ++ ">" else ""

def usage (p : Parameter) : String := "--" ++ p.name ++ p.placeholderText

/-- The letter that stands for it on the command line. -/
def letter? (p : Parameter) : Option Char :=
  if p.name = "help" then some 'h' else if p.name = "version" then some 'V' else none

end Parameter

def help : Parameter := { name := "help", kind := .switch, summary := "Print help" }

def version : Parameter := { name := "version", kind := .switch, summary := "Print version" }

def connection : Parameter where
  name := "postgres-url"
  kind := .text
  summary := "Connection URL of the target PostgreSQL server"
  inherited? := some "POSTGRES_URL"

def poolSize : Parameter where
  name := "pool-size"
  kind := .natural maxNat64
  summary := "Maximum number of pooled PostgreSQL connections"
  inherited? := some "POOL_SIZE"
  usual? := some "16"

def workers : Parameter where
  name := "threadiness"
  kind := .natural maxNat64
  summary := "Number of concurrent reconciliation workers"
  inherited? := some "THREADINESS"
  usual? := some "2"

def scope : Parameter where
  name := "namespace"
  kind := .text
  summary := "Namespace to watch (empty for cluster-wide)"
  inherited? := some "WATCH_NAMESPACE"
  usual? := some ""

def policy : Parameter where
  name := "error-policy"
  kind := .policy
  summary := "What to do with databases in error state (hold, retry)"
  inherited? := some "ERROR_POLICY"
  usual? := some "hold"

def backoffBase : Parameter where
  name := "backoff-base-ms"
  kind := .natural maxNat64
  summary := "Initial retry delay after a failed reconciliation, in milliseconds"
  usual? := some "5"

def backoffCap : Parameter where
  name := "backoff-max-secs"
  kind := .natural maxNat64
  summary := "Maximum retry delay after repeated failures, in seconds"
  usual? := some "1000"

def rate : Parameter where
  name := "qps"
  kind := .fraction
  summary := "Overall requeue rate limit"
  usual? := some "10"

def burst : Parameter where
  name := "burst"
  kind := .count
  summary := "Overall requeue burst"
  usual? := some "100"

def metricsAddress : Parameter where
  name := "metrics-addr"
  kind := .socketAddress
  summary := "Metrics server address"
  inherited? := some "METRICS_ADDR"
  usual? := some "0.0.0.0:8080"

def healthAddress : Parameter where
  name := "health-addr"
  kind := .socketAddress
  summary := "Health probe address"
  inherited? := some "HEALTH_ADDR"
  usual? := some "0.0.0.0:8081"

def logLevel : Parameter where
  name := "log-level"
  kind := .logLevel
  summary := "Log level (trace, debug, info, warn, error)"
  inherited? := some "LOG_LEVEL"
  usual? := some "info"

def logJson : Parameter where
  name := "log-json"
  kind := .switch
  summary := "Enable JSON log format"
  inherited? := some "LOG_JSON"

def printManifest : Parameter where
  name := "print-crd"
  kind := .switch
  summary := "Print CRD YAML and exit"

/-- All parameters, in the order in which they are described. -/
def parameters : List Parameter :=
  [connection, poolSize, workers, scope, policy, backoffBase, backoffCap, rate, burst,
   metricsAddress, healthAddress, logLevel, logJson, printManifest, help, version]

end Provisioner.CommandLine
