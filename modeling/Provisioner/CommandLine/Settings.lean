import Provisioner.CommandLine.Parse
import Provisioner.Limiter.Basic

/-!
The settings of the operator, from the values of its command line.
-/

namespace Provisioner.CommandLine

structure Settings where
  connection : Option String
  poolSize : Nat
  workers : Nat
  /-- Empty for all scopes. -/
  scope : String
  policy : Policy
  pace : RetryPace
  metricsAddress : String
  healthAddress : String
  logLevel : String
  logJson : Bool
  printManifest : Bool

/-- The value of a parameter, or else its default. -/
def Values.text (vs : Values) (p : Parameter) : String :=
  ((vs.lookup p.name).or p.usual?).getD ""

def Values.nat (vs : Values) (p : Parameter) : Nat :=
  ((Decimal.readNat maxNat64 (vs.text p)).toOption).getD 0

def Values.isTrue (vs : Values) (p : Parameter) : Bool := vs.lookup p.name == some "true"

def Values.pace (vs : Values) : RetryPace where
  base := .ofMillis (vs.nat backoffBase)
  cap := .ofSeconds (vs.nat backoffCap)
  rate := ((Decimal.readDouble (vs.text rate)).toOption).getD 0.0
  burst := ((readCount (vs.text burst)).toOption).getD 0

def Values.settings (vs : Values) : Settings where
  connection := vs.lookup connection.name
  poolSize := vs.nat poolSize
  workers := vs.nat workers
  scope := vs.text scope
  policy := ((Policy.parse (vs.text policy)).toOption).getD .hold
  pace := vs.pace
  metricsAddress := vs.text metricsAddress
  healthAddress := vs.text healthAddress
  logLevel := (logLevel? (vs.text logLevel)).getD "info"
  logJson := vs.isTrue logJson
  printManifest := vs.isTrue printManifest

end Provisioner.CommandLine
