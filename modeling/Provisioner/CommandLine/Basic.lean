import Provisioner.CommandLine.Help
import Provisioner.CommandLine.Settings
import Provisioner.Resource.Manifest
import Provisioner.Sql.ConnectionString

/-!
What the program does with its command line, as far as no server is needed.

Past the command line it serves its metrics, makes a pool from the connection string and asks the
server for a sign of life. There is none to ask here, so that is where a run ends.
-/

namespace Provisioner.CommandLine

/-- How a run ends. -/
structure Exit where
  code : Nat
  output : String := ""
  errors : String := ""
  deriving Repr, DecidableEq

/-- The first line, without its end: a newline, or a carriage return and a newline. -/
def firstLine : List Char → List Char
  | [] | '\n' :: _ | '\x0d' :: '\n' :: _ => []
  | c :: cs => c :: firstLine cs

/-- What is seen first of the errors. -/
def Exit.firstError (e : Exit) : String := String.ofList (firstLine e.errors.toList)

def refuse (message : String) : Exit := { code := 1, errors := "Error: " ++ message ++ "\n" }

/-- The run breaks down, which is told after an empty line. -/
def breakDown (message : String) : Exit := { code := 101, errors := "\n" ++ message ++ "\n" }

def serve (s : Settings) : Exit :=
  if !(Net.socketHost? s.metricsAddress).any Net.Host.isLocal then
    refuse "Failed to install Prometheus exporter"
  else match Sql.checkConnection (s.connection.getD "") s.poolSize with
  | .error .poolTooLarge => breakDown Sql.ConnectionFault.poolTooLarge.message
  | .error _ => refuse "Failed to create PostgreSQL pool"
  | .ok _ => refuse "Failed to connect to PostgreSQL"

/-- The line was not understood. -/
def reject (env : Environment) (f : Fault) : Exit where
  code := 2
  errors := env.present (Terminal.styled .alarm "error:" ++ " " ++ f.message ++
    "\n\nFor more information, try " ++ quote .strong "--help" ++ ".\n")

def run (words : List String) (env : Environment) : Exit :=
  if !env.allowsThreads then breakDown "the number of threads is not valid"
  else match read words env with
  | .error .help => { code := 0, output := env.present (helpText env) }
  | .error .version => { code := 0, output := versionText }
  | .error (.fault f) => reject env f
  | .ok vs =>
    let s := vs.settings
    if s.printManifest then { code := 0, output := Manifest.definition.yaml ++ "\n" } else serve s

end Provisioner.CommandLine
