import Provisioner.Decimal.Numeral
import Provisioner.Text.Terminal

/-!
The environment of the program, as far as it is no matter of a single parameter.
-/

namespace Provisioner.CommandLine

/-- The variables that are set. -/
abbrev Environment := List (String × String)

namespace Environment

/-- The variables that matter besides those of the parameters. -/
def general : List String := ["CLICOLOR_FORCE", "NO_COLOR", "TOKIO_WORKER_THREADS"]

def has (env : Environment) (name : String) : Bool := (env.lookup name).getD "" != ""

/-- Text with controls is for terminals, and goes elsewhere only if that is asked for. -/
def keepsControls (env : Environment) : Bool := env.has "CLICOLOR_FORCE" && !env.has "NO_COLOR"

def present (env : Environment) (s : String) : String :=
  if env.keepsControls then s else Terminal.plain s

/-- A table of more threads has no room in memory. -/
def maxThreads : Nat := Decimal.maxInt64 / 8

/-- A number of threads, if one is given, is one with which the program can run. -/
def allowsThreads (env : Environment) : Bool :=
  match env.lookup "TOKIO_WORKER_THREADS" with
  | none => true
  | some s =>
    match Decimal.readNat maxThreads s with
    | .ok n => n != 0
    | .error _ => false

theorem present_of_not_keepsControls {env : Environment} (h : env.keepsControls = false)
    (s : String) : env.present s = Terminal.plain s := by
  simp [Environment.present, h]

end Environment

end Provisioner.CommandLine
