import Provisioner.Failure

/-!
The event that a reconcile attempt publishes about its resource.
-/

namespace Provisioner

inductive Severity where
  | normal
  | warning
  deriving Repr, DecidableEq

namespace Severity

def text : Severity → String
  | .normal => "Normal"
  | .warning => "Warning"

end Severity

structure Notice where
  severity : Severity
  message : String
  deriving Repr, DecidableEq

namespace Notice

/-- The reason given in every event. -/
def reason : String := "Synced"

/-- The name under which events are reported. -/
def reporter : String := "pgdb-operator"

def action : String := "Reconcile"

def syncedMessage : String := "Database synced successfully"

def synced : Notice := ⟨.normal, syncedMessage⟩

def failed (f : Failure) : Notice := ⟨.warning, "Failed to sync database: " ++ f.message⟩

end Notice

end Provisioner
