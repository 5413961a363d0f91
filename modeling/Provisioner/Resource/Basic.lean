/-!
The declared resource: one role, its password and one database that the role owns.

A resource carries its metadata as it came; its status is written by the operator and by nobody
else. What is missing or not understood there counts as not provisioned yet.
-/

namespace Provisioner

/-- The metadata that the operator keeps; an absent field stays absent. -/
structure Metadata where
  name : Option String := none
  scope : Option String := none
  generateName : Option String := none
  resourceVersion : Option String := none
  uid : Option String := none
  generation : Option Int := none
  labels : Option (List (String × String)) := none
  annotations : Option (List (String × String)) := none
  finalizers : Option (List String) := none
  deriving Repr, DecidableEq, Inhabited

structure Spec where
  username : String
  password : String
  database : String
  deriving Repr, DecidableEq, Inhabited

/-- How far a resource has come. -/
inductive Progress where
  | unprovisioned
  | provisioned
  | error
  deriving Repr, DecidableEq, Inhabited

namespace Progress

def text : Progress → String
  | .unprovisioned => "unprovisioned"
  | .provisioned => "provisioned"
  | .error => "error"

/-- Any other word counts as not provisioned. -/
def ofText (s : String) : Progress :=
  if s = "provisioned" then .provisioned else if s = "error" then .error else .unprovisioned

@[simp] theorem ofText_text (p : Progress) : ofText p.text = p := by cases p <;> rfl

end Progress

structure Status where
  progress : Progress := .unprovisioned
  message : String := ""
  deriving Repr, DecidableEq, Inhabited

structure Resource where
  metadata : Metadata := {}
  spec : Spec
  status : Option Status := none
  deriving Repr, DecidableEq, Inhabited

namespace Resource

def progress (r : Resource) : Progress := (r.status.map (·.progress)).getD .unprovisioned

def statusMessage (r : Resource) : String := (r.status.map (·.message)).getD ""

/-- A copy with only the status replaced. -/
def withStatus (r : Resource) (s : Status) : Resource := { r with status := some s }

/-- The name by which people know the resource. -/
def displayName (r : Resource) : String := (r.metadata.name.or r.metadata.generateName).getD ""

@[simp] theorem withStatus_spec (r : Resource) (s : Status) : (r.withStatus s).spec = r.spec := rfl

@[simp] theorem withStatus_metadata (r : Resource) (s : Status) :
    (r.withStatus s).metadata = r.metadata := rfl

end Resource

end Provisioner
