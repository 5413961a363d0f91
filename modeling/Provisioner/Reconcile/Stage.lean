import Provisioner.Reconcile.Notice
import Provisioner.Reconcile.Policy
import Provisioner.Resource.Validation
import Provisioner.Sql.BestEffort

/-!
One attempt to bring the server in line with a resource, cut at every effect.

A stage says which effect comes next; `after…` is the stage that follows the answer to it. Nothing
is executed for a resource that is provisioned, or held in error; for all others there is exactly
one write, of the status that the attempt led to.
-/

namespace Provisioner

/-- How an attempt ends when it does not fail. -/
inductive Outcome where
  /-- The resource is no longer there. -/
  | gone
  | alreadyProvisioned
  | heldInError
  | provisioned
  deriving Repr, DecidableEq

abbrev Attempt := Except Failure Outcome

/-- The status to be written, and how the attempt ends once it is written. -/
structure Verdict where
  status : Status
  attempt : Attempt

inductive Stage where
  | execute (r : Resource) (b : Sql.Batch)
  | write (r : Resource) (v : Verdict)
  | publish (r : Resource) (a : Attempt)
  | finished (a : Attempt)

namespace Stage

def provisionedMessage : String := "successful"

/-- The role first: it is to own the database. -/
def provisioning (s : Spec) : Sql.Batch where
  current := .createUser s.username s.password
  rest := [.createDatabase s.database s.username]

def verdict (r : Sql.Report) : Verdict :=
  match r.firstFailure? with
  | none => ⟨⟨.provisioned, provisionedMessage⟩, .ok .provisioned⟩
  | some f => ⟨⟨.error, r.message⟩, .error f⟩

/-- An invalid spec is reported before any statement is made of it. -/
def provision (r : Resource) : Stage :=
  match r.spec.validate with
  | .error message => .write r ⟨⟨.error, message⟩, .error (.invalidSpec message)⟩
  | .ok () => .execute r (provisioning r.spec)

/-- The stage that follows the look-up of the resource. -/
def start (policy : Policy) : Option Resource → Stage
  | none => .finished (.ok .gone)
  | some r =>
    match r.progress, policy with
    | .provisioned, _ => .publish r (.ok .alreadyProvisioned)
    | .error, .hold => .publish r (.ok .heldInError)
    | .error, .retry | .unprovisioned, _ => provision r

/-- A resource that turns out to be deleted is not reported about. -/
def conclude (r : Resource) : Attempt → Stage
  | .ok o => .publish r (.ok o)
  | .error f => if f.isNotFound then .finished (.ok .gone) else .publish r (.error f)

def afterStatement (r : Resource) (b : Sql.Batch) (outcome : Except Failure Unit) : Stage :=
  match b.advance? outcome with
  | some b => .execute r b
  | none => .write r (verdict (b.reportWith outcome))

def afterWrite (r : Resource) (v : Verdict) : Except Failure Unit → Stage
  | .ok () => conclude r v.attempt
  | .error f => conclude r (.error f)

def notice : Attempt → Notice
  | .ok _ => .synced
  | .error f => .failed f

/-- An upper bound for the effects to come. -/
def weight : Stage → Nat
  | .execute _ b => b.rest.length + 3
  | .write .. => 2
  | .publish .. => 1
  | .finished _ => 0

theorem weight_conclude (r : Resource) (a : Attempt) : (conclude r a).weight ≤ 1 := by
  unfold conclude
  split
  · exact Nat.le_refl 1
  · split <;> simp [weight]

theorem weight_afterWrite (r : Resource) (v : Verdict) (o : Except Failure Unit) :
    (afterWrite r v o).weight < (write r v).weight := by
  cases o with
  | ok _ => exact Nat.lt_succ_of_le (weight_conclude r v.attempt)
  | error f => exact Nat.lt_succ_of_le (weight_conclude r (.error f))

theorem weight_afterStatement (r : Resource) (b : Sql.Batch) (o : Except Failure Unit) :
    (afterStatement r b o).weight < (execute r b).weight := by
  obtain ⟨t, _ | ⟨u, us⟩, report⟩ := b <;> simp [afterStatement, Sql.Batch.advance?, weight]

end Stage

end Provisioner
