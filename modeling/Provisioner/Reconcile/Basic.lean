import Provisioner.Reconcile.Stage
import Provisioner.Resource.Key

/-!
A reconcile attempt and a clean-up, from beginning to end, in given surroundings.

The surroundings are whatever answers: they hold the resources, execute statements, take the status
and the event. Each answer comes with the state in which the next one is asked for.
-/

namespace Provisioner

structure Surroundings (σ : Type) where
  lookup : Key → σ → Option Resource
  execute : Sql.Statement → σ → Except Failure Unit × σ
  write : Resource → σ → Except Failure Unit × σ
  publish : Resource → Notice → σ → σ

namespace Surroundings

variable {σ : Type} (e : Surroundings σ)

/-- The effects of a stage and of all that follow it. -/
def carryOut (stage : Stage) (s : σ) : Attempt × σ :=
  match stage with
  | .execute r b =>
    have := Stage.weight_afterStatement r b (e.execute b.current s).1
    carryOut (.afterStatement r b (e.execute b.current s).1) (e.execute b.current s).2
  | .write r v =>
    have := Stage.weight_afterWrite r v (e.write (r.withStatus v.status) s).1
    carryOut (.afterWrite r v (e.write (r.withStatus v.status) s).1)
      (e.write (r.withStatus v.status) s).2
  | .publish r a => (a, e.publish r (Stage.notice a) s)
  | .finished a => (a, s)
termination_by stage.weight
decreasing_by all_goals exact this

/-- One attempt for the resource of that key. -/
def reconcile (policy : Policy) (k : Key) (s : σ) : Attempt × σ :=
  e.carryOut (.start policy (e.lookup k s)) s

/-- The statements that undo the provisioning of a spec: the database first, while its owner is
still there. -/
def cleanup (s : Spec) : Sql.Batch where
  current := .dropDatabase s.database
  rest := [.dropRole s.username]

/-- What is left on the server of a deleted resource is dropped, as far as it goes. -/
def delete (r : Resource) (s : σ) : Sql.Report × σ :=
  Sql.runAll e.execute ((cleanup r.spec).current :: (cleanup r.spec).rest) {} s

/-- A status for a resource; the answer is what was submitted. -/
def report (r : Resource) (status : Status) (s : σ) : Except Failure Resource × σ :=
  let (outcome, s) := e.write (r.withStatus status) s
  (outcome.map fun () => r.withStatus status, s)

end Surroundings

end Provisioner
