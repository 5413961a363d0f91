import Mathlib.Logic.Function.Basic
import Mathlib.Tactic.Common
import Provisioner.Controller.Step

/-!
The part of a controller that has to do with the server, and what can happen to it in a step.

The view leaves out the queue, the main task, the timers and the metrics. `View.Step` lists all that
a step can do to it, and a history keeps what the names on the server depend on, in order.
-/

namespace Provisioner

/-- The stage of the attempt that a worker is in. -/
def Worker.stage? : Worker → Option Stage
  | .reconciling _ s => some s
  | .running _ r b _ => some (.execute r b)
  | .idle | .waiting | .handed _ | .releasing _ | .ended | .dead _ => none

def Worker.launch? : Worker → Option Launch
  | .running _ _ _ l => some l
  | _ => none

namespace Handling

def batch? : Handling → Option Sql.Batch
  | .cleaning b | .running b _ => some b
  | .free => none

def launch? : Handling → Option Launch
  | .running _ l => some l
  | _ => none

/-- A clean-up goes on until its last statement is through. -/
def after (b : Sql.Batch) (outcome : Except Failure Unit) : Handling :=
  match b.advance? outcome with
  | some b => .cleaning b
  | none => .free

end Handling

structure View where
  world : World
  worker : Nat → Worker
  /-- How far the pump and the caller have come; a worker handles no notification. -/
  handling : Executor → Handling

inductive Occurrence where
  /-- Someone stores a resource. -/
  | stored (r : Resource)
  /-- From now on these statements are made to fail. -/
  | broke (faults : Table String Failure)
  /-- The clean-up after a deleted resource begins. -/
  | took (e : Executor) (o : Resource)
  /-- A statement is through. -/
  | completed (e : Executor) (l : Launch)

/-- Only a deletion is followed by statements. -/
def Notification.occurrence? (e : Executor) : Notification → Option Occurrence
  | .deleted o => some (.took e o)
  | .added _ | .updated .. => none

namespace View

def occupy (v : View) (i : Nat) (w : Worker) : View :=
  { v with worker := Function.update v.worker i w }

def handle (v : View) (e : Executor) (h : Handling) : View :=
  { v with handling := Function.update v.handling e h }

lemma handle_self {v : View} {e : Executor} {h : Handling} (he : v.handling e = h) :
    v.handle e h = v := by
  rw [handle, ← he, Function.update_eq_self]

inductive Step (v : View) : Option Occurrence → View → Prop
  | aside : Step v none v
  | stored (r : Resource) : Step v (some (.stored r)) { v with world := (v.world.put r).2 }
  | removed (k : Key) : Step v none { v with world := (v.world.remove k).2 }
  | broke (faults : Table String Failure) :
    Step v (some (.broke faults)) { v with world := { v.world with faults } }
  | brokeWrites (fault : Option Failure) :
    Step v none { v with world := { v.world with writeFault := fault } }
  | took (e : Executor) (o : Resource) (h : v.handling e = .free) :
    Step v (some (.took e o)) (v.handle e (.cleaning (Surroundings.cleanup o.spec)))
  | cleans (e : Executor) (b : Sql.Batch) (h : v.handling e = .cleaning b) :
    Step v none ({ v with world := (v.world.begin b.current).2 }.handle e
      (.running b (v.world.begin b.current).1))
  | cleaned (e : Executor) (b : Sql.Batch) (l : Launch) (h : v.handling e = .running b l) :
    Step v (some (.completed e l)) ({ v with world := (v.world.complete l).2 }.handle e
      (.after b (v.world.complete l).1))
  /-- The workers come to the queue. -/
  | started (w : Nat → Worker) (hw : ∀ i, (w i).stage? = none) :
    Step v none { v with worker := w }
  /-- A worker is between two attempts. -/
  | rests (i : Nat) (w : Worker) (hw : w.stage? = none) : Step v none (v.occupy i w)
  | looksUp (i : Nat) (key : String) (policy : Policy) (k : Key) :
    Step v none (v.occupy i (.reconciling key (.start policy (v.world.lookup k))))
  | executes (i : Nat) (key : String) (r : Resource) (b : Sql.Batch)
      (h : v.worker i = .reconciling key (.execute r b)) :
    Step v none ({ v with world := (v.world.begin b.current).2 }.occupy i
      (.running key r b (v.world.begin b.current).1))
  | executed (i : Nat) (key : String) (r : Resource) (b : Sql.Batch) (l : Launch)
      (h : v.worker i = .running key r b l) :
    Step v (some (.completed (.worker i) l)) ({ v with world := (v.world.complete l).2 }.occupy i
      (.reconciling key (.afterStatement r b (v.world.complete l).1)))
  | writes (i : Nat) (key : String) (r : Resource) (d : Verdict)
      (h : v.worker i = .reconciling key (.write r d)) :
    Step v none ({ v with world := (v.world.write (r.withStatus d.status)).2 }.occupy i
      (.reconciling key (.afterWrite r d (v.world.write (r.withStatus d.status)).1)))
  | publishes (i : Nat) (key : String) (r : Resource) (a : Attempt)
      (h : v.worker i = .reconciling key (.publish r a)) :
    Step v none ({ v with world := v.world.publish r (Stage.notice a) }.occupy i
      (.reconciling key (.finished a)))

/-- Steps one after another, with their history. -/
inductive Run (v : View) : List Occurrence → View → Prop
  | refl : Run v [] v
  | snoc {h : List Occurrence} {o : Option Occurrence} {v' v'' : View} (hr : Run v h v')
    (hs : Step v' o v'') : Run v (h ++ o.toList) v''

end View

namespace Controller

variable {ρ : Type}

/-- A worker that has not ended has a place of its own. -/
lemma worker_setWorker (c : Controller ρ) {i : Nat} (hi : c.worker i ≠ .ended) (w : Worker) :
    (c.setWorker i w).worker = Function.update c.worker i w := by
  have hl : i < c.workers.length := by
    by_contra hl
    exact hi (by simp [worker, List.getD, hl])
  funext j
  by_cases hj : j = i
  · subst hj
    simp [worker, setWorker, hl]
  · simp [worker, setWorker, hj, Ne.symm hj]

def handling (c : Controller ρ) : Executor → Handling
  | .worker _ => .free
  | .pump =>
    match c.pump with
    | .at h => h
    | .unborn | .ended => .free
  | .caller => c.caller

def view (c : Controller ρ) : View := ⟨c.world, c.worker, c.handling⟩

def launch? (c : Controller ρ) : Executor → Option Launch
  | .worker i => (c.worker i).launch?
  | .pump => (c.handling .pump).launch?
  | .caller => c.caller.launch?

def occurrence? (c : Controller ρ) : Action → Option Occurrence
  | .put r => some (.stored r)
  | .breakStatements faults => some (.broke faults)
  | .call n =>
    match c.caller with
    | .free => n.occurrence? .caller
    | _ => none
  | .pump =>
    match c.pump, c.pumpStopped, c.inbox with
    | .at .free, false, n :: _ => n.occurrence? .pump
    | _, _, _ => none
  | .complete e => (c.launch? e).map (.completed e)
  | _ => none

def history [Quantity ρ] (c : Controller ρ) : List Action → List Occurrence
  | [] => []
  | a :: as => (c.occurrence? a).toList ++ (c.step a).history as

end Controller

end Provisioner
