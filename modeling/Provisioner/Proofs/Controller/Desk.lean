import Provisioner.Proofs.Controller.View
import Provisioner.Proofs.Queue.WorkQueue
import Provisioner.Proofs.World.Basic

/-!
The part of a controller that has to do with the queue, and what can happen to it in a step.

The desk leaves out the clean-ups, the limiter and who is called to the queue. `Desk.Step` lists all
that a step can do to it, and a deed is what such a step means for a key.
-/

namespace Provisioner

/-- How far the main task has come, as far as the workers can tell. -/
inductive Desk.Phase where
  /-- The workers are still to come. -/
  | early
  | serving
  /-- The queue is closed. -/
  | over

def Main.phase : Main → Desk.Phase
  | .unborn | .syncing _ => .early
  | .serving => .serving
  | .joining | .ending _ | .finished _ => .over

/-- The key that a notification puts into the queue; a deletion puts none. -/
def Notification.key? : Notification → Option Key
  | .added r | .updated _ r => (Key.ofResource r).toOption
  | .deleted _ => none

inductive Deed where
  /-- Someone stores a resource. -/
  | stored (r : Resource)
  /-- From now on writes are made to fail, or are not any more. -/
  | brokeWrites (fault : Option Failure)
  /-- A notification that the resource was added or updated is taken up. -/
  | announced (k : Key)
  /-- The worker comes away from the queue with the key. -/
  | handed (i : Nat) (key : String)
  /-- The worker looks up what the key stands for. -/
  | consulted (i : Nat) (key : String)
  deriving DecidableEq

/-- The action that it is, if it comes from outside. -/
def Deed.action? : Deed → Option Action
  | .stored r => some (.put r)
  | .brokeWrites fault => some (.breakWrites fault)
  | .announced _ | .handed .. | .consulted .. => none

structure Desk where
  policy : Policy
  world : World
  worker : Nat → Worker
  queue : Queue String
  /-- The keys that an alarm is set for. -/
  alarms : List String
  phase : Desk.Phase

namespace Desk

def occupy (d : Desk) (i : Nat) (w : Worker) : Desk :=
  { d with worker := Function.update d.worker i w }

lemma worker_occupy_self (d : Desk) (i : Nat) (w : Worker) : (d.occupy i w).worker i = w :=
  Function.update_self ..

lemma worker_occupy_of_ne (d : Desk) {i j : Nat} (h : j ≠ i) (w : Worker) :
    (d.occupy i w).worker j = d.worker j :=
  Function.update_of_ne h ..

/-- Between two keys. -/
def Vacant (d : Desk) (i : Nat) : Prop := d.worker i = .idle ∨ d.worker i = .waiting

inductive Step (d : Desk) : Option Deed → Desk → Prop
  | aside {w : World} (h : d.world.SameCache w) : Step d none { d with world := w }
  | stored (r : Resource) : Step d (some (.stored r)) { d with world := (d.world.put r).2 }
  | removed (k : Key) : Step d none { d with world := (d.world.remove k).2 }
  | brokeWrites (fault : Option Failure) :
    Step d (some (.brokeWrites fault)) { d with world := { d.world with writeFault := fault } }
  | queued (key : String) : Step d none { d with queue := d.queue.add key }
  | announced (k : Key) : Step d (some (.announced k)) { d with queue := d.queue.add k.text }
  | rang {due later : List String} (h : d.alarms.Perm (due ++ later)) :
    Step d none { d with queue := due.foldl Queue.add d.queue, alarms := later }
  | closed : Step d none { d with queue := d.queue.close, phase := .over }
  /-- The workers come to the queue, where nobody was before. -/
  | started (w : Nat → Worker) (hp : d.phase = .early) (hw : ∀ i, (w i).key? = none) :
    Step d none { d with worker := w, phase := .serving }
  /-- The worker comes away with nothing. -/
  | rested (i : Nat) (w : Worker) (hi : d.Vacant i) (hw : w.key? = none) : Step d none (d.occupy i w)
  | handed (i : Nat) {key : String} {q : Queue String} (hi : d.Vacant i)
      (hq : d.queue.take = (some key, q)) :
    Step d (some (.handed i key)) ({ d with queue := q }.occupy i (.handed key))
  | dropped (i : Nat) {key : String} {f : Failure} (hi : d.worker i = .handed key)
      (hk : Key.parse key = .error f) :
    Step d (some (.consulted i key)) (d.occupy i (.releasing key))
  | consulted (i : Nat) {key : String} {k : Key} (hi : d.worker i = .handed key)
      (hk : Key.parse key = .ok k) :
    Step d (some (.consulted i key))
      (d.occupy i (.reconciling key (.start d.policy (d.world.lookup k))))
  | executes (i : Nat) {key : String} {r : Resource} {b : Sql.Batch}
      (hi : d.worker i = .reconciling key (.execute r b)) :
    Step d none ({ d with world := (d.world.begin b.current).2 }.occupy i
      (.running key r b (d.world.begin b.current).1))
  | executed (i : Nat) {key : String} {r : Resource} {b : Sql.Batch} {l : Launch}
      (hi : d.worker i = .running key r b l) :
    Step d none ({ d with world := (d.world.complete l).2 }.occupy i
      (.reconciling key (.afterStatement r b (d.world.complete l).1)))
  | writes (i : Nat) {key : String} {r : Resource} {v : Verdict}
      (hi : d.worker i = .reconciling key (.write r v)) :
    Step d none ({ d with world := (d.world.write (r.withStatus v.status)).2 }.occupy i
      (.reconciling key (.afterWrite r v (d.world.write (r.withStatus v.status)).1)))
  | publishes (i : Nat) {key : String} {r : Resource} {a : Attempt}
      (hi : d.worker i = .reconciling key (.publish r a)) :
    Step d none ({ d with world := d.world.publish r (Stage.notice a) }.occupy i
      (.reconciling key (.finished a)))
  | succeeded (i : Nat) {key : String} {o : Outcome}
      (hi : d.worker i = .reconciling key (.finished (.ok o))) :
    Step d none (d.occupy i (.releasing key))
  /-- There is no telling when to try again. -/
  | died (i : Nat) {key : String} {f : Failure}
      (hi : d.worker i = .reconciling key (.finished (.error f))) : Step d none (d.occupy i (.dead key))
  | retries (i : Nat) {key : String} {f : Failure}
      (hi : d.worker i = .reconciling key (.finished (.error f))) :
    Step d none ({ d with queue := d.queue.add key }.occupy i (.releasing key))
  | putOff (i : Nat) {key : String} {f : Failure}
      (hi : d.worker i = .reconciling key (.finished (.error f))) :
    Step d none ({ d with alarms := d.alarms ++ [key] }.occupy i (.releasing key))
  | released (i : Nat) {key : String} (hi : d.worker i = .releasing key) :
    Step d none ({ d with queue := d.queue.finish key }.occupy i .idle)

end Desk

namespace Controller

variable {ρ : Type} (c : Controller ρ)

def desk : Desk where
  policy := c.policy
  world := c.world
  worker := c.worker
  queue := c.work.queue
  alarms := c.work.timers.alarms.map (·.2)
  phase := c.main.phase

/-- The first key in the line is for whoever looks into the queue. -/
def handed? (i : Nat) : Option Deed := c.work.queue.line.head?.map (.handed i)

/-- What an action means for a key. -/
def deed? : Action → Option Deed
  | .put r => some (.stored r)
  | .breakWrites fault => some (.brokeWrites fault)
  | .call n =>
    match c.caller with
    | .free => n.key?.map .announced
    | _ => none
  | .pump =>
    match c.pump, c.pumpStopped, c.inbox with
    | .at .free, false, n :: _ => n.key?.map .announced
    | _, _, _ => none
  | .worker i _ =>
    match c.worker i with
    | .idle => c.handed? i
    | .waiting => if c.isWoken i then c.handed? i else none
    | .handed key => some (.consulted i key)
    | _ => none
  | _ => none

end Controller

end Provisioner
