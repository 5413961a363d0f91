import Provisioner.Controller.Step
import Provisioner.Limiter.Session

/-!
One particular run of a controller: all tasks on one thread, and time that stands still while any
of them can go on.

A task keeps its turn until it has to wait. The main task comes before the pump, the pump before
the workers, and the workers in the order in which they were called. A statement takes the time
that the world says, and one that takes none does not end a turn.
-/

namespace Provisioner

structure Schedule where
  controller : Controller Float
  /-- The statements under way, each with the moment at which it is through. -/
  sleeping : Timers Executor := {}
  /-- What the limiter's clock shows. -/
  reading : Nat := 0

namespace Schedule

def act (s : Schedule) (a : Action) : Schedule :=
  { s with
    controller := s.controller.step a
    reading := s.reading + readingNanos }

def now (s : Schedule) : Nat := s.controller.work.now

/-- The statement that is under way on someone's behalf. -/
def launched? (s : Schedule) : Executor → Option Launch
  | .worker i =>
    match s.controller.worker i with
    | .running _ _ _ l => some l
    | _ => none
  | .pump =>
    match s.controller.pump with
    | .at (.running _ l) => some l
    | _ => none
  | .caller =>
    match s.controller.caller with
    | .running _ l => some l
    | _ => none

/-- The next step of a task that is not in the middle of a statement, if it need not wait. -/
def next? (s : Schedule) : Executor → Option Action
  | .worker i =>
    match s.controller.worker i with
    | .idle | .handed _ | .reconciling .. | .releasing _ => some (.worker i s.reading)
    | .waiting => if s.controller.isWoken i then some (.worker i s.reading) else none
    | .running .. | .ended | .dead _ => none
  | .pump =>
    match s.controller.pump with
    | .at .free =>
      if s.controller.pumpStopped || !s.controller.inbox.isEmpty || s.controller.inboxClosed then
        some .pump
      else none
    | .at (.cleaning _) => some .pump
    | _ => none
  | .caller =>
    match s.controller.caller with
    | .cleaning _ => some .caller
    | _ => none

/-- More steps than a turn, and more turns than a request, are not taken. -/
def patience : Nat := 1000000

/-- The turn of a task, which ends when the task has to wait. -/
def turn (e : Executor) : Nat → Schedule → Schedule
  | 0, s => s
  | fuel + 1, s =>
    match s.launched? e with
    | some l =>
      match l.millis.getD 0 with
      | 0 => turn e fuel (s.act (.complete e))
      | ms => { s with sleeping := s.sleeping.set (s.now + waitFor ms) e }
    | none =>
      match s.next? e with
      | some a => turn e fuel (s.act a)
      | none => s

/-- The main task goes on if this is not where it waits. -/
def mainMoves (s : Schedule) : Bool :=
  match s.controller.main with
  | .syncing _ => s.controller.stopped || s.controller.synced.isSome
  | .serving => s.controller.stopped
  | .joining => s.controller.workers.all Worker.isOver
  | .ending _ =>
    match s.controller.pump with
    | .ended => true
    | _ => false
  | .unborn | .finished _ => false

/-- Turns until every task waits. -/
def settle : Nat → Schedule → Schedule
  | 0, s => s
  | fuel + 1, s =>
    if s.mainMoves then settle fuel (s.act (.main false))
    else if (s.next? .pump).isSome then settle fuel (s.turn .pump patience)
    else match s.controller.work.dispatch.signal.woken with
      | (i, _) :: _ => settle fuel (s.turn (.worker i) patience)
      | [] => s

/-- The next moment at which an alarm goes off or a statement is through. -/
def nextMoment? (s : Schedule) : Option Nat :=
  match s.controller.work.timers.first?, s.sleeping.first? with
  | some a, some b => some (min a b)
  | some a, none => some a
  | none, b => b

/-- The statement is through, and the task has its turn. -/
def wake (s : Schedule) (e : Executor) : Schedule := (s.act (.complete e)).turn e patience

/-- All that happens at a moment. -/
def reach (s : Schedule) (moment : Nat) : Schedule :=
  let s := s.act (.clock moment)
  let (due, sleeping) := s.sleeping.ring moment
  (due.foldl wake { s with sleeping }).settle patience

/-- The time up to `target`. -/
def passUntil (target : Nat) : Nat → Schedule → Schedule
  | 0, s => s
  | fuel + 1, s =>
    match s.nextMoment? with
    | some m => if m ≤ target then passUntil target fuel (s.reach m) else s.act (.clock target)
    | none => s.act (.clock target)

/-- The time until the notification that was handed in is handled. -/
def waitForCaller : Nat → Schedule → Schedule
  | 0, s => s
  | fuel + 1, s =>
    match s.controller.caller, s.nextMoment? with
    | .running .., some m => waitForCaller fuel (s.reach m)
    | _, _ => s

/-! ### Requests -/

/-- Something happens from outside, and everybody goes on as far as possible. -/
def request (s : Schedule) (a : Action) : Schedule := (s.act a).settle patience

def pass (s : Schedule) (millis : Nat) : Schedule := s.passUntil (s.now + waitFor millis) patience

/-- A notification is handed in; the answer comes when it is handled. -/
def call (s : Schedule) (n : Notification) : Schedule :=
  (((s.act (.call n)).turn .caller patience).settle patience).waitForCaller patience

def put (s : Schedule) (r : Resource) : Except Failure Key × Schedule :=
  ((s.controller.world.put r).1, s.request (.put r))

def remove (s : Schedule) (k : Key) : Bool × Schedule :=
  ((s.controller.world.remove k).1, s.request (.remove k))

/-- Whether the notification was taken in. -/
def send (s : Schedule) (n : Notification) : Bool × Schedule :=
  (s.controller.accepts, s.request (.send n))

/-- Whether the signal was delivered. -/
def stop (s : Schedule) : Bool × Schedule :=
  if s.controller.canStop then (true, s.request .stop) else (false, s)

/-- What was done to the world since the last time. -/
def flush (s : Schedule) : Journal × Schedule :=
  let (j, world) := s.controller.world.flush
  (j, { s with controller := { s.controller with world } })

end Schedule

end Provisioner
