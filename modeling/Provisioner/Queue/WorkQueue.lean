import Provisioner.Limiter.Basic
import Provisioner.Queue.Dispatch
import Provisioner.Timers

/-!
A queue with its getters, a limiter for what failed and alarms for what is to be added later.

Deferred work is an alarm; when it goes off the item is added like any other, so an item that was
queued in the meantime is not queued twice.
-/

namespace Provisioner

structure WorkQueue (ρ α ι : Type) where
  dispatch : Dispatch α ι := {}
  limiter : Limiter ρ α
  timers : Timers α := {}
  /-- The time in milliseconds. -/
  now : Nat := 0
  /-- How many milliseconds a sleep over the delay lasts that begins at the moment. -/
  sleep : Nat → Delay → Nat := fun _ d => waitFor d.ceilMillis

namespace WorkQueue

variable {ρ α ι : Type} [BEq α]

def queue (w : WorkQueue ρ α ι) : Queue α := w.dispatch.queue

def add (w : WorkQueue ρ α ι) (x : α) : WorkQueue ρ α ι :=
  { w with dispatch := w.dispatch.add x }

def finish (w : WorkQueue ρ α ι) (x : α) : WorkQueue ρ α ι :=
  { w with dispatch := w.dispatch.finish x }

def close (w : WorkQueue ρ α ι) : WorkQueue ρ α ι := { w with dispatch := w.dispatch.close }

def get (w : WorkQueue ρ α ι) (i : ι) : Fetch α × WorkQueue ρ α ι :=
  let (f, dispatch) := w.dispatch.get i
  (f, { w with dispatch })

def tryGet (w : WorkQueue ρ α ι) : Fetch α × WorkQueue ρ α ι :=
  let (f, dispatch) := w.dispatch.tryGet
  (f, { w with dispatch })

/-- `x` is added when the sleep over the delay has ended. A closed queue sets no alarm. -/
def addAfter (w : WorkQueue ρ α ι) (x : α) (d : Delay) : WorkQueue ρ α ι :=
  if w.queue.closed then w
  else if d.nanos = 0 then w.add x
  else { w with timers := w.timers.set (w.now + w.sleep w.now d) x }

/-- `x` is added after the delay that its limiter gives; nothing if the limiter gives none.
`reading` is what the limiter's clock shows, in nanoseconds. -/
def addRateLimited [Quantity ρ] (w : WorkQueue ρ α ι) (x : α) (reading : Nat) :
    Option Delay × WorkQueue ρ α ι :=
  match w.limiter.next x reading with
  | (none, limiter) => (none, { w with limiter })
  | (some d, limiter) => (some d, { w with limiter }.addAfter x d)

def forget (w : WorkQueue ρ α ι) (x : α) : WorkQueue ρ α ι :=
  { w with limiter := w.limiter.forget x }

/-- How many failures are counted for `x`. -/
def count (w : WorkQueue ρ α ι) (x : α) : Nat := w.limiter.count x

/-- The clock moves to the moment, and what is due then is added. -/
def ring (w : WorkQueue ρ α ι) (moment : Nat) : WorkQueue ρ α ι :=
  let (due, timers) := w.timers.ring moment
  due.foldl add { w with timers, now := moment }

def settle (w : WorkQueue ρ α ι) : List (ι × Fetch α) × WorkQueue ρ α ι :=
  let (log, dispatch) := w.dispatch.settle
  (log, { w with dispatch })

theorem timers_foldl_add (xs : List α) (w : WorkQueue ρ α ι) :
    (xs.foldl add w).timers = w.timers := by
  induction xs generalizing w with
  | nil => rfl
  | cons x xs ih => exact ih _

theorem length_ring {w : WorkQueue ρ α ι} {m : Nat} (h : w.timers.first? = some m) :
    (w.ring m).timers.alarms.length < w.timers.alarms.length := by
  simp only [ring, timers_foldl_add]
  exact Timers.length_ring h

/-- The time up to `target`: one moment with alarms after the other, and after each of them the
woken getters look. -/
def advance (w : WorkQueue ρ α ι) (target : Nat) : List (ι × Fetch α) × WorkQueue ρ α ι :=
  match h : w.timers.first? with
  | none => ([], { w with now := target })
  | some m =>
    if target < m then ([], { w with now := target })
    else
      let r := (w.ring m).settle
      have : r.2.timers.alarms.length < w.timers.alarms.length := length_ring h
      let (later, w') := r.2.advance target
      (r.1 ++ later, w')
termination_by w.timers.alarms.length

end WorkQueue

end Provisioner
