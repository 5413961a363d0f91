import Provisioner.Queue.Basic
import Provisioner.Queue.Signal

/-!
A queue and the getters that wait at it.

Each item that enters the line calls one getter, and a getter that leaves items behind calls the
next. A getter looks again before it waits, and every getter is called when the queue closes.
-/

namespace Provisioner

/-- What a getter comes away with. -/
inductive Fetch (α : Type) where
  | item (x : α)
  /-- The queue is closed and its line is empty. -/
  | closed
  /-- There is nothing yet. -/
  | nothing
  deriving Repr, DecidableEq

structure Dispatch (α ι : Type) where
  queue : Queue α := {}
  signal : Signal ι := {}
  deriving Repr

namespace Dispatch

variable {α ι : Type} [BEq α]

/-- A change to the queue; if the line got longer a getter is called. -/
def change (d : Dispatch α ι) (q : Queue α) : Dispatch α ι :=
  { d with queue := q, signal := if d.queue.hasGrown q then d.signal.call else d.signal }

def add (d : Dispatch α ι) (x : α) : Dispatch α ι := d.change (d.queue.add x)

def finish (d : Dispatch α ι) (x : α) : Dispatch α ι := d.change (d.queue.finish x)

def close (d : Dispatch α ι) : Dispatch α ι :=
  { d with queue := d.queue.close, signal := d.signal.callAll }

/-- One look at the line by someone who does not wait. -/
def tryGet (d : Dispatch α ι) : Fetch α × Dispatch α ι :=
  let signal := d.signal.consume
  match d.queue.take with
  | (some x, q) =>
    (.item x, { queue := q, signal := if q.line.isEmpty then signal else signal.call })
  | (none, q) => (if q.closed then .closed else .nothing, { queue := q, signal })

/-- The getter `i` comes, or comes back after it was woken, and waits if there is nothing. -/
def get (d : Dispatch α ι) (i : ι) : Fetch α × Dispatch α ι :=
  match d.tryGet with
  | (.nothing, d) => (.nothing, { d with signal := d.signal.wait i })
  | r => r

def rouse [BEq ι] (d : Dispatch α ι) (i : ι) : Dispatch α ι :=
  { d with signal := d.signal.rouse i }

def welcome (d : Dispatch α ι) (is : List ι) : Dispatch α ι :=
  { d with signal := d.signal.welcome is }

def leave [BEq ι] (d : Dispatch α ι) (i : ι) : Dispatch α ι :=
  { d with signal := d.signal.leave i }

/-- The next of the woken getters looks again. -/
def resume? (d : Dispatch α ι) : Option ((ι × Fetch α) × Dispatch α ι) :=
  d.signal.next?.map fun (i, signal) =>
    let (f, d) := { d with signal }.get i
    ((i, f), d)

theorem pending_get (d : Dispatch α ι) (i : ι) :
    (d.get i).2.signal.pending ≤ d.signal.pending + 1 := by
  have hc (s : Signal ι) : s.consume.pending = s.pending := rfl
  have hw (s : Signal ι) : (s.wait i).pending = s.pending + 1 := by
    simp [Signal.wait, Signal.pending]
    omega
  unfold get tryGet
  rcases d.queue.take with ⟨_ | x, q⟩
  · by_cases h : q.closed <;> simp [h, hc, hw]
  · by_cases h : q.line.isEmpty
    · simp [h, hc]
    · simpa [h, hc] using Signal.pending_call d.signal.consume

theorem pending_resume? {d e : Dispatch α ι} {r : ι × Fetch α} (h : d.resume? = some (r, e)) :
    e.signal.pending < d.signal.pending := by
  unfold resume? at h
  obtain ⟨⟨i, s⟩, hs, hr⟩ := Option.map_eq_some_iff.1 h
  have h2 := Signal.pending_next? hs
  have h3 := pending_get { d with signal := s } i
  simp only [Prod.mk.injEq] at hr
  obtain ⟨-, rfl⟩ := hr
  simp only at h3 ⊢
  omega

/-- Woken getters look until none is left, and the log tells what each came away with. -/
def settle (d : Dispatch α ι) : List (ι × Fetch α) × Dispatch α ι :=
  match h : d.resume? with
  | none => ([], d)
  | some (r, e) =>
    have := pending_resume? h
    let (log, d) := e.settle
    (r :: log, d)
termination_by d.signal.pending

end Dispatch

end Provisioner
