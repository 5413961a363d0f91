import Provisioner.Limiter.Session
import Provisioner.Queue.WorkQueue

/-!
Requests to a work queue, one after the other.

Before the next request is looked at, every getter that was woken has had its turn; the report of a
request names those that came away with something.
-/

namespace Provisioner

inductive Request (α ι : Type) where
  | add (x : α)
  /-- One look, without waiting. -/
  | tryGet
  /-- The getter `i` comes and waits if need be. -/
  | get (i : ι)
  | finish (x : α)
  | addAfter (x : α) (millis : Nat)
  | addRateLimited (x : α)
  | forget (x : α)
  | count (x : α)
  | close
  /-- The time goes on. -/
  | pass (millis : Nat)

inductive Answer (α : Type) where
  | done
  | fetched (f : Fetch α)
  | count (n : Nat)
  /-- The limiter had no delay to give. -/
  | noDelay

structure Session (α ι : Type) where
  work : WorkQueue Float α ι
  /-- What the limiter's clock shows. -/
  reading : Nat := 0

/-- What a request led to, and the getters that it served. -/
structure Served (α ι : Type) where
  answer : Answer α
  getters : List (ι × Fetch α)

namespace Session

variable {α ι : Type} [BEq α]

def act (s : Session α ι) : Request α ι → Served α ι × Session α ι
  | .add x => (⟨.done, []⟩, { s with work := s.work.add x })
  | .tryGet =>
    let (f, work) := s.work.tryGet
    (⟨.fetched f, []⟩, { s with work })
  | .get i =>
    let (f, work) := s.work.get i
    (⟨.done, [(i, f)]⟩, { s with work })
  | .finish x => (⟨.done, []⟩, { s with work := s.work.finish x })
  | .addAfter x ms => (⟨.done, []⟩, { s with work := s.work.addAfter x (.ofMillis ms) })
  | .addRateLimited x =>
    let (d, work) := s.work.addRateLimited x s.reading
    (⟨if d.isSome then .done else .noDelay, []⟩, { work, reading := s.reading + readingNanos })
  | .forget x => (⟨.done, []⟩, { s with work := s.work.forget x })
  | .count x => (⟨.count (s.work.count x), []⟩, s)
  | .close => (⟨.done, []⟩, { s with work := s.work.close })
  | .pass ms =>
    let (log, work) := s.work.advance (s.work.now + waitFor ms)
    (⟨.done, log⟩, { s with work })

/-- A getter that found nothing still waits, and is not reported. -/
def hasCome : ι × Fetch α → Bool
  | (_, .nothing) => false
  | _ => true

/-- A request, and after it the turns of the woken getters. -/
def serve (s : Session α ι) (r : Request α ι) : Served α ι × Session α ι :=
  let (served, s) := s.act r
  let (log, work) := s.work.settle
  (⟨served.answer, (served.getters ++ log).filter hasCome⟩, { s with work })

end Session

end Provisioner
