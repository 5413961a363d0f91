/-!
A queue in which an item stands at most once.

An item that is added while it stands in the line changes nothing. An item that is added while
someone works on it is only marked, and goes back into the line when that work is finished; so
nobody else gets it in the meantime, and all additions between two hand-outs become one.
-/

namespace Provisioner

structure Queue (α : Type) where
  /-- The items to hand out, the next one first. -/
  line : List α := []
  /-- The items with work to be done: in the line, or marked while someone has them. -/
  dirty : List α := []
  /-- The items that someone has. -/
  active : List α := []
  closed : Bool := false
  deriving Repr, DecidableEq

namespace Queue

variable {α : Type} [BEq α]

/-- Work on `x`; nothing is taken in once the queue is closed. -/
def add (q : Queue α) (x : α) : Queue α :=
  if q.closed || q.dirty.contains x then q
  else if q.active.contains x then { q with dirty := q.dirty ++ [x] }
  else { q with dirty := q.dirty ++ [x], line := q.line ++ [x] }

/-- The next item goes from the line into someone's hands. -/
def take (q : Queue α) : Option α × Queue α :=
  match q.line with
  | [] => (none, q)
  | x :: xs =>
    (some x, { q with
      line := xs
      dirty := q.dirty.filter (· != x)
      active := if q.active.contains x then q.active else q.active ++ [x] })

/-- The work on `x` is finished; if it was marked meanwhile it is queued again. -/
def finish (q : Queue α) (x : α) : Queue α :=
  { q with
    active := q.active.filter (· != x)
    line := if q.dirty.contains x then q.line ++ [x] else q.line }

/-- What is in the line is still handed out. -/
def close (q : Queue α) : Queue α := { q with closed := true }

def size (q : Queue α) : Nat := q.line.length

/-- From `q` to `q'` the line got longer, so a getter has something to fetch. -/
def hasGrown (q q' : Queue α) : Bool := q.line.length < q'.line.length

end Queue

end Provisioner
