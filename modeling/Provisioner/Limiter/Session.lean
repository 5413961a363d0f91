import Provisioner.Limiter.Basic

/-!
A limiter together with the clock that it reads.

The clock is steady and knows nothing of alarms: it moves by one microsecond with every reading.
-/

namespace Provisioner

structure Clocked (ρ α : Type) where
  limiter : Limiter ρ α
  clock : Nat := 0

/-- How far the clock moves with a reading, in nanoseconds. -/
def readingNanos : Nat := 1000

namespace Clocked

variable {ρ α : Type} [Quantity ρ] [BEq α]

def next (c : Clocked ρ α) (x : α) : Option Delay × Clocked ρ α :=
  let (d, limiter) := c.limiter.next x c.clock
  (d, ⟨limiter, c.clock + readingNanos⟩)

/-- So many delays for `x` in a row; none of them if one of the calls gives none. -/
def draws (c : Clocked ρ α) (x : α) : Nat → Option (List Delay) × Clocked ρ α
  | 0 => (some [], c)
  | n + 1 =>
    match c.next x with
    | (none, c) => (none, c)
    | (some d, c) =>
      let (ds, c) := c.draws x n
      (ds.map (d :: ·), c)

def forget (c : Clocked ρ α) (x : α) : Clocked ρ α := { c with limiter := c.limiter.forget x }

end Clocked

end Provisioner
