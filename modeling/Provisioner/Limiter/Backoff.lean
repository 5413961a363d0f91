import Provisioner.Limiter.Delay
import Provisioner.Table

/-!
Exponential backoff for each item on its own.

After `n` failures the delay is `base * 2 ^ n`, where at most 31 doublings count, and never more
than the cap. Counts stop at the largest 32-bit number.
-/

namespace Provisioner

def maxCount : Nat := UInt32.size - 1

def maxDoublings : Nat := 31

structure Backoff (α : Type) where
  base : Delay
  cap : Delay
  failures : Table α Nat := {}
  deriving Repr

namespace Backoff

variable {α : Type} [BEq α]

def count (b : Backoff α) (x : α) : Nat := (b.failures.find? x).getD 0

/-- The delay after `n` failures. A product that is too long is above every cap. -/
def delayAfter (base cap : Delay) (n : Nat) : Delay :=
  match base.times? (Nat.pow 2 (min n maxDoublings)) with
  | some d => d.min cap
  | none => cap

/-- The delay for `x`; one more failure is counted. -/
def next (b : Backoff α) (x : α) : Delay × Backoff α :=
  (delayAfter b.base b.cap (b.count x),
    { b with failures := b.failures.insert x (min (b.count x + 1) maxCount) })

def forget (b : Backoff α) (x : α) : Backoff α := { b with failures := b.failures.erase x }

variable [LawfulBEq α]

theorem count_next (b : Backoff α) (x y : α) :
    (b.next x).2.count y = if y == x then min (b.count x + 1) maxCount else b.count y := by
  simp only [next, count, Table.find?_insert]
  split <;> rfl

theorem count_forget (b : Backoff α) (x y : α) :
    (b.forget x).count y = if y == x then 0 else b.count y := by
  simp only [forget, count, Table.find?_erase]
  split <;> rfl

end Backoff

end Provisioner
