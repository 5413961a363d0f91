import Provisioner.Limiter.Delay

/-!
Alarms set for later, on a clock of whole milliseconds.

A delay is rounded up, so that an alarm does not go off before the sleep over it has ended. How long
a sleep lasts is up to the platform. Alarms due at one moment go off together, in the order in which
they were set.
-/

namespace Provisioner

structure Timers (α : Type) where
  /-- The alarms in the order in which they were set, each with its deadline. -/
  alarms : List (Nat × α) := []
  deriving Repr, DecidableEq

/-- The least number of milliseconds that is not shorter than the delay. -/
def Delay.ceilMillis (d : Delay) : Nat := (d.nanos + 999999) / 1000000

/-- Thirty years of 365 days, in milliseconds. So long were sleeps seen to last that had thirty-one
years before them, or went past the end of the clock. -/
def longestWait : Nat := 30 * 365 * 86400000

/-- For how long one waits when that many milliseconds are asked for, on a platform where a sleep
ends after thirty years at the latest. -/
def waitFor (millis : Nat) : Nat := min millis longestWait

namespace Timers

variable {α : Type}

def set (t : Timers α) (deadline : Nat) (x : α) : Timers α := ⟨t.alarms ++ [(deadline, x)]⟩

/-- The deadline that comes first. -/
def first? (t : Timers α) : Option Nat := (t.alarms.map (·.1)).min?

/-- What goes off at that moment, and what stays. -/
def ring (t : Timers α) (moment : Nat) : List α × Timers α :=
  let (due, later) := t.alarms.partition (·.1 == moment)
  (due.map (·.2), ⟨later⟩)

theorem length_ring {t : Timers α} {m : Nat} (h : t.first? = some m) :
    (t.ring m).2.alarms.length < t.alarms.length := by
  obtain ⟨⟨n, x⟩, hx, rfl⟩ := List.mem_map.1 (List.min?_mem h)
  simp only [ring, List.partition_eq_filter_filter]
  exact List.length_filter_lt_length_iff_exists.2 ⟨_, hx, by simp⟩

end Timers

end Provisioner
