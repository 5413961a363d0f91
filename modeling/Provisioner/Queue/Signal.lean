/-!
Waking those who wait.

A call wakes the one who has waited longest; with nobody there it is kept for the next who comes,
but no more than one call is kept. A general call wakes all who wait and is not kept.
-/

namespace Provisioner

structure Signal (ι : Type) where
  /-- A call came when nobody waited. -/
  kept : Bool := false
  /-- Those who wait, the one who came first in front. -/
  waiting : List ι := []
  /-- Those who were woken and have not gone on yet, each with whether the call was for it alone. -/
  woken : List (ι × Bool) := []
  deriving Repr, DecidableEq

namespace Signal

variable {ι : Type}

def call (s : Signal ι) : Signal ι :=
  match s.waiting with
  | [] => { s with kept := true }
  | i :: rest => { s with waiting := rest, woken := s.woken ++ [(i, true)] }

def callAll (s : Signal ι) : Signal ι :=
  { s with waiting := [], woken := s.woken ++ s.waiting.map (·, false) }

/-- A call that was kept is used up. -/
def consume (s : Signal ι) : Signal ι := { s with kept := false }

def wait (s : Signal ι) (i : ι) : Signal ι := { s with waiting := s.waiting ++ [i] }

/-- The next of the woken goes on. -/
def next? (s : Signal ι) : Option (ι × Signal ι) :=
  match s.woken with
  | [] => none
  | (i, _) :: rest => some (i, { s with woken := rest })

/-- `i` goes on, out of turn. -/
def rouse [BEq ι] (s : Signal ι) (i : ι) : Signal ι :=
  { s with woken := s.woken.eraseP (·.1 == i) }

/-- Newcomers, who go on after those who were woken before. -/
def welcome (s : Signal ι) (is : List ι) : Signal ι :=
  { s with woken := s.woken ++ is.map (·, false) }

/-- `i` gives up. A call that was for it alone goes to someone else. -/
def leave [BEq ι] (s : Signal ι) (i : ι) : Signal ι :=
  let s' := { s with
    waiting := s.waiting.filter (· != i)
    woken := s.woken.filter (·.1 != i) }
  if s.woken.any fun w => w.1 == i && w.2 then s'.call else s'

/-- What is left to happen: a woken one may wait again, one who waits may be woken. -/
def pending (s : Signal ι) : Nat := 2 * s.woken.length + s.waiting.length

theorem pending_call (s : Signal ι) : s.call.pending ≤ s.pending + 1 := by
  unfold call
  split <;> rename_i h <;> simp [pending, h]
  all_goals omega

theorem pending_next? {s t : Signal ι} {i : ι} (h : s.next? = some (i, t)) :
    t.pending + 2 = s.pending := by
  unfold next? at h
  split at h
  · cases h
  · rename_i w rest hw
    simp only [Option.some.injEq, Prod.mk.injEq] at h
    obtain ⟨-, rfl⟩ := h
    simp [pending, hw]
    omega

end Signal

end Provisioner
