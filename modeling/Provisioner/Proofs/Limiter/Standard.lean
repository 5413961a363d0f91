import Provisioner.Proofs.Limiter.Counts
import Provisioner.Proofs.Limiter.Extended
import Provisioner.Proofs.Limiter.Worst

/-!
How many calls the limiter of a controller stands.

Its backoff always has a delay, so that it has one whenever its bucket has. The bucket sees the calls
for all items, and nothing of what is forgotten.
-/

namespace Provisioner

namespace Limiter

variable {ρ α : Type} [Quantity ρ]

/-- Backoff for each item, with a bucket over all of them, whatever the bucket computes with. -/
def standard (base cap : Delay) (rate : ρ) (burst start : Nat) : Limiter ρ α :=
  .worst [.backoff { base, cap }, .bucket (Bucket.full rate burst start)]

lemma limiter_eq_standard (p : RetryPace) (now : Nat) :
    (p.limiter now : Limiter Float α) = standard p.base p.cap p.rate p.burst now := rfl

def Call.reading? : Call α → Option Nat
  | .next _ reading => some reading
  | .forget _ => none

/-- What the clock showed when delays were asked for. -/
def readings (cs : List (Call α)) : List Nat := cs.filterMap Call.reading?

variable [BEq α]

lemma run_worst (b : Backoff α) (q : Bucket ρ) (cs : List (Call α)) :
    ∃ b' : Backoff α, (Limiter.worst [.backoff b, .bucket q]).run cs =
      .worst [.backoff b', .bucket (q.drain (readings cs))] := by
  induction cs generalizing b q with
  | nil => exact ⟨b, rfl⟩
  | cons c cs ih =>
    cases c with
    | next x reading =>
      obtain ⟨b', hrun⟩ := ih (b.next x).2 (q.next reading).2
      refine ⟨b', Eq.trans ?_ hrun⟩
      exact congrArg (run · cs) (next_worst b q x reading)
    | forget x =>
      obtain ⟨b', hrun⟩ := ih (b.forget x) q
      refine ⟨b', Eq.trans ?_ hrun⟩
      exact congrArg (run · cs) (forget_worst b q x)

lemma isSome_next_worst (b : Backoff α) (q : Bucket ρ) (x : α) (reading : Nat) :
    ((Limiter.worst [.backoff b, .bucket q]).next x reading).1.isSome ↔
      (q.next reading).1.isSome := by
  rw [next_parts, Delay.isSome_longest?]
  simp [next]

lemma isSome_next_standard (base cap : Delay) (rate : ρ) (burst start : Nat) (cs : List (Call α))
    (x : α) (reading : Nat) :
    (((standard base cap rate burst start).run cs).next x reading).1.isSome ↔
      (((Bucket.full rate burst start).drain (readings cs)).next reading).1.isSome := by
  obtain ⟨b, hrun⟩ := run_worst { base, cap } (Bucket.full rate burst start) cs
  rw [standard, hrun, isSome_next_worst]

/-- The limiter stands as many calls as its bucket. -/
lemma sustains_iff [Inhabited α] (base cap : Delay) (rate : Extended) (burst start n : Nat) :
    rate.Sustains burst n ↔ ∀ calls : List (Call α), (readings calls).length = n → ∀ x reading,
      (((standard base cap rate burst start).run calls).next x reading).1.isSome := by
  simp only [isSome_next_standard]
  constructor
  · rintro h calls rfl x reading
    exact Bucket.isSome_of_sustains h reading
  · intro h
    have hreadings : readings (List.replicate n (.next (default : α) start)) =
        List.replicate n start := List.filterMap_replicate_of_some rfl
    have hnext := h (List.replicate n (.next default start)) (by simp [hreadings]) default start
    rw [hreadings] at hnext
    exact Bucket.sustains_of_still hnext

end Limiter

end Provisioner
