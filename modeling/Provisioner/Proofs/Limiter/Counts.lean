import Mathlib.Tactic.Common
import Provisioner.Limiter.Basic

/-!
What the limiter of a controller counts.

The backoff is asked before the bucket, so that it counts a failure even if the bucket then has no
delay to give; the bucket itself counts nothing.
-/

namespace Provisioner.Limiter

variable {ρ α : Type} [BEq α]

/-- A backoff, and a bucket after it. -/
def Paced (l : Limiter ρ α) : Prop := ∃ b q, l = .worst [.backoff b, .bucket q]

omit [BEq α] in
lemma paced_limiter (p : RetryPace) (now : Nat) : (p.limiter now : Limiter Float α).Paced :=
  ⟨_, _, rfl⟩

lemma count_worst (b : Backoff α) (q : Bucket ρ) (x : α) :
    (Limiter.worst [.backoff b, .bucket q]).count x = b.count x := by
  simp [count, countAll]

lemma next_worst [Quantity ρ] (b : Backoff α) (q : Bucket ρ) (x : α) (reading : Nat) :
    ((Limiter.worst [.backoff b, .bucket q]).next x reading).2 =
      .worst [.backoff (b.next x).2, .bucket (q.next reading).2] := by
  cases hq : (q.next reading).1 with
  | none => simp [next, nextAll, hq]
  | some d => simp [next, nextAll, hq]

lemma forget_worst (b : Backoff α) (q : Bucket ρ) (x : α) :
    (Limiter.worst [.backoff b, .bucket q]).forget x =
      .worst [.backoff (b.forget x), .bucket q] := by
  simp [forget, forgetAll]

variable {l : Limiter ρ α}

lemma Paced.next [Quantity ρ] (h : l.Paced) (x : α) (reading : Nat) :
    (l.next x reading).2.Paced := by
  obtain ⟨b, q, rfl⟩ := h
  exact ⟨_, _, next_worst b q x reading⟩

lemma Paced.forget (h : l.Paced) (x : α) : (l.forget x).Paced := by
  obtain ⟨b, q, rfl⟩ := h
  exact ⟨_, _, forget_worst b q x⟩

variable [LawfulBEq α]

/-- One more failure is counted for `x`, and for nothing else. -/
lemma Paced.count_next [Quantity ρ] (h : l.Paced) (x y : α) (reading : Nat) :
    (l.next x reading).2.count y = if y == x then min (l.count x + 1) maxCount else l.count y := by
  obtain ⟨b, q, rfl⟩ := h
  rw [next_worst, count_worst, count_worst, count_worst, Backoff.count_next]

lemma Paced.count_forget (h : l.Paced) (x y : α) :
    (l.forget x).count y = if y == x then 0 else l.count y := by
  obtain ⟨b, q, rfl⟩ := h
  rw [forget_worst, count_worst, count_worst, Backoff.count_forget]

end Provisioner.Limiter
