import Mathlib.Data.List.DropRight
import Provisioner.Limiter.Basic

/-!
Calls of a limiter in a row, and how often an item was tried.

An item is tried whenever a delay is asked for it; the count starts anew when the item is forgotten.
Each call comes with what the limiter's clock shows then.
-/

namespace Provisioner.Limiter

variable {ρ α : Type}

inductive Call (α : Type) where
  | next (x : α) (reading : Nat)
  | forget (x : α)
  deriving DecidableEq

def Call.item : Call α → α
  | .next x _ | .forget x => x

section

variable [Quantity ρ] [BEq α]

def step (l : Limiter ρ α) : Call α → Limiter ρ α
  | .next x reading => (l.next x reading).2
  | .forget x => l.forget x

def run (l : Limiter ρ α) (cs : List (Call α)) : Limiter ρ α := cs.foldl step l

lemma run_append (l : Limiter ρ α) (cs ds : List (Call α)) :
    l.run (cs ++ ds) = (l.run cs).run ds :=
  List.foldl_append

lemma run_concat (l : Limiter ρ α) (cs : List (Call α)) (c : Call α) :
    l.run (cs ++ [c]) = (l.run cs).step c :=
  l.run_append cs [c]

end

variable [DecidableEq α]

def Call.asksFor (x : α) : Call α → Bool
  | .next y _ => y = x
  | .forget _ => false

/-- How many delays were asked for `x` since it was last forgotten, or from the start. -/
def tries (x : α) (cs : List (Call α)) : Nat :=
  (cs.rtakeWhile (· != .forget x)).countP (·.asksFor x)

lemma tries_next (x y : α) (reading : Nat) (cs : List (Call α)) :
    tries x (cs ++ [.next y reading]) = tries x cs + if y = x then 1 else 0 := by
  simp [tries, Call.asksFor, List.countP_singleton]

lemma tries_forget (x y : α) (cs : List (Call α)) :
    tries x (cs ++ [.forget y]) = if y = x then 0 else tries x cs := by
  by_cases h : y = x
  · simp [tries, h]
  · simp [tries, h, Call.asksFor]

lemma tries_replicate {x : α} {n reading : Nat} :
    tries x (List.replicate n (.next x reading)) = n := by
  induction n with
  | zero => rfl
  | succ n ih => rw [List.replicate_succ', tries_next, ih, if_pos rfl]

/-- As long as it is not forgotten, every delay for `x` counts. -/
lemma tries_append {x : α} {cs more : List (Call α)} (h : .forget x ∉ more) :
    tries x (cs ++ more) = tries x cs + more.countP (·.asksFor x) := by
  induction more using List.reverseRecOn with
  | nil => simp
  | append_singleton more c ih =>
    rw [List.mem_append, not_or, List.mem_singleton] at h
    rw [← List.append_assoc, List.countP_append, List.countP_singleton]
    cases c with
    | next y reading =>
      rw [tries_next, ih h.1, Nat.add_assoc]
      simp [Call.asksFor]
    | forget y =>
      have hy : y ≠ x := fun hy => h.2 (hy ▸ rfl)
      rw [tries_forget, if_neg hy, ih h.1]
      rfl

/-- What is asked for other items does not count. -/
lemma tries_filter (x : α) (cs : List (Call α)) :
    tries x (cs.filter (·.item == x)) = tries x cs := by
  induction cs using List.reverseRecOn with
  | nil => rfl
  | append_singleton cs c ih =>
    rw [List.filter_append]
    by_cases hx : c.item = x
    · have hc : [c].filter (·.item == x) = [c] := by simp [hx]
      rw [hc]
      cases c <;> simp only [tries_next, tries_forget, ih]
    · have hc : [c].filter (·.item == x) = [] := by simp [hx]
      rw [hc, List.append_nil, ih]
      cases c with
      | next y reading =>
        have hy : y ≠ x := hx
        rw [tries_next, if_neg hy, Nat.add_zero]
      | forget y =>
        have hy : y ≠ x := hx
        rw [tries_forget, if_neg hy]

end Provisioner.Limiter
