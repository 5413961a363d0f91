import Mathlib.Algebra.Group.Nat.Even
import Provisioner.Proofs.Limiter.Calls

/-!
The delays of a backoff, in terms of what was asked of it before.

A delay depends only on how often its own item was tried since it was last forgotten. The product is
never cut off: one that is too long for a delay is above every cap, so that the cap is the answer.
-/

namespace Provisioner

namespace Backoff

/-- The arithmetic of a delay, without any bound on the product. -/
lemma nanos_delayAfter (base cap : Delay) (n : Nat) :
    (delayAfter base cap n).nanos = min (base.nanos * 2 ^ min n 31) cap.nanos := by
  have hpow : Nat.pow 2 (min n maxDoublings) = 2 ^ min n 31 := rfl
  unfold delayAfter Delay.times? Delay.ofNanos?
  rw [hpow]
  by_cases h : base.nanos * 2 ^ min n 31 ≤ maxNanos
  · rw [dif_pos h, Delay.nanos_min]
  · rw [dif_neg h]
    have hcap := cap.bounded
    change cap.nanos = min (base.nanos * 2 ^ min n 31) cap.nanos
    omega

/-- The count stops long after the delay has stopped growing. -/
lemma delayAfter_min (base cap : Delay) (n : Nat) :
    delayAfter base cap (min n maxCount) = delayAfter base cap n := by
  have h : maxDoublings ≤ maxCount := by decide
  unfold delayAfter
  rw [min_assoc, min_eq_right h]

lemma nanos_delayAfter_mono (base cap : Delay) {m n : Nat} (h : m ≤ n) :
    (delayAfter base cap m).nanos ≤ (delayAfter base cap n).nanos := by
  have hpow : 2 ^ min m 31 ≤ 2 ^ min n 31 := Nat.pow_le_pow_right (by decide) (by omega)
  have hproduct := Nat.mul_le_mul_left base.nanos hpow
  calc (delayAfter base cap m).nanos
      = min (base.nanos * 2 ^ min m 31) cap.nanos := nanos_delayAfter base cap m
    _ ≤ min (base.nanos * 2 ^ min n 31) cap.nanos := by omega
    _ = (delayAfter base cap n).nanos := (nanos_delayAfter base cap n).symm

lemma delayAfter_eq_cap {base cap : Delay} {n : Nat} (h : cap.nanos ≤ base.nanos * 2 ^ min n 31) :
    delayAfter base cap n = cap :=
  Delay.ext ((nanos_delayAfter base cap n).trans (min_eq_right h))

/-- If all doublings do not come up to the cap, then none of them does. -/
lemma nanos_delayAfter_lt {base cap : Delay} (h : base.nanos * 2 ^ 31 < cap.nanos) (n : Nat) :
    (delayAfter base cap n).nanos < cap.nanos :=
  calc (delayAfter base cap n).nanos
      ≤ (delayAfter base cap (max n 31)).nanos := nanos_delayAfter_mono base cap (le_max_left n 31)
    _ = min (base.nanos * 2 ^ 31) cap.nanos := by
      rw [nanos_delayAfter, min_eq_right (le_max_right n 31)]
    _ < cap.nanos := (min_le_left _ _).trans_lt h

end Backoff

namespace Limiter

variable {ρ α : Type} [Quantity ρ] [DecidableEq α]

/-- After any calls a backoff is as it was, but for the counts, and these are of the tries. -/
lemma run_backoff (base cap : Delay) (cs : List (Call α)) :
    ∃ b : Backoff α, (Limiter.backoff { base, cap } : Limiter ρ α).run cs = .backoff b ∧
      b.base = base ∧ b.cap = cap ∧ ∀ x, b.count x = min (tries x cs) maxCount := by
  induction cs using List.reverseRecOn with
  | nil => exact ⟨{ base, cap }, rfl, rfl, rfl, fun x => (Nat.zero_min _).symm⟩
  | append_singleton cs c ih =>
    obtain ⟨b, hrun, hbase, hcap, hcount⟩ := ih
    rw [run_concat, hrun]
    cases c with
    | next y reading =>
      refine ⟨(b.next y).2, rfl, hbase, hcap, fun x => ?_⟩
      rw [Backoff.count_next, tries_next, hcount, hcount]
      by_cases h : x = y
      · subst h
        simp only [beq_self_eq_true, if_true]
        omega
      · simp [h, Ne.symm h]
    | forget y =>
      refine ⟨b.forget y, rfl, hbase, hcap, fun x => ?_⟩
      rw [Backoff.count_forget, tries_forget, hcount]
      by_cases h : x = y
      · simp [h]
      · simp [h, Ne.symm h]

/-- The delay for an item and its count, after any calls. -/
lemma next_run_backoff (base cap : Delay) (cs : List (Call α)) (x : α) :
    let l := (Limiter.backoff { base, cap } : Limiter ρ α).run cs
    (∀ reading, (l.next x reading).1 = some (Backoff.delayAfter base cap (tries x cs))) ∧
      l.count x = min (tries x cs) maxCount := by
  obtain ⟨b, hrun, rfl, rfl, hcount⟩ := run_backoff (ρ := ρ) base cap cs
  intro l
  have hl : l = .backoff b := hrun
  rw [hl]
  refine ⟨fun reading => ?_, by rw [count, hcount]⟩
  rw [next, Backoff.next, hcount, Backoff.delayAfter_min]

/-- **Exact backoff**: after any calls for any items a delay is given for every item, whatever the base
and the cap. It is the base, doubled for each time that the item was tried since it was last forgotten but
at most 31 times, in whole numbers without bound, and cut to the cap. Until the item is forgotten its
delays do not become shorter, and none is above the cap. The count of an item is how often it was tried,
up to the largest 32-bit number. Calls for other items change neither its delay nor its count. -/
theorem backoff_exact (base cap : Delay) (calls : List (Call α)) (x : α) :
    let fresh : Limiter ρ α := .backoff { base, cap }
    let l := fresh.run calls
    let n := tries x calls
    (∀ reading, ∃ d, (l.next x reading).1 = some d ∧
      d.nanos = min (base.nanos * 2 ^ min n 31) cap.nanos) ∧
      (∀ more, .forget x ∉ more → ∀ earlier later d d', (l.next x earlier).1 = some d →
        ((l.run more).next x later).1 = some d' → d.nanos ≤ d'.nanos ∧ d'.nanos ≤ cap.nanos) ∧
      l.count x = min n (UInt32.size - 1) ∧
      let alone := fresh.run (calls.filter (·.item == x))
      l.count x = alone.count x ∧ ∀ reading, (l.next x reading).1 = (alone.next x reading).1 := by
  intro fresh l n
  obtain ⟨hnext, hcount⟩ := next_run_backoff (ρ := ρ) base cap calls x
  refine ⟨fun reading => ?_, fun more hmore earlier later d d' hd hd' => ?_, hcount, ?_⟩
  · exact ⟨_, hnext reading, Backoff.nanos_delayAfter base cap n⟩
  · obtain ⟨hnext', -⟩ := next_run_backoff (ρ := ρ) base cap (calls ++ more) x
    have hn : n ≤ tries x (calls ++ more) := by
      rw [tries_append hmore]
      exact Nat.le_add_right _ _
    rw [run_append] at hnext'
    obtain rfl := Option.some.inj ((hnext earlier).symm.trans hd)
    obtain rfl := Option.some.inj ((hnext' later).symm.trans hd')
    refine ⟨Backoff.nanos_delayAfter_mono base cap hn, ?_⟩
    rw [Backoff.nanos_delayAfter]
    exact min_le_right _ _
  · obtain ⟨hnext', hcount'⟩ :=
      next_run_backoff (ρ := ρ) base cap (calls.filter (·.item == x)) x
    rw [tries_filter] at hnext' hcount'
    exact ⟨hcount.trans hcount'.symm, fun reading => (hnext reading).trans (hnext' reading).symm⟩

/-! ### The cap -/

/-- **The cap is reached** if `2 ^ 31` times the base comes up to it: then every delay for an item that
was tried at least 31 times since it was last forgotten is the cap. Otherwise no delay is the cap,
whatever was asked before, and from 31 tries on the delay stays at `2 ^ 31` times the base. -/
theorem backoff_reaches_cap (base cap : Delay) :
    let fresh : Limiter ρ α := .backoff { base, cap }
    (cap.nanos ≤ base.nanos * 2 ^ 31 → ∀ calls x reading, 31 ≤ tries x calls →
      ((fresh.run calls).next x reading).1 = some cap) ∧
    (base.nanos * 2 ^ 31 < cap.nanos → ∀ calls x reading, ∃ d,
      ((fresh.run calls).next x reading).1 = some d ∧ d.nanos < cap.nanos ∧
        (31 ≤ tries x calls → d.nanos = base.nanos * 2 ^ 31)) := by
  intro fresh
  have hnext (calls : List (Call α)) (x : α) (reading : Nat) :
      ((fresh.run calls).next x reading).1 = some (Backoff.delayAfter base cap (tries x calls)) :=
    (next_run_backoff (ρ := ρ) base cap calls x).1 reading
  refine ⟨fun hcap calls x reading htries => ?_, fun hcap calls x reading =>
    ⟨_, hnext calls x reading, Backoff.nanos_delayAfter_lt hcap _, fun htries => ?_⟩⟩
  · rw [hnext, Backoff.delayAfter_eq_cap]
    rwa [min_eq_right htries]
  · rw [Backoff.nanos_delayAfter, min_eq_right htries, min_eq_left hcap.le]

/-- A thousand seconds are reached from five milliseconds. -/
theorem backoff_reaches_cap_thousand :
    let calls : List (Call String) := List.replicate 31 (.next "shop/orders" 0)
    (Delay.ofSeconds 1000).nanos ≤ (Delay.ofMillis 5).nanos * 2 ^ 31 ∧
    31 ≤ tries "shop/orders" calls ∧
    (((Limiter.backoff { base := .ofMillis 5, cap := .ofSeconds 1000 } : Limiter Float String).run
      calls).next "shop/orders" 0).1 = some (.ofSeconds 1000) := by
  intro calls
  have hcap : (Delay.ofSeconds 1000).nanos ≤ (Delay.ofMillis 5).nanos * 2 ^ 31 := by decide
  have htries : 31 ≤ tries "shop/orders" calls := by decide
  exact ⟨hcap, htries, (backoff_reaches_cap _ _).1 hcap calls _ 0 htries⟩

/-- From a single nanosecond they are not, however often the item is tried. -/
theorem thousand_not_reached :
    let base : Delay := .ofNanos 1
    let cap : Delay := .ofSeconds 1000
    let fresh : Limiter Float String := .backoff { base, cap }
    0 < base.nanos ∧ ¬ ∃ N, ∀ calls x, N ≤ tries x calls → ∀ reading,
      ((fresh.run calls).next x reading).1 = some cap := by
  intro base cap fresh
  refine ⟨by decide, fun ⟨N, h⟩ => ?_⟩
  have hcap := h (List.replicate N (.next "shop/orders" 0)) "shop/orders" tries_replicate.ge 0
  rw [(next_run_backoff base cap _ _).1, Option.some_inj] at hcap
  exact (Backoff.nanos_delayAfter_lt (by decide) _).ne (congrArg Delay.nanos hcap)

end Limiter

end Provisioner
