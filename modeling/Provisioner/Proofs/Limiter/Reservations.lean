import Mathlib.Tactic.Ring
import Provisioner.Proofs.Limiter.Rounding

/-!
When the token of a call is there.

A call takes its token at once and is released when that token is there. From one call to a later one
no more tokens are taken than the first one had left and those that came in since. Times are fractions
of seconds.
-/

namespace Provisioner

lemma nanosPerSecond_pos : (0 : Rat) < nanosPerSecond := by norm_num [nanosPerSecond]

lemma seconds_mul (n : Nat) : (Quantity.seconds n : Rat) * nanosPerSecond = n :=
  div_mul_cancel₀ _ nanosPerSecond_pos.ne'

lemma seconds_add (m n : Nat) :
    (Quantity.seconds (m + n) : Rat) = Quantity.seconds m + Quantity.seconds n := by
  change ((m + n : Nat) : Rat) / nanosPerSecond = (m : Rat) / nanosPerSecond + n / nanosPerSecond
  rw [Nat.cast_add, add_div]

lemma seconds_le_iff {m n : Nat} : (Quantity.seconds m : Rat) ≤ Quantity.seconds n ↔ m ≤ n := by
  rw [← mul_le_mul_iff_left₀ nanosPerSecond_pos, seconds_mul, seconds_mul, Nat.cast_le]

namespace Bucket

variable {b b' b'' : Bucket Rat} {m n : Nat}

/-- When the last call came. -/
def time (b : Bucket Rat) : Rat := Quantity.seconds b.filledAt

/-- For how long the balance stays negative if no more calls come. -/
def shortfall (b : Bucket Rat) : Rat := max 0 (-b.tokens / b.rate)

/-- When the token of the last call is there. -/
def release (b : Bucket Rat) : Rat := b.time + b.shortfall

lemma shortfall_nonneg (b : Bucket Rat) : 0 ≤ b.shortfall := le_max_left _ _

lemma shortfall_eq_zero (hrate : 0 < b.rate) (h : 0 ≤ b.tokens) : b.shortfall = 0 :=
  max_eq_left (div_nonpos_of_nonpos_of_nonneg (by linarith) hrate.le)

/-- In tokens, the release is the time of the call with what is owed then. -/
lemma mul_release (hrate : 0 < b.rate) :
    b.rate * b.release = b.rate * b.time + (max b.tokens 0 - b.tokens) := by
  have howed : b.rate * b.shortfall = max b.tokens 0 - b.tokens := by
    rcases le_total 0 b.tokens with h | h
    · rw [shortfall_eq_zero hrate h, max_eq_left h]
      ring
    · have hneg : 0 ≤ -b.tokens / b.rate := div_nonneg (by linarith) hrate.le
      rw [shortfall, max_eq_right hneg, max_eq_right h, mul_div_cancel₀ _ hrate.ne']
      ring
  rw [release, mul_add, howed]

/-! ### From one call to a later one -/

/-- `b'` is what the `n`-th call after the last one of `b` leaves. -/
structure After (n : Nat) (b b' : Bucket Rat) : Prop where
  rate : b'.rate = b.rate
  time : b.time ≤ b'.time
  tokens : b'.tokens ≤ b.tokens + b.rate * (b'.time - b.time) - n

lemma After.trans (h : After m b b') (h' : After n b' b'') : After (m + n) b b'' := by
  have htokens := h.tokens
  have htokens' := h'.tokens
  rw [h.rate] at htokens'
  refine ⟨h'.rate.trans h.rate, h.time.trans h'.time, ?_⟩
  push_cast
  linarith

/-- As many tokens are taken as were left, and as came in up to the release of the later call. -/
lemma After.taken_le (h : After n b b') (hrate : 0 < b.rate) :
    n ≤ max b.tokens 0 + b.rate * (b'.release - b.release) := by
  have hrelease := mul_release hrate
  have hrelease' := mul_release (h.rate ▸ hrate)
  rw [h.rate] at hrelease'
  have htokens := h.tokens
  have howed : 0 ≤ max b'.tokens 0 := le_max_right _ _
  linarith

/-- If the earlier call has to wait, then the later one is released as many tokens later. -/
lemma After.apart (h : After n b b') (hrate : 0 < b.rate) (hwait : b.tokens < 0) :
    n ≤ b.rate * (b'.release - b.release) := by
  have htaken := h.taken_le hrate
  rwa [max_eq_right hwait.le, zero_add] at htaken

lemma After.release_le (h : After n b b') (hrate : 0 < b.rate) : b.release ≤ b'.release := by
  rcases le_or_gt 0 b.tokens with hb | hb
  · calc b.release = b.time := by rw [release, shortfall_eq_zero hrate hb, add_zero]
      _ ≤ b'.time := h.time
      _ ≤ b'.release := le_add_of_nonneg_right b'.shortfall_nonneg
  · have hcount : (0 : Rat) ≤ n := n.cast_nonneg
    have hdiff : 0 ≤ b'.release - b.release :=
      nonneg_of_mul_nonneg_right (hcount.trans (h.apart hrate hb)) hrate
    linarith

lemma After.release_lt (h : After n b b') (hrate : 0 < b.rate) (hn : 0 < n)
    (hwait : 0 < b.shortfall) : b.release < b'.release := by
  have hb : b.tokens < 0 := by
    by_contra hle
    exact hwait.ne' (shortfall_eq_zero hrate (not_lt.1 hle))
  have hcount : (0 : Rat) < n := by exact_mod_cast hn
  have hdiff : 0 < b'.release - b.release :=
    (mul_pos_iff_of_pos_left hrate).1 (hcount.trans_le (h.apart hrate hb))
  linarith

/-! ### One call -/

lemma balance_eq (b : Bucket Rat) (now : Nat) :
    b.balance now = min (b.tokens + Quantity.seconds (now - b.filledAt) * b.rate) b.burst := by
  change (if b.burst < b.tokens + Quantity.seconds (now - b.filledAt) * b.rate then b.burst
    else b.tokens + Quantity.seconds (now - b.filledAt) * b.rate) = _
  split_ifs with h
  · exact (min_eq_right h.le).symm
  · exact (min_eq_left (not_lt.1 h)).symm

lemma tokens_take (b : Bucket Rat) (now : Nat) : (b.take now).tokens = b.balance now - 1 := rfl

/-- A call leaves at least one token less than a full bucket has. -/
lemma max_tokens_take_le (b : Bucket Rat) (now : Nat) :
    max (b.take now).tokens 0 ≤ max b.burst 1 - 1 := by
  have hfull : b.balance now ≤ b.burst := by
    rw [balance_eq]
    exact min_le_right _ _
  have hburst : b.burst ≤ max b.burst 1 := le_max_left _ _
  have hone : 1 ≤ max b.burst 1 := le_max_right _ _
  rw [tokens_take]
  exact max_le (by linarith) (by linarith)

lemma after_take {now : Nat} (h : b.filledAt ≤ now) : After 1 b (b.take now) := by
  have helapsed : (Quantity.seconds (now - b.filledAt) : Rat) = (b.take now).time - b.time := by
    have hsum : (Quantity.seconds now : Rat) =
        Quantity.seconds b.filledAt + Quantity.seconds (now - b.filledAt) := by
      rw [← seconds_add, Nat.add_sub_cancel' h]
    exact (sub_eq_of_eq_add' hsum).symm
  refine ⟨rfl, seconds_le_iff.2 h, ?_⟩
  have hmin := min_le_left (b.tokens + Quantity.seconds (now - b.filledAt) * b.rate) b.burst
  rw [tokens_take, balance_eq, ← helapsed]
  push_cast
  linarith

lemma next_eq (hrate : 0 < b.rate) (now : Nat) : b.next now = ((b.take now).wait?, b.take now) := by
  have hpos : ¬ Quantity.atMost b.rate Quantity.zero = true := by
    change ¬ decide (b.rate ≤ 0) = true
    simpa using hrate
  exact if_neg hpos

/-- The delay that is given is the wait to the nanosecond, if it is one. -/
lemma wait?_eq (hrate : 0 < b.rate) :
    b.wait? = if b.shortfall < UInt64.size then
      some (Delay.ofNanos (nearestNanos b.shortfall)) else none := by
  have hatMost : Quantity.atMost Quantity.zero b.tokens = decide (0 ≤ b.tokens) := rfl
  unfold wait?
  rw [hatMost]
  rcases le_or_gt 0 b.tokens with hb | hb
  · rw [if_pos (by simpa using hb), shortfall_eq_zero hrate hb, ofNanos_nearestNanos_zero,
      if_pos (by norm_num [UInt64.size])]
  · have hshort : b.shortfall = -b.tokens / b.rate :=
      max_eq_right (div_nonneg (by linarith) hrate.le)
    rw [if_neg (by simpa using hb), ← delay?_eq b.shortfall_nonneg, hshort]
    rfl

end Bucket

end Provisioner
