import Mathlib.Algebra.Order.Archimedean.Basic
import Provisioner.Proofs.Limiter.Conformance

/-!
Buckets whose rate may be any number that a machine has.

The numbers here have infinities and what is no number, with the usual rules, and are exact where they
are finite. A bucket with a finite rate is one in fractions. With a rate that is infinite or no number
the balance is a full burst at every call, since nothing else is left of it when it is compared with
the burst.
-/

namespace Provisioner

/-- Zero has no sign. -/
inductive Extended where
  | finite (q : Rat)
  | infinite (negative : Bool)
  | undefined
  deriving DecidableEq

namespace Extended

def neg : Extended → Extended
  | .finite q => .finite (-q)
  | .infinite negative => .infinite !negative
  | .undefined => .undefined

def add : Extended → Extended → Extended
  | .finite p, .finite q => .finite (p + q)
  | .finite _, .infinite s | .infinite s, .finite _ => .infinite s
  | .infinite s, .infinite t => if s = t then .infinite s else .undefined
  | .undefined, _ | _, .undefined => .undefined

def mul : Extended → Extended → Extended
  | .finite p, .finite q => .finite (p * q)
  | .finite p, .infinite s | .infinite s, .finite p =>
    if p = 0 then .undefined else .infinite (s != decide (p < 0))
  | .infinite s, .infinite t => .infinite (s != t)
  | .undefined, _ | _, .undefined => .undefined

def inv : Extended → Extended
  | .finite q => if q = 0 then .infinite false else .finite q⁻¹
  | .infinite _ => .finite 0
  | .undefined => .undefined

/-- What is no number is not at most anything. -/
def atMost : Extended → Extended → Bool
  | .finite p, .finite q => p ≤ q
  | .finite _, .infinite negative => !negative
  | .infinite negative, .finite _ => negative
  | .infinite s, .infinite t => s || !t
  | .undefined, _ | _, .undefined => false

/-- The lesser of a number and no number is the number. -/
def lesser : Extended → Extended → Extended
  | .undefined, b => b
  | a, .undefined => a
  | a, b => if a.atMost b then a else b

instance : Quantity Extended where
  zero := .finite 0
  one := .finite 1
  ofNat n := .finite n
  add := add
  sub a b := a.add b.neg
  mul := mul
  div a b := a.mul b.inv
  neg := neg
  atMost := atMost
  lesser := lesser
  seconds n := .finite (Quantity.seconds n)
  delay?
    | .finite q => Quantity.delay? q
    | .infinite _ | .undefined => none

lemma lesser_finite (p q : Rat) :
    Quantity.lesser (finite p) (.finite q) = .finite (Quantity.lesser p q) := by
  change (if decide (p ≤ q) = true then finite p else .finite q) = .finite (if q < p then q else p)
  rcases le_or_gt p q with h | h
  · rw [if_pos (by simpa using h), if_neg (not_lt.2 h)]
  · rw [if_neg (by simpa using h), if_pos h]

lemma sub_finite (p q : Rat) : Quantity.sub (finite p) (.finite q) = .finite (p - q) :=
  congrArg finite (sub_eq_add_neg p q).symm

lemma div_finite (p : Rat) {q : Rat} (h : q ≠ 0) :
    Quantity.div (finite p) (.finite q) = .finite (p / q) := by
  change (finite p).mul (if q = 0 then .infinite false else .finite q⁻¹) = _
  rw [if_neg h]
  exact congrArg finite (div_eq_mul_inv p q).symm

end Extended

namespace Bucket

section

variable {ρ : Type} [Quantity ρ]

/-- The bucket after calls at these readings. -/
def drain (b : Bucket ρ) (ts : List Nat) : Bucket ρ := ts.foldl (fun b t => (b.next t).2) b

lemma frame_next (b : Bucket ρ) (t : Nat) :
    (b.next t).2.rate = b.rate ∧ (b.next t).2.burst = b.burst := by
  unfold next
  split_ifs <;> exact ⟨rfl, rfl⟩

lemma frame_drain (b : Bucket ρ) (ts : List Nat) :
    (b.drain ts).rate = b.rate ∧ (b.drain ts).burst = b.burst := by
  induction ts generalizing b with
  | nil => exact ⟨rfl, rfl⟩
  | cons t ts ih =>
    obtain ⟨hrate, hburst⟩ := b.frame_next t
    exact ⟨(ih _).1.trans hrate, (ih _).2.trans hburst⟩

end

/-! ### Finite rates -/

/-- The same bucket among the extended numbers. -/
def extended (b : Bucket Rat) : Bucket Extended where
  rate := .finite b.rate
  burst := .finite b.burst
  tokens := .finite b.tokens
  filledAt := b.filledAt

lemma take_extended (b : Bucket Rat) (now : Nat) : b.extended.take now = (b.take now).extended := by
  have hbalance : b.extended.balance now = .finite (b.balance now) := Extended.lesser_finite _ _
  rw [take, hbalance]
  exact congrArg (Bucket.mk _ _ · now) (Extended.sub_finite _ _)

lemma wait?_extended {b : Bucket Rat} (hrate : 0 < b.rate) : b.extended.wait? = b.wait? := by
  have hdiv : Quantity.div (Quantity.neg b.extended.tokens) b.extended.rate =
      .finite (-b.tokens / b.rate) := Extended.div_finite _ hrate.ne'
  rw [wait?, hdiv]
  rfl

lemma next_extended (b : Bucket Rat) (now : Nat) :
    b.extended.next now = ((b.next now).1, (b.next now).2.extended) := by
  rcases le_or_gt b.rate 0 with h | h
  · have hrate : Quantity.atMost b.rate Quantity.zero = true := decide_eq_true h
    have hrate' : Quantity.atMost b.extended.rate Quantity.zero = true := hrate
    rw [next, next, if_pos hrate, if_pos hrate']
  · have hrate' : ¬ Quantity.atMost b.extended.rate Quantity.zero = true := by
      change ¬ decide (b.rate ≤ 0) = true
      simpa using h
    rw [next, if_neg hrate', next_eq h, take_extended, wait?_extended (b := b.take now) h]

lemma drain_extended (b : Bucket Rat) (ts : List Nat) :
    b.extended.drain ts = (b.drain ts).extended := by
  induction ts generalizing b with
  | nil => rfl
  | cons t ts ih =>
    change (b.extended.next t).2.drain ts = _
    rw [next_extended]
    exact ih _

section

variable {b : Bucket Rat} (hrate : 0 < b.rate)

include hrate

lemma next_eq_none_iff (now : Nat) :
    (b.next now).1 = none ↔ UInt64.size * b.rate ≤ -(b.take now).tokens := by
  have hsize : (0 : Rat) < UInt64.size := by norm_num [UInt64.size]
  have hleft : (⟨b, now⟩ : Call).wait = max 0 (-(b.take now).tokens / b.rate) := by
    rw [Call.wait, Call.left_eq hrate]
    rfl
  have hnone := Call.answer?_eq_none_iff (c := ⟨b, now⟩) hrate
  rw [hleft, le_max_iff, or_iff_right hsize.not_ge, le_div_iff₀ hrate] at hnone
  exact hnone

lemma drain_cons (t : Nat) (ts : List Nat) : b.drain (t :: ts) = (b.take t).drain ts := by
  change (b.next t).2.drain ts = _
  rw [next_eq hrate]

/-- No call takes more than one token. -/
lemma tokens_drain_ge (hfull : b.tokens ≤ b.burst) (ts : List Nat) :
    b.tokens - ts.length ≤ (b.drain ts).tokens := by
  induction ts generalizing b with
  | nil => exact (sub_zero b.tokens).le
  | cons t ts ih =>
    have hinflow : 0 ≤ Quantity.seconds (t - b.filledAt) * b.rate :=
      mul_nonneg (div_nonneg (Nat.cast_nonneg _) nanosPerSecond_pos.le) hrate.le
    have htokens : (b.take t).tokens =
        min (b.tokens + Quantity.seconds (t - b.filledAt) * b.rate) b.burst - 1 := by
      rw [tokens_take, balance_eq]
    have hle : min (b.tokens + Quantity.seconds (t - b.filledAt) * b.rate) b.burst ≤ b.burst :=
      min_le_right _ _
    have hge : b.tokens ≤ min (b.tokens + Quantity.seconds (t - b.filledAt) * b.rate) b.burst :=
      le_min (by linarith) hfull
    have hfull' : (b.take t).tokens ≤ (b.take t).burst := by
      change (b.take t).tokens ≤ b.burst
      linarith
    have hrest := ih (b := b.take t) hrate hfull'
    rw [drain_cons hrate, List.length_cons]
    push_cast
    linarith

/-- As long as the time stands still every call takes one token. -/
lemma tokens_drain_replicate (hfull : b.tokens ≤ b.burst) (n : Nat) :
    (b.drain (List.replicate n b.filledAt)).tokens = b.tokens - n := by
  induction n generalizing b with
  | zero => exact (sub_zero b.tokens).symm
  | succ n ih =>
    have hstill : (Quantity.seconds (b.filledAt - b.filledAt) : Rat) = 0 := by
      rw [Nat.sub_self]
      exact zero_div _
    have htokens : (b.take b.filledAt).tokens = b.tokens - 1 := by
      rw [tokens_take, balance_eq, hstill, zero_mul, add_zero, min_eq_left hfull]
    have hfull' : (b.take b.filledAt).tokens ≤ (b.take b.filledAt).burst := by
      change (b.take b.filledAt).tokens ≤ b.burst
      linarith
    have hrest := ih (b := b.take b.filledAt) hrate hfull'
    change ((b.take b.filledAt).drain (List.replicate n b.filledAt)).tokens = _ at hrest
    rw [List.replicate_succ, drain_cons hrate, hrest, htokens]
    push_cast
    ring

/-- The last call has no delay if the tokens that it owes then come in too late. -/
lemma next_drain_eq_none_iff (ts : List Nat) (now : Nat) :
    ((b.drain ts).next now).1 = none ↔ UInt64.size * b.rate ≤ -(b.drain (ts ++ [now])).tokens := by
  have hrate' : (b.drain ts).rate = b.rate := (b.frame_drain ts).1
  have hlast : (b.drain ts).take now = b.drain (ts ++ [now]) := by
    rw [drain, drain, List.foldl_append, ← drain]
    exact (congrArg Prod.snd (next_eq (hrate'.symm ▸ hrate) now)).symm
  rw [next_eq_none_iff (hrate'.symm ▸ hrate), hrate', hlast]

end

/-! ### Other rates -/

section

variable {b : Bucket Extended} {n : Nat} (hburst : b.burst = .finite n)

include hburst

/-- What comes in is more than any burst, or no number, or nothing is there to be added to. -/
lemma balance_infinite (hrate : b.rate = .infinite false) (now : Nat) :
    b.balance now = .finite n := by
  have helapsed : (0 : Rat) ≤ Quantity.seconds (now - b.filledAt) :=
    div_nonneg (Nat.cast_nonneg _) nanosPerSecond_pos.le
  change Extended.lesser (b.tokens.add
    ((Extended.finite (Quantity.seconds (now - b.filledAt))).mul b.rate)) b.burst = _
  rw [hrate, hburst]
  simp only [Extended.mul, not_lt.2 helapsed, decide_false, bne_self_eq_false]
  split_ifs
  · cases b.tokens <;> rfl
  · rcases b.tokens with _ | ⟨_ | _⟩ | _ <;> rfl

lemma balance_undefined (hrate : b.rate = .undefined) (now : Nat) : b.balance now = .finite n := by
  change Extended.lesser (b.tokens.add
    ((Extended.finite (Quantity.seconds (now - b.filledAt))).mul b.rate)) b.burst = _
  rw [hrate, hburst]
  cases b.tokens <;> rfl

end

/-- A call that finds a full burst has to wait only if that is no token at all. -/
lemma isSome_next_of_balance {b : Bucket Extended} {n now : Nat}
    (hrate : ¬ Quantity.atMost b.rate Quantity.zero = true) (hbalance : b.balance now = .finite n) :
    (b.next now).1.isSome ↔
      0 < n ∨ (Quantity.delay? (Quantity.div (Extended.finite 1) b.rate)).isSome := by
  have htokens : (b.take now).tokens = .finite (n - 1) := by
    change Quantity.sub (b.balance now) _ = _
    rw [hbalance]
    exact Extended.sub_finite n 1
  have hatMost : Quantity.atMost Quantity.zero (Extended.finite (n - 1)) =
    decide ((0 : Rat) ≤ n - 1) := rfl
  rw [next, if_neg hrate, wait?, htokens, hatMost]
  rcases Nat.eq_zero_or_pos n with rfl | hn
  · have hneg : Quantity.neg (Extended.finite ((0 : Nat) - 1)) = .finite 1 :=
      congrArg Extended.finite (by norm_num)
    rw [if_neg (by norm_num), hneg, or_iff_right (Nat.lt_irrefl 0)]
    rfl
  · have htoken : (0 : Rat) ≤ n - 1 := sub_nonneg.2 (by exact_mod_cast hn)
    rw [if_pos (decide_eq_true htoken)]
    exact iff_of_true rfl (.inl hn)

end Bucket

/-! ### How much a bucket stands -/

namespace Extended

/-- After any `n` calls, whenever they come, there is a delay for one more. -/
def Sustains (rate : Extended) (burst n : Nat) : Prop :=
  match rate with
  | .finite r => r ≤ 0 ∨ (n + 1 : Rat) < burst + r * UInt64.size
  | .infinite _ => True
  | .undefined => 0 < burst

lemma Sustains.mono {rate : Extended} {burst m n : Nat} (h : rate.Sustains burst n) (hmn : m ≤ n) :
    rate.Sustains burst m := by
  cases rate with
  | finite r =>
    have hcast : (m : Rat) ≤ n := by exact_mod_cast hmn
    exact h.imp_right fun hlt => by linarith
  | infinite | undefined => exact h

/-- No number of calls is too many. -/
def Endless (rate : Extended) (burst : Nat) : Prop :=
  match rate with
  | .finite r => r ≤ 0
  | .infinite _ => True
  | .undefined => 0 < burst

lemma forall_sustains_iff (rate : Extended) (burst : Nat) :
    (∀ n, rate.Sustains burst n) ↔ rate.Endless burst := by
  cases rate with
  | finite r =>
    refine ⟨fun h => ?_, fun h _ => .inl h⟩
    obtain ⟨n, hn⟩ := exists_nat_gt (burst + r * UInt64.size : Rat)
    rcases h n with hr | hlt
    · exact hr
    · linarith
  | infinite | undefined => exact forall_const Nat

end Extended

namespace Bucket

/-- Without a positive rate there is no limit. -/
lemma isSome_next_unlimited {rate : Extended} (h : Quantity.atMost rate Quantity.zero = true)
    (burst start : Nat) (ts : List Nat) (now : Nat) :
    (((full rate burst start : Bucket Extended).drain ts).next now).1.isSome := by
  have hrate : ((full rate burst start : Bucket Extended).drain ts).rate = rate :=
    (frame_drain _ ts).1
  rw [next, if_pos (by rwa [hrate])]
  rfl

/-- If the balance is a full burst whatever came before, it does not matter what came before. -/
lemma isSome_next_steady {rate : Extended} {burst : Nat}
    (hlimit : ¬ Quantity.atMost rate Quantity.zero = true)
    (hbalance : ∀ {b : Bucket Extended}, b.burst = .finite burst → b.rate = rate → ∀ now,
      b.balance now = .finite burst) (start : Nat) (ts : List Nat) (now : Nat) :
    (((full rate burst start : Bucket Extended).drain ts).next now).1.isSome ↔
      0 < burst ∨ (Quantity.delay? (Quantity.div (Extended.finite 1) rate)).isSome := by
  obtain ⟨hrate, hburst⟩ := (full rate burst start : Bucket Extended).frame_drain ts
  change _ = rate at hrate
  rw [isSome_next_of_balance (by rwa [hrate]) (hbalance hburst hrate now), hrate]

lemma isSome_next_infinite (burst start : Nat) (ts : List Nat) (now : Nat) :
    (((full (.infinite false) burst start : Bucket Extended).drain ts).next now).1.isSome := by
  have hdiv : Quantity.div (Extended.finite 1) (.infinite false) = .finite 0 :=
    congrArg Extended.finite (mul_zero 1)
  have hdelay : (Quantity.delay? (0 : Rat)).isSome := by
    rw [delay?_eq le_rfl, if_pos (by norm_num [UInt64.size])]
    rfl
  have hlimit : ¬ Quantity.atMost (Extended.infinite false) Quantity.zero = true :=
    Bool.false_ne_true
  rw [isSome_next_steady hlimit fun h h' => balance_infinite h h', hdiv]
  exact .inr hdelay

lemma isSome_next_undefined (burst start : Nat) (ts : List Nat) (now : Nat) :
    (((full .undefined burst start : Bucket Extended).drain ts).next now).1.isSome ↔ 0 < burst := by
  have hlimit : ¬ Quantity.atMost Extended.undefined Quantity.zero = true := Bool.false_ne_true
  rw [isSome_next_steady hlimit fun h h' => balance_undefined h h']
  exact or_iff_left nofun

lemma isSome_next_drain {r : Rat} (hrate : 0 < r) {burst start : Nat} {ts : List Nat}
    (h : (ts.length + 1 : Rat) < burst + r * UInt64.size) (now : Nat) :
    (((full r burst start : Bucket Rat).drain ts).next now).1.isSome := by
  have hpos : 0 < (full r burst start : Bucket Rat).rate := hrate
  rw [Option.isSome_iff_ne_none, ne_eq, next_drain_eq_none_iff hpos, not_le]
  have htokens := tokens_drain_ge hpos le_rfl (ts ++ [now])
  rw [List.length_append, List.length_singleton, Nat.cast_succ] at htokens
  change (burst : Rat) - _ ≤ _ at htokens
  change _ < UInt64.size * r
  linarith

lemma lt_of_isSome_next {r : Rat} (hrate : 0 < r) {burst start n : Nat}
    (h : (((full r burst start : Bucket Rat).drain (List.replicate n start)).next start).1.isSome) :
    (n + 1 : Rat) < burst + r * UInt64.size := by
  have hpos : 0 < (full r burst start : Bucket Rat).rate := hrate
  have htokens := tokens_drain_replicate hpos le_rfl (n + 1)
  change ((full r burst start : Bucket Rat).drain (List.replicate (n + 1) start)).tokens =
    (burst : Rat) - _ at htokens
  rw [Option.isSome_iff_ne_none, ne_eq, next_drain_eq_none_iff hpos, not_le,
    ← List.replicate_succ', htokens, Nat.cast_succ] at h
  change _ < UInt64.size * r at h
  linarith

lemma isSome_of_sustains {rate : Extended} {burst start : Nat} {ts : List Nat}
    (h : rate.Sustains burst ts.length) (now : Nat) :
    (((full rate burst start : Bucket Extended).drain ts).next now).1.isSome := by
  rcases rate with r | ⟨_ | _⟩ | _
  · rcases le_or_gt r 0 with hr | hr
    · exact isSome_next_unlimited (decide_eq_true hr) burst start ts now
    · have hfull : (full (.finite r) burst start : Bucket Extended) =
          (full r burst start : Bucket Rat).extended := rfl
      rw [hfull, drain_extended, next_extended]
      exact isSome_next_drain hr (h.resolve_left hr.not_ge) now
  · exact isSome_next_infinite burst start ts now
  · exact isSome_next_unlimited rfl burst start ts now
  · exact (isSome_next_undefined burst start ts now).2 h

/-- Nothing is harder to stand than calls that all come at once. -/
lemma sustains_of_still {rate : Extended} {burst start n : Nat}
    (h : (((full rate burst start : Bucket Extended).drain
      (List.replicate n start)).next start).1.isSome) : rate.Sustains burst n := by
  rcases rate with r | _ | _
  · rcases le_or_gt r 0 with hr | hr
    · exact .inl hr
    · have hfull : (full (.finite r) burst start : Bucket Extended) =
          (full r burst start : Bucket Rat).extended := rfl
      rw [hfull, drain_extended, next_extended] at h
      exact .inr (lt_of_isSome_next hr h)
  · trivial
  · exact (isSome_next_undefined burst start _ start).1 h

end Bucket

end Provisioner
