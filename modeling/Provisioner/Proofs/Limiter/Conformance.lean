import Mathlib.Data.List.Induction
import Provisioner.Proofs.Limiter.Reservations

/-!
How many calls a bucket releases in a stretch of time.

The first call that is released in a window leaves less than a full bucket, and every later one takes a
token that it left or that came in while the window was open.
-/

namespace Provisioner

/-- How many of the times lie in the window of `w` seconds from `a` on. -/
def within (a w : Rat) (times : List Rat) : Nat := times.countP fun r => a ≤ r ∧ r ≤ a + w

/-- A bound on the places of what is counted is a bound on their number. -/
lemma countP_le_of_getElem {β : Type} {p : β → Bool} {xs : List β} {bound : Rat} (hbound : 0 ≤ bound)
    (h : ∀ i (hi : i < xs.length), p xs[i] = true → (i : Rat) + 1 ≤ bound) :
    (xs.countP p : Rat) ≤ bound := by
  induction xs using List.reverseRecOn with
  | nil => simpa using hbound
  | append_singleton xs x ih =>
    rw [List.countP_append, List.countP_singleton]
    split_ifs with hx
    · have hlast : (xs.length : Rat) + 1 ≤ bound := h xs.length (by simp) (by simpa using hx)
      have hcount : (xs.countP p : Rat) ≤ xs.length := by exact_mod_cast List.countP_le_length
      push_cast
      linarith
    · refine ih fun i hi hp => h i (by rw [List.length_append]; omega) ?_
      rwa [List.getElem_append_left hi]

namespace Bucket

variable {b : Bucket Rat}

/-- A call, with the bucket that it found and what the clock showed. -/
structure Call where
  found : Bucket Rat
  reading : Nat

def calls (b : Bucket Rat) : List Nat → List Call
  | [] => []
  | t :: ts => ⟨b, t⟩ :: (b.next t).2.calls ts

namespace Call

def answer? (c : Call) : Option Delay := (c.found.next c.reading).1

def left (c : Call) : Bucket Rat := (c.found.next c.reading).2

/-- The tokens there are for the call, its own one among them. -/
def balance (c : Call) : Rat := c.found.balance c.reading

/-- The delay of the call as a fraction. -/
def wait (c : Call) : Rat := c.left.shortfall

def release (c : Call) : Rat := Quantity.seconds c.reading + c.wait

/-- The release by the delay that was given. -/
def told? (c : Call) : Option Rat := c.answer?.map fun d => Quantity.seconds (c.reading + d.nanos)

lemma wait_nonneg (c : Call) : 0 ≤ c.wait := shortfall_nonneg _

variable {c c' : Call}

lemma left_eq (hrate : 0 < c.found.rate) : c.left = c.found.take c.reading :=
  congrArg Prod.snd (next_eq hrate c.reading)

lemma release_left (hrate : 0 < c.found.rate) : c.left.release = c.release := by
  rw [Bucket.release, release, wait, left_eq hrate]
  rfl

lemma answer?_eq (hrate : 0 < c.found.rate) :
    c.answer? = if c.wait < UInt64.size then
      some (Delay.ofNanos (nearestNanos c.wait)) else none := by
  rw [wait, left_eq hrate, ← wait?_eq (b := c.found.take c.reading) hrate]
  exact congrArg Prod.fst (next_eq hrate c.reading)

lemma answer?_eq_none_iff (hrate : 0 < c.found.rate) : c.answer? = none ↔ UInt64.size ≤ c.wait := by
  rw [answer?_eq hrate, ite_eq_right_iff, ← not_lt]
  simp

lemma answer?_eq_zero (hrate : 0 < c.found.rate) (h : 1 ≤ c.balance) :
    c.wait = 0 ∧ c.answer? = some .zero := by
  have htokens : 0 ≤ (c.found.take c.reading).tokens := by
    have hbalance : 1 ≤ c.found.balance c.reading := h
    rw [tokens_take]
    linarith
  have hwait : c.wait = 0 := by
    rw [wait, left_eq hrate]
    exact shortfall_eq_zero hrate htokens
  refine ⟨hwait, ?_⟩
  rw [answer?_eq hrate, hwait, ofNanos_nearestNanos_zero, if_pos (by norm_num [UInt64.size])]

variable {d d' : Delay}

/-- A delay that is given is less than a nanosecond off. -/
lemma seconds_answer?_near (hrate : 0 < c.found.rate) (h : c.answer? = some d) :
    |(Quantity.seconds d.nanos : Rat) - c.wait| < 1 / nanosPerSecond := by
  rw [answer?_eq hrate] at h
  obtain ⟨hwait, hd⟩ := Option.ite_none_right_eq_some.1 h
  have hnear := ofNanos_near c.wait_nonneg hwait
  rw [Option.some.inj hd, ← seconds_mul, ← sub_mul, abs_mul, abs_of_pos nanosPerSecond_pos] at hnear
  exact (lt_div_iff₀ nanosPerSecond_pos).2 hnear

lemma told?_near {r : Rat} (hrate : 0 < c.found.rate) (h : c.told? = some r) :
    |r - c.release| < 1 / nanosPerSecond := by
  obtain ⟨d, hd, rfl⟩ := Option.map_eq_some_iff.1 h
  rw [seconds_add, release, add_sub_add_left_eq_sub]
  exact seconds_answer?_near hrate hd

/-- Rounding keeps the order of the calls. -/
lemma told_le (hrate : 0 < c.found.rate) (hrate' : 0 < c'.found.rate) (h : c.reading ≤ c'.reading)
    (hlt : 0 < c.wait → c.release < c'.release) (hd : c.answer? = some d)
    (hd' : c'.answer? = some d') : c.reading + d.nanos ≤ c'.reading + d'.nanos := by
  rw [answer?_eq hrate] at hd
  rw [answer?_eq hrate'] at hd'
  obtain rfl := Option.some.inj (Option.ite_none_right_eq_some.1 hd).2
  obtain rfl := Option.some.inj (Option.ite_none_right_eq_some.1 hd').2
  change c.reading + min (nearestNanos c.wait) maxNanos ≤
    c'.reading + min (nearestNanos c'.wait) maxNanos
  rcases c.wait_nonneg.eq_or_lt with hwait | hwait
  · have hzero : nearestNanos c.wait = 0 := by rw [← hwait, nearestNanos_zero]
    omega
  -- both waits may be off by a half, so that the releases must not be equal
  · have hreleased := mul_lt_mul_of_pos_right (hlt hwait) nanosPerSecond_pos
    rw [release, release, add_mul, add_mul, seconds_mul, seconds_mul] at hreleased
    have hnanos := add_nearestNanos_le c.wait_nonneg c'.wait_nonneg hreleased
    omega

end Call

lemma map_reading_calls (ts : List Nat) : (b.calls ts).map Call.reading = ts := by
  induction ts generalizing b with
  | nil => rfl
  | cons t ts ih => exact congrArg (t :: ·) ih

section

variable {ts : List Nat} (hrate : 0 < b.rate)

include hrate

lemma calls_cons (t : Nat) (ts : List Nat) :
    b.calls (t :: ts) = ⟨b, t⟩ :: (b.take t).calls ts := by
  rw [calls, next_eq hrate]

lemma rate_pos_of_mem_calls {c : Call} (hc : c ∈ b.calls ts) : 0 < c.found.rate := by
  induction ts generalizing b with
  | nil => cases hc
  | cons t ts ih =>
    have hleft : 0 < (b.take t).rate := hrate
    rw [calls_cons hrate, List.mem_cons] at hc
    rcases hc with rfl | hc
    · exact hrate
    · exact ih hleft hc

lemma after_calls (hfilled : ∀ t ∈ ts, b.filledAt ≤ t) (hsorted : ts.Pairwise (· ≤ ·)) (i : Nat)
    (hi : i < (b.calls ts).length) : After (i + 1) b (b.calls ts)[i].left := by
  induction ts generalizing b i with
  | nil => cases hi
  | cons t ts ih =>
    have hhead : (⟨b, t⟩ : Call).left = b.take t := Call.left_eq hrate
    have hfirst : After 1 b (⟨b, t⟩ : Call).left := hhead ▸ after_take (hfilled t List.mem_cons_self)
    cases i with
    | zero => exact hfirst
    | succ i =>
      have hlater : ∀ u ∈ ts, (⟨b, t⟩ : Call).left.filledAt ≤ u :=
        hhead ▸ (List.pairwise_cons.1 hsorted).1
      have hrest := ih (hfirst.rate ▸ hrate) hlater (List.pairwise_cons.1 hsorted).2 i
        (Nat.lt_of_succ_lt_succ hi)
      rw [Nat.add_comm (i + 1)]
      exact hfirst.trans hrest

/-- Calls are released in order, and those after one that has to wait only later than it. -/
lemma calls_ordered (ht : ts.Pairwise (· ≤ ·)) :
    (b.calls ts).Pairwise fun c c' => c.reading ≤ c'.reading ∧ c.release ≤ c'.release ∧
      (0 < c.wait → c.release < c'.release) := by
  induction ts generalizing b with
  | nil => exact .nil
  | cons t ts ih =>
    obtain ⟨hlater, hsorted⟩ := List.pairwise_cons.1 ht
    have hhead : (⟨b, t⟩ : Call).left = b.take t := Call.left_eq hrate
    have hleft : 0 < (⟨b, t⟩ : Call).left.rate := hhead ▸ hrate
    refine .cons (fun c hc => ?_) (ih hleft hsorted)
    have hreading : c.reading ∈ ts := by
      rw [← map_reading_calls ts]
      exact List.mem_map_of_mem hc
    have hrelease : c.left.release = c.release :=
      Call.release_left (rate_pos_of_mem_calls hleft hc)
    obtain ⟨i, hi, rfl⟩ := List.getElem_of_mem hc
    have hafter := after_calls hleft (hhead ▸ hlater) hsorted i hi
    rw [← hrelease, ← Call.release_left hrate]
    exact ⟨hlater _ hreading, hafter.release_le hleft, hafter.release_lt hleft i.succ_pos⟩

/-- From a release on, a window holds no more calls than there were tokens left and come in. -/
lemma within_later (hfilled : ∀ t ∈ ts, b.filledAt ≤ t) (hsorted : ts.Pairwise (· ≤ ·)) {a w : Rat}
    (hw : 0 ≤ w) (ha : a ≤ b.release) :
    (within a w ((b.calls ts).map Call.release) : Rat) ≤ max b.tokens 0 + b.rate * w := by
  refine countP_le_of_getElem (add_nonneg (le_max_right _ _) (mul_nonneg hrate.le hw)) ?_
  intro i hi hin
  have hi' : i < (b.calls ts).length := by simpa using hi
  have hend : (b.calls ts)[i].left.release ≤ a + w := by
    rw [Call.release_left (rate_pos_of_mem_calls hrate (List.getElem_mem hi'))]
    rw [List.getElem_map] at hin
    exact (of_decide_eq_true hin).2
  have htaken := (after_calls hrate hfilled hsorted i hi').taken_le hrate
  have hflow : b.rate * ((b.calls ts)[i].left.release - b.release) ≤ b.rate * w :=
    mul_le_mul_of_nonneg_left (by linarith) hrate.le
  push_cast at htaken
  linarith

/-- The first call in a window takes one of the tokens of a full bucket at most. -/
lemma within_releases (hsorted : ts.Pairwise (· ≤ ·)) {a w : Rat} (hw : 0 ≤ w) :
    (within a w ((b.calls ts).map Call.release) : Rat) ≤ max b.burst 1 + b.rate * w := by
  induction ts generalizing b with
  | nil =>
    have hone : 1 ≤ max b.burst 1 := le_max_right _ _
    have hflow : 0 ≤ b.rate * w := mul_nonneg hrate.le hw
    change ((0 : Nat) : Rat) ≤ _
    push_cast
    linarith
  | cons t ts ih =>
    obtain ⟨hlater, hsorted⟩ := List.pairwise_cons.1 hsorted
    have hrate' : 0 < (b.take t).rate := hrate
    rw [calls_cons hrate, List.map_cons, within, List.countP_cons]
    -- the first call in the window is the one whose balance bounds all the later ones
    split_ifs with hin
    · have hstart : a ≤ (b.take t).release := by
        rw [← Call.left_eq (c := ⟨b, t⟩) hrate, Call.release_left hrate]
        exact (of_decide_eq_true hin).1
      have hrest : (within a w (((b.take t).calls ts).map Call.release) : Rat) ≤
          max (b.take t).tokens 0 + b.rate * w := within_later hrate' hlater hsorted hw hstart
      have htokens := b.max_tokens_take_le t
      calc ((within a w (((b.take t).calls ts).map Call.release) + 1 : Nat) : Rat)
          = within a w (((b.take t).calls ts).map Call.release) + 1 := Nat.cast_succ _
        _ ≤ max b.burst 1 + b.rate * w := by linarith
    · exact ih hrate' hsorted

lemma told_sorted (hsorted : ts.Pairwise (· ≤ ·)) :
    ((b.calls ts).filterMap Call.told?).Pairwise (· ≤ ·) := by
  rw [List.pairwise_filterMap]
  refine (calls_ordered hrate hsorted).imp_of_mem fun {c c'} hc hc' h r hr r' hr' => ?_
  obtain ⟨hreading, -, hlt⟩ := h
  obtain ⟨d, hd, rfl⟩ := Option.map_eq_some_iff.1 hr
  obtain ⟨d', hd', rfl⟩ := Option.map_eq_some_iff.1 hr'
  exact seconds_le_iff.2 (Call.told_le (rate_pos_of_mem_calls hrate hc)
    (rate_pos_of_mem_calls hrate hc') hreading hlt hd hd')

/-- By the delays that were given a window can be a nanosecond longer at either end. -/
lemma within_told (hsorted : ts.Pairwise (· ≤ ·)) {a w : Rat} (hw : 0 ≤ w) :
    (within a w ((b.calls ts).filterMap Call.told?) : Rat) ≤
      max b.burst 1 + b.rate * (w + 2 / nanosPerSecond) := by
  have hnano : (0 : Rat) < 1 / nanosPerSecond := one_div_pos.2 nanosPerSecond_pos
  have htwo : (2 : Rat) / nanosPerSecond = 1 / nanosPerSecond + 1 / nanosPerSecond := by ring
  have hcount : within a w ((b.calls ts).filterMap Call.told?) ≤
      within (a - 1 / nanosPerSecond) (w + 2 / nanosPerSecond) ((b.calls ts).map Call.release) := by
    rw [within, within, List.countP_filterMap, List.countP_map]
    refine List.countP_mono_left fun c hc hin => ?_
    rcases htold : c.told? with _ | r
    · simp [htold] at hin
    · have hnear := abs_lt.1 (Call.told?_near (rate_pos_of_mem_calls hrate hc) htold)
      have hr : a ≤ r ∧ r ≤ a + w := by simpa [htold] using hin
      refine decide_eq_true ⟨?_, ?_⟩ <;> linarith
  have hreleases : (within (a - 1 / nanosPerSecond) (w + 2 / nanosPerSecond)
      ((b.calls ts).map Call.release) : Rat) ≤ max b.burst 1 + b.rate * (w + 2 / nanosPerSecond) :=
    within_releases hrate hsorted (by linarith)
  exact (Nat.cast_le.2 hcount).trans hreleases

end

/-- **Token bucket conformance**, in exact fractions: whenever calls come in order, they are released in
order, and no window holds more releases than a burst, or one if there is no burst, and what comes in while
the window is open. A call that finds a token has no delay. A delay is given in nanoseconds, less than one
off, and there is none from `2 ^ 64` seconds on; the releases by the delays that were given are in order
too, and keep to the rate if a window is taken a nanosecond longer at either end. -/
theorem calls_conform (rate : Rat) (burst start : Nat) (readings : List Nat) (hrate : 0 < rate)
    (hsorted : readings.Pairwise (· ≤ ·)) :
    let calls := (full rate burst start).calls readings
    let releases := calls.map Call.release
    let told := calls.filterMap Call.told?
    calls.map Call.reading = readings ∧
      releases.Pairwise (· ≤ ·) ∧
      (∀ a w, 0 ≤ w → within a w releases ≤ max (burst : Rat) 1 + rate * w) ∧
      (∀ c ∈ calls, 1 ≤ c.balance → c.wait = 0 ∧ c.answer? = some .zero) ∧
      (∀ c ∈ calls, (c.answer? = none ↔ UInt64.size ≤ c.wait) ∧
        ∀ d, c.answer? = some d → |Quantity.seconds d.nanos - c.wait| < 1 / nanosPerSecond) ∧
      told.Pairwise (· ≤ ·) ∧
      ∀ a w, 0 ≤ w → within a w told ≤ max (burst : Rat) 1 + rate * (w + 2 / nanosPerSecond) := by
  intro calls releases told
  have hfull : 0 < (full rate burst start : Bucket Rat).rate := hrate
  have hfound (c : Call) (hc : c ∈ calls) : 0 < c.found.rate := rate_pos_of_mem_calls hfull hc
  refine ⟨map_reading_calls readings, ?_, fun a w hw => ?_,
    fun c hc hbalance => ?_, fun c hc => ⟨?_, fun d hd => ?_⟩, told_sorted hfull hsorted,
    fun a w hw => ?_⟩
  · exact List.pairwise_map.2 ((calls_ordered hfull hsorted).imp fun h => h.2.1)
  · exact within_releases hfull hsorted hw
  · exact Call.answer?_eq_zero (hfound c hc) hbalance
  · exact Call.answer?_eq_none_iff (hfound c hc)
  · exact Call.seconds_answer?_near (hfound c hc) hd
  · exact within_told hfull hsorted hw

/-- With three tokens a second and a burst of two, a window of two thirds of a second can be full. -/
theorem calls_conform_full :
    let releases := ((full 3 2 0).calls [0, 0, 0, 500000000]).map Call.release
    (0 : Rat) < 3 ∧ [0, 0, 0, 500000000].Pairwise (· ≤ ·) ∧ releases = [0, 0, 1 / 3, 2 / 3] ∧
      (within 0 (2 / 3) releases : Rat) = max 2 1 + 3 * (2 / 3) ∧
      ∀ a w, 0 ≤ w → (within a w releases : Rat) ≤ max 2 1 + 3 * w := by
  have hrate : (0 : Rat) < 3 := by norm_num
  have hsorted : [0, 0, 0, 500000000].Pairwise (· ≤ ·) := by decide
  obtain ⟨-, -, hwithin, -⟩ := calls_conform 3 2 0 [0, 0, 0, 500000000] hrate hsorted
  exact ⟨hrate, hsorted, by decide +kernel, by decide +kernel, hwithin⟩

end Bucket

end Provisioner
