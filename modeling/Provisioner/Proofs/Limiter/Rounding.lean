import Mathlib.Algebra.Order.Field.Basic
import Mathlib.Algebra.Order.Ring.Rat
import Mathlib.Tactic.Linarith
import Provisioner.Limiter.Bucket

/-!
The delay of a fraction of a second.

It is the nearest number of nanoseconds, and there is none from `2 ^ 64` seconds on.
-/

namespace Provisioner

/-- Rounding is off by a half at most. -/
lemma roundHalfEven_near (num : Nat) {den : Nat} (h : 0 < den) :
    2 * (den * roundHalfEven num den) ≤ 2 * num + den ∧
      2 * num ≤ 2 * (den * roundHalfEven num den) + den := by
  have hdiv := Nat.div_add_mod num den
  have hmod := Nat.mod_lt num h
  have hup : den * (num / den + 1) = den * (num / den) + den := Nat.mul_succ _ _
  unfold roundHalfEven
  simp only
  split_ifs <;> omega

/-- How many nanoseconds are nearest. -/
def nearestNanos (x : Rat) : Nat := roundHalfEven (x.num.toNat * nanosPerSecond) x.den

lemma nearestNanos_zero : nearestNanos 0 = 0 := by simp [nearestNanos, roundHalfEven]

lemma ofNanos_nearestNanos_zero : Delay.ofNanos (nearestNanos 0) = .zero := by
  rw [nearestNanos_zero]
  exact Delay.ext (Nat.zero_min _)

variable {x : Rat}

lemma natCast_toNat_num (h : 0 ≤ x) : ((x.num.toNat : Nat) : Rat) = x * x.den := by
  have hnum : ((x.num.toNat : Nat) : Int) = x.num := Int.toNat_of_nonneg (Rat.num_nonneg.2 h)
  calc ((x.num.toNat : Nat) : Rat)
      = ((x.num.toNat : Int) : Rat) := by push_cast; rfl
    _ = (x.num : Rat) := by rw [hnum]
    _ = x * x.den := (Rat.mul_den_eq_num x).symm

lemma nearestNanos_near (h : 0 ≤ x) : |(nearestNanos x : Rat) - x * nanosPerSecond| ≤ 1 / 2 := by
  have hden : (0 : Rat) < x.den := by exact_mod_cast x.den_pos
  obtain ⟨hle, hge⟩ := roundHalfEven_near (x.num.toNat * nanosPerSecond) x.den_pos
  have hle' : 2 * ((x.den : Rat) * nearestNanos x) ≤
      2 * (x.num.toNat * nanosPerSecond) + x.den := by exact_mod_cast hle
  have hge' : 2 * ((x.num.toNat : Rat) * nanosPerSecond) ≤
      2 * (x.den * nearestNanos x) + x.den := by exact_mod_cast hge
  rw [natCast_toNat_num h] at hle' hge'
  have hup : (nearestNanos x : Rat) - x * nanosPerSecond ≤ 1 / 2 := by
    refine le_of_mul_le_mul_left ?_ hden
    linarith
  have hdown : x * nanosPerSecond - nearestNanos x ≤ 1 / 2 := by
    refine le_of_mul_le_mul_left ?_ hden
    linarith
  exact abs_le.2 ⟨by linarith, hup⟩

/-- Rounding keeps the order of what is whole nanoseconds apart from what is rounded. -/
lemma add_nearestNanos_le {y : Rat} {s t : Nat} (hx : 0 ≤ x) (hy : 0 ≤ y)
    (h : s + x * nanosPerSecond < t + y * nanosPerSecond) :
    s + nearestNanos x ≤ t + nearestNanos y := by
  have hnear := abs_le.1 (nearestNanos_near hx)
  have hnear' := abs_le.1 (nearestNanos_near hy)
  have hlt : (s : Rat) + nearestNanos x < t + nearestNanos y + 1 := by linarith
  have hnanos : s + nearestNanos x < t + nearestNanos y + 1 := by exact_mod_cast hlt
  exact Nat.le_of_lt_succ hnanos

/-- A delay is found for what is shorter than the longest delay and a nanosecond. -/
lemma delay?_eq (h : 0 ≤ x) :
    Quantity.delay? x = if x < UInt64.size then some (Delay.ofNanos (nearestNanos x)) else none := by
  have hden : (0 : Rat) < x.den := by exact_mod_cast x.den_pos
  have hiff : x.num.toNat < UInt64.size * x.den ↔ x < UInt64.size := by
    rw [← mul_lt_mul_iff_left₀ hden, ← natCast_toNat_num h]
    exact_mod_cast Iff.rfl
  have hdelay : Quantity.delay? x = delayOfRatio? x.num.toNat x.den := if_neg (not_lt.2 h)
  rw [hdelay, delayOfRatio?]
  simp only [hiff]
  rfl

/-- What is cut to the longest delay was shorter than that and a nanosecond. -/
lemma ofNanos_near (h : 0 ≤ x) (hx : x < UInt64.size) :
    |((Delay.ofNanos (nearestNanos x)).nanos : Rat) - x * nanosPerSecond| < 1 := by
  have hnear := abs_le.1 (nearestNanos_near h)
  have hcut : (Delay.ofNanos (nearestNanos x)).nanos = min (nearestNanos x) maxNanos := rfl
  rw [hcut]
  rcases le_or_gt (nearestNanos x) maxNanos with hle | hgt
  · rw [min_eq_left hle]
    exact abs_lt.2 ⟨by linarith, by linarith⟩
  · have hmax : (maxNanos : Rat) = UInt64.size * nanosPerSecond - 1 := by
      norm_num [maxNanos, nanosPerSecond, UInt64.size]
    have hlt : x * nanosPerSecond < UInt64.size * nanosPerSecond := by
      refine mul_lt_mul_of_pos_right hx ?_
      norm_num [nanosPerSecond]
    have hgt' : (maxNanos : Rat) + 1 ≤ nearestNanos x := by exact_mod_cast hgt
    rw [min_eq_right hgt.le]
    exact abs_lt.2 ⟨by linarith, by linarith⟩

end Provisioner
