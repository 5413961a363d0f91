import Provisioner.Decimal.Binary
import Provisioner.Limiter.Delay

/-!
A token bucket that all items share.

Every call takes a token, also from an empty bucket: the balance then is negative, and the delay is
the time in which the missing part comes back. The arithmetic is a parameter: machine numbers when
the bucket runs, exact fractions when it is reasoned about.
-/

namespace Provisioner

/-- What a bucket computes with. `delay?` is the nearest delay, for what is in range. -/
class Quantity (ρ : Type) where
  zero : ρ
  one : ρ
  ofNat : Nat → ρ
  add : ρ → ρ → ρ
  sub : ρ → ρ → ρ
  mul : ρ → ρ → ρ
  div : ρ → ρ → ρ
  neg : ρ → ρ
  atMost : ρ → ρ → Bool
  lesser : ρ → ρ → ρ
  seconds : Nat → ρ
  delay? : ρ → Option Delay

/-- The quotient rounded to the nearest whole number, a half to the even one. -/
def roundHalfEven (num den : Nat) : Nat :=
  let q := num / den
  let r := num % den
  if 2 * r < den then q
  else if den < 2 * r then q + 1
  else if q % 2 = 0 then q else q + 1

/-- A delay of `num / den` seconds to the nearest nanosecond, below `2 ^ 64` seconds. -/
def delayOfRatio? (num den : Nat) : Option Delay :=
  if num < UInt64.size * den then
    some (Delay.ofNanos (roundHalfEven (num * nanosPerSecond) den))
  else none

def delayOfDouble? (x : Float) : Option Delay :=
  if x < 0.0 || x.isNaN || x.isInf then none
  else if x == 0.0 then some Delay.zero
  else
    let (num, den) := (Decimal.Binary.ofBits x.toBits).ratio
    delayOfRatio? num den

/-- Machine numbers; the lesser of a number and no number is the number. -/
instance : Quantity Float where
  zero := 0.0
  one := 1.0
  ofNat := Float.ofNat
  add := (· + ·)
  sub := (· - ·)
  mul := (· * ·)
  div := (· / ·)
  neg := (- ·)
  atMost := (· ≤ ·)
  lesser a b := if a.isNaN then b else if b.isNaN then a else if b < a then b else a
  seconds n := Float.ofNat (n / nanosPerSecond) + Float.ofNat (n % nanosPerSecond) / 1.0e9
  delay? := delayOfDouble?

instance : Quantity Rat where
  zero := 0
  one := 1
  ofNat n := n
  add := (· + ·)
  sub := (· - ·)
  mul := (· * ·)
  div := (· / ·)
  neg := (- ·)
  atMost a b := decide (a ≤ b)
  lesser a b := if b < a then b else a
  seconds n := (n : Rat) / (nanosPerSecond : Rat)
  delay? x := if x < 0 then none else delayOfRatio? x.num.toNat x.den

structure Bucket (ρ : Type) where
  rate : ρ
  burst : ρ
  tokens : ρ
  filledAt : Nat
  deriving Repr

namespace Bucket

variable {ρ : Type} [Quantity ρ]

/-- A full bucket at the time `now`, in nanoseconds. -/
def full (rate : ρ) (burst : Nat) (now : Nat) : Bucket ρ where
  rate
  burst := Quantity.ofNat burst
  tokens := Quantity.ofNat burst
  filledAt := now

/-- The balance at the time `now`, before a token is taken. -/
def balance (b : Bucket ρ) (now : Nat) : ρ :=
  Quantity.lesser
    (Quantity.add b.tokens (Quantity.mul (Quantity.seconds (now - b.filledAt)) b.rate)) b.burst

def take (b : Bucket ρ) (now : Nat) : Bucket ρ :=
  { b with tokens := Quantity.sub (b.balance now) Quantity.one, filledAt := now }

/-- The time until the balance is no longer negative; none if it fits no delay. -/
def wait? (b : Bucket ρ) : Option Delay :=
  if Quantity.atMost Quantity.zero b.tokens then some Delay.zero
  else Quantity.delay? (Quantity.div (Quantity.neg b.tokens) b.rate)

/-- The delay for a call at the time `now`. Without a positive rate there is no limit. -/
def next (b : Bucket ρ) (now : Nat) : Option Delay × Bucket ρ :=
  if Quantity.atMost b.rate Quantity.zero then (some Delay.zero, b)
  else ((b.take now).wait?, b.take now)

end Bucket

end Provisioner
