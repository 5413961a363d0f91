import Provisioner.Limiter.Backoff
import Provisioner.Limiter.Bucket

/-!
How long a failed item waits before it is tried again.

A limiter is a backoff, a bucket, or the worst case of several limiters. Every part of a combination
is asked on every call, so that each of them counts every failure.
-/

namespace Provisioner

inductive Limiter (ρ α : Type) where
  | backoff (b : Backoff α)
  | bucket (b : Bucket ρ)
  | worst (parts : List (Limiter ρ α))
  deriving Inhabited

namespace Limiter

variable {ρ α : Type} [Quantity ρ] [BEq α]

mutual

/-- The delay for `x` at the time `now`; none if some part has no delay to give. -/
def next (l : Limiter ρ α) (x : α) (now : Nat) : Option Delay × Limiter ρ α :=
  match l with
  | .backoff b => (some (b.next x).1, .backoff (b.next x).2)
  | .bucket b => ((b.next now).1, .bucket (b.next now).2)
  | .worst parts =>
    let (d, parts) := nextAll parts x now Delay.zero
    (d, .worst parts)

/-- The parts in order; after one without a delay the rest is not asked. -/
def nextAll (ls : List (Limiter ρ α)) (x : α) (now : Nat) (longest : Delay) :
    Option Delay × List (Limiter ρ α) :=
  match ls with
  | [] => (some longest, [])
  | l :: ls =>
    match next l x now with
    | (none, l) => (none, l :: ls)
    | (some d, l) =>
      let (r, ls) := nextAll ls x now (longest.max d)
      (r, l :: ls)

end

mutual

def forget (l : Limiter ρ α) (x : α) : Limiter ρ α :=
  match l with
  | .backoff b => .backoff (b.forget x)
  | .bucket b => .bucket b
  | .worst parts => .worst (forgetAll parts x)

def forgetAll (ls : List (Limiter ρ α)) (x : α) : List (Limiter ρ α) :=
  match ls with
  | [] => []
  | l :: ls => forget l x :: forgetAll ls x

end

mutual

/-- The failures counted for `x`; a bucket counts none. -/
def count (l : Limiter ρ α) (x : α) : Nat :=
  match l with
  | .backoff b => b.count x
  | .bucket _ => 0
  | .worst parts => countAll parts x

def countAll (ls : List (Limiter ρ α)) (x : α) : Nat :=
  match ls with
  | [] => 0
  | l :: ls => max (count l x) (countAll ls x)

end

end Limiter

/-- The settings of the limiter that a controller uses. -/
structure RetryPace where
  base : Delay := .ofMillis 5
  cap : Delay := .ofSeconds 1000
  rate : Float := 10.0
  burst : Nat := 100

/-- Backoff for each item, with a bucket over all of them. -/
def RetryPace.limiter {α : Type} (p : RetryPace) (now : Nat) : Limiter Float α :=
  .worst [.backoff { base := p.base, cap := p.cap }, .bucket (Bucket.full p.rate p.burst now)]

end Provisioner
