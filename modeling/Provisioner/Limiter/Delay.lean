/-!
Lengths of time in whole nanoseconds, up to the longest one that fits 64 bits of seconds.
-/

namespace Provisioner

def nanosPerSecond : Nat := 1000000000

/-- One nanosecond less than `2 ^ 64` seconds. -/
def maxNanos : Nat := UInt64.size * nanosPerSecond - 1

structure Delay where
  nanos : Nat
  bounded : nanos ≤ maxNanos
  deriving DecidableEq

namespace Delay

instance : Repr Delay := ⟨fun d p => reprPrec d.nanos p⟩

def ofNanos? (n : Nat) : Option Delay := if h : n ≤ maxNanos then some ⟨n, h⟩ else none

/-- What is too long is cut to the longest delay. -/
def ofNanos (n : Nat) : Delay := ⟨min n maxNanos, Nat.min_le_right ..⟩

def ofMillis (n : Nat) : Delay := ofNanos (n * 1000000)

def ofSeconds (n : Nat) : Delay := ofNanos (n * nanosPerSecond)

def zero : Delay := ⟨0, Nat.zero_le _⟩

instance : Inhabited Delay := ⟨zero⟩

/-- A product, if it is not too long. -/
def times? (d : Delay) (k : Nat) : Option Delay := ofNanos? (d.nanos * k)

def min (a b : Delay) : Delay := if a.nanos ≤ b.nanos then a else b

def max (a b : Delay) : Delay := if a.nanos ≤ b.nanos then b else a

def seconds (d : Delay) : Nat := d.nanos / nanosPerSecond

/-- Seconds, a point and nine digits. -/
def text (d : Delay) : String :=
  let places := toString (d.nanos % nanosPerSecond)
  toString d.seconds ++ "." ++ String.ofList (List.replicate (9 - places.length) '0') ++ places

/-- Whole seconds to the nearest multiple of `unit`, a half upwards. -/
def roundedText (unit : Nat) (d : Delay) : String :=
  "~" ++ toString ((d.seconds + unit / 2) / unit * unit)

@[ext] theorem ext {a b : Delay} (h : a.nanos = b.nanos) : a = b := by
  cases a; cases b; simp_all

@[simp] theorem nanos_min (a b : Delay) : (a.min b).nanos = Min.min a.nanos b.nanos := by
  unfold min; split <;> omega

@[simp] theorem nanos_max (a b : Delay) : (a.max b).nanos = Max.max a.nanos b.nanos := by
  unfold max; split <;> omega

end Delay

end Provisioner
