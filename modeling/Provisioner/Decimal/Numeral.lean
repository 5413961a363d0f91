/-!
Numerals as they are typed: whole numbers within bounds and decimal fractions.

Reading goes from left to right, and the first character at which a numeral goes wrong decides the
fault that is reported.
-/

namespace Provisioner.Decimal

inductive Fault where
  | emptyInteger
  | invalidDigit
  | tooLarge
  | tooSmall
  | emptyFraction
  | invalidFraction
  deriving Repr, DecidableEq

def Fault.message : Fault → String
  | .emptyInteger => "cannot parse integer from empty string"
  | .invalidDigit => "invalid digit found in string"
  | .tooLarge => "number too large to fit in target type"
  | .tooSmall => "number too small to fit in target type"
  | .emptyFraction => "cannot parse float from empty string"
  | .invalidFraction => "invalid float literal"

def digit? (c : Char) : Option Nat :=
  if '0' ≤ c ∧ c ≤ '9' then some (c.toNat - '0'.toNat) else none

/-- Digits after `acc`, refused as soon as the value passes `limit`. -/
def readDigits (limit : Nat) (excess : Fault) : Nat → List Char → Except Fault Nat
  | acc, [] => .ok acc
  | acc, c :: cs =>
    match digit? c with
    | none => .error .invalidDigit
    | some d =>
      let value := 10 * acc + d
      if limit < value then .error excess else readDigits limit excess value cs

/-- A number from `0` to `limit`; a plus sign may stand before it. -/
def readNat (limit : Nat) (s : String) : Except Fault Nat :=
  match s.toList with
  | [] => .error .emptyInteger
  | ['+'] => .error .invalidDigit
  | '+' :: cs => readDigits limit .tooLarge 0 cs
  | cs => readDigits limit .tooLarge 0 cs

/-- The largest whole number of 64 bits with a sign. -/
def maxInt64 : Nat := 0x7fffffffffffffff

/-- A number from `-2 ^ 63` to `2 ^ 63 - 1`. -/
def readInt64 (s : String) : Except Fault Int :=
  match s.toList with
  | [] => .error .emptyInteger
  | ['+'] | ['-'] => .error .invalidDigit
  | '+' :: cs => (readDigits maxInt64 .tooLarge 0 cs).map Int.ofNat
  | '-' :: cs => (readDigits (maxInt64 + 1) .tooSmall 0 cs).map fun n => -(n : Int)
  | cs => (readDigits maxInt64 .tooLarge 0 cs).map Int.ofNat

def valueOf (cs : List Char) : Nat := cs.foldl (fun n c => 10 * n + (digit? c).getD 0) 0

/-- The double nearest to `m * 10 ^ e`; far out of range it is zero or infinite. -/
def nearestDouble (m : Nat) (e : Int) : Float :=
  let size := (Nat.toDigits 10 m).length + e
  if m = 0 ∨ size < -400 then 0.0
  else if 400 < size then 1.0 / 0.0
  else if 0 ≤ e then Float.ofScientific m false e.toNat
  else Float.ofScientific m true (-e).toNat

def readExponent (cs : List Char) : Option Int :=
  let (negative, ds) := match cs with
    | '-' :: ds => (true, ds)
    | '+' :: ds => (false, ds)
    | ds => (false, ds)
  if ds.isEmpty || ds.any (digit? · |>.isNone) then none
  else some (if negative then -(valueOf ds : Int) else valueOf ds)

/-- A decimal fraction without its sign: digits, a point, an exponent. -/
def readMagnitude (cs : List Char) : Option Float :=
  let isDigit := fun c => (digit? c).isSome
  let whole := cs.takeWhile isDigit
  let rest := cs.dropWhile isDigit
  let (places, rest) := match rest with
    | '.' :: r => (r.takeWhile isDigit, r.dropWhile isDigit)
    | r => ([], r)
  let exponent? := match rest with
    | [] => some 0
    | c :: r => if c = 'e' ∨ c = 'E' then readExponent r else none
  if whole.isEmpty && places.isEmpty then none
  else exponent?.map fun e => nearestDouble (valueOf (whole ++ places)) (e - places.length)

def lowerAscii (s : String) : String := s.map Char.toLower

/-- A double, the words for infinity and for no number included. -/
def readDouble (s : String) : Except Fault Float :=
  match s.toList with
  | [] => .error .emptyFraction
  | c :: cs =>
    let sign := if c = '-' then -1.0 else 1.0
    let body := if c = '-' ∨ c = '+' then cs else c :: cs
    let word := lowerAscii (String.ofList body)
    if word = "inf" ∨ word = "infinity" then .ok (sign / 0.0)
    else if word = "nan" then .ok (0.0 / 0.0)
    else match readMagnitude body with
      | some x => .ok (sign * x)
      | none => .error .invalidFraction

end Provisioner.Decimal
