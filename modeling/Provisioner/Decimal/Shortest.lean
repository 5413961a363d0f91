import Provisioner.Decimal.Binary

/-!
The shortest decimal that reads back as a given binary number.

The reals that round to `m * 2 ^ q` form an interval, closed when `m` is even. Grids of powers of
ten are tried from the coarsest down; on the first grid with a point in the interval the point
nearest to the value is taken.
-/

namespace Provisioner.Decimal

/-- The number `digits * 10 ^ exponent`. -/
structure Scientific where
  digits : Nat
  exponent : Int
  deriving Repr, DecidableEq

/-- Four times the mantissa, with the ends of the interval in the same unit. -/
structure Interval where
  low : Nat
  value : Nat
  high : Nat
  closed : Bool
  exponent : Int
  deriving Repr, DecidableEq

/-- Below a power of two the neighbour is half as far away as above it. -/
def Binary.interval (b : Binary) : Interval where
  low := 4 * b.mantissa - if b.mantissa = hiddenBit ∧ b.exponent ≠ leastExponent then 1 else 2
  value := 4 * b.mantissa
  high := 4 * b.mantissa + 2
  closed := b.mantissa % 2 == 0
  exponent := b.exponent - 2

/-- The factors that make `x * 2 ^ e` and `c * 10 ^ k` comparable as `x * u` and `c * w`. -/
def scales (e k : Int) : Nat × Nat :=
  (Nat.pow 2 e.toNat * Nat.pow 10 (-k).toNat, Nat.pow 10 k.toNat * Nat.pow 2 (-e).toNat)

def Interval.holds (i : Interval) (u w c : Nat) : Bool :=
  if i.closed then i.low * u ≤ c * w && c * w ≤ i.high * u
  else i.low * u < c * w && c * w < i.high * u

/-- The point of the grid `10 ^ k` that stands for the interval, if there is one. -/
def Interval.point? (i : Interval) (k : Int) : Option Nat :=
  let (u, w) := scales i.exponent k
  let below := i.value * u / w
  let above := below + 1
  match below ≠ 0 && i.holds u w below, i.holds u w above with
  | true, true =>
    let down := i.value * u - below * w
    let up := above * w - i.value * u
    if down < up || (down == up && below % 2 == 0) then some below else some above
  | true, false => some below
  | false, true => some above
  | false, false => none

def Interval.search (i : Interval) : Nat → Int → Scientific
  | 0, k => ⟨i.value * (scales i.exponent k).1 / (scales i.exponent k).2, k⟩
  | fuel + 1, k =>
    match i.point? k with
    | some c => ⟨c, k⟩
    | none => i.search fuel (k - 1)

/-- A power of ten above the value, and not far above it. -/
def Binary.magnitude (b : Binary) : Int :=
  (((b.mantissa.log2 : Int) + b.exponent + 1) * 30103).fdiv 100000 + 2

/-- The shortest decimal for a number other than zero; seventeen digits always suffice. -/
def Binary.shortest (b : Binary) : Scientific := b.interval.search 22 b.magnitude

/-- A point behind the first `n` digits, with zeros where digits are wanting. -/
def pointed (ds : List Char) (n : Int) : List Char :=
  if n ≤ 0 then '0' :: '.' :: (List.replicate (-n).toNat '0' ++ ds)
  else
    let whole := ds.take n.toNat ++ List.replicate (n.toNat - ds.length) '0'
    let places := ds.drop n.toNat
    whole ++ '.' :: (if places.isEmpty then ['0'] else places)

/-- One digit before the point, and a power of ten with its sign. -/
def powered (ds : List Char) (e : Int) : List Char :=
  ds.take 1 ++ (if ds.length ≤ 1 then [] else '.' :: ds.drop 1) ++
    'e' :: (if 0 ≤ e then '+' else '-') :: Nat.toDigits 10 e.natAbs

/-- Numbers from `10 ^ -5` to below `10 ^ 16` are written without a power of ten. -/
def Scientific.text (s : Scientific) : String :=
  let ds := Nat.toDigits 10 s.digits
  let point := ds.length + s.exponent
  String.ofList (if -5 < point ∧ point ≤ 16 then pointed ds point else powered ds (point - 1))

/-- The shortest decimal that reads back as the double with these bits. -/
def textOfBits (bits : UInt64) : String :=
  let sign := if isNegative bits then "-" else ""
  let b := Binary.ofBits bits
  sign ++ if b.mantissa = 0 then "0.0" else b.shortest.text

end Provisioner.Decimal
