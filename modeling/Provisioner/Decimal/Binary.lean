/-!
A double as the sign, the mantissa and the exponent that its bits stand for.
-/

namespace Provisioner.Decimal

/-- A double without its sign: the value is `mantissa * 2 ^ exponent`. -/
structure Binary where
  mantissa : Nat
  exponent : Int
  deriving Repr, DecidableEq

def isNegative (bits : UInt64) : Bool := bits >>> 63 == 1

def exponentField (bits : UInt64) : Nat := ((bits >>> 52) &&& 0x7ff).toNat

def fractionField (bits : UInt64) : Nat := (bits &&& 0xfffffffffffff).toNat

/-- The leading bit of the mantissa, which is not written down. -/
def hiddenBit : Nat := 0x10000000000000

def leastExponent : Int := -1074

/-- The finite double with these bits. -/
def Binary.ofBits (bits : UInt64) : Binary :=
  if exponentField bits = 0 then ⟨fractionField bits, leastExponent⟩
  else ⟨hiddenBit + fractionField bits, exponentField bits - 1 + leastExponent⟩

/-- The value as a quotient. -/
def Binary.ratio (b : Binary) : Nat × Nat :=
  (b.mantissa * Nat.pow 2 b.exponent.toNat, Nat.pow 2 (-b.exponent).toNat)

end Provisioner.Decimal
