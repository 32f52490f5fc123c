/-! # Finite binary64 numbers

A number with a fraction is kept as its binary64 pattern; patterns for infinities and for things
that are no number are excluded by the type.  The value is `± significand · 2 ^ exponent`. -/
set_option autoImplicit false
namespace BoundaryLog.Decimal

/-- The number that the eleven exponent bits of a pattern hold. -/
def exponentBits (bits : UInt64) : Nat := (bits >>> 52 &&& 0x7FF).toNat

/-- The number that the fifty-two fraction bits of a pattern hold. -/
def fractionBits (bits : UInt64) : Nat := (bits &&& 0xFFFFFFFFFFFFF).toNat

structure Binary64 where
  bits : UInt64
  finite : exponentBits bits < 2047
  deriving DecidableEq

namespace Binary64

/-- The number with the given pattern, unless the pattern is not finite. -/
def ofBits? (bits : UInt64) : Option Binary64 :=
  if h : exponentBits bits < 2047 then some ⟨bits, h⟩ else none

/-- Whether the sign bit is set; it is for `-0` too. -/
def negative (x : Binary64) : Bool := x.bits >>> 63 == 1

/-- The magnitude as a whole number of units of `2 ^ exponent`. -/
def significand (x : Binary64) : Nat :=
  if exponentBits x.bits = 0 then fractionBits x.bits
  else 0x10000000000000 + fractionBits x.bits

/-- The exponent of the unit that `significand` counts. -/
def exponent (x : Binary64) : Int := max 1 (exponentBits x.bits) - 1075

/-- Whether the next smaller magnitude is only half a unit away. -/
def closeBelow (x : Binary64) : Bool :=
  fractionBits x.bits == 0 && 1 < exponentBits x.bits

end Binary64
end BoundaryLog.Decimal
