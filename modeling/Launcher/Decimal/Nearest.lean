-- SUMMARY: The double-precision number nearest to a decimal.
import Launcher.Decimal.Binary

/-!
# The nearest double-precision number

The bits of the numbers ascend with them: those of one exponent follow one another, and those of the
next exponent come right behind. So the exponent and the mantissa, rounded, add up to the bits, also
where rounding carries the mantissa into the next exponent.
-/
namespace Launcher.Decimal

/-- The bits of the infinite number. -/
def infiniteBits : Nat := 2047 * twoTo 52

/-- The bits of the number nearest to `num / den`, without a sign. Of two that are equally near it is
    the one with an even mantissa. -/
def nearestBits (num den : Nat) : Nat :=
  -- in units of the least number above zero
  let scaled := num * twoTo 1074
  let shift := Nat.log2 (scaled / den) - 52
  min (shift * twoTo 52 + roundHalfEven scaled (den * twoTo shift)) infiniteBits

/-- The bits of the number nearest to `digits * 10 ^ power`. A power that leads beyond all numbers
    is not worked out. -/
def decimalBits (digits : Nat) (power : Int) : Nat :=
  if digits = 0 then 0
  else if 309 < power then infiniteBits
  else if power < -(digits.log2 + 400) then 0
  else nearestBits (digits * tenTo power.toNat) (tenTo (-power).toNat)

/-- The number of these bits, with a sign. -/
def ofMagnitude (negative : Bool) (bits : Nat) : Float :=
  Float.ofBits (UInt64.ofNat ((if negative then twoTo 63 else 0) + bits))

/-- The number nearest to `digits * 10 ^ power`, with a sign. -/
def ofDecimal (negative : Bool) (digits : Nat) (power : Int) : Float :=
  ofMagnitude negative (decimalBits digits power)

/-- The infinite number, with a sign. -/
def infinity (negative : Bool) : Float := ofMagnitude negative infiniteBits

/-- The number that stands for no number. -/
def notNumber : Float := Float.ofBits 0x7FF8000000000000

end Launcher.Decimal
