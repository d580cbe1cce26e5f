import SqlScribe.Number.Binary64

/-!
# Rounding a quotient to a binary floating-point number

A positive quotient of two natural numbers is rounded to the nearest value of a
binary format, ties going to the even significand.  Sums of digits, products and
quotients of floating-point numbers are all quotients, so one rounding serves
for reading decimal text, for widening and for the two arithmetic operations.

Main definitions:

- `BinaryFormat` says how many significant bits a format has and where it ends.
- `BinaryFormat.round` rounds a quotient to a significand and a power of two.
- `Binary64.ofQuotient`, `Binary64.mul` and `Binary64.div` round once.
-/

namespace SqlScribe

/-- The nearest natural number to `numerator / denominator`; a half goes to the
even neighbour. -/
def roundHalfEven (numerator denominator : Nat) : Nat :=
  let quotient := numerator / denominator
  let remainder := numerator % denominator
  if 2 * remainder < denominator then quotient
  else if denominator < 2 * remainder then quotient + 1
  else quotient + quotient % 2

/-- `2 ^ e` as a numerator and a denominator. -/
def powerOfTwo (e : Int) : Nat × Nat := (Nat.pow 2 e.toNat, Nat.pow 2 (-e).toNat)

/-- The greatest `e` with `2 ^ e ≤ numerator / denominator`. -/
def floorLog2 (numerator denominator : Nat) : Int :=
  let estimate : Int := numerator.log2 - denominator.log2
  let (up, down) := powerOfTwo estimate
  if numerator * down < denominator * up then estimate - 1 else estimate

/-- A binary format: its significant bits and the scales of its least and
greatest significands. -/
structure BinaryFormat where
  /-- Significant bits, the hidden one included. -/
  precision : Nat
  /-- The scale of the subnormal numbers. -/
  lowestScale : Int
  highestScale : Int

namespace BinaryFormat

/-- The 64-bit format. -/
def binary64 : BinaryFormat := ⟨53, -1074, 971⟩

/-- The 32-bit format. -/
def binary32 : BinaryFormat := ⟨24, -149, 104⟩

/-- The significand and scale nearest to a positive quotient.  The significand
reaches `2 ^ precision` when the rounding carries. -/
def round (format : BinaryFormat) (numerator denominator : Nat) : Nat × Int :=
  let scale := max format.lowestScale (floorLog2 numerator denominator - (format.precision - 1))
  let (up, down) := powerOfTwo scale
  (roundHalfEven (numerator * down) (denominator * up), scale)

/-- Whether a rounded significand lies beyond the greatest finite number. -/
def overflows (format : BinaryFormat) : Nat × Int → Bool
  | (significand, scale) =>
    format.highestScale < scale ||
      (format.highestScale = scale && Nat.pow 2 format.precision ≤ significand)

end BinaryFormat

namespace Binary64

/-- The number nearest to `numerator / denominator`, infinite beyond the range. -/
def ofQuotient (negative : Bool) (numerator denominator : Nat) : Binary64 :=
  if numerator = 0 then zero negative
  else
    let (significand, scale) := BinaryFormat.binary64.round numerator denominator
    ofMagnitude negative (significand + (scale + 1074).toNat * hiddenBit)

/-- The number nearest to a quotient that is first rounded to the 32-bit format. -/
def ofQuotientVia32 (negative : Bool) (numerator denominator : Nat) : Binary64 :=
  if numerator = 0 then zero negative
  else
    let rounded := BinaryFormat.binary32.round numerator denominator
    if BinaryFormat.binary32.overflows rounded then infinity negative
    else
      let (up, down) := powerOfTwo rounded.2
      ofQuotient negative (rounded.1 * up) down

/-- The number nearest to an integer. -/
def ofInt (n : Int) : Binary64 := ofQuotient (n < 0) n.natAbs 1

/-- The rounded product of two finite numbers. -/
def mul (x y : Binary64) : Binary64 :=
  let (up, down) := powerOfTwo (x.scale + y.scale)
  ofQuotient (x.isNegative != y.isNegative) (x.significand * y.significand * up) down

/-- The rounded quotient of two finite numbers, the second not zero. -/
def div (x y : Binary64) : Binary64 :=
  let (up, down) := powerOfTwo (x.scale - y.scale)
  ofQuotient (x.isNegative != y.isNegative) (x.significand * up) (y.significand * down)

end Binary64

end SqlScribe
