/-!
# Binary floating-point numbers

This module holds the 64-bit binary floating-point numbers as bit patterns and
reads a pattern as a sign, a whole significand and a power of two.  Everything
is natural-number arithmetic, so each statement about a number is a statement
about its bits.

Main definitions:

- `Binary64` is a bit pattern; `Binary64.significand` and `Binary64.scale` read
  a finite pattern as `significand * 2 ^ scale`.
- `Binary64.equals` is numerical equality: both zeros agree and not-a-number
  differs from everything.
-/

namespace SqlScribe

/-- A 64-bit binary floating-point number, held as its bit pattern. -/
structure Binary64 where
  /-- The sign bit, eleven exponent bits and fifty-two fraction bits. -/
  bits : UInt64
deriving DecidableEq, Inhabited

namespace Binary64

/-! ## Fields of a pattern -/

/-- The value of the sign bit. -/
def signBit : Nat := 0x8000000000000000

/-- The value of the hidden bit, which is above the fraction. -/
def hiddenBit : Nat := 0x10000000000000

/-- The pattern of positive infinity, the least one that is not finite. -/
def infinityBits : Nat := 0x7ff0000000000000

/-- The sign bit. -/
def isNegative (x : Binary64) : Bool := signBit ≤ x.bits.toNat

/-- The pattern without its sign bit. -/
def magnitudeBits (x : Binary64) : Nat := x.bits.toNat % signBit

/-- A number proper: neither infinite nor not-a-number. -/
def isFinite (x : Binary64) : Bool := x.magnitudeBits < infinityBits

/-- Positive or negative infinity. -/
def isInfinite (x : Binary64) : Bool := x.magnitudeBits = infinityBits

/-- Not-a-number, with any payload. -/
def isNaN (x : Binary64) : Bool := infinityBits < x.magnitudeBits

/-- Either zero. -/
def isZero (x : Binary64) : Bool := x.magnitudeBits = 0

/-- The exponent field. -/
def exponentField (x : Binary64) : Nat := x.magnitudeBits / hiddenBit

/-- The fraction field. -/
def fraction (x : Binary64) : Nat := x.magnitudeBits % hiddenBit

/-- The whole significand; a zero exponent field has no hidden bit. -/
def significand (x : Binary64) : Nat :=
  if x.exponentField = 0 then x.fraction else hiddenBit + x.fraction

/-- The power of two that scales the significand. -/
def scale (x : Binary64) : Int := (max x.exponentField 1 : Nat) - 1075

/-! ## Building a pattern -/

/-- The pattern with the given sign and magnitude; a magnitude beyond infinity
is infinity. -/
def ofMagnitude (negative : Bool) (magnitude : Nat) : Binary64 :=
  let magnitude := min magnitude infinityBits
  ⟨UInt64.ofNat (if negative then signBit + magnitude else magnitude)⟩

/-- Zero with the given sign. -/
def zero (negative : Bool) : Binary64 := ofMagnitude negative 0

/-- Infinity with the given sign. -/
def infinity (negative : Bool) : Binary64 := ofMagnitude negative infinityBits

/-- Not-a-number. -/
def nan : Binary64 := ⟨0x7ff8000000000000⟩

/-! ## Equality of numbers -/

/-- Numerical equality: the zeros agree and not-a-number equals nothing. -/
def equals (x y : Binary64) : Bool :=
  !x.isNaN && !y.isNaN && (x.bits == y.bits || (x.isZero && y.isZero))

end Binary64

end SqlScribe
