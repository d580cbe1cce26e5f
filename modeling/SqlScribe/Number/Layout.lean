import SqlScribe.Number.Shortest

/-!
# Layouts of floating-point text

A layout says how the shortest digits of a number are written: between which
powers of ten they stand in positional notation, what marks a whole number, how
an exponent looks and which way a tie goes.

Main definitions:

- `FloatLayout.write` writes a number in a layout.
- `FloatLayout.plain`, `FloatLayout.inMessages` and `FloatLayout.inDocuments`
  are the three layouts of this library.
-/

namespace SqlScribe

/-- How a number is laid out. -/
structure FloatLayout where
  /-- The least power of ten of a first digit that is written positionally, if
  there is a limit. -/
  lowest : Option Int
  highest : Option Int
  /-- What follows a whole number written positionally. -/
  wholeMark : String
  /-- What stands between the exponent mark and a positive exponent. -/
  positiveExponent : String
  tie : TieRule

namespace FloatLayout

/-- Literals are always positional. -/
def plain : FloatLayout := ⟨none, none, "", "", .up⟩

/-- Messages mark whole numbers and switch to exponents below `1e-4` and from
`1e16` on. -/
def inMessages : FloatLayout := ⟨some (-4), some 15, ".0", "", .up⟩

/-- Documents mark whole numbers and switch to signed exponents below `1e-5` and
from `1e16` on. -/
def inDocuments : FloatLayout := ⟨some (-5), some 15, ".0", "+", .even⟩

/-- The decimal digits of a natural number. -/
def digitsOf (n : Nat) : List Char := Nat.toDigits 10 n

/-- Digits in positional notation, the last one at `10 ^ exponent`. -/
def positional (layout : FloatLayout) (digits : List Char) (exponent : Int) : String :=
  if 0 ≤ exponent then
    String.ofList (digits ++ List.replicate exponent.toNat '0') ++ layout.wholeMark
  else
    let places := (-exponent).toNat
    if places < digits.length then
      String.ofList (digits.take (digits.length - places)) ++ "." ++
        String.ofList (digits.drop (digits.length - places))
    else
      "0." ++ String.ofList (List.replicate (places - digits.length) '0' ++ digits)

/-- Digits in exponent notation, the first one at `10 ^ exponent`. -/
def scientific (layout : FloatLayout) (digits : List Char) (exponent : Int) : String :=
  let fraction := digits.drop 1
  String.ofList (digits.take 1) ++
    (if fraction.isEmpty then "" else "." ++ String.ofList fraction) ++
    "e" ++ (if exponent < 0 then "-" else layout.positiveExponent) ++
    String.ofList (digitsOf exponent.natAbs)

/-- The shortest digits of a finite number without its sign. -/
def magnitude (layout : FloatLayout) (x : Binary64) : String :=
  if x.isZero then layout.positional ['0'] 0
  else
    let shortest := x.shortestDigits layout.tie
    let digits := digitsOf shortest.digits
    let first := shortest.exponent + digits.length - 1
    if layout.lowest.all (· ≤ first) && layout.highest.all (first ≤ ·) then
      layout.positional digits shortest.exponent
    else layout.scientific digits first

/-- The text of a number. -/
def write (layout : FloatLayout) (x : Binary64) : String :=
  if x.isNaN then "NaN"
  else (if x.isNegative then "-" else "") ++
    (if x.isInfinite then "inf" else layout.magnitude x)

end FloatLayout

end SqlScribe
