import SqlScribe.Number.Layout

/-!
# Reading decimal numerals

Decimal numerals are read from text in two ways.  A numeral read on its own is
rounded once, to the nearest number of the wanted width.  A numeral inside a
document is rounded in two steps: its first nineteen or so digits become a
number, which is then multiplied or divided by a power of ten.

Main definitions:

- `Numeral.read?` splits text into sign, coefficient and power of ten.
- `Binary64.ofText?` and `Binary64.ofTextVia32?` round a numeral once.
- `Binary64.ofSteps` rounds a coefficient and a power of ten in steps.
-/

namespace SqlScribe

/-- A signed decimal numeral `coefficient * 10 ^ exponent`. -/
structure Numeral where
  negative : Bool
  coefficient : Nat
  exponent : Int

/-- The number that a run of decimal digits spells. -/
def digitsValue (digits : List Char) : Nat :=
  digits.foldl (fun value digit => 10 * value + (digit.toNat - '0'.toNat)) 0

/-- Removes a leading sign and tells whether it was a minus. -/
def splitSign : List Char → Bool × List Char
  | '-' :: rest => (true, rest)
  | '+' :: rest => (false, rest)
  | rest => (false, rest)

namespace Numeral

/-- An exponent part: nothing, or a mark, an optional sign and digits. -/
def exponentPart? : List Char → Option Int
  | [] => some 0
  | mark :: rest =>
    if mark = 'e' || mark = 'E' then
      let (negative, digits) := splitSign rest
      if digits.isEmpty || !digits.all Char.isDigit then none
      else
        let value : Int := digitsValue digits
        some (if negative then -value else value)
    else none

/-- A sign, digits with at most one point and at least one digit, and an exponent
part. -/
def read? (text : List Char) : Option Numeral :=
  let (negative, unsigned) := splitSign text
  let whole := unsigned.takeWhile Char.isDigit
  let afterWhole := unsigned.dropWhile Char.isDigit
  let (fraction, tail) :=
    match afterWhole with
    | '.' :: rest => (rest.takeWhile Char.isDigit, rest.dropWhile Char.isDigit)
    | rest => ([], rest)
  if whole.isEmpty && fraction.isEmpty then none
  else do
    let exponent ← exponentPart? tail
    some ⟨negative, digitsValue (whole ++ fraction), exponent - fraction.length⟩

end Numeral

namespace Binary64

/-- A power of ten at which every finite numeral of this many digits has long
overflowed or vanished. -/
def decimalLimit : Int := 400

/-- Rounds a numeral with the given rounding of quotients. -/
def ofNumeral (round : Bool → Nat → Nat → Binary64) (numeral : Numeral) : Binary64 :=
  let magnitude : Int := (FloatLayout.digitsOf numeral.coefficient).length + numeral.exponent
  if numeral.coefficient = 0 || magnitude < -decimalLimit then zero numeral.negative
  else if decimalLimit < magnitude then infinity numeral.negative
  else
    let (up, down) := powerOfTen numeral.exponent
    round numeral.negative (numeral.coefficient * up) down

/-- The names of the numbers that have no digits, in any case. -/
def named? (text : List Char) : Option Binary64 :=
  let (negative, name) := splitSign text
  match String.ofList (name.map Char.toLower) with
  | "inf" | "infinity" => some (infinity negative)
  | "nan" => some nan
  | _ => none

/-- Reads a numeral or a name, rounding quotients as given. -/
def readText? (round : Bool → Nat → Nat → Binary64) (text : String) : Option Binary64 :=
  match Numeral.read? text.toList with
  | some numeral => some (ofNumeral round numeral)
  | none => named? text.toList

/-- The number nearest to the numeral that the text spells. -/
def ofText? (text : String) : Option Binary64 := readText? ofQuotient text

/-- The same, rounded to the 32-bit format first. -/
def ofTextVia32? (text : String) : Option Binary64 := readText? ofQuotientVia32 text

/-! ## Numerals inside documents -/

/-- The number nearest to `10 ^ n`. -/
def tenTo (n : Nat) : Binary64 := ofQuotient false (Nat.pow 10 n) 1

/-- Divides by `10 ^ 308` until at most 308 places remain, then by the rest. -/
def divideByTens (x : Binary64) : Nat → Nat → Binary64
  | 0, places => x.div (tenTo places)
  | rounds + 1, places => divideByTens (x.div (tenTo 308)) rounds (places - 308)

/-- A coefficient is rounded, then scaled by a rounded power of ten.  A result that
is too great is infinite. -/
def ofSteps (negative : Bool) (coefficient : Nat) (exponent : Int) : Binary64 :=
  let signed (x : Binary64) := ofMagnitude negative x.magnitudeBits
  let start := ofQuotient false coefficient 1
  if start.isZero then zero negative
  else if exponent < 0 then
    let places := (-exponent).toNat
    let rounds := min ((places - 1) / 308) 3
    signed (divideByTens start rounds (min places (308 * (rounds + 1))))
  else if 308 < exponent then infinity negative
  else signed (start.mul (tenTo exponent.toNat))

end Binary64

end SqlScribe
