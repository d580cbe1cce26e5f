import SqlScribe.Number.Rounding

/-!
# Shortest decimal digits

The shortest decimal numeral that reads back as a given floating-point number
is found by exact arithmetic.  The reals that round to the number form an
interval, closed when the significand is even.  Grids of decimal numerals are
tried from coarse to fine; on each grid only the two neighbours of the number
can lie in the interval next to it, and the first grid with such a neighbour
gives the digits.

Main definitions:

- `Binary64.roundingInterval` is the interval in units of a quarter of the last
  binary place.
- `Binary64.shortestDigits` gives the digits and the power of ten of the last one.
-/

namespace SqlScribe

/-- A decimal numeral `digits * 10 ^ exponent`. -/
structure Decimal where
  digits : Nat
  exponent : Int
deriving DecidableEq, Inhabited

/-- `10 ^ e` as a numerator and a denominator. -/
def powerOfTen (e : Int) : Nat × Nat := (Nat.pow 10 e.toNat, Nat.pow 10 (-e).toNat)

/-- Which of two equally near neighbours is taken. -/
inductive TieRule where
  | up
  | even
deriving DecidableEq

/-- Whether a tie goes to the neighbour above, given the one below. -/
def TieRule.takesAbove : TieRule → Nat → Bool
  | .up, _ => true
  | .even, below => below % 2 = 1

/-- An interval of positive reals around `value`, all over one denominator. -/
structure RoundingInterval where
  low : Nat
  value : Nat
  high : Nat
  denominator : Nat
  /-- Whether the ends belong to the interval. -/
  closed : Bool

namespace RoundingInterval

/-- Whether `numerator / denominator` lies in the interval. -/
def contains (interval : RoundingInterval) (numerator denominator : Nat) : Bool :=
  let point := numerator * interval.denominator
  if interval.closed then
    interval.low * denominator ≤ point && point ≤ interval.high * denominator
  else
    interval.low * denominator < point && point < interval.high * denominator

/-- The neighbour of the value on the grid of multiples of `10 ^ exponent` that
lies in the interval; of two the nearer, and of two equally near the one the tie
rule takes. -/
def onGrid? (interval : RoundingInterval) (tie : TieRule) (exponent : Int) : Option Nat :=
  let (up, down) := powerOfTen exponent
  let step := interval.denominator * up
  let below := interval.value * down / step
  let above := below + 1
  let remainder := interval.value * down % step
  match interval.contains (below * up) down, interval.contains (above * up) down with
  | true, true =>
    if 2 * remainder < step then some below
    else if step < 2 * remainder then some above
    else some (if tie.takesAbove below then above else below)
  | true, false => some below
  | false, true => some above
  | false, false => none

/-- The first hit on at most `grids` grids, from the coarsest one down. -/
def firstHit (interval : RoundingInterval) (tie : TieRule) : Nat → Int → Decimal
  | 0, exponent => ⟨interval.value / interval.denominator, exponent⟩
  | grids + 1, exponent =>
    match interval.onGrid? tie exponent with
    | some digits => ⟨digits, exponent⟩
    | none => interval.firstHit tie grids (exponent - 1)

/-- An exponent whose power of ten exceeds the value: thirty decimal digits are
shorter than a hundred binary ones. -/
def coarsestGrid (interval : RoundingInterval) : Int :=
  let estimate := (floorLog2 interval.value interval.denominator + 1) * 30103 / 100000
  let (up, down) := powerOfTen estimate
  if interval.value * down < interval.denominator * up then
    let (up, down) := powerOfTen (estimate - 1)
    if interval.value * down < interval.denominator * up then estimate - 1 else estimate
  else estimate + 1

end RoundingInterval

namespace Binary64

/-- The reals that round to a finite nonzero number.  Below a power of two the
gap is half as wide as above it. -/
def roundingInterval (x : Binary64) : RoundingInterval :=
  let below := if x.fraction = 0 && 1 < x.exponentField then 1 else 2
  let (up, down) := powerOfTwo (x.scale - 2)
  { low := (4 * x.significand - below) * up
    value := 4 * x.significand * up
    high := (4 * x.significand + 2) * up
    denominator := down
    closed := x.significand % 2 = 0 }

/-- The shortest decimal numeral that rounds to a finite nonzero number, nearest
to it among those of that length. -/
def shortestDigits (x : Binary64) (tie : TieRule) : Decimal :=
  let interval := x.roundingInterval
  interval.firstHit tie 20 interval.coarsestGrid

end Binary64

end SqlScribe
