/-!
# Dates and times of day

A date-time is a day of the proleptic Gregorian calendar with a time of day.
The sixtieth second is a leap second and may stand in any minute.

Main definitions:

- `DateTime` carries the proof that its parts name a real day and time.
- `DateTime.ofParts?` builds one from parts that may be out of range.
-/

namespace SqlScribe

/-! ## Days of the calendar -/

/-- Whether a year has a twenty-ninth of February. -/
def isLeapYear (year : Int) : Bool :=
  year % 4 = 0 && (year % 100 ≠ 0 || year % 400 = 0)

/-- The number of days of a month, zero for a number that is no month. -/
def daysInMonth (year : Int) (month : Nat) : Nat :=
  match month with
  | 1 | 3 | 5 | 7 | 8 | 10 | 12 => 31
  | 4 | 6 | 9 | 11 => 30
  | 2 => if isLeapYear year then 29 else 28
  | _ => 0

/-- The first year that a date may have. -/
def firstYear : Int := -262143

/-- The last year that a date may have. -/
def lastYear : Int := 262142

/-- The parts of a date-time, possibly out of range.  Months and days are counted from one, and
second sixty is a leap second. -/
structure DateTimeParts where
  year : Int
  month : Nat
  day : Nat
  hour : Nat
  minute : Nat
  second : Nat
  nanosecond : Nat
deriving DecidableEq, Inhabited

/-- Whether the parts name a real day and time. -/
def DateTimeParts.isReal (parts : DateTimeParts) : Bool :=
  firstYear ≤ parts.year && parts.year ≤ lastYear &&
    1 ≤ parts.day && parts.day ≤ daysInMonth parts.year parts.month &&
    parts.hour < 24 && parts.minute < 60 && parts.second ≤ 60 && parts.nanosecond < 1000000000

/-- A real day and time. -/
structure DateTime extends DateTimeParts where
  real : toDateTimeParts.isReal = true
deriving DecidableEq

namespace DateTime

/-- The date-time with the given parts, if there is one. -/
def ofParts? (parts : DateTimeParts) : Option DateTime :=
  if real : parts.isReal = true then some ⟨parts, real⟩ else none

/-- Parts that name a real day and time are kept as they are. -/
@[simp] theorem ofParts?_toDateTimeParts (dateTime : DateTime) :
    ofParts? dateTime.toDateTimeParts = some dateTime := by
  simp [ofParts?, dateTime.real]

end DateTime

end SqlScribe
