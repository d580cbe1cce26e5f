import SqlScribe.Calendar.DateTime
import SqlScribe.Number.Numeral

/-!
# Date-times as text

A date-time is written as date, the letter `T` and time of day.  Documents give
the fraction as many digits as it needs, in groups of three; literals always cut
it to thousandths.  Reading allows blanks before each number and each separator
but not before the fraction.

Main definitions:

- `DateTime.write` is the form of documents and `DateTime.writeLiteral` that of
  literals.
- `DateTime.read?` reads the form of documents.
-/

namespace SqlScribe

/-! ## Writing -/

/-- A number with at least `width` digits. -/
def zeroPadded (width n : Nat) : List Char :=
  let digits := Nat.toDigits 10 n
  List.replicate (width - digits.length) '0' ++ digits

namespace DateTime

/-- A year of four digits stands alone; every other one has a sign. -/
def yearText (year : Int) : List Char :=
  if 0 ≤ year && year ≤ 9999 then zeroPadded 4 year.toNat
  else (if year < 0 then '-' else '+') :: zeroPadded 4 year.natAbs

/-- The date and the whole seconds. -/
def wholeText (dateTime : DateTime) : List Char :=
  yearText dateTime.year ++ ['-'] ++ zeroPadded 2 dateTime.month ++ ['-'] ++
    zeroPadded 2 dateTime.day ++ ['T'] ++ zeroPadded 2 dateTime.hour ++ [':'] ++
    zeroPadded 2 dateTime.minute ++ [':'] ++ zeroPadded 2 dateTime.second

/-- The shortest of no, three, six and nine digits that loses nothing. -/
def fractionText (nanosecond : Nat) : List Char :=
  if nanosecond = 0 then []
  else if nanosecond % 1000000 = 0 then '.' :: zeroPadded 3 (nanosecond / 1000000)
  else if nanosecond % 1000 = 0 then '.' :: zeroPadded 6 (nanosecond / 1000)
  else '.' :: zeroPadded 9 nanosecond

/-- The written form of documents and messages. -/
def write (dateTime : DateTime) : String :=
  String.ofList (dateTime.wholeText ++ fractionText dateTime.nanosecond)

/-- The written form of literals, cut to thousandths of a second. -/
def writeLiteral (dateTime : DateTime) : String :=
  String.ofList
    (dateTime.wholeText ++ '.' :: zeroPadded 3 (dateTime.nanosecond / 1000000))

/-! ## Reading -/

/-- Characters that count as blank. -/
def isBlank (c : Char) : Bool :=
  let code := c.toNat
  (9 ≤ code && code ≤ 13) || code = 0x20 || code = 0x85 || code = 0xa0 || code = 0x1680 ||
    (0x2000 ≤ code && code ≤ 0x200a) || code = 0x2028 || code = 0x2029 || code = 0x202f ||
    code = 0x205f || code = 0x3000

/-- The text without its leading blanks. -/
def skipBlanks (text : List Char) : List Char := text.dropWhile isBlank

/-- At least one digit and at most `width` of them, after blanks. -/
def number? (width : Nat) (text : List Char) : Option (Nat × List Char) :=
  let text := skipBlanks text
  let digits := (text.take width).takeWhile Char.isDigit
  if digits.isEmpty then none else some (digitsValue digits, text.drop digits.length)

/-- All digits there are, at least one. -/
def longNumber? (text : List Char) : Option (Nat × List Char) :=
  let digits := text.takeWhile Char.isDigit
  if digits.isEmpty then none else some (digitsValue digits, text.dropWhile Char.isDigit)

/-- A year: up to four digits, or a sign and any number of them. -/
def year? (text : List Char) : Option (Int × List Char) :=
  match skipBlanks text with
  | '-' :: rest => (longNumber? rest).map fun (year, rest) => (-(year : Int), rest)
  | '+' :: rest => (longNumber? rest).map fun (year, rest) => ((year : Int), rest)
  | text => (number? 4 text).map fun (year, rest) => ((year : Int), rest)

/-- A separator after blanks. -/
def separator? (mark : Char) (text : List Char) : Option (List Char) :=
  match skipBlanks text with
  | c :: rest => if c = mark then some rest else none
  | [] => none

/-- Billionths of a second after a point; further digits are dropped. -/
def fraction? : List Char → Option (Nat × List Char)
  | '.' :: rest =>
    let digits := rest.takeWhile Char.isDigit
    let kept := digits.take 9
    if digits.isEmpty then none
    else some (digitsValue kept * Nat.pow 10 (9 - kept.length), rest.dropWhile Char.isDigit)
  | rest => some (0, rest)

/-- The parts that a text spells, in range or not. -/
def parts? (text : List Char) : Option DateTimeParts := do
  let (year, rest) ← year? text
  let rest ← separator? '-' rest
  let (month, rest) ← number? 2 rest
  let rest ← separator? '-' rest
  let (day, rest) ← number? 2 rest
  let rest ← separator? 'T' rest
  let (hour, rest) ← number? 2 rest
  let rest ← separator? ':' rest
  let (minute, rest) ← number? 2 rest
  let rest ← separator? ':' rest
  let (second, rest) ← number? 2 rest
  let (nanosecond, rest) ← fraction? rest
  if (skipBlanks rest).isEmpty then
    some { year, month, day, hour, minute, second, nanosecond }
  else none

/-- The date-time that a text spells. -/
def read? (text : String) : Option DateTime := do
  let parts ← parts? text.toList
  ofParts? parts

end DateTime

end SqlScribe
