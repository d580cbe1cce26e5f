import SqlScribe.Proofs.Documents.Records
import SqlScribe.Proofs.Documents.WrittenForms
import SqlScribe.Proofs.Rendering.Substitution
import SqlScribe.Proofs.Schema.Clauses
import SqlScribe.Schema.Operation

/-!
# Literals

The literal of a value is read by the rules of its kind, and always as a whole.  Texts, bytes,
numbers and identifiers are read back as they were.  A literal of a date has a year of four
digits, sixty seconds to the minute and at most seven digits of a fraction.  The library writes
every year and the leap second too, and exactly three digits of the fraction.

Main definitions:

- `Value.Kind.read?` reads a literal of a kind.
- `DateTime.Spellable` says which date-times have a literal that stands for them.

Main results:

- `DateTime.readLiteral?_writeLiteral`: what the literal of a date-time stands for.
- `Value.read?_inline_iff`: which values are read back from their literals, and so are kept as
  defaults of columns.
-/

namespace SqlScribe

/-! ## Quoted texts -/

/-- The text between two quotes that enclose all of a literal. -/
def Quoted.whole? (literal : List Char) : Option String :=
  match scan? '\'' '\'' literal with
  | some (inside, []) => some (String.ofList inside)
  | _ => none

/-- A text is read back from its literal. -/
@[simp] theorem Quoted.whole?_textLiteral (text : String) :
    whole? (textLiteral text).toList = some text := by
  have hscan := scanInside?_double '\'' text.toList [] (by simp)
  simp [whole?, textLiteral, quote, scan?, hscan]

/-! ## Whole numbers -/

/-- The number that digits alone spell. -/
def natural? (digits : List Char) : Option Nat :=
  if digits ≠ [] ∧ digits.all Char.isDigit then some (digitsValue digits) else none

/-- The number that digits spell, a minus before them or not. -/
def signed? : List Char → Option Int
  | '-' :: digits => (natural? digits).map fun n => -(n : Int)
  | digits => (natural? digits).map fun n => (n : Int)

/-- A natural number is read back from its digits. -/
theorem natural?_toDigits (n : Nat) : natural? (Nat.toDigits 10 n) = some n := by
  have hdigits : (Nat.toDigits 10 n).all Char.isDigit = true :=
    List.all_eq_true.mpr fun _ => Nat.isDigit_of_mem_toDigits (by decide) (by decide)
  rw [natural?, if_pos ⟨Nat.toDigits_ne_nil, hdigits⟩, digitsValue_eq,
    Nat.ofDigitChars_ten_toDigits]

/-- Every number is read back from its digits and its sign. -/
@[simp] theorem signed?_toString (value : Int) : signed? (toString value).toList = some value := by
  cases value with
  | ofNat n =>
    -- No digit is a minus, so the first rule of `signed?` does not apply.
    have htext : (toString (Int.ofNat n)).toList = Nat.toDigits 10 n := String.toList_ofList
    have hfirst : ∀ rest, Nat.toDigits 10 n ≠ '-' :: rest := by
      intro rest heq
      have hdigit : '-'.isDigit = true :=
        Nat.isDigit_of_mem_toDigits (by decide) (by decide) (heq ▸ List.mem_cons_self)
      cases hdigit
    rw [htext, signed?.eq_2 _ hfirst, natural?_toDigits]
    rfl
  | negSucc n =>
    have htext : (toString (Int.negSucc n)).toList = '-' :: Nat.toDigits 10 (n + 1) := by
      simp [toString, Int.repr, Nat.repr]
    rw [htext, signed?, natural?_toDigits]
    rfl

/-! ## Bytes -/

/-- The bytes that pairs of hexadecimal digits spell. -/
def hexPairs? : List Char → Option (List UInt8)
  | [] => some []
  | [_] => none
  | high :: low :: rest => do
    let byte ← Json.hexValue? [high, low]
    let bytes ← hexPairs? rest
    some (UInt8.ofNat byte :: bytes)

/-- A capital hexadecimal digit is worth the number that it stands for. -/
theorem hexDigit?_toUpper {n : Nat} (hn : n < 16) :
    Json.hexDigit? (Nat.digitChar n).toUpper = some n := by
  revert n
  decide

/-- A byte is read back from its two digits. -/
theorem hexValue?_hexByte (byte : UInt8) :
    Json.hexValue? (Value.hexByte byte) = some byte.toNat := by
  have hlt := byte.toNat_lt
  have hhigh := hexDigit?_toUpper (show byte.toNat / 16 < 16 by omega)
  have hlow := hexDigit?_toUpper (show byte.toNat % 16 < 16 by omega)
  have hvalue : 16 * (byte.toNat / 16) + byte.toNat % 16 = byte.toNat := Nat.div_add_mod _ 16
  simp [Json.hexValue?, Value.hexByte, hhigh, hlow, hvalue]

/-- Bytes are read back from their digits. -/
@[simp] theorem hexPairs?_flatMap_hexByte (bytes : List UInt8) :
    hexPairs? (bytes.flatMap Value.hexByte) = some bytes := by
  induction bytes with
  | nil => rfl
  | cons byte rest ih =>
    have hbyte := hexValue?_hexByte byte
    simp only [Value.hexByte, List.map_cons, List.map_nil] at hbyte
    simp only [List.flatMap_cons, Value.hexByte, List.map_cons, List.map_nil, List.cons_append,
      List.nil_append, hexPairs?, hbyte] at ih ⊢
    simp [ih]

/-! ## Date-times -/

namespace DateTime

/-- A number of exactly `width` digits at the front of a text. -/
def fixedNumber? (width : Nat) (text : List Char) : Option (Nat × List Char) :=
  let digits := text.take width
  if digits.length = width ∧ digits.all Char.isDigit then
    some (digitsValue digits, text.drop width)
  else none

/-- What follows a mark at the front of a text. -/
def afterMark? (mark : Char) : List Char → Option (List Char)
  | c :: rest => if c = mark then some rest else none
  | [] => none

/-- The billionths of a second that one to seven digits after a point spell. -/
def literalFraction? : List Char → Option Nat
  | [] => some 0
  | c :: digits =>
    if c = '.' ∧ digits.length ≤ 7 then
      (natural? digits).map (· * 10 ^ (9 - digits.length))
    else none

/-- The parts that the text of a literal spells, all with their full width. -/
def literalParts? (text : List Char) : Option DateTimeParts := do
  let (year, rest) ← fixedNumber? 4 text
  let rest ← afterMark? '-' rest
  let (month, rest) ← fixedNumber? 2 rest
  let rest ← afterMark? '-' rest
  let (day, rest) ← fixedNumber? 2 rest
  let rest ← afterMark? 'T' rest
  let (hour, rest) ← fixedNumber? 2 rest
  let rest ← afterMark? ':' rest
  let (minute, rest) ← fixedNumber? 2 rest
  let rest ← afterMark? ':' rest
  let (second, rest) ← fixedNumber? 2 rest
  let nanosecond ← literalFraction? rest
  some { year := (year : Int), month, day, hour, minute, second, nanosecond }

/-- The date-time that the text of a literal stands for.  The first year is the year 1, and no
minute has more than sixty seconds. -/
def readLiteral? (text : List Char) : Option DateTime := do
  let parts ← literalParts? text
  if 1 ≤ parts.year ∧ parts.second < 60 then ofParts? parts else none

/-- The date-time without what is less than a thousandth of a second. -/
def toThousandths (dateTime : DateTime) : DateTime where
  toDateTimeParts :=
    { dateTime.toDateTimeParts with nanosecond := dateTime.nanosecond / 1000000 * 1000000 }
  real := by
    have hreal := dateTime.real
    simp only [DateTimeParts.isReal, Bool.and_eq_true, decide_eq_true_eq] at hreal ⊢
    exact ⟨hreal.1, (Nat.div_mul_le_self _ _).trans_lt hreal.2⟩

@[simp] theorem toThousandths_year (dateTime : DateTime) :
    dateTime.toThousandths.year = dateTime.year :=
  rfl

@[simp] theorem toThousandths_second (dateTime : DateTime) :
    dateTime.toThousandths.second = dateTime.second :=
  rfl

/-- Whether a literal stands for the date-time. -/
structure Spellable (dateTime : DateTime) : Prop where
  year : 1 ≤ dateTime.year ∧ dateTime.year ≤ 9999
  second : dateTime.second < 60
  /-- Nothing is less than a thousandth of a second. -/
  thousandths : dateTime.nanosecond % 1000000 = 0

/-- A date-time is kept if nothing in it is less than a thousandth of a second. -/
theorem toThousandths_eq_self_iff (dateTime : DateTime) :
    dateTime.toThousandths = dateTime ↔ dateTime.nanosecond % 1000000 = 0 := by
  constructor
  · intro heq
    have hnanosecond : dateTime.nanosecond / 1000000 * 1000000 = dateTime.nanosecond :=
      congrArg (·.nanosecond) heq
    omega
  · intro hthousandths
    have hnanosecond : dateTime.nanosecond / 1000000 * 1000000 = dateTime.nanosecond := by omega
    have hparts : dateTime.toThousandths.toDateTimeParts = dateTime.toDateTimeParts := by
      simp only [toThousandths, hnanosecond]
    cases dateTime
    simpa [toThousandths] using hparts

/-- A number of fixed width is read off the front of a text. -/
theorem fixedNumber?_zeroPadded {width n : Nat} (hwidth : 0 < width) (hn : n < 10 ^ width)
    (rest : List Char) : fixedNumber? width (zeroPadded width n ++ rest) = some (n, rest) := by
  have hlength := length_zeroPadded hwidth hn
  have hdigits : (zeroPadded width n).all Char.isDigit = true :=
    List.all_eq_true.mpr fun _ => isDigit_of_mem_zeroPadded
  simp only [fixedNumber?, List.take_left' hlength, List.drop_left' hlength, hlength, hdigits,
    and_self, if_true, digitsValue_zeroPadded]

/-- A text that does not begin with a digit begins with no number. -/
theorem fixedNumber?_cons_eq_none {width : Nat} {c : Char} (hc : c.isDigit = false)
    (rest : List Char) : fixedNumber? (width + 1) (c :: rest) = none := by
  simp [fixedNumber?, hc]

@[simp] theorem afterMark?_cons_self (mark : Char) (rest : List Char) :
    afterMark? mark (mark :: rest) = some rest := by
  simp [afterMark?]

/-- Three digits behind a point are thousandths of a second. -/
theorem literalFraction?_zeroPadded {n : Nat} (hn : n < 1000) :
    literalFraction? ('.' :: zeroPadded 3 n) = some (n * 1000000) := by
  have hlength : (zeroPadded 3 n).length = 3 := length_zeroPadded (by decide) hn
  have hdigits : (zeroPadded 3 n).all Char.isDigit = true :=
    List.all_eq_true.mpr fun _ => isDigit_of_mem_zeroPadded
  have hnumber : natural? (zeroPadded 3 n) = some n := by
    rw [natural?, if_pos ⟨zeroPadded_ne_nil 3 n, hdigits⟩, digitsValue_zeroPadded]
  simp [literalFraction?, hlength, hnumber]

/-- The parts of a date-time with a year of four digits are read but for the end of its
fraction. -/
theorem literalParts?_of_year {dateTime : DateTime}
    (hyear : 0 ≤ dateTime.year ∧ dateTime.year ≤ 9999) :
    literalParts? (dateTime.wholeText ++ '.' :: zeroPadded 3 (dateTime.nanosecond / 1000000)) =
      some dateTime.toThousandths.toDateTimeParts := by
  obtain ⟨hmonth, hday, hhour, hminute, hsecond, hnanosecond⟩ := lt_of_isReal dateTime.real
  have hnumber {n : Nat} (hn : n < 100) (rest : List Char) :
      fixedNumber? 2 (zeroPadded 2 n ++ rest) = some (n, rest) :=
    fixedNumber?_zeroPadded (by decide) hn rest
  have hfirst (rest : List Char) : fixedNumber? 4 (yearText dateTime.year ++ rest) =
      some (dateTime.year.toNat, rest) := by
    have hdigits : dateTime.year.toNat < 10 ^ 4 := by omega
    simpa [yearText, hyear] using fixedNumber?_zeroPadded (by decide) hdigits rest
  have hfraction := literalFraction?_zeroPadded
    (show dateTime.nanosecond / 1000000 < 1000 by omega)
  have hvalue : (dateTime.year.toNat : Int) = dateTime.year := Int.toNat_of_nonneg hyear.1
  simp only [wholeText, List.append_assoc, List.cons_append, List.nil_append]
  -- Each part is read off the front of what the parts before it left.
  refine Option.bind_eq_some_iff.mpr ⟨_, hfirst _, ?_⟩
  refine Option.bind_eq_some_iff.mpr ⟨_, afterMark?_cons_self _ _, ?_⟩
  refine Option.bind_eq_some_iff.mpr ⟨_, hnumber hmonth _, ?_⟩
  refine Option.bind_eq_some_iff.mpr ⟨_, afterMark?_cons_self _ _, ?_⟩
  refine Option.bind_eq_some_iff.mpr ⟨_, hnumber hday _, ?_⟩
  refine Option.bind_eq_some_iff.mpr ⟨_, afterMark?_cons_self _ _, ?_⟩
  refine Option.bind_eq_some_iff.mpr ⟨_, hnumber hhour _, ?_⟩
  refine Option.bind_eq_some_iff.mpr ⟨_, afterMark?_cons_self _ _, ?_⟩
  refine Option.bind_eq_some_iff.mpr ⟨_, hnumber hminute _, ?_⟩
  refine Option.bind_eq_some_iff.mpr ⟨_, afterMark?_cons_self _ _, ?_⟩
  refine Option.bind_eq_some_iff.mpr ⟨_, hnumber hsecond _, ?_⟩
  refine Option.bind_eq_some_iff.mpr ⟨_, hfraction, ?_⟩
  rw [hvalue]
  rfl

/-- A year with a sign does not have four digits. -/
theorem literalParts?_of_not_year {dateTime : DateTime}
    (hyear : ¬(0 ≤ dateTime.year ∧ dateTime.year ≤ 9999)) (rest : List Char) :
    literalParts? (dateTime.wholeText ++ rest) = none := by
  have hlong : (decide (0 ≤ dateTime.year) && decide (dateTime.year ≤ 9999)) = false := by
    simpa using hyear
  have hsign : (if dateTime.year < 0 then '-' else '+').isDigit = false := by
    split <;> decide
  have hfirst (rest : List Char) : fixedNumber? 4 (yearText dateTime.year ++ rest) = none := by
    rw [yearText, hlong]
    exact fixedNumber?_cons_eq_none hsign _
  simp only [wholeText, List.append_assoc]
  exact Option.bind_eq_none_iff.mpr fun _ hread => by simp [hfirst] at hread

/-- What the literal of a date-time stands for, if it stands for anything. -/
theorem readLiteral?_writeLiteral (dateTime : DateTime) :
    readLiteral? dateTime.writeLiteral.toList =
      if (1 ≤ dateTime.year ∧ dateTime.year ≤ 9999) ∧ dateTime.second < 60 then
        some dateTime.toThousandths
      else none := by
  rw [readLiteral?, writeLiteral, String.toList_ofList]
  by_cases hyear : 0 ≤ dateTime.year ∧ dateTime.year ≤ 9999
  · simp [literalParts?_of_year hyear, hyear.2]
  · rw [literalParts?_of_not_year hyear, if_neg (by omega)]
    rfl

/-- A date-time is read back from its literal exactly if the literal stands for it. -/
theorem readLiteral?_eq_self_iff (dateTime : DateTime) :
    readLiteral? dateTime.writeLiteral.toList = some dateTime ↔ dateTime.Spellable := by
  rw [readLiteral?_writeLiteral]
  constructor
  · intro hread
    split at hread
    · rename_i hparts
      exact ⟨hparts.1, hparts.2, (toThousandths_eq_self_iff _).mp (Option.some.inj hread)⟩
    · cases hread
  · rintro ⟨hyear, hsecond, hthousandths⟩
    rw [if_pos ⟨hyear, hsecond⟩, (toThousandths_eq_self_iff _).mpr hthousandths]

end DateTime

/-! ## Literals of a kind -/

/-- The value that a literal of a kind stands for.  Floating-point numbers are left out, as a
decimal numeral is only rounded to one. -/
def Value.Kind.read? (kind : Kind) (literal : String) : Option Value :=
  match kind with
  | .null => if literal = "NULL" then some .null else none
  | .bool =>
    if literal = "1" then some (.bool true)
    else if literal = "0" then some (.bool false)
    else none
  | .int => do
    let value ← signed? literal.toList
    (Json.int64? (.int value)).map .int
  | .float => none
  | .text =>
    match literal.toList with
    | 'N' :: quoted => (Quoted.whole? quoted).map .text
    | _ => none
  | .blob =>
    match literal.toList with
    | '0' :: 'x' :: digits => (hexPairs? digits).map .blob
    | _ => none
  | .guid => do
    let text ← Quoted.whole? literal.toList
    (Guid.ofGroups? text.toList).map .guid
  | .dateTime => do
    let text ← Quoted.whole? literal.toList
    (DateTime.readLiteral? text.toList).map .dateTime

namespace Value

/-- The literal of a value is the same in every dialect. -/
theorem spell_literal (value : Value) (dialect : Dialect) :
    value.literal.spell dialect = value.inline := by
  cases value <;> rfl

/-- A value other than a date-time is read back from its literal. -/
theorem read?_inline {value : Value} (hfloat : value.kind ≠ .float)
    (hdate : value.kind ≠ .dateTime) : value.kind.read? value.inline = some value := by
  cases value with
  | null => rfl
  | bool holds => cases holds <;> rfl
  | int value =>
    have hread : signed? (int value).inline.toList = some value.toInt := signed?_toString _
    simp [Kind.read?, kind, hread]
  | float value => exact absurd rfl hfloat
  | text text => simp [Kind.read?, kind, inline, literal, Sql.Piece.spell, nationalLiteral]
  | blob bytes => simp [Kind.read?, kind, inline, literal, Sql.Piece.spell]
  | guid guid =>
    have hgroups : Guid.ofGroups? guid.write.toList = some guid := by
      simpa [Guid.write] using guid.ofGroups?_intercalate
    simp [Kind.read?, kind, inline, literal, Sql.Piece.spell, hgroups]
  | dateTime dateTime => exact absurd rfl hdate

/-- A date-time is read back from its literal exactly if the literal stands for it. -/
theorem read?_inline_dateTime_iff (moment : DateTime) :
    Kind.read? .dateTime (dateTime moment).inline = some (dateTime moment) ↔
      moment.Spellable := by
  rw [← moment.readLiteral?_eq_self_iff]
  simp [Kind.read?, inline, literal, Sql.Piece.spell]

/-- A column with a constant as default is declared with the literal of the constant. -/
theorem spell_clause_of_default {column : Column} {value : Value} {pieces : Sql.Pieces}
    (hdefault : column.default = some (.value value)) (hclause : column.clause = .ok pieces)
    (dialect : Dialect) :
    ∃ front, pieces.spell dialect = front ++ " DEFAULT " ++ value.inline := by
  cases hkind : column.kind with
  | stored type =>
    obtain ⟨physical, identity, default, -, -, hpieces, rfl⟩ :=
      (Column.clause_eq_ok_iff_of_stored hkind).mp hclause
    have hliteral : default.spell dialect = " DEFAULT " ++ value.inline := by
      simp only [Column.defaultClause, hdefault, Column.defaultPieces] at hpieces
      split at hpieces
      · cases hpieces
        rw [Sql.Pieces.spell_append, Sql.Pieces.spell_cons, Sql.Pieces.spell_cons, spell_literal]
        simp [Sql.Piece.spell]
      · cases hpieces
    exact ⟨_, by rw [Sql.Pieces.spell_append, hliteral, ← String.append_assoc]⟩
  | computed expression persisted =>
    obtain ⟨-, hnone, -⟩ := (Column.clause_eq_ok_iff_of_computed hkind).mp hclause
    rw [hdefault] at hnone
    cases hnone

/-- Every value but a floating-point number has a literal, by which a column declares it as its
default.  The value is read back from it as it was, unless it is a date-time that the literal does
not stand for. -/
theorem read?_inline_iff {value : Value} (hkind : value.kind ≠ .float) :
    value.hasLiteral = true ∧
      (∀ (column : Column) (dialect : Dialect) (pieces : Sql.Pieces),
        column.default = some (.value value) → column.clause = .ok pieces →
          ∃ front, pieces.spell dialect = front ++ " DEFAULT " ++ value.inline) ∧
      (value.kind.read? value.inline = some value ↔
        ∀ moment, value = .dateTime moment → moment.Spellable) := by
  refine ⟨?_, fun _ dialect _ hdefault hclause =>
    spell_clause_of_default hdefault hclause dialect, ?_⟩
  · cases value with
    | float => exact absurd rfl hkind
    | _ => rfl
  · by_cases hdate : value.kind = .dateTime
    · cases value with
      | dateTime moment =>
        simpa [kind] using read?_inline_dateTime_iff moment
      | _ => cases hdate
    · refine iff_of_true (read?_inline hkind hdate) ?_
      rintro moment rfl
      exact absurd rfl hdate

/-- A text with a quote is read back. -/
theorem read?_inline_iff_quotedText :
    (Value.text "O'Brien").kind ≠ .float ∧ (Value.text "O'Brien").inline = "N'O''Brien'" ∧
      Kind.read? .text "N'O''Brien'" = some (.text "O'Brien") :=
  have hkind : (Value.text "O'Brien").kind ≠ .float := by decide
  ⟨hkind, rfl, (read?_inline_iff hkind).2.2.mpr (by simp)⟩

end Value

/-- The beginning of the year 10000. -/
def DateTime.afterLastYear : DateTime where
  year := 10000
  month := 1
  day := 1
  hour := 0
  minute := 0
  second := 0
  nanosecond := 0
  real := by decide

/-- The year 10000 is declared as default of a column, though no literal stands for it. -/
theorem Value.not_read?_inline_afterLastYear :
    (Value.dateTime .afterLastYear).hasLiteral = true ∧
      (SchemaOperation.addColumn ⟨"t", none⟩
          { Column.stored "At" (.host .dateTime) with
            default := some (.value (.dateTime .afterLastYear)) }).statement =
        .ok
          { text := "ALTER TABLE [t] ADD [At] datetime NOT NULL DEFAULT " ++
              "'+10000-01-01T00:00:00.000'"
            result := .none } ∧
      Kind.read? .dateTime (Value.dateTime .afterLastYear).inline = none :=
  ⟨rfl, rfl, by decide⟩

end SqlScribe
