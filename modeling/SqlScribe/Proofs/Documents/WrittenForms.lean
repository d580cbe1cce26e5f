import Mathlib.Data.List.TakeWhile
import Mathlib.Data.Nat.Digits.Defs
import SqlScribe.Calendar.Text
import SqlScribe.Guid

/-!
# Written forms of dates and identifiers

Documents carry dates and identifiers as texts.  A date is written with numbers of fixed width,
each of which is read up to that width, and an identifier with groups of hexadecimal digits, so
both are read back, whatever follows in the text was not part of them.

Main results:

- `DateTime.number?_zeroPadded` and `DateTime.year?_yearText`: numbers of fixed width, and
  years, are read off the front of a text.
- `DateTime.read?_write`: every date-time is read back from its written form.
- `Guid.read?_write`: every identifier is read back from its written form.
-/

namespace SqlScribe

/-! ## Numbers of fixed width -/

/-- Digits are worth what they are worth as a decimal number. -/
theorem digitsValue_eq (digits : List Char) :
    digitsValue digits = Nat.ofDigitChars 10 digits 0 :=
  Nat.ofDigitChars_eq_foldl.symm

/-- A number of fixed width has nothing but digits. -/
theorem isDigit_of_mem_zeroPadded {width n : Nat} {c : Char} (hc : c ∈ zeroPadded width n) :
    c.isDigit = true := by
  rcases List.mem_append.mp hc with hzero | hdigit
  · rw [(List.mem_replicate.mp hzero).2]
    rfl
  · exact Nat.isDigit_of_mem_toDigits (by decide) (by decide) hdigit

/-- Zeros in front do not change a number. -/
theorem digitsValue_zeroPadded (width n : Nat) : digitsValue (zeroPadded width n) = n := by
  simp [digitsValue_eq, zeroPadded, Nat.ofDigitChars_append, Nat.ofDigitChars_replicate_zero,
    Nat.ofDigitChars_ten_toDigits]

/-- A number that fits its width has as many digits as that. -/
theorem length_zeroPadded {width n : Nat} (hwidth : 0 < width) (hn : n < 10 ^ width) :
    (zeroPadded width n).length = width := by
  have hlength : (Nat.toDigits 10 n).length ≤ width :=
    (Nat.length_toDigits_le_iff (by decide) hwidth).mpr hn
  simp [zeroPadded, hlength]

/-- A number of fixed width has a digit. -/
theorem zeroPadded_ne_nil (width n : Nat) : zeroPadded width n ≠ [] := by
  simp [zeroPadded, Nat.toDigits_ne_nil]

/-! ## Date-times -/

namespace DateTime

/-- A digit is no blank. -/
theorem isBlank_of_isDigit {c : Char} (hdigit : c.isDigit = true) : isBlank c = false := by
  simp only [Char.isDigit, Bool.and_eq_true, decide_eq_true_eq] at hdigit
  have hlow : 48 ≤ c.toNat := hdigit.1
  have hhigh : c.toNat ≤ 57 := hdigit.2
  simp only [isBlank, Bool.or_eq_false_iff, Bool.and_eq_false_iff, decide_eq_false_iff_not]
  omega

/-- Nothing is skipped in front of a character that is no blank. -/
theorem skipBlanks_cons {c : Char} (hc : isBlank c = false) (rest : List Char) :
    skipBlanks (c :: rest) = c :: rest := by
  simp [skipBlanks, hc]

/-- Digits in front of a text are no blanks. -/
theorem skipBlanks_digits {digits : List Char} (hnonempty : digits ≠ [])
    (hdigits : ∀ c ∈ digits, c.isDigit = true) (rest : List Char) :
    skipBlanks (digits ++ rest) = digits ++ rest := by
  obtain ⟨c, more, rfl⟩ := List.exists_cons_of_ne_nil hnonempty
  exact skipBlanks_cons (isBlank_of_isDigit (hdigits c List.mem_cons_self)) _

/-- A number of fixed width is read off the front of a text. -/
theorem number?_zeroPadded {width n : Nat} (hwidth : 0 < width) (hn : n < 10 ^ width)
    (rest : List Char) : number? width (zeroPadded width n ++ rest) = some (n, rest) := by
  have hdigits : ∀ c ∈ zeroPadded width n, c.isDigit = true := fun _ => isDigit_of_mem_zeroPadded
  have htake : (zeroPadded width n ++ rest).take width = zeroPadded width n := by
    rw [List.take_append_of_le_length (length_zeroPadded hwidth hn).ge, List.take_of_length_le
      (length_zeroPadded hwidth hn).le]
  have hwhile : (zeroPadded width n).takeWhile Char.isDigit = zeroPadded width n :=
    List.takeWhile_eq_self_iff.mpr hdigits
  simp [number?, skipBlanks_digits (zeroPadded_ne_nil width n) hdigits, htake, hwhile,
    zeroPadded_ne_nil, digitsValue_zeroPadded]

/-- A number of any width is read up to what is no digit. -/
theorem longNumber?_zeroPadded (width n : Nat) {rest : List Char}
    (hrest : ∀ c ∈ rest.head?, c.isDigit = false) :
    longNumber? (zeroPadded width n ++ rest) = some (n, rest) := by
  have hdigits : ∀ c ∈ zeroPadded width n, c.isDigit = true := fun _ => isDigit_of_mem_zeroPadded
  have hnone : rest.takeWhile Char.isDigit = [] ∧ rest.dropWhile Char.isDigit = rest := by
    cases rest with
    | nil => exact ⟨rfl, rfl⟩
    | cons c more => simp [hrest c rfl]
  rw [longNumber?, List.takeWhile_append_of_pos hdigits, List.dropWhile_append_of_pos hdigits,
    hnone.1, hnone.2]
  simp [zeroPadded_ne_nil, digitsValue_zeroPadded]

/-- A year is read up to what is no digit. -/
theorem year?_yearText (year : Int) {rest : List Char}
    (hrest : ∀ c ∈ rest.head?, c.isDigit = false) :
    year? (yearText year ++ rest) = some (year, rest) := by
  unfold yearText
  by_cases hshort : 0 ≤ year ∧ year ≤ 9999
  · have hdigits : ∀ c ∈ zeroPadded 4 year.toNat, c.isDigit = true :=
      fun _ => isDigit_of_mem_zeroPadded
    have hyear : year.toNat < 10 ^ 4 := by omega
    have hread := number?_zeroPadded (by decide) hyear rest
    have hvalue : (year.toNat : Int) = year := Int.toNat_of_nonneg hshort.1
    have hsign : ∀ more, zeroPadded 4 year.toNat ++ rest ≠ '-' :: more ∧
        zeroPadded 4 year.toNat ++ rest ≠ '+' :: more := by
      obtain ⟨c, others, hcons⟩ := List.exists_cons_of_ne_nil (zeroPadded_ne_nil 4 year.toNat)
      have hc : c.isDigit = true := hdigits c (by simp [hcons])
      have hminus : c ≠ '-' := by rintro rfl; cases hc
      have hplus : c ≠ '+' := by rintro rfl; cases hc
      simp [hcons, hminus, hplus]
    simp only [hshort.1, hshort.2, decide_true, Bool.and_self, if_true]
    unfold year?
    rw [skipBlanks_digits (zeroPadded_ne_nil 4 _) hdigits]
    split
    · rename_i heq
      exact absurd heq (hsign _).1
    · rename_i heq
      exact absurd heq (hsign _).2
    · simp [hread, hvalue]
  · have hlong : (decide (0 ≤ year) && decide (year ≤ 9999)) = false := by
      simpa using hshort
    have hread := longNumber?_zeroPadded 4 year.natAbs hrest
    simp only [hlong, Bool.false_eq_true, if_false]
    by_cases hnegative : year < 0
    · have hvalue : -(year.natAbs : Int) = year := by omega
      have hblank : isBlank '-' = false := by decide
      simp only [hnegative, if_true, year?, List.cons_append, skipBlanks_cons hblank, hread,
        Option.map_some, hvalue]
    · have hvalue : (year.natAbs : Int) = year := by omega
      have hblank : isBlank '+' = false := by decide
      simp only [hnegative, if_false, year?, List.cons_append, skipBlanks_cons hblank, hread,
        Option.map_some, hvalue]

/-- A separator is read off the front of a text that begins with it. -/
theorem separator?_cons {mark : Char} (hmark : isBlank mark = false) (rest : List Char) :
    separator? mark (mark :: rest) = some rest := by
  simp [separator?, skipBlanks_cons hmark]

/-- A fraction is read at the end of a text. -/
theorem fraction?_fractionText {nanosecond : Nat} (hrange : nanosecond < 1000000000) :
    fraction? (fractionText nanosecond) = some (nanosecond, []) := by
  have hread {width n : Nat} (hwidth : 0 < width) (hle : width ≤ 9) (hn : n < 10 ^ width)
      (hvalue : n * 10 ^ (9 - width) = nanosecond) :
      fraction? ('.' :: zeroPadded width n) = some (nanosecond, []) := by
    have hdigits : ∀ c ∈ zeroPadded width n, c.isDigit = true := fun _ => isDigit_of_mem_zeroPadded
    have hlength := length_zeroPadded hwidth hn
    have hwhile : (zeroPadded width n).takeWhile Char.isDigit = zeroPadded width n :=
      List.takeWhile_eq_self_iff.mpr hdigits
    have hdrop : (zeroPadded width n).dropWhile Char.isDigit = [] :=
      List.dropWhile_eq_nil_iff.mpr hdigits
    have htake : (zeroPadded width n).take 9 = zeroPadded width n :=
      List.take_of_length_le (hlength.trans_le hle)
    simp only [fraction?, hwhile, hdrop, htake, hlength, digitsValue_zeroPadded]
    simp [zeroPadded_ne_nil, hvalue]
  unfold fractionText
  split
  · rename_i hzero
    rw [hzero]
    rfl
  · split
    · exact hread (by decide) (by decide) (by omega) (by omega)
    · split
      · exact hread (by decide) (by decide) (by omega) (by omega)
      · exact hread (by decide) (by decide) hrange (by omega)

/-- No month has more than thirty-one days. -/
theorem daysInMonth_le (year : Int) (month : Nat) :
    daysInMonth year month ≤ if month ≤ 12 then 31 else 0 := by
  unfold daysInMonth
  split <;> (try split) <;> (try split) <;> omega

/-- The parts of a real day and time have as many digits as they are written with. -/
theorem lt_of_isReal {parts : DateTimeParts} (hreal : parts.isReal = true) :
    parts.month < 100 ∧ parts.day < 100 ∧ parts.hour < 100 ∧ parts.minute < 100 ∧
      parts.second < 100 ∧ parts.nanosecond < 1000000000 := by
  simp only [DateTimeParts.isReal, Bool.and_eq_true, decide_eq_true_eq] at hreal
  obtain ⟨⟨⟨⟨⟨⟨⟨-, -⟩, hfirst⟩, hday⟩, hhour⟩, hminute⟩, hsecond⟩, hnanosecond⟩ := hreal
  have hlast := daysInMonth_le parts.year parts.month
  split at hlast <;> omega

/-- The parts of a real day and time are read from its written form. -/
theorem parts?_writtenForm (dateTime : DateTime) :
    parts? (wholeText dateTime ++ fractionText dateTime.nanosecond) =
      some dateTime.toDateTimeParts := by
  obtain ⟨hmonth, hday, hhour, hminute, hsecond, hnanosecond⟩ := lt_of_isReal dateTime.real
  have hnumber {n : Nat} (hn : n < 100) (rest : List Char) :
      number? 2 (zeroPadded 2 n ++ rest) = some (n, rest) := number?_zeroPadded (by decide) hn rest
  have hyear (rest : List Char) : year? (yearText dateTime.year ++ '-' :: rest) =
      some (dateTime.year, '-' :: rest) := year?_yearText _ (by simp)
  have hdash : isBlank '-' = false := by decide
  have hcolon : isBlank ':' = false := by decide
  have hletter : isBlank 'T' = false := by decide
  simp only [wholeText, List.append_assoc, List.cons_append, List.nil_append]
  -- Each part is read off the front of what the parts before it left.
  refine Option.bind_eq_some_iff.mpr ⟨_, hyear _, ?_⟩
  refine Option.bind_eq_some_iff.mpr ⟨_, separator?_cons hdash _, ?_⟩
  refine Option.bind_eq_some_iff.mpr ⟨_, hnumber hmonth _, ?_⟩
  refine Option.bind_eq_some_iff.mpr ⟨_, separator?_cons hdash _, ?_⟩
  refine Option.bind_eq_some_iff.mpr ⟨_, hnumber hday _, ?_⟩
  refine Option.bind_eq_some_iff.mpr ⟨_, separator?_cons hletter _, ?_⟩
  refine Option.bind_eq_some_iff.mpr ⟨_, hnumber hhour _, ?_⟩
  refine Option.bind_eq_some_iff.mpr ⟨_, separator?_cons hcolon _, ?_⟩
  refine Option.bind_eq_some_iff.mpr ⟨_, hnumber hminute _, ?_⟩
  refine Option.bind_eq_some_iff.mpr ⟨_, separator?_cons hcolon _, ?_⟩
  refine Option.bind_eq_some_iff.mpr ⟨_, hnumber hsecond _, ?_⟩
  exact Option.bind_eq_some_iff.mpr ⟨_, fraction?_fractionText hnanosecond, rfl⟩

/-- Every date-time is read back from its written form. -/
@[simp] theorem read?_write (dateTime : DateTime) : read? dateTime.write = some dateTime := by
  simp [read?, write, parts?_writtenForm]

end DateTime

/-! ## Identifiers -/

namespace Guid

/-- A hexadecimal digit is worth the number that it stands for. -/
theorem hexDigit?_hexDigit {n : Nat} (hn : n < 16) : Json.hexDigit? (hexDigit n) = some n := by
  revert n
  decide

/-- A hexadecimal digit is neither a hyphen nor the beginning of another form. -/
theorem hexDigit_ne {n : Nat} (hn : n < 16) :
    hexDigit n ≠ '-' ∧ hexDigit n ≠ '\x7b' ∧ (hexDigit n).toLower ≠ 'u' := by
  revert n
  decide

/-- As many hexadecimal digits are written as are asked for. -/
@[simp] theorem length_fixedHex (count n : Nat) : (fixedHex count n).length = count := by
  induction count generalizing n with
  | zero => rfl
  | succ count ih => simp [fixedHex, ih]

/-- Each written digit is a hexadecimal one. -/
theorem exists_of_mem_fixedHex {count n : Nat} {c : Char} (hc : c ∈ fixedHex count n) :
    ∃ digit < 16, c = hexDigit digit := by
  induction count generalizing n with
  | zero => simp [fixedHex] at hc
  | succ count ih =>
    rcases List.mem_append.mp hc with hfront | hlast
    · exact ih hfront
    · exact ⟨n % 16, Nat.mod_lt n (by decide), List.mem_singleton.mp hlast⟩

/-- The last digits of a number stand for the number up to its higher digits. -/
theorem hexValue?_fixedHex (count n : Nat) :
    Json.hexValue? (fixedHex count n) = some (n % 16 ^ count) := by
  induction count generalizing n with
  | zero => simp [fixedHex, Json.hexValue?, Nat.mod_one]
  | succ count ih =>
    have hdigit := hexDigit?_hexDigit (Nat.mod_lt n (by decide : 0 < 16))
    have hvalue : n % 16 ^ (count + 1) = 16 * (n / 16 % 16 ^ count) + n % 16 := by
      rw [Nat.pow_succ', Nat.mod_mul, Nat.add_comm]
    have hfront := ih (n / 16)
    rw [Json.hexValue?] at hfront
    simp [fixedHex, Json.hexValue?, hfront, hdigit, hvalue]

/-- Pieces cut off a text that is long enough have the lengths they are cut to. -/
theorem map_length_cut {lengths : List Nat} {text : List Char} (hsum : lengths.sum ≤ text.length) :
    (cut lengths text).map List.length = lengths := by
  induction lengths generalizing text with
  | nil => rfl
  | cons length lengths ih =>
    rw [List.sum_cons] at hsum
    have hrest : lengths.sum ≤ (text.drop length).length := by
      rw [List.length_drop]
      omega
    simp only [cut, List.map_cons, List.length_take, ih hrest]
    congr
    omega

/-- Pieces that use up a text make up the text. -/
theorem flatten_cut {lengths : List Nat} {text : List Char} (hsum : text.length ≤ lengths.sum) :
    (cut lengths text).flatten = text := by
  induction lengths generalizing text with
  | nil => simpa [cut, eq_comm] using hsum
  | cons length lengths ih =>
    rw [List.sum_cons] at hsum
    have hrest : (text.drop length).length ≤ lengths.sum := by
      rw [List.length_drop]
      omega
    rw [cut, List.flatten_cons, ih hrest, List.take_append_drop]

/-- Pieces of a text have no characters but its own. -/
theorem mem_of_mem_cut {lengths : List Nat} {text piece : List Char} {c : Char}
    (hpiece : piece ∈ cut lengths text) (hc : c ∈ piece) : c ∈ text := by
  induction lengths generalizing text with
  | nil => simp [cut] at hpiece
  | cons length lengths ih =>
    rcases List.mem_cons.mp hpiece with rfl | hrest
    · exact List.mem_of_mem_take hc
    · exact List.mem_of_mem_drop (ih hrest)

/-- Thirty-two digits of an identifier stand for it. -/
theorem ofDigits?_fixedHex (guid : Guid) : ofDigits? (fixedHex 32 guid.bits.toNat) = some guid := by
  have hbits : BitVec.ofNat 128 (guid.bits.toNat % 16 ^ 32) = guid.bits := by
    have hlt : guid.bits.toNat < 16 ^ 32 := guid.bits.isLt
    rw [Nat.mod_eq_of_lt hlt, BitVec.ofNat_toNat, BitVec.setWidth_eq]
  rw [ofDigits?, if_pos (length_fixedHex 32 _), hexValue?_fixedHex, Option.map_some, hbits]

/-- The groups of an identifier with hyphens between them are read back. -/
theorem ofGroups?_intercalate (guid : Guid) :
    ofGroups? (List.intercalate ['-'] (cut groupLengths (fixedHex 32 guid.bits.toNat))) =
      some guid := by
  have hhyphen : ∀ group ∈ cut groupLengths (fixedHex 32 guid.bits.toNat), '-' ∉ group := by
    intro group hgroup hmem
    obtain ⟨digit, hdigit, heq⟩ := exists_of_mem_fixedHex (mem_of_mem_cut hgroup hmem)
    exact (hexDigit_ne hdigit).1 heq.symm
  have hlengths : (cut groupLengths (fixedHex 32 guid.bits.toNat)).map List.length =
      groupLengths := map_length_cut (by simp [groupLengths])
  have hflatten : (cut groupLengths (fixedHex 32 guid.bits.toNat)).flatten =
      fixedHex 32 guid.bits.toNat := flatten_cut (by simp [groupLengths])
  rw [ofGroups?, List.splitOn_intercalate '-' hhyphen (by simp [cut, groupLengths])]
  simp [hlengths, hflatten, ofDigits?_fixedHex]

/-- Joined pieces have no characters but their own and the mark between them. -/
theorem eq_or_mem_of_mem_intercalate {mark c : Char} {pieces : List (List Char)}
    (hc : c ∈ List.intercalate [mark] pieces) : c = mark ∨ ∃ piece ∈ pieces, c ∈ piece := by
  induction pieces with
  | nil => simp at hc
  | cons piece rest ih =>
    cases rest with
    | nil => exact .inr ⟨piece, by simp, by simpa using hc⟩
    | cons next rest =>
      simp only [List.intercalate_cons_cons, List.mem_append, List.mem_singleton] at hc
      rcases hc with (hpiece | hmark) | hrest
      · exact .inr ⟨piece, by simp, hpiece⟩
      · exact .inl hmark
      · rcases ih hrest with hmark | ⟨other, hother, hmem⟩
        · exact .inl hmark
        · exact .inr ⟨other, List.mem_cons_of_mem _ hother, hmem⟩

/-- No character of a written identifier begins another of the accepted forms. -/
theorem ne_of_mem_write {guid : Guid} {c : Char} (hc : c ∈ guid.write.toList) :
    c ≠ '\x7b' ∧ c.toLower ≠ 'u' := by
  rw [write, String.toList_ofList] at hc
  rcases eq_or_mem_of_mem_intercalate hc with rfl | ⟨group, hgroup, hmem⟩
  · decide
  · obtain ⟨digit, hdigit, rfl⟩ := exists_of_mem_fixedHex (mem_of_mem_cut hgroup hmem)
    exact (hexDigit_ne hdigit).2

/-- Every identifier is read back from its written form. -/
@[simp] theorem read?_write (guid : Guid) : read? guid.write = some guid := by
  have hread : ofGroups? guid.write.toList = some guid := by
    simpa [write] using ofGroups?_intercalate guid
  have hlength : guid.write.toList.length = 36 := by
    simp [write, List.intercalate, cut, groupLengths]
  obtain ⟨c, rest, hcons⟩ := List.exists_cons_of_length_eq_add_one hlength
  have hfirst : c ∈ guid.write.toList := by simp [hcons]
  obtain ⟨hbrace, hletter⟩ := ne_of_mem_write hfirst
  rw [hcons] at hread hlength
  have hplain : nameSpace.isPrefixOf ((c :: rest).map Char.toLower) = false := by
    have hspace : nameSpace = 'u' :: nameSpace.tail := by decide
    have hne : ('u' == c.toLower) = false := beq_false_of_ne hletter.symm
    rw [hspace, List.map_cons, List.isPrefixOf, hne, Bool.false_and]
  simp only [read?, hcons]
  split
  · rename_i heq
    simp_all
  · simp only [hplain, hlength, hread, Bool.false_eq_true, if_false, Nat.reduceEqDiff]

end Guid

end SqlScribe
