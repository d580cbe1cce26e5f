import Mathlib.Data.List.Nodup
import SqlScribe.Schema.Definition

/-!
# Names of the columns of a table

A table is created only if the lower-case forms of the names of its columns differ.  Names that
differ at most in the case of ASCII letters have one lower-case form, so no two columns of a
created table have such names.

Main definitions:

- `Column.Distinct` says that no two columns have names that are compared as equal.

Main results:

- `Text.lowercase_eq`: the case of ASCII letters has no effect on the lower-case form.
- `Schema.consistentColumns_eq_ok_iff`: which columns are consistent.
- `Schema.distinct_of_consistentColumns`: consistent columns are distinct.
-/

namespace SqlScribe

/-! ## Lower case -/

namespace Text

/-- What every capital ASCII letter shares with its small form, every character shares. -/
theorem apply_toLower {α : Type} (f : Char → α)
    (hletters : ∀ n < 26, f (Char.ofNat (65 + n)).toLower = f (Char.ofNat (65 + n))) (c : Char) :
    f c.toLower = f c := by
  by_cases hcapital : 65 ≤ c.toNat ∧ c.toNat ≤ 90
  · have hletter := hletters (c.toNat - 65) (by omega)
    rwa [Nat.add_sub_cancel' hcapital.1, Char.ofNat_toNat] at hletter
  · have hsame : c.toLower = c := dif_neg hcapital
    rw [hsame]

/-- The lower-case form of a letter does not depend on the case of ASCII letters. -/
theorem lowerLetter_toLower (c : Char) : lowerLetter c.toLower = lowerLetter c :=
  apply_toLower lowerLetter (by decide +kernel) c

theorem contains_cased_toLower (c : Char) :
    CodePoints.cased.contains c.toLower = CodePoints.cased.contains c :=
  apply_toLower CodePoints.cased.contains (by decide +kernel) c

theorem contains_caseIgnorable_toLower (c : Char) :
    CodePoints.caseIgnorable.contains c.toLower = CodePoints.caseIgnorable.contains c :=
  apply_toLower CodePoints.caseIgnorable.contains (by decide +kernel) c

theorem toLower_eq_sigma_iff (c : Char) : c.toLower = 'Σ' ↔ c = 'Σ' :=
  iff_of_eq (apply_toLower (· = 'Σ') (by simp only [eq_iff_iff]; decide +kernel) c)

theorem toLower_eq_dotted_iff (c : Char) : c.toLower = 'İ' ↔ c = 'İ' :=
  iff_of_eq (apply_toLower (· = 'İ') (by simp only [eq_iff_iff]; decide +kernel) c)

/-- Whether a text meets a cased letter does not depend on the case of ASCII letters. -/
theorem meetsCased_toLower (text : List Char) :
    meetsCased (text.map Char.toLower) = meetsCased text := by
  have hignored : CodePoints.caseIgnorable.contains ∘ Char.toLower =
      CodePoints.caseIgnorable.contains := funext contains_caseIgnorable_toLower
  unfold meetsCased
  rw [List.dropWhile_map, hignored]
  cases text.dropWhile CodePoints.caseIgnorable.contains with
  | nil => rfl
  | cons c rest => exact contains_cased_toLower c

/-- The lower-case form of a text does not depend on the case of ASCII letters. -/
theorem lowerFrom_toLower (before text : List Char) :
    lowerFrom (before.map Char.toLower) (text.map Char.toLower) = lowerFrom before text := by
  induction text generalizing before with
  | nil => rfl
  | cons c after ih =>
    have hrest := ih (c :: before)
    rw [List.map_cons] at hrest
    simp only [List.map_cons, lowerFrom, toLower_eq_sigma_iff, toLower_eq_dotted_iff,
      lowerLetter_toLower, lowerSigma, meetsCased_toLower, hrest]

/-- The lower-case form of a text can be read off the text with its ASCII letters in lower
case. -/
theorem lowercase_eq (text : String) :
    lowercase text = String.ofList (lowerFrom [] (foldAsciiCase text)) :=
  congrArg String.ofList (lowerFrom_toLower [] text.toList).symm

end Text

/-! ## Distinct columns -/

/-- No two columns have names that differ at most in the case of ASCII letters. -/
def Column.Distinct (columns : List Column) : Prop :=
  (columns.map fun column => Text.foldAsciiCase column.name).Nodup

instance (columns : List Column) : Decidable (Column.Distinct columns) :=
  inferInstanceAs (Decidable (List.Nodup _))

namespace Schema

/-- No name is repeated exactly if the lower-case forms differ from each other and from those
seen before. -/
theorem repeatedName?_eq_none_iff {seen names : List String} :
    repeatedName? seen names = none ↔
      (names.map Text.lowercase).Nodup ∧ ∀ name ∈ names, Text.lowercase name ∉ seen := by
  induction names generalizing seen with
  | nil => simp [repeatedName?]
  | cons name rest ih =>
    simp only [repeatedName?, List.map_cons, List.nodup_cons, List.forall_mem_cons]
    by_cases hseen : Text.lowercase name ∈ seen
    · simp [hseen]
    · have hother : (∀ other ∈ rest, Text.lowercase other ∉ Text.lowercase name :: seen) ↔
          Text.lowercase name ∉ rest.map Text.lowercase ∧
            ∀ other ∈ rest, Text.lowercase other ∉ seen := by
        simp only [List.mem_cons, List.mem_map, not_or, not_exists, not_and, forall_and]
      rw [if_neg (by simpa using hseen), ih, hother]
      simp only [hseen, not_false_eq_true, true_and, and_assoc, and_left_comm]

/-- Columns are consistent if there are any, their names differ in lower case, and at most one
of them is an identity. -/
theorem consistentColumns_eq_ok_iff {table : Table} {columns : List Column} :
    consistentColumns table columns = .ok () ↔
      columns ≠ [] ∧ ((columns.map (·.name)).map Text.lowercase).Nodup ∧
        (columns.filter (·.identity)).length ≤ 1 := by
  have hnone : repeatedName? [] (columns.map (·.name)) = none ↔
      ((columns.map (·.name)).map Text.lowercase).Nodup := by
    simp [repeatedName?_eq_none_iff]
  unfold consistentColumns
  rw [← hnone]
  cases columns with
  | nil => simp
  | cons column rest =>
    cases repeatedName? [] ((column :: rest).map (·.name)) with
    | some name => simp
    | none => simp [Nat.lt_iff_add_one_le]

/-- Consistent columns are distinct. -/
theorem distinct_of_consistentColumns {table : Table} {columns : List Column}
    (hconsistent : consistentColumns table columns = .ok ()) : Column.Distinct columns := by
  obtain ⟨-, hnodup, -⟩ := consistentColumns_eq_ok_iff.mp hconsistent
  apply List.Nodup.of_map (fun name => String.ofList (Text.lowerFrom [] name))
  simpa only [List.map_map, Function.comp_def, Text.lowercase_eq] using hnodup

end Schema

end SqlScribe
