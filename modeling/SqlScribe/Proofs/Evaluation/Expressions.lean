import SqlScribe.Proofs.Evaluation.Patterns

/-!
# Evaluation of expressions and conditions

Over a row an expression has a value and a condition a truth, which is unknown where a value
that it needs is missing.

Main definitions:

- `Sql.replaceAll` replaces the occurrences of a term in a text.
- `Sql.Environment` is what values and truths depend on.
- `Sql.Scalar.value` and `Sql.Predicate.truth` evaluate an expression and a condition.

Main results:

- `Sql.replaceAll_singleton`: a single character is replaced wherever it stands.
-/

namespace SqlScribe.Sql

/-! ## Replacing -/

/-- Replaces the occurrences of a term from left to right.  The number counts the characters
in front that belong to an occurrence already replaced. -/
def replaceFrom (term replacement : List Char) : Nat → List Char → List Char
  | _, [] => []
  | taken + 1, _ :: rest => replaceFrom term replacement taken rest
  | 0, c :: rest =>
    if term.isPrefixOf (c :: rest) then
      replacement ++ replaceFrom term replacement (term.length - 1) rest
    else c :: replaceFrom term replacement 0 rest

/-- A text with all occurrences of a term replaced; the empty term has none. -/
def replaceAll (text term replacement : String) : String :=
  if term = "" then text
  else String.ofList (replaceFrom term.toList replacement.toList 0 text.toList)

/-- Occurrences do not overlap, and what is put in is not searched again. -/
example : replaceAll "aaa-aa" "aa" "aab" = "aaba-aab" := by decide +kernel

/-- A single character is replaced wherever it stands. -/
theorem replaceAll_singleton (text : String) (c : Char) (replacement : List Char) :
    replaceAll text (String.ofList [c]) (String.ofList replacement) =
      String.ofList (text.toList.flatMap fun d => if d = c then replacement else [d]) := by
  have hreplace : ∀ chars : List Char, replaceFrom [c] replacement 0 chars =
      chars.flatMap fun d => if d = c then replacement else [d] := by
    intro chars
    induction chars with
    | nil => rfl
    | cons d rest ih =>
      by_cases hsame : d = c
      · simp [replaceFrom, hsame, ih]
      · simp [replaceFrom, hsame, Ne.symm hsame, ih]
  simp [replaceAll, hreplace]

/-! ## Truths -/

/-- Whether both hold; an unknown one may or may not hold. -/
def bothHold : Option Bool → Option Bool → Option Bool
  | some false, _ | _, some false => some false
  | some true, some true => some true
  | _, _ => none

/-- Whether one of both holds. -/
def oneHolds : Option Bool → Option Bool → Option Bool
  | some true, _ | _, some true => some true
  | some false, some false => some false
  | _, _ => none

/-! ## Environments -/

/-- What the values of expressions depend on: a row, the bound values, and what the server
makes of values.  Replacing in texts, joining texts and matching texts are its only operations
that are spelled out. -/
structure Environment where
  column : String → Value
  bound : List Value
  /-- The value of a function, unless it replaces in texts. -/
  call : Function → List Value → Value
  cast : PhysicalType → Value → Value
  sum : Value → Value → Value
  difference : Value → Value → Value
  compares : Comparison → Value → Value → Bool
  /-- Whether a value matches a pattern, none of them missing and not both texts. -/
  matching : Value → Value → Bool

namespace Environment

variable (environment : Environment)

/-- The value of a function. -/
def apply : Function → List Value → Value
  | .replace, [.text text, .text term, .text replacement] =>
    .text (replaceAll text term replacement)
  | function, arguments => environment.call function arguments

/-- Two texts one after the other, or a sum. -/
def plus : Value → Value → Value
  | .text left, .text right => .text (left ++ right)
  | left, right => environment.sum left right

/-- Whether two values compare as stated. -/
def compare (comparison : Comparison) : Value → Value → Option Bool
  | .null, _ | _, .null => none
  | left, right => some (environment.compares comparison left right)

/-- Whether a value matches a pattern. -/
def like : Value → Value → Option Bool
  | .null, _ | _, .null => none
  | .text text, .text pattern => some (Pattern.accepts pattern text)
  | value, pattern => some (environment.matching value pattern)

end Environment

/-! ## Evaluation -/

mutual

/-- The value of an expression. -/
def Scalar.value (environment : Environment) : Scalar → Value
  | .column name => environment.column name
  | .null => .null
  | .parameter index => (environment.bound[index]?).getD .null
  | .number value => .int (Int64.ofNat value)
  | .text value => .text value
  | .call function arguments => environment.apply function (argumentValues environment arguments)
  | .cast operand type => environment.cast type (operand.value environment)
  | .plus left right => environment.plus (left.value environment) (right.value environment)
  | .minus left right => environment.difference (left.value environment) (right.value environment)
  | .flag predicate => .bool (predicate.truth environment = some true)

/-- The values of arguments. -/
def argumentValues (environment : Environment) : List Scalar → List Value
  | [] => []
  | scalar :: rest => scalar.value environment :: argumentValues environment rest

/-- The truth of a condition, if it is known. -/
def Predicate.truth (environment : Environment) : Predicate → Option Bool
  | .compare comparison left right =>
    environment.compare comparison (left.value environment) (right.value environment)
  | .isNull operand => some (operand.value environment).isNull
  | .isNotNull operand => some (!(operand.value environment).isNull)
  | .like text pattern => environment.like (text.value environment) (pattern.value environment)
  | .among operand values =>
    (argumentValues environment values).foldr
      (fun value => oneHolds (environment.compare .equal (operand.value environment) value))
      (some false)
  | .and left right => bothHold (left.truth environment) (right.truth environment)
  | .or left right => oneHolds (left.truth environment) (right.truth environment)
  | .not operand => (operand.truth environment).map not

end

end SqlScribe.Sql
