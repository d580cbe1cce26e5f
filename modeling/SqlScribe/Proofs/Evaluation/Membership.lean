import SqlScribe.Proofs.Evaluation.Agreement
import SqlScribe.Proofs.Rendering.Acceptance
import SqlScribe.Query.Statement

/-!
# Membership and equality

Whether the value of an expression is among constants is rendered as one test, and whether
it equals a constant as a comparison.  The comparison with the missing value asks whether
the other side is missing; the test compares with the missing value as with every other
one, and finds nothing.

Main definitions:

- `Expr.Worth` says which value an expression has over a row, and `Condition.TrueOf` whether a
  condition is true there, wherever they are rendered.

Main results:

- `Expr.trueOf_isAmong_iff_exists`: a value is among constants if it equals one of them that is
  not missing; so membership is the disjunction of the equalities unless the missing value is
  listed and the value is missing.
-/

namespace SqlScribe

open Binding Sql

/-! ## Tests of values -/

namespace Sql

/-- One of two truths holds if it is known to. -/
theorem oneHolds_eq_true_iff (left right : Option Bool) :
    oneHolds left right = some true ↔ left = some true ∨ right = some true := by
  rcases left with - | _ | _ <;> rcases right with - | _ | _ <;> simp [oneHolds]

variable {environment : Environment}

/-- Missing values do not compare. -/
theorem Environment.ne_null_of_compare {comparison : Comparison} {left right : Value}
    (hcompare : environment.compare comparison left right = some true) :
    left ≠ .null ∧ right ≠ .null := by
  constructor
  · rintro rfl
    simp [compare] at hcompare
  · rintro rfl
    cases left <;> simp [compare] at hcompare

/-- The server tells whole numbers apart. -/
def Environment.ComparesNumbers (environment : Environment) : Prop :=
  ∀ a b : Int64, environment.compares .equal (.int a) (.int b) = decide (a = b)

/-- A value is among others if it compares as equal to one of them. -/
theorem truth_among_iff {operand : Scalar} {values : List Scalar} :
    (Predicate.among operand values).truth environment = some true ↔
      ∃ value ∈ argumentValues environment values,
        environment.compare .equal (operand.value environment) value = some true := by
  rw [Predicate.truth]
  induction argumentValues environment values with
  | nil => simp
  | cons value rest ih =>
    rw [List.foldr_cons, oneHolds_eq_true_iff, ih, List.exists_mem_cons_iff]

/-- The predicate that holds nowhere does not. -/
theorem truth_constant_false (hnumbers : environment.ComparesNumbers) :
    (Predicate.constant false).truth environment = some false := by
  have hdifferent : environment.compares .equal (.int (Int64.ofNat 1)) (.int (Int64.ofNat 0)) =
      false := by
    rw [hnumbers]
    decide
  simp only [Predicate.constant, Predicate.truth, Scalar.value, Environment.compare]
  exact congrArg some hdifferent

end Sql

/-! ## Values of expressions -/

namespace Expr

/-- An expression has a value over a row: a rendering of it has, with what it binds. -/
def Worth (expr : Expr) (environment : Environment) (value : Value) : Prop :=
  ∃ before scalar after, expr.scalar before = .ok (scalar, after) ∧
    scalar.value (environment.binding after) = value

variable {environment : Environment} {expr : Expr} {before after bound : List Value}
  {scalar : Scalar}

/-- Every rendering of an expression has its value, whatever is bound behind it. -/
theorem worth_iff_of_scalar {value : Value} (hscalar : expr.scalar before = .ok (scalar, after))
    (hbound : after <+: bound) :
    expr.Worth environment value ↔ scalar.value (environment.binding bound) = value := by
  constructor
  · rintro ⟨before', other, after', hother, rfl⟩
    obtain ⟨-, -, halike⟩ := expr.agree_scalar hscalar hother
    exact (halike hbound List.prefix_rfl).value environment
  · intro hvalue
    refine ⟨before, scalar, after, hscalar, ?_⟩
    obtain ⟨-, -, halike⟩ := expr.agree_scalar hscalar hscalar
    rw [(halike List.prefix_rfl hbound).value environment, hvalue]

/-- An expression has one value. -/
theorem Worth.unique {value other : Value} (hvalue : expr.Worth environment value)
    (hother : expr.Worth environment other) : value = other := by
  obtain ⟨before, scalar, after, hscalar, rfl⟩ := hvalue
  exact (worth_iff_of_scalar hscalar List.prefix_rfl).mp hother

/-- A constant has itself as its value. -/
theorem worth_value (constant : Value) : (Expr.value constant).Worth environment constant := by
  cases constant with
  | null => exact ⟨[], _, [], rfl, rfl⟩
  | _ => exact ⟨[], _, _, rfl, rfl⟩

/-- A constant is worth itself where the values that it binds are bound. -/
theorem value_of_constant {constant : Value}
    (hscalar : (Expr.value constant).scalar before = .ok (scalar, after)) (hbound : after <+: bound) :
    scalar.value (environment.binding bound) = constant :=
  (worth_iff_of_scalar hscalar hbound).mp (worth_value constant)

/-- The values of constants are the constants. -/
theorem argumentValues_constants : ∀ {constants : List Value} {scalars : List Scalar}
    {before after : List Value},
    Expr.scalars (constants.map .value) before = .ok (scalars, after) → after <+: bound →
    argumentValues (environment.binding bound) scalars = constants
  | [], _, _, _, hscalars, _ => by
    cases hscalars
    rfl
  | constant :: rest, _, _, _, hscalars, hbound => by
    obtain ⟨scalar, between, hscalar, hscalars⟩ := run_seq_eq_ok.mp hscalars
    obtain ⟨more, after, hmore, hscalars⟩ := run_seq_eq_ok.mp hscalars
    cases hscalars
    have hbetween := ((agree_scalars _) hmore hmore).1.trans hbound
    rw [argumentValues, value_of_constant hscalar hbetween, argumentValues_constants hmore hbound]

/-- Constants render. -/
theorem areValues_constants (constants : List Value) :
    areValues (constants.map .value) = true := by
  induction constants with
  | nil => rfl
  | cons constant rest ih => simpa [areValues, isValue] using ih

end Expr

/-! ## Truths of conditions -/

/-- A condition is true over a row: a rendering of it is, with what it binds. -/
def Condition.TrueOf (condition : Condition) (environment : Environment) : Prop :=
  ∃ before predicate after, condition.predicate before = .ok (predicate, after) ∧
    predicate.truth (environment.binding after) = some true

/-- Every rendering of a condition is true where it is, whatever is bound behind it. -/
theorem Condition.trueOf_iff_of_predicate {condition : Condition} {environment : Environment}
    {before after bound : List Value} {predicate : Predicate}
    (hpredicate : condition.predicate before = .ok (predicate, after)) (hbound : after <+: bound) :
    condition.TrueOf environment ↔
      predicate.truth (environment.binding bound) = some true := by
  constructor
  · rintro ⟨before', other, after', hother, htrue⟩
    obtain ⟨-, -, halike⟩ := condition.agree_predicate hpredicate hother
    rw [halike hbound List.prefix_rfl environment, htrue]
  · intro htrue
    refine ⟨before, predicate, after, hpredicate, ?_⟩
    obtain ⟨-, -, halike⟩ := condition.agree_predicate hpredicate hpredicate
    rw [halike List.prefix_rfl hbound environment, htrue]

namespace Expr

variable {environment : Environment} {expr : Expr}

/-- The comparison with the missing value is true of the missing value. -/
theorem trueOf_equal_null_iff :
    (expr.compare .equal .null).TrueOf environment ↔ expr.Worth environment .null := by
  have hnull (scalar : Scalar) (bound : List Value) :
      (Predicate.isNull scalar).truth (environment.binding bound) = some true ↔
        scalar.value (environment.binding bound) = .null := by
    rw [Predicate.truth]
    cases scalar.value (environment.binding bound) <;> simp [Value.isNull]
  constructor
  · rintro ⟨before, predicate, after, hpredicate, htrue⟩
    obtain ⟨scalar, between, hscalar, hpredicate⟩ := run_seq_eq_ok.mp hpredicate
    cases hpredicate
    exact ⟨before, scalar, _, hscalar, (hnull _ _).mp htrue⟩
  · rintro ⟨before, scalar, after, hscalar, hvalue⟩
    have hpredicate : (expr.compare .equal .null).predicate before =
        .ok (.isNull scalar, after) :=
      run_seq_eq_ok.mpr ⟨scalar, after, hscalar, rfl⟩
    exact ⟨before, _, after, hpredicate, (hnull _ _).mpr hvalue⟩

/-- A comparison without the missing value compares. -/
theorem predicate_equal {constant : Value} (hexpr : Condition.isNullValue expr = false)
    (hconstant : constant ≠ .null) :
    (expr.compare .equal constant).predicate =
      expr.scalar >>= fun left => (Expr.value constant).scalar >>= fun right =>
        pure (.compare .equal left right) := by
  have hright : Condition.isNullValue (.value constant) = false := by
    cases constant with
    | null => exact absurd rfl hconstant
    | _ => rfl
  simp only [compare, Condition.predicate, Condition.besideNull?, hright, hexpr,
    Bool.false_eq_true, if_false]

/-- Nothing is compared with the missing value: a constant is asked whether it is missing. -/
theorem not_trueOf_null_equal {constant : Value} (hconstant : constant ≠ .null) :
    ¬((Expr.value .null).compare .equal constant).TrueOf environment := by
  have hpredicate : ((Expr.value .null).compare .equal constant).predicate [] =
      .ok (.isNull (.parameter 0), [constant]) := by
    cases constant with
    | null => exact absurd rfl hconstant
    | _ => rfl
  rw [Condition.trueOf_iff_of_predicate hpredicate List.prefix_rfl]
  cases constant with
  | null => exact absurd rfl hconstant
  | _ => simp [Predicate.truth, Scalar.value, Environment.binding, Value.isNull]

/-- The comparison with another constant is true of the values that compare as equal. -/
theorem trueOf_equal_iff {constant : Value} (hconstant : constant ≠ .null) :
    (expr.compare .equal constant).TrueOf environment ↔
      ∃ value, expr.Worth environment value ∧
        environment.compare .equal value constant = some true := by
  cases hexpr : Condition.isNullValue expr with
  | true =>
    obtain rfl : expr = .value .null := by
      unfold Condition.isNullValue at hexpr
      split at hexpr <;> simp at hexpr ⊢
    refine iff_of_false (not_trueOf_null_equal hconstant) ?_
    rintro ⟨value, hworth, hcompare⟩
    exact (Environment.ne_null_of_compare hcompare).1 (hworth.unique (worth_value .null))
  | false =>
    have hequal := predicate_equal hexpr hconstant
    constructor
    · rintro ⟨before, predicate, after, hpredicate, htrue⟩
      rw [hequal] at hpredicate
      obtain ⟨left, between, hleft, hpredicate⟩ := run_seq_eq_ok.mp hpredicate
      obtain ⟨right, after, hright, hpredicate⟩ := run_seq_eq_ok.mp hpredicate
      cases hpredicate
      have hbetween := ((agree_scalar _) hright hright).1
      rw [Predicate.truth, value_of_constant hright List.prefix_rfl] at htrue
      exact ⟨_, (worth_iff_of_scalar hleft hbetween).mpr rfl, htrue⟩
    · rintro ⟨value, hworth, htrue⟩
      obtain ⟨before, left, between, hleft, -⟩ := id hworth
      obtain ⟨right, after, hright⟩ :=
        ((Expr.value constant).accepts_scalar between).mpr (by simp [isValue])
      have hpredicate : (expr.compare .equal constant).predicate before =
          .ok (.compare .equal left right, after) := by
        rw [hequal]
        exact run_seq_eq_ok.mpr ⟨left, between, hleft,
          run_seq_eq_ok.mpr ⟨right, after, hright, rfl⟩⟩
      have hbetween := ((agree_scalar _) hright hright).1
      have hvalue := (worth_iff_of_scalar hleft hbetween).mp hworth
      refine ⟨before, _, after, hpredicate, ?_⟩
      rw [Predicate.truth, hvalue, value_of_constant hright List.prefix_rfl]
      exact htrue

/-- The test for no constants is never true. -/
theorem not_trueOf_isAmong_nil (hnumbers : environment.ComparesNumbers) :
    ¬(expr.isAmong []).TrueOf environment := by
  have hpredicate : (expr.isAmong []).predicate [] = .ok (.constant false, []) := rfl
  have hnowhere : (Predicate.constant false).truth (environment.binding []) = some false :=
    truth_constant_false hnumbers
  rw [Condition.trueOf_iff_of_predicate hpredicate List.prefix_rfl, hnowhere]
  simp

/-- The test is true of the values that compare as equal to one of the constants. -/
theorem trueOf_isAmong_iff (hnumbers : environment.ComparesNumbers) {constants : List Value} :
    (expr.isAmong constants).TrueOf environment ↔
      ∃ value, expr.Worth environment value ∧
        ∃ constant ∈ constants, environment.compare .equal value constant = some true := by
  cases constants with
  | nil => simp [not_trueOf_isAmong_nil hnumbers]
  | cons first rest =>
    have hamong : (expr.isAmong (first :: rest)).predicate =
        expr.scalar >>= fun operand => scalars ((first :: rest).map .value) >>= fun values =>
          pure (.among operand values) := rfl
    constructor
    · rintro ⟨before, predicate, after, hpredicate, htrue⟩
      rw [hamong] at hpredicate
      obtain ⟨operand, between, hoperand, hpredicate⟩ := run_seq_eq_ok.mp hpredicate
      obtain ⟨values, after, hvalues, hpredicate⟩ := run_seq_eq_ok.mp hpredicate
      cases hpredicate
      have hbetween := ((agree_scalars _) hvalues hvalues).1
      rw [truth_among_iff, argumentValues_constants hvalues List.prefix_rfl] at htrue
      exact ⟨_, (worth_iff_of_scalar hoperand hbetween).mpr rfl, htrue⟩
    · rintro ⟨value, hworth, htrue⟩
      obtain ⟨before, operand, between, hoperand, -⟩ := id hworth
      obtain ⟨values, after, hvalues⟩ :=
        (accepts_scalars ((first :: rest).map .value) between).mpr (areValues_constants _)
      have hpredicate : (expr.isAmong (first :: rest)).predicate before =
          .ok (.among operand values, after) := by
        rw [hamong]
        exact run_seq_eq_ok.mpr ⟨operand, between, hoperand,
          run_seq_eq_ok.mpr ⟨values, after, hvalues, rfl⟩⟩
      have hbetween := ((agree_scalars _) hvalues hvalues).1
      have hvalue := (worth_iff_of_scalar hoperand hbetween).mp hworth
      refine ⟨before, _, after, hpredicate, ?_⟩
      rw [truth_among_iff, argumentValues_constants hvalues List.prefix_rfl, hvalue]
      exact htrue

/-- A value is among constants exactly if the comparison with one of them that is not missing
is true.  So the test is the disjunction of the comparisons exactly where the value is not
missing or the missing value is not listed: the comparison with it would be true of a missing
value, and the test is not. -/
theorem trueOf_isAmong_iff_exists (hnumbers : environment.ComparesNumbers) (expr : Expr)
    (constants : List Value) :
    ((expr.isAmong constants).TrueOf environment ↔
        ∃ constant ∈ constants, constant ≠ .null ∧
          (expr.compare .equal constant).TrueOf environment) ∧
      (((expr.isAmong constants).TrueOf environment ↔
          ∃ constant ∈ constants, (expr.compare .equal constant).TrueOf environment) ↔
        (.null ∈ constants → ¬(expr.compare .equal .null).TrueOf environment)) := by
  have hamong : (expr.isAmong constants).TrueOf environment ↔
      ∃ constant ∈ constants, constant ≠ .null ∧
        (expr.compare .equal constant).TrueOf environment := by
    rw [trueOf_isAmong_iff hnumbers]
    constructor
    · rintro ⟨value, hworth, constant, hmem, hcompare⟩
      have hconstant := (Environment.ne_null_of_compare hcompare).2
      exact ⟨constant, hmem, hconstant, (trueOf_equal_iff hconstant).mpr ⟨value, hworth, hcompare⟩⟩
    · rintro ⟨constant, hmem, hconstant, htrue⟩
      obtain ⟨value, hworth, hcompare⟩ := (trueOf_equal_iff hconstant).mp htrue
      exact ⟨value, hworth, constant, hmem, hcompare⟩
  refine ⟨hamong, ?_⟩
  rw [hamong]
  constructor
  · intro hdisjunction hmem hnull
    -- a missing value compares as equal to no other constant
    obtain ⟨constant, -, hconstant, htrue⟩ := hdisjunction.mpr ⟨.null, hmem, hnull⟩
    obtain ⟨value, hworth, hcompare⟩ := (trueOf_equal_iff hconstant).mp htrue
    have hmissing := hworth.unique (trueOf_equal_null_iff.mp hnull)
    exact (Environment.ne_null_of_compare hcompare).1 hmissing
  · intro hnot
    constructor
    · rintro ⟨constant, hmem, -, htrue⟩
      exact ⟨constant, hmem, htrue⟩
    · rintro ⟨constant, hmem, htrue⟩
      refine ⟨constant, hmem, ?_, htrue⟩
      rintro rfl
      exact hnot hmem htrue

/-- A row with a number. -/
def numberRow : Environment where
  column := fun _ => .int 1
  bound := []
  call := fun _ _ => .null
  cast := fun _ value => value
  sum := fun _ _ => .null
  difference := fun _ _ => .null
  compares := fun comparison left right => comparison = .equal && left = right
  matching := fun _ _ => false

/-- The server of this row tells equal numbers from different ones. -/
theorem comparesNumbers_numberRow : numberRow.ComparesNumbers := by
  intro a b
  simp [numberRow]

/-- The number is among constants with the missing value between them. -/
theorem trueOf_isAmong_numberRow :
    numberRow.ComparesNumbers ∧
      ((Expr.field "a").isAmong [.int 2, .null, .int 1]).TrueOf numberRow ∧
      ((Expr.field "a").compare .equal (.int 1)).TrueOf numberRow := by
  have hequal : ((Expr.field "a").compare .equal (.int 1)).TrueOf numberRow :=
    ⟨[], _, _, rfl, rfl⟩
  have hamong := (trueOf_isAmong_iff_exists comparesNumbers_numberRow (.field "a")
    [.int 2, .null, .int 1]).1.mpr ⟨.int 1, by simp, by simp, hequal⟩
  exact ⟨comparesNumbers_numberRow, hamong, hequal⟩

/-- The row without its number. -/
def missingRow : Environment := { numberRow with column := fun _ => .null }

/-- The comparison finds a missing value, and the test with the missing value in its list does
not. -/
theorem not_trueOf_isAmong_missingRow :
    ((Expr.field "a").compare .equal .null).TrueOf missingRow ∧
      ¬((Expr.field "a").isAmong [.int 1, .null]).TrueOf missingRow ∧
      (Query.filtered (.ofTable ⟨"t", none⟩)
          ((Expr.field "a").isAmong [.int 1, .null])).statement =
        .ok
          { text := "SELECT * FROM [t] WHERE [a] IN (@p0, NULL)"
            parameters := [⟨"@p0", .int 1⟩]
            result := .multiple } := by
  have hequal : ((Expr.field "a").compare .equal .null).TrueOf missingRow :=
    ⟨[], _, _, rfl, rfl⟩
  have hamong : ((Expr.field "a").isAmong [.int 1, .null]).predicate [] =
      .ok (.among (.column "a") [.parameter 0, .null], [.int 1]) := rfl
  refine ⟨hequal, ?_, rfl⟩
  rw [Condition.trueOf_iff_of_predicate hamong List.prefix_rfl]
  simp [truth_among_iff, argumentValues, Scalar.value, Environment.binding, missingRow,
    Environment.compare]

end Expr

end SqlScribe
