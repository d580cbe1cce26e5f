import SqlScribe.Condition.Predicate

/-!
# Expressions and conditions that render

Whether an expression or a condition renders can be seen from its tree: it does not
matter which values are bound before.

Main definitions:

- `Binding.Accepts` says exactly when a step succeeds.
- `Expr.isValue`, `Expr.isCondition` and `Condition.isValid` tell the trees that
  render.

Main results:

- `Expr.accepts_scalar`, `Expr.accepts_predicate` and `Condition.accepts_predicate`:
  exactly these trees render.
-/

namespace SqlScribe

/-! ## Steps that succeed -/

namespace Binding

variable {α β γ : Type} {p q : Prop}

/-- A step succeeds exactly under a condition, whatever values are bound before. -/
def Accepts (accepted : Prop) (step : Binding α) : Prop :=
  ∀ values, (∃ result values', step values = .ok (result, values')) ↔ accepted

/-- Equivalent conditions are accepted under each other. -/
theorem Accepts.congr {step : Binding α} (hstep : Accepts p step) (hiff : p ↔ q) :
    Accepts q step :=
  fun values => (hstep values).trans hiff

theorem accepts_pure (result : α) : Accepts True (pure result : Binding α) := by
  intro values
  simp

theorem accepts_fail (reason : RenderError) : Accepts False (fail reason : Binding α) := by
  intro values
  simp

theorem accepts_bind (value : Value) : Accepts True (bind value) := by
  intro values
  simp

theorem accepts_check (result : Except RenderError Unit) :
    Accepts (result = .ok ()) (check result) := by
  intro values
  constructor
  · rintro ⟨done, values', hrun⟩
    exact (run_check_eq_ok.mp hrun).1
  · intro hok
    exact ⟨(), values, run_check_eq_ok.mpr ⟨hok, rfl⟩⟩

/-- Two steps succeed together if the first one does and, whatever it results in, the
second one does.  The second step may depend on what the first one is known to result
in. -/
theorem Accepts.seq_of {first : Binding α} {next : α → Binding β} {known : α → Prop}
    (hfirst : Accepts p first)
    (hknown : ∀ values result values', first values = .ok (result, values') → known result)
    (hnext : ∀ result, known result → Accepts q (next result)) :
    Accepts (p ∧ q) (first >>= next) := by
  intro values
  constructor
  · rintro ⟨result, values', hrun⟩
    obtain ⟨part, between, hpart, hrest⟩ := run_seq_eq_ok.mp hrun
    have hp := (hfirst values).mp ⟨part, between, hpart⟩
    have hq := (hnext part (hknown _ _ _ hpart) between).mp ⟨result, values', hrest⟩
    exact ⟨hp, hq⟩
  · rintro ⟨hp, hq⟩
    obtain ⟨part, between, hpart⟩ := (hfirst values).mpr hp
    obtain ⟨result, values', hrest⟩ := (hnext part (hknown _ _ _ hpart) between).mpr hq
    exact ⟨result, values', run_seq_eq_ok.mpr ⟨part, between, hpart, hrest⟩⟩

/-- Steps one after the other succeed where each of them does. -/
theorem Accepts.seq {first : Binding α} {next : α → Binding β} (hfirst : Accepts p first)
    (hnext : ∀ result, Accepts q (next result)) : Accepts (p ∧ q) (first >>= next) :=
  hfirst.seq_of (fun _ _ _ _ => trivial) fun result (_ : True) => hnext result

/-- A step whose result is only put together succeeds with the step before it. -/
theorem Accepts.map {first : Binding α} (hfirst : Accepts p first) (result : α → β) :
    Accepts p (first >>= fun part => pure (result part)) :=
  (hfirst.seq fun part => accepts_pure (result part)).congr (and_iff_left trivial)

/-- An optional part is accepted if it is there and accepted, or absent. -/
theorem accepts_optional {accepted : α → Prop} {render : α → Binding β}
    (hrender : ∀ part, Accepts (accepted part) (render part)) (part : Option α) :
    Accepts (∀ x ∈ part, accepted x) (optional render part) := by
  cases part with
  | none => exact (accepts_pure none).congr (by simp)
  | some part => exact ((hrender part).map some).congr (by simp)

/-- Parts are accepted together if each of them is. -/
theorem accepts_mapM {accepted : α → Prop} {render : α → Binding β}
    (hrender : ∀ part, Accepts (accepted part) (render part)) (parts : List α) :
    Accepts (∀ x ∈ parts, accepted x) (parts.mapM render) := by
  induction parts with
  | nil => exact (accepts_pure []).congr (by simp)
  | cons part rest ih =>
    rw [List.mapM_cons]
    apply Accepts.congr ((hrender part).seq fun result => ih.map (result :: ·))
    simp

end Binding

/-! ## Trees that render -/

mutual

/-- Whether an expression renders as a value.  Functions of any number of arguments
need one at least, and nothing is asked of a value that is looked for among none. -/
def Expr.isValue : Expr → Bool
  | .field _ | .value _ => true
  | .upper text | .lower text | .trim text | .length text => text.isValue
  | .substring text start count => text.isValue && start.isValue && Expr.isValueOption count
  | .replace text term replacement => text.isValue && term.isValue && replacement.isValue
  | .indexOf text term => text.isValue && term.isValue
  | .concat parts | .coalesce parts => !parts.isEmpty && Expr.areValues parts
  | .convert operand _ => operand.isValue
  | .search _ text term => text.isValue && term.isValue
  | .among operand values => values.isEmpty || (operand.isValue && Expr.areValues values)

/-- Whether an expression renders as a value, if it is there. -/
def Expr.isValueOption : Option Expr → Bool
  | none => true
  | some expr => expr.isValue

/-- Whether all of several expressions render as values. -/
def Expr.areValues : List Expr → Bool
  | [] => true
  | expr :: rest => expr.isValue && Expr.areValues rest

end

/-- Whether an expression renders as a condition: fields, truth values and tests do. -/
def Expr.isCondition : Expr → Bool
  | .field _ | .value (.bool _) => true
  | expr => expr.isTest && expr.isValue

/-- Whether a comparison may be made with the missing value. -/
def Comparison.takesNull : Comparison → Bool
  | .equal | .notEqual => true
  | _ => false

/-- Whether a condition renders.  Of a comparison with the missing value only the other
side is looked at, the left one if both sides are missing. -/
def Condition.isValid : Condition → Bool
  | .compare comparison left right =>
    if isNullValue right then comparison.takesNull && left.isValue
    else if isNullValue left then comparison.takesNull && right.isValue
    else left.isValue && right.isValue
  | .and left right | .or left right => left.isValid && right.isValid
  | .not operand => operand.isValid
  | .holds expr => expr.isCondition

/-! ## Values -/

namespace Expr

open Binding Sql

/-- A function of any number of arguments is accepted with one at least. -/
theorem accepts_variadic (function : Sql.Function) (arguments : List Scalar) :
    Accepts (arguments ≠ []) (variadic function arguments) := by
  cases arguments with
  | nil => exact (accepts_fail _).congr (by simp)
  | cons argument rest =>
    cases rest with
    | nil => exact (accepts_pure _).congr (by simp)
    | cons next more => exact (accepts_pure _).congr (by simp)

/-- Each of several expressions renders to one argument. -/
theorem length_of_scalars : ∀ {exprs : List Expr} {values values' : List Value}
    {arguments : List Scalar}, scalars exprs values = .ok (arguments, values') →
    arguments.length = exprs.length
  | [], _, _, _, hrun => by
    simp only [scalars, run_pure, Except.ok.injEq, Prod.mk.injEq] at hrun
    rw [← hrun.1]
    rfl
  | expr :: rest, _, _, _, hrun => by
    obtain ⟨argument, _, -, hrun⟩ := run_seq_eq_ok.mp hrun
    obtain ⟨more, _, hmore, hrun⟩ := run_seq_eq_ok.mp hrun
    simp only [run_pure, Except.ok.injEq, Prod.mk.injEq] at hrun
    rw [← hrun.1, List.length_cons, List.length_cons, length_of_scalars hmore]

/-- A function of any number of arguments renders with its arguments, if there are any. -/
theorem accepts_scalars_variadic {parts : List Expr} (function : Sql.Function)
    (hparts : Accepts (areValues parts = true) (scalars parts)) :
    Accepts ((!parts.isEmpty && areValues parts) = true)
      (scalars parts >>= variadic function) := by
  have hnext : ∀ arguments : List Scalar, arguments.length = parts.length →
      Accepts (parts ≠ []) (variadic function arguments) := by
    intro arguments hlength
    apply (accepts_variadic function arguments).congr
    rw [ne_eq, ne_eq, ← List.length_eq_zero_iff, hlength, List.length_eq_zero_iff]
  have hboth := hparts.seq_of (fun _ _ _ hrun => length_of_scalars hrun) hnext
  apply hboth.congr
  simp [and_comm]

/-- A pattern is accepted if its term is. -/
theorem accepts_pattern {term : Expr} {scalar : Binding Scalar}
    (hscalar : Accepts (term.isValue = true) scalar) :
    Accepts (term.isValue = true) (pattern term scalar) := by
  unfold pattern
  split
  · exact (accepts_bind _).congr (by simp [isValue])
  · exact hscalar.map _

/-- A search is accepted if its text and its pattern are. -/
theorem accepts_searchPredicate (place : SearchPlace) {p q : Prop}
    {text pattern : Binding Scalar} (htext : Accepts p text) (hpattern : Accepts q pattern) :
    Accepts (p ∧ q) (searchPredicate place text pattern) :=
  htext.seq fun _ => hpattern.map _

/-- A membership is accepted if nothing is listed, or if its operand and its values are accepted. -/
theorem accepts_amongPredicate {p q : Prop} {operand : Binding Scalar}
    {values : Binding (List Scalar)} (hoperand : Accepts p operand) (hvalues : Accepts q values)
    (noValues : Bool) :
    Accepts (noValues = true ∨ p ∧ q) (amongPredicate operand values noValues) := by
  cases noValues with
  | true => exact (accepts_pure _).congr (by simp)
  | false => exact (hoperand.seq fun _ => hvalues.map _).congr (by simp)

mutual

/-- Exactly the values render as such. -/
theorem accepts_scalar : ∀ expr : Expr, Accepts (expr.isValue = true) expr.scalar
  | .field name => (accepts_pure _).congr (by simp [isValue])
  | .value constant => by
    have hvalue : (Expr.value constant).isValue = true := by simp [isValue]
    cases constant with
    | null => exact (accepts_pure _).congr (by simp [hvalue])
    | _ => exact (accepts_bind _).congr (by simp [hvalue])
  | .upper text | .lower text | .trim text | .length text => (accepts_scalar text).map _
  | .substring text start count => by
    have hsteps := (accepts_scalar text).seq fun text =>
      (accepts_scalar start).seq fun start => (accepts_scalarOption count).map fun count =>
        Scalar.call .substring [text, .plus start (.number 1), count.getD (.call .length [text])]
    exact hsteps.congr (by simp [isValue, and_assoc])
  | .replace text term replacement => by
    have hsteps := (accepts_scalar text).seq fun text =>
      (accepts_scalar term).seq fun term => (accepts_scalar replacement).map fun replacement =>
        Scalar.call .replace [text, term, replacement]
    exact hsteps.congr (by simp [isValue, and_assoc])
  | .indexOf text term => by
    have hsteps := (accepts_scalar text).seq fun text => (accepts_scalar term).map fun term =>
      Scalar.minus (.call .position [term, text]) (.number 1)
    exact hsteps.congr (by simp [isValue])
  | .concat parts => accepts_scalars_variadic .concat (accepts_scalars parts)
  | .coalesce parts => accepts_scalars_variadic .coalesce (accepts_scalars parts)
  | .convert operand type => (accepts_scalar operand).map _
  | .search place text term => by
    have hterm := accepts_pattern (accepts_scalar term)
    have hsearch := accepts_searchPredicate place (accepts_scalar text) hterm
    exact (hsearch.map Scalar.flag).congr (by simp [isValue])
  | .among operand values => by
    have hamong := accepts_amongPredicate (accepts_scalar operand) (accepts_scalars values)
      values.isEmpty
    exact (hamong.map Scalar.flag).congr (by simp [isValue])

/-- An optional expression is accepted if it is absent or a value. -/
theorem accepts_scalarOption :
    ∀ expr : Option Expr, Accepts (isValueOption expr = true) (scalarOption expr)
  | none => (accepts_pure _).congr (by simp [isValueOption])
  | some expr => (accepts_scalar expr).map _

/-- Expressions are accepted if all of them are values. -/
theorem accepts_scalars : ∀ exprs : List Expr, Accepts (areValues exprs = true) (scalars exprs)
  | [] => (accepts_pure _).congr (by simp [areValues])
  | expr :: rest => by
    have hsteps := (accepts_scalar expr).seq fun scalar => (accepts_scalars rest).map (scalar :: ·)
    exact hsteps.congr (by simp [areValues])

end

/-! ## Conditions -/

/-- Exactly fields, truth values and tests of values render as conditions. -/
theorem accepts_predicate (expr : Expr) : Accepts (expr.isCondition = true) expr.predicate := by
  cases expr with
  | field name => exact (accepts_pure _).congr (by simp [isCondition])
  | value constant =>
    cases constant with
    | bool holds => exact (accepts_pure _).congr (by simp [isCondition])
    | _ => exact (accepts_fail _).congr (by simp [isCondition, isTest])
  | search place text term =>
    have hterm := accepts_pattern (accepts_scalar term)
    have hsearch := accepts_searchPredicate place (accepts_scalar text) hterm
    exact hsearch.congr (by simp [isCondition, isTest, isValue])
  | among operand values =>
    have hamong := accepts_amongPredicate (accepts_scalar operand) (accepts_scalars values)
      values.isEmpty
    exact hamong.congr (by simp [isCondition, isTest, isValue])
  | _ => exact (accepts_fail _).congr (by simp [isCondition, isTest])

end Expr

namespace Condition

open Binding Sql

/-- A comparison with the missing value is accepted if the comparison takes it and the other side
is a value. -/
theorem accepts_nullPredicate (comparison : Comparison) (operand : Expr) :
    Accepts ((comparison.takesNull && operand.isValue) = true)
      (nullPredicate comparison operand) := by
  cases comparison with
  | equal | notEqual => exact operand.accepts_scalar.map _
  | _ => exact (accepts_fail _).congr (by simp [Comparison.takesNull])

/-- Exactly the valid conditions render. -/
theorem accepts_predicate (condition : Condition) :
    Accepts (condition.isValid = true) condition.predicate := by
  induction condition with
  | compare comparison left right =>
    simp only [predicate, isValid, besideNull?]
    cases isNullValue right with
    | true => exact accepts_nullPredicate comparison left
    | false =>
      cases isNullValue left with
      | true => exact accepts_nullPredicate comparison right
      | false =>
        have hsides := left.accepts_scalar.seq fun left =>
          right.accepts_scalar.map fun right => Predicate.compare comparison left right
        exact hsides.congr (by simp)
  | and left right ihleft ihright =>
    exact (ihleft.seq fun _ => ihright.map _).congr (by simp [isValid])
  | or left right ihleft ihright =>
    exact (ihleft.seq fun _ => ihright.map _).congr (by simp [isValid])
  | not operand ih => exact ih.map _
  | holds expr => exact expr.accepts_predicate

end Condition

end SqlScribe
