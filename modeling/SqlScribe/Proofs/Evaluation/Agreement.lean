import Mathlib.Data.List.Forall2
import SqlScribe.Condition.Predicate
import SqlScribe.Proofs.Evaluation.Expressions

/-!
# Values of what is rendered twice

A placeholder is numbered by what is bound in front of it, so an expression is rendered
differently behind other bound values.  What it is worth stays: each run binds the constants that
its own placeholders refer to, and later ones are bound behind them.

Main definitions:

- `Binding.Agree` relates two steps by the results of all their runs, read with everything that is
  bound in the end.
- `Sql.Scalar.Alike` and `Sql.Predicate.Alike` say that expressions and conditions with bound
  values are worth the same.

Main results:

- `Expr.agree_scalar` and `Condition.agree_predicate`: an expression and a condition are worth the
  same wherever they are rendered.
-/

namespace SqlScribe

/-! ## Steps that agree -/

namespace Binding

/-- Where two steps succeed, each behind values of its own, these values stay in place, and the
results agree when they are read with more bound values. -/
def Agree {α β : Type} (agree : List Value → α → List Value → β → Prop) (step : Binding α)
    (other : Binding β) : Prop :=
  ∀ ⦃values result values' others result' others'⦄,
    step values = .ok (result, values') → other others = .ok (result', others') →
      values <+: values' ∧ others <+: others' ∧
        ∀ ⦃bound bound'⦄, values' <+: bound → others' <+: bound' → agree bound result bound' result'

variable {α β γ δ : Type} {agree : List Value → α → List Value → β → Prop}
  {after : List Value → γ → List Value → δ → Prop}

/-- Steps that agree in one way agree in every weaker one. -/
theorem Agree.mono {more : List Value → α → List Value → β → Prop} {step : Binding α}
    {other : Binding β} (hstep : Agree agree step other)
    (hmore : ∀ bound a bound' b, agree bound a bound' b → more bound a bound' b) :
    Agree more step other := by
  intro values result values' others result' others' hresult hresult'
  obtain ⟨hvalues, hothers, hagree⟩ := hstep hresult hresult'
  exact ⟨hvalues, hothers, fun bound bound' hbound hbound' =>
    hmore _ _ _ _ (hagree hbound hbound')⟩

/-- Steps that bind nothing agree if their results do. -/
theorem agree_pure {a : α} {b : β} (hagree : ∀ bound bound', agree bound a bound' b) :
    Agree agree (pure a) (pure b) := by
  intro values result values' others result' others' hresult hresult'
  simp only [run_pure, Except.ok.injEq, Prod.mk.injEq] at hresult hresult'
  obtain ⟨⟨rfl, rfl⟩, rfl, rfl⟩ := hresult, hresult'
  exact ⟨List.prefix_rfl, List.prefix_rfl, fun bound bound' _ _ => hagree bound bound'⟩

/-- A step that never succeeds agrees with every other one. -/
theorem agree_fail {reason : RenderError} {other : Binding β} :
    Agree agree (fail reason) other := by
  intro values result values' others result' others' hresult
  simp at hresult

/-- Every step agrees with one that never succeeds. -/
theorem agree_fail_right {step : Binding α} {reason : RenderError} :
    Agree agree step (fail reason) := by
  intro values result values' others result' others' _ hresult'
  simp at hresult'

/-- A check binds nothing. -/
theorem agree_check (result other : Except RenderError Unit) :
    Agree (fun _ _ _ _ => True) (check result) (check other) := by
  intro values done values' others done' others' hdone hdone'
  obtain ⟨-, rfl⟩ := run_check_eq_ok.mp hdone
  obtain ⟨-, rfl⟩ := run_check_eq_ok.mp hdone'
  exact ⟨List.prefix_rfl, List.prefix_rfl, fun _ _ _ _ => trivial⟩

/-- Two steps agree with two others one by one. -/
theorem Agree.seq {first : Binding α} {second : Binding β} {next : α → Binding γ}
    {other : β → Binding δ} (hfirst : Agree agree first second)
    (hnext : ∀ a b, Agree (fun bound result bound' result' =>
      agree bound a bound' b → after bound result bound' result') (next a) (other b)) :
    Agree after (first >>= next) (second >>= other) := by
  intro values result values' others result' others' hresult hresult'
  obtain ⟨a, between, ha, hresult⟩ := run_seq_eq_ok.mp hresult
  obtain ⟨b, between', hb, hresult'⟩ := run_seq_eq_ok.mp hresult'
  obtain ⟨hvalues, hothers, hagree⟩ := hfirst ha hb
  obtain ⟨hbetween, hbetween', hafter⟩ := hnext a b hresult hresult'
  refine ⟨hvalues.trans hbetween, hothers.trans hbetween', fun bound bound' hbound hbound' => ?_⟩
  exact hafter hbound hbound' (hagree (hbetween.trans hbound) (hbetween'.trans hbound'))

/-- Behind a step that the other side does not take; it only binds values. -/
theorem Agree.behind {agree : List Value → α → List Value → α → Prop} {first : Binding α}
    {next : α → Binding γ} {other : Binding δ} (hfirst : Agree agree first first)
    (hnext : ∀ values a between, first values = .ok (a, between) → Agree after (next a) other) :
    Agree after (first >>= next) other := by
  intro values result values' others result' others' hresult hresult'
  obtain ⟨a, between, ha, hresult⟩ := run_seq_eq_ok.mp hresult
  obtain ⟨hvalues, -, -⟩ := hfirst ha ha
  obtain ⟨hbetween, hothers, hafter⟩ := hnext values a between ha hresult hresult'
  exact ⟨hvalues.trans hbetween, hothers, hafter⟩

/-- A step whose result is only put together. -/
theorem Agree.map {first : Binding α} {second : Binding β} {next : α → γ} {other : β → δ}
    (hfirst : Agree agree first second)
    (hnext : ∀ bound a bound' b, agree bound a bound' b → after bound (next a) bound' (other b)) :
    Agree after (first >>= fun a => pure (next a)) (second >>= fun b => pure (other b)) :=
  hfirst.seq fun a b => agree_pure fun bound bound' => hnext bound a bound' b

/-- An optional part agrees with itself if the part does. -/
theorem agree_optional {agree : List Value → α → List Value → α → Prop} {render : γ → Binding α}
    (hpart : ∀ part, Agree agree (render part) (render part)) (part : Option γ) :
    Agree (fun bound result bound' result' =>
        Option.Rel (fun a b => agree bound a bound' b) result result')
      (optional render part) (optional render part) := by
  cases part with
  | none => exact agree_pure fun _ _ => .none
  | some part => exact (hpart part).map fun _ _ _ _ hagree => .some hagree

/-- Several parts agree with themselves one by one. -/
theorem agree_mapM {agree : List Value → α → List Value → α → Prop} {render : γ → Binding α}
    (hpart : ∀ part, Agree agree (render part) (render part)) (parts : List γ) :
    Agree (fun bound results bound' results' =>
        List.Forall₂ (fun a b => agree bound a bound' b) results results')
      (parts.mapM render) (parts.mapM render) := by
  induction parts with
  | nil => exact agree_pure fun _ _ => .nil
  | cons part rest ih =>
    rw [List.mapM_cons]
    apply (hpart part).seq
    intro a b
    exact ih.map fun _ _ _ _ hrest hagree => .cons hagree hrest

end Binding

/-! ## Expressions that are worth the same -/

namespace Sql

/-- What the values of expressions depend on, with other bound values. -/
def Environment.binding (environment : Environment) (bound : List Value) : Environment :=
  { environment with bound }

/-- The column that an expression is, if it is one. -/
def Scalar.columnName? : Scalar → Option String
  | .column name => some name
  | _ => none

/-- Two expressions, each with its bound values, are worth the same and are the same column if they
are one. -/
structure Scalar.Alike (bound : List Value) (scalar : Scalar) (bound' : List Value)
    (other : Scalar) : Prop where
  value : ∀ environment : Environment,
    scalar.value (environment.binding bound) = other.value (environment.binding bound')
  columnName? : scalar.columnName? = other.columnName?

/-- Two conditions, each with its bound values, are worth the same. -/
def Predicate.Alike (bound : List Value) (predicate : Predicate) (bound' : List Value)
    (other : Predicate) : Prop :=
  ∀ environment : Environment,
    predicate.truth (environment.binding bound) = other.truth (environment.binding bound')

/-- Expressions that are worth the same one by one. -/
abbrev AlikeAll (bound : List Value) (scalars : List Scalar) (bound' : List Value)
    (others : List Scalar) : Prop :=
  List.Forall₂ (fun scalar other => scalar.Alike bound bound' other) scalars others

variable {bound bound' : List Value} {a b c d : Scalar} {scalars others : List Scalar}

/-- Arguments that are worth the same one by one have the same values. -/
theorem argumentValues_congr (hscalars : AlikeAll bound scalars bound' others)
    (environment : Environment) :
    argumentValues (environment.binding bound) scalars =
      argumentValues (environment.binding bound') others := by
  induction hscalars with
  | nil => rfl
  | cons hscalar hrest ih => rw [argumentValues, argumentValues, hscalar.value, ih]

/-- A text of the library is worth itself. -/
theorem alike_text (text : String) : (Scalar.text text).Alike bound bound' (.text text) :=
  ⟨fun _ => rfl, rfl⟩

/-- Calls of a function are worth the same if their arguments are. -/
theorem alike_call (function : Function) (hscalars : AlikeAll bound scalars bound' others) :
    (Scalar.call function scalars).Alike bound bound' (.call function others) where
  value := by
    intro environment
    rw [Scalar.value, Scalar.value, argumentValues_congr hscalars]
    rfl
  columnName? := rfl

/-- Sums are worth the same if their operands are. -/
theorem alike_plus (hac : a.Alike bound bound' c) (hbd : b.Alike bound bound' d) :
    (Scalar.plus a b).Alike bound bound' (.plus c d) where
  value := by
    intro environment
    rw [Scalar.value, Scalar.value, hac.value, hbd.value]
    rfl
  columnName? := rfl

/-- Flags are worth the same if their conditions are. -/
theorem alike_flag {predicate other : Predicate} (halike : predicate.Alike bound bound' other) :
    (Scalar.flag predicate).Alike bound bound' (.flag other) where
  value := by
    intro environment
    rw [Scalar.value, Scalar.value, halike]
  columnName? := rfl

/-- Escaped texts are worth the same if the texts are. -/
theorem alike_escapeScalar (hab : a.Alike bound bound' b) :
    (Pattern.escapeScalar a).Alike bound bound' (Pattern.escapeScalar b) := by
  have hreplace (sought written : String) {c d : Scalar} (hcd : c.Alike bound bound' d) :
      (Scalar.call .replace [c, .text sought, .text written]).Alike bound bound'
        (.call .replace [d, .text sought, .text written]) :=
    alike_call .replace (.cons hcd (.cons (alike_text sought) (.cons (alike_text written) .nil)))
  exact hreplace _ _ (hreplace _ _ (hreplace _ _ hab))

/-- Patterns are worth the same if the terms inside them are. -/
theorem alike_inPlace (place : SearchPlace) (hab : a.Alike bound bound' b) :
    (Pattern.inPlace place a).Alike bound bound' (Pattern.inPlace place b) := by
  cases place with
  | start => exact alike_plus hab (alike_text _)
  | finish => exact alike_plus (alike_text _) hab
  | anywhere => exact alike_plus (alike_plus (alike_text _) hab) (alike_text _)

/-- Matches are worth the same if the texts and the patterns are. -/
theorem alike_like (hac : a.Alike bound bound' c) (hbd : b.Alike bound bound' d) :
    (Predicate.like a b).Alike bound bound' (.like c d) := by
  intro environment
  rw [Predicate.truth, Predicate.truth, hac.value, hbd.value]
  rfl

/-- Memberships are worth the same if the operands and the listed values are. -/
theorem alike_among (hac : a.Alike bound bound' c)
    (hscalars : AlikeAll bound scalars bound' others) :
    (Predicate.among a scalars).Alike bound bound' (.among c others) := by
  intro environment
  rw [Predicate.truth, Predicate.truth, hac.value, argumentValues_congr hscalars]
  rfl

end Sql

/-! ## Expressions -/

open Binding Sql

/-- A bound value is found where its placeholder points, whatever is bound behind it. -/
theorem agree_bind (value : Value) : Agree Scalar.Alike (bind value) (bind value) := by
  intro values result values' others result' others' hresult hresult'
  simp only [run_bind, Except.ok.injEq, Prod.mk.injEq] at hresult hresult'
  obtain ⟨⟨rfl, rfl⟩, rfl, rfl⟩ := hresult, hresult'
  refine ⟨List.prefix_append .., List.prefix_append .., ?_⟩
  rintro bound bound' ⟨rest, rfl⟩ ⟨rest', rfl⟩
  refine ⟨fun environment => ?_, rfl⟩
  simp [Scalar.value, Environment.binding]

namespace Expr

/-- A pattern is the same wherever its term is rendered. -/
theorem agree_pattern (term : Expr) {scalar : Binding Scalar}
    (hscalar : Agree Scalar.Alike scalar scalar) :
    Agree Scalar.Alike (pattern term scalar) (pattern term scalar) := by
  unfold pattern
  split
  · exact agree_bind _
  · exact hscalar.map fun _ _ _ _ halike => alike_escapeScalar halike

/-- Functions of any number of arguments are worth the same if their arguments are. -/
theorem agree_variadic (function : Sql.Function) (scalars others : List Scalar) :
    Agree (fun bound result bound' result' =>
        AlikeAll bound scalars bound' others → result.Alike bound bound' result')
      (variadic function scalars) (variadic function others) := by
  match scalars, others with
  | [], _ => exact agree_fail
  | _ :: _, [] => exact agree_fail_right
  | [_], [_] => exact agree_pure fun _ _ hall => (List.forall₂_cons.mp hall).1
  | [_], _ :: _ :: _ | _ :: _ :: _, [_] =>
    refine agree_pure fun _ _ hall => ?_
    simp at hall
  | _ :: _ :: _, _ :: _ :: _ => exact agree_pure fun _ _ hall => alike_call function hall

/-- A search is worth the same if its text and its pattern are. -/
theorem agree_searchPredicate (place : SearchPlace) {text pattern : Binding Scalar}
    (htext : Agree Scalar.Alike text text) (hpattern : Agree Scalar.Alike pattern pattern) :
    Agree Predicate.Alike (searchPredicate place text pattern)
      (searchPredicate place text pattern) := by
  apply htext.seq
  intro a c
  exact hpattern.map fun _ _ _ _ hpattern htext => alike_like htext (alike_inPlace place hpattern)

/-- A membership is worth the same if its operand and its values are. -/
theorem agree_amongPredicate {operand : Binding Scalar} {values : Binding (List Scalar)}
    (noValues : Bool) (hoperand : Agree Scalar.Alike operand operand)
    (hvalues : Agree AlikeAll values values) :
    Agree Predicate.Alike (amongPredicate operand values noValues)
      (amongPredicate operand values noValues) := by
  cases noValues with
  | true => exact agree_pure fun _ _ _ => rfl
  | false =>
    apply hoperand.seq
    intro a c
    exact hvalues.map fun _ _ _ _ hvalues hoperand => alike_among hoperand hvalues

/-- A constant is bound, unless it is the missing value. -/
theorem agree_value (constant : Value) :
    Agree Scalar.Alike (Expr.value constant).scalar (Expr.value constant).scalar := by
  cases constant with
  | null => exact agree_pure fun _ _ => ⟨fun _ => rfl, rfl⟩
  | _ => exact agree_bind _

mutual

/-- An expression is worth the same wherever it is rendered. -/
theorem agree_scalar : ∀ expr : Expr, Agree Scalar.Alike expr.scalar expr.scalar
  | .field _ => agree_pure fun _ _ => ⟨fun _ => rfl, rfl⟩
  | .value constant => agree_value constant
  | .upper text | .lower text | .length text =>
    (agree_scalar text).map fun _ _ _ _ htext => alike_call _ (.cons htext .nil)
  | .trim text =>
    (agree_scalar text).map fun _ _ _ _ htext =>
      alike_call _ (.cons (alike_call _ (.cons htext .nil)) .nil)
  | .substring text start count => by
    apply (agree_scalar text).seq
    intro a b
    apply (agree_scalar start).seq
    intro c d
    apply (agree_scalarOption count).map
    intro bound e bound' f hcount hstart htext
    have hlength : (e.getD (.call .length [a])).Alike bound bound'
        (f.getD (.call .length [b])) := by
      cases hcount with
      | none => exact alike_call _ (.cons htext .nil)
      | some hcount => exact hcount
    have hone : (Scalar.number 1).Alike bound bound' (.number 1) := ⟨fun _ => rfl, rfl⟩
    exact alike_call _ (.cons htext (.cons (alike_plus hstart hone) (.cons hlength .nil)))
  | .replace text term replacement => by
    apply (agree_scalar text).seq
    intro a b
    apply (agree_scalar term).seq
    intro c d
    exact (agree_scalar replacement).map fun _ _ _ _ hreplacement hterm htext =>
      alike_call _ (.cons htext (.cons hterm (.cons hreplacement .nil)))
  | .indexOf text term => by
    apply (agree_scalar text).seq
    intro a b
    apply (agree_scalar term).map
    intro bound c bound' d hterm htext
    have hposition := alike_call .position (.cons hterm (.cons htext .nil))
    refine ⟨fun environment => ?_, rfl⟩
    rw [Scalar.value, Scalar.value, hposition.value]
    rfl
  | .concat parts => by
    apply (agree_scalars parts).seq
    intro as bs
    exact agree_variadic .concat as bs
  | .coalesce parts => by
    apply (agree_scalars parts).seq
    intro as bs
    exact agree_variadic .coalesce as bs
  | .convert operand _ => by
    apply (agree_scalar operand).map
    intro bound a bound' b hoperand
    refine ⟨fun environment => ?_, rfl⟩
    rw [Scalar.value, Scalar.value, hoperand.value]
    rfl
  | .search place text term =>
    (agree_searchPredicate place (agree_scalar text) (agree_pattern term (agree_scalar term))).map
      fun _ _ _ _ halike => alike_flag halike
  | .among operand values =>
    (agree_amongPredicate values.isEmpty (agree_scalar operand) (agree_scalars values)).map
      fun _ _ _ _ halike => alike_flag halike

/-- So is one that may be absent. -/
theorem agree_scalarOption : ∀ expr : Option Expr,
    Agree (fun bound result bound' result' =>
        Option.Rel (fun a b => a.Alike bound bound' b) result result')
      (scalarOption expr) (scalarOption expr)
  | none => agree_pure fun _ _ => .none
  | some expr => (agree_scalar expr).map fun _ _ _ _ halike => .some halike

/-- So are several. -/
theorem agree_scalars : ∀ exprs : List Expr, Agree AlikeAll (scalars exprs) (scalars exprs)
  | [] => agree_pure fun _ _ => .nil
  | expr :: rest => by
    apply (agree_scalar expr).seq
    intro a b
    exact (agree_scalars rest).map fun _ _ _ _ hrest hfirst => .cons hfirst hrest

end

/-- An expression that is a condition is worth the same wherever it is rendered. -/
theorem agree_predicate : ∀ expr : Expr, Agree Predicate.Alike expr.predicate expr.predicate
  | .field _ => agree_pure fun _ _ _ => rfl
  | .value constant => by
    cases constant with
    | bool holds => exact agree_pure fun _ _ _ => rfl
    | _ => exact agree_fail
  | .search place text term =>
    agree_searchPredicate place (agree_scalar text) (agree_pattern term (agree_scalar term))
  | .among operand values =>
    agree_amongPredicate values.isEmpty (agree_scalar operand) (agree_scalars values)
  | .upper _ | .lower _ | .trim _ | .length _ | .substring .. | .replace .. | .indexOf ..
  | .concat _ | .coalesce _ | .convert .. => agree_fail

end Expr

/-! ## Conditions -/

namespace Condition

/-- A comparison with the missing value is worth the same wherever it is rendered. -/
theorem agree_nullPredicate (comparison : Comparison) (operand : Expr) :
    Agree Predicate.Alike (nullPredicate comparison operand)
      (nullPredicate comparison operand) := by
  have hmissing : ∀ {bound bound' : List Value} {a b : Scalar}, a.Alike bound bound' b →
      (Predicate.isNull a).Alike bound bound' (.isNull b) ∧
        (Predicate.isNotNull a).Alike bound bound' (.isNotNull b) := by
    intro bound bound' a b halike
    constructor <;> intro environment <;> rw [Predicate.truth, Predicate.truth, halike.value]
  cases comparison with
  | equal => exact (Expr.agree_scalar operand).map fun _ _ _ _ halike => (hmissing halike).1
  | notEqual => exact (Expr.agree_scalar operand).map fun _ _ _ _ halike => (hmissing halike).2
  | _ => exact agree_fail

/-- A condition is worth the same wherever it is rendered. -/
theorem agree_predicate :
    ∀ condition : Condition, Agree Predicate.Alike condition.predicate condition.predicate
  | .compare comparison left right => by
    unfold predicate
    split
    · exact agree_nullPredicate comparison _
    · apply (Expr.agree_scalar left).seq
      intro a b
      apply (Expr.agree_scalar right).map
      intro bound c bound' d hright hleft environment
      rw [Predicate.truth, Predicate.truth, hleft.value, hright.value]
      rfl
  | .and left right | .or left right => by
    apply (agree_predicate left).seq
    intro a b
    apply (agree_predicate right).map
    intro bound c bound' d hright hleft environment
    rw [Predicate.truth, Predicate.truth, hleft, hright]
  | .not operand => by
    apply (agree_predicate operand).map
    intro bound a bound' b halike environment
    rw [Predicate.truth, Predicate.truth, halike]
  | .holds expr => Expr.agree_predicate expr

end Condition

end SqlScribe
