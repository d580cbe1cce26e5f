import SqlScribe.Proofs.Rendering.ExprPlaceholders

/-!
# Expressions that bind nothing

Each constant of an expression gets a placeholder of its own, numbered by what is bound in front
of it.  So it takes an expression without constants to be rendered to the same wherever it stands,
and then expressions that are equal are rendered to the same as well.

Main definitions:

- `Binding.Steady` holds of a step that binds nothing and whose outcome is always the same.

Main results:

- `Expr.steady_scalar`: the rendering of an expression without constants is steady.
- `Expr.scalar_eq_of_same`: equal expressions without constants are rendered alike.
-/

namespace SqlScribe

/-! ## Steady steps -/

namespace Binding

variable {α β : Type}

/-- A step binds nothing, and its outcome does not depend on what is bound. -/
def Steady (step : Binding α) : Prop :=
  ∃ outcome : Except RenderError α, ∀ values, step values = outcome.map fun result =>
    (result, values)

theorem steady_pure (result : α) : Steady (pure result : Binding α) := ⟨.ok result, fun _ => rfl⟩

theorem steady_fail (reason : RenderError) : Steady (fail reason : Binding α) :=
  ⟨.error reason, fun _ => rfl⟩

/-- Steady steps may follow each other. -/
theorem Steady.seq {first : Binding α} {next : α → Binding β} (hfirst : Steady first)
    (hnext : ∀ result, Steady (next result)) : Steady (first >>= next) := by
  obtain ⟨outcome, houtcome⟩ := hfirst
  cases outcome with
  | error reason => exact ⟨.error reason, fun values => run_seq_of_error (houtcome values)⟩
  | ok part =>
    obtain ⟨last, hlast⟩ := hnext part
    exact ⟨last, fun values => (run_seq_of_ok (houtcome values)).trans (hlast values)⟩

/-- A steady step has one result only. -/
theorem Steady.unique {step : Binding α} (hstep : Steady step) {values values' others others' :
    List Value} {result other : α} (hresult : step values = .ok (result, values'))
    (hother : step others = .ok (other, others')) : result = other := by
  obtain ⟨outcome, houtcome⟩ := hstep
  rw [houtcome] at hresult hother
  cases outcome with
  | error reason => cases hresult
  | ok part =>
    cases hresult
    cases hother
    rfl

end Binding

/-! ## Expressions without constants -/

open Binding Sql

namespace Expr

/-- A function of any number of arguments binds nothing. -/
theorem steady_variadic (function : Sql.Function) (arguments : List Scalar) :
    Steady (variadic function arguments) := by
  match arguments with
  | [] => exact steady_fail _
  | [_] | _ :: _ :: _ => exact steady_pure _

/-- A search term that binds nothing is no constant text: that is escaped and bound. -/
theorem ne_text_of_soughtConstants {term : Expr} {constants : List Value}
    (hterm : soughtConstants term constants = []) (text : String) :
    term ≠ .value (.text text) := by
  rintro rfl
  simp [soughtConstants] at hterm

/-- The server escapes a search term that is no constant text. -/
theorem pattern_of_ne_text {term : Expr} (hterm : ∀ text, term ≠ .value (.text text))
    (constants : List Value) (scalar : Binding Scalar) :
    soughtConstants term constants = constants ∧
      pattern term scalar = scalar >>= fun scalar => pure (Pattern.escapeScalar scalar) := by
  constructor
  · unfold soughtConstants
    split
    · exact absurd rfl (hterm _)
    · rfl
  · unfold pattern
    split
    · exact absurd rfl (hterm _)
    · rfl

/-- A pattern binds nothing if its term has no constants. -/
theorem steady_pattern {term : Expr} {scalar : Binding Scalar}
    (hterm : soughtConstants term term.constants = [])
    (hscalar : term.constants = [] → Steady scalar) : Steady (pattern term scalar) := by
  obtain ⟨hconstants, hpattern⟩ :=
    pattern_of_ne_text (ne_text_of_soughtConstants hterm) term.constants scalar
  rw [hpattern]
  exact (hscalar (hconstants.symm.trans hterm)).seq fun _ => steady_pure _

/-- A membership binds nothing if nothing is listed or its parts bind nothing. -/
theorem steady_amongPredicate {operand : Binding Scalar} {values : Binding (List Scalar)}
    {noValues : Bool} (hoperand : noValues = false → Steady operand)
    (hvalues : noValues = false → Steady values) :
    Steady (amongPredicate operand values noValues) := by
  cases noValues with
  | true => exact steady_pure _
  | false => exact (hoperand rfl).seq fun _ => (hvalues rfl).seq fun _ => steady_pure _

mutual

/-- The rendering of an expression without constants is steady. -/
theorem steady_scalar : ∀ expr : Expr, expr.constants = [] → Steady expr.scalar
  | .field _, _ => steady_pure _
  | .value constant, hnone => by
    cases constant with
    | null => exact steady_pure _
    | _ => simp [constants] at hnone
  | .upper text, hnone | .lower text, hnone | .trim text, hnone | .length text, hnone =>
    (steady_scalar text hnone).seq fun _ => steady_pure _
  | .substring text start count, hnone => by
    simp only [constants, List.append_eq_nil_iff] at hnone
    obtain ⟨htext, hstart, hcount⟩ := hnone
    exact (steady_scalar text htext).seq fun _ => (steady_scalar start hstart).seq fun _ =>
      (steady_scalarOption count hcount).seq fun _ => steady_pure _
  | .replace text term replacement, hnone => by
    simp only [constants, List.append_eq_nil_iff] at hnone
    obtain ⟨htext, hterm, hreplacement⟩ := hnone
    exact (steady_scalar text htext).seq fun _ => (steady_scalar term hterm).seq fun _ =>
      (steady_scalar replacement hreplacement).seq fun _ => steady_pure _
  | .indexOf text term, hnone => by
    simp only [constants, List.append_eq_nil_iff] at hnone
    exact (steady_scalar text hnone.1).seq fun _ => (steady_scalar term hnone.2).seq fun _ =>
      steady_pure _
  | .concat parts, hnone | .coalesce parts, hnone =>
    (steady_scalars parts hnone).seq fun _ => steady_variadic _ _
  | .convert operand _, hnone => (steady_scalar operand hnone).seq fun _ => steady_pure _
  | .search place text term, hnone => by
    simp only [constants, List.append_eq_nil_iff] at hnone
    have hpattern := steady_pattern hnone.2 (steady_scalar term)
    have hsearch : Steady (searchPredicate place text.scalar (pattern term term.scalar)) :=
      (steady_scalar text hnone.1).seq fun _ => hpattern.seq fun _ => steady_pure _
    exact hsearch.seq fun _ => steady_pure _
  | .among operand values, hnone => by
    have hparts : values.isEmpty = false →
        operand.constants = [] ∧ constantsList values = [] := by
      intro hvalues
      simpa [constants, hvalues] using hnone
    have hamong := steady_amongPredicate (fun h => steady_scalar operand (hparts h).1)
      (fun h => steady_scalars values (hparts h).2)
    exact hamong.seq fun _ => steady_pure _

theorem steady_scalarOption :
    ∀ expr : Option Expr, constantsOption expr = [] → Steady (scalarOption expr)
  | none, _ => steady_pure _
  | some expr, hnone => (steady_scalar expr hnone).seq fun _ => steady_pure _

theorem steady_scalars : ∀ exprs : List Expr, constantsList exprs = [] → Steady (scalars exprs)
  | [], _ => steady_pure _
  | expr :: rest, hnone => by
    simp only [constantsList, List.append_eq_nil_iff] at hnone
    exact (steady_scalar expr hnone.1).seq fun _ => (steady_scalars rest hnone.2).seq fun _ =>
      steady_pure _

end

/-! ## Equal expressions -/

/-- Equal terms without constants have the same pattern. -/
theorem pattern_eq_of_same {a b : Expr} (hsame : a.same b = true)
    (hterms : b.constants = [] → a.constants = [] ∧ a.scalar = b.scalar)
    (hb : soughtConstants b b.constants = []) :
    soughtConstants a a.constants = [] ∧ pattern a a.scalar = pattern b b.scalar := by
  have hbtext := ne_text_of_soughtConstants hb
  have hatext : ∀ text, a ≠ .value (.text text) := by
    rintro text rfl
    cases b with
    | value constant =>
      have hvalue : Value.text text = constant := by simpa [same, Value.same] using hsame
      exact hbtext text (by rw [hvalue])
    | _ => simp [same] at hsame
  obtain ⟨hconstants, hpattern⟩ := pattern_of_ne_text hbtext b.constants b.scalar
  obtain ⟨hsought, hescaped⟩ := pattern_of_ne_text hatext a.constants a.scalar
  obtain ⟨hnone, hscalar⟩ := hterms (hconstants.symm.trans hb)
  exact ⟨hsought.trans hnone, by rw [hescaped, hpattern, hscalar]⟩

mutual

/-- Equal expressions bind nothing alike, and then they are rendered alike. -/
theorem scalar_eq_of_same : ∀ a b : Expr, a.same b = true → b.constants = [] →
    a.constants = [] ∧ a.scalar = b.scalar
  | .field a, b, hsame, _ => by
    cases b <;> simp_all [same, constants]
  | .value a, b, hsame, hb => by
    cases b with
    | value b => cases b <;> cases a <;> simp_all [same, constants, Value.same]
    | _ => simp [same] at hsame
  | .upper a, b, hsame, hb | .lower a, b, hsame, hb | .trim a, b, hsame, hb
  | .length a, b, hsame, hb => by
    cases b <;> simp only [same, Bool.false_eq_true] at hsame
    obtain ⟨hnone, hscalar⟩ := scalar_eq_of_same a _ hsame hb
    exact ⟨hnone, by rw [scalar, scalar, hscalar]⟩
  | .substring a s l, b, hsame, hb => by
    cases b <;> simp only [same, Bool.false_eq_true, Bool.and_eq_true] at hsame
    simp only [constants, List.append_eq_nil_iff] at hb ⊢
    obtain ⟨htext, hscalar⟩ := scalar_eq_of_same a _ hsame.1.1 hb.1
    obtain ⟨hstart, hstartScalar⟩ := scalar_eq_of_same s _ hsame.1.2 hb.2.1
    obtain ⟨hcount, hcountScalar⟩ := scalarOption_eq_of_same l _ hsame.2 hb.2.2
    exact ⟨⟨htext, hstart, hcount⟩,
      by rw [scalar, scalar, hscalar, hstartScalar, hcountScalar]⟩
  | .replace a s r, b, hsame, hb => by
    cases b <;> simp only [same, Bool.false_eq_true, Bool.and_eq_true] at hsame
    simp only [constants, List.append_eq_nil_iff] at hb ⊢
    obtain ⟨htext, hscalar⟩ := scalar_eq_of_same a _ hsame.1.1 hb.1
    obtain ⟨hterm, htermScalar⟩ := scalar_eq_of_same s _ hsame.1.2 hb.2.1
    obtain ⟨hother, hotherScalar⟩ := scalar_eq_of_same r _ hsame.2 hb.2.2
    exact ⟨⟨htext, hterm, hother⟩, by rw [scalar, scalar, hscalar, htermScalar, hotherScalar]⟩
  | .indexOf a s, b, hsame, hb => by
    cases b <;> simp only [same, Bool.false_eq_true, Bool.and_eq_true] at hsame
    simp only [constants, List.append_eq_nil_iff] at hb ⊢
    obtain ⟨htext, hscalar⟩ := scalar_eq_of_same a _ hsame.1 hb.1
    obtain ⟨hterm, htermScalar⟩ := scalar_eq_of_same s _ hsame.2 hb.2
    exact ⟨⟨htext, hterm⟩, by rw [scalar, scalar, hscalar, htermScalar]⟩
  | .concat a, b, hsame, hb | .coalesce a, b, hsame, hb => by
    cases b <;> simp only [same, Bool.false_eq_true] at hsame
    obtain ⟨hnone, hscalars⟩ := scalars_eq_of_same a _ hsame hb
    exact ⟨hnone, by rw [scalar, scalar, hscalars]⟩
  | .convert a t, b, hsame, hb => by
    cases b <;> simp only [same, Bool.false_eq_true, Bool.and_eq_true, decide_eq_true_eq] at hsame
    obtain ⟨hnone, hscalar⟩ := scalar_eq_of_same a _ hsame.1 hb
    exact ⟨hnone, by rw [scalar, scalar, hscalar, hsame.2]⟩
  | .search p a s, b, hsame, hb => by
    cases b <;> simp only [same, Bool.false_eq_true, Bool.and_eq_true, decide_eq_true_eq] at hsame
    simp only [constants, List.append_eq_nil_iff] at hb ⊢
    obtain ⟨htext, hscalar⟩ := scalar_eq_of_same a _ hsame.1.2 hb.1
    obtain ⟨hterm, hpattern⟩ := pattern_eq_of_same hsame.2 (scalar_eq_of_same s _ hsame.2) hb.2
    exact ⟨⟨htext, hterm⟩, by rw [scalar, scalar, hscalar, hpattern, hsame.1.1]⟩
  | .among a s, b, hsame, hb => by
    cases b <;> simp only [same, Bool.false_eq_true, Bool.and_eq_true] at hsame
    rename_i b t
    have hempty : s.isEmpty = t.isEmpty := by
      cases s <;> cases t <;> simp_all [sameList]
    simp only [constants] at hb ⊢
    -- Nothing is rendered to be among no values.
    cases hvalues : t.isEmpty with
    | true => simp [scalar, amongPredicate, hempty, hvalues]
    | false =>
      simp only [hvalues, Bool.false_eq_true, if_false, List.append_eq_nil_iff] at hb
      obtain ⟨hoperand, hscalar⟩ := scalar_eq_of_same a b hsame.1 hb.1
      obtain ⟨hothers, hscalars⟩ := scalars_eq_of_same s t hsame.2 hb.2
      rw [hoperand, hothers, List.append_nil, ite_self, scalar, scalar, hscalar, hscalars, hempty]
      exact ⟨rfl, rfl⟩

theorem scalarOption_eq_of_same : ∀ a b : Option Expr, sameOption a b = true →
    constantsOption b = [] → constantsOption a = [] ∧ scalarOption a = scalarOption b
  | none, none, _, _ => ⟨rfl, rfl⟩
  | some a, some b, hsame, hb => by
    obtain ⟨hnone, hscalar⟩ := scalar_eq_of_same a b hsame hb
    exact ⟨hnone, by rw [scalarOption, scalarOption, hscalar]⟩
  | none, some _, hsame, _ | some _, none, hsame, _ => by simp [sameOption] at hsame

theorem scalars_eq_of_same : ∀ a b : List Expr, sameList a b = true → constantsList b = [] →
    constantsList a = [] ∧ scalars a = scalars b
  | [], [], _, _ => ⟨rfl, rfl⟩
  | a :: as, b :: bs, hsame, hb => by
    simp only [sameList, Bool.and_eq_true] at hsame
    simp only [constantsList, List.append_eq_nil_iff] at hb ⊢
    obtain ⟨hfirst, hscalar⟩ := scalar_eq_of_same a b hsame.1 hb.1
    obtain ⟨hrest, hscalars⟩ := scalars_eq_of_same as bs hsame.2 hb.2
    exact ⟨⟨hfirst, hrest⟩, by rw [scalars, scalars, hscalar, hscalars]⟩
  | [], _ :: _, hsame, _ | _ :: _, [], hsame, _ => by simp [sameList] at hsame

end

end Expr

end SqlScribe
