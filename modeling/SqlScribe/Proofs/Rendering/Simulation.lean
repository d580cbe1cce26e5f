import Mathlib.Data.List.Forall2
import SqlScribe.Proofs.Rendering.Substitution
import SqlScribe.Sql.Printer

/-!
# Rendering expressions under other names and constants

Rendering an expression and rendering it under a lawful substitution go the same
way: where the one binds a constant the other binds the other constant, and the
text differs in names only.

Main definitions:

- `Substitution.Carries` relates the values that the two runs bind.
- `Binding.Simulates` says that a second step follows a first one.

Main results:

- `Expr.simulates_scalar` and `Condition.simulates_predicate`: the rendering of an
  expression and of a condition is followed by that of the other one.
-/

namespace SqlScribe

/-! ## Corresponding values and texts -/

namespace Substitution

variable (σ : Substitution)

/-- A value that is bound in the place of another one: the other constant, or the
escaped text of the other one where a text is escaped. -/
inductive Carries : Value → Value → Prop where
  | constant (value : Value) : Carries value (σ.value value)
  | escaped {text other : String} (htext : σ.value (.text text) = .text other) :
    Carries (.text (Pattern.escape text)) (.text (Pattern.escape other))

/-- A piece with another name. -/
def piece : Sql.Piece → Sql.Piece
  | .name text => .name (σ.name text)
  | piece => piece

/-- Pieces that stand in the place of others. -/
def Spells (pieces others : Sql.Pieces) : Prop := others = pieces.map σ.piece

/-- An expression in the place of another one. -/
abbrev SpellsScalar (scalar other : Sql.Scalar) : Prop := σ.Spells scalar.pieces other.pieces

/-- A condition in the place of another one. -/
abbrev SpellsPredicate (predicate other : Sql.Predicate) : Prop :=
  σ.Spells predicate.pieces other.pieces

/-- A SELECT in the place of another one. -/
abbrev SpellsSelect (select other : Sql.Select) : Prop := σ.Spells select.pieces other.pieces

/-- A further SELECT behind the same operator in the place of another one. -/
abbrev SpellsLink (link other : Sql.Link Sql.Select) : Prop :=
  link.operator = other.operator ∧ σ.SpellsSelect link.select other.select

/-- What a SELECT reads in the place of another one. -/
abbrev SpellsRelation (relation other : Sql.Relation Sql.Select) : Prop :=
  σ.Spells (Sql.relationPieces relation) (Sql.relationPieces other)

variable {σ} {a b c d : Sql.Pieces}

/-- Pieces in the place of others may stand one behind the other. -/
theorem Spells.append (hac : σ.Spells a c) (hbd : σ.Spells b d) : σ.Spells (a ++ b) (c ++ d) := by
  rw [Spells] at *
  rw [hac, hbd, List.map_append]

theorem spells_fixed (text : String) : σ.Spells (Sql.fixed text) (Sql.fixed text) := rfl

/-- Pieces with a separator between them stand in the place of others. -/
theorem Spells.join {separator : String} {texts others : List Sql.Pieces}
    (htexts : List.Forall₂ σ.Spells texts others) :
    σ.Spells (Sql.Pieces.join separator texts) (Sql.Pieces.join separator others) := by
  induction htexts with
  | nil => rfl
  | cons hfirst hrest ih =>
    cases hrest with
    | nil => exact hfirst
    | cons hnext hmore => exact hfirst.append ((spells_fixed separator).append ih)

end Substitution

/-! ## Steps that follow one another -/

namespace Binding

/-- Where the first step succeeds the second one does, with related results and
corresponding values. -/
def Simulates {α β : Type} (σ : Substitution) (related : α → β → Prop) (first : Binding α)
    (second : Binding β) : Prop :=
  ∀ ⦃values others⦄, List.Forall₂ σ.Carries values others →
    ∀ ⦃result values'⦄, first values = .ok (result, values') →
      ∃ other others', second others = .ok (other, others') ∧
        List.Forall₂ σ.Carries values' others' ∧ related result other

variable {α β γ δ : Type} {σ : Substitution} {related : α → β → Prop}

theorem Simulates.pure {a : α} {b : β} (hrelated : related a b) :
    Simulates σ related (Pure.pure a) (Pure.pure b) := by
  intro values others hvalues result values' hresult
  simp only [run_pure, Except.ok.injEq, Prod.mk.injEq] at hresult
  obtain ⟨rfl, rfl⟩ := hresult
  exact ⟨b, others, rfl, hvalues, hrelated⟩

/-- A step that never succeeds is simulated by every other one. -/
theorem Simulates.fail {reason : RenderError} {second : Binding β} :
    Simulates σ related (Binding.fail reason) second := by
  intro values others _ result values' hresult
  simp at hresult

/-- Two steps follow two others one by one. -/
theorem Simulates.seq {after : γ → δ → Prop} {first : Binding α} {second : Binding β}
    {next : α → Binding γ} {other : β → Binding δ} (hfirst : Simulates σ related first second)
    (hnext : ∀ a b, related a b → Simulates σ after (next a) (other b)) :
    Simulates σ after (first >>= next) (second >>= other) := by
  intro values others hvalues result values' hresult
  obtain ⟨a, between, ha, hresult⟩ := run_seq_eq_ok.mp hresult
  obtain ⟨b, between', hb, hbetween, hrelated⟩ := hfirst hvalues ha
  obtain ⟨result', others', hresult', hothers, hafter⟩ := hnext a b hrelated hbetween hresult
  exact ⟨result', others', run_seq_eq_ok.mpr ⟨b, between', hb, hresult'⟩, hothers, hafter⟩

/-- A check is simulated by one that is passed where it is. -/
theorem Simulates.check {first second : Except RenderError Unit}
    (hok : first = .ok () → second = .ok ()) :
    Simulates σ (fun _ _ => True) (Binding.check first) (Binding.check second) := by
  intro values others hvalues result values' hresult
  obtain ⟨hfirst, rfl⟩ := run_check_eq_ok.mp hresult
  exact ⟨(), others, run_check_eq_ok.mpr ⟨hok hfirst, rfl⟩, hvalues, trivial⟩

theorem Simulates.optional {first : γ → Binding α} {second : δ → Binding β} {other : γ → δ}
    (hpart : ∀ part, Simulates σ related (first part) (second (other part))) (part : Option γ) :
    Simulates σ (Option.Rel related) (Binding.optional first part)
      (Binding.optional second (part.map other)) := by
  cases part with
  | none => exact .pure .none
  | some part =>
    apply (hpart part).seq
    intro a b hrelated
    exact .pure (.some hrelated)

/-- Parts are simulated one by one. -/
theorem Simulates.mapM {first : γ → Binding α} {second : δ → Binding β} {other : γ → δ}
    (hpart : ∀ part, Simulates σ related (first part) (second (other part)))
    (parts : List γ) :
    Simulates σ (List.Forall₂ related) (parts.mapM first) ((parts.map other).mapM second) := by
  induction parts with
  | nil =>
    simp only [List.map_nil, List.mapM_nil]
    exact .pure .nil
  | cons part rest ih =>
    simp only [List.map_cons, List.mapM_cons]
    apply (hpart part).seq
    intro a b hrelated
    apply ih.seq
    intro as bs hrest
    exact .pure (.cons hrelated hrest)

/-- A value is bound under the same placeholder as the one that it stands for. -/
theorem simulates_bind {value other : Value} (hcarries : σ.Carries value other) :
    Simulates σ σ.SpellsScalar (bind value) (bind other) := by
  intro values others hvalues result values' hresult
  simp only [run_bind, Except.ok.injEq, Prod.mk.injEq] at hresult
  obtain ⟨rfl, rfl⟩ := hresult
  refine ⟨.parameter others.length, others ++ [other], rfl, ?_, ?_⟩
  · exact List.rel_append hvalues (.cons hcarries .nil)
  · rw [hvalues.length_eq]
    rfl

end Binding

/-! ## Texts of expressions -/

open Binding Sql

namespace Substitution

variable {σ : Substitution} {scalars others : List Scalar}

/-- Arguments stand in the place of others one by one. -/
theorem spells_moreArgumentPieces (hscalars : List.Forall₂ σ.SpellsScalar scalars others) :
    σ.Spells (moreArgumentPieces scalars) (moreArgumentPieces others) := by
  induction hscalars with
  | nil => rfl
  | cons hscalar _ ih => exact (Spells.append rfl hscalar).append ih

theorem spells_argumentPieces (hscalars : List.Forall₂ σ.SpellsScalar scalars others) :
    σ.Spells (argumentPieces scalars) (argumentPieces others) := by
  cases hscalars with
  | nil => rfl
  | cons hscalar hrest => exact hscalar.append (spells_moreArgumentPieces hrest)

theorem spells_call {function : Sql.Function}
    (hscalars : List.Forall₂ σ.SpellsScalar scalars others) :
    σ.SpellsScalar (.call function scalars) (.call function others) :=
  (Spells.append rfl (spells_argumentPieces hscalars)).append rfl

/-- Escaping goes with what is escaped. -/
theorem spells_escapeScalar {term other : Scalar} (hterm : σ.SpellsScalar term other) :
    σ.SpellsScalar (Pattern.escapeScalar term) (Pattern.escapeScalar other) := by
  have hreplace : ∀ (sought written : String) {a b : Scalar}, σ.SpellsScalar a b →
      σ.SpellsScalar (.call .replace [a, .text sought, .text written])
        (.call .replace [b, .text sought, .text written]) :=
    fun _ _ _ _ hab => spells_call (.cons hab (.cons rfl (.cons rfl .nil)))
  exact hreplace _ _ (hreplace _ _ (hreplace _ _ hterm))

theorem spells_inPlace (place : SearchPlace) {term other : Scalar}
    (hterm : σ.SpellsScalar term other) :
    σ.SpellsScalar (Pattern.inPlace place term) (Pattern.inPlace place other) := by
  have hplus : ∀ {a b c d : Scalar}, σ.SpellsScalar a c → σ.SpellsScalar b d →
      σ.SpellsScalar (.plus a b) (.plus c d) :=
    fun hac hbd => (hac.append rfl).append hbd
  cases place with
  | start => exact hplus hterm rfl
  | finish => exact hplus rfl hterm
  | anywhere => exact hplus (hplus rfl hterm) rfl

theorem spells_flag {predicate other : Predicate}
    (hpredicate : σ.SpellsPredicate predicate other) :
    σ.SpellsScalar (.flag predicate) (.flag other) :=
  (Spells.append rfl hpredicate).append rfl

end Substitution

/-! ## Expressions -/

namespace Expr

open Substitution

variable {σ : Substitution}

/-- A pattern is simulated, whether its term is escaped before it is bound or by the server. -/
theorem simulates_pattern (hσ : σ.Lawful) (term : Expr) {first second : Binding Scalar}
    (hterm : Simulates σ σ.SpellsScalar first second) :
    Simulates σ σ.SpellsScalar (pattern term first) (pattern (term.substitute σ) second) := by
  have hother : (∀ text, term ≠ .value (.text text)) →
      (∀ text, term.substitute σ ≠ .value (.text text)) →
      Simulates σ σ.SpellsScalar (pattern term first) (pattern (term.substitute σ) second) := by
    intro hne hne'
    have hrun : ∀ (expr : Expr) (scalar : Binding Scalar),
        (∀ text, expr ≠ .value (.text text)) →
        pattern expr scalar = scalar >>= fun scalar => pure (Pattern.escapeScalar scalar) := by
      intro expr scalar hexpr
      unfold pattern
      split
      · rename_i text
        exact absurd rfl (hexpr text)
      · rfl
    rw [hrun _ _ hne, hrun _ _ hne']
    exact hterm.seq fun _ _ hrelated => .pure (spells_escapeScalar hrelated)
  cases term with
  | value constant =>
    cases constant with
    | text text =>
      obtain ⟨other, htext⟩ := hσ.text text
      simp only [substitute, htext, pattern]
      exact simulates_bind (.escaped htext)
    | null | bool _ | int _ | float _ | blob _ | guid _ | dateTime _ =>
      apply hother
      · simp
      · intro text
        simp only [substitute, ne_eq, Expr.value.injEq]
        exact hσ.ne_text (by simp) text
  | _ =>
    apply hother
    · simp
    · simp [substitute]

theorem simulates_variadic (function : Sql.Function) {scalars others : List Scalar}
    (hscalars : List.Forall₂ σ.SpellsScalar scalars others) :
    Simulates σ σ.SpellsScalar (variadic function scalars) (variadic function others) := by
  cases hscalars with
  | nil => exact .fail
  | cons hscalar hrest =>
    cases hrest with
    | nil => exact .pure hscalar
    | cons hnext hmore => exact .pure (spells_call (.cons hscalar (.cons hnext hmore)))

/-- A search is simulated if its text and its pattern are. -/
theorem simulates_searchPredicate (place : SearchPlace)
    {text pattern text' pattern' : Binding Scalar}
    (htext : Simulates σ σ.SpellsScalar text text')
    (hpattern : Simulates σ σ.SpellsScalar pattern pattern') :
    Simulates σ σ.SpellsPredicate (searchPredicate place text pattern)
      (searchPredicate place text' pattern') := by
  apply htext.seq
  intro a b hab
  apply hpattern.seq
  intro c d hcd
  exact .pure ((hab.append rfl).append (spells_inPlace place hcd))

/-- A membership is simulated if its operand and its values are. -/
theorem simulates_amongPredicate {operand operand' : Binding Scalar}
    {values values' : Binding (List Scalar)} (noValues : Bool)
    (hoperand : Simulates σ σ.SpellsScalar operand operand')
    (hvalues : Simulates σ (List.Forall₂ σ.SpellsScalar) values values') :
    Simulates σ σ.SpellsPredicate (amongPredicate operand values noValues)
      (amongPredicate operand' values' noValues) := by
  cases noValues with
  | true => exact .pure rfl
  | false =>
    apply hoperand.seq
    intro a b hab
    apply hvalues.seq
    intro as bs hvalues
    exact .pure (((hab.append rfl).append (spells_argumentPieces hvalues)).append rfl)

/-- A constant other than the missing value is bound. -/
theorem scalar_value {constant : Value} (hconstant : constant ≠ .null) :
    (Expr.value constant).scalar = Binding.bind constant := by
  cases constant <;> first | rfl | contradiction

mutual

/-- An expression is rendered in the place of another one. -/
theorem simulates_scalar (hσ : σ.Lawful) :
    ∀ expr : Expr, Simulates σ σ.SpellsScalar expr.scalar (expr.substitute σ).scalar
  | .field name => .pure rfl
  | .value constant => by
    by_cases hconstant : constant = .null
    · subst hconstant
      rw [substitute, hσ.null]
      exact .pure rfl
    · rw [substitute, scalar_value hconstant, scalar_value (hσ.ne_null hconstant)]
      exact simulates_bind (.constant constant)
  | .upper text | .lower text | .length text => by
    apply (simulates_scalar hσ text).seq
    intro a b hab
    exact .pure (spells_call (.cons hab .nil))
  | .trim text => by
    apply (simulates_scalar hσ text).seq
    intro a b hab
    exact .pure (spells_call (.cons (spells_call (.cons hab .nil)) .nil))
  | .substring text start count => by
    apply (simulates_scalar hσ text).seq
    intro a b hab
    apply (simulates_scalar hσ start).seq
    intro c d hcd
    apply (simulates_scalarOption hσ count).seq
    intro e f hef
    have hcount : σ.SpellsScalar (e.getD (.call .length [a])) (f.getD (.call .length [b])) := by
      cases hef with
      | none => exact spells_call (.cons hab .nil)
      | some hcount => exact hcount
    exact .pure (spells_call (.cons hab (.cons ((hcd.append rfl).append rfl) (.cons hcount .nil))))
  | .replace text term replacement => by
    apply (simulates_scalar hσ text).seq
    intro a b hab
    apply (simulates_scalar hσ term).seq
    intro c d hcd
    apply (simulates_scalar hσ replacement).seq
    intro e f hef
    exact .pure (spells_call (.cons hab (.cons hcd (.cons hef .nil))))
  | .indexOf text term => by
    apply (simulates_scalar hσ text).seq
    intro a b hab
    apply (simulates_scalar hσ term).seq
    intro c d hcd
    have hposition : σ.SpellsScalar (.call .position [c, a]) (.call .position [d, b]) :=
      spells_call (.cons hcd (.cons hab .nil))
    apply Simulates.pure
    exact (((Spells.append rfl hposition).append rfl).append rfl).append rfl
  | .concat parts => by
    apply (simulates_scalars hσ parts).seq
    intro as bs hparts
    exact simulates_variadic .concat hparts
  | .coalesce parts => by
    apply (simulates_scalars hσ parts).seq
    intro as bs hparts
    exact simulates_variadic .coalesce hparts
  | .convert operand type => by
    apply (simulates_scalar hσ operand).seq
    intro a b hab
    exact .pure ((Spells.append rfl hab).append rfl)
  | .search place text term => by
    have hterm := simulates_pattern hσ term (simulates_scalar hσ term)
    apply (simulates_searchPredicate place (simulates_scalar hσ text) hterm).seq
    intro a b hab
    exact .pure (spells_flag hab)
  | .among operand values => by
    simp only [substitute, scalar, isEmpty_substituteList]
    apply (simulates_amongPredicate values.isEmpty (simulates_scalar hσ operand)
      (simulates_scalars hσ values)).seq
    intro a b hab
    exact .pure (spells_flag hab)

theorem simulates_scalarOption (hσ : σ.Lawful) :
    ∀ expr : Option Expr, Simulates σ (Option.Rel σ.SpellsScalar) (scalarOption expr)
      (scalarOption (substituteOption σ expr))
  | none => .pure .none
  | some expr => by
    apply (simulates_scalar hσ expr).seq
    intro a b hab
    exact .pure (.some hab)

theorem simulates_scalars (hσ : σ.Lawful) :
    ∀ exprs : List Expr, Simulates σ (List.Forall₂ σ.SpellsScalar) (scalars exprs)
      (scalars (substituteList σ exprs))
  | [] => .pure .nil
  | expr :: rest => by
    apply (simulates_scalar hσ expr).seq
    intro a b hab
    apply (simulates_scalars hσ rest).seq
    intro as bs hrest
    exact .pure (.cons hab hrest)

end

/-- A condition that is a single expression is rendered in the place of another one. -/
theorem simulates_predicate (hσ : σ.Lawful) (expr : Expr) :
    Simulates σ σ.SpellsPredicate expr.predicate (expr.substitute σ).predicate := by
  cases expr with
  | field name => exact .pure rfl
  | value constant =>
    cases constant with
    | bool holds =>
      rw [substitute, hσ.bool]
      cases holds <;> exact .pure rfl
    | _ => exact .fail
  | search place text term =>
    exact simulates_searchPredicate place (simulates_scalar hσ text)
      (simulates_pattern hσ term (simulates_scalar hσ term))
  | among operand values =>
    simp only [substitute, predicate, isEmpty_substituteList]
    exact simulates_amongPredicate values.isEmpty (simulates_scalar hσ operand)
      (simulates_scalars hσ values)
  | _ => exact .fail

end Expr

/-! ## Conditions -/

namespace Condition

open Substitution

variable {σ : Substitution}

theorem isNullValue_value {constant : Value} (hconstant : constant ≠ .null) :
    isNullValue (.value constant) = false := by
  cases constant <;> first | rfl | contradiction

/-- No other constant stands in the place of the missing value or becomes it. -/
theorem isNullValue_substitute (hσ : σ.Lawful) (expr : Expr) :
    isNullValue (expr.substitute σ) = isNullValue expr := by
  cases expr with
  | value constant =>
    by_cases hconstant : constant = .null
    · rw [hconstant, Expr.substitute, hσ.null]
    · rw [Expr.substitute, isNullValue_value hconstant, isNullValue_value (hσ.ne_null hconstant)]
  | _ => rfl

theorem besideNull?_substitute (hσ : σ.Lawful) (left right : Expr) :
    besideNull? (left.substitute σ) (right.substitute σ) =
      (besideNull? left right).map (·.substitute σ) := by
  simp only [besideNull?, isNullValue_substitute hσ]
  split
  · rfl
  · split <;> rfl

/-- A comparison with the missing value is simulated. -/
theorem simulates_nullPredicate (hσ : σ.Lawful) (comparison : Comparison) (operand : Expr) :
    Simulates σ σ.SpellsPredicate (nullPredicate comparison operand)
      (nullPredicate comparison (operand.substitute σ)) := by
  cases comparison with
  | equal | notEqual =>
    apply (Expr.simulates_scalar hσ operand).seq
    intro a b hab
    exact .pure (hab.append rfl)
  | _ => exact .fail

/-- A condition is rendered in the place of another one. -/
theorem simulates_predicate (hσ : σ.Lawful) (condition : Condition) :
    Simulates σ σ.SpellsPredicate condition.predicate (condition.substitute σ).predicate := by
  induction condition with
  | compare comparison left right =>
    simp only [substitute, predicate, besideNull?_substitute hσ]
    cases besideNull? left right with
    | some operand => exact simulates_nullPredicate hσ comparison operand
    | none =>
      apply (Expr.simulates_scalar hσ left).seq
      intro a b hab
      apply (Expr.simulates_scalar hσ right).seq
      intro c d hcd
      exact .pure ((hab.append rfl).append hcd)
  | and left right ihleft ihright | or left right ihleft ihright =>
    apply ihleft.seq
    intro a b hab
    apply ihright.seq
    intro c d hcd
    exact .pure ((((Spells.append rfl hab).append rfl).append hcd).append rfl)
  | not operand ih =>
    apply ih.seq
    intro a b hab
    exact .pure ((Spells.append rfl hab).append rfl)
  | holds expr => exact Expr.simulates_predicate hσ expr

end Condition

end SqlScribe
