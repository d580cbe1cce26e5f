import SqlScribe.Condition.Predicate
import SqlScribe.Proofs.Rendering.Placeholders

/-!
# Placeholders of expressions

The placeholders in the text of an expression are exactly those of the values that it
binds.  They stand in the order of binding, except where the position of a term in a
text is asked for: the text is rendered first, but the term is written first.

Main definitions:

- `Expr.constants` and `Condition.constants` are the values that rendering binds.
- `Expr.bindsInOrder` and `Condition.bindsInOrder` tell the trees whose placeholders
  first occur in the order of binding.

Main results:

- `Expr.spans_scalar` and `Condition.spans_predicate`: the placeholders of a rendered
  tree are those of the values that it binds, and exactly these trees have them in order.
-/

namespace SqlScribe

/-! ## Patterns -/

namespace Sql

/-- Escaping a text brings no placeholders. -/
@[simp] theorem indices_escapeScalar (term : Scalar) :
    (Pattern.escapeScalar term).indices = term.indices := by
  simp [Pattern.escapeScalar, Pattern.wildcards, Scalar.indices, Scalar.pieces]

/-- What stands around a term in a pattern brings no placeholders. -/
@[simp] theorem indices_inPlace (place : SearchPlace) (term : Scalar) :
    (Pattern.inPlace place term).indices = term.indices := by
  cases place <;> simp [Pattern.inPlace, Scalar.indices, Scalar.pieces]

end Sql

/-! ## The values that a tree binds -/

namespace Expr

/-- The values that a search term binds, given those that it binds otherwise: a constant
text is escaped. -/
def soughtConstants (term : Expr) (constants : List Value) : List Value :=
  match term with
  | .value (.text text) => [.text (Pattern.escape text)]
  | _ => constants

mutual

/-- The values that an expression binds, one after the other. -/
def constants : Expr → List Value
  | .field _ | .value .null => []
  | .value constant => [constant]
  | .upper text | .lower text | .trim text | .length text => text.constants
  | .substring text start count => text.constants ++ (start.constants ++ constantsOption count)
  | .replace text term replacement =>
    text.constants ++ (term.constants ++ replacement.constants)
  | .indexOf text term => text.constants ++ term.constants
  | .concat parts | .coalesce parts => constantsList parts
  | .convert operand _ => operand.constants
  | .search _ text term => text.constants ++ soughtConstants term term.constants
  | .among operand values =>
    if values.isEmpty then [] else operand.constants ++ constantsList values

/-- The values that an expression binds, if it is there. -/
def constantsOption : Option Expr → List Value
  | none => []
  | some expr => expr.constants

/-- The values that several expressions bind. -/
def constantsList : List Expr → List Value
  | [] => []
  | expr :: rest => expr.constants ++ constantsList rest

end

mutual

/-- Whether the placeholders of an expression first occur in the order of binding.  Where
a position is asked for, either the text or the term must bind nothing. -/
def bindsInOrder : Expr → Bool
  | .field _ | .value _ => true
  | .upper text | .lower text | .trim text | .length text => text.bindsInOrder
  | .substring text start count =>
    text.bindsInOrder && start.bindsInOrder && bindInOrderOption count
  | .replace text term replacement =>
    text.bindsInOrder && term.bindsInOrder && replacement.bindsInOrder
  | .indexOf text term =>
    text.bindsInOrder && term.bindsInOrder &&
      (text.constants.isEmpty || term.constants.isEmpty)
  | .concat parts | .coalesce parts => bindInOrder parts
  | .convert operand _ => operand.bindsInOrder
  | .search _ text term => text.bindsInOrder && term.bindsInOrder
  | .among operand values => values.isEmpty || (operand.bindsInOrder && bindInOrder values)

/-- The same for an expression, if it is there. -/
def bindInOrderOption : Option Expr → Bool
  | none => true
  | some expr => expr.bindsInOrder

/-- The same for several expressions. -/
def bindInOrder : List Expr → Bool
  | [] => true
  | expr :: rest => expr.bindsInOrder && bindInOrder rest

end

/-! ## Values -/

open Binding Sql

/-- A function of any number of arguments has the placeholders of these. -/
theorem spans_variadic {before : List Nat} (function : Sql.Function) (arguments : List Scalar)
    (hbefore : arguments.flatMap Scalar.indices = before) :
    Spans before Scalar.indices [] True (variadic function arguments) := by
  subst hbefore
  cases arguments with
  | nil => exact spans_fail _
  | cons argument rest =>
    cases rest with
    | nil => exact spans_pure (by simp)
    | cons next more => exact spans_pure (by simp)

/-- A function of expressions binds the constants of these. -/
theorem spans_scalars_variadic {p : Prop} {constants : List Value} {scalars : Binding (List Scalar)}
    (function : Sql.Function)
    (hscalars : Spans [] (fun scalars => scalars.flatMap Scalar.indices) constants p scalars) :
    Spans [] Scalar.indices constants p (scalars >>= variadic function) :=
  (hscalars.seq fun arguments => spans_variadic function arguments rfl).congr (List.append_nil _)
    (and_iff_left trivial)

/-- A pattern binds the constants of its term, escaped where the term is a text. -/
theorem spans_pattern {term : Expr} {scalar : Binding Scalar}
    (hscalar : Spans [] Scalar.indices term.constants (term.bindsInOrder = true) scalar) :
    Spans [] Scalar.indices (soughtConstants term term.constants) (term.bindsInOrder = true)
      (pattern term scalar) := by
  have hescaped : Spans [] Scalar.indices term.constants (term.bindsInOrder = true)
      (scalar >>= fun scalar => pure (Pattern.escapeScalar scalar)) :=
    hscalar.map fun scalar => by simp
  cases term with
  | value constant =>
    cases constant with
    | text text => exact (spans_bind _).congr rfl (by simp [bindsInOrder])
    | _ => exact hescaped
  | _ => exact hescaped

/-- A search binds the constants of its text and then those of its pattern. -/
theorem spans_searchPredicate (place : SearchPlace) {p q : Prop} {constants more : List Value}
    {text pattern : Binding Scalar} (htext : Spans [] Scalar.indices constants p text)
    (hpattern : Spans [] Scalar.indices more q pattern) :
    Spans [] Predicate.indices (constants ++ more) (p ∧ q) (searchPredicate place text pattern) :=
  htext.seq fun text => hpattern.map fun pattern => by
    simp [Predicate.indices, Predicate.pieces]

/-- A membership binds the constants of its operand and then those of its values, unless nothing is
listed. -/
theorem spans_amongPredicate {p q : Prop} {constants more : List Value} {operand : Binding Scalar}
    {values : Binding (List Scalar)} (hoperand : Spans [] Scalar.indices constants p operand)
    (hvalues : Spans [] (fun scalars => scalars.flatMap Scalar.indices) more q values)
    (noValues : Bool) :
    Spans [] Predicate.indices (if noValues then [] else constants ++ more)
      (noValues = true ∨ p ∧ q) (amongPredicate operand values noValues) := by
  cases noValues with
  | true => exact (spans_pure rfl).congr rfl (by simp)
  | false =>
    have hsteps : Spans [] Predicate.indices (constants ++ more) (p ∧ q)
        (amongPredicate operand values false) :=
      hoperand.seq fun operand => hvalues.map fun values => by
        simp [Predicate.indices, Predicate.pieces]
    exact hsteps.congr rfl (by simp)

/-- The text of a substring may be written twice, but only behind its first place. -/
theorem spans_substring {p q r : Prop} {constants more rest : List Value}
    {text start : Binding Scalar} {count : Binding (Option Scalar)}
    (htext : Spans [] Scalar.indices constants p text)
    (hstart : Spans [] Scalar.indices more q start)
    (hcount : Spans [] (fun count => count.toList.flatMap Scalar.indices) rest r count) :
    Spans [] Scalar.indices (constants ++ (more ++ rest)) (p ∧ q ∧ r)
      (text >>= fun text => start >>= fun start => count >>= fun count =>
        pure (.call .substring
          [text, .plus start (.number 1), count.getD (.call .length [text])])) := by
  -- Up to the text that is written again this is one part behind the other.
  have hparts : Spans [] (fun parts : Scalar × Scalar × Option Scalar =>
      parts.1.indices ++ (parts.2.1.indices ++ parts.2.2.toList.flatMap Scalar.indices))
      (constants ++ (more ++ rest)) (p ∧ q ∧ r)
      (text >>= fun text => start >>= fun start => count >>= fun count =>
        pure (text, start, count)) :=
    htext.seq fun text => hstart.seq fun start => hcount.map fun count => by simp
  intro values result values' hrun
  obtain ⟨a, _, ha, hrun⟩ := run_seq_eq_ok.mp hrun
  obtain ⟨b, _, hb, hrun⟩ := run_seq_eq_ok.mp hrun
  obtain ⟨c, _, hc, hrun⟩ := run_seq_eq_ok.mp hrun
  simp only [run_pure, Except.ok.injEq, Prod.mk.injEq] at hrun
  obtain ⟨rfl, rfl⟩ := hrun
  obtain ⟨hvalues, own, hown, hspan⟩ := hparts (run_seq_eq_ok.mpr ⟨a, _, ha,
    run_seq_eq_ok.mpr ⟨b, _, hb, run_seq_eq_ok.mpr ⟨c, _, hc, run_pure (a, b, c) _⟩⟩⟩)
  simp only [List.nil_append] at hown
  subst hown
  cases c with
  | none =>
    have hagain := hspan.again fun index (hindex : index ∈ a.indices) =>
      List.mem_append_left _ hindex
    refine ⟨hvalues, _, ?_, hagain⟩
    simp [Scalar.indices, Scalar.pieces]
  | some count =>
    refine ⟨hvalues, _, ?_, hspan⟩
    simp [Scalar.indices, Scalar.pieces]

/-- Where a position is asked for, the term is written in front of the text. -/
theorem spans_indexOf {p q : Prop} {constants more : List Value} {text term : Binding Scalar}
    (htext : Spans [] Scalar.indices constants p text)
    (hterm : Spans [] Scalar.indices more q term) :
    Spans [] Scalar.indices (constants ++ more) (p ∧ q ∧ (constants = [] ∨ more = []))
      (text >>= fun text => term >>= fun term =>
        pure (.minus (.call .position [term, text]) (.number 1))) := by
  intro values result values' hrun
  obtain ⟨text, _, hrunText, hrun⟩ := run_seq_eq_ok.mp hrun
  obtain ⟨term, _, hrunTerm, hrun⟩ := run_seq_eq_ok.mp hrun
  simp only [run_pure, Except.ok.injEq, Prod.mk.injEq] at hrun
  obtain ⟨rfl, rfl⟩ := hrun
  obtain ⟨rfl, ownText, hownText, hspanText⟩ := htext hrunText
  obtain ⟨rfl, ownTerm, hownTerm, hspanTerm⟩ := hterm hrunTerm
  rw [List.nil_append] at hownText hownTerm
  rw [List.length_append] at hspanTerm
  refine ⟨List.append_assoc .., ownTerm ++ ownText, ?_, ?_⟩
  · simp [Scalar.indices, Scalar.pieces, ← hownText, ← hownTerm]
  · rw [List.length_append]
    simpa using hspanText.swap hspanTerm

mutual

/-- The placeholders of an expression are those of the values that it binds. -/
theorem spans_scalar : ∀ expr : Expr,
    Spans [] Scalar.indices expr.constants (expr.bindsInOrder = true) expr.scalar
  | .field name => (spans_pure rfl).congr (by simp [constants]) (by simp [bindsInOrder])
  | .value constant => by
    have hinOrder : (Expr.value constant).bindsInOrder = true := by simp [bindsInOrder]
    cases constant with
    | null => exact (spans_pure rfl).congr (by simp [constants]) (by simp [hinOrder])
    | _ => exact (spans_bind _).congr (by simp [constants]) (by simp [hinOrder])
  | .upper text | .lower text | .length text | .trim text =>
    (spans_scalar text).map fun text => by simp
  | .substring text start count => by
    have hsteps := spans_substring (spans_scalar text) (spans_scalar start)
      (spans_scalarOption count)
    exact hsteps.congr rfl (by simp [bindsInOrder, and_assoc])
  | .replace text term replacement => by
    have hsteps : Spans [] Scalar.indices _ _ (Expr.replace text term replacement).scalar :=
      (spans_scalar text).seq fun text => (spans_scalar term).seq fun term =>
        (spans_scalar replacement).map fun replacement => by simp
    exact hsteps.congr rfl (by simp [bindsInOrder, and_assoc])
  | .indexOf text term => by
    have hsteps := spans_indexOf (spans_scalar text) (spans_scalar term)
    exact hsteps.congr rfl (by simp [bindsInOrder, and_assoc])
  | .concat parts => spans_scalars_variadic .concat (spans_scalars parts)
  | .coalesce parts => spans_scalars_variadic .coalesce (spans_scalars parts)
  | .convert operand type => (spans_scalar operand).map fun operand => by
    simp [Scalar.indices, Scalar.pieces]
  | .search place text term => by
    have hterm := spans_pattern (spans_scalar term)
    have hsearch := spans_searchPredicate place (spans_scalar text) hterm
    have hflag : Spans [] Scalar.indices _ _ (Expr.search place text term).scalar :=
      hsearch.map fun predicate => by simp [Scalar.indices, Scalar.pieces, Predicate.indices]
    exact hflag.congr rfl (by simp [bindsInOrder])
  | .among operand values => by
    have hamong := spans_amongPredicate (spans_scalar operand) (spans_scalars values)
      values.isEmpty
    have hflag : Spans [] Scalar.indices _ _ (Expr.among operand values).scalar :=
      hamong.map fun predicate => by simp [Scalar.indices, Scalar.pieces, Predicate.indices]
    exact hflag.congr rfl (by simp [bindsInOrder])

/-- An optional expression binds its constants, if it is there. -/
theorem spans_scalarOption : ∀ expr : Option Expr,
    Spans [] (fun scalar => scalar.toList.flatMap Scalar.indices) (constantsOption expr)
      (bindInOrderOption expr = true) (scalarOption expr)
  | none => (spans_pure rfl).congr rfl (by simp [bindInOrderOption])
  | some expr => (spans_scalar expr).map fun scalar => by simp

/-- Expressions bind their constants one after the other. -/
theorem spans_scalars : ∀ exprs : List Expr,
    Spans [] (fun scalars => scalars.flatMap Scalar.indices) (constantsList exprs)
      (bindInOrder exprs = true) (scalars exprs)
  | [] => (spans_pure rfl).congr rfl (by simp [bindInOrder])
  | expr :: rest => by
    have hsteps : Spans [] (fun scalars => scalars.flatMap Scalar.indices) _ _
        (scalars (expr :: rest)) :=
      (spans_scalar expr).seq fun scalar => (spans_scalars rest).map fun rest => by simp
    exact hsteps.congr rfl (by simp [bindInOrder])

end

/-- The placeholders of an expression that is a condition are those of the values that it
binds. -/
theorem spans_predicate (expr : Expr) :
    Spans [] Predicate.indices (if expr.isTest then expr.constants else [])
      (expr.bindsInOrder = true) expr.predicate := by
  cases expr with
  | field name => exact (spans_pure rfl).congr rfl (by simp [bindsInOrder])
  | value constant =>
    cases constant with
    | bool holds => exact (spans_pure rfl).congr rfl (by simp [bindsInOrder])
    | _ => exact spans_fail _
  | search place text term =>
    have hterm := spans_pattern (spans_scalar term)
    have hsearch := spans_searchPredicate place (spans_scalar text) hterm
    exact hsearch.congr rfl (by simp [bindsInOrder])
  | among operand values =>
    have hamong := spans_amongPredicate (spans_scalar operand) (spans_scalars values)
      values.isEmpty
    exact hamong.congr rfl (by simp [bindsInOrder])
  | _ => exact spans_fail _

end Expr

/-! ## Conditions -/

namespace Condition

open Binding Sql

/-- The values that a condition binds, one after the other.  Of a comparison with the
missing value only the other side is rendered. -/
def constants : Condition → List Value
  | .compare _ left right =>
    if isNullValue right then left.constants
    else if isNullValue left then right.constants
    else left.constants ++ right.constants
  | .and left right | .or left right => left.constants ++ right.constants
  | .not operand => operand.constants
  | .holds expr => if expr.isTest then expr.constants else []

/-- Whether the placeholders of a condition first occur in the order of binding. -/
def bindsInOrder : Condition → Bool
  | .compare _ left right =>
    if isNullValue right then left.bindsInOrder
    else if isNullValue left then right.bindsInOrder
    else left.bindsInOrder && right.bindsInOrder
  | .and left right | .or left right => left.bindsInOrder && right.bindsInOrder
  | .not operand => operand.bindsInOrder
  | .holds expr => expr.bindsInOrder

/-- A comparison with the missing value binds the constants of the other side. -/
theorem spans_nullPredicate (comparison : Comparison) (operand : Expr) :
    Spans [] Predicate.indices operand.constants (operand.bindsInOrder = true)
      (nullPredicate comparison operand) := by
  cases comparison with
  | equal | notEqual =>
    exact operand.spans_scalar.map fun operand => by simp [Predicate.indices, Predicate.pieces]
  | _ => exact spans_fail _

/-- The placeholders of a condition are those of the values that it binds. -/
theorem spans_predicate (condition : Condition) :
    Spans [] Predicate.indices condition.constants (condition.bindsInOrder = true)
      condition.predicate := by
  induction condition with
  | compare comparison left right =>
    simp only [predicate, constants, bindsInOrder, besideNull?]
    cases isNullValue right with
    | true => exact spans_nullPredicate comparison left
    | false =>
      cases isNullValue left with
      | true => exact spans_nullPredicate comparison right
      | false =>
        have hsides : Spans [] Predicate.indices _ _
            (left.scalar >>= fun left => right.scalar >>= fun right =>
              pure (Predicate.compare comparison left right)) :=
          left.spans_scalar.seq fun left => right.spans_scalar.map fun right => by
            simp [Predicate.indices, Predicate.pieces]
        exact hsides.congr rfl (by simp)
  | and left right ihleft ihright =>
    have hsides : Spans [] Predicate.indices _ _ (Condition.and left right).predicate :=
      ihleft.seq fun left => ihright.map fun right => by simp [Predicate.indices, Predicate.pieces]
    exact hsides.congr rfl (by simp [bindsInOrder])
  | or left right ihleft ihright =>
    have hsides : Spans [] Predicate.indices _ _ (Condition.or left right).predicate :=
      ihleft.seq fun left => ihright.map fun right => by simp [Predicate.indices, Predicate.pieces]
    exact hsides.congr rfl (by simp [bindsInOrder])
  | not operand ih => exact ih.map fun operand => by simp [Predicate.indices, Predicate.pieces]
  | holds expr => exact expr.spans_predicate

end Condition

end SqlScribe
