import SqlScribe.Proofs.Rendering.Acceptance

/-!
# Expressions and conditions that are refused

An expression or a condition that does not render is refused because of one of its nodes.  The
nodes are looked at in the order of evaluation, each one before its parts, and parts that do not
matter are not looked at.  The reason is that of the first node that cannot stand where it does.

Main definitions:

- `Node` is a node with the part that it plays, and `Node.refusal?` the kind of reason for which
  it is refused, whatever its own parts are.
- `Expr.evaluated` and `Condition.evaluated` are the nodes of a tree in the order of evaluation.
- `Binding.Judges` says which trees a rendering step accepts, and why it refuses the others.

Main results:

- `Expr.stops_scalar` and `Condition.stops_predicate`: a tree is refused for the reason of its
  first refused node.
- `Condition.judges_predicate_and_scalar`: the trees that render, and the reasons for the others.
-/

namespace SqlScribe

/-! ## Nodes -/

/-- A node of an expression or a condition, with the part that it plays. -/
inductive Node where
  | value (expr : Expr)
  | condition (expr : Expr)
  | compare (comparison : Comparison) (left right : Expr)

namespace Node

/-- Whether a node is a function of any number of arguments that has none.  Where a condition is
wanted it does not get so far: no function but a test is a condition, with or without arguments. -/
def isEmptyCall : Node → Bool
  | .value (.concat parts) | .value (.coalesce parts) => parts.isEmpty
  | _ => false

/-- The kind of reason for which a node is refused, whatever its own parts are.  A conversion would
be refused if its type had no physical type. -/
def refusal? : Node → Option RenderError.Kind
  | .value (.concat parts) | .value (.coalesce parts) =>
    if parts.isEmpty then some .invalidQuery else none
  | .value (.convert _ type) =>
    match PhysicalType.resolve type {} with
    | .ok _ => none
    | .error _ => some .unsupportedType
  | .value _ | .condition (.field _) | .condition (.value (.bool _)) => none
  | .condition expr => if expr.isTest then none else some .unsupportedOperator
  | .compare comparison left right =>
    if (Condition.isNullValue left || Condition.isNullValue right) && !comparison.takesNull then
      some .unsupportedOperator
    else none

/-- A refused node is a function without arguments, or an operator that does not apply. -/
theorem eq_of_refusal? {node : Node} {kind : RenderError.Kind} (hkind : node.refusal? = some kind) :
    kind = if node.isEmptyCall then .invalidQuery else .unsupportedOperator := by
  cases node with
  | compare comparison left right =>
    simp only [refusal?, Option.ite_none_right_eq_some] at hkind
    simp [isEmptyCall, ← Option.some.inj hkind.2]
  | condition expr =>
    have hoperator : kind = .unsupportedOperator := by
      unfold refusal? at hkind
      split at hkind <;> simp_all
    simp [isEmptyCall, hoperator]
  | value expr =>
    cases expr with
    | concat parts | coalesce parts =>
      simp only [refusal?, Option.ite_none_right_eq_some] at hkind
      simp [isEmptyCall, hkind.1, ← Option.some.inj hkind.2]
    | convert operand type => simp [refusal?, PhysicalType.resolve_empty] at hkind
    | _ => simp [refusal?] at hkind

end Node

mutual

/-- The nodes below an expression in the order of evaluation.  Nothing is evaluated to look for a
value among none. -/
def Expr.inside : Expr → List Node
  | .field _ | .value _ => []
  | .upper text | .lower text | .trim text | .length text => .value text :: text.inside
  | .substring text start count =>
    .value text :: text.inside ++ .value start :: start.inside ++ Expr.insideOption count
  | .replace text term replacement =>
    .value text :: text.inside ++ .value term :: term.inside ++
      .value replacement :: replacement.inside
  | .indexOf text term => .value text :: text.inside ++ .value term :: term.inside
  | .concat parts | .coalesce parts => Expr.insideAll parts
  | .convert operand _ => .value operand :: operand.inside
  | .search _ text term => .value text :: text.inside ++ .value term :: term.inside
  | .among operand values =>
    if values.isEmpty then [] else .value operand :: operand.inside ++ Expr.insideAll values

/-- The nodes of an expression that may be absent. -/
def Expr.insideOption : Option Expr → List Node
  | none => []
  | some expr => .value expr :: expr.inside

/-- The nodes of expressions from left to right. -/
def Expr.insideAll : List Expr → List Node
  | [] => []
  | expr :: rest => .value expr :: expr.inside ++ Expr.insideAll rest

end

/-- The nodes of a value in the order of evaluation. -/
def Expr.evaluated (expr : Expr) : List Node := .value expr :: expr.inside

/-- The nodes of a condition in the order of evaluation.  Of a comparison with the missing value
only the other side is evaluated, the left one if both sides are missing. -/
def Condition.evaluated : Condition → List Node
  | .compare comparison left right =>
    .compare comparison left right ::
      if isNullValue right then left.evaluated
      else if isNullValue left then right.evaluated
      else left.evaluated ++ right.evaluated
  | .and left right | .or left right => left.evaluated ++ right.evaluated
  | .not operand => operand.evaluated
  | .holds expr => .condition expr :: expr.inside

/-- The kind of reason for which the first refused node is refused. -/
def Node.firstRefusal (nodes : List Node) : Option RenderError.Kind := nodes.findSome? refusal?

/-- The first refusal of two lists is that of the first one, if it has any. -/
@[simp]
theorem Node.firstRefusal_append (a b : List Node) :
    firstRefusal (a ++ b) = (firstRefusal a).or (firstRefusal b) := List.findSome?_append

/-- A node that is not refused leaves it to the nodes behind it. -/
theorem Node.firstRefusal_cons {node : Node} {nodes : List Node} (hnode : node.refusal? = none) :
    firstRefusal (node :: nodes) = firstRefusal nodes := by
  simp [firstRefusal, hnode]

/-! ## Steps that stop -/

namespace Binding

variable {α β : Type} {kind further : Option RenderError.Kind}

/-- A step stops with a kind of reason, whatever values are bound before, or does not stop. -/
def Stops (kind : Option RenderError.Kind) (step : Binding α) : Prop :=
  ∀ values, match step values with
    | .ok _ => kind = none
    | .error reason => kind = some reason.kind

theorem Stops.congr {step : Binding α} (hstep : Stops kind step) (heq : kind = further) :
    Stops further step :=
  heq ▸ hstep

theorem stops_pure (result : α) : Stops none (pure result : Binding α) := fun _ => rfl

theorem stops_fail (reason : RenderError) :
    Stops (some reason.kind) (fail reason : Binding α) := fun _ => rfl

/-- Binding a value never stops. -/
theorem stops_bind (value : Value) : Stops none (bind value) := fun _ => rfl

/-- Of two steps the first one decides, and if it does not stop the second one, which may depend
on what the first one is known to result in. -/
theorem Stops.seq_of {first : Binding α} {next : α → Binding β} {known : α → Prop}
    (hfirst : Stops kind first)
    (hknown : ∀ values result values', first values = .ok (result, values') → known result)
    (hnext : ∀ result, known result → Stops further (next result)) :
    Stops (kind.or further) (first >>= next) := by
  intro values
  have hstep := hfirst values
  cases hrun : first values with
  | error reason =>
    rw [hrun] at hstep
    rw [run_seq_of_error hrun]
    simp [show kind = some reason.kind from hstep]
  | ok done =>
    obtain ⟨result, values'⟩ := done
    rw [hrun] at hstep
    rw [run_seq_of_ok hrun, show kind = none from hstep, Option.none_or]
    exact hnext result (hknown values result values' hrun) values'

/-- Steps one after the other stop where the first of them does. -/
theorem Stops.seq {first : Binding α} {next : α → Binding β} (hfirst : Stops kind first)
    (hnext : ∀ result, Stops further (next result)) :
    Stops (kind.or further) (first >>= next) :=
  hfirst.seq_of (fun _ _ _ _ => trivial) fun result (_ : True) => hnext result

/-- A step whose result is only put together stops with the step before it. -/
theorem Stops.map {first : Binding α} (hfirst : Stops kind first) (result : α → β) :
    Stops kind (first >>= fun part => pure (result part)) := by
  rw [← Option.or_none (o := kind)]
  exact hfirst.seq fun part => stops_pure (result part)

end Binding

/-! ## Values -/

namespace Expr

open Binding Sql Node

/-- With a value that may stand where it does the parts decide. -/
theorem stops_of_inside {expr : Expr} {step : Binding Scalar}
    (hexpr : (Node.value expr).refusal? = none) (hinside : Stops (firstRefusal expr.inside) step) :
    Stops (firstRefusal expr.evaluated) step :=
  hinside.congr (firstRefusal_cons hexpr).symm

/-- A pattern stops where its term does. -/
theorem stops_pattern {term : Expr} {scalar : Binding Scalar}
    (hscalar : Stops (firstRefusal term.evaluated) scalar) :
    Stops (firstRefusal term.evaluated) (pattern term scalar) := by
  unfold pattern
  split
  · exact stops_bind _
  · exact hscalar.map _

/-- A search stops with the searched text, or with the term. -/
theorem stops_searchPredicate (place : SearchPlace) {text term : Expr}
    (htext : Stops (firstRefusal text.evaluated) text.scalar)
    (hterm : Stops (firstRefusal term.evaluated) term.scalar) :
    Stops (firstRefusal (Expr.search place text term).inside)
      (searchPredicate place text.scalar (pattern term term.scalar)) :=
  (htext.seq fun _ => (stops_pattern hterm).map _).congr (firstRefusal_append _ _).symm

/-- A test whether a value is among others stops with them, if there are any. -/
theorem stops_amongPredicate {operand : Expr} {values : List Expr}
    (hoperand : Stops (firstRefusal operand.evaluated) operand.scalar)
    (hvalues : Stops (firstRefusal (insideAll values)) (scalars values)) :
    Stops (firstRefusal (operand.among values).inside)
      (amongPredicate operand.scalar (scalars values) values.isEmpty) := by
  cases values with
  | nil => exact stops_pure _
  | cons value rest =>
    have hboth := hoperand.seq fun operand => hvalues.map (Predicate.among operand)
    exact hboth.congr (firstRefusal_append _ _).symm

/-- A function of any number of arguments stops for having none, or with its arguments. -/
theorem stops_scalars_variadic {parts : List Expr} {node : Node} (function : Sql.Function)
    (hnode : node.refusal? = if parts.isEmpty then some .invalidQuery else none)
    (hparts : Stops (firstRefusal (insideAll parts)) (scalars parts)) :
    Stops (firstRefusal (node :: insideAll parts)) (scalars parts >>= variadic function) := by
  cases parts with
  | nil =>
    have hkind : firstRefusal (node :: insideAll []) = some .invalidQuery := by
      simp [firstRefusal, hnode]
    exact (stops_fail (.noArguments function.name)).congr hkind.symm
  | cons part rest =>
    have hnext : ∀ arguments : List Scalar, arguments.length = rest.length + 1 →
        Stops none (variadic function arguments) := by
      intro arguments hlength
      match arguments, hlength with
      | [argument], _ => exact stops_pure argument
      | _ :: _ :: _, _ => exact stops_pure _
    have hboth := hparts.seq_of (fun _ _ _ hrun => length_of_scalars hrun) hnext
    rw [Option.or_none] at hboth
    exact hboth.congr (firstRefusal_cons hnode).symm

mutual

/-- A value is refused for the reason of its first refused node. -/
theorem stops_scalar : ∀ expr : Expr, Stops (firstRefusal expr.evaluated) expr.scalar
  | .field name => stops_pure _
  | .value constant => by
    cases constant with
    | null => exact stops_pure _
    | _ => exact stops_bind _
  | .upper text | .lower text | .trim text | .length text => (stops_scalar text).map _
  | .substring text start count => by
    have hsteps := (stops_scalar text).seq fun text =>
      (stops_scalar start).seq fun start => (stops_scalarOption count).map fun count =>
        Scalar.call .substring [text, .plus start (.number 1), count.getD (.call .length [text])]
    refine stops_of_inside rfl (hsteps.congr ?_)
    simp only [evaluated, inside, firstRefusal_append, Option.or_assoc]
  | .replace text term replacement => by
    have hsteps := (stops_scalar text).seq fun text =>
      (stops_scalar term).seq fun term => (stops_scalar replacement).map fun replacement =>
        Scalar.call .replace [text, term, replacement]
    refine stops_of_inside rfl (hsteps.congr ?_)
    simp only [evaluated, inside, firstRefusal_append, Option.or_assoc]
  | .indexOf text term => by
    have hsteps := (stops_scalar text).seq fun text => (stops_scalar term).map fun term =>
      Scalar.minus (.call .position [term, text]) (.number 1)
    refine stops_of_inside rfl (hsteps.congr ?_)
    simp only [evaluated, inside, firstRefusal_append]
  | .concat parts => stops_scalars_variadic .concat rfl (stops_scalars parts)
  | .coalesce parts => stops_scalars_variadic .coalesce rfl (stops_scalars parts)
  | .convert operand type => by
    have hexpr : (Node.value (.convert operand type)).refusal? = none := by
      simp [refusal?, PhysicalType.resolve_empty]
    exact stops_of_inside hexpr ((stops_scalar operand).map _)
  | .search place text term => by
    have hsearch := stops_searchPredicate place (stops_scalar text) (stops_scalar term)
    exact stops_of_inside rfl (hsearch.map Scalar.flag)
  | .among operand values => by
    have hamong := stops_amongPredicate (stops_scalar operand) (stops_scalars values)
    exact stops_of_inside rfl (hamong.map Scalar.flag)

/-- An optional expression stops where the expression does, if it is there. -/
theorem stops_scalarOption :
    ∀ expr : Option Expr, Stops (firstRefusal (insideOption expr)) (scalarOption expr)
  | none => stops_pure _
  | some expr => (stops_scalar expr).map _

/-- Expressions stop at the first one that does. -/
theorem stops_scalars :
    ∀ exprs : List Expr, Stops (firstRefusal (insideAll exprs)) (scalars exprs)
  | [] => stops_pure _
  | expr :: rest => by
    have hsteps := (stops_scalar expr).seq fun scalar => (stops_scalars rest).map (scalar :: ·)
    exact hsteps.congr (firstRefusal_append _ _).symm

end

/-! ## Conditions -/

/-- An expression where a condition is wanted is refused for the reason of its first refused
node. -/
theorem stops_predicate (expr : Expr) :
    Stops (firstRefusal (.condition expr :: expr.inside)) expr.predicate := by
  cases expr with
  | field name => exact stops_pure _
  | value constant =>
    cases constant with
    | bool holds => exact stops_pure _
    | _ => exact stops_fail (.constantAsCondition _)
  | search place text term =>
    have hsearch := stops_searchPredicate place text.stops_scalar term.stops_scalar
    exact hsearch.congr (firstRefusal_cons rfl).symm
  | among operand values =>
    have hamong := stops_amongPredicate operand.stops_scalar (stops_scalars values)
    exact hamong.congr (firstRefusal_cons rfl).symm
  | _ => exact stops_fail (.functionAsCondition _)

end Expr

namespace Condition

open Binding Sql Node

/-- A comparison with the missing value stops for its operator, or with the other side. -/
theorem stops_nullPredicate (comparison : Comparison) (operand : Expr) {node : Node}
    (hnode : node.refusal? = if !comparison.takesNull then some .unsupportedOperator else none) :
    Stops (firstRefusal (node :: operand.evaluated)) (nullPredicate comparison operand) := by
  have hrefused (hnull : comparison.takesNull = false) :
      firstRefusal (node :: operand.evaluated) = some .unsupportedOperator := by
    simp [firstRefusal, hnode, hnull]
  cases comparison with
  | equal | notEqual => exact (operand.stops_scalar.map _).congr (firstRefusal_cons hnode).symm
  | _ => exact (stops_fail (.nullComparison _)).congr (hrefused rfl).symm

/-- A condition is refused for the reason of its first refused node. -/
theorem stops_predicate (condition : Condition) :
    Stops (firstRefusal condition.evaluated) condition.predicate := by
  induction condition with
  | compare comparison left right =>
    simp only [predicate, evaluated, besideNull?]
    cases hright : isNullValue right with
    | true => exact stops_nullPredicate comparison left (by simp [refusal?, hright])
    | false =>
      cases hleft : isNullValue left with
      | true => exact stops_nullPredicate comparison right (by simp [refusal?, hleft])
      | false =>
        have hsides := left.stops_scalar.seq fun left =>
          right.stops_scalar.map fun right => Predicate.compare comparison left right
        have hnode : (Node.compare comparison left right).refusal? = none := by
          simp [refusal?, hleft, hright]
        exact hsides.congr (by simp [firstRefusal_cons hnode])
  | and left right ihleft ihright | or left right ihleft ihright =>
    exact (ihleft.seq fun _ => ihright.map _).congr (by simp [evaluated])
  | not operand ih => exact ih.map _
  | holds expr => exact expr.stops_predicate

end Condition

/-! ## Acceptance and refusal together -/

/-- A step succeeds exactly under a condition, whatever values are bound before.  Otherwise it
stops at the first of its nodes that is refused: with the reason of a call without arguments, if
that is what the node is, and else because the operator does not apply. -/
structure Binding.Judges {α : Type} (accepted : Prop) (nodes : List Node) (step : Binding α) :
    Prop where
  accepts : step.Accepts accepted
  refuses : ∀ values reason, step values = .error reason →
    ∃ before node after, nodes = before ++ node :: after ∧
      (∀ earlier ∈ before, earlier.refusal? = none) ∧ node.refusal? = some reason.kind ∧
      reason.kind = if node.isEmptyCall then .invalidQuery else .unsupportedOperator
  /-- A conversion never lacks a type on the server. -/
  kind_ne_unsupportedType :
    ∀ values reason, step values = .error reason → reason.kind ≠ .unsupportedType

namespace Binding

variable {α : Type} {nodes : List Node} {step : Binding α}

/-- A step that stops with the first refused node has its reason. -/
theorem Stops.refuses (hstops : Stops (Node.firstRefusal nodes) step) {values : List Value}
    {reason : RenderError} (hrun : step values = .error reason) :
    ∃ before node after, nodes = before ++ node :: after ∧
      (∀ earlier ∈ before, earlier.refusal? = none) ∧ node.refusal? = some reason.kind ∧
      reason.kind = if node.isEmptyCall then .invalidQuery else .unsupportedOperator := by
  have hfirst := hstops values
  rw [hrun] at hfirst
  obtain ⟨before, node, after, hnodes, hnode, hbefore⟩ := List.findSome?_eq_some_iff.mp hfirst
  exact ⟨before, node, after, hnodes, hbefore, hnode, Node.eq_of_refusal? hnode⟩

/-- A step is judged by when it succeeds and by where it stops. -/
theorem Accepts.judges {accepted : Prop} (haccepts : step.Accepts accepted)
    (hstops : Stops (Node.firstRefusal nodes) step) : Judges accepted nodes step where
  accepts := haccepts
  refuses _ _ hrun := hstops.refuses hrun
  kind_ne_unsupportedType values reason hrun := by
    obtain ⟨_, node, _, _, _, _, hkind⟩ := hstops.refuses hrun
    rw [hkind]
    split <;> simp

end Binding

/-- Exactly the valid conditions and the values render; every other tree is refused for the reason
of its first refused node. -/
theorem Condition.judges_predicate_and_scalar (condition : Condition) (expr : Expr) :
    condition.predicate.Judges (condition.isValid = true) condition.evaluated ∧
      expr.scalar.Judges (expr.isValue = true) expr.evaluated :=
  ⟨condition.accepts_predicate.judges condition.stops_predicate,
    expr.accepts_scalar.judges expr.stops_scalar⟩

/-- An operator that does not apply to the missing value is found before the call beside it. -/
example : Node.firstRefusal (Condition.compare .less (.value .null) (.concat [])).evaluated =
    some .unsupportedOperator := rfl

/-- Nothing is asked of a value that is looked for among none. -/
example : (Condition.holds (.among (.concat []) [])).isValid = true := rfl

end SqlScribe
