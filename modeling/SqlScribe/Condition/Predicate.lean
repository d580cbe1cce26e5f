import SqlScribe.Expr.Scalar

/-!
# Conditions in the server's language

A comparison with the missing value asks whether the other side is missing; all
other comparisons keep their sign.  Connectives keep the shape of the tree.

Main definitions:

- `Condition.predicate` renders a condition.
-/

namespace SqlScribe.Condition

/-- Whether an expression is the missing value. -/
def isNullValue : Expr → Bool
  | .value .null => true
  | _ => false

/-- The other side of a comparison with the missing value. -/
def besideNull? (left right : Expr) : Option Expr :=
  if isNullValue right then some left else if isNullValue left then some right else none

/-- Renders a comparison with the missing value. -/
def nullPredicate (comparison : Comparison) (operand : Expr) : Binding Sql.Predicate :=
  match comparison with
  | .equal => do
    let operand ← operand.scalar
    pure (.isNull operand)
  | .notEqual => do
    let operand ← operand.scalar
    pure (.isNotNull operand)
  | comparison => Binding.fail (.nullComparison comparison)

/-- Renders a condition. -/
def predicate : Condition → Binding Sql.Predicate
  | .compare comparison left right =>
    match besideNull? left right with
    | some operand => nullPredicate comparison operand
    | none => do
      let left ← left.scalar
      let right ← right.scalar
      pure (.compare comparison left right)
  | .and left right => do
    let left ← left.predicate
    let right ← right.predicate
    pure (.and left right)
  | .or left right => do
    let left ← left.predicate
    let right ← right.predicate
    pure (.or left right)
  | .not operand => do
    let operand ← operand.predicate
    pure (.not operand)
  | .holds expr => expr.predicate

end SqlScribe.Condition
