import SqlScribe.Expr.Document

/-!
# Conditions

A condition compares two expressions, combines conditions, or takes an
expression that is true or false by itself.

Main definitions:

- `Condition` is the type of conditions.
- `Expr.compare`, `Expr.search` and `Expr.among` make conditions of expressions.
- `Condition.toJson` writes a condition and `Condition.ofJson?` reads one.
-/

namespace SqlScribe

/-! ## Comparisons -/

/-- A comparison of two values. -/
inductive Comparison where
  | equal | notEqual | greater | greaterOrEqual | less | lessOrEqual
deriving DecidableEq, Repr

namespace Comparison

/-- All comparisons. -/
def all : List Comparison := [.equal, .notEqual, .greater, .greaterOrEqual, .less, .lessOrEqual]

/-- The sign of a comparison. -/
def sql : Comparison → String
  | .equal => "="
  | .notEqual => "<>"
  | .greater => ">"
  | .greaterOrEqual => ">="
  | .less => "<"
  | .lessOrEqual => "<="

/-- The name in documents. -/
def documentName : Comparison → String
  | .equal => "Equal"
  | .notEqual => "NotEqual"
  | .greater => "Greater"
  | .greaterOrEqual => "GreaterOrEqual"
  | .less => "Less"
  | .lessOrEqual => "LessOrEqual"

/-- Reads the document of a comparison. -/
def ofJson? (document : Json) : Option Comparison :=
  document.name?.bind fun name => all.find? (·.documentName = name)

end Comparison

/-! ## Trees of conditions -/

/-- A condition on a row. -/
inductive Condition where
  | compare (comparison : Comparison) (left right : Expr)
  | and (left right : Condition)
  | or (left right : Condition)
  | not (operand : Condition)
  | holds (expr : Expr)

/-- Compares an expression with a constant. -/
def Expr.compare (expr : Expr) (comparison : Comparison) (value : Value) : Condition :=
  .compare comparison expr (.value value)

/-- Searches a text for a constant. -/
def Expr.has (expr : Expr) (place : SearchPlace) (value : Value) : Condition :=
  .holds (.search place expr (.value value))

/-- Looks for the value of an expression among constants. -/
def Expr.isAmong (expr : Expr) (values : List Value) : Condition :=
  .holds (.among expr (values.map .value))

namespace Condition

/-! ## Documents -/

/-- The document of a condition. -/
def toJson : Condition → Json
  | .compare comparison left right =>
    .object [("Comparison", .object
      [("op", .text comparison.documentName), ("left", left.toJson), ("right", right.toJson)])]
  | .and left right => .object [("And", .array [left.toJson, right.toJson])]
  | .or left right => .object [("Or", .array [left.toJson, right.toJson])]
  | .not operand => .object [("Not", operand.toJson)]
  | .holds expr => .object [("Predicate", expr.toJson)]

/-- Two conditions in an array. -/
def pair? (read : Json → Option Condition) : Json → Option (Condition × Condition)
  | .array [left, right] => do
    let left ← read left
    let right ← read right
    some (left, right)
  | _ => none

/-- Reads a document of at most the given depth. -/
def readWithin? : Nat → Json → Option Condition
  | 0, _ => none
  | depth + 1, document =>
    match document.variant? with
    | some ("Comparison", some payload) => do
      let record ← payload.fields? ["op", "left", "right"]
      let comparison ← record.required? "op" Comparison.ofJson?
      let left ← record.required? "left" Expr.ofJson?
      let right ← record.required? "right" Expr.ofJson?
      some (.compare comparison left right)
    | some ("And", some payload) =>
      (pair? (readWithin? depth) payload).map fun (left, right) => .and left right
    | some ("Or", some payload) =>
      (pair? (readWithin? depth) payload).map fun (left, right) => .or left right
    | some ("Not", some payload) => (readWithin? depth payload).map .not
    | some ("Predicate", some payload) => (Expr.ofJson? payload).map .holds
    | _ => none

/-- Reads the document of a condition. -/
def ofJson? (document : Json) : Option Condition := readWithin? document.depth document

end Condition

end SqlScribe
