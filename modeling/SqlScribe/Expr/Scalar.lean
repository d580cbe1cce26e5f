import SqlScribe.Sql.Binding

/-!
# Expressions in the server's language

Every constant is bound, in the order of evaluation; the missing value alone is
spelled out.  A test is rendered as a predicate and, where a value is wanted, as
the bit that the predicate decides.

Main definitions:

- `Expr.scalar` renders an expression as a value.
- `Expr.predicate` renders an expression as a condition, if it is one.
- `Pattern.escape` makes a search term match itself in a pattern.
-/

namespace SqlScribe

/-! ## Patterns -/

namespace Pattern

/-- The characters that mean something other than themselves in a pattern. -/
def wildcards : List Char := ['[', '%', '_']

/-- A character that matches itself in a pattern: a wildcard goes into brackets. -/
def escapeChar (c : Char) : List Char := if wildcards.contains c then ['[', c, ']'] else [c]

/-- A text that matches itself in a pattern. -/
def escape (text : String) : String := String.ofList (text.toList.flatMap escapeChar)

/-- The expression that escapes the value of another one, wildcard by wildcard. -/
def escapeScalar (term : Sql.Scalar) : Sql.Scalar :=
  wildcards.foldl
    (fun scalar wildcard =>
      .call .replace
        [scalar, .text (String.ofList [wildcard]), .text (String.ofList (escapeChar wildcard))])
    term

/-- The pattern that finds a term in a place of a text. -/
def inPlace (place : SearchPlace) (term : Sql.Scalar) : Sql.Scalar :=
  match place with
  | .start => .plus term (.text "%")
  | .finish => .plus (.text "%") term
  | .anywhere => .plus (.plus (.text "%") term) (.text "%")

end Pattern

namespace Expr

/-! ## Tests -/

/-- Binds the pattern of a search term: a constant text is escaped before it is
bound, every other term by the server. -/
def pattern (term : Expr) (scalar : Binding Sql.Scalar) : Binding Sql.Scalar :=
  match term with
  | .value (.text text) => Binding.bind (.text (Pattern.escape text))
  | _ => do
    let scalar ← scalar
    pure (Pattern.escapeScalar scalar)

/-- Whether a text matches the pattern of a term; the text is rendered first. -/
def searchPredicate (place : SearchPlace) (text pattern : Binding Sql.Scalar) :
    Binding Sql.Predicate := do
  let text ← text
  let pattern ← pattern
  pure (.like text (Pattern.inPlace place pattern))

/-- Whether a value is among others.  Nothing is among no values, so then the value
is not rendered. -/
def amongPredicate (operand : Binding Sql.Scalar) (values : Binding (List Sql.Scalar))
    (noValues : Bool) : Binding Sql.Predicate :=
  if noValues then pure (.constant false)
  else do
    let operand ← operand
    let values ← values
    pure (.among operand values)

/-! ## Values -/

/-- A function of any number of arguments, but at least one; a single argument
stands for itself. -/
def variadic (function : Sql.Function) : List Sql.Scalar → Binding Sql.Scalar
  | [] => Binding.fail (.noArguments function.name)
  | [argument] => pure argument
  | arguments => pure (.call function arguments)

mutual

/-- Renders an expression as a value.  A conversion has no facets, so its type always resolves,
and to the plain type: `PhysicalType.resolve_empty`. -/
def scalar : Expr → Binding Sql.Scalar
  | .field name => pure (.column name)
  | .value .null => pure .null
  | .value constant => Binding.bind constant
  | .upper text => do
    let text ← text.scalar
    pure (.call .upper [text])
  | .lower text => do
    let text ← text.scalar
    pure (.call .lower [text])
  | .trim text => do
    let text ← text.scalar
    pure (.call .trimLeft [.call .trimRight [text]])
  | .length text => do
    let text ← text.scalar
    pure (.call .length [text])
  | .substring text start count => do
    let text ← text.scalar
    let start ← start.scalar
    let count ← scalarOption count
    pure (.call .substring
      [text, .plus start (.number 1), count.getD (.call .length [text])])
  | .replace text term replacement => do
    let text ← text.scalar
    let term ← term.scalar
    let replacement ← replacement.scalar
    pure (.call .replace [text, term, replacement])
  | .indexOf text term => do
    let text ← text.scalar
    let term ← term.scalar
    pure (.minus (.call .position [term, text]) (.number 1))
  | .concat parts => do
    let parts ← scalars parts
    variadic .concat parts
  | .coalesce parts => do
    let parts ← scalars parts
    variadic .coalesce parts
  | .convert operand type => do
    let operand ← operand.scalar
    pure (.cast operand (PhysicalType.plain type))
  | .search place text term => do
    let predicate ← searchPredicate place text.scalar (pattern term term.scalar)
    pure (.flag predicate)
  | .among operand values => do
    let predicate ← amongPredicate operand.scalar (scalars values) values.isEmpty
    pure (.flag predicate)

/-- Renders an expression that may be absent. -/
def scalarOption : Option Expr → Binding (Option Sql.Scalar)
  | none => pure none
  | some expr => do
    let scalar ← expr.scalar
    pure (some scalar)

/-- Renders expressions from left to right. -/
def scalars : List Expr → Binding (List Sql.Scalar)
  | [] => pure []
  | expr :: rest => do
    let scalar ← expr.scalar
    let rest ← scalars rest
    pure (scalar :: rest)

end

/-! ## Conditions -/

/-- Renders an expression as a condition.  A field is one if it holds a bit, and so
is a truth value; other constants and functions are none. -/
def predicate : Expr → Binding Sql.Predicate
  | .field name => pure (.compare .equal (.column name) (.number 1))
  | .value (.bool holds) => pure (.constant holds)
  | .value constant => Binding.fail (.constantAsCondition constant)
  | .search place text term => searchPredicate place text.scalar (pattern term term.scalar)
  | .among operand values => amongPredicate operand.scalar (scalars values) values.isEmpty
  | .upper _ => Binding.fail (.functionAsCondition "UPPER")
  | .lower _ => Binding.fail (.functionAsCondition "LOWER")
  | .trim _ => Binding.fail (.functionAsCondition "TRIM")
  | .length _ => Binding.fail (.functionAsCondition "LEN")
  | .substring .. => Binding.fail (.functionAsCondition "SUBSTRING")
  | .replace .. => Binding.fail (.functionAsCondition "REPLACE")
  | .indexOf .. => Binding.fail (.functionAsCondition "CHARINDEX")
  | .concat _ => Binding.fail (.functionAsCondition "CONCAT")
  | .coalesce _ => Binding.fail (.functionAsCondition "COALESCE")
  | .convert .. => Binding.fail (.functionAsCondition "CAST")

end Expr

end SqlScribe
