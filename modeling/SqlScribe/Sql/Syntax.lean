import SqlScribe.Query.Basic
import SqlScribe.ColumnType.Physical

/-!
# Syntax of rendered queries

Queries are rendered to a small part of the server's language: scalar
expressions, predicates and nested SELECTs.  Values are already replaced by
parameters here, and every part stands where its text will stand.

Main definitions:

- `Sql.Scalar` and `Sql.Predicate` are expressions and conditions.
- `Sql.Select` is a SELECT; `Sql.Chain` joins several of them by set operators.
-/

namespace SqlScribe.Sql

/-! ## Expressions and conditions -/

/-- A function of the server. -/
inductive Function where
  | upper | lower | trimLeft | trimRight | length | substring | replace | position | concat
  | coalesce
deriving DecidableEq, Repr

/-- The name of a function. -/
def Function.name : Function → String
  | .upper => "UPPER"
  | .lower => "LOWER"
  | .trimLeft => "LTRIM"
  | .trimRight => "RTRIM"
  | .length => "LEN"
  | .substring => "SUBSTRING"
  | .replace => "REPLACE"
  | .position => "CHARINDEX"
  | .concat => "CONCAT"
  | .coalesce => "COALESCE"

mutual

/-- A scalar expression. -/
inductive Scalar where
  | column (name : String)
  | null
  | parameter (index : Nat)
  | number (value : Nat)
  /-- A text of the library itself. -/
  | text (value : String)
  | call (function : Function) (arguments : List Scalar)
  | cast (operand : Scalar) (type : PhysicalType)
  | plus (left right : Scalar)
  /-- A difference, in parentheses of its own. -/
  | minus (left right : Scalar)
  /-- One where a predicate holds and zero elsewhere. -/
  | flag (predicate : Predicate)

/-- A condition. -/
inductive Predicate where
  | compare (comparison : Comparison) (left right : Scalar)
  | isNull (operand : Scalar)
  | isNotNull (operand : Scalar)
  | like (text pattern : Scalar)
  | among (operand : Scalar) (values : List Scalar)
  | and (left right : Predicate)
  | or (left right : Predicate)
  | not (operand : Predicate)

end

/-- The predicate that holds everywhere or nowhere. -/
def Predicate.constant (holds : Bool) : Predicate :=
  .compare .equal (.number 1) (.number (if holds then 1 else 0))

/-! ## Queries -/

/-- What a SELECT returns. -/
inductive SelectList where
  | all
  | count
  | items (items : List (Scalar × Option String))

/-- The ordering of a SELECT. -/
inductive Ordering where
  | none
  | random
  | keys (keys : List (Scalar × Direction))

/-- The rows that an ordered SELECT skips and, if limited, the number it returns. -/
structure Paging where
  skip : Nat
  fetch : Option Nat
deriving DecidableEq

/-- An operator between SELECTs. -/
inductive ChainOperator where
  | unionAll | intersect | except
deriving DecidableEq, Repr

/-- The keywords of an operator between SELECTs. -/
def ChainOperator.sql : ChainOperator → String
  | .unionAll => "UNION ALL"
  | .intersect => "INTERSECT"
  | .except => "EXCEPT"

/-- A further SELECT with the operator in front of it. -/
structure Link (Select : Type) where
  operator : ChainOperator
  select : Select

/-- SELECTs with operators between them. -/
structure Chain (Select : Type) where
  first : Select
  links : List (Link Select) := []

/-- What a SELECT reads. -/
inductive Relation (Select : Type) where
  | table (table : Table)
  | derived (chain : Chain Select)

/-- A SELECT. -/
structure Select where
  distinct : Bool := false
  top : Option RowLimit := none
  columns : SelectList := .all
  relation : Relation Select
  condition : Option Predicate := none
  ordering : Ordering := .none
  paging : Option Paging := none

/-- All rows of a derived table. -/
def Select.wrap (select : Select) : Select := { relation := .derived ⟨select, []⟩ }

end SqlScribe.Sql
