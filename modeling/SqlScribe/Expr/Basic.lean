import SqlScribe.ColumnType.Basic
import SqlScribe.Value.Basic

/-!
# Expressions

An expression is a field, a constant or a function of other expressions.  Four
functions are tests: they can stand as a condition as well as a value.

Main definitions:

- `Expr` is the type of expressions.
- `Expr.same` is equality of expressions, with constants compared as values.
- `Expr.isTest` tells the tests from the other expressions.
-/

namespace SqlScribe

/-- Where a text is searched for a term. -/
inductive SearchPlace where
  | start
  | finish
  | anywhere
deriving DecidableEq, Repr

/-- An expression over the fields of a row. -/
inductive Expr where
  | field (name : String)
  | value (value : Value)
  | upper (text : Expr)
  | lower (text : Expr)
  | trim (text : Expr)
  | length (text : Expr)
  /-- The part of a text from a position on, counted from zero, up to a length. -/
  | substring (text start : Expr) (count : Option Expr)
  | replace (text term replacement : Expr)
  /-- The position of a term in a text, counted from zero. -/
  | indexOf (text term : Expr)
  | concat (parts : List Expr)
  | coalesce (parts : List Expr)
  | convert (operand : Expr) (type : ColumnType)
  | search (place : SearchPlace) (text term : Expr)
  | among (operand : Expr) (values : List Expr)

namespace Expr

/-- Whether an expression is a test. -/
def isTest : Expr → Bool
  | .search .. | .among .. => true
  | _ => false

/-! ## Equality -/

mutual

/-- Equality of expressions. -/
def same : Expr → Expr → Bool
  | .field a, .field b => a = b
  | .value a, .value b => a.same b
  | .upper a, .upper b => a.same b
  | .lower a, .lower b => a.same b
  | .trim a, .trim b => a.same b
  | .length a, .length b => a.same b
  | .substring a s l, .substring b t m => a.same b && s.same t && sameOption l m
  | .replace a s r, .replace b t u => a.same b && s.same t && r.same u
  | .indexOf a s, .indexOf b t => a.same b && s.same t
  | .concat a, .concat b => sameList a b
  | .coalesce a, .coalesce b => sameList a b
  | .convert a s, .convert b t => a.same b && s = t
  | .search p a s, .search q b t => p = q && a.same b && s.same t
  | .among a s, .among b t => a.same b && sameList s t
  | _, _ => false

/-- Equality of optional expressions. -/
def sameOption : Option Expr → Option Expr → Bool
  | none, none => true
  | some a, some b => a.same b
  | _, _ => false

/-- Equality of lists of expressions. -/
def sameList : List Expr → List Expr → Bool
  | [], [] => true
  | a :: as, b :: bs => a.same b && sameList as bs
  | _, _ => false

end

end Expr

end SqlScribe
