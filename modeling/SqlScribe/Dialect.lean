import SqlScribe.Text.Quoted

/-!
# Dialects

Dialects of SQL differ in the characters that enclose a quoted identifier and in
how a placeholder of a parameter is spelled.  Text literals look the same in all
of them.

Main definitions:

- `Dialect` gathers the differences; `Dialect.sqlServer` is the one of SQL Server.
- `Dialect.identifier` and `Dialect.placeholder` spell names in a dialect.
-/

namespace SqlScribe

/-- What differs between dialects. -/
structure Dialect where
  name : String
  opening : Char
  closing : Char
  /-- What stands in front of the name of a parameter. -/
  parameterMark : String
deriving DecidableEq

namespace Dialect

/-- SQL Server: identifiers in brackets, parameters after an at sign. -/
def sqlServer : Dialect := ⟨"tsql", '[', ']', "@"⟩

/-- A quoted identifier. -/
def identifier (dialect : Dialect) (name : String) : String :=
  Quoted.quote dialect.opening dialect.closing name

/-- The placeholder of a parameter, counted from zero. -/
def placeholder (dialect : Dialect) (index : Nat) : String :=
  dialect.parameterMark ++ "p" ++ toString index

end Dialect

/-- A text literal. -/
def textLiteral (text : String) : String := Quoted.quote '\'' '\'' text

/-- A text literal that keeps every character. -/
def nationalLiteral (text : String) : String := "N" ++ textLiteral text

end SqlScribe
