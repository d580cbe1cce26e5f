import SqlScribe.ColumnType.Physical
import SqlScribe.Condition
import SqlScribe.Table

/-!
# Reasons why something cannot be rendered

Every reason is a constructor that carries what its wording needs.  The reasons
fall into three kinds: a type that the server does not have, an operator that
does not apply, and a query or definition that contradicts itself.

Main definitions:

- `RenderError` lists the reasons, `RenderError.kind` sorts them and
  `RenderError.message` words them.
-/

namespace SqlScribe

/-- A reason why something cannot be rendered. -/
inductive RenderError where
  | facets (reason : FacetError)
  | identityNotInteger (column : String) (type : SqlType)
  | defaultWithoutLiteral (column : String) (value : Value)
  | noGenerator (column : String) (type : SqlType)
  | unknownTypeCode (column : String) (code : Int)
  | nullComparison (comparison : Comparison)
  | constantAsCondition (value : Value)
  | functionAsCondition (name : String)
  | noArguments (function : String)
  | skipWithoutOrder
  | skipUnderPercent
  | percentTooGreat (amount : UInt32)
  /-- The first row is wanted both with and without need. -/
  | firstTwice
  | shuffledOrder
  | distinctOtherThanItems
  | noQueries
  | nestedCopy
  | shuffledDistinct
  | orderOutsideDistinct (expr : Expr)
  | copiedCount
  | copiedWithoutAlias
  /-- A copied distinct expression is not a field. -/
  | copiedKeyNotField
  | noSourceTable
  | tableWithoutColumns (table : Table)
  | columnDeclaredTwice (column : String)
  | twoIdentities (table : Table)
  | computedIdentity (column : String)
  | computedDefault (column : String)
  | identityDefault (column : String)
  | mixedKey (table : Table)
  | indexWithoutColumns (table : Table)

/-- A kind of reasons. -/
inductive RenderError.Kind where
  | unsupportedType
  | unsupportedOperator
  | invalidQuery
deriving DecidableEq, Repr

namespace RenderError

/-- The kind of a reason. -/
def kind : RenderError → Kind
  | .facets _ | .identityNotInteger .. | .defaultWithoutLiteral .. | .noGenerator ..
  | .unknownTypeCode .. => .unsupportedType
  | .nullComparison _ | .constantAsCondition _ | .functionAsCondition _ => .unsupportedOperator
  | _ => .invalidQuery

/-- What the wording of a kind begins with. -/
def Kind.heading : Kind → String
  | .unsupportedType => "Unsupported type: "
  | .unsupportedOperator => "Unsupported operator: "
  | .invalidQuery => "Invalid query: "

/-- The wording of a reason without its heading. -/
def detail : RenderError → String
  | .facets reason => reason.message
  | .identityNotInteger column type =>
    s!"identity column {column} must be an integer, not {type.name}"
  | .defaultWithoutLiteral column value =>
    s!"column {column} default {value.message} has no T-SQL literal"
  | .noGenerator column type => s!"{type.name} column {column} cannot be generated automatically"
  | .unknownTypeCode column code => s!"column {column} has unknown type code {code}"
  | .nullComparison comparison => s!"{comparison.sql} against NULL"
  | .constantAsCondition value => s!"{value.inline} is not a condition"
  | .functionAsCondition name => s!"{name} is not a condition"
  | .noArguments function => s!"{function} needs at least one argument"
  | .skipWithoutOrder => "skipping rows requires an ordering"
  | .skipUnderPercent => "a percent top cannot be combined with skipped rows"
  | .percentTooGreat amount => s!"a percent top must be at most 100, not {amount.toNat}"
  | .firstTwice => "first and first-or-default are exclusive"
  | .shuffledOrder => "random order cannot be combined with an ordering"
  | .distinctOtherThanItems => "distinct key and projection differ"
  | .noQueries => "query source is empty"
  | .nestedCopy => "nested queries cannot copy into a table"
  | .shuffledDistinct => "distinct rows cannot be randomly ordered"
  | .orderOutsideDistinct expr => s!"ordering by {expr.message} requires it in the distinct key"
  | .copiedCount => "a count cannot be copied into a table"
  | .copiedWithoutAlias => "copied expressions need an alias"
  | .copiedKeyNotField => "copied distinct keys must be fields"
  | .noSourceTable => "query has no source table"
  | .tableWithoutColumns table => s!"table {table.objectName} has no columns"
  | .columnDeclaredTwice column => s!"column {column} is declared twice"
  | .twoIdentities table => s!"table {table.objectName} has more than one identity column"
  | .computedIdentity column => s!"computed column {column} cannot be an identity"
  | .computedDefault column => s!"computed column {column} cannot have a default"
  | .identityDefault column => s!"identity column {column} cannot have a default"
  | .mixedKey table =>
    s!"primary key of {table.objectName} mixes clustered and non-clustered columns"
  | .indexWithoutColumns table => s!"index on {table.objectName} has no columns"

/-- The wording of a reason. -/
def message (error : RenderError) : String := error.kind.heading ++ error.detail

end RenderError

end SqlScribe
