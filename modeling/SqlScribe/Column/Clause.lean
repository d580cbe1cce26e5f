import SqlScribe.Column.Basic
import SqlScribe.RenderError
import SqlScribe.Sql.Piece

/-!
# Column clauses

A column is declared by the same clause when its table is created and when it is
added later.

Main definitions:

- `Column.clause` gives the text of the clause, or the reason why there is none.
- `Column.autoGenerator` chooses the generator of an automatic default.
-/

namespace SqlScribe.Column

open Sql (Pieces fixed)

/-- The generator of an automatic default: keys get growing identifiers, so that
new rows come last. -/
def autoGenerator (column : Column) (type : SqlType) : Except RenderError Generator :=
  if type = .uniqueIdentifier then .ok (if column.isKey then .newSequentialId else .newId)
  else if type.isTemporal then .ok .now
  else .error (.noGenerator column.name type)

/-- The text of a default. -/
def defaultPieces (column : Column) (type : SqlType) : Default → Except RenderError Pieces
  | .value constant =>
    if constant.hasLiteral then .ok [constant.literal]
    else .error (.defaultWithoutLiteral column.name constant)
  | .generated generator => .ok (fixed generator.sql)
  | .expression text => .ok [.raw text]
  | .auto => (column.autoGenerator type).map fun generator => fixed generator.sql

/-- The text of the default, if the column has one. -/
def defaultClause (column : Column) (type : SqlType) : Except RenderError Pieces :=
  match column.default with
  | none => .ok []
  | some default => (column.defaultPieces type default).map (fixed " DEFAULT " ++ ·)

/-- The text that makes a column an identity, which must be a whole number without
a default. -/
def identityClause (column : Column) (type : SqlType) : Except RenderError Pieces :=
  if !column.identity then .ok []
  else if !type.isInteger then .error (.identityNotInteger column.name type)
  else if column.default.isSome then .error (.identityDefault column.name)
  else .ok (fixed " IDENTITY(1,1)")

/-- Whether a value may be missing; a key always has one. -/
def acceptsNull (column : Column) : Bool := column.nullable && !column.isKey

/-- The clause of a stored column. -/
def storedClause (column : Column) (type : ColumnType) : Except RenderError Pieces := do
  let physical ← (PhysicalType.resolve type column.facets).mapError .facets
  let identity ← column.identityClause type.stored
  let default ← column.defaultClause type.stored
  .ok ([.name column.name, .fixed " ", .fixed physical.text] ++ identity ++
    fixed (if column.acceptsNull then " NULL" else " NOT NULL") ++ default)

/-- The clause of a computed column, which is neither an identity nor has a default. -/
def computedClause (column : Column) (expression : String) (persisted : Bool) :
    Except RenderError Pieces :=
  if column.identity then .error (.computedIdentity column.name)
  else if column.default.isSome then .error (.computedDefault column.name)
  else
    .ok ([.name column.name, .fixed " AS (", .raw expression, .fixed ")"] ++
      (if persisted then fixed " PERSISTED NOT NULL" else []))

/-- The clause that declares a column. -/
def clause (column : Column) : Except RenderError Pieces :=
  match column.kind with
  | .stored type => column.storedClause type
  | .computed expression persisted => column.computedClause expression persisted

end SqlScribe.Column
