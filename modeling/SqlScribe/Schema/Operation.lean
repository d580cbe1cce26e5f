import SqlScribe.Schema.Definition
import SqlScribe.Schema.Existence
import SqlScribe.Schema.Reconciliation
import SqlScribe.Statement

/-!
# Operations on a schema

Everything that can be asked of a schema is an operation: defining, changing and
dropping objects, asking whether they exist, and listing columns and indexes.

Main definitions:

- `SchemaOperation` lists the operations.
- `SchemaOperation.statement` renders an operation in a dialect.
-/

namespace SqlScribe

/-- An operation on a schema. -/
inductive SchemaOperation where
  | createTable (table : Table) (columns : List Column)
  | tableExists (table : Table)
  | dropTable (table : Table)
  | columnExists (table : Table) (column : String)
  | addColumn (table : Table) (column : Column)
  | dropColumn (table : Table) (column : String)
  | indexExists (table : Table) (index : String)
  | addIndex (table : Table) (index : Index)
  | dropIndex (table : Table) (index : String)
  | tableColumns (table : Table)
  | tableIndexes (table : Table)
  /-- Describes the columns that the sources of a query share. -/
  | definingColumns (query : Query)
  /-- Lists the columns that the sources of a query share. -/
  | unionColumns (query : Query)
  | sharedColumns (query : Query) (into : Table)

namespace SchemaOperation

/-- The text of an operation. -/
def pieces : SchemaOperation → Except RenderError Sql.Pieces
  | .createTable table columns => Schema.createTable table columns
  | .tableExists table => .ok (Schema.existence (Schema.tableCheck table))
  | .dropTable table => .ok (Schema.dropTable table)
  | .columnExists table column => .ok (Schema.existence (Schema.columnCheck table column))
  | .addColumn table column => Schema.addColumn table column
  | .dropColumn table column => .ok (Schema.dropColumn table column)
  | .indexExists table index => .ok (Schema.existence (Schema.indexCheck table index))
  | .addIndex table index => Schema.addIndex table index
  | .dropIndex table index => .ok (Schema.dropIndex table index)
  | .tableColumns table => .ok (Schema.columnListing.ofTable table)
  | .tableIndexes table => .ok (Schema.indexListing.ofTable table)
  | .definingColumns query => Schema.definingColumns query
  | .unionColumns query => Schema.unionColumns query
  | .sharedColumns query into => Schema.sharedColumns query into

/-- The shape of the result of an operation. -/
def resultShape : SchemaOperation → ResultShape
  | .tableExists _ | .columnExists .. | .indexExists .. => .scalar
  | .createTable .. | .dropTable _ | .addColumn .. | .dropColumn .. | .addIndex ..
  | .dropIndex .. => .none
  | .tableColumns _ | .tableIndexes _ | .definingColumns _ | .unionColumns _
  | .sharedColumns .. => .multiple

/-- Renders an operation as a statement. -/
def statement (operation : SchemaOperation) (dialect : Dialect := .sqlServer) :
    Except RenderError Statement :=
  operation.pieces.map fun pieces =>
    { text := pieces.spell dialect, result := operation.resultShape }

/-- Renders operations one after the other for SQL Server. -/
def statements (operations : List SchemaOperation) : Except RenderError (List Statement) :=
  operations.mapM fun operation => operation.statement

end SchemaOperation

end SqlScribe
