import SqlScribe.Catalog.Restore
import SqlScribe.Schema.Operation

/-!
# Migrations

A migration leads from the columns and indexes that a table has to those that it
should have.  Columns and indexes are added and dropped; a change of an existing
column cannot be made that way and is only reported.  Names are compared without
regard to the case of ASCII letters.

Main definitions:

- `Migration.between` compares what exists with what is desired.
- `Migration.operations` lists the steps in an order in which they can be taken.
-/

namespace SqlScribe

/-- A change of an existing column that a migration does not make. -/
inductive ColumnChange where
  /-- The type differs, or whether the column is computed. -/
  | type (column : String)
  | nullability (column : String) (nullable : Bool)
  | key (column : String)
  | identity (column : String) (identity : Bool)
deriving DecidableEq

/-- The steps from one definition of a table to another. -/
structure Migration where
  addColumns : List Column := []
  dropColumns : List String := []
  addIndexes : List Index := []
  dropIndexes : List String := []
  warnings : List ColumnChange := []

namespace Migration

/-! ## Comparing columns -/

/-- The first column with a name. -/
def findColumn? (columns : List Column) (name : String) : Option Column :=
  columns.find? fun column => Text.equalsIgnoringAsciiCase column.name name

/-- The type of the server that a column is stored as. -/
def storageType? (column : Column) : Option SqlType := column.storedType?.map (·.stored)

/-- The changes from one column to another of the same name. -/
def columnChanges (existing desired : Column) : List ColumnChange :=
  (if storageType? existing ≠ storageType? desired then [.type desired.name] else []) ++
  (if existing.nullable ≠ desired.nullable && !desired.isComputed then
      [.nullability desired.name desired.nullable]
    else []) ++
  (if existing.key ≠ desired.key then [.key desired.name] else []) ++
  (if existing.identity ≠ desired.identity then [.identity desired.name desired.identity] else [])

/-! ## Comparing indexes -/

/-- The name of an index on a table, compared without regard to case. -/
def isNamed (table : Table) (name : String) (index : Index) : Bool :=
  Text.equalsIgnoringAsciiCase (index.nameFor table.name) name

/-- Whether two columns of indexes are the same. -/
def sameKey (existing desired : IndexKey) : Bool :=
  Text.equalsIgnoringAsciiCase existing.name desired.name &&
    existing.direction = desired.direction

/-- Whether two indexes differ at most in their names. -/
def sameDefinition (existing desired : Index) : Bool :=
  existing.clustered = desired.clustered && existing.unique = desired.unique &&
    existing.keys.length = desired.keys.length &&
    (existing.keys.zip desired.keys).all fun (a, b) => sameKey a b

/-- Whether a desired index must be added: it does not exist, or not so. -/
def isMissing (table : Table) (existing : List Index) (desired : Index) : Bool :=
  match existing.find? (isNamed table (desired.nameFor table.name)) with
  | some index => !sameDefinition index desired
  | none => true

/-- Whether an index of the same name as a desired one is in its way. -/
def isInTheWay (table : Table) (existing : List Index) (desired : Index) : Bool :=
  match existing.find? (isNamed table (desired.nameFor table.name)) with
  | some index => !sameDefinition index desired
  | none => false

/-! ## The migration -/

/-- The steps from what exists to what is desired.  The index of the primary key is
left alone. -/
def between (table : Table) (existingColumns : List Column) (existingIndexes : List ExistingIndex)
    (desiredColumns : List Column) (desiredIndexes : List Index) : Migration :=
  let indexes := (existingIndexes.filter (!·.isPrimaryKey)).map (·.index)
  { addColumns :=
      desiredColumns.filter fun desired => (findColumn? existingColumns desired.name).isNone
    dropColumns :=
      (existingColumns.filter fun existing =>
        (findColumn? desiredColumns existing.name).isNone).map (·.name)
    addIndexes := desiredIndexes.filter (isMissing table indexes)
    dropIndexes :=
      (desiredIndexes.filter (isInTheWay table indexes)).map (·.nameFor table.name) ++
        (indexes.filter fun existing =>
          !desiredIndexes.any (isNamed table (existing.nameFor table.name))).map
          (·.nameFor table.name)
    warnings :=
      desiredColumns.flatMap fun desired =>
        match findColumn? existingColumns desired.name with
        | some existing => columnChanges existing desired
        | none => [] }

/-- Whether there is nothing to do and nothing to report. -/
def isEmpty (migration : Migration) : Bool :=
  migration.addColumns.isEmpty && migration.dropColumns.isEmpty &&
    migration.addIndexes.isEmpty && migration.dropIndexes.isEmpty && migration.warnings.isEmpty

/-- The steps: indexes are dropped before their columns and added after them. -/
def operations (migration : Migration) (table : Table) : List SchemaOperation :=
  migration.dropIndexes.map (.dropIndex table) ++ migration.dropColumns.map (.dropColumn table) ++
    migration.addColumns.map (.addColumn table) ++ migration.addIndexes.map (.addIndex table)

/-- The steps as statements. -/
def statements (migration : Migration) (table : Table) : Except RenderError (List Statement) :=
  SchemaOperation.statements (migration.operations table)

end Migration

end SqlScribe
