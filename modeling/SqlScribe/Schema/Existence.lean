import SqlScribe.Catalog.Term

/-!
# Existence checks and guarded drops

A catalog query checks whether a table, a column or an index exists.  Drops are
guarded by such a query, so that dropping what is not there does nothing.

Main definitions:

- `Schema.tableCheck`, `Schema.columnCheck` and `Schema.indexCheck` are the queries.
- `Schema.existence` turns one into a truth value; `Schema.guarded` puts one in
  front of an action.
- `Schema.dropTable`, `Schema.dropColumn` and `Schema.dropIndex` are the actions.
-/

namespace SqlScribe.Schema

open Catalog (View)
open Sql (Pieces fixed)

/-! ## Checks -/

/-- Finds a table, in its schema if that is given. -/
def tableCheck (table : Table) : Pieces :=
  [.fixed ("SELECT * FROM " ++ View.tables.path ++ " WHERE [name] = "),
    .literal false table.name] ++
    (match table.schema with
      | some schema =>
        [.fixed " AND [schema_id] = SCHEMA_ID(", .literal false schema, .fixed ")"]
      | none => [])

/-- Finds a named object of a table in a view. -/
def objectCheck (view : View) (table : Table) (name : String) : Pieces :=
  fixed ("SELECT * FROM " ++ view.path ++ " WHERE [object_id] = ") ++ Catalog.objectId table ++
    [.fixed " AND [name] = ", .literal false name]

/-- Finds a column of a table. -/
def columnCheck (table : Table) (column : String) : Pieces := objectCheck .columns table column

/-- Finds an index of a table. -/
def indexCheck (table : Table) (index : String) : Pieces := objectCheck .indexes table index

/-- Whether a check finds anything, as a bit. -/
def existence (check : Pieces) : Pieces :=
  fixed "SELECT CAST(CASE WHEN EXISTS (" ++ check ++ fixed ") THEN 1 ELSE 0 END AS bit)"

/-! ## Drops -/

/-- An action that is taken only if a check finds something. -/
def guarded (check action : Pieces) : Pieces :=
  fixed "IF EXISTS (" ++ check ++ fixed ") " ++ action

/-- The text that drops a table. -/
def dropTable (table : Table) : Pieces :=
  guarded (tableCheck table) (fixed "DROP TABLE " ++ Sql.tablePieces table)

/-- The text that drops a column. -/
def dropColumn (table : Table) (column : String) : Pieces :=
  guarded (columnCheck table column)
    (fixed "ALTER TABLE " ++ Sql.tablePieces table ++ [.fixed " DROP COLUMN ", .name column])

/-- The text that drops an index. -/
def dropIndex (table : Table) (index : String) : Pieces :=
  guarded (indexCheck table index)
    ([.fixed "DROP INDEX ", .name index, .fixed " ON "] ++ Sql.tablePieces table)

end SqlScribe.Schema
