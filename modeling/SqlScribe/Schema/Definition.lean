import SqlScribe.Column.Clause
import SqlScribe.Index
import SqlScribe.Sql.Printer
import SqlScribe.Text.Lowercase

/-!
# Definitions of tables and indexes

Main definitions:

- `Schema.createTable`, `Schema.addColumn` and `Schema.addIndex` give the text of a
  definition, or the reason why there is none.
- `Schema.keyClause` is the constraint that makes columns the primary key.
-/

namespace SqlScribe.Schema

open Sql (Pieces fixed)

/-! ## Primary keys -/

/-- The columns of the primary key in order of declaration. -/
def keyColumns (columns : List Column) : List Column := columns.filter (·.isKey)

/-- The name of a primary key: its table and the names of its columns, sorted, so
that it does not depend on the order of declaration. -/
def keyName (table : Table) (keys : List Column) : String :=
  let names := (keys.map (·.name)).mergeSort (fun a b => decide (a ≤ b))
  "PK_" ++ table.name ++ "_" ++ "_".intercalate names

/-- The constraint of the primary key, if there is one.  All its columns play the
same part. -/
def keyClause (table : Table) (columns : List Column) : Except RenderError (Option Pieces) :=
  match keyColumns columns with
  | [] => .ok none
  | first :: rest =>
    if rest.any (·.key ≠ first.key) then .error (.mixedKey table)
    else
      let keys := first :: rest
      .ok (some
        ([.fixed "CONSTRAINT ", .name (keyName table keys), .fixed " PRIMARY KEY"] ++
          fixed (if first.key = .clusteredPrimary then " CLUSTERED (" else " (") ++
          Pieces.join ", " (keys.map fun key => [.name key.name, .fixed " ASC"]) ++
          fixed ")"))

/-! ## Tables -/

/-- The first name whose lower-case form occurs before it. -/
def repeatedName? (seen : List String) : List String → Option String
  | [] => none
  | name :: rest =>
    let folded := Text.lowercase name
    if seen.contains folded then some name else repeatedName? (folded :: seen) rest

/-- Checks the columns of a table against each other. -/
def consistentColumns (table : Table) (columns : List Column) : Except RenderError Unit :=
  if columns.isEmpty then .error (.tableWithoutColumns table)
  else
    match repeatedName? [] (columns.map (·.name)) with
    | some name => .error (.columnDeclaredTwice name)
    | none =>
      if 1 < (columns.filter (·.identity)).length then .error (.twoIdentities table) else .ok ()

/-- The text that creates a table. -/
def createTable (table : Table) (columns : List Column) : Except RenderError Pieces := do
  consistentColumns table columns
  let clauses ← columns.mapM Column.clause
  let key ← keyClause table columns
  .ok (fixed "CREATE TABLE " ++ Sql.tablePieces table ++ fixed " (" ++
    Pieces.join ", " (clauses ++ key.toList) ++ fixed ")")

/-- The text that adds a column to a table. -/
def addColumn (table : Table) (column : Column) : Except RenderError Pieces := do
  let clause ← column.clause
  .ok (fixed "ALTER TABLE " ++ Sql.tablePieces table ++ fixed " ADD " ++ clause)

/-! ## Indexes -/

/-- The text of a column of an index. -/
def indexKeyPieces (key : IndexKey) : Pieces :=
  [.name key.name, .fixed (" " ++ key.direction.sql)]

/-- The text that adds an index to a table. -/
def addIndex (table : Table) (index : Index) : Except RenderError Pieces :=
  if index.keys.isEmpty then .error (.indexWithoutColumns table)
  else
    .ok (fixed "CREATE " ++ (if index.unique then fixed "UNIQUE " else []) ++
      fixed (if index.clustered then "CLUSTERED" else "NONCLUSTERED") ++
      [.fixed " INDEX ", .name (index.nameFor table.name), .fixed " ON "] ++
      Sql.tablePieces table ++ fixed " (" ++
      Pieces.join ", " (index.keys.map indexKeyPieces) ++ fixed ")")

end SqlScribe.Schema
