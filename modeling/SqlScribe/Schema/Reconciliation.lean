import SqlScribe.RenderError
import SqlScribe.Schema.Listing

/-!
# Columns that tables share

Two columns of different tables are the same if their names and their normalized
type codes agree.  The columns of several tables are compared by intersecting
their listings.

Main definitions:

- `Schema.codeListing` lists the columns of a table with normalized codes.
- `Schema.unionColumns` are the columns that all source tables of a query share.
- `Schema.sharedColumns` are those that the destination of a copy shares too, each
  with a flag that says whether the copy narrows it.
- `Schema.definingColumns` describes the shared columns as the first source table
  defines them.
-/

namespace SqlScribe.Schema

open Catalog (View Field Term Output Constant CodeBound)
open Sql (Pieces fixed)

/-! ## Listings of codes -/

/-- A code, with the single-byte texts replaced by their Unicode counterparts. -/
def normalizedTerm (code : Field) : Term :=
  .choose (.field code)
    (TypeCode.normalized.map fun (code, counterpart) => (.number code, .number counterpart))
    (.field code)

/-- The name of a column and its normalized codes. -/
def codeOutputs : List Output :=
  [.ofField (.bare "name"), ⟨normalizedTerm (.bare "system_type_id"), some "system_type_id"⟩,
   ⟨normalizedTerm (.bare "user_type_id"), some "user_type_id"⟩]

/-- The columns of a table with their normalized codes. -/
def codeListing (table : Table) : Pieces :=
  fixed "SELECT " ++ Pieces.join ", " (codeOutputs.map (·.pieces)) ++
    fixed (" FROM " ++ View.columns.path ++ " WHERE [object_id] = ") ++ Catalog.objectId table

/-- The columns that tables share. -/
def intersection (tables : List Table) : Pieces :=
  Pieces.join " INTERSECT " (tables.map codeListing)

/-- The source tables of a query, of which there must be one. -/
def sources (query : Query) : Except RenderError (List Table) :=
  match query.sourceTables with
  | [] => .error .noSourceTable
  | tables => .ok tables

/-! ## Statements -/

/-- The columns that the source tables of a query share. -/
def unionColumns (query : Query) : Except RenderError Pieces :=
  (sources query).map intersection

/-- Whether the code of a column in the destination is less than its greatest text
code in the source tables. -/
def narrowingTerm (tables : List Table) : Term :=
  .cast
    (.ifBelow (.field (columnField "system_type_id")) ⟨TypeCode.textFamily, tables⟩ .one .zero)
    .bit

/-- A shared column and whether its copy narrows it. -/
def sharedOutputs (tables : List Table) : List Output :=
  [.ofField (.ofDerived "name"), ⟨narrowingTerm tables, some "NarrowingConversion"⟩]

/-- Joins columns to the catalog's description of them in a table: the derived table
and the view are given in this or the other order. -/
def describedIn (table : Table) (first second : Pieces) : Pieces :=
  first ++ fixed " JOIN " ++ second ++ fixed " ON " ++
    Catalog.matchPieces [(.ofDerived "name", columnField "name")] ++
    fixed " AND " ++ (columnField "object_id").pieces ++ fixed " = " ++ Catalog.objectId table

/-- The columns that the source tables of a query and a destination share. -/
def sharedColumns (query : Query) (into : Table) : Except RenderError Pieces := do
  let tables ← sources query
  .ok (fixed "SELECT " ++ Pieces.join ", " ((sharedOutputs tables).map (·.pieces)) ++
    fixed " FROM " ++
    describedIn into (Sql.derivedPieces (intersection (tables ++ [into])))
      (fixed View.columns.reference))

/-- The columns that the source tables of a query share, as the first one defines
them. -/
def definingColumns (query : Query) : Except RenderError Pieces := do
  match query.sourceTables with
  | [] => .error .noSourceTable
  | first :: rest =>
    .ok (describedIn first columnListing.pieces
      (Sql.derivedPieces (intersection (first :: rest))))

end SqlScribe.Schema
