import SqlScribe.ColumnType.Code
import SqlScribe.Sql.Printer

/-!
# Expressions over the catalog

The server describes its tables in views of a catalog.  Listings of the catalog
compute what they return by a few expressions over the fields of these views,
whose names are fixed and spelled alike in every dialect.

Main definitions:

- `Catalog.View` and `Catalog.Field` are the views and their fields.
- `Catalog.Term` is the type of expressions and `Catalog.Term.pieces` their text.
- `Catalog.objectId` is the expression that identifies a table.
-/

namespace SqlScribe.Catalog

open Sql (Pieces fixed)

/-! ## Views and fields -/

/-- A view of the catalog. -/
inductive View where
  | tables
  | columns
  | indexes
  | indexColumns
  | computedColumns
deriving DecidableEq, Repr

namespace View

/-- The name of a view. -/
def name : View → String
  | .tables => "tables"
  | .columns => "columns"
  | .indexes => "indexes"
  | .indexColumns => "index_columns"
  | .computedColumns => "computed_columns"

/-- The short name under which listings refer to a view. -/
def shortName : View → String
  | .tables => "ST"
  | .columns => "SC"
  | .indexes => "SI"
  | .indexColumns => "SIC"
  | .computedColumns => "SCC"

/-- A view in the schema of the catalog. -/
def path (view : View) : String := "[sys].[" ++ view.name ++ "]"

/-- A view under its short name. -/
def reference (view : View) : String := view.path ++ " [" ++ view.shortName ++ "]"

end View

/-- A field in a listing. -/
inductive Field where
  | bare (name : String)
  | ofView (view : View) (name : String)
  | ofDerived (name : String)
deriving DecidableEq

/-- The spelling of a field. -/
def Field.text : Field → String
  | .bare name => "[" ++ name ++ "]"
  | .ofView view name => "[" ++ view.shortName ++ "].[" ++ name ++ "]"
  | .ofDerived name => "[" ++ Sql.derivedAlias ++ "].[" ++ name ++ "]"

/-- The text of a field. -/
def Field.pieces (field : Field) : Pieces := fixed field.text

/-- The catalog's identifier of a table. -/
def objectId (table : Table) : Pieces :=
  [.fixed "OBJECT_ID(", .literal true table.objectName, .fixed ")"]

/-! ## Constants -/

/-- A constant in a listing. -/
inductive Constant where
  | null
  | number (value : Int)
  | text (value : String)
deriving DecidableEq

/-- The text of a constant. -/
def Constant.pieces : Constant → Pieces
  | .null => fixed "NULL"
  | .number value => [.number value]
  | .text value => [.literal false value]

/-- Numbers with commas between them. -/
def numberList (numbers : List Int) : Pieces :=
  Pieces.join ", " (numbers.map fun number => [.number number])

/-! ## Terms -/

/-- The greatest of some type codes that columns of the same name as the derived
table's have in some tables. -/
structure CodeBound where
  codes : List Int
  tables : List Table
deriving DecidableEq

/-- The text of a bound. -/
def CodeBound.pieces (bound : CodeBound) : Pieces :=
  fixed ("(SELECT MAX([system_type_id]) FROM " ++ View.columns.path ++ " WHERE [name] = ") ++
    (Field.ofDerived "name").pieces ++ fixed " AND [system_type_id] IN (" ++
    numberList bound.codes ++ fixed ") AND [object_id] IN (" ++
    Pieces.join ", " (bound.tables.map objectId) ++ fixed "))"

/-- An expression in a listing. -/
inductive Term where
  | field (source : Field)
  | constant (value : Constant)
  /-- The stored definition of the object that a field identifies. -/
  | definition (object : Field)
  /-- Half a whole number, cut toward zero. -/
  | half (operand : Term)
  | replace (operand : Term) (term replacement : String)
  /-- A value, or a number where it is missing. -/
  | orNumber (operand : Term) (number : Int)
  /-- The result of the first branch whose constant the subject equals. -/
  | choose (subject : Term) (branches : List (Constant × Constant)) (otherwise : Term)
  | ifAmong (subject : Term) (numbers : List Int) (yes no : Term)
  | ifBelow (subject : Term) (bound : CodeBound) (yes no : Term)
  | cast (operand : Term) (type : SqlType)
  | grouped (operand : Term)

namespace Term

/-- The text of the branches of a choice. -/
def branchPieces (branches : List (Constant × Constant)) : Pieces :=
  Pieces.join " " (branches.map fun (key, result) =>
    fixed "WHEN " ++ key.pieces ++ fixed " THEN " ++ result.pieces)

/-- The text of an expression. -/
def pieces : Term → Pieces
  | .field source => source.pieces
  | .constant value => value.pieces
  | .definition object => fixed "OBJECT_DEFINITION(" ++ object.pieces ++ fixed ")"
  | .half operand => operand.pieces ++ fixed " / 2"
  | .replace operand term replacement =>
    fixed "REPLACE(" ++ operand.pieces ++
      [.fixed ", ", .literal false term, .fixed ", ", .literal false replacement, .fixed ")"]
  | .orNumber operand number =>
    fixed "ISNULL(" ++ operand.pieces ++ [.fixed ", ", .number number, .fixed ")"]
  | .choose subject branches otherwise =>
    fixed "CASE " ++ subject.pieces ++ fixed " " ++ branchPieces branches ++ fixed " ELSE " ++
      otherwise.pieces ++ fixed " END"
  | .ifAmong subject numbers yes no =>
    fixed "CASE WHEN " ++ subject.pieces ++ fixed " IN (" ++ numberList numbers ++
      fixed ") THEN " ++ yes.pieces ++ fixed " ELSE " ++ no.pieces ++ fixed " END"
  | .ifBelow subject bound yes no =>
    fixed "CASE WHEN " ++ subject.pieces ++ fixed " < " ++ bound.pieces ++ fixed " THEN " ++
      yes.pieces ++ fixed " ELSE " ++ no.pieces ++ fixed " END"
  | .cast operand type =>
    fixed "CAST(" ++ operand.pieces ++ [.fixed " AS ", .fixed type.name, .fixed ")"]
  | .grouped operand => fixed "(" ++ operand.pieces ++ fixed ")"

/-- The number one. -/
def one : Term := .constant (.number 1)

/-- The number zero. -/
def zero : Term := .constant (.number 0)

end Term

end SqlScribe.Catalog
