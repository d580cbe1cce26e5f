import SqlScribe.Catalog.Rows
import SqlScribe.Index
import SqlScribe.RenderError

/-!
# Columns and indexes restored from the catalog

Main definitions:

- `CatalogColumn.column` is the column that a row describes.
- `ExistingIndex.ofRows` gathers the rows of each index into one.
-/

namespace SqlScribe

/-! ## Columns -/

namespace CatalogColumn

/-- The part in the primary key. -/
def keyRole (row : CatalogColumn) : KeyRole :=
  if row.isPrimaryKey then
    if row.isPrimaryKeyClustered then .clusteredPrimary else .primary
  else .none

/-- An expression without the parentheses around it, if there are both. -/
def withoutParentheses (expression : String) : String :=
  match expression.toList with
  | '(' :: rest =>
    if rest.getLast? = some ')' then String.ofList rest.dropLast else expression
  | _ => expression

/-- The column that a row with a computation describes. -/
def computedColumn (row : CatalogColumn) (definition : String) : Column :=
  { name := row.name
    kind := .computed (withoutParentheses definition) (row.persistedComputation = some true)
    nullable := row.isNullable
    key := row.keyRole }

/-- The declared length: none if the catalog's is negative. -/
def length (row : CatalogColumn) : Option UInt32 :=
  if 0 ≤ row.maxLength.toInt then some (UInt32.ofNat row.maxLength.toInt.toNat) else none

/-- The default that a row describes. -/
def default (row : CatalogColumn) : Option Default :=
  if row.isAutoGenerated then some .auto else row.defaultValue.map .expression

/-- The column that a row with a stored type describes. -/
def storedColumn (row : CatalogColumn) (type : SqlType) : Column :=
  { name := row.name
    kind := .stored (.sql type)
    length := if type.hasLength then row.length else none
    precision := if type = .decimal then some row.precision else none
    scale := if type = .decimal then some row.scale else none
    nullable := row.isNullable
    key := row.keyRole
    identity := row.isIdentity
    default := row.default }

/-- The column that a row describes. -/
def column (row : CatalogColumn) : Except RenderError Column :=
  match row.computation with
  | some definition => .ok (row.computedColumn definition)
  | none =>
    match SqlType.ofCode? row.typeCode.toInt with
    | some type => .ok (row.storedColumn type)
    | none => .error (.unknownTypeCode row.name row.typeCode.toInt)

end CatalogColumn

/-! ## Indexes -/

/-- An index that exists, with its part in the primary key. -/
structure ExistingIndex where
  index : Index
  isPrimaryKey : Bool
deriving DecidableEq

namespace ExistingIndex

/-- The code of a clustered index. -/
def clusteredType : UInt8 := 1

/-- The column that a row adds to its index. -/
def keyOfRow (row : CatalogIndexKey) : IndexKey :=
  ⟨row.columnName, if row.isDescending then .descending else .ascending⟩

/-- The index that begins with a row. -/
def ofRow (name : String) (row : CatalogIndexKey) : ExistingIndex :=
  { index :=
      { name := some name
        keys := [keyOfRow row]
        clustered := row.indexType = clusteredType
        unique := row.isUnique }
    isPrimaryKey := row.isPrimaryKey }

/-- Adds the column of a row to the index of its name, or begins one. -/
def addRow (name : String) (row : CatalogIndexKey) : List ExistingIndex → List ExistingIndex
  | [] => [ofRow name row]
  | existing :: rest =>
    if existing.index.name = some name then
      { existing with
        index := { existing.index with keys := existing.index.keys ++ [keyOfRow row] } } :: rest
    else existing :: addRow name row rest

/-- The indexes that rows describe, in order of first appearance.  Rows without a
name describe none. -/
def ofRows (rows : List CatalogIndexKey) : List ExistingIndex :=
  rows.foldl
    (fun indexes row =>
      match row.name with
      | some name => addRow name row indexes
      | none => indexes)
    []

end ExistingIndex

end SqlScribe
