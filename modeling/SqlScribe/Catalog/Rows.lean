import SqlScribe.Column.Document

/-!
# Rows of the catalog

The listings of the catalog return rows of four forms.

Main definitions:

- `CatalogColumn` is a row of a column listing, `CatalogIndexKey` one of an index
  listing.
- `UnionColumn` and `SharedColumn` are rows of the listings of columns that tables
  share.
- Each has `toJson` and `ofJson?` for its document.
-/

namespace SqlScribe

/-- A column as the catalog describes it. -/
structure CatalogColumn where
  name : String
  typeCode : Int32
  /-- The length in characters or bytes; negative if it is the greatest. -/
  maxLength : Int16
  isNullable : Bool
  isIdentity : Bool
  isAutoGenerated : Bool
  defaultValue : Option String := none
  isPrimaryKey : Bool
  isPrimaryKeyClustered : Bool
  precision : UInt8
  scale : UInt8
  computation : Option String := none
  persistedComputation : Option Bool := none
deriving DecidableEq

/-- A column of an index as the catalog describes it. -/
structure CatalogIndexKey where
  /-- The name of the index; a table without any has one without a name. -/
  name : Option String
  indexType : UInt8
  isUnique : Bool
  isPrimaryKey : Bool
  columnName : String
  isDescending : Bool
deriving DecidableEq

/-- A column that tables share. -/
structure UnionColumn where
  name : String
  systemTypeCode : Int32
  userTypeCode : Int32
deriving DecidableEq

/-- A column that source tables and the destination of a copy share. -/
structure SharedColumn where
  name : String
  narrowing : Bool
deriving DecidableEq

/-! ## Documents -/

/-- The document of an optional part, null if it is absent. -/
def Json.orNull {α : Type} (write : α → Json) : Option α → Json
  | none => .null
  | some part => write part

namespace CatalogColumn

/-- The document of a column row. -/
def toJson (row : CatalogColumn) : Json :=
  .object
    [("name", .text row.name), ("system_type_id", .int row.typeCode.toInt),
     ("max_length", .int row.maxLength.toInt), ("is_nullable", .bool row.isNullable),
     ("is_identity", .bool row.isIdentity), ("is_auto_generated", .bool row.isAutoGenerated),
     ("default_value", Json.orNull .text row.defaultValue),
     ("is_primary_key", .bool row.isPrimaryKey),
     ("is_primary_key_clustered", .bool row.isPrimaryKeyClustered),
     ("precision", .int row.precision.toNat), ("scale", .int row.scale.toNat),
     ("computation", Json.orNull .text row.computation),
     ("persisted_computation", Json.orNull .bool row.persistedComputation)]

/-- Reads the document of a column row. -/
def ofJson? (document : Json) : Option CatalogColumn := do
  let record ← document.record?
    ["name", "system_type_id", "max_length", "is_nullable", "is_identity", "is_auto_generated",
     "default_value", "is_primary_key", "is_primary_key_clustered", "precision", "scale",
     "computation", "persisted_computation"]
  let name ← record.required? "name" Json.text?
  let typeCode ← record.required? "system_type_id" Json.int32?
  let maxLength ← record.required? "max_length" Json.int16?
  let isNullable ← record.required? "is_nullable" Json.bool?
  let isIdentity ← record.required? "is_identity" Json.bool?
  let isAutoGenerated ← record.required? "is_auto_generated" Json.bool?
  let defaultValue ← record.optional? "default_value" Json.text?
  let isPrimaryKey ← record.required? "is_primary_key" Json.bool?
  let isPrimaryKeyClustered ← record.required? "is_primary_key_clustered" Json.bool?
  let precision ← record.required? "precision" Json.uint8?
  let scale ← record.required? "scale" Json.uint8?
  let computation ← record.optional? "computation" Json.text?
  let persistedComputation ← record.optional? "persisted_computation" Json.bool?
  some { name, typeCode, maxLength, isNullable, isIdentity, isAutoGenerated, defaultValue,
         isPrimaryKey, isPrimaryKeyClustered, precision, scale, computation,
         persistedComputation }

end CatalogColumn

namespace CatalogIndexKey

/-- The document of an index row. -/
def toJson (row : CatalogIndexKey) : Json :=
  .object
    [("name", Json.orNull .text row.name), ("type", .int row.indexType.toNat),
     ("is_unique", .bool row.isUnique), ("is_primary_key", .bool row.isPrimaryKey),
     ("column_name", .text row.columnName), ("is_descending_key", .bool row.isDescending)]

/-- Reads the document of an index row. -/
def ofJson? (document : Json) : Option CatalogIndexKey := do
  let record ← document.record?
    ["name", "type", "is_unique", "is_primary_key", "column_name", "is_descending_key"]
  let name ← record.optional? "name" Json.text?
  let indexType ← record.required? "type" Json.uint8?
  let isUnique ← record.required? "is_unique" Json.bool?
  let isPrimaryKey ← record.required? "is_primary_key" Json.bool?
  let columnName ← record.required? "column_name" Json.text?
  let isDescending ← record.required? "is_descending_key" Json.bool?
  some { name, indexType, isUnique, isPrimaryKey, columnName, isDescending }

end CatalogIndexKey

namespace UnionColumn

/-- The document of a column that tables share. -/
def toJson (row : UnionColumn) : Json :=
  .object
    [("name", .text row.name), ("system_type_id", .int row.systemTypeCode.toInt),
     ("user_type_id", .int row.userTypeCode.toInt)]

/-- Reads the document of a column that tables share. -/
def ofJson? (document : Json) : Option UnionColumn := do
  let record ← document.record? ["name", "system_type_id", "user_type_id"]
  let name ← record.required? "name" Json.text?
  let systemTypeCode ← record.required? "system_type_id" Json.int32?
  let userTypeCode ← record.required? "user_type_id" Json.int32?
  some { name, systemTypeCode, userTypeCode }

end UnionColumn

namespace SharedColumn

/-- The document of a column shared with a destination. -/
def toJson (row : SharedColumn) : Json :=
  .object [("name", .text row.name), ("NarrowingConversion", .bool row.narrowing)]

/-- Reads the document of a column shared with a destination. -/
def ofJson? (document : Json) : Option SharedColumn := do
  let record ← document.record? ["name", "NarrowingConversion"]
  let name ← record.required? "name" Json.text?
  let narrowing ← record.required? "NarrowingConversion" Json.bool?
  some { name, narrowing }

end SharedColumn

end SqlScribe
