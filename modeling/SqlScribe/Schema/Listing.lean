import SqlScribe.Catalog.Listing

/-!
# Columns and indexes of a table

The columns of a table are listed one row to a column, its indexes one row to a
column of an index.

Main definitions:

- `Schema.columnListing` describes columns with their part in the primary key.
- `Schema.indexListing` describes the columns of indexes.
-/

namespace SqlScribe.Schema

open Catalog (View Field Term Output Relation Listing Constant Match)

/-! ## Columns -/

/-- A field of a column. -/
def columnField (name : String) : Field := .ofView .columns name

/-- A field of an index. -/
def indexField (name : String) : Field := .ofView .indexes name

/-- A field of a column of an index. -/
def indexColumnField (name : String) : Field := .ofView .indexColumns name

/-- A field of a computed column. -/
def computedField (name : String) : Field := .ofView .computedColumns name

/-- The length in characters: texts with two bytes to a character are halved. -/
def lengthTerm : Term :=
  let length : Term := .field (columnField "max_length")
  .cast
    (.ifAmong (.field (columnField "system_type_id")) TypeCode.doubleWidth (.half length) length)
    .smallInt

/-- The stored definition of a default. -/
def defaultDefinition : Term := .definition (columnField "default_object_id")

/-- The branches that recognise the definitions of the generators. -/
def generatorBranches (result : Constant) : List (Constant × Constant) :=
  Generator.all.map fun generator => (.text generator.catalogDefinition, result)

/-- Whether a generator supplies the default. -/
def generatedTerm : Term :=
  .cast (.grouped (.choose defaultDefinition (generatorBranches (.number 1)) .zero)) .bit

/-- The default without parentheses, if no generator supplies it. -/
def defaultTerm : Term :=
  .choose defaultDefinition (generatorBranches .null)
    (.replace (.replace defaultDefinition "(" "") ")" "")

/-- Whether the index of a column is the one that sorts the table. -/
def clusteredTerm : Term :=
  .cast (.grouped (.choose (.field (indexField "type")) [(.number 1, .number 1)] .zero)) .bit

/-- Columns with the indexes they belong to and what is computed. -/
def columnRelation : Relation :=
  .leftJoin
    (.leftJoin
      (.leftJoin (.view .columns) .indexColumns
        [(columnField "column_id", indexColumnField "column_id"),
         (columnField "object_id", indexColumnField "object_id")])
      .indexes
      [(indexField "index_id", indexColumnField "index_id"),
       (indexField "object_id", indexColumnField "object_id")])
    .computedColumns
    [(columnField "column_id", computedField "column_id"),
     (columnField "object_id", computedField "object_id")]

/-- The listing of columns. -/
def columnListing : Listing where
  outputs :=
    [.ofField (columnField "name"), .ofField (columnField "system_type_id"),
     ⟨lengthTerm, some "max_length"⟩, .ofField (columnField "is_nullable"),
     .ofField (columnField "is_identity"), ⟨generatedTerm, some "is_auto_generated"⟩,
     ⟨defaultTerm, some "default_value"⟩,
     ⟨.orNumber (.field (indexField "is_primary_key")) 0, some "is_primary_key"⟩,
     ⟨clusteredTerm, some "is_primary_key_clustered"⟩, .ofField (columnField "precision"),
     .ofField (columnField "scale"), ⟨.field (computedField "definition"), some "computation"⟩,
     ⟨.field (computedField "is_persisted"), some "persisted_computation"⟩]
  relation := columnRelation
  owner := columnField "object_id"

/-! ## Indexes -/

/-- Indexes with their columns. -/
def indexRelation : Relation :=
  .join
    (.join (.view .indexes) .indexColumns
      [(indexField "object_id", indexColumnField "object_id"),
       (indexField "index_id", indexColumnField "index_id")])
    .columns
    [(indexColumnField "object_id", columnField "object_id"),
     (indexColumnField "column_id", columnField "column_id")]

/-- The listing of the columns of indexes. -/
def indexListing : Listing where
  outputs :=
    [.ofField (indexField "name"), .ofField (indexField "type"),
     .ofField (indexField "is_unique"), .ofField (indexField "is_primary_key"),
     ⟨.field (columnField "name"), some "column_name"⟩,
     .ofField (indexColumnField "is_descending_key")]
  separator := " , "
  relation := indexRelation
  owner := indexField "object_id"
  order := [indexField "name"]

end SqlScribe.Schema
