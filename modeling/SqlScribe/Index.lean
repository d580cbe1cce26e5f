import SqlScribe.Direction

/-!
# Indexes

An index sorts a table by one or more columns.  An index without a name of its
own is named after its table and its columns.

Main definitions:

- `Index` and `IndexKey` describe an index, `Index.nameFor` gives its name.
-/

namespace SqlScribe

/-- A column of an index. -/
structure IndexKey where
  name : String
  direction : Direction := .ascending
deriving DecidableEq

/-- An index of a table. -/
structure Index where
  name : Option String := none
  /-- The columns in key order. -/
  keys : List IndexKey
  clustered : Bool := false
  unique : Bool := false
deriving DecidableEq

namespace Index

/-- The name on a table: its own, or one made of the table and the columns. -/
def nameFor (index : Index) (table : String) : String :=
  index.name.getD
    (index.keys.foldl (fun name key => name ++ "_" ++ key.name) ("IX_" ++ table))

/-- An index with a name of its own is called so on every table. -/
@[simp] theorem nameFor_some (name table : String) (keys : List IndexKey)
    (clustered unique : Bool) :
    nameFor ⟨some name, keys, clustered, unique⟩ table = name := rfl

end Index

/-! ## Documents -/

namespace IndexKey

/-- The document of an index column. -/
def toJson (key : IndexKey) : Json :=
  .object [("name", .text key.name), ("order", key.direction.toJson)]

/-- Reads the document of an index column. -/
def ofJson? (document : Json) : Option IndexKey := do
  let record ← document.record? ["name", "order"]
  let name ← record.required? "name" Json.text?
  let direction ← record.defaulted? "order" .ascending Direction.ofJson?
  some ⟨name, direction⟩

/-- Every index column is read back from its document. -/
@[simp] theorem ofJson?_toJson (key : IndexKey) : ofJson? key.toJson = some key := by
  obtain ⟨name, _ | _⟩ := key <;> rfl

end IndexKey

namespace Index

/-- The document of an index. -/
def toJson (index : Index) : Json :=
  .object ((index.name.map fun name => ("name", Json.text name)).toList ++
    [("columns", .array (index.keys.map IndexKey.toJson)), ("clustered", .bool index.clustered),
     ("unique", .bool index.unique)])

/-- Reads the document of an index. -/
def ofJson? (document : Json) : Option Index := do
  let record ← document.record? ["name", "columns", "clustered", "unique"]
  let name ← record.optional? "name" Json.text?
  let keys ← record.required? "columns" (Json.listOf? IndexKey.ofJson?)
  let clustered ← record.defaulted? "clustered" false Json.bool?
  let unique ← record.defaulted? "unique" false Json.bool?
  some ⟨name, keys, clustered, unique⟩

end Index

end SqlScribe
