import SqlScribe.Json.Record

/-!
# Tables

A table is referred to by its name and, optionally, by the schema it lives in.

Main definitions:

- `Table` is such a reference and `Table.objectName` its one-part spelling.
- `Table.ofQualified` splits a spelling at its first dot.

Main results:

- `Table.objectName_ofQualified` puts a split spelling together again.
- `Table.ofJson?_toJson` reads back every document.
-/

namespace SqlScribe

/-- A reference to a table. -/
structure Table where
  name : String
  schema : Option String := none
deriving DecidableEq, Inhabited

namespace Table

/-- The schema and the name with a dot between them, or the name alone. -/
def objectName (table : Table) : String :=
  match table.schema with
  | some schema => schema ++ "." ++ table.name
  | none => table.name

/-- Splits text at the first occurrence of a character. -/
def splitFirst? (mark : Char) : List Char → Option (List Char × List Char)
  | [] => none
  | c :: rest =>
    if c = mark then some ([], rest)
    else (splitFirst? mark rest).map fun (before, after) => (c :: before, after)

/-- The table that a spelling refers to: what stands before the first dot is the
schema. -/
def ofQualified (spelling : String) : Table :=
  match splitFirst? '.' spelling.toList with
  | some (schema, name) => ⟨String.ofList name, some (String.ofList schema)⟩
  | none => ⟨spelling, none⟩

/-- The parts of a split text make up the text. -/
theorem append_of_splitFirst? {mark : Char} {text before after : List Char}
    (h : splitFirst? mark text = some (before, after)) : before ++ mark :: after = text := by
  induction text generalizing before with
  | nil => simp [splitFirst?] at h
  | cons c rest ih =>
    simp only [splitFirst?] at h
    split at h
    · next same =>
      simp only [Option.some.injEq, Prod.mk.injEq] at h
      simp [← h.1, ← h.2, same]
    · obtain ⟨⟨inner, tail⟩, found, parts⟩ := Option.map_eq_some_iff.mp h
      simp only [Prod.mk.injEq] at parts
      obtain ⟨rfl, rfl⟩ := parts
      simp [ih found]

/-- Splitting a spelling and putting it together again changes nothing. -/
theorem objectName_ofQualified (spelling : String) :
    (ofQualified spelling).objectName = spelling := by
  unfold ofQualified
  split
  · next schema name found =>
    have parts := append_of_splitFirst? found
    simp only [objectName]
    rw [← String.ofList_toList (s := spelling), ← parts]
    simp [String.ofList_append, String.append_assoc]
  · rfl

/-! ## Documents -/

/-- The document of a table. -/
def toJson (table : Table) : Json :=
  .object (("name", .text table.name) ::
    (table.schema.map fun schema => ("schema", Json.text schema)).toList)

/-- Reads the document of a table. -/
def ofJson? (document : Json) : Option Table := do
  let record ← document.record? ["name", "schema"]
  let name ← record.required? "name" Json.text?
  let schema ← record.optional? "schema" Json.text?
  some ⟨name, schema⟩

/-- Every table is read back from its document. -/
@[simp] theorem ofJson?_toJson (table : Table) : ofJson? table.toJson = some table := by
  obtain ⟨name, _ | schema⟩ := table <;> rfl

end Table

end SqlScribe
