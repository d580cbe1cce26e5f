import Mathlib.Data.List.Nodup
import SqlScribe.Migration

/-!
# Tables under the steps of a migration

The server keeps the columns and the indexes of a table.  It refuses a step that would
leave an index without one of its columns or two things under one name.

Main definitions:

- `StoredTable` is a table with its columns and indexes.
- `StoredTable.take?` takes a step and `StoredTable.run` several ones.
- `StoredTable.Consistent` says that names are taken once and that the columns of
  indexes are there.

Main results:

- `StoredTable.Consistent.run`: steps that can be taken keep a table consistent.
- `StoredTable.run_dropIndexes`, `StoredTable.run_dropColumns`,
  `StoredTable.run_addColumns` and `StoredTable.run_addIndexes`: when steps of one kind can
  be taken, and what is there after them.
-/

namespace SqlScribe

/-- Whether an index sorts by a column. -/
def Index.uses (index : Index) (column : String) : Bool :=
  index.keys.any fun key => Text.equalsIgnoringAsciiCase key.name column

/-- A table as the server keeps it. -/
structure StoredTable where
  table : Table
  columns : List Column
  /-- The indexes, those of the primary key included. -/
  indexes : List ExistingIndex

namespace StoredTable

/-! ## Steps -/

/-- Whether a column exists. -/
def hasColumn (stored : StoredTable) (name : String) : Bool :=
  stored.columns.any fun column => Text.equalsIgnoringAsciiCase column.name name

/-- Whether the name of an index is taken. -/
def hasIndex (stored : StoredTable) (name : String) : Bool :=
  stored.indexes.any fun existing => Migration.isNamed stored.table name existing.index

/-- The indexes besides those of the primary key. -/
def otherIndexes (stored : StoredTable) : List Index :=
  (stored.indexes.filter (!·.isPrimaryKey)).map (·.index)

/-- The table without an index. -/
def withoutIndex (stored : StoredTable) (name : String) : StoredTable :=
  { stored with
    indexes := stored.indexes.filter fun existing =>
      existing.isPrimaryKey || !Migration.isNamed stored.table name existing.index }

/-- The table without a column. -/
def withoutColumn (stored : StoredTable) (name : String) : StoredTable :=
  { stored with
    columns := stored.columns.filter fun column =>
      !Text.equalsIgnoringAsciiCase column.name name }

/-- The table with a further column. -/
def withColumn (stored : StoredTable) (column : Column) : StoredTable :=
  { stored with columns := stored.columns ++ [column] }

/-- The table with a further index. -/
def withIndex (stored : StoredTable) (index : Index) : StoredTable :=
  { stored with indexes := stored.indexes ++ [⟨index, false⟩] }

/-- Takes a step of a migration of this table.  Dropping what is not there does nothing.
A column cannot be dropped while an index besides those of the primary key uses it, no name
can be taken twice, and an index needs its columns. -/
def take? (stored : StoredTable) : SchemaOperation → Option StoredTable
  | .dropIndex table name =>
    if table = stored.table then some (stored.withoutIndex name) else none
  | .dropColumn table name =>
    if table = stored.table ∧ ∀ index ∈ stored.otherIndexes, index.uses name = false then
      some (stored.withoutColumn name)
    else none
  | .addColumn table column =>
    if table = stored.table ∧ stored.hasColumn column.name = false then
      some (stored.withColumn column)
    else none
  | .addIndex table index =>
    if table = stored.table ∧ stored.hasIndex (index.nameFor table.name) = false ∧
        ∀ key ∈ index.keys, stored.hasColumn key.name = true then
      some (stored.withIndex index)
    else none
  | _ => none

/-- Takes one step after the other. -/
def run (stored : StoredTable) (operations : List SchemaOperation) : Option StoredTable :=
  operations.foldlM take? stored

@[simp] theorem run_nil (stored : StoredTable) : stored.run [] = some stored := rfl

/-- Operations are taken one after the other. -/
theorem run_cons (stored : StoredTable) (operation : SchemaOperation)
    (rest : List SchemaOperation) :
    stored.run (operation :: rest) = (stored.take? operation).bind (·.run rest) := rfl

/-- Operations behind others are taken by the table that these leave. -/
theorem run_append (stored : StoredTable) (first second : List SchemaOperation) :
    stored.run (first ++ second) = (stored.run first).bind (·.run second) :=
  List.foldlM_append

/-! ## What is there -/

/-- The names of the columns, as they are compared. -/
def columnNames (stored : StoredTable) : List (List Char) :=
  stored.columns.map fun column => Text.foldAsciiCase column.name

/-- The names of the indexes, as they are compared. -/
def indexNames (stored : StoredTable) : List (List Char) :=
  stored.indexes.map fun existing =>
    Text.foldAsciiCase (existing.index.nameFor stored.table.name)

/-- A table has the columns whose names it has, the case of ASCII letters aside. -/
theorem hasColumn_iff {stored : StoredTable} {name : String} :
    stored.hasColumn name = true ↔ Text.foldAsciiCase name ∈ stored.columnNames := by
  simp [hasColumn, columnNames, Text.equalsIgnoringAsciiCase_iff]

/-- A table has the indexes whose names it has, the case of ASCII letters aside. -/
theorem hasIndex_iff {stored : StoredTable} {name : String} :
    stored.hasIndex name = true ↔ Text.foldAsciiCase name ∈ stored.indexNames := by
  simp [hasIndex, indexNames, Migration.isNamed, Text.equalsIgnoringAsciiCase_iff]

/-- The other indexes are those that do not keep the primary key. -/
theorem mem_otherIndexes {stored : StoredTable} {index : Index} :
    index ∈ stored.otherIndexes ↔ ⟨index, false⟩ ∈ stored.indexes := by
  simp only [otherIndexes, List.mem_map, List.mem_filter, Bool.not_eq_true']
  constructor
  · rintro ⟨⟨_, _⟩, ⟨hmem, rfl⟩, rfl⟩
    exact hmem
  · exact fun hmem => ⟨_, ⟨hmem, rfl⟩, rfl⟩

/-- An added column is the last one. -/
@[simp] theorem columnNames_withColumn (stored : StoredTable) (column : Column) :
    (stored.withColumn column).columnNames =
      stored.columnNames ++ [Text.foldAsciiCase column.name] := by
  simp [columnNames, withColumn]

/-- An added index is the last one. -/
@[simp] theorem indexNames_withIndex (stored : StoredTable) (index : Index) :
    (stored.withIndex index).indexNames =
      stored.indexNames ++ [Text.foldAsciiCase (index.nameFor stored.table.name)] := by
  simp [indexNames, withIndex]

/-- Names of columns and indexes are taken once, and the columns of every index besides
those of the primary key are there. -/
structure Consistent (stored : StoredTable) : Prop where
  columns_nodup : stored.columnNames.Nodup
  indexes_nodup : stored.indexNames.Nodup
  hasColumn_of_key : ∀ index ∈ stored.otherIndexes, ∀ key ∈ index.keys,
    stored.hasColumn key.name = true

/-! ## Steps keep a table consistent -/

namespace Consistent

variable {stored next : StoredTable}

/-- A table stays consistent when an index is dropped. -/
theorem withoutIndex (hstored : stored.Consistent) (name : String) :
    (stored.withoutIndex name).Consistent where
  columns_nodup := hstored.columns_nodup
  indexes_nodup := hstored.indexes_nodup.sublist (List.filter_sublist.map _)
  hasColumn_of_key := by
    intro index hindex
    rw [mem_otherIndexes, StoredTable.withoutIndex, List.mem_filter] at hindex
    exact hstored.hasColumn_of_key index (mem_otherIndexes.mpr hindex.1)

/-- A table stays consistent when a column is dropped that no index uses. -/
theorem withoutColumn {name : String} (hstored : stored.Consistent)
    (hunused : ∀ index ∈ stored.otherIndexes, index.uses name = false) :
    (stored.withoutColumn name).Consistent where
  columns_nodup := hstored.columns_nodup.sublist (List.filter_sublist.map _)
  indexes_nodup := hstored.indexes_nodup
  hasColumn_of_key := by
    intro index hindex key hkey
    have hother := List.any_eq_false.mp (hunused index hindex) key hkey
    obtain ⟨column, hcolumn, hsame⟩ := List.any_eq_true.mp
      (hstored.hasColumn_of_key index hindex key hkey)
    refine List.any_eq_true.mpr ⟨column, List.mem_filter.mpr ⟨hcolumn, ?_⟩, hsame⟩
    rw [Text.equalsIgnoringAsciiCase_iff] at hsame
    simpa [Text.equalsIgnoringAsciiCase, hsame] using hother

/-- A table stays consistent when a column of a new name is added. -/
theorem withColumn {column : Column} (hstored : stored.Consistent)
    (hnew : stored.hasColumn column.name = false) : (stored.withColumn column).Consistent where
  columns_nodup := by
    rw [columnNames_withColumn, ← List.concat_eq_append]
    exact hstored.columns_nodup.concat (by simp [← hasColumn_iff, hnew])
  indexes_nodup := hstored.indexes_nodup
  hasColumn_of_key := by
    intro index hindex key hkey
    have hkept := hasColumn_iff.mp (hstored.hasColumn_of_key index hindex key hkey)
    rw [hasColumn_iff, columnNames_withColumn]
    exact List.mem_append_left _ hkept

/-- A table stays consistent when an index of a new name is added to columns that are there. -/
theorem withIndex {index : Index} (hstored : stored.Consistent)
    (hnew : stored.hasIndex (index.nameFor stored.table.name) = false)
    (hkeys : ∀ key ∈ index.keys, stored.hasColumn key.name = true) :
    (stored.withIndex index).Consistent where
  columns_nodup := hstored.columns_nodup
  indexes_nodup := by
    rw [indexNames_withIndex, ← List.concat_eq_append]
    exact hstored.indexes_nodup.concat (by simp [← hasIndex_iff, hnew])
  hasColumn_of_key := by
    intro other hother
    rw [mem_otherIndexes, StoredTable.withIndex, List.mem_append, List.mem_singleton] at hother
    rcases hother with hmem | heq
    · exact hstored.hasColumn_of_key other (mem_otherIndexes.mpr hmem)
    · cases heq
      exact hkeys

/-- A step that can be taken keeps a table consistent. -/
theorem take? {operation : SchemaOperation} (hstored : stored.Consistent)
    (htake : stored.take? operation = some next) : next.Consistent := by
  cases operation with
  | dropIndex table name =>
    obtain ⟨-, ⟨⟩⟩ := Option.ite_none_right_eq_some.mp htake
    exact hstored.withoutIndex name
  | dropColumn table name =>
    obtain ⟨⟨-, hunused⟩, ⟨⟩⟩ := Option.ite_none_right_eq_some.mp htake
    exact hstored.withoutColumn hunused
  | addColumn table column =>
    obtain ⟨⟨-, hnew⟩, ⟨⟩⟩ := Option.ite_none_right_eq_some.mp htake
    exact hstored.withColumn hnew
  | addIndex table index =>
    obtain ⟨⟨rfl, hnew, hkeys⟩, ⟨⟩⟩ := Option.ite_none_right_eq_some.mp htake
    exact hstored.withIndex hnew hkeys
  | _ => cases htake

/-- Steps that can be taken keep a table consistent. -/
theorem run {operations : List SchemaOperation} (hstored : stored.Consistent)
    (hrun : stored.run operations = some next) : next.Consistent := by
  induction operations generalizing stored with
  | nil =>
    cases hrun
    exact hstored
  | cons operation rest ih =>
    rw [run_cons, Option.bind_eq_some_iff] at hrun
    obtain ⟨between, htake, hrest⟩ := hrun
    exact ih (hstored.take? htake) hrest

end Consistent

/-! ## Steps of one kind -/

section Phases

variable (stored : StoredTable)

/-- Indexes can always be dropped. -/
theorem run_dropIndexes (names : List String) :
    stored.run (names.map (.dropIndex stored.table)) =
      some { stored with
        indexes := stored.indexes.filter fun existing =>
          existing.isPrimaryKey ||
            !names.any fun name => Migration.isNamed stored.table name existing.index } := by
  induction names generalizing stored with
  | nil => simp
  | cons name rest ih =>
    have hrest := ih (stored.withoutIndex name)
    simp only [withoutIndex, List.filter_filter] at hrest
    simp only [List.map_cons, run_cons, take?, if_true, Option.bind_some, withoutIndex, hrest]
    congr 3
    funext existing
    cases existing.isPrimaryKey <;> simp [Bool.and_comm]

/-- Columns can be dropped that no index uses. -/
theorem run_dropColumns {names : List String}
    (hunused : ∀ name ∈ names, ∀ index ∈ stored.otherIndexes, index.uses name = false) :
    stored.run (names.map (.dropColumn stored.table)) =
      some { stored with
        columns := stored.columns.filter fun column =>
          !names.any fun name => Text.equalsIgnoringAsciiCase column.name name } := by
  induction names generalizing stored with
  | nil => simp
  | cons name rest ih =>
    have hrest := ih (stored.withoutColumn name) fun other hother =>
      hunused other (List.mem_cons_of_mem _ hother)
    simp only [withoutColumn, List.filter_filter] at hrest
    have hfirst := hunused name List.mem_cons_self
    simp only [List.map_cons, run_cons, take?, true_and, if_pos hfirst, Option.bind_some,
      withoutColumn, hrest]
    simp [Bool.and_comm]

/-- Columns can be added that do not exist, each of them once. -/
theorem run_addColumns {columns : List Column}
    (hnew : ∀ column ∈ columns, stored.hasColumn column.name = false)
    (hnodup : (columns.map fun column => Text.foldAsciiCase column.name).Nodup) :
    stored.run (columns.map (.addColumn stored.table)) =
      some { stored with columns := stored.columns ++ columns } := by
  induction columns generalizing stored with
  | nil => simp
  | cons column rest ih =>
    obtain ⟨hother, hrestNodup⟩ := List.nodup_cons.mp hnodup
    have hfirst := hnew column List.mem_cons_self
    have hrestNew : ∀ next ∈ rest, (stored.withColumn column).hasColumn next.name = false := by
      intro next hnext
      have hfree := hnew next (List.mem_cons_of_mem _ hnext)
      rw [← Bool.not_eq_true, hasColumn_iff] at hfree ⊢
      rw [columnNames_withColumn, List.mem_append, List.mem_singleton, not_or]
      exact ⟨hfree, fun hsame => hother (List.mem_map.mpr ⟨next, hnext, hsame⟩)⟩
    have hrest := ih (stored.withColumn column) hrestNew hrestNodup
    simp only [withColumn] at hrest
    simp only [List.map_cons, run_cons, take?, true_and, if_pos hfirst, Option.bind_some,
      withColumn, hrest, List.append_assoc, List.singleton_append]

/-- Indexes can be added whose names are free, each of them once, if their columns are
there. -/
theorem run_addIndexes {indexes : List Index}
    (hnew : ∀ index ∈ indexes, stored.hasIndex (index.nameFor stored.table.name) = false)
    (hnodup :
      (indexes.map fun index => Text.foldAsciiCase (index.nameFor stored.table.name)).Nodup)
    (hkeys : ∀ index ∈ indexes, ∀ key ∈ index.keys, stored.hasColumn key.name = true) :
    stored.run (indexes.map (.addIndex stored.table)) =
      some { stored with indexes := stored.indexes ++ indexes.map (⟨·, false⟩) } := by
  induction indexes generalizing stored with
  | nil => simp
  | cons index rest ih =>
    obtain ⟨hother, hrestNodup⟩ := List.nodup_cons.mp hnodup
    have hfirst := hnew index List.mem_cons_self
    have hrestNew : ∀ next ∈ rest,
        (stored.withIndex index).hasIndex (next.nameFor stored.table.name) = false := by
      intro next hnext
      have hfree := hnew next (List.mem_cons_of_mem _ hnext)
      rw [← Bool.not_eq_true, hasIndex_iff] at hfree ⊢
      rw [indexNames_withIndex, List.mem_append, List.mem_singleton, not_or]
      exact ⟨hfree, fun hsame => hother (List.mem_map.mpr ⟨next, hnext, hsame⟩)⟩
    have hrest := ih (stored.withIndex index) hrestNew hrestNodup fun next hnext =>
      hkeys next (List.mem_cons_of_mem _ hnext)
    simp only [withIndex] at hrest
    simp only [List.map_cons, run_cons, take?, true_and,
      if_pos (And.intro hfirst (hkeys index List.mem_cons_self)), Option.bind_some, withIndex,
      hrest, List.append_assoc, List.singleton_append]

end Phases

end StoredTable

end SqlScribe
