import SqlScribe.Proofs.Catalog.Joins

/-!
# Rows of the listing of columns

The listing of the columns of a table joins each column with the indexes that it belongs to.  It
has a row for every index of a column, and one row for a column without any, so a column is
listed once just if it belongs to at most one index.

Main definitions:

- `Catalog.Content.usesOf` are the entries of a column as part of indexes.
- `Catalog.Environment.ListsOnce` says that the listing has one row for each column, and that it
  tells the columns of the primary key from the others.

Main results:

- `Catalog.Environment.listed_columnListing`: the rows of the listing, column by column.
- `Catalog.Environment.listsOnce_iff`: when each column has one row.
-/

namespace SqlScribe.Catalog

open Schema (columnField indexField indexColumnField computedField columnRelation columnListing)

/-! ## What belongs to a column -/

namespace Content

variable (content : Content)

/-- The entries of a column as part of indexes. -/
def usesOf (column : ColumnEntry) : List IndexColumnEntry :=
  content.indexColumns.filter fun entry =>
    (entry.object, entry.column) = (column.object, column.column)

/-- The index that an entry of a column is part of. -/
def indexOf? (use : IndexColumnEntry) : Option IndexEntry :=
  content.indexes.find? fun entry => (entry.object, entry.index) = (use.object, use.index)

/-- The computation of a column. -/
def computationOf? (column : ColumnEntry) : Option ComputedColumnEntry :=
  content.computedColumns.find? fun entry =>
    (entry.object, entry.column) = (column.object, column.column)

/-- Whether a column belongs to the index that keeps the primary key. -/
def InPrimaryKey (column : ColumnEntry) : Prop :=
  ∃ use ∈ content.indexColumns, ∃ index ∈ content.indexes,
    (use.object, use.column) = (column.object, column.column) ∧
      (index.object, index.index) = (use.object, use.index) ∧ index.isPrimaryKey = true

/-- The row of a column with one of its uses, or without any. -/
def columnRow (column : ColumnEntry) (use : Option IndexColumnEntry) : JoinedRow :=
  .ofEntries (some column) use (use.bind content.indexOf?) (content.computationOf? column)

/-- The rows of a column: one for each use, or a single one. -/
def columnRows (column : ColumnEntry) : List JoinedRow :=
  (orAlone none ((content.usesOf column).map some)).map (content.columnRow column)

end Content

/-! ## Rows of the joined views -/

namespace Content

variable (content : Content)

/-- A column is matched by its uses. -/
theorem matching_indexColumns (column : ColumnEntry) :
    (JoinedRow.ofEntries (some column) none none none).matching content.records .indexColumns
        [(columnField "column_id", indexColumnField "column_id"),
         (columnField "object_id", indexColumnField "object_id")] =
      (content.usesOf column).map fun use => .ofEntries (some column) (some use) none none := by
  rw [JoinedRow.matching_entries content.indexColumns
    (fun entry => (entry.object, entry.column) = (column.object, column.column)) rfl]
  · simp only [JoinedRow.extend_indexColumns]
    rfl
  · intro entry
    rw [JoinedRow.extend_indexColumns, JoinedRow.satisfies_pair_iff rfl rfl rfl rfl, Prod.mk.injEq]
    omega

/-- A use is matched by its index, and no index matches where there is no use. -/
theorem matching_indexes (column : ColumnEntry) (use : Option IndexColumnEntry) :
    (JoinedRow.ofEntries (some column) use none none).matching content.records .indexes
        [(indexField "index_id", indexColumnField "index_id"),
         (indexField "object_id", indexColumnField "object_id")] =
      (use.bind content.indexOf?).toList.map fun index =>
        .ofEntries (some column) use (some index) none := by
  cases use with
  | none =>
    rw [JoinedRow.matching_entries content.indexes (fun _ => False) rfl]
    · simp
    · intro entry
      rw [JoinedRow.extend_indexes]
      exact iff_of_false Bool.false_ne_true id
  | some use =>
    rw [JoinedRow.matching_entries content.indexes
      (fun entry => (entry.object, entry.index) = (use.object, use.index)) rfl]
    · rw [filter_eq_toList_find? content.indexes_distinct]
      simp only [JoinedRow.extend_indexes]
      rfl
    · intro entry
      rw [JoinedRow.extend_indexes, JoinedRow.satisfies_pair_iff rfl rfl rfl rfl, Prod.mk.injEq]
      omega

/-- A column is matched by its computation. -/
theorem matching_computedColumns (column : ColumnEntry) (use : Option IndexColumnEntry)
    (index : Option IndexEntry) :
    (JoinedRow.ofEntries (some column) use index none).matching content.records .computedColumns
        [(columnField "column_id", computedField "column_id"),
         (columnField "object_id", computedField "object_id")] =
      (content.computationOf? column).toList.map fun computed =>
        .ofEntries (some column) use index (some computed) := by
  rw [JoinedRow.matching_entries content.computedColumns
    (fun entry => (entry.object, entry.column) = (column.object, column.column)) rfl]
  · rw [filter_eq_toList_find? content.computedColumns_distinct]
    simp only [JoinedRow.extend_computedColumns]
    rfl
  · intro entry
    rw [JoinedRow.extend_computedColumns, JoinedRow.satisfies_pair_iff rfl rfl rfl rfl,
      Prod.mk.injEq]
    omega

/-- The joined views have the rows of one column after the other. -/
theorem rows_columnRelation :
    columnRelation.rows content.records = content.columns.flatMap content.columnRows := by
  have huses (column : ColumnEntry) :
      orAlone (JoinedRow.ofEntries (some column) none none none)
          ((content.usesOf column).map fun use => .ofEntries (some column) (some use) none none) =
        (orAlone none ((content.usesOf column).map some)).map fun use =>
          .ofEntries (some column) use none none := by
    rw [map_orAlone, List.map_map]
    rfl
  have hindex (column : ColumnEntry) (use : Option IndexColumnEntry) :
      (use.bind content.indexOf?).elim (JoinedRow.ofEntries (some column) use none none)
          (fun index => .ofEntries (some column) use (some index) none) =
        .ofEntries (some column) use (use.bind content.indexOf?) none := by
    cases use.bind content.indexOf? <;> rfl
  have hcomputed (column : ColumnEntry) (use : Option IndexColumnEntry)
      (index : Option IndexEntry) :
      (content.computationOf? column).elim (JoinedRow.ofEntries (some column) use index none)
          (fun computed => .ofEntries (some column) use index (some computed)) =
        .ofEntries (some column) use index (content.computationOf? column) := by
    cases content.computationOf? column <;> rfl
  simp only [columnRelation, Relation.rows, records, List.map_map, List.flatMap_map,
    Function.comp_def, ← JoinedRow.ofEntries_none, JoinedRow.extend_columns,
    matching_indexColumns, huses, List.flatMap_assoc, matching_indexes, orAlone_map_toList, hindex,
    List.flatMap_cons, List.flatMap_nil, matching_computedColumns, hcomputed, List.append_nil]
  refine List.flatMap_congr fun column _ => ?_
  simp only [columnRows, List.map_eq_flatMap]
  rfl

/-- The index of a use is found by its number. -/
theorem indexOf?_eq_some {use : IndexColumnEntry} {index : IndexEntry}
    (hindex : index ∈ content.indexes)
    (hsame : (index.object, index.index) = (use.object, use.index)) :
    content.indexOf? use = some index := by
  have hfound : index ∈ content.indexes.filter fun entry =>
      (entry.object, entry.index) = (use.object, use.index) :=
    List.mem_filter.mpr ⟨hindex, decide_eq_true hsame⟩
  rw [filter_eq_toList_find? content.indexes_distinct] at hfound
  exact Option.mem_toList.mp hfound

/-- A column belongs to the primary key just if one of its uses does. -/
theorem inPrimaryKey_iff (column : ColumnEntry) :
    content.InPrimaryKey column ↔
      ∃ use ∈ content.usesOf column, ∃ index, content.indexOf? use = some index ∧
        index.isPrimaryKey = true := by
  constructor
  · rintro ⟨use, huse, index, hindex, hcolumn, hsame, hkey⟩
    exact ⟨use, List.mem_filter.mpr ⟨huse, decide_eq_true hcolumn⟩, index,
      content.indexOf?_eq_some hindex hsame, hkey⟩
  · rintro ⟨use, huse, index, hindex, hkey⟩
    obtain ⟨huse, hcolumn⟩ := List.mem_filter.mp huse
    have hsame := List.find?_some hindex
    exact ⟨use, huse, index, List.mem_of_find?_eq_some hindex, of_decide_eq_true hcolumn,
      of_decide_eq_true hsame, hkey⟩

/-- The mark of a row is that of the index of its use. -/
theorem value_isPrimaryKey_iff (environment : Environment) (column : ColumnEntry)
    (use : Option IndexColumnEntry) :
    columnListing.value environment (content.columnRow column use).value "is_primary_key" =
        .number 1 ↔
      ∃ index, use.bind content.indexOf? = some index ∧ index.isPrimaryKey = true := by
  have hterm (field : Field → Constant) :
      columnListing.value environment field "is_primary_key" =
        (Term.orNumber (.field (indexField "is_primary_key")) 0).value environment field := rfl
  rw [hterm]
  cases hindex : use.bind content.indexOf? with
  | none =>
    have hfield : (content.columnRow column use).value (indexField "is_primary_key") = .null := by
      rw [columnRow, hindex]
      rfl
    simp [Term.value, hfield]
  | some index =>
    have hfield : (content.columnRow column use).value (indexField "is_primary_key") =
        .ofBool index.isPrimaryKey := by
      rw [columnRow, hindex]
      rfl
    cases hkey : index.isPrimaryKey <;> simp [Term.value, hfield, Constant.ofBool, hkey]

/-- A column has as many rows as uses, and one at least. -/
theorem length_columnRows (column : ColumnEntry) :
    (content.columnRows column).length = max 1 (content.usesOf column).length := by
  rw [columnRows, List.length_map, length_orAlone, List.length_map]

end Content

/-! ## Rows of a table -/

/-- Sources with a row each give as many rows at least. -/
theorem length_le_length_flatMap {α β : Type} {rows : α → List β} {sources : List α}
    (hrows : ∀ source ∈ sources, 1 ≤ (rows source).length) :
    sources.length ≤ (sources.flatMap rows).length := by
  induction sources with
  | nil => simp
  | cons source rest ih =>
    obtain ⟨hfirst, hrest⟩ := List.forall_mem_cons.mp hrows
    have hlength := ih hrest
    rw [List.flatMap_cons, List.length_append, List.length_cons]
    omega

/-- If they give no more rows, each of them gives one. -/
theorem length_eq_one_of_flatMap {α β : Type} {rows : α → List β} {sources : List α}
    (hrows : ∀ source ∈ sources, 1 ≤ (rows source).length)
    (hlength : (sources.flatMap rows).length = sources.length) :
    ∀ source ∈ sources, (rows source).length = 1 := by
  induction sources with
  | nil => simp
  | cons source rest ih =>
    obtain ⟨hfirst, hrest⟩ := List.forall_mem_cons.mp hrows
    have hmore := length_le_length_flatMap hrest
    rw [List.flatMap_cons, List.length_append, List.length_cons] at hlength
    exact List.forall_mem_cons.mpr ⟨by omega, ih hrest (by omega)⟩

namespace Environment

variable (environment : Environment) (content : Content) (table : Table)

/-- The listing has the rows of one column of the table after the other. -/
theorem listed_columnListing :
    environment.listed content columnListing table =
      (environment.tableColumns content table).flatMap content.columnRows := by
  change (columnRelation.rows content.records).filter _ = _
  rw [content.rows_columnRelation]
  apply filter_flatMap_of_owner
  intro column row hrow
  obtain ⟨use, -, rfl⟩ := List.mem_map.mp hrow
  exact environment.number_equals_identifier table column.object

/-- Whether the listing has one row for each column of a table, with the mark of the primary key
on the columns that belong to it. -/
structure ListsOnce : Prop where
  one_row :
    ((environment.listed content columnListing table).map
        (·.value (columnField "column_id"))).Perm
      ((environment.tableColumns content table).map fun column => .number column.column)
  marked_iff :
    ∀ row ∈ environment.listed content columnListing table,
      ∀ column ∈ environment.tableColumns content table,
        row.value (columnField "column_id") = .number column.column →
          (columnListing.value environment row.value "is_primary_key" = .number 1 ↔
            content.InPrimaryKey column)

variable {environment content table}

/-- The columns of a table have distinct numbers. -/
theorem eq_of_mem_tableColumns {a b : ColumnEntry}
    (ha : a ∈ environment.tableColumns content table)
    (hb : b ∈ environment.tableColumns content table) (hcolumn : a.column = b.column) : a = b := by
  obtain ⟨ha, haOwner⟩ := List.mem_filter.mp ha
  obtain ⟨hb, hbOwner⟩ := List.mem_filter.mp hb
  have hobject : a.object = b.object :=
    Option.some.inj ((of_decide_eq_true haOwner).symm.trans (of_decide_eq_true hbOwner))
  exact List.inj_on_of_nodup_map content.columns_distinct ha hb (Prod.ext hobject hcolumn)

/-- A listing without more rows than columns has one row for each column. -/
theorem length_usesOf_le_one
    (hlength : (environment.listed content columnListing table).length =
      (environment.tableColumns content table).length) {column : ColumnEntry}
    (hcolumn : column ∈ environment.tableColumns content table) :
    (content.usesOf column).length ≤ 1 := by
  rw [listed_columnListing] at hlength
  have hone := length_eq_one_of_flatMap (fun column _ => ?_) hlength column hcolumn
  · rw [content.length_columnRows] at hone
    omega
  · rw [content.length_columnRows]
    exact Nat.le_max_left 1 _

/-- Columns with one use at most have one row each. -/
theorem listed_of_length_usesOf_le_one
    (huses : ∀ column ∈ environment.tableColumns content table,
      (content.usesOf column).length ≤ 1) :
    environment.listed content columnListing table =
      (environment.tableColumns content table).map fun column =>
        content.columnRow column (content.usesOf column).head? := by
  rw [listed_columnListing, List.map_eq_flatMap]
  refine List.flatMap_congr fun column hcolumn => ?_
  have hone : ((content.usesOf column).map some).length ≤ 1 := by
    simpa using huses column hcolumn
  rw [Content.columnRows, orAlone_of_length_le_one none hone, List.head?_map]
  cases (content.usesOf column).head? <;> rfl

/-- The listing of the columns of a table has one row for each column, with the mark of the
primary key on the columns that belong to it, just if no column belongs to two indexes. -/
theorem listsOnce_iff (environment : Environment) (content : Content) (table : Table) :
    environment.ListsOnce content table ↔
      ∀ column ∈ environment.tableColumns content table, (content.usesOf column).length ≤ 1 := by
  constructor
  · intro hlists column hcolumn
    refine length_usesOf_le_one ?_ hcolumn
    simpa using hlists.one_row.length_eq
  · intro huses
    have hlisted := listed_of_length_usesOf_le_one huses
    constructor
    · rw [hlisted, List.map_map]
      exact List.Perm.refl _
    · intro row hrow column hcolumn hnumber
      rw [hlisted] at hrow
      obtain ⟨other, hother, rfl⟩ := List.mem_map.mp hrow
      obtain rfl : other = column :=
        eq_of_mem_tableColumns hother hcolumn (Constant.number.inj hnumber)
      rw [content.value_isPrimaryKey_iff, content.inPrimaryKey_iff]
      have hone := huses other hother
      match hused : content.usesOf other with
      | [] => simp
      | [use] => simp
      | _ :: _ :: _ => simp [hused] at hone

/-- A table whose key column belongs to a second index too. -/
def sharedKey : Content where
  columns := [⟨1, 1, "Id", SqlType.int.code, 4, false, false, 0, 10, 0⟩]
  indexes := [⟨1, 1, some "PK_t_Id", 1, true, true⟩, ⟨1, 2, some "IX_t_Id", 2, false, false⟩]
  indexColumns := [⟨1, 1, 1, 1, false⟩, ⟨1, 2, 1, 1, false⟩]
  computedColumns := []
  columns_distinct := by decide
  indexes_distinct := by decide
  indexColumns_distinct := by decide
  computedColumns_distinct := Content.noComputedColumns_distinct

/-- Its one column has two rows, and one of them lacks the mark of the primary key. -/
theorem not_listsOnce_sharedKey :
    ((oneTable.listed sharedKey columnListing ⟨"t", none⟩).map fun row =>
        (row.value (columnField "name"),
          columnListing.value oneTable row.value "is_primary_key")) =
      [(.text "Id", .number 1), (.text "Id", .number 0)] ∧
    ¬ oneTable.ListsOnce sharedKey ⟨"t", none⟩ := by
  refine ⟨by decide +kernel, fun hlists => ?_⟩
  have hlength := hlists.one_row.length_eq
  revert hlength
  decide +kernel

end Environment

end SqlScribe.Catalog
