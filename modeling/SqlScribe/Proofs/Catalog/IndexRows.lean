import Mathlib.Data.List.Perm.Basic
import SqlScribe.Catalog.Restore
import SqlScribe.Proofs.Catalog.Joins

/-!
# Rows of the listing of indexes

The listing of the indexes of a table has a row for every column of an index.  It returns these
rows in an order that the server chooses, as long as the names of the indexes are sorted.

Main definitions:

- `Catalog.Collation` is the order of texts on a server.
- `Catalog.Environment.Answers` says that rows answer a listing.
- `Catalog.Environment.ReturnsKeys` says that the listing of indexes returns rows.

Main results:

- `Catalog.Environment.returnsKeys_iff`: which rows the listing of indexes returns.
-/

namespace SqlScribe.Catalog

open Schema (columnField indexField indexColumnField indexRelation indexListing)

/-! ## Order of values -/

/-- The order in which a server sorts texts.  It may take different texts for the same. -/
structure Collation where
  le : String → String → Bool
  le_trans : ∀ a b c, le a b = true → le b c = true → le a c = true
  le_total : ∀ a b, (le a b || le b a) = true

/-- Whether a value may come before another: what is missing comes first. -/
def Constant.le (collation : Collation) : Constant → Constant → Bool
  | .null, _ => true
  | .number a, .number b => a ≤ b
  | .number _, .text _ => true
  | .text a, .text b => collation.le a b
  | _, _ => false

/-- The order of values is transitive. -/
theorem Constant.le_trans {collation : Collation} {a b c : Constant}
    (hab : a.le collation b = true) (hbc : b.le collation c = true) :
    a.le collation c = true := by
  cases a <;> cases b <;> cases c <;> simp_all [Constant.le]
  · omega
  · exact collation.le_trans _ _ _ hab hbc

/-- The order of values compares any two of them. -/
theorem Constant.le_total (collation : Collation) (a b : Constant) :
    (a.le collation b || b.le collation a) = true := by
  cases a <;> cases b <;> simp [Constant.le]
  · omega
  · simpa using collation.le_total _ _

/-- Whether a row may come before another by fields, of which an earlier one counts more. -/
def JoinedRow.le (collation : Collation) : List Field → JoinedRow → JoinedRow → Bool
  | [], _, _ => true
  | field :: rest, a, b =>
    (a.value field).le collation (b.value field) &&
      (!(b.value field).le collation (a.value field) || JoinedRow.le collation rest a b)

/-- The values that a listing returns of a row. -/
def Listing.returned (listing : Listing) (environment : Environment) (row : JoinedRow) :
    List Constant :=
  listing.outputs.map fun output => output.term.value environment row.value

/-- Rows that a server may answer a listing with: those of the table, in any order that the
listing permits. -/
structure Environment.Answers (environment : Environment) (collation : Collation)
    (content : Content) (listing : Listing) (table : Table) (answer : List JoinedRow) : Prop where
  perm : answer.Perm (environment.listed content listing table)
  sorted : answer.Pairwise fun a b => JoinedRow.le collation listing.order a b = true

/-! ## Columns of an index -/

/-- The joined row of a column of an index. -/
def IndexEntry.partRow (index : IndexEntry) (part : IndexColumnEntry × ColumnEntry) : JoinedRow :=
  .ofEntries (some part.2) (some part.1) (some index) none

namespace Content

variable (content : Content)

/-- The column that an entry of an index is about. -/
def columnOf? (use : IndexColumnEntry) : Option ColumnEntry :=
  content.columns.find? fun entry => (entry.object, entry.column) = (use.object, use.column)

/-- The columns of an index. -/
def partsOf (index : IndexEntry) : List (IndexColumnEntry × ColumnEntry) :=
  (content.indexColumns.filter fun use =>
    (use.object, use.index) = (index.object, index.index)).filterMap fun use =>
      (content.columnOf? use).map fun column => (use, column)

variable {content} in
/-- The column of an entry is one with its numbers. -/
theorem mem_columns_of_columnOf? {use : IndexColumnEntry} {column : ColumnEntry}
    (hcolumn : content.columnOf? use = some column) :
    column ∈ content.columns ∧ column.object = use.object ∧ column.column = use.column := by
  have hkey := List.find?_some hcolumn
  exact ⟨List.mem_of_find?_eq_some hcolumn, Prod.mk.inj (of_decide_eq_true hkey)⟩

/-- An index is matched by its uses of columns. -/
theorem matching_indexUses (index : IndexEntry) :
    (JoinedRow.ofEntries none none (some index) none).matching content.records .indexColumns
        [(indexField "object_id", indexColumnField "object_id"),
         (indexField "index_id", indexColumnField "index_id")] =
      (content.indexColumns.filter fun use =>
        (use.object, use.index) = (index.object, index.index)).map fun use =>
          .ofEntries none (some use) (some index) none := by
  rw [JoinedRow.matching_entries content.indexColumns
    (fun use => (use.object, use.index) = (index.object, index.index)) rfl]
  · simp only [JoinedRow.extend_indexColumns]
  · intro use
    rw [JoinedRow.extend_indexColumns, JoinedRow.satisfies_pair_iff rfl rfl rfl rfl, Prod.mk.injEq]
    omega

/-- A use is matched by its column. -/
theorem matching_usedColumn (index : IndexEntry) (use : IndexColumnEntry) :
    (JoinedRow.ofEntries none (some use) (some index) none).matching content.records .columns
        [(indexColumnField "object_id", columnField "object_id"),
         (indexColumnField "column_id", columnField "column_id")] =
      (content.columnOf? use).toList.map fun column =>
        .ofEntries (some column) (some use) (some index) none := by
  rw [JoinedRow.matching_entries content.columns
    (fun entry => (entry.object, entry.column) = (use.object, use.column)) rfl]
  · rw [filter_eq_toList_find? content.columns_distinct]
    simp only [JoinedRow.extend_columns]
    rfl
  · intro column
    rw [JoinedRow.extend_columns, JoinedRow.satisfies_pair_iff rfl rfl rfl rfl, Prod.mk.injEq]
    omega

/-- The joined views have the columns of one index after the other. -/
theorem rows_indexRelation :
    indexRelation.rows content.records =
      content.indexes.flatMap fun index => (content.partsOf index).map index.partRow := by
  simp only [indexRelation, Relation.rows, records, List.map_map, List.flatMap_map,
    Function.comp_def, ← JoinedRow.ofEntries_none, JoinedRow.extend_indexes, matching_indexUses,
    List.flatMap_assoc, matching_usedColumn]
  refine List.flatMap_congr fun index _ => ?_
  rw [partsOf, List.map_filterMap, List.filterMap_eq_flatMap_toList]
  refine List.flatMap_congr fun use _ => ?_
  cases content.columnOf? use <;> rfl

end Content

/-! ## Returned rows -/

/-- The values of a row of the listing of indexes. -/
def keyValues (row : CatalogIndexKey) : List Constant :=
  [.ofText? row.name, .number row.indexType.toNat, .ofBool row.isUnique,
   .ofBool row.isPrimaryKey, .text row.columnName, .ofBool row.isDescending]

/-- A row is known by its values. -/
theorem keyValues_injective : Function.Injective keyValues := by
  intro a b hsame
  simp only [keyValues, List.cons.injEq, Constant.number.injEq, Constant.text.injEq] at hsame
  obtain ⟨hname, htype, hunique, hprimary, hcolumn, hdescending, -⟩ := hsame
  cases a
  cases b
  rw [CatalogIndexKey.mk.injEq]
  exact ⟨Constant.ofText?_injective hname, UInt8.toNat_inj.mp (Int.ofNat_inj.mp htype),
    Constant.ofBool_injective hunique, Constant.ofBool_injective hprimary, hcolumn,
    Constant.ofBool_injective hdescending⟩

/-- The row that is returned of a column of an index. -/
def IndexEntry.keyRow (index : IndexEntry) (part : IndexColumnEntry × ColumnEntry) :
    CatalogIndexKey where
  name := index.name
  indexType := index.type
  isUnique := index.isUnique
  isPrimaryKey := index.isPrimaryKey
  columnName := part.2.name
  isDescending := part.1.isDescending

/-- Whether a row may come before another in the listing of indexes. -/
def namedBefore (collation : Collation) (a b : CatalogIndexKey) : Bool :=
  (Constant.ofText? a.name).le collation (.ofText? b.name)

namespace Environment

variable (environment : Environment) (collation : Collation) (content : Content) (table : Table)

/-- Whether the listing of indexes may return rows, in this order. -/
def ReturnsKeys (rows : List CatalogIndexKey) : Prop :=
  ∃ answer, environment.Answers collation content indexListing table answer ∧
    rows.map keyValues = answer.map (indexListing.returned environment)

/-- The rows of the columns of all indexes of a table. -/
def tableKeys : List CatalogIndexKey :=
  (environment.tableIndexes content table).flatMap fun index =>
    (content.partsOf index).map index.keyRow

/-- The listing has the columns of one index of the table after the other. -/
theorem listed_indexListing :
    environment.listed content indexListing table =
      (environment.tableIndexes content table).flatMap fun index =>
        (content.partsOf index).map index.partRow := by
  change (indexRelation.rows content.records).filter _ = _
  rw [content.rows_indexRelation]
  apply filter_flatMap_of_owner
  intro index row hrow
  obtain ⟨part, -, rfl⟩ := List.mem_map.mp hrow
  exact environment.number_equals_identifier table index.object

/-- What is returned of the rows of the table are the values of their keys. -/
theorem map_returned_listed :
    (environment.listed content indexListing table).map (indexListing.returned environment) =
      (environment.tableKeys content table).map keyValues := by
  rw [listed_indexListing, tableKeys, List.map_flatMap, List.map_flatMap]
  refine List.flatMap_congr fun index _ => ?_
  rw [List.map_map, List.map_map]
  rfl

/-- Whether a row may come before another is known from the first values that are returned. -/
theorem le_order_eq (a b : JoinedRow) :
    JoinedRow.le collation indexListing.order a b =
      ((indexListing.returned environment a).headD .null).le collation
        ((indexListing.returned environment b).headD .null) := by
  change ((a.value (indexField "name")).le collation (b.value (indexField "name")) &&
    (!(b.value (indexField "name")).le collation (a.value (indexField "name")) || true)) = _
  rw [Bool.or_true, Bool.and_true]
  rfl

variable {environment collation content table}

/-- The listing of indexes may return just the rows of the columns of the indexes of the table,
in any order in which their names are sorted. -/
theorem returnsKeys_iff {rows : List CatalogIndexKey} :
    environment.ReturnsKeys collation content table rows ↔
      rows.Perm (environment.tableKeys content table) ∧
        rows.Pairwise fun a b => namedBefore collation a b = true := by
  -- Both orders are the order of the first returned values.
  have hsorted {answer : List JoinedRow}
      (hanswer : rows.map keyValues = answer.map (indexListing.returned environment)) :
      (answer.Pairwise fun a b => JoinedRow.le collation indexListing.order a b = true) ↔
        rows.Pairwise fun a b => namedBefore collation a b = true := by
    have hvalues : ((rows.map keyValues).Pairwise fun a b =>
          (a.headD .null).le collation (b.headD .null) = true) ↔
        rows.Pairwise fun a b => namedBefore collation a b = true := List.pairwise_map
    rw [← hvalues, hanswer, List.pairwise_map]
    simp only [le_order_eq environment collation]
  constructor
  · rintro ⟨answer, hanswers, hreturned⟩
    refine ⟨?_, (hsorted hreturned).mp hanswers.sorted⟩
    refine (List.map_perm_map_iff keyValues_injective).mp ?_
    rw [hreturned, ← map_returned_listed]
    exact hanswers.perm.map _
  · rintro ⟨hperm, hordered⟩
    have hvalues := hperm.map keyValues
    rw [← map_returned_listed] at hvalues
    have hanswer := congrFun₂ (List.eq_map_comp_perm (indexListing.returned environment))
      (rows.map keyValues) (environment.listed content indexListing table)
    obtain ⟨answer, hreturned, hlisted⟩ := hanswer.mpr hvalues
    exact ⟨answer, ⟨hlisted, (hsorted hreturned).mpr hordered⟩, hreturned⟩

end Environment

end SqlScribe.Catalog
