import Mathlib.Data.String.Basic
import SqlScribe.Proofs.Catalog.IndexGroups
import SqlScribe.Proofs.Catalog.IndexRows

/-!
# Order of the columns of indexes

The listing of indexes sorts its rows by the names of the indexes alone, so the rows of one index
may come in any order.  Indexes are gathered from rows in the order in which these come.  So the
columns of an index are restored in the order of the index just if there is no order to restore.

Main definitions:

- `Catalog.Environment.RestoresIndexes` says that the indexes of a table are gathered alike from
  all rows that the listing may return, with their columns in order.

Main results:

- `Catalog.Environment.rowsNamed_tableKeys`: the rows with a name are those of its index.
- `Catalog.Environment.restoresIndexes_iff`: which indexes are restored.
-/

namespace SqlScribe.Catalog

open ExistingIndex (ofRows rowsNamed ofGroup clusteredType)

/-! ## Sorted rows -/

/-- Sorting keeps the order of elements that may come in any order. -/
theorem filter_mergeSort {α : Type} {le : α → α → Bool} {p : α → Bool} {l : List α}
    (htrans : ∀ a b c, le a b = true → le b c = true → le a c = true)
    (htotal : ∀ a b, (le a b || le b a) = true)
    (htied : ∀ a ∈ l, ∀ b ∈ l, p a = true → p b = true → le a b = true) :
    (l.mergeSort le).filter p = l.filter p := by
  have hpairwise : (l.filter p).Pairwise fun a b => le a b = true := by
    refine List.pairwise_of_forall_mem_list fun a ha b hb => ?_
    obtain ⟨ha, hpa⟩ := List.mem_filter.mp ha
    obtain ⟨hb, hpb⟩ := List.mem_filter.mp hb
    exact htied a ha b hb hpa hpb
  have hkept : (l.filter p).Sublist ((l.mergeSort le).filter p) := by
    have hsublist := List.sublist_mergeSort htrans htotal hpairwise List.filter_sublist
    simpa only [List.filter_filter, Bool.and_self] using hsublist.filter p
  refine (hkept.eq_of_length ?_).symm
  exact (((List.mergeSort_perm l le).filter p).length_eq).symm

/-- Distinct elements that are the same backwards are one at most. -/
theorem length_le_one_of_reverse_eq {α : Type} {l : List α} (hnodup : l.Nodup)
    (hreverse : l.reverse = l) : l.length ≤ 1 := by
  by_contra hlength
  have hreversed : 0 < l.reverse.length := by
    rw [List.length_reverse]
    omega
  have hends : l.reverse[0] = l[0] := by simp only [hreverse]
  rw [List.getElem_reverse] at hends
  have hplaces := hnodup.getElem_inj_iff.mp hends
  omega

/-- The order of rows by name is transitive. -/
theorem namedBefore_trans {collation : Collation} (a b c : CatalogIndexKey)
    (hab : namedBefore collation a b = true) (hbc : namedBefore collation b c = true) :
    namedBefore collation a c = true :=
  Constant.le_trans hab hbc

/-- The order of rows by name compares any two rows. -/
theorem namedBefore_total (collation : Collation) (a b : CatalogIndexKey) :
    (namedBefore collation a b || namedBefore collation b a) = true :=
  Constant.le_total collation _ _

/-- Rows of one name may come in any order. -/
theorem namedBefore_of_name_eq {collation : Collation} {a b : CatalogIndexKey}
    (hname : a.name = b.name) : namedBefore collation a b = true := by
  have hself := namedBefore_total collation b b
  rw [Bool.or_self] at hself
  rw [namedBefore, hname]
  exact hself

/-! ## Restored indexes -/

/-- Whether texts are taken for the same. -/
def Collation.Same (collation : Collation) (a b : String) : Prop :=
  collation.le a b = true ∧ collation.le b a = true

/-- A text is taken for itself. -/
theorem Collation.same_refl (collation : Collation) (a : String) : collation.Same a a := by
  have hself := collation.le_total a a
  rw [Bool.or_self] at hself
  exact ⟨hself, hself⟩

/-- The column of an index that a part is. -/
def partKey (part : IndexColumnEntry × ColumnEntry) : IndexKey :=
  ⟨part.2.name, if part.1.isDescending then .descending else .ascending⟩

/-- An index with a name, its columns in the order of their places. -/
def Content.restored (content : Content) (index : IndexEntry) (name : String) : ExistingIndex where
  index :=
    { name := some name
      keys := ((content.partsOf index).mergeSort fun a b => a.1.ordinal ≤ b.1.ordinal).map partKey
      clustered := index.type = clusteredType
      unique := index.isUnique }
  isPrimaryKey := index.isPrimaryKey

namespace Environment

/-- A table has no two columns, and no two indexes, whose names are taken for the same. -/
structure NamesDistinct (environment : Environment) (collation : Collation) (content : Content)
    (table : Table) : Prop where
  columns : ∀ a ∈ environment.tableColumns content table,
    ∀ b ∈ environment.tableColumns content table, collation.Same a.name b.name → a = b
  indexes : ∀ a ∈ environment.tableIndexes content table,
    ∀ b ∈ environment.tableIndexes content table,
      ∀ n ∈ a.name, ∀ m ∈ b.name, collation.Same n m → a = b

/-- Whether the indexes of a table are gathered from whatever rows the listing of indexes may
return of it. -/
structure RestoresIndexes (environment : Environment) (collation : Collation) (content : Content)
    (table : Table) : Prop where
  same : ∀ rows rows', environment.ReturnsKeys collation content table rows →
    environment.ReturnsKeys collation content table rows' → ofRows rows = ofRows rows'
  /-- They are the indexes with a name, and their columns are in order. -/
  in_order : ∀ rows, environment.ReturnsKeys collation content table rows →
    ∀ existing, existing ∈ ofRows rows ↔
      ∃ index ∈ environment.tableIndexes content table, ∃ name ∈ index.name,
        content.partsOf index ≠ [] ∧ existing = content.restored index name

variable {environment : Environment} {collation : Collation} {content : Content} {table : Table}

/-! ## Rows that are returned -/

/-- The rows of the table are returned in a sorted order, whatever their order before. -/
theorem returnsKeys_mergeSort {rows : List CatalogIndexKey}
    (hrows : rows.Perm (environment.tableKeys content table)) :
    environment.ReturnsKeys collation content table (rows.mergeSort (namedBefore collation)) :=
  returnsKeys_iff.mpr ⟨(List.mergeSort_perm rows _).trans hrows,
    List.pairwise_mergeSort namedBefore_trans (namedBefore_total collation) rows⟩

/-- Sorting keeps the order of the rows with one name. -/
theorem rowsNamed_mergeSort (name : String) (rows : List CatalogIndexKey) :
    rowsNamed name (rows.mergeSort (namedBefore collation)) = rowsNamed name rows := by
  refine filter_mergeSort namedBefore_trans (namedBefore_total collation) fun a _ b _ ha hb => ?_
  exact namedBefore_of_name_eq ((of_decide_eq_true ha).trans (of_decide_eq_true hb).symm)

/-- The rows of a table are those of the columns of its indexes. -/
theorem mem_tableKeys {row : CatalogIndexKey} :
    row ∈ environment.tableKeys content table ↔
      ∃ index ∈ environment.tableIndexes content table, ∃ part ∈ content.partsOf index,
        row = index.keyRow part := by
  simp [tableKeys, eq_comm]

/-- The column of an entry of an index belongs to the table of the index. -/
theorem mem_tableColumns_of_columnOf? {index : IndexEntry}
    (hindex : index ∈ environment.tableIndexes content table) {use : IndexColumnEntry}
    (huse : (use.object, use.index) = (index.object, index.index)) {column : ColumnEntry}
    (hcolumn : content.columnOf? use = some column) :
    column ∈ environment.tableColumns content table ∧ column.column = use.column := by
  obtain ⟨hmem, hobject, hnumber⟩ := Content.mem_columns_of_columnOf? hcolumn
  obtain ⟨-, howner⟩ := List.mem_filter.mp hindex
  refine ⟨List.mem_filter.mpr ⟨hmem, ?_⟩, hnumber⟩
  rw [hobject, (Prod.mk.inj huse).1]
  exact howner

/-! ## Rows of one index -/

section NamesDistinct

variable (hnames : environment.NamesDistinct collation content table)

include hnames

/-- A name is that of one index of the table. -/
theorem filter_name_tableIndexes {index : IndexEntry}
    (hindex : index ∈ environment.tableIndexes content table) {name : String}
    (hname : index.name = some name) :
    (environment.tableIndexes content table).filter (·.name = some name) = [index] := by
  have hdistinct : (environment.tableIndexes content table).Nodup :=
    (content.indexes_distinct.of_map _).filter _
  have hsame : ∀ other ∈ environment.tableIndexes content table,
      decide (other.name = some name) = decide (other = index) := by
    intro other hother
    rw [decide_eq_decide]
    constructor
    · intro hnamed
      exact hnames.indexes other hother index hindex name hnamed name hname
        (collation.same_refl name)
    · intro hother
      rw [hother, hname]
  rw [List.filter_congr hsame, List.filter_eq, List.count_eq_one_of_mem hdistinct hindex,
    List.replicate_one]

/-- The rows with the name of an index are those of its columns. -/
theorem rowsNamed_tableKeys {index : IndexEntry}
    (hindex : index ∈ environment.tableIndexes content table) {name : String}
    (hname : index.name = some name) :
    rowsNamed name (environment.tableKeys content table) =
      (content.partsOf index).map index.keyRow := by
  have howner : ∀ other, ∀ row ∈ (content.partsOf other).map other.keyRow,
      decide (row.name = some name) = decide (other.name = some name) := by
    intro other row hrow
    obtain ⟨part, -, rfl⟩ := List.mem_map.mp hrow
    rfl
  rw [rowsNamed, tableKeys, filter_flatMap_of_owner howner,
    filter_name_tableIndexes hnames hindex hname, List.flatMap_singleton]

/-- The columns of an index have distinct names. -/
theorem nodup_partKeys {index : IndexEntry}
    (hindex : index ∈ environment.tableIndexes content table) :
    ((content.partsOf index).map partKey).Nodup := by
  have huses := (List.pairwise_map.mp content.indexColumns_distinct).filter fun use =>
    (use.object, use.index) = (index.object, index.index)
  refine List.pairwise_map.mpr (List.pairwise_filterMap.mpr (huses.imp_of_mem ?_))
  intro use use' huse huse' hne part hpart part' hpart' hkey
  obtain ⟨column, hcolumn, rfl⟩ := Option.map_eq_some_iff.mp hpart
  obtain ⟨column', hcolumn', rfl⟩ := Option.map_eq_some_iff.mp hpart'
  have howner := of_decide_eq_true (List.mem_filter.mp huse).2
  have howner' := of_decide_eq_true (List.mem_filter.mp huse').2
  obtain ⟨hmem, hnumber⟩ := mem_tableColumns_of_columnOf? hindex howner hcolumn
  obtain ⟨hmem', hnumber'⟩ := mem_tableColumns_of_columnOf? hindex howner' hcolumn'
  have hname : column.name = column'.name := (IndexKey.mk.inj hkey).1
  have hsame : column = column' :=
    hnames.columns column hmem column' hmem' (hname ▸ collation.same_refl column.name)
  have hcolumns : use.column = use'.column := by rw [← hnumber, ← hnumber', hsame]
  -- Two entries of one index for one column would have the same key.
  refine hne ?_
  rw [Prod.mk.injEq] at howner howner'
  rw [hcolumns, howner.1, howner.2, howner'.1, howner'.2]

/-- An index whose columns are gathered in one order only has not more than one column. -/
theorem length_partsOf_le_one
    (hsame : ∀ rows rows', environment.ReturnsKeys collation content table rows →
      environment.ReturnsKeys collation content table rows' → ofRows rows = ofRows rows')
    {index : IndexEntry} (hindex : index ∈ environment.tableIndexes content table) {name : String}
    (hname : index.name = some name) : (content.partsOf index).length ≤ 1 := by
  by_cases hnone : content.partsOf index = []
  · simp [hnone]
  -- The rows are sorted as they are and backwards: their columns come backwards as well.
  obtain ⟨part, hpart⟩ := List.exists_mem_of_ne_nil _ hnone
  have hperm := List.mergeSort_perm (environment.tableKeys content table) (namedBefore collation)
  have hnamed := ExistingIndex.mem_namesOf.mpr
    ⟨index.keyRow part, hperm.mem_iff.mpr (mem_tableKeys.mpr ⟨index, hindex, part, hpart, rfl⟩),
      hname⟩
  have hkeys := ExistingIndex.map_keyOfRow_congr
    (hsame _ _ (returnsKeys_mergeSort (List.Perm.refl _))
      (returnsKeys_mergeSort (List.reverse_perm _))) hnamed
  have hreversed (rows : List CatalogIndexKey) :
      rowsNamed name rows.reverse = (rowsNamed name rows).reverse := List.filter_reverse
  rw [rowsNamed_mergeSort, rowsNamed_mergeSort, hreversed, rowsNamed_tableKeys hnames hindex hname,
    List.map_reverse, List.map_map] at hkeys
  have hlength := length_le_one_of_reverse_eq (nodup_partKeys hnames hindex) hkeys.symm
  rwa [List.length_map] at hlength

/-- An index with one column is gathered from its one row. -/
theorem ofGroup_rowsNamed {rows : List CatalogIndexKey}
    (hrows : environment.ReturnsKeys collation content table rows)
    {index : IndexEntry} (hindex : index ∈ environment.tableIndexes content table) {name : String}
    (hname : index.name = some name) {part : IndexColumnEntry × ColumnEntry}
    (hpart : content.partsOf index = [part]) :
    ofGroup name (rowsNamed name rows) = content.restored index name := by
  have hperm : (rowsNamed name rows).Perm [index.keyRow part] := by
    have hall := (returnsKeys_iff.mp hrows).1.filter fun row => row.name = some name
    rwa [← rowsNamed, ← rowsNamed, rowsNamed_tableKeys hnames hindex hname, hpart] at hall
  rw [List.perm_singleton.mp hperm, Content.restored, hpart, List.mergeSort_singleton]
  rfl

/-! ## Indexes with one column each -/

variable (hone : ∀ index ∈ environment.tableIndexes content table, index.name ≠ none →
  (content.partsOf index).length ≤ 1)

include hone

/-- Of indexes with one column each no two rows are of one name. -/
theorem eq_of_namedBefore {a b : CatalogIndexKey}
    (ha : a ∈ environment.tableKeys content table) (hb : b ∈ environment.tableKeys content table)
    (hnamed : a.name ≠ none) (hnamed' : b.name ≠ none)
    (hab : namedBefore collation a b = true) (hba : namedBefore collation b a = true) :
    a = b := by
  obtain ⟨index, hindex, part, hpart, rfl⟩ := mem_tableKeys.mp ha
  obtain ⟨index', hindex', part', hpart', rfl⟩ := mem_tableKeys.mp hb
  obtain ⟨name, hname⟩ := Option.ne_none_iff_exists'.mp hnamed
  obtain ⟨name', hname'⟩ := Option.ne_none_iff_exists'.mp hnamed'
  rw [namedBefore, hname, hname'] at hab hba
  obtain rfl : index = index' :=
    hnames.indexes index hindex index' hindex' name hname name' hname' ⟨hab, hba⟩
  have hlength := hone index hindex hnamed
  match hparts : content.partsOf index with
  | [] => cases hparts ▸ hpart
  | [only] =>
    rw [hparts, List.mem_singleton] at hpart hpart'
    rw [hpart, hpart']
  | _ :: _ :: _ => simp [hparts] at hlength

/-- Indexes with one column each are gathered alike from all rows that may be returned. -/
theorem ofRows_eq_of_returnsKeys {rows rows' : List CatalogIndexKey}
    (hrows : environment.ReturnsKeys collation content table rows)
    (hrows' : environment.ReturnsKeys collation content table rows') :
    ofRows rows = ofRows rows' := by
  obtain ⟨hperm, hsorted⟩ := returnsKeys_iff.mp hrows
  obtain ⟨hperm', hsorted'⟩ := returnsKeys_iff.mp hrows'
  -- Rows without a name are left out: they may be exchanged, but describe no index.
  have hnamed : rows.filter (·.name.isSome) = rows'.filter (·.name.isSome) := by
    refine List.Perm.eq_of_pairwise (fun a b ha hb hab hba => ?_) (hsorted.filter _)
      (hsorted'.filter _) ((hperm.trans hperm'.symm).filter _)
    obtain ⟨ha, hsome⟩ := List.mem_filter.mp ha
    obtain ⟨hb, hsome'⟩ := List.mem_filter.mp hb
    exact eq_of_namedBefore hnames hone (hperm.mem_iff.mp ha) (hperm'.mem_iff.mp hb)
      (Option.isSome_iff_ne_none.mp hsome) (Option.isSome_iff_ne_none.mp hsome') hab hba
  rw [← ExistingIndex.ofRows_filter_isSome rows, hnamed, ExistingIndex.ofRows_filter_isSome]

/-- What is gathered from indexes with one column each are these indexes. -/
theorem mem_ofRows_iff {rows : List CatalogIndexKey}
    (hrows : environment.ReturnsKeys collation content table rows) {existing : ExistingIndex} :
    existing ∈ ofRows rows ↔
      ∃ index ∈ environment.tableIndexes content table, ∃ name ∈ index.name,
        content.partsOf index ≠ [] ∧ existing = content.restored index name := by
  have hmem (row : CatalogIndexKey) : row ∈ rows ↔ row ∈ environment.tableKeys content table :=
    (returnsKeys_iff.mp hrows).1.mem_iff
  have hgroup {index : IndexEntry} (hindex : index ∈ environment.tableIndexes content table)
      {name : String} (hname : index.name = some name)
      {part : IndexColumnEntry × ColumnEntry} (hpart : part ∈ content.partsOf index) :
      ofGroup name (rowsNamed name rows) = content.restored index name := by
    have hlength := hone index hindex (hname ▸ Option.some_ne_none name)
    obtain ⟨only, honly⟩ := List.length_eq_one_iff.mp
      (Nat.le_antisymm hlength (List.length_pos_of_mem hpart))
    exact ofGroup_rowsNamed hnames hrows hindex hname honly
  rw [ExistingIndex.ofRows_eq_map, List.mem_map]
  constructor
  · rintro ⟨name, hname, rfl⟩
    obtain ⟨row, hrow, hnamed⟩ := ExistingIndex.mem_namesOf.mp hname
    obtain ⟨index, hindex, part, hpart, rfl⟩ := mem_tableKeys.mp ((hmem row).mp hrow)
    exact ⟨index, hindex, name, hnamed, List.ne_nil_of_mem hpart, hgroup hindex hnamed hpart⟩
  · rintro ⟨index, hindex, name, hname, hparts, rfl⟩
    obtain ⟨part, hpart⟩ := List.exists_mem_of_ne_nil _ hparts
    refine ⟨name, ExistingIndex.mem_namesOf.mpr ⟨index.keyRow part, ?_, hname⟩,
      hgroup hindex hname hpart⟩
    exact (hmem _).mpr (mem_tableKeys.mpr ⟨index, hindex, part, hpart, rfl⟩)

end NamesDistinct

/-- The indexes of a table are gathered from whatever rows the listing of indexes may return of
it, with their columns in order, just if no index with a name has two columns. -/
theorem restoresIndexes_iff (hnames : environment.NamesDistinct collation content table) :
    environment.RestoresIndexes collation content table ↔
      ∀ index ∈ environment.tableIndexes content table, index.name ≠ none →
        (content.partsOf index).length ≤ 1 := by
  constructor
  · intro hrestores index hindex hnamed
    obtain ⟨name, hname⟩ := Option.ne_none_iff_exists'.mp hnamed
    exact length_partsOf_le_one hnames hrestores.same hindex hname
  · intro hone
    constructor
    · intro rows rows' hrows hrows'
      exact ofRows_eq_of_returnsKeys hnames hone hrows hrows'
    · intro rows hrows existing
      exact mem_ofRows_iff hnames hone hrows

/-! ## Indexes with one and with two columns -/

/-- Texts sorted by their code points. -/
def codePoints : Collation where
  le a b := a ≤ b
  le_trans a b c hab hbc := by
    rw [decide_eq_true_eq] at hab hbc ⊢
    exact String.le_trans hab hbc
  le_total a b := by
    rw [Bool.or_eq_true, decide_eq_true_eq, decide_eq_true_eq]
    exact String.le_total a b

/-- A table with two columns and an index on each. -/
def singleColumns : Content where
  columns := [⟨1, 1, "A", SqlType.int.code, 4, false, false, 0, 10, 0⟩,
    ⟨1, 2, "B", SqlType.int.code, 4, false, false, 0, 10, 0⟩]
  indexes := [⟨1, 2, some "IX_A", 2, true, false⟩, ⟨1, 3, some "IX_B", 2, false, false⟩]
  indexColumns := [⟨1, 2, 1, 1, false⟩, ⟨1, 3, 2, 1, true⟩]
  computedColumns := []
  columns_distinct := by decide
  indexes_distinct := by decide
  indexColumns_distinct := by decide
  computedColumns_distinct := Content.noComputedColumns_distinct

/-- Both indexes are restored. -/
theorem restoresIndexes_iff_singleColumns :
    oneTable.NamesDistinct codePoints singleColumns ⟨"t", none⟩ ∧
      oneTable.RestoresIndexes codePoints singleColumns ⟨"t", none⟩ := by
  have hnames : oneTable.NamesDistinct codePoints singleColumns ⟨"t", none⟩ := by
    constructor <;> unfold Collation.Same <;> decide +kernel
  exact ⟨hnames, (restoresIndexes_iff hnames).mpr (by decide +kernel)⟩

/-- A table with two columns and an index on both. -/
def twoColumns : Content where
  columns := [⟨1, 1, "A", SqlType.int.code, 4, false, false, 0, 10, 0⟩,
    ⟨1, 2, "B", SqlType.int.code, 4, false, false, 0, 10, 0⟩]
  indexes := [⟨1, 2, some "IX", 2, false, false⟩]
  indexColumns := [⟨1, 2, 1, 1, false⟩, ⟨1, 2, 2, 2, false⟩]
  computedColumns := []
  columns_distinct := by decide
  indexes_distinct := by decide
  indexColumns_distinct := by decide
  computedColumns_distinct := Content.noComputedColumns_distinct

/-- The row of a column of that index. -/
def rowOf (column : String) : CatalogIndexKey := ⟨some "IX", 2, false, false, column, false⟩

/-- Its rows may be returned in either order, and the index has its columns in that order. -/
theorem not_restoresIndexes_twoColumns :
    oneTable.ReturnsKeys codePoints twoColumns ⟨"t", none⟩ [rowOf "A", rowOf "B"] ∧
    oneTable.ReturnsKeys codePoints twoColumns ⟨"t", none⟩ [rowOf "B", rowOf "A"] ∧
    (ofRows [rowOf "A", rowOf "B"]).map (·.index.keys) =
      [[⟨"A", .ascending⟩, ⟨"B", .ascending⟩]] ∧
    (ofRows [rowOf "B", rowOf "A"]).map (·.index.keys) =
      [[⟨"B", .ascending⟩, ⟨"A", .ascending⟩]] ∧
    ¬ oneTable.RestoresIndexes codePoints twoColumns ⟨"t", none⟩ := by
  have hordered : oneTable.ReturnsKeys codePoints twoColumns ⟨"t", none⟩
      [rowOf "A", rowOf "B"] := returnsKeys_iff.mpr (by decide +kernel)
  have hexchanged : oneTable.ReturnsKeys codePoints twoColumns ⟨"t", none⟩
      [rowOf "B", rowOf "A"] := returnsKeys_iff.mpr (by decide +kernel)
  refine ⟨hordered, hexchanged, by decide, by decide, fun hrestores => ?_⟩
  have hsame := hrestores.same _ _ hordered hexchanged
  revert hsame
  decide

end Environment

end SqlScribe.Catalog
