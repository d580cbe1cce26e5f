import SqlScribe.Proofs.Migration.Warnings
import SqlScribe.Proofs.Schema.Clauses
import SqlScribe.Schema.Operation

/-!
# Tables that are created and read back

The catalog keeps a row of every column that is created.  What a row says of missing values is
what the clause of the column says, and a key never accepts them.  A migration from the columns
that the rows describe to the declared ones has nothing to do, and reports nothing but the key
columns that are declared as if a value could be missing.

Main definitions:

- `CatalogColumn.Describes` says that a row is the one that is kept of a column.
- `Column.RestoredAs` gathers what a column shares with the one that is read back.

Main results:

- `CatalogColumn.column_of_describes`: a column that can be declared can be read back.
- `Migration.isEmpty_readBack_iff`: which tables are read back as they were declared.
-/

namespace SqlScribe

/-! ## Rows of created columns -/

namespace CatalogColumn

/-- The length that the catalog keeps, negative if there is none or if it is too great. -/
def keptLength : Option UInt32 → Int16
  | some length => if length.toNat < 32768 then Int16.ofNat length.toNat else -1
  | none => -1

/-- The row that the catalog keeps of a stored column. -/
def ofStored (column : Column) (type : ColumnType) : CatalogColumn where
  name := column.name
  typeCode := Int32.ofInt type.stored.code
  maxLength := keptLength column.length
  isNullable := column.acceptsNull
  isIdentity := column.identity
  isAutoGenerated := column.isAutoGenerated
  isPrimaryKey := column.isKey
  isPrimaryKeyClustered := column.key = .clusteredPrimary
  precision := column.precision.getD 0
  scale := column.scale.getD 0

/-- Whether the catalog keeps a row of a column.  Of a computed column the row has the
expression in parentheses; what it says of missing values and of a type depends on the
expression. -/
def Describes (row : CatalogColumn) (column : Column) : Prop :=
  match column.kind with
  | .stored type => row = ofStored column type
  | .computed expression persisted =>
    row.name = column.name ∧ row.computation = some ("(" ++ expression ++ ")") ∧
      row.persistedComputation = some persisted ∧ row.isPrimaryKey = column.isKey ∧
      row.isPrimaryKeyClustered = decide (column.key = .clusteredPrimary)

/-- The part in the primary key is read back. -/
theorem keyRole_eq {row : CatalogColumn} {column : Column} (hkey : row.isPrimaryKey = column.isKey)
    (hclustered : row.isPrimaryKeyClustered = decide (column.key = .clusteredPrimary)) :
    row.keyRole = column.key := by
  rw [keyRole, hkey, hclustered, Column.isKey]
  cases column.key <;> rfl

/-- One pair of parentheses is taken off, whatever stands in it. -/
theorem withoutParentheses_parenthesized (expression : String) :
    withoutParentheses ("(" ++ expression ++ ")") = expression := by
  simp [withoutParentheses]

/-- The codes of all types fit into a row. -/
theorem ofCode?_typeCode (type : SqlType) :
    SqlType.ofCode? (Int32.ofInt type.code).toInt = some type := by
  have hcode : (Int32.ofInt type.code).toInt = type.code := by cases type <;> decide
  rw [hcode, SqlType.ofCode?_code]

end CatalogColumn

/-! ## Columns that are read back -/

/-- What a declared column shares with the one that is read back. -/
structure Column.RestoredAs (declared restored : Column) : Prop where
  name_eq : restored.name = declared.name
  storageType_eq : Migration.storageType? restored = Migration.storageType? declared
  computed_eq : declared.isComputed = true → restored.kind = declared.kind
  key_eq : restored.key = declared.key
  identity_eq : restored.identity = declared.identity
  /-- A value may be missing where the clause of a stored column says so. -/
  nullable_eq : declared.isComputed = false → restored.nullable = declared.acceptsNull

/-- Whether a stored column of the primary key is declared as if a value could be missing. -/
def Column.isNullableKey (column : Column) : Bool :=
  !column.isComputed && column.isKey && column.nullable

namespace CatalogColumn

open Sql (Pieces)

/-- A column that can be declared can be read back. -/
theorem column_of_describes {row : CatalogColumn} {declared : Column} {clause : Pieces}
    (hclause : declared.clause = .ok clause) (hrow : row.Describes declared) :
    ∃ restored, row.column = .ok restored ∧ declared.RestoredAs restored := by
  cases hkind : declared.kind with
  | stored type =>
    simp only [Describes, hkind] at hrow
    subst hrow
    refine ⟨(ofStored declared type).storedColumn type.stored, ?_, ?_⟩
    · simp only [column, ofStored, ofCode?_typeCode]
    · have htype : Migration.storageType? declared = some type.stored := by
        simp [Migration.storageType?, Column.storedType?, hkind]
      have hstored : declared.isComputed = false := by
        simp [Column.isComputed, Column.storedType?, hkind]
      exact ⟨rfl, htype.symm, by simp [hstored], keyRole_eq rfl rfl, rfl, fun _ => rfl⟩
  | computed expression persisted =>
    simp only [Describes, hkind] at hrow
    obtain ⟨hname, hcomputation, hpersisted, hkey, hclustered⟩ := hrow
    obtain ⟨hidentity, -, -⟩ := (Column.clause_eq_ok_iff_of_computed hkind).mp hclause
    refine ⟨row.computedColumn ("(" ++ expression ++ ")"), ?_, ?_⟩
    · simp only [column, hcomputation]
    · have htype : Migration.storageType? declared = none := by
        simp [Migration.storageType?, Column.storedType?, hkind]
      have hcomputed : declared.isComputed = true :=
        declared.isComputed_iff.mpr ⟨expression, persisted, hkind⟩
      have hsame : (row.computedColumn ("(" ++ expression ++ ")")).kind = declared.kind := by
        simp [computedColumn, withoutParentheses_parenthesized, hpersisted, hkind]
      exact ⟨hname, htype.symm, fun _ => hsame, keyRole_eq hkey hclustered, hidentity.symm,
        by simp [hcomputed]⟩

/-- Columns that can be declared can all be read back. -/
theorem mapM_column_of_describes {rows : List CatalogColumn} {columns : List Column}
    {clauses : List Pieces}
    (hclauses : List.Forall₂ (fun column clause => column.clause = .ok clause) columns clauses)
    (hrows : List.Forall₂ Describes rows columns) :
    ∃ restored, rows.mapM column = .ok restored ∧
      List.Forall₂ Column.RestoredAs columns restored := by
  simp only [Except.mapM_eq_ok_iff]
  induction hrows generalizing clauses with
  | nil => exact ⟨[], .nil, .nil⟩
  | cons hrow _ ih =>
    obtain _ | ⟨hclause, hrest⟩ := hclauses
    obtain ⟨first, hfirst, hshared⟩ := column_of_describes hclause hrow
    obtain ⟨others, hothers, hothersShared⟩ := ih hrest
    exact ⟨first :: others, .cons hfirst hothers, .cons hshared hothersShared⟩

end CatalogColumn

/-! ## Nothing to do -/

/-- What goes with a member of the first of two lists stands in the second. -/
theorem exists_of_mem_of_forall₂ {α β : Type} {relation : α → β → Prop} {firsts : List α}
    {seconds : List β} (hrelated : List.Forall₂ relation firsts seconds) {first : α}
    (hmem : first ∈ firsts) : ∃ second ∈ seconds, relation first second := by
  induction hrelated with
  | nil => cases hmem
  | cons hhead _ ih =>
    rcases List.mem_cons.mp hmem with rfl | hrest
    · exact ⟨_, List.mem_cons_self, hhead⟩
    · obtain ⟨second, hsecond, hpair⟩ := ih hrest
      exact ⟨second, List.mem_cons_of_mem _ hsecond, hpair⟩

namespace Migration

open Column (RestoredAs)

/-- All that is reported of a column that is read back is a key that accepts missing values by
its declaration. -/
theorem columnChanges_restored {declared restored : Column}
    (hshared : declared.RestoredAs restored) :
    columnChanges restored declared =
      if declared.isNullableKey then [.nullability declared.name true] else [] := by
  obtain ⟨-, htype, -, hkey, hidentity, hnullable⟩ := hshared
  simp only [columnChanges, htype, hkey, hidentity, ne_eq, not_true_eq_false, if_false,
    List.nil_append, List.append_nil, Column.isNullableKey]
  rcases Bool.eq_false_or_eq_true declared.isComputed with hcomputed | hstored
  · simp [hcomputed]
  · simp only [hnullable hstored, hstored, Column.acceptsNull]
    cases declared.nullable <;> cases declared.isKey <;> simp

section ReadBack

variable {columns restored : List Column}

/-- Columns that are read back have different names if the declared ones have. -/
theorem distinct_restored (hshared : List.Forall₂ RestoredAs columns restored)
    (hdistinct : Column.Distinct columns) : Column.Distinct restored := by
  have hnames : restored.map (fun column => Text.foldAsciiCase column.name) =
      columns.map fun column => Text.foldAsciiCase column.name := by
    clear hdistinct
    induction hshared with
    | nil => rfl
    | cons hfirst _ ih => rw [List.map_cons, List.map_cons, hfirst.name_eq, ih]
  rw [Column.Distinct, hnames]
  exact hdistinct

/-- Every declared column is found among those that are read back. -/
theorem findColumn?_restored (hshared : List.Forall₂ RestoredAs columns restored)
    (hdistinct : Column.Distinct columns) {declared : Column} (hdeclared : declared ∈ columns) :
    ∃ found, findColumn? restored declared.name = some found ∧ declared.RestoredAs found := by
  obtain ⟨found, hfound, hpair⟩ := exists_of_mem_of_forall₂ hshared hdeclared
  refine ⟨found, ?_, hpair⟩
  exact findColumn?_eq_some (distinct_restored hshared hdistinct) hfound (by simp [hpair.name_eq])

/-- Every column that is read back is found among the declared ones. -/
theorem findColumn?_declared (hshared : List.Forall₂ RestoredAs columns restored)
    (hdistinct : Column.Distinct columns) {found : Column} (hfound : found ∈ restored) :
    ∃ declared, findColumn? columns found.name = some declared := by
  obtain ⟨declared, hdeclared, hpair⟩ := exists_of_mem_of_forall₂ hshared.flip hfound
  exact ⟨declared, findColumn?_eq_some hdistinct hdeclared (by simp [hpair.name_eq])⟩

/-- All that is reported of columns that are read back is that columns of the key accept null. -/
theorem warnings_readBack (table : Table) (hshared : List.Forall₂ RestoredAs columns restored)
    (hdistinct : Column.Distinct columns) :
    (between table restored [] columns []).warnings =
      (columns.filter (·.isNullableKey)).map fun column => .nullability column.name true := by
  have hreports : (between table restored [] columns []).warnings =
      columns.flatMap fun declared =>
        if declared.isNullableKey then [.nullability declared.name true] else [] := by
    apply List.flatMap_congr
    intro declared hdeclared
    obtain ⟨found, hfound, hpair⟩ := findColumn?_restored hshared hdistinct hdeclared
    rw [hfound]
    exact columnChanges_restored hpair
  rw [hreports]
  clear hreports hshared hdistinct
  induction columns with
  | nil => rfl
  | cons column rest ih => cases hkey : column.isNullableKey <;> simp [hkey, ih]

/-- From the columns that are read back to the declared ones there is nothing to do. -/
theorem between_readBack (table : Table) (hshared : List.Forall₂ RestoredAs columns restored)
    (hdistinct : Column.Distinct columns) :
    between table restored [] columns [] =
      { warnings := (columns.filter (·.isNullableKey)).map fun column =>
          .nullability column.name true } := by
  have hadd : (columns.filter fun declared => (findColumn? restored declared.name).isNone) = []
      := by
    rw [List.filter_eq_nil_iff]
    intro declared hdeclared
    obtain ⟨found, hfound, -⟩ := findColumn?_restored hshared hdistinct hdeclared
    simp [hfound]
  have hdrop : (restored.filter fun found => (findColumn? columns found.name).isNone) = [] := by
    rw [List.filter_eq_nil_iff]
    intro found hfound
    obtain ⟨declared, hdeclared⟩ := findColumn?_declared hshared hdistinct hfound
    simp [hdeclared]
  rw [← warnings_readBack table hshared hdistinct]
  simp [between, hadd, hdrop]

end ReadBack

/-- A table that can be created can be read back.  From what is read back to what was declared
a migration adds and drops nothing, and it reports exactly the stored columns of the primary key
that are declared as if a value could be missing; without such columns it is empty. -/
theorem isEmpty_readBack_iff {table : Table} {columns : List Column} {rows : List CatalogColumn}
    {dialect : Dialect} {statement : Statement}
    (hcreated : (SchemaOperation.createTable table columns).statement dialect = .ok statement)
    (hrows : List.Forall₂ CatalogColumn.Describes rows columns) :
    ∃ restored, rows.mapM CatalogColumn.column = .ok restored ∧
      between table restored [] columns [] =
        { warnings := (columns.filter (·.isNullableKey)).map fun column =>
            .nullability column.name true } ∧
      ((between table restored [] columns []).isEmpty = true ↔
        ∀ column ∈ columns, column.isNullableKey = false) := by
  obtain ⟨pieces, hpieces, -⟩ := Except.map_eq_ok_iff.mp hcreated
  obtain ⟨hconsistent, clauses, -, hclauses, -, -⟩ := Schema.createTable_eq_ok_iff.mp hpieces
  obtain ⟨restored, hrestored, hshared⟩ := CatalogColumn.mapM_column_of_describes hclauses hrows
  have hdistinct := Schema.distinct_of_consistentColumns hconsistent
  have hmigration := between_readBack table hshared hdistinct
  refine ⟨restored, hrestored, hmigration, ?_⟩
  simp [hmigration, isEmpty]

/-! ## Tables with and without a key that accepts missing values -/

/-- Columns with a key, a length, a scale, a default and a computation. -/
def orderColumns : List Column :=
  [{ Column.stored "Id" (.host .int32) with key := .clusteredPrimary, identity := true },
   { Column.stored "Customer" (.host .string) with length := some 500, nullable := true },
   { Column.stored "Created" (.host .dateTime) with default := some .auto },
   { Column.stored "Price" (.sql .decimal) with precision := some 10, scale := some 2 },
   (Column.computed "Total" "([Price]) * (2)").persisted]

/-- Their rows in the catalog. -/
def orderRows : List CatalogColumn :=
  orderColumns.map fun column =>
    match column.kind with
    | .stored type => .ofStored column type
    | .computed expression persisted =>
      { CatalogColumn.ofStored column (.sql .decimal) with
        isNullable := true
        computation := some ("(" ++ expression ++ ")")
        persistedComputation := some persisted }

/-- Such a table is read back as it was declared. -/
theorem isEmpty_readBack_orders :
    ∃ restored, orderRows.mapM CatalogColumn.column = .ok restored ∧
      (between ⟨"orders", none⟩ restored [] orderColumns []).isEmpty = true := by
  obtain ⟨statement, hcreated⟩ : ∃ statement,
      (SchemaOperation.createTable ⟨"orders", none⟩ orderColumns).statement = .ok statement :=
    ⟨_, rfl⟩
  have hrows : List.Forall₂ CatalogColumn.Describes orderRows orderColumns := by
    simp [orderRows, orderColumns, CatalogColumn.Describes, CatalogColumn.ofStored,
      Column.stored, Column.computed, Column.persisted]
  obtain ⟨restored, hrestored, -, hempty⟩ := isEmpty_readBack_iff hcreated hrows
  exact ⟨restored, hrestored, hempty.mpr (by decide)⟩

/-- A key that is declared as if a value could be missing. -/
def nullableKey : Column :=
  { Column.stored "Id" (.sql .int) with nullable := true, key := .primary }

/-- A table with such a key can be created, but what is read back differs from what was
declared. -/
theorem not_isEmpty_readBack_nullableKey :
    (∃ statement,
      (SchemaOperation.createTable ⟨"t", none⟩ [nullableKey]).statement = .ok statement) ∧
    (CatalogColumn.ofStored nullableKey (.sql .int)).Describes nullableKey ∧
    ∃ restored,
      [CatalogColumn.ofStored nullableKey (.sql .int)].mapM CatalogColumn.column = .ok restored ∧
      between ⟨"t", none⟩ restored [] [nullableKey] [] =
        { warnings := [.nullability "Id" true] } ∧
      (between ⟨"t", none⟩ restored [] [nullableKey] []).isEmpty = false :=
  ⟨⟨_, rfl⟩, rfl, _, rfl, rfl, rfl⟩

end Migration

end SqlScribe
