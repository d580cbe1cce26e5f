import SqlScribe.Proofs.Lexing.ColumnText
import SqlScribe.Proofs.Migration.Warnings

/-!
# The primary key behind a migration

A column leaves the primary key when it is dropped, and joins it when the text that adds it
declares a key.  A migration reports changes of the key for columns that exist on both sides
only, and the text of an added column declares no key.  So without reports the key becomes what
is desired exactly if all its columns stay and no column of the key is added.

Main definitions:

- `Column.keyNames` are the names of the columns of the primary key.
- `SchemaOperation.keyNamesAfter` is what an operation makes of them, and
  `SchemaOperation.keyNamesAfterAll` what several do.

Main results:

- `Migration.mem_keyNamesAfterAll_iff`: the primary key behind a migration.
- `Migration.reachesKey_iff`: when that is the desired one.
-/

namespace SqlScribe

/-! ## Columns of the primary key -/

/-- The names of the columns of the primary key, as they are compared. -/
def Column.keyNames (columns : List Column) : List (List Char) :=
  (Schema.keyColumns columns).map fun column => Text.foldAsciiCase column.name

/-- The names of a key are those of its columns. -/
theorem Column.mem_keyNames {columns : List Column} {name : List Char} :
    name ∈ keyNames columns ↔
      ∃ column ∈ columns, column.isKey = true ∧ Text.foldAsciiCase column.name = name := by
  simp [keyNames, Schema.keyColumns, and_assoc]

namespace SchemaOperation

/-- Whether the text of an operation declares a primary key. -/
def declaresKey (operation : SchemaOperation) : Bool :=
  match operation.statement with
  | .ok statement => Sql.declaresKey (Sql.tokens statement.text)
  | .error _ => false

/-- What a step of a migration makes of the columns of the primary key: a dropped column leaves
it, and an added one joins it if the text declares a key. -/
def keyNamesAfter (names : List (List Char)) (operation : SchemaOperation) : List (List Char) :=
  match operation with
  | .dropColumn _ name => names.filter (· ≠ Text.foldAsciiCase name)
  | .addColumn _ column =>
    if operation.declaresKey then names ++ [Text.foldAsciiCase column.name] else names
  | _ => names

/-- What several steps make of them. -/
def keyNamesAfterAll (names : List (List Char)) (operations : List SchemaOperation) :
    List (List Char) :=
  operations.foldl keyNamesAfter names

theorem keyNamesAfterAll_cons (names : List (List Char)) (operation : SchemaOperation)
    (rest : List SchemaOperation) :
    keyNamesAfterAll names (operation :: rest) =
      keyNamesAfterAll (keyNamesAfter names operation) rest :=
  rfl

/-- The key behind two runs of steps is the one that the second leads to from the first. -/
theorem keyNamesAfterAll_append (names : List (List Char)) (first second : List SchemaOperation) :
    keyNamesAfterAll names (first ++ second) =
      keyNamesAfterAll (keyNamesAfterAll names first) second :=
  List.foldl_append

/-- The text that adds a column declares no key, unless an expression is copied into it. -/
theorem declaresKey_addColumn (table : Table) {column : Column}
    (hwritten : column.copiesText = false) : (addColumn table column).declaresKey = false := by
  unfold declaresKey
  split
  · rename_i statement hstatement
    obtain ⟨pieces, hpieces, rfl⟩ := Except.map_eq_ok_iff.mp hstatement
    exact Schema.declaresKey_addColumn hwritten hpieces
  · rfl

/-! ## Steps of one kind -/

section Phases

variable (names : List (List Char)) (table : Table)

/-- Dropping indexes does not change the key. -/
theorem keyNamesAfterAll_dropIndexes (indexes : List String) :
    keyNamesAfterAll names (indexes.map (.dropIndex table)) = names := by
  induction indexes with
  | nil => rfl
  | cons _ rest ih => exact ih

/-- Adding indexes does not change the key. -/
theorem keyNamesAfterAll_addIndexes (indexes : List Index) :
    keyNamesAfterAll names (indexes.map (.addIndex table)) = names := by
  induction indexes with
  | nil => rfl
  | cons _ rest ih => exact ih

/-- Dropping columns takes their names out of the key. -/
theorem mem_keyNamesAfterAll_dropColumns {columns : List String} {name : List Char} :
    name ∈ keyNamesAfterAll names (columns.map (.dropColumn table)) ↔
      name ∈ names ∧ ∀ column ∈ columns, Text.foldAsciiCase column ≠ name := by
  induction columns generalizing names with
  | nil => simp [keyNamesAfterAll]
  | cons column rest ih =>
    have hstep : name ∈ keyNamesAfter names (.dropColumn table column) ↔
        name ∈ names ∧ Text.foldAsciiCase column ≠ name := by
      simp [keyNamesAfter, ne_comm]
    rw [List.map_cons, keyNamesAfterAll_cons, ih, hstep, List.forall_mem_cons, and_assoc]

/-- Adding columns puts the names of those that declare a key into it. -/
theorem mem_keyNamesAfterAll_addColumns {columns : List Column} {name : List Char} :
    name ∈ keyNamesAfterAll names (columns.map (.addColumn table)) ↔
      name ∈ names ∨ ∃ column ∈ columns,
        (addColumn table column).declaresKey = true ∧ Text.foldAsciiCase column.name = name := by
  induction columns generalizing names with
  | nil => simp [keyNamesAfterAll]
  | cons column rest ih =>
    have hstep : name ∈ keyNamesAfter names (.addColumn table column) ↔
        name ∈ names ∨
          (addColumn table column).declaresKey = true ∧ Text.foldAsciiCase column.name = name := by
      cases hdeclares : (addColumn table column).declaresKey <;>
        simp [keyNamesAfter, hdeclares, eq_comm]
    rw [List.map_cons, keyNamesAfterAll_cons, ih, hstep, List.exists_mem_cons_iff, or_assoc]

end Phases

end SchemaOperation

namespace Migration

open SchemaOperation (keyNamesAfterAll)

/-- The primary key behind a migration: columns that were in it and are not dropped, and added
ones whose text declares a key. -/
theorem mem_keyNamesAfterAll_iff (migration : Migration) (table : Table)
    {names : List (List Char)} {name : List Char} :
    name ∈ keyNamesAfterAll names (migration.operations table) ↔
      (name ∈ names ∧ ∀ dropped ∈ migration.dropColumns, Text.foldAsciiCase dropped ≠ name) ∨
        ∃ column ∈ migration.addColumns,
          (SchemaOperation.addColumn table column).declaresKey = true ∧
            Text.foldAsciiCase column.name = name := by
  simp only [operations, SchemaOperation.keyNamesAfterAll_append,
    SchemaOperation.keyNamesAfterAll_dropIndexes, SchemaOperation.keyNamesAfterAll_addIndexes,
    SchemaOperation.mem_keyNamesAfterAll_addColumns,
    SchemaOperation.mem_keyNamesAfterAll_dropColumns]

/-! ## Reaching the desired key -/

/-- Whether the steps of a migration lead from one primary key to another and drop no column of
the first one. -/
structure ReachesKey (migration : Migration) (table : Table) (existing desired : List Column) :
    Prop where
  mem_iff : ∀ name,
    name ∈ keyNamesAfterAll (Column.keyNames existing) (migration.operations table) ↔
      name ∈ Column.keyNames desired
  keeps : ∀ name, .dropColumn table name ∈ migration.operations table →
    Text.foldAsciiCase name ∉ Column.keyNames existing

/-- The steps of a migration drop the columns that it lists. -/
theorem dropColumn_mem_operations {migration : Migration} {table : Table} {name : String} :
    .dropColumn table name ∈ migration.operations table ↔ name ∈ migration.dropColumns := by
  simp [operations]

section Key

variable {table : Table} {existing desired : List Column} {existingIndexes : List ExistingIndex}
  {desiredIndexes : List Index} {migration : Migration}

/-- The columns that a migration adds are the desired ones that are not there. -/
theorem mem_addColumns_iff
    (hmigration : between table existing existingIndexes desired desiredIndexes = migration)
    {column : Column} :
    column ∈ migration.addColumns ↔
      column ∈ desired ∧ findColumn? existing column.name = none := by
  simp [← hmigration, between]

/-- The columns that a migration drops are those that are there and not desired. -/
theorem mem_dropColumns_iff
    (hmigration : between table existing existingIndexes desired desiredIndexes = migration)
    {name : String} :
    name ∈ migration.dropColumns ↔
      ∃ column ∈ existing, findColumn? desired column.name = none ∧ column.name = name := by
  simp [← hmigration, between, and_assoc]

/-- Without reports two columns of one name play the same part in the primary key. -/
theorem isKey_eq_of_warnings
    (hmigration : between table existing existingIndexes desired desiredIndexes = migration)
    (hexisting : Column.Distinct existing) (hwarnings : migration.warnings = [])
    {before after : Column} (hbefore : before ∈ existing) (hafter : after ∈ desired)
    (hname : Text.foldAsciiCase before.name = Text.foldAsciiCase after.name) :
    before.isKey = after.isKey := by
  rw [← hmigration, warnings_eq_nil_iff hexisting] at hwarnings
  have hsame := hwarnings before hbefore after hafter (Text.equalsIgnoringAsciiCase_iff.mpr hname)
  rw [Column.isKey, Column.isKey, (columnChanges_eq_nil_iff.mp hsame).2.2.1]

/-- If the steps reach the desired key, every column of the key is desired. -/
theorem ReachesKey.stays (hreaches : migration.ReachesKey table existing desired)
    (hmigration : between table existing existingIndexes desired desiredIndexes = migration)
    {before : Column} (hbefore : before ∈ existing) (hkey : before.isKey = true) :
    ∃ after ∈ desired, Text.foldAsciiCase after.name = Text.foldAsciiCase before.name := by
  by_contra hnone
  have hunfound : findColumn? desired before.name = none := by
    rw [findColumn?_eq_none_iff]
    exact fun after hafter hname => hnone ⟨after, hafter, hname⟩
  have hdropped := (mem_dropColumns_iff hmigration).mpr ⟨before, hbefore, hunfound, rfl⟩
  exact hreaches.keeps before.name (dropColumn_mem_operations.mpr hdropped)
    (Column.mem_keyNames.mpr ⟨before, hbefore, hkey, rfl⟩)

/-- If the steps reach the desired key, the text of an added column says whether the column
belongs to it. -/
theorem ReachesKey.isKey_eq (hreaches : migration.ReachesKey table existing desired)
    (hmigration : between table existing existingIndexes desired desiredIndexes = migration)
    (hdesired : Column.Distinct desired) {added : Column} (hadded : added ∈ migration.addColumns) :
    added.isKey = (SchemaOperation.addColumn table added).declaresKey := by
  obtain ⟨hmem, hunfound⟩ := (mem_addColumns_iff hmigration).mp hadded
  have hafter := (hreaches.mem_iff (Text.foldAsciiCase added.name)).symm
  rw [mem_keyNamesAfterAll_iff, Column.mem_keyNames, Column.mem_keyNames] at hafter
  rw [Bool.eq_iff_iff]
  constructor
  · intro hkey
    rcases hafter.mp ⟨added, hmem, hkey, rfl⟩ with
      ⟨⟨before, hbefore, -, hname⟩, -⟩ | ⟨other, hother, hdeclares, hname⟩
    · exact absurd hname (findColumn?_eq_none_iff.mp hunfound before hbefore)
    · have hsame : other = added := eq_of_name hdesired ((mem_addColumns_iff hmigration).mp hother).1
        hmem (Text.equalsIgnoringAsciiCase_iff.mpr hname)
      rwa [← hsame]
  · intro hdeclares
    obtain ⟨other, hother, hkey, hname⟩ := hafter.mpr (.inr ⟨added, hadded, hdeclares, rfl⟩)
    have hsame : other = added :=
      eq_of_name hdesired hother hmem (Text.equalsIgnoringAsciiCase_iff.mpr hname)
    rwa [← hsame]

/-- Without reports the steps reach the desired key if all its columns stay and the texts of
added columns say what belongs to it. -/
theorem reachesKey_of_stays
    (hmigration : between table existing existingIndexes desired desiredIndexes = migration)
    (hexisting : Column.Distinct existing) (hwarnings : migration.warnings = [])
    (hstays : ∀ before ∈ existing, before.isKey = true →
      ∃ after ∈ desired, Text.foldAsciiCase after.name = Text.foldAsciiCase before.name)
    (hadded : ∀ added ∈ migration.addColumns,
      added.isKey = (SchemaOperation.addColumn table added).declaresKey) :
    migration.ReachesKey table existing desired where
  mem_iff name := by
    rw [mem_keyNamesAfterAll_iff, Column.mem_keyNames, Column.mem_keyNames]
    constructor
    · rintro (⟨⟨before, hbefore, hkey, rfl⟩, -⟩ | ⟨added, hmem, hdeclares, rfl⟩)
      · obtain ⟨after, hafter, hname⟩ := hstays before hbefore hkey
        have hsame := isKey_eq_of_warnings hmigration hexisting hwarnings hbefore hafter hname.symm
        exact ⟨after, hafter, hsame ▸ hkey, hname⟩
      · have hkey := (hadded added hmem).trans hdeclares
        exact ⟨added, ((mem_addColumns_iff hmigration).mp hmem).1, hkey, rfl⟩
    · rintro ⟨after, hafter, hkey, rfl⟩
      cases hfound : findColumn? existing after.name with
      | some before =>
        obtain ⟨hbefore, hname⟩ := mem_of_findColumn? hfound
        rw [Text.equalsIgnoringAsciiCase_iff] at hname
        have hsame := isKey_eq_of_warnings hmigration hexisting hwarnings hbefore hafter hname
        refine .inl ⟨⟨before, hbefore, hsame.trans hkey, hname⟩, ?_⟩
        intro dropped hdropped hdroppedName
        obtain ⟨other, -, hunfound, rfl⟩ := (mem_dropColumns_iff hmigration).mp hdropped
        exact findColumn?_eq_none_iff.mp hunfound after hafter hdroppedName.symm
      | none =>
        have hmem := (mem_addColumns_iff hmigration).mpr ⟨hafter, hfound⟩
        exact .inr ⟨after, hmem, (hadded after hmem).symm.trans hkey, rfl⟩
  keeps name hdropped := by
    rw [Column.mem_keyNames]
    rintro ⟨before, hbefore, hkey, hname⟩
    obtain ⟨other, -, hunfound, rfl⟩ :=
      (mem_dropColumns_iff hmigration).mp (dropColumn_mem_operations.mp hdropped)
    obtain ⟨after, hafter, hafterName⟩ := hstays before hbefore hkey
    exact findColumn?_eq_none_iff.mp hunfound after hafter (hafterName.trans hname)

/-- A migration that reports nothing leads to the desired primary key and drops no column of the
existing one exactly if every column of the key is desired and the text of every added column
declares a key just when the column belongs to it.  A text into which no expression is copied
never does. -/
theorem reachesKey_iff
    (hmigration : between table existing existingIndexes desired desiredIndexes = migration)
    (hexisting : Column.Distinct existing) (hdesired : Column.Distinct desired)
    (hwarnings : migration.warnings = []) :
    (migration.ReachesKey table existing desired ↔
      (∀ before ∈ existing, before.isKey = true →
        ∃ after ∈ desired, Text.foldAsciiCase after.name = Text.foldAsciiCase before.name) ∧
      ∀ added ∈ migration.addColumns,
        added.isKey = (SchemaOperation.addColumn table added).declaresKey) ∧
    ∀ added ∈ migration.addColumns, added.copiesText = false →
      (SchemaOperation.addColumn table added).declaresKey = false := by
  refine ⟨⟨fun hreaches => ⟨?_, ?_⟩, ?_⟩, ?_⟩
  · exact fun before hbefore => hreaches.stays hmigration hbefore
  · exact fun added => hreaches.isKey_eq hmigration hdesired
  · rintro ⟨hstays, hadded⟩
    exact reachesKey_of_stays hmigration hexisting hwarnings hstays hadded
  · exact fun added _ => SchemaOperation.declaresKey_addColumn table

end Key

/-! ## Migrations that leave the key and that miss it -/

/-- A table with a key of one column. -/
def keyedColumns : List Column :=
  [{ Column.stored "Id" (.sql .int) with key := .primary }, .stored "Name" (.sql .int)]

/-- The same key with another column beside it. -/
def regularColumns : List Column :=
  [{ Column.stored "ID" (.sql .int) with key := .primary },
   { Column.stored "Code" (.sql .nVarChar) with default := some (.value (.text "KEY")) }]

/-- A column is dropped, another one is added, and the key stays. -/
theorem reachesKey_regularColumns :
    (between ⟨"t", none⟩ keyedColumns [] regularColumns []).ReachesKey ⟨"t", none⟩ keyedColumns
      regularColumns := by
  have hexisting : Column.Distinct keyedColumns := by decide
  have hdesired : Column.Distinct regularColumns := by decide
  have hwarnings : (between ⟨"t", none⟩ keyedColumns [] regularColumns []).warnings = [] := by
    decide
  have hadded : (between ⟨"t", none⟩ keyedColumns [] regularColumns []).addColumns =
      [{ Column.stored "Code" (.sql .nVarChar) with default := some (.value (.text "KEY")) }] := by
    decide
  obtain ⟨hreaches, hwritten⟩ := reachesKey_iff rfl hexisting hdesired hwarnings
  rw [hadded] at hreaches hwritten
  refine hreaches.mpr ⟨by decide, ?_⟩
  intro added hmem
  rw [hwritten added hmem]
  · rw [List.mem_singleton.mp hmem]
    rfl
  · rw [List.mem_singleton.mp hmem]
    rfl

/-- The key with a further column. -/
def widenedColumns : List Column :=
  keyedColumns ++ [{ Column.stored "Code" (.sql .int) with key := .primary }]

/-- A column of the key is added by a text that does not declare it, and on the way back it is
dropped while it is in the key.  Neither is reported. -/
theorem not_reachesKey_widenedColumns :
    ((between ⟨"t", none⟩ keyedColumns [] widenedColumns []).warnings = [] ∧
      (between ⟨"t", none⟩ keyedColumns [] widenedColumns []).statements ⟨"t", none⟩ =
        .ok [{ text := "ALTER TABLE [t] ADD [Code] int NOT NULL", result := .none }] ∧
      ¬ (between ⟨"t", none⟩ keyedColumns [] widenedColumns []).ReachesKey ⟨"t", none⟩
        keyedColumns widenedColumns) ∧
    (between ⟨"t", none⟩ widenedColumns [] keyedColumns []).warnings = [] ∧
      ¬ (between ⟨"t", none⟩ widenedColumns [] keyedColumns []).ReachesKey ⟨"t", none⟩
        widenedColumns keyedColumns := by
  refine ⟨⟨by decide, rfl, ?_⟩, by decide, ?_⟩
  · intro hreaches
    exact absurd (hreaches.mem_iff (Text.foldAsciiCase "Code")) (by decide)
  · intro hreaches
    exact hreaches.keeps "Code" (dropColumn_mem_operations.mpr (by decide)) (by decide)

end Migration

end SqlScribe
