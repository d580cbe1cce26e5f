import SqlScribe.Proofs.Migration.StoredTable
import SqlScribe.Proofs.Text.Recasing

/-!
# What a migration drops and adds

A migration compares what exists with what is desired in four independent lists.  Where
names are taken once, these lists tell exactly what is as desired from what is not.

Main definitions:

- `Migration.isAsDesired` tells the existing indexes that a migration keeps.
- `StoredTable.migrationTo` is the migration of a table.
- `StoredTable.created` is the table that has what is desired from the start.

Main results:

- `Migration.isAsDesired_iff_alike`: what the comparison of indexes asks of them.
- `StoredTable.mem_addColumns` and `StoredTable.mem_addIndexes`: what is added.
- `StoredTable.any_dropColumns` and `StoredTable.any_dropIndexes`: what is dropped.
-/

namespace SqlScribe

namespace Migration

/-- Among things of different names the only one of a name is found. -/
theorem find?_eq_some_of_nodup {α β : Type} {name : α → β} {p : α → Bool} {xs : List α} {x : α}
    (hnodup : (xs.map name).Nodup) (hmem : x ∈ xs) (hx : p x = true)
    (hname : ∀ y, p y = true → name y = name x) : xs.find? p = some x := by
  obtain ⟨found, hfound⟩ := Option.isSome_iff_exists.mp (List.find?_isSome.mpr ⟨x, hmem, hx⟩)
  have hsame : found = x := List.inj_on_of_nodup_map hnodup (List.mem_of_find?_eq_some hfound)
    hmem (hname found (List.find?_some hfound))
  rw [hfound, hsame]

/-! ## Indexes that are as desired -/

/-- Whether an existing index is one that is desired: by its name and by its
definition. -/
def isAsDesired (table : Table) (existing desired : Index) : Bool :=
  isNamed table (desired.nameFor table.name) existing && sameDefinition existing desired

/-- An index is called by a name that is its own but for the case of ASCII letters. -/
theorem isNamed_iff {table : Table} {name : String} {index : Index} :
    isNamed table name index = true ↔
      Text.foldAsciiCase (index.nameFor table.name) = Text.foldAsciiCase name :=
  Text.equalsIgnoringAsciiCase_iff

/-- An index is as desired if its name and its definition are. -/
theorem isAsDesired_iff {table : Table} {existing desired : Index} :
    isAsDesired table existing desired = true ↔
      isNamed table (desired.nameFor table.name) existing = true ∧
        sameDefinition existing desired = true :=
  Bool.and_eq_true_iff

/-- Columns of indexes are the same if their names differ in the case of ASCII letters at most
and both are sorted in one direction. -/
theorem sameKey_iff {existing desired : IndexKey} :
    sameKey existing desired = true ↔
      Text.Recased existing.name desired.name ∧ existing.direction = desired.direction := by
  rw [sameKey, Bool.and_eq_true, decide_eq_true_eq, Text.equalsIgnoringAsciiCase_iff,
    Text.recased_iff]

/-- Indexes have one definition if both are clustered or none is, both are unique or none is,
and they have the same columns in the same order. -/
theorem sameDefinition_iff {existing desired : Index} :
    sameDefinition existing desired = true ↔
      existing.clustered = desired.clustered ∧ existing.unique = desired.unique ∧
        List.Forall₂ (fun key other => Text.Recased key.name other.name ∧
          key.direction = other.direction) existing.keys desired.keys := by
  simp only [sameDefinition, Bool.and_eq_true, decide_eq_true_eq, List.all_eq_true,
    List.forall₂_iff_zip]
  constructor
  · rintro ⟨⟨⟨hclustered, hunique⟩, hlength⟩, hkeys⟩
    exact ⟨hclustered, hunique, hlength, fun {key other} hmem =>
      sameKey_iff.mp (hkeys (key, other) hmem)⟩
  · rintro ⟨hclustered, hunique, hlength, hkeys⟩
    exact ⟨⟨⟨hclustered, hunique⟩, hlength⟩, fun pair hmem => sameKey_iff.mpr (hkeys hmem)⟩

/-- An existing index is as desired if its name, its flags and the names and directions of its
columns are, the case of ASCII letters in names aside. -/
theorem isAsDesired_iff_alike {table : Table} {existing desired : Index} :
    isAsDesired table existing desired = true ↔
      Text.Recased (existing.nameFor table.name) (desired.nameFor table.name) ∧
        existing.clustered = desired.clustered ∧ existing.unique = desired.unique ∧
          List.Forall₂ (fun key other => Text.Recased key.name other.name ∧
            key.direction = other.direction) existing.keys desired.keys := by
  rw [isAsDesired_iff, isNamed_iff, sameDefinition_iff, Text.recased_iff]

/-- Every index is as desired if it is what is desired. -/
theorem isAsDesired_refl (table : Table) (index : Index) :
    isAsDesired table index index = true :=
  isAsDesired_iff_alike.mpr
    ⟨.refl _, rfl, rfl, List.forall₂_same.mpr fun key _ => ⟨.refl key.name, rfl⟩⟩

/-- Indexes of the same definition use the same columns. -/
theorem uses_of_sameDefinition {existing desired : Index} {column : String}
    (hsame : sameDefinition existing desired = true) (huses : existing.uses column = true) :
    desired.uses column = true := by
  obtain ⟨-, -, hkeys⟩ := sameDefinition_iff.mp hsame
  simp only [Index.uses] at huses ⊢
  generalize existing.keys = keys, desired.keys = others at hkeys huses ⊢
  induction hkeys with
  | nil => simp at huses
  | cons hfirst _ ih =>
    rw [List.any_cons, Bool.or_eq_true] at huses ⊢
    rcases huses with huses | huses
    · exact .inl ((hfirst.1.equals_left column).trans huses)
    · exact .inr (ih huses)

section Named

variable {table : Table} {existing : List Index} {index : Index}

/-- Where names are taken once, an index is found by its name. -/
theorem find?_isNamed
    (hnodup : (existing.map fun index => Text.foldAsciiCase (index.nameFor table.name)).Nodup)
    {name : String} (hmem : index ∈ existing) (hnamed : isNamed table name index = true) :
    existing.find? (isNamed table name) = some index :=
  find?_eq_some_of_nodup hnodup hmem hnamed fun _ hother =>
    (isNamed_iff.mp hother).trans (isNamed_iff.mp hnamed).symm

/-- A desired index must be added exactly if no existing one is as desired. -/
theorem isMissing_iff
    (hnodup : (existing.map fun index => Text.foldAsciiCase (index.nameFor table.name)).Nodup)
    {desired : Index} :
    isMissing table existing desired = true ↔
      ∀ index ∈ existing, isAsDesired table index desired = false := by
  constructor
  · intro hmissing index hmem
    by_contra hdesired
    obtain ⟨hnamed, hsame⟩ := isAsDesired_iff.mp (Bool.not_eq_false _ ▸ hdesired)
    simp [isMissing, find?_isNamed hnodup hmem hnamed, hsame] at hmissing
  · intro hnone
    unfold isMissing
    split
    · rename_i found hfound
      have hother := hnone found (List.mem_of_find?_eq_some hfound)
      simpa [isAsDesired, List.find?_some hfound] using hother
    · rfl

/-- An index is in the way of a desired one exactly if it has its name, but not its
definition. -/
theorem isInTheWay_iff
    (hnodup : (existing.map fun index => Text.foldAsciiCase (index.nameFor table.name)).Nodup)
    {desired : Index} :
    isInTheWay table existing desired = true ↔
      ∃ index ∈ existing, isNamed table (desired.nameFor table.name) index = true ∧
        sameDefinition index desired = false := by
  constructor
  · intro hway
    unfold isInTheWay at hway
    split at hway
    · rename_i found hfound
      exact ⟨found, List.mem_of_find?_eq_some hfound, List.find?_some hfound, by simpa using hway⟩
    · simp at hway
  · rintro ⟨index, hmem, hnamed, hother⟩
    simp [isInTheWay, find?_isNamed hnodup hmem hnamed, hother]

end Named

end Migration

namespace StoredTable

open Migration

/-! ## Migrations of a table -/

/-- The migration of a table to desired columns and indexes. -/
def migrationTo (stored : StoredTable) (columns : List Column) (indexes : List Index) :
    Migration :=
  Migration.between stored.table stored.columns stored.indexes columns indexes

/-- The table that has the desired columns and indexes from the start. -/
def created (table : Table) (columns : List Column) (indexes : List Index) : StoredTable :=
  ⟨table, columns, indexes.map (⟨·, false⟩)⟩

/-- A table that was created has the indexes that it was created with, besides those of its key. -/
@[simp] theorem otherIndexes_created (table : Table) (columns : List Column)
    (indexes : List Index) : (created table columns indexes).otherIndexes = indexes := by
  simp [created, otherIndexes, List.filter_map, Function.comp_def]

/-! ## The lists of a migration -/

variable {stored : StoredTable} {columns : List Column} {indexes : List Index}

/-- A table has a column under every spelling of its name. -/
theorem hasColumn_congr {a b : String} (hsame : Text.foldAsciiCase a = Text.foldAsciiCase b) :
    stored.hasColumn a = stored.hasColumn b := by
  rw [Bool.eq_iff_iff, hasColumn_iff, hasColumn_iff, hsame]

/-- A column is found exactly if the table has it. -/
theorem isNone_findColumn? (stored : StoredTable) (name : String) :
    (findColumn? stored.columns name).isNone = !stored.hasColumn name := by
  have hsome : (findColumn? stored.columns name).isSome = stored.hasColumn name := by
    rw [Bool.eq_iff_iff, findColumn?, List.find?_isSome, hasColumn, List.any_eq_true]
  rw [← Option.not_isSome, hsome]

/-- The indexes of a consistent table have different names, those of its key aside. -/
theorem nodup_otherIndexes (hstored : stored.Consistent) :
    (stored.otherIndexes.map fun index =>
      Text.foldAsciiCase (index.nameFor stored.table.name)).Nodup := by
  rw [otherIndexes, List.map_map]
  exact hstored.indexes_nodup.sublist (List.filter_sublist.map _)

/-- Desired indexes have different names if they can stand in one table. -/
theorem nodup_desired (hdesired : (created stored.table columns indexes).Consistent) :
    (indexes.map fun index => Text.foldAsciiCase (index.nameFor stored.table.name)).Nodup := by
  have hnodup := nodup_otherIndexes hdesired
  rwa [otherIndexes_created] at hnodup

/-- A column is added if it is desired and not there. -/
theorem mem_addColumns {column : Column} :
    column ∈ (stored.migrationTo columns indexes).addColumns ↔
      column ∈ columns ∧ stored.hasColumn column.name = false := by
  simp only [migrationTo, between, List.mem_filter, isNone_findColumn?, Bool.not_eq_true']

/-- A column is dropped if it is there and not desired. -/
theorem mem_dropColumns {name : String} :
    name ∈ (stored.migrationTo columns indexes).dropColumns ↔
      ∃ column ∈ stored.columns,
        (created stored.table columns indexes).hasColumn column.name = false ∧
          column.name = name := by
  have hnone : ∀ name, (findColumn? columns name).isNone =
      !(created stored.table columns indexes).hasColumn name :=
    (created stored.table columns indexes).isNone_findColumn?
  simp only [migrationTo, between, List.mem_map, List.mem_filter, hnone, Bool.not_eq_true',
    and_assoc]

/-- An index is added if it is desired and none that is there is as desired. -/
theorem mem_addIndexes (hstored : stored.Consistent) {desired : Index} :
    desired ∈ (stored.migrationTo columns indexes).addIndexes ↔
      desired ∈ indexes ∧
        ∀ index ∈ stored.otherIndexes, isAsDesired stored.table index desired = false := by
  rw [← isMissing_iff (nodup_otherIndexes hstored)]
  exact List.mem_filter

/-- An index is dropped if it is in the way of a desired one, or if none of its name is desired. -/
theorem mem_dropIndexes (hstored : stored.Consistent) {name : String} :
    name ∈ (stored.migrationTo columns indexes).dropIndexes ↔
      (∃ desired ∈ indexes,
        (∃ index ∈ stored.otherIndexes,
          isNamed stored.table (desired.nameFor stored.table.name) index = true ∧
            sameDefinition index desired = false) ∧
          desired.nameFor stored.table.name = name) ∨
      ∃ index ∈ stored.otherIndexes,
        (∀ desired ∈ indexes,
          isNamed stored.table (index.nameFor stored.table.name) desired = false) ∧
          index.nameFor stored.table.name = name := by
  change name ∈ (indexes.filter (isInTheWay stored.table stored.otherIndexes)).map _ ++
    (stored.otherIndexes.filter _).map _ ↔ _
  simp only [List.mem_append, List.mem_map, List.mem_filter, and_assoc,
    isInTheWay_iff (nodup_otherIndexes hstored), Bool.not_eq_true', List.any_eq_false,
    Bool.not_eq_true]

/-- An existing index is dropped exactly if it is not as desired: either another one of its
name is desired or none. -/
theorem any_dropIndexes (hstored : stored.Consistent)
    (hdesired : (created stored.table columns indexes).Consistent) {index : Index}
    (hindex : index ∈ stored.otherIndexes) :
    ((stored.migrationTo columns indexes).dropIndexes.any fun name =>
        isNamed stored.table name index) =
      !indexes.any (isAsDesired stored.table index) := by
  rw [Bool.eq_iff_iff, List.any_eq_true, Bool.not_eq_true', List.any_eq_false]
  simp only [Bool.not_eq_true]
  constructor
  · rintro ⟨name, hname, hnamed⟩ desired hmem
    by_contra hwanted
    obtain ⟨hasName, hsame⟩ := isAsDesired_iff.mp (Bool.not_eq_false _ ▸ hwanted)
    rw [isNamed_iff] at hnamed hasName
    rcases (mem_dropIndexes hstored).mp hname with
      ⟨other, hother, ⟨existing, hexisting, hexistingNamed, hdiffers⟩, rfl⟩ |
      ⟨existing, hexisting, hunwanted, rfl⟩
    · -- Both pairs of indexes have one name, so they are the same.
      rw [isNamed_iff] at hexistingNamed
      have hexistingEq : existing = index := List.inj_on_of_nodup_map
        (nodup_otherIndexes hstored) hexisting hindex (hexistingNamed.trans hnamed.symm)
      have hotherEq : other = desired := List.inj_on_of_nodup_map
        (nodup_desired hdesired) hother hmem (hnamed.symm.trans hasName)
      rw [hexistingEq, hotherEq, hsame] at hdiffers
      cases hdiffers
    · have hnot := hunwanted desired hmem
      rw [← Bool.not_eq_true, isNamed_iff] at hnot
      exact hnot (hasName.symm.trans hnamed)
  · intro hnone
    by_cases hwanted : ∃ desired ∈ indexes,
        isNamed stored.table (desired.nameFor stored.table.name) index = true
    · obtain ⟨desired, hmem, hnamed⟩ := hwanted
      have hdiffers : sameDefinition index desired = false := by
        simpa [isAsDesired, hnamed] using hnone desired hmem
      refine ⟨_, (mem_dropIndexes hstored).mpr (.inl ⟨desired, hmem, ?_, rfl⟩), hnamed⟩
      exact ⟨index, hindex, hnamed, hdiffers⟩
    · refine ⟨_, (mem_dropIndexes hstored).mpr (.inr ⟨index, hindex, ?_, rfl⟩), ?_⟩
      · intro desired hmem
        rw [← Bool.not_eq_true, isNamed_iff]
        intro hnamed
        exact hwanted ⟨desired, hmem, isNamed_iff.mpr hnamed.symm⟩
      · exact isNamed_iff.mpr rfl

/-- An existing column is dropped exactly if no column of its name is desired. -/
theorem any_dropColumns {column : Column} (hcolumn : column ∈ stored.columns) :
    ((stored.migrationTo columns indexes).dropColumns.any fun name =>
        Text.equalsIgnoringAsciiCase column.name name) =
      !(created stored.table columns indexes).hasColumn column.name := by
  rw [Bool.eq_iff_iff, List.any_eq_true, Bool.not_eq_true']
  constructor
  · rintro ⟨name, hname, hsame⟩
    obtain ⟨other, -, hunwanted, rfl⟩ := mem_dropColumns.mp hname
    rw [hasColumn_congr (Text.equalsIgnoringAsciiCase_iff.mp hsame)]
    exact hunwanted
  · intro hunwanted
    refine ⟨column.name, mem_dropColumns.mpr ⟨column, hcolumn, hunwanted, rfl⟩, ?_⟩
    exact Text.equalsIgnoringAsciiCase_refl _

end StoredTable

end SqlScribe
