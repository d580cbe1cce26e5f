import SqlScribe.Proofs.Migration.Comparison

/-!
# Migrations converge

Taken in their order, the steps of a migration can all be taken, lead to what is desired,
and leave nothing to do but what is only reported.

Main definitions:

- `StoredTable.Realizes` says that a table has exactly what is desired.
- `StoredTable.migrated` is the table behind all steps of a migration.

Main results:

- `StoredTable.run_migration`: the steps of a migration can be taken and lead to the
  migrated table.
- `StoredTable.migrationTo_of_realizes`: to a table that has exactly what is desired a
  migration does nothing.
- `StoredTable.migration_converges`: behind its steps a migration has reached what is
  desired, and a further one does nothing.
-/

namespace SqlScribe.StoredTable

open Migration

/-! ## The migrated table -/

/-- A table has exactly the desired columns and, besides the indexes of its primary key,
exactly the desired indexes.  Indexes are matched by what `Migration.isAsDesired_iff_alike` says:
their names, flags and columns with their directions. -/
structure Realizes (stored : StoredTable) (columns : List Column) (indexes : List Index) :
    Prop where
  columnNames_perm :
    stored.columnNames.Perm (columns.map fun column => Text.foldAsciiCase column.name)
  desired_of_index : ∀ index ∈ stored.otherIndexes, ∃ desired ∈ indexes,
    isAsDesired stored.table index desired = true
  index_of_desired : ∀ desired ∈ indexes, ∃ index ∈ stored.otherIndexes,
    isAsDesired stored.table index desired = true

/-- No desired index has the name of an index of the primary key. -/
def LeavesKeys (stored : StoredTable) (indexes : List Index) : Prop :=
  ∀ existing ∈ stored.indexes, existing.isPrimaryKey = true → ∀ desired ∈ indexes,
    isNamed stored.table (desired.nameFor stored.table.name) existing.index = false

/-- The table behind the drops of a migration: what is as desired stays. -/
def dropped (stored : StoredTable) (columns : List Column) (indexes : List Index) :
    StoredTable :=
  { stored with
    columns := stored.columns.filter fun existing =>
      (created stored.table columns indexes).hasColumn existing.name
    indexes := stored.indexes.filter fun existing =>
      existing.isPrimaryKey || indexes.any (isAsDesired stored.table existing.index) }

/-- The table behind all steps of a migration: what is missing comes behind what stays. -/
def migrated (stored : StoredTable) (columns : List Column) (indexes : List Index) :
    StoredTable :=
  { stored with
    columns :=
      (stored.dropped columns indexes).columns ++ (stored.migrationTo columns indexes).addColumns
    indexes := (stored.dropped columns indexes).indexes ++
      (stored.migrationTo columns indexes).addIndexes.map (⟨·, false⟩) }

section Steps

variable {stored : StoredTable} {columns : List Column} {indexes : List Index}

/-- The indexes that are left behind the drops are those that are as desired. -/
theorem mem_otherIndexes_dropped {index : Index} :
    index ∈ (stored.dropped columns indexes).otherIndexes ↔
      index ∈ stored.otherIndexes ∧
        ∃ desired ∈ indexes, isAsDesired stored.table index desired = true := by
  simp [mem_otherIndexes, dropped]

/-- The columns of the migrated table have the desired names. -/
theorem mem_columnNames_migrated {name : List Char} :
    name ∈ (stored.migrated columns indexes).columnNames ↔
      name ∈ (created stored.table columns indexes).columnNames := by
  simp only [columnNames, migrated, dropped, List.map_append, List.mem_append, List.mem_map,
    List.mem_filter, mem_addColumns]
  constructor
  · rintro (⟨existing, ⟨-, hwanted⟩, rfl⟩ | ⟨column, ⟨hcolumn, -⟩, rfl⟩)
    · exact List.mem_map.mp (hasColumn_iff.mp hwanted)
    · exact ⟨column, hcolumn, rfl⟩
  · rintro ⟨column, hcolumn, rfl⟩
    cases hexists : stored.hasColumn column.name with
    | true =>
      obtain ⟨existing, hexisting, hsame⟩ := List.mem_map.mp (hasColumn_iff.mp hexists)
      refine .inl ⟨existing, ⟨hexisting, ?_⟩, hsame⟩
      rw [hasColumn_iff, hsame]
      exact List.mem_map.mpr ⟨column, hcolumn, rfl⟩
    | false => exact .inr ⟨column, ⟨hcolumn, hexists⟩, rfl⟩

/-- The indexes of the migrated table are those that were as desired before and those that
were missing. -/
theorem mem_otherIndexes_migrated {index : Index} :
    index ∈ (stored.migrated columns indexes).otherIndexes ↔
      index ∈ (stored.dropped columns indexes).otherIndexes ∨
        index ∈ (stored.migrationTo columns indexes).addIndexes := by
  simp [mem_otherIndexes, migrated]

/-- A migration leaves the indexes of the primary key alone. -/
theorem filter_isPrimaryKey_migrated :
    (stored.migrated columns indexes).indexes.filter (·.isPrimaryKey) =
      stored.indexes.filter (·.isPrimaryKey) := by
  have hadded : ((stored.migrationTo columns indexes).addIndexes.map
      fun index => (⟨index, false⟩ : ExistingIndex)).filter (·.isPrimaryKey) = [] := by
    simp
  rw [migrated, List.filter_append, hadded, List.append_nil, dropped, List.filter_filter]
  congr 1
  funext existing
  cases existing.isPrimaryKey <;> simp

/-! ## Taking the steps -/

/-- No index that stays uses a column that is dropped: it has the columns of a desired
one. -/
theorem uses_eq_false_of_mem_dropColumns
    (hdesired : (created stored.table columns indexes).Consistent) {name : String}
    (hname : name ∈ (stored.migrationTo columns indexes).dropColumns) {index : Index}
    (hindex : index ∈ (stored.dropped columns indexes).otherIndexes) :
    index.uses name = false := by
  by_contra huses
  obtain ⟨column, -, hunwanted, rfl⟩ := mem_dropColumns.mp hname
  obtain ⟨-, desired, hmem, hwanted⟩ := mem_otherIndexes_dropped.mp hindex
  have hdesiredUses := uses_of_sameDefinition (isAsDesired_iff.mp hwanted).2
    (Bool.not_eq_false _ ▸ huses)
  obtain ⟨key, hkey, hsame⟩ := List.any_eq_true.mp hdesiredUses
  have hthere := hdesired.hasColumn_of_key desired (by simpa using hmem) key hkey
  rw [hasColumn_congr (Text.equalsIgnoringAsciiCase_iff.mp hsame), hunwanted] at hthere
  cases hthere

/-- The drops can be taken. -/
theorem run_drops (hstored : stored.Consistent)
    (hdesired : (created stored.table columns indexes).Consistent) :
    stored.run ((stored.migrationTo columns indexes).dropIndexes.map (.dropIndex stored.table) ++
        (stored.migrationTo columns indexes).dropColumns.map (.dropColumn stored.table)) =
      some (stored.dropped columns indexes) := by
  have hindexes : (stored.indexes.filter fun existing => existing.isPrimaryKey ||
      !(stored.migrationTo columns indexes).dropIndexes.any fun name =>
        isNamed stored.table name existing.index) =
      (stored.dropped columns indexes).indexes := by
    apply List.filter_congr
    rintro ⟨index, isPrimaryKey⟩ hmem
    cases isPrimaryKey with
    | true => rfl
    | false => rw [any_dropIndexes hstored hdesired (mem_otherIndexes.mpr hmem), Bool.not_not]
  have hcolumns : (stored.columns.filter fun column =>
      !(stored.migrationTo columns indexes).dropColumns.any fun name =>
        Text.equalsIgnoringAsciiCase column.name name) =
      (stored.dropped columns indexes).columns := by
    apply List.filter_congr
    intro column hmem
    rw [any_dropColumns hmem, Bool.not_not]
  have hwithout := run_dropColumns
    { stored with indexes := (stored.dropped columns indexes).indexes } fun name hname index =>
      uses_eq_false_of_mem_dropColumns hdesired hname
  rw [run_append, run_dropIndexes, Option.bind_some, hindexes, hwithout, hcolumns]
  rfl

/-- The name of a missing index is free behind the drops. -/
theorem hasIndex_dropped (hstored : stored.Consistent)
    (hdesired : (created stored.table columns indexes).Consistent)
    (hkeys : stored.LeavesKeys indexes) {desired : Index}
    (hmissing : desired ∈ (stored.migrationTo columns indexes).addIndexes) :
    (stored.dropped columns indexes).hasIndex (desired.nameFor stored.table.name) = false := by
  obtain ⟨hmem, hnone⟩ := (mem_addIndexes hstored).mp hmissing
  rw [hasIndex, List.any_eq_false]
  rintro ⟨index, isPrimaryKey⟩ hexisting hnamed
  cases isPrimaryKey with
  | true =>
    have hother := hkeys _ (List.mem_filter.mp hexisting).1 rfl desired hmem
    exact Bool.false_ne_true (hother.symm.trans hnamed)
  | false =>
    obtain ⟨hindex, other, hother, hwanted⟩ :=
      mem_otherIndexes_dropped.mp (mem_otherIndexes.mpr hexisting)
    have hsame : other = desired := List.inj_on_of_nodup_map (nodup_desired hdesired) hother hmem
      ((isNamed_iff.mp (isAsDesired_iff.mp hwanted).1).symm.trans (isNamed_iff.mp hnamed))
    rw [← hsame] at hnone
    exact absurd hwanted (by simpa using hnone index hindex)

/-- The additions can be taken behind the drops. -/
theorem run_additions (hstored : stored.Consistent)
    (hdesired : (created stored.table columns indexes).Consistent)
    (hkeys : stored.LeavesKeys indexes) :
    (stored.dropped columns indexes).run
        ((stored.migrationTo columns indexes).addColumns.map (.addColumn stored.table) ++
          (stored.migrationTo columns indexes).addIndexes.map (.addIndex stored.table)) =
      some (stored.migrated columns indexes) := by
  have hnewColumns : ∀ column ∈ (stored.migrationTo columns indexes).addColumns,
      (stored.dropped columns indexes).hasColumn column.name = false := by
    intro column hcolumn
    have hnew := (mem_addColumns.mp hcolumn).2
    rw [← Bool.not_eq_true, hasColumn_iff] at hnew ⊢
    exact fun hmem => hnew ((List.filter_sublist.map _).subset hmem)
  have hcovered : ∀ desired ∈ (stored.migrationTo columns indexes).addIndexes,
      ∀ key ∈ desired.keys, (stored.migrated columns indexes).hasColumn key.name = true := by
    intro desired hmissing key hkey
    have hmem := ((mem_addIndexes hstored).mp hmissing).1
    rw [hasColumn_iff, mem_columnNames_migrated, ← hasColumn_iff]
    exact hdesired.hasColumn_of_key desired (by simpa using hmem) key hkey
  -- When indexes are added, all desired columns are there already.
  have hcolumns : (stored.dropped columns indexes).run
      ((stored.migrationTo columns indexes).addColumns.map (.addColumn stored.table)) =
        some { stored.migrated columns indexes with
          indexes := (stored.dropped columns indexes).indexes } :=
    run_addColumns (stored.dropped columns indexes) hnewColumns
      (hdesired.columns_nodup.sublist (List.filter_sublist.map _))
  have hindexes := run_addIndexes
    { stored.migrated columns indexes with indexes := (stored.dropped columns indexes).indexes }
    (fun desired => hasIndex_dropped hstored hdesired hkeys)
    ((nodup_desired hdesired).sublist (List.filter_sublist.map _)) hcovered
  rw [run_append, hcolumns, Option.bind_some]
  exact hindexes

/-- The steps of a migration can be taken and lead to the migrated table. -/
theorem run_migration (hstored : stored.Consistent)
    (hdesired : (created stored.table columns indexes).Consistent)
    (hkeys : stored.LeavesKeys indexes) :
    stored.run ((stored.migrationTo columns indexes).operations stored.table) =
      some (stored.migrated columns indexes) := by
  rw [operations, List.append_assoc, run_append, run_drops hstored hdesired, Option.bind_some,
    run_additions hstored hdesired hkeys]

/-- The migrated table has exactly what is desired. -/
theorem realizes_migrated (hstored : stored.Consistent)
    (hdesired : (created stored.table columns indexes).Consistent)
    (hmigrated : (stored.migrated columns indexes).Consistent) :
    (stored.migrated columns indexes).Realizes columns indexes where
  columnNames_perm :=
    (List.perm_ext_iff_of_nodup hmigrated.columns_nodup hdesired.columns_nodup).mpr fun _ =>
      mem_columnNames_migrated
  desired_of_index := by
    intro index hindex
    rcases mem_otherIndexes_migrated.mp hindex with hkept | hadded
    · exact (mem_otherIndexes_dropped.mp hkept).2
    · exact ⟨index, ((mem_addIndexes hstored).mp hadded).1, isAsDesired_refl _ index⟩
  index_of_desired := by
    intro desired hmem
    by_cases hexists : ∃ index ∈ stored.otherIndexes,
        isAsDesired stored.table index desired = true
    · obtain ⟨index, hindex, hwanted⟩ := hexists
      have hkept : index ∈ (stored.dropped columns indexes).otherIndexes :=
        mem_otherIndexes_dropped.mpr ⟨hindex, desired, hmem, hwanted⟩
      exact ⟨index, mem_otherIndexes_migrated.mpr (.inl hkept), hwanted⟩
    · have hnone : ∀ index ∈ stored.otherIndexes,
          isAsDesired stored.table index desired = false := by
        simpa using hexists
      have hadded : desired ∈ (stored.migrationTo columns indexes).addIndexes :=
        (mem_addIndexes hstored).mpr ⟨hmem, hnone⟩
      exact ⟨desired, mem_otherIndexes_migrated.mpr (.inr hadded), isAsDesired_refl _ desired⟩

/-! ## Migrating again -/

section Realized

variable (hrealizes : stored.Realizes columns indexes)

include hrealizes

/-- A table that realizes what is desired has the desired columns. -/
theorem hasColumn_of_realizes (name : String) :
    stored.hasColumn name = (created stored.table columns indexes).hasColumn name := by
  rw [Bool.eq_iff_iff, hasColumn_iff, hasColumn_iff]
  exact hrealizes.columnNames_perm.mem_iff

/-- To a table that realizes what is desired no column is added. -/
theorem addColumns_of_realizes : (stored.migrationTo columns indexes).addColumns = [] := by
  rw [List.eq_nil_iff_forall_not_mem]
  intro column hadded
  obtain ⟨hmem, hnew⟩ := mem_addColumns.mp hadded
  rw [hasColumn_of_realizes hrealizes, ← Bool.not_eq_true, hasColumn_iff] at hnew
  exact hnew (List.mem_map.mpr ⟨column, hmem, rfl⟩)

/-- From a table that realizes what is desired no column is dropped. -/
theorem dropColumns_of_realizes : (stored.migrationTo columns indexes).dropColumns = [] := by
  rw [List.eq_nil_iff_forall_not_mem]
  intro name hdropped
  obtain ⟨column, hmem, hunwanted, -⟩ := mem_dropColumns.mp hdropped
  rw [← hasColumn_of_realizes hrealizes, ← Bool.not_eq_true, hasColumn_iff] at hunwanted
  exact hunwanted (List.mem_map.mpr ⟨column, hmem, rfl⟩)

/-- To a table that realizes what is desired no index is added. -/
theorem addIndexes_of_realizes (hstored : stored.Consistent) :
    (stored.migrationTo columns indexes).addIndexes = [] := by
  rw [List.eq_nil_iff_forall_not_mem]
  intro desired hadded
  obtain ⟨hmem, hnone⟩ := (mem_addIndexes hstored).mp hadded
  obtain ⟨index, hindex, hwanted⟩ := hrealizes.index_of_desired desired hmem
  exact Bool.false_ne_true ((hnone index hindex).symm.trans hwanted)

/-- From a table that realizes what is desired no index is dropped. -/
theorem dropIndexes_of_realizes (hstored : stored.Consistent) :
    (stored.migrationTo columns indexes).dropIndexes = [] := by
  rw [List.eq_nil_iff_forall_not_mem]
  intro name hdropped
  rcases (mem_dropIndexes hstored).mp hdropped with
    ⟨desired, hmem, ⟨index, hindex, hnamed, hdiffers⟩, -⟩ | ⟨index, hindex, hunwanted, -⟩
  · obtain ⟨other, hother, hwanted⟩ := hrealizes.index_of_desired desired hmem
    obtain ⟨hotherNamed, hsame⟩ := isAsDesired_iff.mp hwanted
    have heq : other = index := List.inj_on_of_nodup_map (nodup_otherIndexes hstored) hother
      hindex ((isNamed_iff.mp hotherNamed).trans (isNamed_iff.mp hnamed).symm)
    rw [← heq, hsame] at hdiffers
    cases hdiffers
  · obtain ⟨desired, hmem, hwanted⟩ := hrealizes.desired_of_index index hindex
    have hnamed := isNamed_iff.mpr (isNamed_iff.mp (isAsDesired_iff.mp hwanted).1).symm
    exact Bool.false_ne_true ((hunwanted desired hmem).symm.trans hnamed)

/-- To a table that has exactly what is desired a migration does nothing. -/
theorem migrationTo_of_realizes (hstored : stored.Consistent) :
    stored.migrationTo columns indexes =
      { warnings := (stored.migrationTo columns indexes).warnings } := by
  have haddColumns := addColumns_of_realizes hrealizes
  have hdropColumns := dropColumns_of_realizes hrealizes
  have haddIndexes := addIndexes_of_realizes hrealizes hstored
  have hdropIndexes := dropIndexes_of_realizes hrealizes hstored
  generalize stored.migrationTo columns indexes = migration at *
  obtain ⟨_, _, _, _, _⟩ := migration
  subst haddColumns hdropColumns haddIndexes hdropIndexes
  rfl

end Realized

/-- A column that exists is found behind a migration as it was before, and one that is
added is found as it is desired. -/
theorem findColumn?_migrated (hdesired : (created stored.table columns indexes).Consistent)
    {desired : Column} (hmem : desired ∈ columns) :
    findColumn? (stored.migrated columns indexes).columns desired.name =
      (findColumn? stored.columns desired.name).or (some desired) := by
  have hwanted : (created stored.table columns indexes).hasColumn desired.name = true :=
    hasColumn_iff.mpr (List.mem_map.mpr ⟨desired, hmem, rfl⟩)
  -- Every column of this name is wanted, so behind the drops the same one is the first.
  have hkept : findColumn? (stored.dropped columns indexes).columns desired.name =
      findColumn? stored.columns desired.name := by
    rw [findColumn?, dropped, List.find?_filter]
    congr 1
    funext column
    cases hsame : Text.equalsIgnoringAsciiCase column.name desired.name with
    | true =>
      rw [hasColumn_congr (Text.equalsIgnoringAsciiCase_iff.mp hsame), hwanted]
      rfl
    | false => simp
  rw [findColumn?, migrated, List.find?_append, ← findColumn?, hkept]
  cases hbefore : findColumn? stored.columns desired.name with
  | some existing => rfl
  | none =>
    have hnew : stored.hasColumn desired.name = false := by
      rw [← Bool.not_eq_true', ← isNone_findColumn?, hbefore, Option.isNone_none]
    exact find?_eq_some_of_nodup (hdesired.columns_nodup.sublist (List.filter_sublist.map _))
      (mem_addColumns.mpr ⟨hmem, hnew⟩) (Text.equalsIgnoringAsciiCase_refl _)
      fun _ => Text.equalsIgnoringAsciiCase_iff.mp

/-- What is only reported is reported again. -/
theorem warnings_migrated (hdesired : (created stored.table columns indexes).Consistent) :
    ((stored.migrated columns indexes).migrationTo columns indexes).warnings =
      (stored.migrationTo columns indexes).warnings := by
  apply List.flatMap_congr
  intro desired hmem
  have hfound := findColumn?_migrated hdesired hmem
  cases hbefore : findColumn? stored.columns desired.name with
  | some existing => simp [hfound, hbefore]
  | none => simp [hfound, hbefore, columnChanges]

/-- The steps of a migration can all be taken.  They lead to a table that has exactly what
is desired, with the indexes of its primary key as they were, and a further migration only
reports what the first one did. -/
theorem migration_converges (hstored : stored.Consistent)
    (hdesired : (created stored.table columns indexes).Consistent)
    (hkeys : stored.LeavesKeys indexes) :
    ∃ final,
      stored.run ((stored.migrationTo columns indexes).operations stored.table) = some final ∧
      final.Consistent ∧ final.Realizes columns indexes ∧
      final.indexes.filter (·.isPrimaryKey) = stored.indexes.filter (·.isPrimaryKey) ∧
      final.migrationTo columns indexes =
        { warnings := (stored.migrationTo columns indexes).warnings } := by
  have hrun := run_migration hstored hdesired hkeys
  have hmigrated := hstored.run hrun
  have hrealizes := realizes_migrated hstored hdesired hmigrated
  refine ⟨_, hrun, hmigrated, hrealizes, filter_isPrimaryKey_migrated, ?_⟩
  rw [migrationTo_of_realizes hrealizes hmigrated, warnings_migrated hdesired]

end Steps

/-! ## A migration with every kind of step -/

/-- A table with an index that stays, one of another definition and one to drop. -/
def outdated : StoredTable where
  table := ⟨"t", none⟩
  columns := [.stored "Id" (.sql .int), .stored "Name" (.sql .int), .stored "Old" (.sql .int)]
  indexes :=
    [⟨{ name := some "PK_t", keys := [⟨"Id", .ascending⟩], clustered := true }, true⟩,
     ⟨{ name := some "IX_t_Name", keys := [⟨"Name", .ascending⟩] }, false⟩,
     ⟨{ name := some "IX_Code", keys := [⟨"Name", .ascending⟩, ⟨"Old", .ascending⟩] }, false⟩,
     ⟨{ name := some "IX_Old", keys := [⟨"Old", .descending⟩] }, false⟩]

/-- Its desired columns: one is spelled otherwise, one of another type and one new. -/
def updatedColumns : List Column :=
  [.stored "ID" (.sql .int), .stored "Name" (.sql .bigInt), .stored "New" (.sql .int)]

/-- Its desired indexes: the first has a name made of the columns, the second is of another
definition, and the last one is new. -/
def updatedIndexes : List Index :=
  [{ keys := [⟨"NAME", .ascending⟩] }, { name := some "ix_code", keys := [⟨"New", .ascending⟩] },
   { keys := [⟨"New", .descending⟩, ⟨"id", .ascending⟩] }]

/-- A migration with every kind of step. -/
theorem migration_converges_outdated :
    (outdated.migrationTo updatedColumns updatedIndexes).dropIndexes = ["ix_code", "IX_Old"] ∧
      (outdated.migrationTo updatedColumns updatedIndexes).dropColumns = ["Old"] ∧
      ∃ final,
        outdated.run ((outdated.migrationTo updatedColumns updatedIndexes).operations ⟨"t", none⟩) =
          some final ∧
        final.Consistent ∧ final.Realizes updatedColumns updatedIndexes ∧
        final.indexes.filter (·.isPrimaryKey) = outdated.indexes.filter (·.isPrimaryKey) ∧
        final.migrationTo updatedColumns updatedIndexes = { warnings := [.type "Name"] } := by
  have houtdated : outdated.Consistent := ⟨by decide, by decide, by decide⟩
  have hupdated : (created ⟨"t", none⟩ updatedColumns updatedIndexes).Consistent :=
    ⟨by decide, by decide, by decide⟩
  have hkeys : outdated.LeavesKeys updatedIndexes := by
    unfold LeavesKeys
    decide
  exact ⟨by decide, by decide, migration_converges houtdated hupdated hkeys⟩

end SqlScribe.StoredTable
