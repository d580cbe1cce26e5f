import SqlScribe.Proofs.Migration.Comparison
import SqlScribe.Proofs.Schema.ColumnNames

/-!
# What a migration reports

A migration looks up every desired column by its name and reports how the column that exists
differs.  Where no two columns of a table have one name, a report is about exactly one pair of
columns.

Main results:

- `Migration.findColumn?_eq_some` and `Migration.findColumn?_eq_none_iff`: which column is
  found.
- `Migration.type_mem_columnChanges_iff` and `Migration.columnChanges_eq_nil_iff`: which
  differences are reported.
- `Migration.mem_warnings_iff`: a change is reported for a pair of columns of one name.
-/

namespace SqlScribe.Migration

/-! ## Looking up columns -/

section Lookup

variable {columns : List Column} {column : Column} {name : String}

/-- Among distinct columns every one is found by its name, in whatever case. -/
theorem findColumn?_eq_some (hdistinct : Column.Distinct columns) (hmem : column ∈ columns)
    (hname : Text.equalsIgnoringAsciiCase column.name name = true) :
    findColumn? columns name = some column := by
  rw [Text.equalsIgnoringAsciiCase_iff] at hname
  refine find?_eq_some_of_nodup hdistinct hmem (Text.equalsIgnoringAsciiCase_iff.mpr hname) ?_
  intro other hother
  exact (Text.equalsIgnoringAsciiCase_iff.mp hother).trans hname.symm

/-- No column is found exactly if none has the name. -/
theorem findColumn?_eq_none_iff :
    findColumn? columns name = none ↔
      ∀ column ∈ columns, Text.foldAsciiCase column.name ≠ Text.foldAsciiCase name := by
  simp [findColumn?, Text.equalsIgnoringAsciiCase_iff]

/-- The column that is found is one of the columns and has the name. -/
theorem mem_of_findColumn? (hfound : findColumn? columns name = some column) :
    column ∈ columns ∧ Text.equalsIgnoringAsciiCase column.name name = true := by
  unfold findColumn? at hfound
  have hname := List.find?_some hfound
  exact ⟨List.mem_of_find?_eq_some hfound, hname⟩

/-- Distinct columns of one name are the same. -/
theorem eq_of_name (hdistinct : Column.Distinct columns) {other : Column}
    (hmem : column ∈ columns) (hother : other ∈ columns)
    (hname : Text.equalsIgnoringAsciiCase column.name other.name = true) : column = other :=
  List.inj_on_of_nodup_map hdistinct hmem hother (Text.equalsIgnoringAsciiCase_iff.mp hname)

end Lookup

/-! ## Differences of two columns -/

section Changes

variable {existing desired : Column}

/-- A change of the type is reported if the types of the server differ, where a computed
column has none. -/
theorem type_mem_columnChanges_iff {name : String} :
    .type name ∈ columnChanges existing desired ↔
      name = desired.name ∧ storageType? existing ≠ storageType? desired := by
  simp [columnChanges, and_comm]

/-- Nothing is reported if the types of the server, the parts in the primary key and the
identities are the same, and so is what a stored column says of missing values. -/
theorem columnChanges_eq_nil_iff :
    columnChanges existing desired = [] ↔
      storageType? existing = storageType? desired ∧
        (desired.isComputed = false → existing.nullable = desired.nullable) ∧
        existing.key = desired.key ∧ existing.identity = desired.identity := by
  cases hcomputed : desired.isComputed <;> simp [columnChanges, hcomputed]

end Changes

/-! ## Reports -/

section Reports

variable {table : Table} {existing desired : List Column} {existingIndexes : List ExistingIndex}
  {desiredIndexes : List Index}

/-- A change is reported exactly if a column that exists and a desired one of its name differ
so. -/
theorem mem_warnings_iff (hexisting : Column.Distinct existing) {change : ColumnChange} :
    change ∈ (between table existing existingIndexes desired desiredIndexes).warnings ↔
      ∃ before ∈ existing, ∃ after ∈ desired,
        Text.equalsIgnoringAsciiCase before.name after.name = true ∧
          change ∈ columnChanges before after := by
  simp only [between, List.mem_flatMap]
  constructor
  · rintro ⟨after, hafter, hchange⟩
    split at hchange
    · rename_i before hfound
      obtain ⟨hbefore, hname⟩ := mem_of_findColumn? hfound
      exact ⟨before, hbefore, after, hafter, hname, hchange⟩
    · cases hchange
  · rintro ⟨before, hbefore, after, hafter, hname, hchange⟩
    refine ⟨after, hafter, ?_⟩
    rwa [findColumn?_eq_some hexisting hbefore hname]

/-- Nothing is reported exactly if no two columns of one name differ. -/
theorem warnings_eq_nil_iff (hexisting : Column.Distinct existing) :
    (between table existing existingIndexes desired desiredIndexes).warnings = [] ↔
      ∀ before ∈ existing, ∀ after ∈ desired,
        Text.equalsIgnoringAsciiCase before.name after.name = true →
          columnChanges before after = [] := by
  simp only [List.eq_nil_iff_forall_not_mem, mem_warnings_iff hexisting]
  constructor
  · intro hnone before hbefore after hafter hname change hchange
    exact hnone change ⟨before, hbefore, after, hafter, hname, hchange⟩
  · rintro hnone change ⟨before, hbefore, after, hafter, hname, hchange⟩
    exact hnone before hbefore after hafter hname change hchange

/-- Where the names of both sides are distinct, a change of the type is reported exactly for
those pairs whose types of the server differ. -/
theorem type_mem_warnings_iff (hexisting : Column.Distinct existing)
    (hdesired : Column.Distinct desired) {before after : Column} (hbefore : before ∈ existing)
    (hafter : after ∈ desired)
    (hname : Text.equalsIgnoringAsciiCase before.name after.name = true) :
    .type after.name ∈ (between table existing existingIndexes desired desiredIndexes).warnings ↔
      storageType? before ≠ storageType? after := by
  simp only [mem_warnings_iff hexisting, type_mem_columnChanges_iff]
  constructor
  · rintro ⟨before', hbefore', after', hafter', hname', hsame, hdiffers⟩
    have hafterEq : after' = after := eq_of_name hdesired hafter' hafter (by simp [hsame])
    subst hafterEq
    have hbeforeEq : before' = before := eq_of_name hexisting hbefore' hbefore (by
      rw [Text.equalsIgnoringAsciiCase_iff] at hname hname' ⊢
      exact hname'.trans hname.symm)
    rwa [← hbeforeEq]
  · intro hdiffers
    exact ⟨before, hbefore, after, hafter, hname, rfl, hdiffers⟩

end Reports

end SqlScribe.Migration
