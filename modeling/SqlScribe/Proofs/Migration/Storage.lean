import SqlScribe.Proofs.Migration.Warnings
import SqlScribe.Proofs.Schema.Clauses

/-!
# How matched columns are kept

A migration compares the types of two columns of one name, but neither the sizes of the types
nor what computed columns are computed from.  So it reports a change of the type whenever the
types differ, and where it does not, the columns are kept alike exactly if the rest agrees.

Main definitions:

- `Column.KeptAlike` says that two columns have the same physical type or computation.
- `Column.DetailsAgree` says it of the parts that a migration does not compare.

Main results:

- `Column.keptAlike_iff`: columns are kept alike if their types and these parts are the same.
- `Migration.keptAlike_of_unreported_iff`: what follows from a change that is not reported.
-/

namespace SqlScribe

/-! ## Columns that are kept alike -/

namespace PhysicalType

/-- A type is resolved if the facets fit the type that stores it. -/
theorem resolve_eq_ok_iff {type : ColumnType} {facets : Facets} {physical : PhysicalType} :
    resolve type facets = .ok physical ↔
      sizeClause type.stored facets = .ok physical.size ∧ type.stored = physical.type := by
  obtain ⟨stored, size⟩ := physical
  simp only [resolve, Except.map_eq_ok_iff, mk.injEq]
  constructor
  · rintro ⟨_, hsize, htype, rfl⟩
    exact ⟨hsize, htype⟩
  · rintro ⟨hsize, htype⟩
    exact ⟨size, hsize, htype, rfl⟩

end PhysicalType

namespace Column

/-- Whether two columns are kept in the same way: both are stored with the same physical type,
or both are computed from the same expression and either persisted or not. -/
def KeptAlike (before after : Column) : Prop :=
  match before.kind, after.kind with
  | .stored beforeType, .stored afterType =>
    ∃ physical, PhysicalType.resolve beforeType before.facets = .ok physical ∧
      PhysicalType.resolve afterType after.facets = .ok physical
  | .computed beforeExpression beforePersisted, .computed afterExpression afterPersisted =>
    beforeExpression = afterExpression ∧ beforePersisted = afterPersisted
  | _, _ => False

/-- Whether two columns agree on what is not compared: on the size clauses of one type, and on
what they are computed from. -/
def DetailsAgree (before after : Column) : Prop :=
  match before.kind, after.kind with
  | .stored beforeType, .stored afterType =>
    beforeType.stored = afterType.stored →
      PhysicalType.sizeClause beforeType.stored before.facets =
        PhysicalType.sizeClause afterType.stored after.facets
  | .computed beforeExpression beforePersisted, .computed afterExpression afterPersisted =>
    beforeExpression = afterExpression ∧ beforePersisted = afterPersisted
  | _, _ => True

open Sql (Pieces)

/-- Columns that can be declared are kept alike exactly if they have the same type of the
server and agree on the rest. -/
theorem keptAlike_iff {before after : Column} {beforeClause afterClause : Pieces}
    (hbefore : before.clause = .ok beforeClause) (hafter : after.clause = .ok afterClause) :
    before.KeptAlike after ↔
      Migration.storageType? before = Migration.storageType? after ∧
        before.DetailsAgree after := by
  cases hkind : before.kind with
  | stored beforeType =>
    cases hkind' : after.kind with
    | stored afterType =>
      obtain ⟨physical, -, -, hresolve, -⟩ := (clause_eq_ok_iff_of_stored hkind).mp hbefore
      obtain ⟨physical', -, -, hresolve', -⟩ := (clause_eq_ok_iff_of_stored hkind').mp hafter
      simp only [KeptAlike, DetailsAgree, Migration.storageType?, storedType?, hkind, hkind',
        Option.map_some, Option.some.injEq, hresolve, hresolve', Except.ok.injEq]
      obtain ⟨hsize, htype⟩ := PhysicalType.resolve_eq_ok_iff.mp hresolve
      obtain ⟨hsize', htype'⟩ := PhysicalType.resolve_eq_ok_iff.mp hresolve'
      rw [hsize, hsize', htype, htype', Except.ok.injEq]
      constructor
      · rintro ⟨_, rfl, rfl⟩
        exact ⟨rfl, fun _ => rfl⟩
      · rintro ⟨hsame, hsizes⟩
        obtain ⟨type, size⟩ := physical
        obtain ⟨type', size'⟩ := physical'
        cases hsame
        cases hsizes rfl
        exact ⟨_, rfl, rfl⟩
    | computed expression persisted =>
      simp [KeptAlike, Migration.storageType?, storedType?, hkind, hkind']
  | computed expression persisted =>
    cases hkind' : after.kind with
    | stored type => simp [KeptAlike, Migration.storageType?, storedType?, hkind, hkind']
    | computed expression' persisted' =>
      simp [KeptAlike, DetailsAgree, Migration.storageType?, storedType?, hkind, hkind']

/-- Columns of different types have no parts to agree on. -/
theorem detailsAgree_of_storageType_ne {before after : Column}
    (hdiffers : Migration.storageType? before ≠ Migration.storageType? after) :
    before.DetailsAgree after := by
  unfold DetailsAgree
  unfold Migration.storageType? storedType? at hdiffers
  split <;> simp_all

end Column

/-! ## Reported and unreported changes -/

namespace Migration

section Pair

variable {table : Table} {existing desired : List Column} {existingIndexes : List ExistingIndex}
  {desiredIndexes : List Index}

/-- A migration that is empty reports nothing. -/
theorem warnings_of_isEmpty {migration : Migration} (hempty : migration.isEmpty = true) :
    migration.warnings = [] := by
  simp only [isEmpty, Bool.and_eq_true, List.isEmpty_iff] at hempty
  exact hempty.2

/-- Where no change of the type is reported, two columns of one name are kept alike exactly if
they agree on the parts that are not compared.  Columns that are kept alike are never reported,
and in particular all this holds where a migration is empty. -/
theorem keptAlike_of_unreported_iff (hexisting : Column.Distinct existing)
    (hdesired : Column.Distinct desired) {before after : Column} (hbefore : before ∈ existing)
    (hafter : after ∈ desired)
    (hname : Text.equalsIgnoringAsciiCase before.name after.name = true)
    {beforeClause afterClause : Sql.Pieces} (hbeforeClause : before.clause = .ok beforeClause)
    (hafterClause : after.clause = .ok afterClause) :
    ((.type after.name ∉
          (between table existing existingIndexes desired desiredIndexes).warnings →
        before.KeptAlike after) ↔ before.DetailsAgree after) ∧
      (before.KeptAlike after →
        .type after.name ∉
          (between table existing existingIndexes desired desiredIndexes).warnings) ∧
      ((between table existing existingIndexes desired desiredIndexes).isEmpty = true →
        (before.KeptAlike after ↔ before.DetailsAgree after)) := by
  have hreported : .type after.name ∉
      (between table existing existingIndexes desired desiredIndexes).warnings ↔
        storageType? before = storageType? after := by
    rw [type_mem_warnings_iff hexisting hdesired hbefore hafter hname, not_not]
  have halike := Column.keptAlike_iff hbeforeClause hafterClause
  refine ⟨?_, ?_, ?_⟩
  · rw [hreported, halike]
    constructor
    · intro hkept
      by_cases hsame : storageType? before = storageType? after
      · exact (hkept hsame).2
      · exact Column.detailsAgree_of_storageType_ne hsame
    · exact fun hdetails hsame => ⟨hsame, hdetails⟩
  · rw [hreported, halike]
    exact And.left
  · intro hempty
    have hsame : storageType? before = storageType? after := by
      rw [← hreported, warnings_of_isEmpty hempty]
      exact List.not_mem_nil
    rw [halike]
    exact and_iff_right hsame

end Pair

/-! ## Changes of sizes and of computations -/

/-- A column of the greatest length and one that is computed. -/
def keptColumns : List Column :=
  [.stored "Name" (.sql .nVarChar), (Column.computed "Total" "[a] + [b]").persisted]

/-- The same columns: a length that is too great for a number is the greatest one. -/
def respelledColumns : List Column :=
  [{ Column.stored "NAME" (.host .string) with length := some 9000 },
   (Column.computed "Total" "[a] + [b]").persisted]

/-- An empty migration between columns that are kept alike. -/
theorem keptAlike_of_unreported_respelled :
    (between ⟨"t", none⟩ keptColumns [] respelledColumns []).isEmpty = true ∧
      keptColumns[0].KeptAlike respelledColumns[0] := by
  have hexisting : Column.Distinct keptColumns := by decide
  have hdesired : Column.Distinct respelledColumns := by decide
  have hempty : (between ⟨"t", none⟩ keptColumns [] respelledColumns []).isEmpty = true := by
    decide
  have halike : (between ⟨"t", none⟩ keptColumns [] respelledColumns []).isEmpty = true →
      (keptColumns[0].KeptAlike respelledColumns[0] ↔
        keptColumns[0].DetailsAgree respelledColumns[0]) :=
    (keptAlike_of_unreported_iff hexisting hdesired (List.getElem_mem _) (List.getElem_mem _)
      (by decide) rfl rfl).2.2
  exact ⟨hempty, (halike hempty).mpr fun _ => rfl⟩

/-- Columns of another length and of another computation. -/
def changedColumns : List Column :=
  [{ Column.stored "Name" (.sql .nVarChar) with length := some 50 },
   (Column.computed "Total" "[a] - [b]").persisted]

/-- A migration to columns of another length and of another computation is empty, although all
of them can be declared. -/
theorem not_keptAlike_changed :
    (∀ column ∈ keptColumns ++ changedColumns, ∃ clause, column.clause = .ok clause) ∧
      (between ⟨"t", none⟩ keptColumns [] changedColumns []).isEmpty = true ∧
      ¬ keptColumns[0].KeptAlike changedColumns[0] ∧
      ¬ keptColumns[1].KeptAlike changedColumns[1] := by
  refine ⟨?_, by decide, ?_, ?_⟩
  · simp only [keptColumns, changedColumns, List.cons_append, List.nil_append,
      List.forall_mem_cons, List.not_mem_nil, false_implies, implies_true, and_true]
    exact ⟨⟨_, rfl⟩, ⟨_, rfl⟩, ⟨_, rfl⟩, ⟨_, rfl⟩⟩
  · rintro ⟨_, ⟨⟩, hother⟩
    cases hother
  · rintro ⟨hexpression, -⟩
    exact absurd hexpression (by decide)

end Migration

end SqlScribe
