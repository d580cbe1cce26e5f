import Mathlib.Data.List.Forall2
import SqlScribe.Proofs.Schema.ColumnNames

/-!
# Columns that can be declared

A definition is refused for one of several reasons, which are asked for one after the other.
Here each definition is given by what must hold so that it is not refused, and by its text
then.

Main results:

- `Except.bind_eq_ok_iff` and `Except.mapM_eq_ok_iff`: when steps taken one after the other
  succeed.
- `Column.clause_eq_ok_iff_of_stored` and `Column.clause_eq_ok_iff_of_computed`: which columns
  can be declared.
- `Schema.createTable_eq_ok_iff` and `Schema.addColumn_eq_ok_iff`: which tables can be created,
  and which columns added.
-/

namespace SqlScribe

/-! ## Steps that succeed -/

section Except

variable {ε α β : Type}

/-- Two steps succeed if the first does and then the second. -/
theorem Except.bind_eq_ok_iff {first : Except ε α} {second : α → Except ε β} {result : β} :
    first >>= second = .ok result ↔ ∃ value, first = .ok value ∧ second value = .ok result := by
  cases first <;> simp [bind, Except.bind]

theorem Except.map_eq_ok_iff {step : Except ε α} {f : α → β} {result : β} :
    step.map f = .ok result ↔ ∃ value, step = .ok value ∧ f value = result := by
  cases step <;> simp [Except.map]

theorem Except.mapError_eq_ok_iff {ε' : Type} {step : Except ε α} {f : ε → ε'} {value : α} :
    step.mapError f = .ok value ↔ step = .ok value := by
  cases step <;> simp [Except.mapError]

/-- A step succeeds on all items of a list if it succeeds on each. -/
theorem Except.mapM_eq_ok_iff {step : α → Except ε β} {items : List α} {results : List β} :
    items.mapM step = .ok results ↔
      List.Forall₂ (fun item result => step item = .ok result) items results := by
  induction items generalizing results with
  | nil => cases results <;> simp [pure, Except.pure]
  | cons item rest ih =>
    simp only [List.mapM_cons, Except.bind_eq_ok_iff, ih]
    constructor
    · rintro ⟨first, hfirst, others, hrest, ⟨⟩⟩
      exact .cons hfirst hrest
    · rintro (_ | ⟨hfirst, hrest⟩)
      exact ⟨_, hfirst, _, hrest, rfl⟩

end Except

/-! ## Clauses -/

namespace Column

open Sql (Pieces fixed)

variable {column : Column} {pieces : Pieces}

/-- A stored column can be declared if its facets fit its type, it is no identity that cannot
be one, and its default can be written. -/
theorem clause_eq_ok_iff_of_stored {type : ColumnType} (hkind : column.kind = .stored type) :
    column.clause = .ok pieces ↔
      ∃ physical identity default,
        PhysicalType.resolve type column.facets = .ok physical ∧
        column.identityClause type.stored = .ok identity ∧
        column.defaultClause type.stored = .ok default ∧
        [.name column.name, .fixed " ", .fixed physical.text] ++ identity ++
          fixed (if column.acceptsNull then " NULL" else " NOT NULL") ++ default = pieces := by
  simp only [clause, hkind, storedClause, Except.bind_eq_ok_iff, Except.mapError_eq_ok_iff,
    Except.ok.injEq, exists_and_left]

/-- A computed column can be declared if it is no identity and has no default. -/
theorem clause_eq_ok_iff_of_computed {expression : String} {persisted : Bool}
    (hkind : column.kind = .computed expression persisted) :
    column.clause = .ok pieces ↔
      column.identity = false ∧ column.default = none ∧
        [.name column.name, .fixed " AS (", .raw expression, .fixed ")"] ++
          (if persisted then fixed " PERSISTED NOT NULL" else []) = pieces := by
  simp only [clause, hkind, computedClause]
  cases column.identity <;> cases column.default <;> simp

end Column

/-! ## Tables -/

namespace Schema

open Sql (Pieces fixed)

variable {table : Table} {pieces : Pieces}

/-- A table can be created if its columns agree with each other, each of them can be declared,
and so can the primary key. -/
theorem createTable_eq_ok_iff {columns : List Column} :
    createTable table columns = .ok pieces ↔
      consistentColumns table columns = .ok () ∧
      ∃ clauses key,
        List.Forall₂ (fun column clause => column.clause = .ok clause) columns clauses ∧
        keyClause table columns = .ok key ∧
        fixed "CREATE TABLE " ++ Sql.tablePieces table ++ fixed " (" ++
          Pieces.join ", " (clauses ++ key.toList) ++ fixed ")" = pieces := by
  simp only [createTable, Except.bind_eq_ok_iff, Except.mapM_eq_ok_iff, Except.ok.injEq,
    exists_and_left]
  exact ⟨fun ⟨(), haccepted⟩ => haccepted, fun haccepted => ⟨(), haccepted⟩⟩

/-- A column can be added if it can be declared. -/
theorem addColumn_eq_ok_iff {column : Column} :
    addColumn table column = .ok pieces ↔
      ∃ clause, column.clause = .ok clause ∧
        fixed "ALTER TABLE " ++ Sql.tablePieces table ++ fixed " ADD " ++ clause = pieces := by
  simp only [addColumn, Except.bind_eq_ok_iff, Except.ok.injEq]

end Schema

end SqlScribe
