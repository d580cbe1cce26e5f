import SqlScribe.Proofs.Migration.ReadBack
import SqlScribe.Proofs.Migration.Storage

/-!
# The clause of a column that is read back

The row of a stored column keeps the size of its type as numbers and of a generated default only
that there is one.  The clause of the column that is read back from it spells the type and the
size of the declared one.  It spells the same default as well, unless a generator is declared
other than the one that fits the type and the part in the primary key.

Main definitions:

- `Column.readBack` is the column that is read back from the row of a stored column.

Main results:

- `Column.sizeClause_readBack`: the size of the type is kept.
- `Column.addColumn_readBack_iff`: which columns are declared by the same text when they are
  read back.
-/

namespace SqlScribe

/-! ## Sizes -/

namespace CatalogColumn

/-- A row keeps every length that fits into it. -/
theorem length_ofStored (column : Column) (type : ColumnType) :
    (ofStored column type).length = column.length.filter (·.toNat < 32768) := by
  cases hlength : column.length with
  | none => simp [length, ofStored, keptLength, hlength]
  | some n =>
    by_cases hfits : n.toNat < 32768
    · have hkept : (Int16.ofNat n.toNat).toInt = n.toNat := Int16.toInt_ofNat_of_lt hfits
      simp [length, ofStored, keptLength, hlength, hfits, hkept, Option.filter_some]
    · simp [length, ofStored, keptLength, hlength, hfits, Option.filter_some]

end CatalogColumn

namespace PhysicalType

/-- A length that does not fit into a row is greater than any that is spelled as a number, so
the size clause does not change without it. -/
theorem lengthSize_filter {type : SqlType} {length : Option UInt32} {size : Option SizeClause}
    (hsize : lengthSize type length = .ok size) :
    lengthSize type (length.filter (·.toNat < 32768)) = .ok size := by
  cases length with
  | none => exact hsize
  | some n =>
    by_cases hfits : n.toNat < 32768
    · simpa [hfits, Option.filter_some] using hsize
    · have hgreat : ¬ n ≤ type.greatestLength := by
        have hlimit : type.greatestLength.toNat ≤ 8000 := by cases type <;> decide
        rw [UInt32.le_iff_toNat_le]
        omega
      have hpositive : n ≠ 0 := by
        rintro rfl
        exact hfits (by decide)
      cases hwidth : type.isVariableWidth with
      | true => simpa [lengthSize, hpositive, hgreat, hwidth, hfits, Option.filter_some] using hsize
      | false => simp [lengthSize, hpositive, hgreat, hwidth] at hsize

end PhysicalType

/-! ## Columns that are read back -/

namespace Column

/-- The column that is read back from the row of a stored column. -/
def readBack (column : Column) (type : ColumnType) : Column :=
  (CatalogColumn.ofStored column type).storedColumn type.stored

section ReadBack

variable {column : Column} {type : ColumnType}

/-- The row of a stored column is read back as a column. -/
theorem column_ofStored (column : Column) (type : ColumnType) :
    (CatalogColumn.ofStored column type).column = .ok (column.readBack type) := by
  simp only [CatalogColumn.column, CatalogColumn.ofStored, CatalogColumn.ofCode?_typeCode,
    readBack]

/-- The part in the primary key is read back. -/
theorem key_readBack : (column.readBack type).key = column.key := CatalogColumn.keyRole_eq rfl rfl

/-- A column of the key is read back as one. -/
theorem isKey_readBack : (column.readBack type).isKey = column.isKey := by
  rw [isKey, key_readBack, isKey]

/-- A key does not accept missing values, however it is declared. -/
theorem acceptsNull_readBack : (column.readBack type).acceptsNull = column.acceptsNull := by
  have hnullable : (column.readBack type).nullable = column.acceptsNull := rfl
  rw [acceptsNull, hnullable, isKey_readBack, acceptsNull, Bool.and_assoc, Bool.and_self]

/-- A default is read back only if a generator supplies it. -/
theorem default_readBack :
    (column.readBack type).default = if column.isAutoGenerated then some .auto else none := rfl

/-- The size of the type is kept, and of a decimal so are both numbers. -/
theorem sizeClause_readBack {size : Option SizeClause}
    (hdecimal : type.stored = .decimal → column.precision.isSome ∧ column.scale.isSome)
    (hsize : PhysicalType.sizeClause type.stored column.facets = .ok size) :
    PhysicalType.sizeClause type.stored (column.readBack type).facets = .ok size := by
  have hfacets : (column.readBack type).facets =
      ⟨if type.stored.hasLength then column.length.filter (·.toNat < 32768) else none,
        if type.stored = .decimal then some (column.precision.getD 0) else none,
        if type.stored = .decimal then some (column.scale.getD 0) else none⟩ := by
    rw [← CatalogColumn.length_ofStored column type]
    rfl
  rw [hfacets]
  unfold PhysicalType.sizeClause at hsize ⊢
  by_cases htype : type.stored = .decimal
  · obtain ⟨hprecision, hscale⟩ := hdecimal htype
    obtain ⟨precision, hprecision⟩ := Option.isSome_iff_exists.mp hprecision
    obtain ⟨scale, hscale⟩ := Option.isSome_iff_exists.mp hscale
    have hlength : SqlType.decimal.hasLength = false := rfl
    cases hdeclared : column.length <;>
      simp_all [facets]
  · cases hlength : type.stored.hasLength with
    | true =>
      have hlengthSize : PhysicalType.lengthSize type.stored column.length = .ok size := by
        cases hprecision : column.precision <;> cases hscale : column.scale <;>
          simp_all [facets]
      simpa [htype, hlength] using PhysicalType.lengthSize_filter hlengthSize
    | false =>
      cases hprecision : column.precision <;> cases hscale : column.scale <;>
        cases hdeclared : column.length <;> simp_all [facets]

/-! ## Defaults -/

/-- The generator that fits the column is the same once it is read back. -/
theorem autoGenerator_readBack :
    (column.readBack type).autoGenerator type.stored = column.autoGenerator type.stored := by
  simp only [autoGenerator, isKey_readBack]
  rfl

/-- Where no generator is declared by name, the text of the default is kept. -/
theorem defaultClause_readBack (hdefault : column.default = none ∨ column.default = some .auto) :
    (column.readBack type).defaultClause type.stored = column.defaultClause type.stored := by
  rcases hdefault with hnone | hauto
  · simp [defaultClause, default_readBack, isAutoGenerated, hnone]
  · simp [defaultClause, default_readBack, isAutoGenerated, hauto, defaultPieces,
      autoGenerator_readBack]

/-- Where one is, the generator that fits the column takes its place. -/
theorem defaultClause_readBack_of_generated {generator : Generator}
    (hdefault : column.default = some (.generated generator)) :
    (column.readBack type).defaultClause type.stored =
      (column.autoGenerator type.stored).map fun fitting =>
        [.fixed " DEFAULT ", .fixed fitting.sql] := by
  simp only [defaultClause, default_readBack, isAutoGenerated, hdefault, if_true, defaultPieces,
    autoGenerator_readBack]
  cases column.autoGenerator type.stored <;> rfl

open Sql (Pieces)

/-- In front of the default the clause is kept. -/
theorem clause_readBack (hkind : column.kind = .stored type) {clause : Pieces}
    (hclause : column.clause = .ok clause)
    (hdefault : column.default = none ∨ column.isAutoGenerated = true)
    (hdecimal : type.stored = .decimal → column.precision.isSome ∧ column.scale.isSome) :
    ∃ front default, column.defaultClause type.stored = .ok default ∧ clause = front ++ default ∧
      ∀ other, (column.readBack type).clause = .ok other ↔
        ∃ default', (column.readBack type).defaultClause type.stored = .ok default' ∧
          front ++ default' = other := by
  obtain ⟨physical, identity, default, hresolve, hidentity, hdefaultClause, rfl⟩ :=
    (clause_eq_ok_iff_of_stored hkind).mp hclause
  obtain ⟨hsize, htype⟩ := PhysicalType.resolve_eq_ok_iff.mp hresolve
  have hresolve' : PhysicalType.resolve (.sql type.stored) (column.readBack type).facets =
      .ok physical :=
    PhysicalType.resolve_eq_ok_iff.mpr ⟨sizeClause_readBack hdecimal hsize, htype⟩
  have hdefault' : (column.readBack type).default.isSome = column.default.isSome := by
    rcases hdefault with hnone | hgenerated
    · simp [default_readBack, isAutoGenerated, hnone]
    · cases hdeclared : column.default with
      | none => simp [isAutoGenerated, hdeclared] at hgenerated
      | some _ => simp [default_readBack, hgenerated]
  have hidentity' : (column.readBack type).identityClause type.stored = .ok identity := by
    rw [identityClause, hdefault']
    exact hidentity
  refine ⟨_, default, hdefaultClause, rfl, ?_⟩
  intro other
  have hkind' : (column.readBack type).kind = .stored (.sql type.stored) := rfl
  have hname : (column.readBack type).name = column.name := rfl
  have hstored : (ColumnType.sql type.stored).stored = type.stored := rfl
  simp only [clause_eq_ok_iff_of_stored hkind', hresolve', hstored, hidentity', hname,
    acceptsNull_readBack, Except.ok.injEq, exists_and_left, exists_eq_left']

end ReadBack

end Column

/-! ## Added columns -/

/-- Different generators have different texts. -/
theorem Generator.sql_injective : Function.Injective Generator.sql := by
  intro a b
  cases a <;> cases b <;> decide

namespace Column

/-- A stored column that can be added, with the given number of digits if it is a decimal, and
with no default or a generated one, can be read back from its row.  What is read back is added by
the same text exactly if no generator is declared but the one that fits the column. -/
theorem addColumn_readBack_iff {column : Column} {type : ColumnType}
    (hkind : column.kind = .stored type) {table : Table} {dialect : Dialect}
    {statement : Statement}
    (hadded : (SchemaOperation.addColumn table column).statement dialect = .ok statement)
    (hdefault : column.default = none ∨ column.isAutoGenerated = true)
    (hdecimal : type.stored = .decimal → column.precision.isSome ∧ column.scale.isSome) :
    ∃ restored, (CatalogColumn.ofStored column type).column = .ok restored ∧
      ((SchemaOperation.addColumn table restored).statement dialect = .ok statement ↔
        ∀ generator, column.default = some (.generated generator) →
          column.autoGenerator type.stored = .ok generator) := by
  refine ⟨column.readBack type, column_ofStored column type, ?_⟩
  obtain ⟨pieces, hpieces, rfl⟩ := Except.map_eq_ok_iff.mp hadded
  obtain ⟨clause, hclause, rfl⟩ := Schema.addColumn_eq_ok_iff.mp hpieces
  obtain ⟨front, default, hdefaultClause, rfl, hrestored⟩ :=
    clause_readBack hkind hclause hdefault hdecimal
  have hreadded : (SchemaOperation.addColumn table (column.readBack type)).statement dialect =
        .ok { text := Sql.Pieces.spell dialect (Sql.fixed "ALTER TABLE " ++
                Sql.tablePieces table ++ Sql.fixed " ADD " ++ (front ++ default))
              result := .none } ↔
      ∃ default', (column.readBack type).defaultClause type.stored = .ok default' ∧
        default'.spell dialect = default.spell dialect := by
    simp [SchemaOperation.statement, SchemaOperation.pieces, SchemaOperation.resultShape,
      Except.map_eq_ok_iff, Schema.addColumn_eq_ok_iff, hrestored]
  refine hreadded.trans ?_
  by_cases hgenerated : ∃ generator, column.default = some (.generated generator)
  · obtain ⟨generator, hgenerated⟩ := hgenerated
    have hdeclared : default = [.fixed " DEFAULT ", .fixed generator.sql] := by
      simpa [defaultClause, hgenerated, defaultPieces, eq_comm, Except.map] using hdefaultClause
    rw [defaultClause_readBack_of_generated hgenerated, hdeclared, hgenerated]
    cases column.autoGenerator type.stored with
    | error reason => simp [Except.map]
    | ok fitting => simp [Except.map, Sql.Piece.spell, Generator.sql_injective.eq_iff]
  · have hnamed : ∀ generator, column.default ≠ some (.generated generator) :=
      fun generator hdeclared => hgenerated ⟨generator, hdeclared⟩
    have hkept : column.default = none ∨ column.default = some .auto := by
      rcases hdefault with hnone | hauto
      · exact .inl hnone
      · unfold isAutoGenerated at hauto
        split at hauto <;> simp_all
    simp [defaultClause_readBack hkept, hdefaultClause, hnamed]

/-! ## Columns with and without the generator that fits -/

/-- An identifier of the key whose generator is declared by name. -/
def generatedKey : Column :=
  { Column.stored "Id" (.host .guid) with
    key := .clusteredPrimary, default := some (.generated .newSequentialId) }

/-- It is read back with the same generator. -/
theorem addColumn_readBack_iff_generatedKey :
    ∃ restored, (CatalogColumn.ofStored generatedKey (.host .guid)).column = .ok restored ∧
      (SchemaOperation.addColumn ⟨"t", none⟩ restored).statement =
        .ok
          { text := "ALTER TABLE [t] ADD [Id] uniqueidentifier NOT NULL DEFAULT NEWSEQUENTIALID()"
            result := .none } := by
  have hadded : (SchemaOperation.addColumn ⟨"t", none⟩ generatedKey).statement =
      .ok
        { text := "ALTER TABLE [t] ADD [Id] uniqueidentifier NOT NULL DEFAULT NEWSEQUENTIALID()"
          result := .none } := rfl
  obtain ⟨restored, hrestored, hsame⟩ :=
    addColumn_readBack_iff rfl hadded (.inr rfl) (by decide)
  refine ⟨restored, hrestored, hsame.mpr ?_⟩
  rintro generator ⟨⟩
  rfl

/-- A time of day that is the current one by default. -/
def currentTime : Column :=
  { Column.stored "At" (.sql .time) with default := some (.generated .now) }

/-- An identifier of the key that is random by default. -/
def randomKey : Column :=
  { Column.stored "Id" (.host .guid) with key := .primary, default := some (.generated .newId) }

/-- What is read back of columns with other generators is refused, or declared with another
default. -/
theorem not_addColumn_readBack_otherGenerators :
    (SchemaOperation.addColumn ⟨"t", none⟩ currentTime).statement =
        .ok
          { text := "ALTER TABLE [t] ADD [At] time NOT NULL DEFAULT GETDATE()"
            result := .none } ∧
      (∃ restored, (CatalogColumn.ofStored currentTime (.sql .time)).column = .ok restored ∧
        (SchemaOperation.addColumn ⟨"t", none⟩ restored).statement =
          .error (.noGenerator "At" .time)) ∧
      (SchemaOperation.addColumn ⟨"t", none⟩ randomKey).statement =
        .ok
          { text := "ALTER TABLE [t] ADD [Id] uniqueidentifier NOT NULL DEFAULT NEWID()"
            result := .none } ∧
      ∃ restored, (CatalogColumn.ofStored randomKey (.host .guid)).column = .ok restored ∧
        (SchemaOperation.addColumn ⟨"t", none⟩ restored).statement =
          .ok
            { text :=
                "ALTER TABLE [t] ADD [Id] uniqueidentifier NOT NULL DEFAULT NEWSEQUENTIALID()"
              result := .none } :=
  ⟨rfl, ⟨_, rfl, rfl⟩, rfl, _, rfl, rfl⟩

end Column

end SqlScribe
