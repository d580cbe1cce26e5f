import SqlScribe.Proofs.Catalog.Joins
import SqlScribe.Proofs.Migration.Storage

/-!
# Lengths in the listing of columns

The catalog keeps the length of a column in bytes, with -1 for the greatest one.  The listing of
columns returns half of it for texts with two bytes to a character, and what it returns is the
length of the column that is read back.  So every length is read back but the greatest one of
Unicode texts: half of -1 is zero, which is no length.

Main definitions:

- `PhysicalType.reportedLength` is the length that the catalog keeps.
- `PhysicalType.listedLength` is the length that the listing returns of it.

Main results:

- `PhysicalType.value_maxLength`: the listing returns that length.
- `PhysicalType.resolve_listed_iff`: which sizes are read back.
-/

namespace SqlScribe

open Catalog (Constant Environment Field)
open Schema (columnField columnListing)

/-! ## Reported and listed lengths -/

/-- The number of bytes to a unit of length. -/
def SqlType.unitBytes : SqlType → Nat
  | .nChar | .nVarChar => 2
  | _ => 1

/-- A unit of length takes one byte or two. -/
theorem SqlType.unitBytes_cases (type : SqlType) : type.unitBytes = 1 ∨ type.unitBytes = 2 := by
  cases type <;> decide

namespace PhysicalType

/-- The length that the catalog keeps of a type with a length: a number of bytes, or -1 for the
greatest length. -/
def reportedLength (type : SqlType) : SizeClause → Int
  | .length value => type.unitBytes * value.toNat
  | .greatest | .precision _ | .precisionAndScale _ _ => -1

/-- The length that the listing returns of it. -/
def listedLength (type : SqlType) : SizeClause → Int16
  | .length value => Int16.ofNat value.toNat
  | .greatest | .precision _ | .precisionAndScale _ _ => if type = .nVarChar then 0 else -1

/-- Without a precision and a scale only a type with a length has a size. -/
theorem sizeClause_length (type : SqlType) (length : Option UInt32) :
    sizeClause type ⟨length, none, none⟩ =
      if type.hasLength then lengthSize type length
      else if length.isSome then .error (.lengthNotTaken type)
      else .ok none := by
  cases length <;> cases type <;> rfl

/-- Only a type with a length resolves to a size without a precision. -/
theorem hasLength_of_sizeClause {type : SqlType} {length : Option UInt32} {size : SizeClause}
    (hsize : sizeClause type ⟨length, none, none⟩ = .ok (some size)) : type.hasLength = true := by
  by_contra hhas
  rw [sizeClause_length, if_neg hhas] at hsize
  split at hsize <;> cases hsize

/-- The size is the greatest one, or a length within the limit of the type. -/
theorem size_cases {type : SqlType} {length : Option UInt32} {size : SizeClause}
    (hsize : lengthSize type length = .ok (some size)) :
    (size = .greatest ∧ type.isVariableWidth = true) ∨
      ∃ n, size = .length n ∧ n ≠ 0 ∧ n ≤ type.greatestLength := by
  cases length with
  | none => cases hwidth : type.isVariableWidth <;> simp_all [lengthSize]
  | some n =>
    by_cases hzero : n = 0
    · simp [lengthSize, hzero] at hsize
    · by_cases hlimit : n ≤ type.greatestLength
      · simp only [lengthSize, hzero, hlimit, if_true, if_false, Except.ok.injEq,
          Option.some.injEq] at hsize
        exact .inr ⟨n, hsize.symm, hzero, hlimit⟩
      · cases hwidth : type.isVariableWidth <;> simp_all [lengthSize]

/-- A length that is spelled as a number fits into a row. -/
theorem toInt_listedLength_length {type : SqlType} {n : UInt32} (hn : n ≤ type.greatestLength) :
    (listedLength type (.length n)).toInt = n.toNat := by
  have hlimit : type.greatestLength.toNat ≤ 8000 := by cases type <;> decide
  have hfits : n.toNat < 32768 := by
    rw [UInt32.le_iff_toNat_le] at hn
    omega
  exact Int16.toInt_ofNat_of_lt hfits

/-- Texts with two bytes to a character are the types with a length whose lengths are halved. -/
theorem doubleWidth_any {type : SqlType} (hlength : type.hasLength = true) :
    (TypeCode.doubleWidth.any fun code => (Constant.number type.code).equals (.number code)) =
      decide (type.unitBytes = 2) := by
  cases type <;> first | rfl | cases hlength

section Listed

variable {environment : Environment} {field : Field → Constant} {type : SqlType}
  {length : Option UInt32} {size : SizeClause}

/-- What is returned of a reported length is the listed one. -/
theorem value_maxLength
    (hsmall : ∀ n : Int16, environment.convert .smallInt (.number n.toInt) = .number n.toInt)
    (hhas : type.hasLength = true) (hsize : lengthSize type length = .ok (some size))
    (hcode : field (columnField "system_type_id") = .number type.code)
    (hlength : field (columnField "max_length") = .number (reportedLength type size)) :
    columnListing.value environment field "max_length" =
      .number (listedLength type size).toInt := by
  have hvalue : columnListing.value environment field "max_length" =
      environment.cast .smallInt
        (if TypeCode.doubleWidth.any fun code =>
            (field (columnField "system_type_id")).equals (.number code) then
          (field (columnField "max_length")).half
        else field (columnField "max_length")) := rfl
  have hlisted : (if type.unitBytes = 2 then (reportedLength type size).tdiv 2
      else reportedLength type size) = (listedLength type size).toInt := by
    rcases size_cases hsize with ⟨rfl, hwidth⟩ | ⟨n, rfl, -, hlimit⟩
    · cases type <;> first | rfl | cases hwidth
    · rw [toInt_listedLength_length hlimit, reportedLength]
      rcases type.unitBytes_cases with hbytes | hbytes <;> simp [hbytes]
  rw [hvalue, hcode, hlength, doubleWidth_any hhas, Constant.half]
  simp only [decide_eq_true_eq, ← apply_ite Constant.number, hlisted]
  exact hsmall _

/-- The size is read back from the listed length, unless it is the greatest one of Unicode
texts. -/
theorem lengthSize_of_listed {row : CatalogColumn}
    (hrow : row.maxLength = listedLength type size)
    (hsize : lengthSize type length = .ok (some size)) :
    lengthSize type row.length = .ok (some size) ↔ ¬ (type = .nVarChar ∧ size = .greatest) := by
  rcases size_cases hsize with ⟨rfl, hwidth⟩ | ⟨n, rfl, hzero, hlimit⟩
  · by_cases htype : type = .nVarChar
    · have hread : row.length = some 0 := by
        simp [CatalogColumn.length, hrow, listedLength, htype]
      simp [htype, hread, lengthSize]
    · have hread : row.length = none := by
        simp [CatalogColumn.length, hrow, listedLength, htype]
      simp [htype, hread, lengthSize, hwidth]
  · have hread : row.length = some n := by
      simp [CatalogColumn.length, hrow, toInt_listedLength_length hlimit]
    simp [hread, lengthSize, hzero, hlimit]

end Listed

/-- The listing returns a length of every column whose type has one.  The column that is read
back with this length has the declared type, and it has the declared size unless that is the
greatest one of a Unicode text. -/
theorem resolve_listed_iff {environment : Environment} {field : Field → Constant}
    {type : ColumnType} {length : Option UInt32} {size : SizeClause}
    (hsmall : ∀ n : Int16, environment.convert .smallInt (.number n.toInt) = .number n.toInt)
    (hresolve : resolve type ⟨length, none, none⟩ = .ok ⟨type.stored, some size⟩)
    (hcode : field (columnField "system_type_id") = .number type.stored.code)
    (hlength : field (columnField "max_length") = .number (reportedLength type.stored size)) :
    ∃ listed : Int16,
      columnListing.value environment field "max_length" = .number listed.toInt ∧
      ∀ row : CatalogColumn, row.typeCode.toInt = type.stored.code → row.maxLength = listed →
        row.computation = none →
        ∃ restored, row.column = .ok restored ∧ restored.kind = .stored (.sql type.stored) ∧
          (resolve (.sql type.stored) restored.facets = .ok ⟨type.stored, some size⟩ ↔
            ¬ (type.stored = .nVarChar ∧ size = .greatest)) := by
  obtain ⟨hsize, -⟩ := resolve_eq_ok_iff.mp hresolve
  have hhas := hasLength_of_sizeClause hsize
  have hdecimal : type.stored ≠ .decimal := by
    intro hdecimal
    simp [hdecimal, SqlType.hasLength] at hhas
  rw [sizeClause_length, if_pos hhas] at hsize
  refine ⟨_, value_maxLength hsmall hhas hsize hcode hlength, ?_⟩
  intro row htype hrow hcomputation
  have hfacets : (row.storedColumn type.stored).facets = ⟨row.length, none, none⟩ := by
    simp [CatalogColumn.storedColumn, Column.facets, hhas, hdecimal]
  refine ⟨row.storedColumn type.stored, ?_, rfl, ?_⟩
  · simp only [CatalogColumn.column, hcomputation, htype, SqlType.ofCode?_code]
  · have hread : sizeClause type.stored ⟨row.length, none, none⟩ = .ok (some size) ↔
        ¬ (type.stored = .nVarChar ∧ size = .greatest) := by
      rw [sizeClause_length, if_pos hhas]
      exact lengthSize_of_listed hrow hsize
    rw [resolve_eq_ok_iff, hfacets]
    exact (and_iff_left rfl).trans hread

/-! ## The greatest lengths of Unicode texts -/

/-- The fields of a column of a Unicode text. -/
def unicodeField (bytes : Int) (field : Field) : Constant :=
  if field = columnField "system_type_id" then .number SqlType.nVarChar.code
  else if field = columnField "max_length" then .number bytes
  else .null

/-- The row of such a column. -/
def unicodeRow (listed : Int16) : CatalogColumn where
  name := "Name"
  typeCode := Int32.ofInt SqlType.nVarChar.code
  maxLength := listed
  isNullable := true
  isIdentity := false
  isAutoGenerated := false
  isPrimaryKey := false
  isPrimaryKeyClustered := false
  precision := 0
  scale := 0

/-- The greatest length that a number can give is read back. -/
theorem resolve_listed_iff_unicodeLimit :
    ∃ listed : Int16,
      columnListing.value .oneTable (unicodeField 8000) "max_length" = .number listed.toInt ∧
      ∃ restored, (unicodeRow listed).column = .ok restored ∧
        resolve (.sql .nVarChar) restored.facets = .ok ⟨.nVarChar, some (.length 4000)⟩ := by
  have hresolve : resolve (.host .string) ⟨some 4000, none, none⟩ =
      .ok ⟨.nVarChar, some (.length 4000)⟩ := by decide
  have hsmall : ∀ n : Int16,
      Environment.oneTable.convert .smallInt (.number n.toInt) = .number n.toInt := fun _ => rfl
  have hcode : unicodeField 8000 (columnField "system_type_id") =
      .number HostType.string.stored.code := rfl
  have hlength : unicodeField 8000 (columnField "max_length") =
      .number (reportedLength HostType.string.stored (.length 4000)) := by decide
  have htype : (Int32.ofInt SqlType.nVarChar.code).toInt = HostType.string.stored.code := by
    decide
  obtain ⟨listed, hlisted, hrows⟩ := resolve_listed_iff hsmall hresolve hcode hlength
  obtain ⟨restored, hrestored, -, hread⟩ := hrows (unicodeRow listed) htype rfl rfl
  exact ⟨listed, hlisted, restored, hrestored, hread.mpr (by decide)⟩

/-- Without a limit a length of zero is listed, which is refused for the column that is read
back. -/
theorem not_resolve_listed_unlimitedUnicode :
    resolve (.sql .nVarChar) ⟨none, none, none⟩ = .ok ⟨.nVarChar, some .greatest⟩ ∧
      columnListing.value .oneTable (unicodeField (reportedLength .nVarChar .greatest))
        "max_length" = .number (0 : Int16).toInt ∧
      ∃ restored, (unicodeRow 0).column = .ok restored ∧
        resolve (.sql .nVarChar) restored.facets = .error (.lengthZero .nVarChar) :=
  ⟨rfl, by decide, _, rfl, rfl⟩

end PhysicalType

end SqlScribe
