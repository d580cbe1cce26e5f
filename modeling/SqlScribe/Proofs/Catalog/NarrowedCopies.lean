import SqlScribe.Proofs.Catalog.SharedColumns

/-!
# Copies that narrow a column

The flag of a shared column compares numbers: the code in the destination with the greatest text
code in the source tables.  Codes are not numbered by what their types hold.  But the codes of a
shared column agree after normalizing, and among such codes the only smaller one is that of a
single-byte text next to its Unicode counterpart.

Main definitions:

- `TypeCode.singleByteTexts` are the codes that normalizing replaces.

Main results:

- `TypeCode.narrows_iff`: a copy narrows just when some source text has a greater code.
- `Catalog.Snapshot.normalize_eq_of_isShared`: the codes of a shared column agree after
  normalizing.
- `TypeCode.narrows_iff_unicode_source`: among such codes a copy narrows just when a single-byte
  text is filled from its Unicode counterpart.
-/

namespace SqlScribe

/-! ## Codes of texts -/

namespace TypeCode

/-- The codes of the single-byte texts. -/
def singleByteTexts : List Int := [SqlType.varChar.code, SqlType.char.code, SqlType.text.code]

/-- The codes of single-byte texts are replaced by those of their Unicode counterparts. -/
theorem normalize_eq (code : Int) :
    normalize code =
      if code = 167 then 231 else if code = 175 then 239 else if code = 35 then 99 else code := by
  simp only [normalize, normalized, SqlType.code, List.lookup_cons, List.lookup_nil]
  by_cases hvarChar : code = 167
  · simp [hvarChar]
  by_cases hchar : code = 175
  · simp [hchar]
  by_cases htext : code = 35
  · simp [htext]
  · simp [hvarChar, hchar, htext, beq_false_of_ne]

/-- The single-byte texts are varchar, char and text. -/
theorem mem_singleByteTexts {code : Int} :
    code ∈ singleByteTexts ↔ code = 167 ∨ code = 175 ∨ code = 35 := by
  simp [singleByteTexts, SqlType.code]

/-- The texts are the single-byte ones and their Unicode counterparts. -/
theorem mem_textFamily {code : Int} :
    code ∈ textFamily ↔
      code = 175 ∨ code = 167 ∨ code = 35 ∨ code = 239 ∨ code = 231 ∨ code = 99 := by
  simp [textFamily, SqlType.code]

/-- Normalizing replaces the codes of the single-byte texts and no others. -/
theorem normalize_ne_self_iff (code : Int) : normalize code ≠ code ↔ code ∈ singleByteTexts := by
  rw [normalize_eq, mem_singleByteTexts]
  split
  · omega
  split
  · omega
  split <;> omega

/-- Among codes that agree after normalizing the only greater one is the Unicode counterpart of a
single-byte text. -/
theorem isGreaterText_iff {destination source : Int}
    (hsource : normalize source = normalize destination) :
    source ∈ textFamily ∧ destination < source ↔
      destination ∈ singleByteTexts ∧ source = normalize destination := by
  rw [mem_singleByteTexts, mem_textFamily]
  rw [normalize_eq, normalize_eq] at hsource
  rw [normalize_eq]
  split_ifs at hsource ⊢ <;> omega

/-! ## Copies -/

variable {destination : Int} {sources : List Int}

/-- A copy narrows just when some source text has a greater code than the destination. -/
theorem narrows_iff :
    narrows destination sources = true ↔
      ∃ code ∈ sources, code ∈ textFamily ∧ destination < code := by
  have hmem (code : Int) :
      code ∈ sources.filter textFamily.contains ↔ code ∈ sources ∧ code ∈ textFamily := by
    simp [List.mem_filter]
  unfold narrows
  split
  case h_1 widest hwidest =>
    obtain ⟨hmax, hle⟩ := List.max?_eq_some_iff.mp hwidest
    obtain ⟨hsource, hfamily⟩ := (hmem widest).mp hmax
    rw [decide_eq_true_eq]
    constructor
    · exact fun hless => ⟨widest, hsource, hfamily, hless⟩
    · rintro ⟨code, hcode, hcodeFamily, hless⟩
      exact Int.lt_of_lt_of_le hless (hle code ((hmem code).mpr ⟨hcode, hcodeFamily⟩))
  case h_2 hnone =>
    refine iff_of_false Bool.false_ne_true ?_
    rintro ⟨code, hcode, hfamily, -⟩
    have hcounted := (hmem code).mpr ⟨hcode, hfamily⟩
    rw [List.max?_eq_none_iff.mp hnone] at hcounted
    exact List.not_mem_nil hcounted

/-- More sources and a smaller destination never undo that a copy narrows. -/
theorem narrows_mono {destination' : Int} {sources' : List Int}
    (hdestination : destination' ≤ destination)
    (hsources : ∀ code ∈ textFamily, code ∈ sources → code ∈ sources')
    (hnarrows : narrows destination sources = true) : narrows destination' sources' = true := by
  obtain ⟨code, hcode, hfamily, hless⟩ := narrows_iff.mp hnarrows
  exact narrows_iff.mpr
    ⟨code, hsources code hfamily hcode, hfamily, Int.lt_of_le_of_lt hdestination hless⟩

end TypeCode

/-! ## Shared columns -/

/-- Where tables share a column, its codes in them agree after normalizing. -/
theorem Catalog.Snapshot.normalize_eq_of_isShared {snapshot : Snapshot} {tables : List Table}
    {row : ColumnRow} (hshared : snapshot.IsShared tables row.shape) {code : Int}
    (hcode : code ∈ snapshot.codesNamed tables row.name) :
    TypeCode.normalize code = TypeCode.normalize row.systemCode := by
  obtain ⟨other, hother, rfl⟩ := List.mem_map.mp hcode
  obtain ⟨hcolumn, hname⟩ := List.mem_filter.mp hother
  obtain ⟨table, htable, hcolumn⟩ := List.mem_flatMap.mp hcolumn
  obtain ⟨column, hmem, hshape⟩ := List.mem_map.mp (hshared table htable)
  -- The table has one column of the name, which is the one of the shared shape.
  have hnames : other.name = column.name :=
    (of_decide_eq_true hname).trans (congrArg Shape.name hshape).symm
  have hsame : other ∈ (snapshot.columnsOf table).filter (·.name = column.name) :=
    List.mem_filter.mpr ⟨hcolumn, decide_eq_true hnames⟩
  rw [filter_name hmem, List.mem_singleton] at hsame
  rw [hsame]
  exact congrArg Shape.systemCode hshape

namespace TypeCode

/-- Among codes that agree after normalizing, as those of a shared column do, a copy narrows just
when the destination is a single-byte text, which normalizing replaces, and a source has its Unicode
counterpart.  Whatever the sources are, it only matters which text codes they have, in any order and
number; further sources never undo that a copy narrows, and neither does a smaller code in the
destination. -/
theorem narrows_iff_unicode_source (destination : Int) (sources : List Int) :
    ((∀ code ∈ sources, normalize code = normalize destination) →
      (narrows destination sources = true ↔
        destination ∈ singleByteTexts ∧ normalize destination ∈ sources)) ∧
    (destination ∈ singleByteTexts ↔ normalize destination ≠ destination) ∧
    (∀ (snapshot : Catalog.Snapshot) (tables : List Table) (row : Catalog.ColumnRow),
      snapshot.IsShared tables row.shape →
        ∀ code ∈ snapshot.codesNamed tables row.name,
          normalize code = normalize row.systemCode) ∧
    (∀ others, (∀ code ∈ textFamily, code ∈ others ↔ code ∈ sources) →
      narrows destination others = narrows destination sources) ∧
    (∀ others, sources ⊆ others →
      narrows destination sources = true → narrows destination others = true) ∧
    ∀ greater, destination ≤ greater →
      narrows greater sources = true → narrows destination sources = true := by
  refine ⟨?_, (normalize_ne_self_iff destination).symm,
    fun _ _ _ hshared _ => Catalog.Snapshot.normalize_eq_of_isShared hshared, ?_, ?_, ?_⟩
  · intro hsources
    rw [narrows_iff]
    constructor
    · rintro ⟨code, hcode, hgreater⟩
      obtain ⟨hdestination, rfl⟩ := (isGreaterText_iff (hsources code hcode)).mp hgreater
      exact ⟨hdestination, hcode⟩
    · rintro ⟨hdestination, hcounterpart⟩
      have hgreater := (isGreaterText_iff (hsources _ hcounterpart)).mpr ⟨hdestination, rfl⟩
      exact ⟨_, hcounterpart, hgreater⟩
  · intro others hothers
    rw [Bool.eq_iff_iff]
    exact ⟨narrows_mono (Int.le_refl _) fun code hfamily => (hothers code hfamily).mp,
      narrows_mono (Int.le_refl _) fun code hfamily => (hothers code hfamily).mpr⟩
  · intro others hothers
    exact narrows_mono (Int.le_refl _) fun _ _ hcode => hothers hcode
  · intro greater hgreater
    exact narrows_mono hgreater fun _ _ hcode => hcode

/-- A name that two tables share with a destination, in single bytes and in Unicode: its copy
narrows, also behind a further column in between, and also into the older type of texts. -/
theorem narrows_iff_unicode_source_names :
    (∀ code ∈ [SqlType.varChar.code, SqlType.nVarChar.code],
      normalize code = normalize SqlType.varChar.code) ∧
    narrows SqlType.varChar.code [SqlType.varChar.code, SqlType.nVarChar.code] = true ∧
    SchemaOperation.narrowedNames.snapshot.IsShared [⟨"a", none⟩, ⟨"b", none⟩]
      (⟨3, "Name", SqlType.varChar.code, SqlType.varChar.code⟩ : Catalog.ColumnRow).shape ∧
    normalize SqlType.nVarChar.code = normalize SqlType.varChar.code ∧
    narrows SqlType.varChar.code
      [SqlType.nVarChar.code, SqlType.int.code, SqlType.varChar.code, SqlType.varChar.code] = true ∧
    narrows SqlType.text.code
      [SqlType.int.code, SqlType.varChar.code, SqlType.nVarChar.code] = true := by
  obtain ⟨hiff, -, hshape, hsame, hmore, -⟩ := narrows_iff_unicode_source SqlType.varChar.code
    [SqlType.varChar.code, SqlType.nVarChar.code]
  have hcodes : ∀ code ∈ [SqlType.varChar.code, SqlType.nVarChar.code],
      normalize code = normalize SqlType.varChar.code := by decide
  have hnarrows := (hiff hcodes).mpr (by decide)
  have hshared : SchemaOperation.narrowedNames.snapshot.IsShared [⟨"a", none⟩, ⟨"b", none⟩]
      (⟨3, "Name", SqlType.varChar.code, SqlType.varChar.code⟩ : Catalog.ColumnRow).shape := by
    decide
  have hothers := hsame
    [SqlType.nVarChar.code, SqlType.int.code, SqlType.varChar.code, SqlType.varChar.code]
    (by decide)
  have hfurther := hmore [SqlType.int.code, SqlType.varChar.code, SqlType.nVarChar.code] (by simp)
    hnarrows
  obtain ⟨-, -, -, -, -, hgreater⟩ := narrows_iff_unicode_source SqlType.text.code
    [SqlType.int.code, SqlType.varChar.code, SqlType.nVarChar.code]
  exact ⟨hcodes, hnarrows, hshared, hshape _ _ _ hshared _ (by decide), hothers.trans hnarrows,
    hgreater SqlType.varChar.code (by decide) hfurther⟩

end TypeCode

end SqlScribe
