import SqlScribe.Proofs.Catalog.ListedLengths
import SqlScribe.Proofs.Documents.WrittenForms

/-!
# Size clauses

A declaration is accepted exactly if its length, precision and scale are within the limits of
its type.  Its size clause is then one that the server accepts, and the facets that are read
back from the clause resolve to the same physical type.

Main definitions:

- `Facets.Fits` says that facets are within the limits of a type.
- `SizeClause.Allowed` are the texts that the server accepts as size clause of a type.
- `Facets.ofClause?` reads facets back from such a text.
- `PhysicalType.Sized` relates accepted facets to the size that they resolve to.

Main results:

- `PhysicalType.sizeClause_eq_ok_iff`: the size clause computes this relation.
- `PhysicalType.resolve_iff_fits`: what is accepted, and that it is allowed and stable.
-/

namespace SqlScribe

/-! ## Limits -/

/-- The greatest length of a type that is declared with one. -/
def SqlType.lengthLimit? : SqlType → Option Nat
  | .nChar | .nVarChar => some 4000
  | .binary | .char | .varBinary | .varChar => some 8000
  | _ => none

theorem SqlType.lengthLimit?_eq_some_iff {type : SqlType} {limit : Nat} :
    type.lengthLimit? = some limit ↔
      type.hasLength = true ∧ limit = type.greatestLength.toNat := by
  cases type <;> simp [lengthLimit?, hasLength, greatestLength, eq_comm]

/-- A type of variable width is declared with a length. -/
theorem SqlType.hasLength_of_isVariableWidth {type : SqlType}
    (hwidth : type.isVariableWidth = true) : type.hasLength = true := by
  cases type <;> first | rfl | cases hwidth

/-- Whether facets are within the limits of a type. -/
structure Facets.Fits (facets : Facets) (type : SqlType) : Prop where
  precision : ∀ p, facets.precision = some p → type = .decimal ∧ 1 ≤ p.toNat ∧ p.toNat ≤ 38
  scale : ∀ s, facets.scale = some s → ∃ p, facets.precision = some p ∧ s.toNat ≤ p.toNat
  length : ∀ n, facets.length = some n → ∃ limit, type.lengthLimit? = some limit ∧
    0 < n.toNat ∧ (type.isVariableWidth = false → n.toNat ≤ limit)

namespace SizeClause

theorem text_precisionAndScale (p s : UInt8) :
    (precisionAndScale p s).text = toString p.toNat ++ ", " ++ toString s.toNat :=
  rfl

/-- The texts that the server accepts as size clause of a type. -/
inductive Allowed (type : SqlType) : Option String → Prop
  | absent : type.isVariableWidth = false → Allowed type none
  | greatest : type.isVariableWidth = true → Allowed type (some "MAX")
  | length {n limit : Nat} : type.lengthLimit? = some limit → 1 ≤ n → n ≤ limit →
      Allowed type (some (toString n))
  | precision {p : Nat} : type = .decimal → 1 ≤ p → p ≤ 38 → Allowed type (some (toString p))
  | precisionAndScale {p s : Nat} : type = .decimal → 1 ≤ p → p ≤ 38 → s ≤ p →
      Allowed type (some (toString p ++ ", " ++ toString s))

end SizeClause

/-! ## Reading size clauses -/

/-- The number of eight bits, if it has no more. -/
def byte? (n : Nat) : Option UInt8 := if n < UInt8.size then some (UInt8.ofNat n) else none

/-- The number of thirty-two bits, if it has no more. -/
def word? (n : Nat) : Option UInt32 := if n < UInt32.size then some (UInt32.ofNat n) else none

@[simp] theorem byte?_toNat (p : UInt8) : byte? p.toNat = some p := by
  simp [byte?, p.toNat_lt]

@[simp] theorem word?_toNat (n : UInt32) : word? n.toNat = some n := by
  simp [word?, n.toNat_lt]

namespace Facets

/-- The facets that a text inside the brackets of a type spells: no length where it is
unlimited, else one number or two. -/
def ofText? (type : SqlType) (text : String) : Option Facets :=
  if text = "MAX" then some {}
  else
    match DateTime.longNumber? text.toList with
    | some (number, []) =>
      if type = .decimal then (byte? number).map fun p => { precision := some p }
      else (word? number).map fun n => { length := some n }
    | some (number, ',' :: ' ' :: rest) =>
      match DateTime.longNumber? rest with
      | some (scale, []) => do
        let p ← byte? number
        let s ← byte? scale
        some { precision := some p, scale := some s }
      | _ => none
    | _ => none

/-- The facets that the size clause of a type spells. -/
def ofClause? (type : SqlType) : Option String → Option Facets
  | none => some {}
  | some text => ofText? type text

/-- The digits of a number are read up to what is no digit. -/
theorem longNumber?_toString (n : Nat) {rest : List Char}
    (hrest : ∀ c ∈ rest.head?, c.isDigit = false) :
    DateTime.longNumber? ((toString n).toList ++ rest) = some (n, rest) := by
  have hzero : (toString n).toList = zeroPadded 0 n := by
    simp [zeroPadded]
  rw [hzero]
  exact DateTime.longNumber?_zeroPadded 0 n hrest

/-- One number spells a length or a precision. -/
theorem ofText?_number (type : SqlType) (n : Nat) :
    ofText? type (toString n) =
      if type = .decimal then (byte? n).map fun p => { precision := some p }
      else (word? n).map fun length => { length := some length } := by
  have hread : DateTime.longNumber? (toString n).toList = some (n, []) := by
    simpa using @longNumber?_toString n [] (by simp)
  have hname : toString n ≠ "MAX" := by
    intro hname
    rw [hname] at hread
    cases hread
  rw [ofText?, if_neg hname, hread]

/-- Two numbers spell a precision and a scale. -/
theorem ofText?_numbers (type : SqlType) (p s : UInt8) :
    ofText? type (toString p.toNat ++ ", " ++ toString s.toNat) =
      some { precision := some p, scale := some s } := by
  have hscale : DateTime.longNumber? (toString s.toNat).toList = some (s.toNat, []) := by
    simpa using @longNumber?_toString s.toNat [] (by simp)
  have hread : DateTime.longNumber? (toString p.toNat ++ ", " ++ toString s.toNat).toList =
      some (p.toNat, ',' :: ' ' :: (toString s.toNat).toList) := by
    have hcomma := @longNumber?_toString p.toNat (',' :: ' ' :: (toString s.toNat).toList)
      (by simp)
    simpa using hcomma
  have hname : toString p.toNat ++ ", " ++ toString s.toNat ≠ "MAX" := by
    intro hname
    rw [hname] at hread
    cases hread
  rw [ofText?, if_neg hname, hread]
  simp only [hscale, byte?_toNat]
  rfl

end Facets

/-! ## Accepted facets -/

namespace PhysicalType

/-- Facets that are accepted for a type, and the size that they resolve to. -/
inductive Sized (type : SqlType) : Facets → Option SizeClause → Prop
  | bare : type.isVariableWidth = false → Sized type ⟨none, none, none⟩ none
  /-- Without a length a variable width is unlimited. -/
  | unlimited : type.isVariableWidth = true → Sized type ⟨none, none, none⟩ (some .greatest)
  | length {n : UInt32} {limit : Nat} : type.lengthLimit? = some limit → 0 < n.toNat →
      n.toNat ≤ limit → Sized type ⟨some n, none, none⟩ (some (.length n))
  /-- A variable width with a greater length is unlimited. -/
  | overLimit {n : UInt32} {limit : Nat} : type.lengthLimit? = some limit → limit < n.toNat →
      type.isVariableWidth = true → Sized type ⟨some n, none, none⟩ (some .greatest)
  | precision {p : UInt8} : type = .decimal → 1 ≤ p.toNat → p.toNat ≤ 38 →
      Sized type ⟨none, some p, none⟩ (some (.precision p))
  | precisionAndScale {p s : UInt8} : type = .decimal → 1 ≤ p.toNat → p.toNat ≤ 38 →
      s.toNat ≤ p.toNat → Sized type ⟨none, some p, some s⟩ (some (.precisionAndScale p s))

section Sized

variable {type : SqlType} {facets : Facets} {size : Option SizeClause}

/-- The size of a precision, in numbers. -/
theorem decimalSize_some (p : UInt8) (scale : Option UInt8) :
    decimalSize (some p) scale =
      if 1 ≤ p.toNat ∧ p.toNat ≤ 38 then
        match scale with
        | none => .ok (some (.precision p))
        | some s =>
          if s.toNat ≤ p.toNat then .ok (some (.precisionAndScale p s))
          else .error (.scaleTooGreat s p)
      else .error (.precisionOutOfRange p) := by
  have hrange : (p = 0 || 38 < p) = true ↔ ¬ (1 ≤ p.toNat ∧ p.toNat ≤ 38) := by
    simp only [Bool.or_eq_true, decide_eq_true_eq, ← UInt8.toNat_inj, UInt8.lt_iff_toNat_lt,
      UInt8.reduceToNat]
    omega
  cases scale with
  | none => simp only [decimalSize, hrange, ite_not]
  | some s =>
    have hscale : p < s ↔ ¬ s.toNat ≤ p.toNat := by rw [UInt8.lt_iff_toNat_lt, Nat.not_le]
    simp only [decimalSize, hrange, hscale, ite_not]

/-- The size of a length, in numbers. -/
theorem lengthSize_some (type : SqlType) (n : UInt32) :
    lengthSize type (some n) =
      if 0 < n.toNat then
        if n.toNat ≤ type.greatestLength.toNat then .ok (some (.length n))
        else if type.isVariableWidth then .ok (some .greatest)
        else .error (.lengthTooGreat type n)
      else .error (.lengthZero type) := by
  have hzero : n = 0 ↔ ¬ 0 < n.toNat := by
    simp [← UInt32.toNat_inj]
  simp only [lengthSize, hzero, ite_not, UInt32.le_iff_toNat_le]

/-- A precision is accepted if it is between 1 and 38, and a scale if it is not above one. -/
theorem sized_of_decimalSize {precision scale : Option UInt8}
    (hsize : decimalSize precision scale = .ok size) :
    Sized .decimal ⟨none, precision, scale⟩ size := by
  cases precision with
  | none =>
    cases scale with
    | none =>
      cases hsize
      exact .bare rfl
    | some s => cases hsize
  | some p =>
    rw [decimalSize_some] at hsize
    by_cases hrange : 1 ≤ p.toNat ∧ p.toNat ≤ 38
    · rw [if_pos hrange] at hsize
      cases scale with
      | none =>
        cases hsize
        exact .precision rfl hrange.1 hrange.2
      | some s =>
        by_cases hscale : s.toNat ≤ p.toNat
        · cases hsize.symm.trans (if_pos hscale)
          exact .precisionAndScale rfl hrange.1 hrange.2 hscale
        · cases hsize.symm.trans (if_neg hscale)
    · rw [if_neg hrange] at hsize
      cases hsize

/-- A length is accepted if it is positive and within the limit, and beyond it for a variable
width. -/
theorem sized_of_lengthSize {length : Option UInt32} (hhas : type.hasLength = true)
    (hsize : lengthSize type length = .ok size) : Sized type ⟨length, none, none⟩ size := by
  have hlimit := SqlType.lengthLimit?_eq_some_iff.mpr ⟨hhas, rfl⟩
  cases length with
  | none =>
    cases hsize
    split
    · exact .unlimited ‹_›
    · exact .bare (Bool.eq_false_of_not_eq_true ‹_›)
  | some n =>
    rw [lengthSize_some] at hsize
    by_cases hpos : 0 < n.toNat
    · rw [if_pos hpos] at hsize
      by_cases hle : n.toNat ≤ type.greatestLength.toNat
      · rw [if_pos hle] at hsize
        cases hsize
        exact .length hlimit hpos hle
      · rw [if_neg hle] at hsize
        by_cases hwidth : type.isVariableWidth = true
        · rw [if_pos hwidth] at hsize
          cases hsize
          exact .overLimit hlimit (Nat.lt_of_not_le hle) hwidth
        · rw [if_neg hwidth] at hsize
          cases hsize
    · rw [if_neg hpos] at hsize
      cases hsize

/-- Accepted facets and their sizes are those that the size clause computes. -/
theorem sizeClause_eq_ok_iff : sizeClause type facets = .ok size ↔ Sized type facets size := by
  obtain ⟨length, precision, scale⟩ := facets
  constructor
  · intro hsize
    -- Only decimals take a precision, so the size of any other type depends on the length alone.
    by_cases hdecimal : type = .decimal
    · subst hdecimal
      cases length with
      | none => exact sized_of_decimalSize hsize
      | some n => cases hsize
    · have hnone : precision = none ∧ scale = none := by
        cases precision <;> cases scale <;> simp_all [sizeClause]
      obtain ⟨rfl, rfl⟩ := hnone
      rw [sizeClause_length] at hsize
      split at hsize
      · exact sized_of_lengthSize ‹_› hsize
      · rename_i hhas
        cases length with
        | none =>
          cases hsize
          exact .bare (Bool.eq_false_of_not_eq_true (mt SqlType.hasLength_of_isVariableWidth hhas))
        | some n => cases hsize
  · intro hsized
    cases hsized with
    | bare hwidth => cases type <;> first | rfl | cases hwidth
    | unlimited hwidth => cases type <;> first | rfl | cases hwidth
    | length hlimit hpos hle =>
      obtain ⟨hhas, rfl⟩ := SqlType.lengthLimit?_eq_some_iff.mp hlimit
      rw [sizeClause_length, if_pos hhas, lengthSize_some, if_pos hpos, if_pos hle]
    | overLimit hlimit hover hwidth =>
      obtain ⟨hhas, rfl⟩ := SqlType.lengthLimit?_eq_some_iff.mp hlimit
      rw [sizeClause_length, if_pos hhas, lengthSize_some, if_pos (Nat.zero_lt_of_lt hover),
        if_neg (Nat.not_le_of_lt hover), if_pos hwidth]
    | precision htype hlow hhigh =>
      subst htype
      exact (decimalSize_some _ none).trans (if_pos ⟨hlow, hhigh⟩)
    | precisionAndScale htype hlow hhigh hscale =>
      subst htype
      exact (decimalSize_some _ (some _)).trans ((if_pos ⟨hlow, hhigh⟩).trans (if_pos hscale))

/-! ## Acceptance, allowed clauses, stability -/

/-- Facets have a size exactly if they are within the limits. -/
theorem exists_sized_iff : (∃ size, Sized type facets size) ↔ facets.Fits type := by
  constructor
  · rintro ⟨size, hsized⟩
    cases hsized with
    | bare _ => exact ⟨nofun, nofun, nofun⟩
    | unlimited _ => exact ⟨nofun, nofun, nofun⟩
    | length hlimit hpos hle =>
      refine ⟨nofun, nofun, ?_⟩
      rintro n ⟨⟩
      exact ⟨_, hlimit, hpos, fun _ => hle⟩
    | overLimit hlimit hover hwidth =>
      refine ⟨nofun, nofun, ?_⟩
      rintro n ⟨⟩
      exact ⟨_, hlimit, Nat.zero_lt_of_lt hover, fun hfixed => by simp [hwidth] at hfixed⟩
    | precision htype hlow hhigh =>
      refine ⟨?_, nofun, nofun⟩
      rintro p ⟨⟩
      exact ⟨htype, hlow, hhigh⟩
    | precisionAndScale htype hlow hhigh hscale =>
      refine ⟨?_, ?_, nofun⟩
      · rintro p ⟨⟩
        exact ⟨htype, hlow, hhigh⟩
      · rintro s ⟨⟩
        exact ⟨_, rfl, hscale⟩
  · -- A length excludes a precision, for it is not given for decimals, and a scale needs one.
    rintro ⟨hprecision, hscale, hlength⟩
    obtain ⟨length, precision, scale⟩ := facets
    cases length with
    | some n =>
      obtain ⟨limit, hlimit, hpos, hfixed⟩ := hlength n rfl
      have hnone : precision = none := by
        cases precision with
        | none => rfl
        | some p =>
          obtain ⟨rfl, -⟩ := hprecision p rfl
          cases hlimit
      subst hnone
      cases scale with
      | some s => obtain ⟨p, ⟨⟩, -⟩ := hscale s rfl
      | none =>
        by_cases hle : n.toNat ≤ limit
        · exact ⟨_, .length hlimit hpos hle⟩
        · exact ⟨_, .overLimit hlimit (Nat.lt_of_not_le hle)
            (Bool.eq_true_of_not_eq_false (mt hfixed hle))⟩
    | none =>
      cases precision with
      | none =>
        cases scale with
        | some s => obtain ⟨p, ⟨⟩, -⟩ := hscale s rfl
        | none =>
          by_cases hwidth : type.isVariableWidth = true
          · exact ⟨_, .unlimited hwidth⟩
          · exact ⟨_, .bare (Bool.eq_false_of_not_eq_true hwidth)⟩
      | some p =>
        obtain ⟨htype, hlow, hhigh⟩ := hprecision p rfl
        cases scale with
        | none => exact ⟨_, .precision htype hlow hhigh⟩
        | some s =>
          obtain ⟨_, ⟨⟩, hle⟩ := hscale s rfl
          exact ⟨_, .precisionAndScale htype hlow hhigh hle⟩

/-- The clause of an accepted size is allowed. -/
theorem Sized.allowed (hsized : Sized type facets size) :
    SizeClause.Allowed type (size.map SizeClause.text) := by
  cases hsized with
  | bare hwidth => exact .absent hwidth
  | unlimited hwidth => exact .greatest hwidth
  | length hlimit hpos hle => exact .length hlimit hpos hle
  | overLimit _ _ hwidth => exact .greatest hwidth
  | precision htype hlow hhigh => exact .precision htype hlow hhigh
  | precisionAndScale htype hlow hhigh hscale =>
    rw [Option.map_some, SizeClause.text_precisionAndScale]
    exact .precisionAndScale htype hlow hhigh hscale

/-- The facets that are read back from the clause have the same size. -/
theorem Sized.reread (hsized : Sized type facets size) :
    ∃ again, Facets.ofClause? type (size.map SizeClause.text) = some again ∧
      Sized type again size := by
  cases hsized with
  | bare hwidth => exact ⟨_, rfl, .bare hwidth⟩
  | unlimited hwidth => exact ⟨_, rfl, .unlimited hwidth⟩
  | length hlimit hpos hle =>
    have hdecimal : type ≠ .decimal := by
      rintro rfl
      cases hlimit
    refine ⟨_, ?_, .length hlimit hpos hle⟩
    rw [Option.map_some, SizeClause.text, Facets.ofClause?, Facets.ofText?_number,
      if_neg hdecimal, word?_toNat, Option.map_some]
  | overLimit _ _ hwidth => exact ⟨_, rfl, .unlimited hwidth⟩
  | precision htype hlow hhigh =>
    refine ⟨_, ?_, .precision htype hlow hhigh⟩
    rw [Option.map_some, SizeClause.text, Facets.ofClause?, Facets.ofText?_number, if_pos htype,
      byte?_toNat, Option.map_some]
  | precisionAndScale htype hlow hhigh hscale =>
    refine ⟨_, ?_, .precisionAndScale htype hlow hhigh hscale⟩
    rw [Option.map_some, SizeClause.text_precisionAndScale, Facets.ofClause?,
      Facets.ofText?_numbers]

end Sized

/-- A declaration resolves exactly if its facets are within the limits.  The clause of its
physical type is allowed, and what is read back from the clause resolves to the same type. -/
theorem resolve_iff_fits (type : ColumnType) (facets : Facets) :
    ((∃ physical, resolve type facets = .ok physical) ↔ facets.Fits type.stored) ∧
      ∀ physical, resolve type facets = .ok physical →
        physical.type = type.stored ∧
        SizeClause.Allowed type.stored (physical.size.map SizeClause.text) ∧
        ∃ again, Facets.ofClause? type.stored (physical.size.map SizeClause.text) = some again ∧
          resolve type again = .ok physical := by
  constructor
  · rw [← exists_sized_iff]
    constructor
    · rintro ⟨physical, hresolve⟩
      exact ⟨_, sizeClause_eq_ok_iff.mp (resolve_eq_ok_iff.mp hresolve).1⟩
    · rintro ⟨size, hsized⟩
      exact ⟨⟨type.stored, size⟩,
        resolve_eq_ok_iff.mpr ⟨sizeClause_eq_ok_iff.mpr hsized, rfl⟩⟩
  · intro physical hresolve
    obtain ⟨hsize, htype⟩ := resolve_eq_ok_iff.mp hresolve
    have hsized := sizeClause_eq_ok_iff.mp hsize
    obtain ⟨again, hread, hagain⟩ := hsized.reread
    exact ⟨htype.symm, hsized.allowed, again, hread,
      resolve_eq_ok_iff.mpr ⟨sizeClause_eq_ok_iff.mpr hagain, htype⟩⟩

/-- A Unicode text beyond the limit of its type is declared without a limit, and stays so. -/
theorem resolve_iff_fits_longText :
    resolve (.host .string) ⟨some 4001, none, none⟩ = .ok ⟨.nVarChar, some .greatest⟩ ∧
      Facets.ofClause? .nVarChar (some "MAX") = some {} ∧
      resolve (.host .string) {} = .ok ⟨.nVarChar, some .greatest⟩ := by
  have hresolve : resolve (.host .string) ⟨some 4001, none, none⟩ =
      .ok ⟨.nVarChar, some .greatest⟩ := by decide
  obtain ⟨-, -, again, hread, hagain⟩ :=
    (resolve_iff_fits (.host .string) ⟨some 4001, none, none⟩).2 _ hresolve
  cases hread
  exact ⟨hresolve, rfl, hagain⟩

end PhysicalType

end SqlScribe
