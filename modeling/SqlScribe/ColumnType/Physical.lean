import SqlScribe.ColumnType.Basic

/-!
# Physical types

A declared type and its length, precision and scale resolve to the type that a
definition spells.  Only decimals have a precision and a scale, only texts and
binaries a length, and a variable-width type without a usable length takes the
greatest one there is.

Main definitions:

- `Facets` are the optional length, precision and scale of a declaration.
- `FacetError` is the reason why facets do not fit a type.
- `PhysicalType.resolve` checks the facets and chooses the size clause.
-/

namespace SqlScribe

/-- The optional parts of a type declaration. -/
structure Facets where
  length : Option UInt32 := none
  precision : Option UInt8 := none
  scale : Option UInt8 := none
deriving DecidableEq

/-- A reason why facets do not fit a type. -/
inductive FacetError where
  | precisionNotTaken (type : SqlType)
  | lengthNotTaken (type : SqlType)
  | lengthZero (type : SqlType)
  | lengthTooGreat (type : SqlType) (length : UInt32)
  | scaleAlone
  | precisionOutOfRange (precision : UInt8)
  | scaleTooGreat (scale precision : UInt8)
deriving DecidableEq

/-- The wording of a reason. -/
def FacetError.message : FacetError → String
  | .precisionNotTaken type => s!"{type.name} does not take a precision or scale"
  | .lengthNotTaken type => s!"{type.name} does not take a length"
  | .lengthZero type => s!"{type.name} length must be positive"
  | .lengthTooGreat type length =>
    s!"{type.name} ({length.toNat}) exceeds the maximum length of {type.greatestLength.toNat}"
  | .scaleAlone => "decimal scale requires a precision"
  | .precisionOutOfRange precision => s!"decimal precision {precision.toNat} is outside 1..=38"
  | .scaleTooGreat scale precision =>
    s!"decimal scale {scale.toNat} exceeds precision {precision.toNat}"

/-- The size clause of a physical type. -/
inductive SizeClause where
  | greatest
  | length (value : UInt32)
  | precision (value : UInt8)
  | precisionAndScale (precision scale : UInt8)
deriving DecidableEq

/-- The spelling of a size clause. -/
def SizeClause.text : SizeClause → String
  | .greatest => "MAX"
  | .length value => toString value.toNat
  | .precision value => toString value.toNat
  | .precisionAndScale p s => s!"{p.toNat}, {s.toNat}"

/-- A type as definitions spell it. -/
structure PhysicalType where
  type : SqlType
  size : Option SizeClause
deriving DecidableEq

namespace PhysicalType

/-- The spelling of a physical type. -/
def text (physical : PhysicalType) : String :=
  match physical.size with
  | some size => s!"{physical.type.name} ({size.text})"
  | none => physical.type.name

/-- The size clause of a decimal. -/
def decimalSize (precision scale : Option UInt8) : Except FacetError (Option SizeClause) :=
  match precision, scale with
  | none, none => .ok none
  | none, some _ => .error .scaleAlone
  | some p, scale =>
    if p = 0 || 38 < p then .error (.precisionOutOfRange p)
    else
      match scale with
      | none => .ok (some (.precision p))
      | some s =>
        if p < s then .error (.scaleTooGreat s p) else .ok (some (.precisionAndScale p s))

/-- The size clause of a type with a length. -/
def lengthSize (type : SqlType) (length : Option UInt32) :
    Except FacetError (Option SizeClause) :=
  match length with
  | none => .ok (if type.isVariableWidth then some .greatest else none)
  | some n =>
    if n = 0 then .error (.lengthZero type)
    else if n ≤ type.greatestLength then .ok (some (.length n))
    else if type.isVariableWidth then .ok (some .greatest)
    else .error (.lengthTooGreat type n)

/-- The size clause of a type. -/
def sizeClause (type : SqlType) (facets : Facets) : Except FacetError (Option SizeClause) :=
  if type ≠ .decimal && (facets.precision.isSome || facets.scale.isSome) then
    .error (.precisionNotTaken type)
  else if !type.hasLength && facets.length.isSome then .error (.lengthNotTaken type)
  else if type = .decimal then decimalSize facets.precision facets.scale
  else if type.hasLength then lengthSize type facets.length
  else .ok none

/-- The physical type of a declaration. -/
def resolve (type : ColumnType) (facets : Facets) : Except FacetError PhysicalType :=
  (sizeClause type.stored facets).map fun size => ⟨type.stored, size⟩

/-- A type without facets always resolves. -/
def plain (type : ColumnType) : PhysicalType :=
  ⟨type.stored, if type.stored.isVariableWidth then some .greatest else none⟩

/-- Without facets the physical type is the plain one. -/
theorem resolve_empty (type : ColumnType) :
    resolve type ⟨none, none, none⟩ = .ok (plain type) := by
  simp only [resolve, plain]
  generalize type.stored = stored
  cases stored <;> rfl

end PhysicalType

end SqlScribe
