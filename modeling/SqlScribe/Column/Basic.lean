import SqlScribe.ColumnType.Physical
import SqlScribe.Value.Basic

/-!
# Columns

A column is stored with a type or computed from an expression.  Besides, it says
whether it may be missing, which part it plays in the primary key, whether the
server numbers it, and what its default is.

Main definitions:

- `Column` describes a column; `Column.stored` and `Column.computed` begin one.
- `Column.facets` are the parts of its type declaration.
-/

namespace SqlScribe

/-- The part that a column plays in the primary key. -/
inductive KeyRole where
  | none
  | primary
  | clusteredPrimary
deriving DecidableEq, Repr

/-- Whether a column belongs to the primary key. -/
def KeyRole.isKey : KeyRole → Bool
  | .none => false
  | _ => true

/-- Where the values of a column come from. -/
inductive ColumnKind where
  | stored (type : ColumnType)
  | computed (expression : String) (persisted : Bool)
deriving DecidableEq

/-- The default of a column. -/
inductive Default where
  | value (value : Value)
  | generated (generator : Generator)
  /-- An expression that is copied as it was given. -/
  | expression (text : String)
  /-- What the generator fit for the column supplies. -/
  | auto
deriving DecidableEq

/-- A column of a table. -/
structure Column where
  name : String
  kind : ColumnKind
  length : Option UInt32 := none
  precision : Option UInt8 := none
  scale : Option UInt8 := none
  nullable : Bool := false
  key : KeyRole := .none
  identity : Bool := false
  default : Option Default := none
deriving DecidableEq

namespace Column

/-- A stored column that must have a value. -/
def stored (name : String) (type : ColumnType) : Column := { name, kind := .stored type }

/-- A computed column that is not kept. -/
def computed (name expression : String) : Column := { name, kind := .computed expression false }

/-! ## Changes -/

/-- The column as part of the primary key, which makes it mandatory. -/
def inKey (column : Column) (role : KeyRole) : Column :=
  { column with key := role, nullable := false }

/-- The column kept if it is computed. -/
def persisted (column : Column) : Column :=
  match column.kind with
  | .computed expression _ => { column with kind := .computed expression true }
  | .stored _ => column

/-! ## Questions -/

/-- The parts of the type declaration. -/
def facets (column : Column) : Facets := ⟨column.length, column.precision, column.scale⟩

/-- The declared type of a stored column. -/
def storedType? (column : Column) : Option ColumnType :=
  match column.kind with
  | .stored type => some type
  | .computed _ _ => none

/-- Whether the column is computed. -/
def isComputed (column : Column) : Bool := column.storedType?.isNone

/-- Whether the column belongs to the primary key. -/
def isKey (column : Column) : Bool := column.key.isKey

/-- Whether a generator supplies the default. -/
def isAutoGenerated (column : Column) : Bool :=
  match column.default with
  | some .auto | some (.generated _) => true
  | _ => false

/-- A column is computed exactly if it has an expression. -/
theorem isComputed_iff (column : Column) :
    column.isComputed = true ↔ ∃ expression persisted, column.kind = .computed expression persisted
    := by
  simp only [isComputed, storedType?]
  cases column.kind <;> simp

end Column

end SqlScribe
