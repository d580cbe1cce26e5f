import SqlScribe.Catalog.Listing
import SqlScribe.Proofs.Evaluation.Expressions

/-!
# Evaluation of catalog queries

The catalog of a server describes the columns of its tables.  An expression in a catalog query
has a value over the fields in scope, and is missing where a value that it needs is missing.

Main definitions:

- `Catalog.Snapshot` is the content of a catalog, as far as queries for shared columns read it.
- `Catalog.Environment` is what the value of an expression depends on.
- `Catalog.Term.value` is the value of an expression.

Main results:

- `Catalog.Snapshot.filter_name`: a name is that of one column of a table.
- `Catalog.chosen_number`: a choice between numbers is a lookup.
-/

namespace SqlScribe.Catalog

/-! ## Contents -/

/-- A row of the catalog that describes a column. -/
structure ColumnRow where
  object : Int
  name : String
  systemCode : Int
  userCode : Int
deriving DecidableEq

/-- The field of a row, as far as it is known. -/
def ColumnRow.field (row : ColumnRow) (name : String) : Constant :=
  if name = "object_id" then .number row.object
  else if name = "name" then .text row.name
  else if name = "system_type_id" then .number row.systemCode
  else if name = "user_type_id" then .number row.userCode
  else .null

/-- The content of a catalog. -/
structure Snapshot where
  objectId? : String → Option Int
  columns : List ColumnRow
  distinct : (columns.map fun row => (row.object, row.name)).Nodup

namespace Snapshot

variable (snapshot : Snapshot)

/-- The identifier of a table as a value, missing where there is no such table. -/
def identifier (table : Table) : Constant :=
  match snapshot.objectId? table.objectName with
  | some object => .number object
  | none => .null

/-- The columns of a table; a missing one has none. -/
def columnsOf (table : Table) : List ColumnRow :=
  snapshot.columns.filter fun row => snapshot.objectId? table.objectName = some row.object

variable {snapshot}

/-- The columns of a table are those under the identifier that its name denotes. -/
theorem mem_columnsOf {table : Table} {row : ColumnRow} :
    row ∈ snapshot.columnsOf table ↔
      row ∈ snapshot.columns ∧ snapshot.objectId? table.objectName = some row.object := by
  simp [columnsOf]

/-- No two columns of a table have one name. -/
theorem nodup_names_columnsOf (table : Table) :
    ((snapshot.columnsOf table).map (·.name)).Nodup := by
  have hrows := List.pairwise_map.mp snapshot.distinct
  refine List.pairwise_map.mpr ((hrows.filter _).imp_of_mem ?_)
  intro a b ha hb hne hname
  have hobject : some a.object = some b.object :=
    (mem_columnsOf.mp ha).2.symm.trans (mem_columnsOf.mp hb).2
  exact hne (Prod.ext (Option.some.inj hobject) hname)

/-- The columns of a table under the name of one of them are that one. -/
theorem filter_name {table : Table} {row : ColumnRow} (hrow : row ∈ snapshot.columnsOf table) :
    (snapshot.columnsOf table).filter (·.name = row.name) = [row] := by
  have hnames : ((snapshot.columnsOf table).map (·.name)).Nodup := nodup_names_columnsOf table
  generalize snapshot.columnsOf table = rows at hrow hnames
  induction rows with
  | nil => cases hrow
  | cons first rest ih =>
    obtain ⟨hfirst, hrest⟩ := List.nodup_cons.mp hnames
    rcases List.mem_cons.mp hrow with rfl | hrow
    · have hnone : rest.filter (·.name = row.name) = [] := by
        refine List.filter_eq_nil_iff.mpr fun other hother => ?_
        rw [decide_eq_true_eq]
        exact fun hname => hfirst (List.mem_map.mpr ⟨other, hother, hname⟩)
      simp [hnone]
    · have hne : first.name ≠ row.name := fun hname =>
        hfirst (List.mem_map.mpr ⟨row, hrow, hname.symm⟩)
      simp [hne, ih hrow hrest]

end Snapshot

/-! ## Values -/

namespace Constant

/-- Whether two values are known to be equal. -/
def equals : Constant → Constant → Bool
  | .null, _ | _, .null => false
  | left, right => left = right

/-- Half a number, cut toward zero. -/
def half : Constant → Constant
  | .number value => .number (value.tdiv 2)
  | _ => .null

/-- A text with all occurrences of a term replaced. -/
def replace (term replacement : String) : Constant → Constant
  | .text value => .text (Sql.replaceAll value term replacement)
  | .number value => .text (Sql.replaceAll (toString value) term replacement)
  | .null => .null

/-- Whether a value is known to be a smaller number. -/
def isLess : Constant → Constant → Bool
  | .number left, .number right => left < right
  | _, _ => false

@[simp] theorem equals_number (left right : Int) :
    equals (.number left) (.number right) = decide (left = right) := by
  simp [equals]

@[simp] theorem equals_text (left right : String) :
    equals (.text left) (.text right) = decide (left = right) := by
  simp [equals]

end Constant

/-- What the value of an expression depends on, beside the fields in scope. -/
structure Environment where
  snapshot : Snapshot
  definition : Constant → Constant
  /-- A value converted to a type, unless it is missing or a number that becomes a bit. -/
  convert : SqlType → Constant → Constant

namespace Environment

variable (environment : Environment) (field : Field → Constant)

/-- A converted value. -/
def cast : SqlType → Constant → Constant
  | _, .null => .null
  | .bit, .number value => .number (if value = 0 then 0 else 1)
  | type, value => environment.convert type value

/-- The columns that count for a bound. -/
def counted (bound : CodeBound) : List ColumnRow :=
  environment.snapshot.columns.filter fun row =>
    (row.field "name").equals (field (.ofDerived "name")) &&
      (bound.codes.any fun code => (row.field "system_type_id").equals (.number code)) &&
      bound.tables.any fun table =>
        (row.field "object_id").equals (environment.snapshot.identifier table)

/-- The value of a bound, missing where no column counts. -/
def greatest (bound : CodeBound) : Constant :=
  match ((environment.counted field bound).map (·.systemCode)).max? with
  | some code => .number code
  | none => .null

end Environment

/-- The result of the first branch whose constant a value equals. -/
def chosen (subject otherwise : Constant) : List (Constant × Constant) → Constant
  | [] => otherwise
  | (key, result) :: rest => if subject.equals key then result else chosen subject otherwise rest

/-- The value of an expression. -/
def Term.value (environment : Environment) (field : Field → Constant) : Term → Constant
  | .field source => field source
  | .constant value => value
  | .definition object => environment.definition (field object)
  | .half operand => (operand.value environment field).half
  | .replace operand term replacement =>
    (operand.value environment field).replace term replacement
  | .orNumber operand number =>
    match operand.value environment field with
    | .null => .number number
    | value => value
  | .choose subject branches otherwise =>
    chosen (subject.value environment field) (otherwise.value environment field) branches
  | .ifAmong subject numbers yes no =>
    if numbers.any fun number => (subject.value environment field).equals (.number number) then
      yes.value environment field
    else no.value environment field
  | .ifBelow subject bound yes no =>
    if (subject.value environment field).isLess (environment.greatest field bound) then
      yes.value environment field
    else no.value environment field
  | .cast operand type => environment.cast type (operand.value environment field)
  | .grouped operand => operand.value environment field

/-- A choice between numbers is a lookup. -/
theorem chosen_number (table : List (Int × Int)) (code : Int) :
    chosen (.number code) (.number code)
        (table.map fun (key, result) => (.number key, .number result)) =
      .number ((table.lookup code).getD code) := by
  induction table with
  | nil => rfl
  | cons entry rest ih =>
    obtain ⟨key, result⟩ := entry
    by_cases hkey : code = key
    · simp [chosen, hkey]
    · have hother : (code == key) = false := by simpa using hkey
      simp [chosen, hkey, List.lookup_cons, hother, ih]

end SqlScribe.Catalog
