import SqlScribe.Proofs.Catalog.SharedColumns
import SqlScribe.Schema.Listing

/-!
# Rows of listings

A listing of a table reads views of the catalog that are joined.  Each row of a join consists of
rows of the views; a left join keeps a row to which nothing matches, and the fields of the view
are missing in it.

Main definitions:

- `Catalog.Content` is the content of the views that the listings of a table read.
- `Catalog.Relation.rows` are the rows of joined views.
- `Catalog.Environment.listed` are the rows that a listing reads of a table, and
  `Catalog.Listing.value` is what it returns of a row under a name.

Main results:

- `Catalog.JoinedRow.matching_entries`: what matches a row are the entries with the same key.
- `Catalog.filter_eq_toList_find?`: at most one entry has a key.
-/

namespace SqlScribe.Catalog

/-! ## Values -/

/-- A truth value as a bit. -/
def Constant.ofBool (value : Bool) : Constant := .number (if value then 1 else 0)

/-- A text that may be missing. -/
def Constant.ofText? : Option String → Constant
  | some value => .text value
  | none => .null

/-- Different truth values are different as values of the catalog. -/
theorem Constant.ofBool_injective : Function.Injective Constant.ofBool := by
  intro a b hsame
  cases a <;> cases b <;> simp_all [ofBool]

/-- Different texts are different as values of the catalog, and none is the missing one. -/
theorem Constant.ofText?_injective : Function.Injective Constant.ofText? := by
  intro a b hsame
  cases a <;> cases b <;> simp_all [ofText?]

/-! ## Entries of the views -/

/-- The values of the fields of an entry by their names. -/
abbrev Record := String → Constant

/-- What the catalog says of a column of a table. -/
structure ColumnEntry where
  object : Int
  column : Int
  name : String
  typeCode : Int
  /-- The greatest number of bytes of a value, or -1 if there is no limit. -/
  maxLength : Int
  isNullable : Bool
  isIdentity : Bool
  default : Int
  precision : Nat
  scale : Nat
deriving DecidableEq

/-- What the catalog says of an index. -/
structure IndexEntry where
  object : Int
  index : Int
  name : Option String
  type : UInt8
  isUnique : Bool
  isPrimaryKey : Bool
deriving DecidableEq

/-- What the catalog says of a column as part of an index. -/
structure IndexColumnEntry where
  object : Int
  index : Int
  column : Int
  /-- The place of the column among those of the index. -/
  ordinal : Nat
  isDescending : Bool

/-- What the catalog says of the computation of a column. -/
structure ComputedColumnEntry where
  object : Int
  column : Int
  definition : String
  isPersisted : Bool

/-- The fields of a column. -/
def ColumnEntry.record (entry : ColumnEntry) : Record := fun name =>
  (([("object_id", .number entry.object), ("column_id", .number entry.column),
     ("name", .text entry.name), ("system_type_id", .number entry.typeCode),
     ("max_length", .number entry.maxLength), ("is_nullable", .ofBool entry.isNullable),
     ("is_identity", .ofBool entry.isIdentity), ("default_object_id", .number entry.default),
     ("precision", .number entry.precision),
     ("scale", .number entry.scale)] : List (String × Constant)).lookup name).getD .null

/-- The fields of an index. -/
def IndexEntry.record (entry : IndexEntry) : Record := fun name =>
  (([("object_id", .number entry.object), ("index_id", .number entry.index),
     ("name", .ofText? entry.name), ("type", .number entry.type.toNat),
     ("is_unique", .ofBool entry.isUnique),
     ("is_primary_key", .ofBool entry.isPrimaryKey)] : List (String × Constant)).lookup
      name).getD .null

/-- The fields of a column of an index. -/
def IndexColumnEntry.record (entry : IndexColumnEntry) : Record := fun name =>
  (([("object_id", .number entry.object), ("index_id", .number entry.index),
     ("column_id", .number entry.column), ("key_ordinal", .number entry.ordinal),
     ("is_descending_key", .ofBool entry.isDescending)] : List (String × Constant)).lookup
      name).getD .null

/-- The fields of a computed column. -/
def ComputedColumnEntry.record (entry : ComputedColumnEntry) : Record := fun name =>
  (([("object_id", .number entry.object), ("column_id", .number entry.column),
     ("definition", .text entry.definition),
     ("is_persisted", .ofBool entry.isPersisted)] : List (String × Constant)).lookup
      name).getD .null

/-- The content of the views that the listings of a table read. -/
structure Content where
  columns : List ColumnEntry
  indexes : List IndexEntry
  indexColumns : List IndexColumnEntry
  computedColumns : List ComputedColumnEntry
  columns_distinct : (columns.map fun entry => (entry.object, entry.column)).Nodup
  indexes_distinct : (indexes.map fun entry => (entry.object, entry.index)).Nodup
  indexColumns_distinct :
    (indexColumns.map fun entry => (entry.object, entry.index, entry.column)).Nodup
  computedColumns_distinct : (computedColumns.map fun entry => (entry.object, entry.column)).Nodup

/-- Without computed columns none is described twice. -/
theorem Content.noComputedColumns_distinct :
    (([] : List ComputedColumnEntry).map fun entry => (entry.object, entry.column)).Nodup :=
  List.nodup_nil

/-- The entries of a view.  The tables themselves take part in no join. -/
def Content.records (content : Content) : View → List Record
  | .tables => []
  | .columns => content.columns.map (·.record)
  | .indexes => content.indexes.map (·.record)
  | .indexColumns => content.indexColumns.map (·.record)
  | .computedColumns => content.computedColumns.map (·.record)

/-! ## Joins -/

/-- A row of joined views: an entry of each view, as far as there is one. -/
@[ext]
structure JoinedRow where
  entry : View → Option Record

namespace JoinedRow

/-- The value of a field, which is missing where its view has no entry. -/
def value (row : JoinedRow) : Field → Constant
  | .ofView view name =>
    match row.entry view with
    | some record => record name
    | none => .null
  | .bare _ | .ofDerived _ => .null

/-- The row with an entry of a further view. -/
def extend (row : JoinedRow) (view : View) (record : Record) : JoinedRow :=
  ⟨fun other => if other = view then some record else row.entry other⟩

/-- Whether fields that must be equal are known to be. -/
def satisfies (row : JoinedRow) (on : Match) : Bool :=
  on.all fun (left, right) => (row.value left).equals (row.value right)

/-- The row with each of the entries of a view that match it. -/
def matching (row : JoinedRow) (records : View → List Record) (view : View) (on : Match) :
    List JoinedRow :=
  ((records view).map (row.extend view)).filter (·.satisfies on)

/-- The row of some entries. -/
def ofEntries (column : Option ColumnEntry) (use : Option IndexColumnEntry)
    (index : Option IndexEntry) (computed : Option ComputedColumnEntry) : JoinedRow where
  entry
    | .tables => none
    | .columns => column.map (·.record)
    | .indexes => index.map (·.record)
    | .indexColumns => use.map (·.record)
    | .computedColumns => computed.map (·.record)

section Extend

variable (column : Option ColumnEntry) (use : Option IndexColumnEntry) (index : Option IndexEntry)
  (computed : Option ComputedColumnEntry)

/-- Without entries a row has nothing of any view. -/
theorem ofEntries_none : ofEntries none none none none = ⟨fun _ => none⟩ := by
  ext1
  funext view
  cases view <;> rfl

@[simp] theorem extend_columns (entry : ColumnEntry) :
    (ofEntries column use index computed).extend .columns entry.record =
      ofEntries (some entry) use index computed := by
  ext1
  funext view
  cases view <;> rfl

@[simp] theorem extend_indexColumns (entry : IndexColumnEntry) :
    (ofEntries column use index computed).extend .indexColumns entry.record =
      ofEntries column (some entry) index computed := by
  ext1
  funext view
  cases view <;> rfl

@[simp] theorem extend_indexes (entry : IndexEntry) :
    (ofEntries column use index computed).extend .indexes entry.record =
      ofEntries column use (some entry) computed := by
  ext1
  funext view
  cases view <;> rfl

@[simp] theorem extend_computedColumns (entry : ComputedColumnEntry) :
    (ofEntries column use index computed).extend .computedColumns entry.record =
      ofEntries column use index (some entry) := by
  ext1
  funext view
  cases view <;> rfl

end Extend

/-- Two pairs of fields with numbers match just when the numbers of each pair are equal. -/
theorem satisfies_pair_iff {row : JoinedRow} {a b c d : Field} {k l m n : Int}
    (ha : row.value a = .number k) (hb : row.value b = .number l)
    (hc : row.value c = .number m) (hd : row.value d = .number n) :
    row.satisfies [(a, b), (c, d)] = true ↔ k = l ∧ m = n := by
  simp [satisfies, ha, hb, hc, hd]

/-- What matches a row are its extensions by the entries that match it. -/
theorem matching_entries {α : Type} {records : View → List Record} {view : View}
    {record : α → Record} {row : JoinedRow} {on : Match} (entries : List α) (isMatch : α → Prop)
    [DecidablePred isMatch] (hview : records view = entries.map record)
    (hmatch : ∀ entry, (row.extend view (record entry)).satisfies on = true ↔ isMatch entry) :
    row.matching records view on =
      (entries.filter (isMatch ·)).map fun entry => row.extend view (record entry) := by
  rw [matching, hview, List.map_map, List.filter_map]
  congr 1
  refine List.filter_congr fun entry _ => ?_
  rw [Bool.eq_iff_iff, decide_eq_true_eq]
  exact hmatch entry

end JoinedRow

/-- Some rows, or a row alone where there are none. -/
def orAlone {α : Type} (row : α) : List α → List α
  | [] => [row]
  | first :: rest => first :: rest

/-- The rows of joined views. -/
def Relation.rows (records : View → List Record) : Relation → List JoinedRow
  | .view source => (records source).map (JoinedRow.extend ⟨fun _ => none⟩ source)
  | .join left right on =>
    (left.rows records).flatMap fun row => row.matching records right on
  | .leftJoin left right on =>
    (left.rows records).flatMap fun row => orAlone row (row.matching records right on)

/-- Rows, or a row alone, are mapped one by one. -/
theorem map_orAlone {α β : Type} (f : α → β) (row : α) (rows : List α) :
    (orAlone row rows).map f = orAlone (f row) (rows.map f) := by
  cases rows <;> rfl

/-- A row that meets at most one other is joined with it, or stands alone. -/
theorem orAlone_map_toList {α β : Type} (row : β) (f : α → β) (found : Option α) :
    orAlone row (found.toList.map f) = [found.elim row f] := by
  cases found <;> rfl

/-- Rows, or a row alone, are one at least. -/
theorem length_orAlone {α : Type} (row : α) (rows : List α) :
    (orAlone row rows).length = max 1 rows.length := by
  cases rows with
  | nil => rfl
  | cons first rest => simp [orAlone]

/-- Of one row at most, or a row alone, a single row is left. -/
theorem orAlone_of_length_le_one {α : Type} (row : α) {rows : List α} (hrows : rows.length ≤ 1) :
    orAlone row rows = [rows.head?.getD row] := by
  match rows with
  | [] => rfl
  | [_] => rfl

/-! ## Keys -/

/-- Of entries with distinct keys at most one has a given key. -/
theorem filter_eq_toList_find? {α κ : Type} [DecidableEq κ] {key : α → κ} {entries : List α}
    (hdistinct : (entries.map key).Nodup) (wanted : κ) :
    entries.filter (fun entry => key entry = wanted) =
      (entries.find? fun entry => key entry = wanted).toList := by
  induction entries with
  | nil => rfl
  | cons entry rest ih =>
    obtain ⟨hfirst, hrest⟩ := List.nodup_cons.mp hdistinct
    by_cases hkey : key entry = wanted
    · have hnone : rest.filter (fun entry => key entry = wanted) = [] := by
        refine List.filter_eq_nil_iff.mpr fun other hother => ?_
        rw [decide_eq_true_eq]
        intro hsame
        exact hfirst (List.mem_map.mpr ⟨other, hother, hsame.trans hkey.symm⟩)
      simp [hkey, hnone]
    · simp [hkey, ih hrest]

/-! ## Rows of a table -/

/-- Where all rows that come from one source belong to a table or none does, the rows of the
table come from the sources that belong to it. -/
theorem filter_flatMap_of_owner {α β : Type} {isRow : β → Bool} {isSource : α → Bool}
    {rows : α → List β} (howner : ∀ source, ∀ row ∈ rows source, isRow row = isSource source)
    (sources : List α) :
    (sources.flatMap rows).filter isRow = (sources.filter isSource).flatMap rows := by
  induction sources with
  | nil => rfl
  | cons source rest ih =>
    rw [List.flatMap_cons, List.filter_append, ih]
    by_cases hsource : isSource source = true
    · rw [List.filter_eq_self.mpr fun row hrow => (howner source row hrow).trans hsource]
      simp [hsource]
    · have hnone : (rows source).filter isRow = [] := by
        refine List.filter_eq_nil_iff.mpr fun row hrow => ?_
        rw [howner source row hrow]
        exact hsource
      simp [hnone, hsource]

/-- The value that a listing returns of a row under a name. -/
def Listing.value (listing : Listing) (environment : Environment) (field : Field → Constant)
    (name : String) : Constant :=
  match listing.outputs.find? (·.name = name) with
  | some output => output.term.value environment field
  | none => .null

namespace Environment

variable (environment : Environment)

/-- Whether the catalog identifies a table by a number. -/
def isObject (table : Table) (object : Int) : Bool :=
  environment.snapshot.objectId? table.objectName = some object

/-- The columns of a table. -/
def tableColumns (content : Content) (table : Table) : List ColumnEntry :=
  content.columns.filter fun column => environment.isObject table column.object

/-- The indexes of a table. -/
def tableIndexes (content : Content) (table : Table) : List IndexEntry :=
  content.indexes.filter fun index => environment.isObject table index.object

/-- The rows that a listing reads of a table. -/
def listed (content : Content) (listing : Listing) (table : Table) : List JoinedRow :=
  (listing.relation.rows content.records).filter fun row =>
    (row.value listing.owner).equals (environment.snapshot.identifier table)

/-- A table is identified by the number that its name denotes. -/
theorem number_equals_identifier (table : Table) (object : Int) :
    (Constant.number object).equals (environment.snapshot.identifier table) =
      environment.isObject table object :=
  environment.equals_identifier table ⟨object, "", 0, 0⟩

/-- A server with one table, named t, that stores no definitions and converts no values. -/
def oneTable : Environment where
  snapshot :=
    { objectId? := fun name => if name = "t" then some 1 else none
      columns := []
      distinct := List.nodup_nil }
  definition := fun _ => .null
  convert := fun _ value => value

end Environment

end SqlScribe.Catalog
