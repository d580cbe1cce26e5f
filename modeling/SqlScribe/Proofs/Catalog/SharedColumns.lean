import Mathlib.Data.List.Nodup
import SqlScribe.Proofs.Catalog.Evaluation
import SqlScribe.Proofs.Evaluation.Server
import SqlScribe.Schema.Operation

/-!
# What the queries for shared columns return

The columns that tables share are found by intersecting their listings, and those that a
destination shares too are joined to their description in it.  The rows of these queries are the
columns that are shared, and the flag of a row is the one that tells whether a copy narrows it.

Main definitions:

- `Catalog.ColumnSelect`, `Catalog.Chain` and `Catalog.JoinSelect` are the queries that the texts
  spell; `Environment.select`, `Environment.chain` and `Environment.join` are their rows.
- `Catalog.Snapshot.IsShared` says that tables share a column.
- `Query.withoutOperations` is a query without the queries combined with it, at every depth.

Main results:

- `Schema.mem_chain_codeChain`: the rows of the intersected listings.
- `Schema.join_sharedSelect`: the rows of the join with a destination.
- `SchemaOperation.sharedColumns_rows`: what the statements for the shared columns of a query
  return.
-/

namespace SqlScribe.Catalog

open Sql (Pieces fixed)

/-! ## Queries -/

/-- A SELECT of the columns of a table. -/
structure ColumnSelect where
  outputs : List Output
  table : Table

/-- The text of such a SELECT. -/
def ColumnSelect.pieces (select : ColumnSelect) : Pieces :=
  fixed "SELECT " ++ Pieces.join ", " (select.outputs.map (·.pieces)) ++
    fixed (" FROM " ++ View.columns.path ++ " WHERE [object_id] = ") ++ objectId select.table

/-- SELECTs with INTERSECT between each two. -/
abbrev Chain := List ColumnSelect

/-- The text of such SELECTs. -/
def Chain.pieces (chain : Chain) : Pieces :=
  Pieces.join " INTERSECT " (chain.map ColumnSelect.pieces)

/-- A SELECT of the rows of a derived table, each with the columns of a table that match it. -/
structure JoinSelect where
  outputs : List Output
  derived : Chain
  on : Match
  table : Table

/-- The text of such a SELECT. -/
def JoinSelect.pieces (select : JoinSelect) : Pieces :=
  fixed "SELECT " ++ Pieces.join ", " (select.outputs.map (·.pieces)) ++ fixed " FROM " ++
    (Sql.derivedPieces select.derived.pieces ++ fixed " JOIN " ++ fixed View.columns.reference ++
      fixed " ON " ++ matchPieces select.on ++ fixed " AND " ++
      (Field.ofView .columns "object_id").pieces ++ fixed " = " ++ objectId select.table)

/-! ## Rows -/

/-- The name under which an expression is returned. -/
def Output.name (output : Output) : String :=
  match output.label, output.term with
  | some label, _ => label
  | none, .field (.bare name) | none, .field (.ofView _ name) | none, .field (.ofDerived name) =>
    name
  | none, _ => ""

/-- The names of the returned columns; those of the first SELECT count. -/
def Chain.names : Chain → List String
  | [] => []
  | first :: _ => first.outputs.map (·.name)

/-- The values of the fields over a column. -/
def ColumnRow.fields (row : ColumnRow) : Field → Constant
  | .bare name => row.field name
  | _ => .null

/-- The values of the fields over a row of a derived table and a column that it is joined to. -/
def joinedFields (names : List String) (values : List Constant) (row : ColumnRow) :
    Field → Constant
  | .ofDerived name => ((names.zip values).lookup name).getD .null
  | .ofView .columns name => row.field name
  | _ => .null

namespace Environment

variable (environment : Environment)

/-- The values of returned expressions. -/
def returned (outputs : List Output) (field : Field → Constant) : List Constant :=
  outputs.map (·.term.value environment field)

/-- The rows of a SELECT of the columns of a table. -/
def select (query : ColumnSelect) : List (List Constant) :=
  (environment.snapshot.columns.filter fun row =>
    (row.field "object_id").equals (environment.snapshot.identifier query.table)).map fun row =>
      environment.returned query.outputs row.fields

/-- The rows of intersected SELECTs. -/
def chain : Chain → List (List Constant)
  | [] => []
  | first :: rest =>
    Sql.readChain id (environment.select first)
      (rest.map fun query => (.intersect, environment.select query))

/-- Whether a column matches a row of a derived table. -/
def joins (query : JoinSelect) (field : Field → Constant) : Bool :=
  (query.on.all fun (left, right) => (field left).equals (field right)) &&
    (field (.ofView .columns "object_id")).equals (environment.snapshot.identifier query.table)

/-- The rows of a SELECT of a derived table with matching columns. -/
def join (query : JoinSelect) : List (List Constant) :=
  (environment.chain query.derived).flatMap fun values =>
    (environment.snapshot.columns.filter fun row =>
      environment.joins query (joinedFields query.derived.names values row)).map fun row =>
        environment.returned query.outputs (joinedFields query.derived.names values row)

end Environment

/-! ## What is compared of columns -/

/-- What is compared of a column: its name and its normalized codes. -/
structure Shape where
  name : String
  systemCode : Int
  userCode : Int
deriving DecidableEq

/-- A shape as a row of values. -/
def Shape.values (shape : Shape) : List Constant :=
  [.text shape.name, .number shape.systemCode, .number shape.userCode]

/-- What is compared of a column. -/
def ColumnRow.shape (row : ColumnRow) : Shape :=
  ⟨row.name, TypeCode.normalize row.systemCode, TypeCode.normalize row.userCode⟩

/-- Different shapes are different rows of values. -/
theorem Shape.values_injective : Function.Injective Shape.values := by
  rintro ⟨name, systemCode, userCode⟩ ⟨name', systemCode', userCode'⟩ hvalues
  simpa [values] using hvalues

namespace Snapshot

variable (snapshot : Snapshot)

/-- Whether all tables have a column of a shape. -/
def IsShared (tables : List Table) (shape : Shape) : Prop :=
  ∀ table ∈ tables, shape ∈ (snapshot.columnsOf table).map (·.shape)

instance (tables : List Table) (shape : Shape) : Decidable (snapshot.IsShared tables shape) := by
  unfold IsShared
  infer_instance

/-- The codes of all columns of a name in some tables. -/
def codesNamed (tables : List Table) (name : String) : List Int :=
  ((tables.flatMap snapshot.columnsOf).filter (·.name = name)).map (·.systemCode)

/-- No table has two columns of one shape. -/
theorem nodup_shapes (table : Table) : ((snapshot.columnsOf table).map (·.shape)).Nodup := by
  have hnames : (((snapshot.columnsOf table).map (·.shape)).map Shape.name).Nodup := by
    rw [List.map_map]
    exact nodup_names_columnsOf table
  exact hnames.of_map

end Snapshot

/-! ## Rows of intersected listings -/

namespace Environment

variable (environment : Environment)

/-- A field identifies a table as the fields of its columns do. -/
theorem equals_identifier (table : Table) (row : ColumnRow) :
    (row.field "object_id").equals (environment.snapshot.identifier table) =
      decide (environment.snapshot.objectId? table.objectName = some row.object) := by
  have hobject : row.field "object_id" = .number row.object := rfl
  rw [hobject, Snapshot.identifier]
  cases environment.snapshot.objectId? table.objectName with
  | none => simp [Constant.equals]
  | some object => simp [eq_comm]

/-- The listing of codes returns the shape of a column. -/
theorem returned_codeOutputs (row : ColumnRow) :
    environment.returned Schema.codeOutputs row.fields = row.shape.values := by
  simp [returned, Schema.codeOutputs, Schema.normalizedTerm, Output.ofField, Term.value,
    ColumnRow.fields, ColumnRow.field, chosen_number, ColumnRow.shape, Shape.values,
    TypeCode.normalize]

/-- The listing of codes returns the shapes of the columns of a table. -/
theorem select_codeOutputs (table : Table) :
    environment.select ⟨Schema.codeOutputs, table⟩ =
      ((environment.snapshot.columnsOf table).map (·.shape)).map Shape.values := by
  simp [select, equals_identifier, returned_codeOutputs, Snapshot.columnsOf]

/-- Intersected rows are those that are in all of the SELECTs. -/
theorem mem_readChain_intersect {rows : List (List Constant)}
    {others : List (List (List Constant))} {values : List Constant} :
    values ∈ Sql.readChain id rows (others.map fun other => (.intersect, other)) ↔
      values ∈ rows ∧ ∀ other ∈ others, values ∈ other := by
  induction others generalizing rows with
  | nil => simp [Sql.readChain]
  | cons other rest ih =>
    simp only [List.map_cons, Sql.readChain, ih, Sql.mem_apply_intersect, List.forall_mem_cons,
      and_assoc]

/-- Intersecting keeps rows distinct. -/
theorem nodup_readChain_intersect {rows : List (List Constant)}
    {others : List (List (List Constant))} (hrows : rows.Nodup) :
    (Sql.readChain id rows (others.map fun other => (.intersect, other))).Nodup := by
  induction others generalizing rows with
  | nil => exact hrows
  | cons other rest ih => exact ih (Sql.nodup_eraseDups _)

end Environment

end SqlScribe.Catalog

namespace SqlScribe.Schema

open Catalog (ColumnSelect Chain JoinSelect)

/-! ## The queries for shared columns -/

/-- The listings of tables with INTERSECT between each two. -/
def codeChain (tables : List Table) : Chain := tables.map fun table => ⟨codeOutputs, table⟩

/-- The columns that tables and a destination share, with their description in it. -/
def sharedSelect (tables : List Table) (into : Table) : JoinSelect :=
  { outputs := sharedOutputs tables
    derived := codeChain (tables ++ [into])
    on := [(.ofDerived "name", columnField "name")]
    table := into }

/-- The listings of tables are written with INTERSECT between each two. -/
theorem pieces_codeChain (tables : List Table) :
    (codeChain tables).pieces = intersection tables := by
  simp [codeChain, Chain.pieces, intersection, Function.comp_def]
  rfl

/-- The columns that the sources of a query share are asked for by the listings of all of them. -/
theorem unionColumns_eq {query : Query} (hsources : query.sourceTables ≠ []) :
    unionColumns query = .ok (codeChain query.sourceTables).pieces := by
  rw [pieces_codeChain]
  unfold unionColumns sources
  split
  · contradiction
  · rfl

/-- The columns that sources share with a destination are asked for by one SELECT of a derived
table. -/
theorem sharedColumns_eq {query : Query} (hsources : query.sourceTables ≠ []) (into : Table) :
    sharedColumns query into = .ok (sharedSelect query.sourceTables into).pieces := by
  have hsource : sources query = .ok query.sourceTables := by
    unfold sources
    split
    · contradiction
    · rfl
  rw [sharedColumns, hsource]
  simp only [JoinSelect.pieces, sharedSelect, pieces_codeChain]
  rfl

/-! ## Shared columns -/

section Rows

open Catalog (ColumnRow Constant Environment Shape)

variable (environment : Environment)

/-- The rows of listings are those of the first one, intersected with those of the others in
turn. -/
theorem chain_codeChain (table : Table) (tables : List Table) :
    environment.chain (codeChain (table :: tables)) =
      Sql.readChain id (((environment.snapshot.columnsOf table).map (·.shape)).map Shape.values)
        ((tables.map fun table =>
          ((environment.snapshot.columnsOf table).map (·.shape)).map Shape.values).map
            fun rows => (.intersect, rows)) := by
  simp only [codeChain, List.map_cons, Environment.chain, Environment.select_codeOutputs,
    List.map_map, Function.comp_def]

/-- The rows of the listings of tables are the shapes of the columns that they share. -/
theorem mem_chain_codeChain {tables : List Table} (htables : tables ≠ [])
    {values : List Constant} :
    values ∈ environment.chain (codeChain tables) ↔
      ∃ shape, environment.snapshot.IsShared tables shape ∧ shape.values = values := by
  obtain ⟨table, tables, rfl⟩ := List.exists_cons_of_ne_nil htables
  have hmem (shape : Shape) (rows : List ColumnRow) :
      shape.values ∈ (rows.map (·.shape)).map Shape.values ↔ shape ∈ rows.map (·.shape) :=
    List.mem_map_of_injective Shape.values_injective
  rw [chain_codeChain, Environment.mem_readChain_intersect]
  constructor
  · rintro ⟨hfirst, hrest⟩
    obtain ⟨shape, hshape, rfl⟩ := List.mem_map.mp hfirst
    refine ⟨shape, ?_, rfl⟩
    intro other hother
    rcases List.mem_cons.mp hother with rfl | hother
    · exact hshape
    · exact (hmem shape _).mp (hrest _ (List.mem_map_of_mem hother))
  · rintro ⟨shape, hshared, rfl⟩
    refine ⟨(hmem shape _).mpr (hshared table List.mem_cons_self), ?_⟩
    intro rows hrows
    obtain ⟨other, hother, rfl⟩ := List.mem_map.mp hrows
    exact (hmem shape _).mpr (hshared other (List.mem_cons_of_mem table hother))

/-- No shape is returned twice. -/
theorem nodup_chain_codeChain (tables : List Table) :
    (environment.chain (codeChain tables)).Nodup := by
  cases tables with
  | nil => exact List.nodup_nil
  | cons table tables =>
    rw [chain_codeChain]
    apply Environment.nodup_readChain_intersect
    exact (environment.snapshot.nodup_shapes table).map Shape.values_injective

/-- The shapes that tables and a destination share are those of some of its columns. -/
theorem chain_perm_columnsOf (tables : List Table) (into : Table) :
    (environment.chain (codeChain (tables ++ [into]))).Perm
      (((environment.snapshot.columnsOf into).filter fun row =>
        environment.snapshot.IsShared tables row.shape).map (·.shape.values)) := by
  have hnodup : (((environment.snapshot.columnsOf into).filter fun row =>
      environment.snapshot.IsShared tables row.shape).map (·.shape.values)).Nodup := by
    have hshapes := (environment.snapshot.nodup_shapes into).map Shape.values_injective
    rw [List.map_map] at hshapes
    exact (List.filter_sublist.map _).nodup hshapes
  rw [List.perm_ext_iff_of_nodup (nodup_chain_codeChain environment _) hnodup]
  intro values
  rw [mem_chain_codeChain environment (by simp)]
  simp only [List.mem_map, List.mem_filter, decide_eq_true_eq]
  constructor
  · rintro ⟨shape, hshared, rfl⟩
    obtain ⟨row, hrow, rfl⟩ := List.mem_map.mp (hshared into (by simp))
    exact ⟨row, ⟨hrow, fun table htable => hshared table (by simp [htable])⟩, rfl⟩
  · rintro ⟨row, ⟨hrow, hshared⟩, rfl⟩
    refine ⟨row.shape, fun table htable => ?_, rfl⟩
    rcases List.mem_append.mp htable with htable | hinto
    · exact hshared table htable
    · rw [List.mem_singleton.mp hinto]
      exact List.mem_map_of_mem hrow

/-! ## Narrowing -/

/-- The greatest number of a list depends only on its members. -/
theorem max?_congr {codes codes' : List Int} (hmem : ∀ code, code ∈ codes ↔ code ∈ codes') :
    codes.max? = codes'.max? := by
  cases hmax : codes'.max? with
  | none =>
    rw [List.max?_eq_none_iff] at hmax ⊢
    exact List.eq_nil_iff_forall_not_mem.mpr fun code hcode => by simp [hmem, hmax] at hcode
  | some greatest =>
    rw [List.max?_eq_some_iff] at hmax ⊢
    exact ⟨(hmem greatest).mpr hmax.1, fun code hcode => hmax.2 code ((hmem code).mp hcode)⟩

/-- The columns that count for a bound have the text codes of the name in the tables. -/
theorem mem_counted_iff {tables : List Table} {field : Catalog.Field → Constant} {name : String}
    (hname : field (.ofDerived "name") = .text name) (code : Int) :
    code ∈ (environment.counted field ⟨TypeCode.textFamily, tables⟩).map (·.systemCode) ↔
      code ∈ (environment.snapshot.codesNamed tables name).filter TypeCode.textFamily.contains := by
  have hcode (row : ColumnRow) : row.field "system_type_id" = .number row.systemCode := rfl
  have htext (row : ColumnRow) : row.field "name" = .text row.name := rfl
  simp only [Environment.counted, hname, hcode, htext, Constant.equals_text,
    Constant.equals_number, Environment.equals_identifier, List.mem_map, List.mem_filter,
    Bool.and_eq_true, decide_eq_true_eq, List.any_eq_true, Catalog.Snapshot.codesNamed,
    List.mem_flatMap, Catalog.Snapshot.mem_columnsOf, List.contains_eq_mem]
  constructor
  · rintro ⟨row, ⟨hrow, ⟨hsame, other, hother, rfl⟩, table, htable, hobject⟩, rfl⟩
    exact ⟨⟨row, ⟨⟨table, htable, hrow, hobject⟩, hsame⟩, rfl⟩, hother⟩
  · rintro ⟨⟨row, ⟨⟨table, htable, hrow, hobject⟩, hsame⟩, rfl⟩, hfamily⟩
    exact ⟨row, ⟨hrow, ⟨hsame, _, hfamily, rfl⟩, table, htable, hobject⟩, rfl⟩

/-- A code is less than the bound just when a copy into it narrows. -/
theorem isLess_greatest {tables : List Table} {field : Catalog.Field → Constant} {name : String}
    (hname : field (.ofDerived "name") = .text name) (code : Int) :
    (Constant.number code).isLess (environment.greatest field ⟨TypeCode.textFamily, tables⟩) =
      TypeCode.narrows code (environment.snapshot.codesNamed tables name) := by
  rw [Environment.greatest, max?_congr (mem_counted_iff environment hname), TypeCode.narrows]
  cases ((environment.snapshot.codesNamed tables name).filter TypeCode.textFamily.contains).max? <;>
    rfl

/-- The flag of a shared column is set just when a copy narrows it. -/
theorem value_narrowingTerm (tables : List Table) {field : Catalog.Field → Constant}
    {name : String} {code : Int} (hname : field (.ofDerived "name") = .text name)
    (hcode : field (columnField "system_type_id") = .number code) :
    (narrowingTerm tables).value environment field =
      .number (if TypeCode.narrows code (environment.snapshot.codesNamed tables name) then 1
        else 0) := by
  simp only [narrowingTerm, Catalog.Term.value, hcode, isLess_greatest environment hname]
  split <;> rfl

/-! ## Rows of the join -/

/-- The columns of the derived table are called as those of the listing. -/
theorem names_codeChain {tables : List Table} (htables : tables ≠ []) :
    (codeChain tables).names = ["name", "system_type_id", "user_type_id"] := by
  obtain ⟨table, tables, rfl⟩ := List.exists_cons_of_ne_nil htables
  rfl

/-- The row of a column of the destination: its name, and whether a copy narrows it. -/
def sharedValues (tables : List Table) (row : ColumnRow) : List Constant :=
  [.text row.name,
    .number (if TypeCode.narrows row.systemCode
      (environment.snapshot.codesNamed tables row.name) then 1 else 0)]

/-- A shape of a column of the destination is joined to that column alone. -/
theorem joined_shape (tables : List Table) {into : Table} {row : ColumnRow}
    (hrow : row ∈ environment.snapshot.columnsOf into) :
    ((environment.snapshot.columns.filter fun other =>
        environment.joins (sharedSelect tables into)
          (Catalog.joinedFields (sharedSelect tables into).derived.names row.shape.values
            other)).map fun other =>
      environment.returned (sharedSelect tables into).outputs
        (Catalog.joinedFields (sharedSelect tables into).derived.names row.shape.values other)) =
      [sharedValues environment tables row] := by
  have hnames : (sharedSelect tables into).derived.names =
      ["name", "system_type_id", "user_type_id"] := names_codeChain (by simp)
  have hname (other : ColumnRow) : Catalog.joinedFields ["name", "system_type_id", "user_type_id"]
      row.shape.values other (.ofDerived "name") = .text row.name := rfl
  have hfield (other : ColumnRow) (field : String) :
      Catalog.joinedFields ["name", "system_type_id", "user_type_id"] row.shape.values other
        (.ofView .columns field) = other.field field := rfl
  have htext (other : ColumnRow) : other.field "name" = .text other.name := rfl
  have hmatches (other : ColumnRow) :
      environment.joins (sharedSelect tables into)
        (Catalog.joinedFields ["name", "system_type_id", "user_type_id"] row.shape.values other) =
      (decide (other.name = row.name) &&
        decide (environment.snapshot.objectId? into.objectName = some other.object)) := by
    simp [Environment.joins, sharedSelect, columnField, hname, hfield, htext,
      Environment.equals_identifier, eq_comm (b := other.name)]
  have hcolumn := Catalog.Snapshot.filter_name hrow
  rw [Catalog.Snapshot.columnsOf, List.filter_filter] at hcolumn
  simp only [hnames, hmatches, hcolumn, List.map_cons, List.map_nil]
  have hflag := value_narrowingTerm environment tables (hname row) (hfield row "system_type_id")
  simp only [Environment.returned, sharedSelect, sharedOutputs, List.map_cons, List.map_nil, hflag]
  rfl

/-- The rows of the join are those of the columns of the destination whose shapes all tables
share. -/
theorem join_sharedSelect (tables : List Table) (into : Table) :
    (environment.join (sharedSelect tables into)).Perm
      (((environment.snapshot.columnsOf into).filter fun row =>
        environment.snapshot.IsShared tables row.shape).map (sharedValues environment tables)) := by
  have hperm := (chain_perm_columnsOf environment tables into).flatMap_right fun values =>
    (environment.snapshot.columns.filter fun other =>
      environment.joins (sharedSelect tables into)
        (Catalog.joinedFields (sharedSelect tables into).derived.names values other)).map
          fun other =>
            environment.returned (sharedSelect tables into).outputs
              (Catalog.joinedFields (sharedSelect tables into).derived.names values other)
  rw [List.flatMap_map] at hperm
  have hsingle := List.flatMap_congr (l := (environment.snapshot.columnsOf into).filter fun row =>
      environment.snapshot.IsShared tables row.shape) fun row hrow =>
    joined_shape environment tables (List.mem_filter.mp hrow).1
  rw [hsingle, ← List.map_eq_flatMap] at hperm
  exact hperm

end Rows

end SqlScribe.Schema

/-! ## Further queries -/

namespace SqlScribe.Query

mutual

/-- The query without the queries combined with it, at every depth. -/
def withoutOperations : Query → Query
  | ⟨source, target, limit, skip, first, firstOrNone, count, shuffle, items, filter, distinct,
      order, _⟩ =>
    ⟨sourceWithoutOperations source, target, limit, skip, first, firstOrNone, count, shuffle, items,
      filter, distinct, order, []⟩

/-- The source without such queries. -/
def sourceWithoutOperations : Source Query → Source Query
  | .table table => .table table
  | .queries queries => .queries (queriesWithoutOperations queries)

/-- Queries without such queries. -/
def queriesWithoutOperations : List Query → List Query
  | [] => []
  | query :: rest => query.withoutOperations :: queriesWithoutOperations rest

end

mutual

/-- The queries combined with a query do not count for its source tables. -/
theorem sourceTables_withoutOperations :
    ∀ query : Query, query.withoutOperations.sourceTables = query.sourceTables
  | ⟨source, _, _, _, _, _, _, _, _, _, _, _, _⟩ => tablesOfSource_withoutOperations source

/-- The queries combined with those in a source do not count for its tables. -/
theorem tablesOfSource_withoutOperations :
    ∀ source : Source Query, tablesOfSource (sourceWithoutOperations source) = tablesOfSource source
  | .table _ => rfl
  | .queries queries => tablesOfQueries_withoutOperations queries

/-- The queries combined with some queries do not count for their tables. -/
theorem tablesOfQueries_withoutOperations :
    ∀ queries : List Query,
      tablesOfQueries (queriesWithoutOperations queries) = tablesOfQueries queries
  | [] => rfl
  | query :: rest => by
    rw [queriesWithoutOperations, tablesOfQueries, tablesOfQueries,
      sourceTables_withoutOperations query, tablesOfQueries_withoutOperations rest]

end

end SqlScribe.Query

/-! ## Statements -/

namespace SqlScribe.SchemaOperation

open Catalog (Environment)
open Schema (codeChain sharedSelect sharedValues)

/-- The statement for the shared columns of a query returns the shapes that all its source tables
share, each once.  The statement with a destination returns a row for each column of the
destination whose shape they share, with the flag that says whether a copy narrows it.  The queries
combined with a query do not matter. -/
theorem sharedColumns_rows {query : Query} (hsources : query.sourceTables ≠ []) (into : Table)
    (dialect : Dialect) (environment : Environment) :
    ((unionColumns query).statement dialect =
        .ok
          { text := (codeChain query.sourceTables).pieces.spell dialect
            result := .multiple } ∧
      (environment.chain (codeChain query.sourceTables)).Nodup ∧
      ∀ values, values ∈ environment.chain (codeChain query.sourceTables) ↔
        ∃ shape, environment.snapshot.IsShared query.sourceTables shape ∧
          shape.values = values) ∧
    ((sharedColumns query into).statement dialect =
        .ok
          { text := (sharedSelect query.sourceTables into).pieces.spell dialect
            result := .multiple } ∧
      (environment.join (sharedSelect query.sourceTables into)).Perm
        (((environment.snapshot.columnsOf into).filter fun row =>
          environment.snapshot.IsShared query.sourceTables row.shape).map
            (sharedValues environment query.sourceTables))) ∧
    (unionColumns query.withoutOperations).statement dialect =
      (unionColumns query).statement dialect ∧
    (sharedColumns query.withoutOperations into).statement dialect =
      (sharedColumns query into).statement dialect := by
  refine ⟨⟨?_, Schema.nodup_chain_codeChain environment query.sourceTables,
    fun _ => Schema.mem_chain_codeChain environment hsources⟩, ⟨?_,
    Schema.join_sharedSelect environment query.sourceTables into⟩, ?_, ?_⟩
  · rw [statement, pieces, Schema.unionColumns_eq hsources]
    rfl
  · rw [statement, pieces, Schema.sharedColumns_eq hsources]
    rfl
  · simp only [statement, pieces, Schema.unionColumns, Schema.sources,
      query.sourceTables_withoutOperations]
    rfl
  · simp only [statement, pieces, Schema.sharedColumns, Schema.sources,
      query.sourceTables_withoutOperations]
    rfl

/-- Two tables with a name, one of them in Unicode, and a destination that keeps single bytes. -/
def narrowedNames : Environment where
  snapshot :=
    { objectId? := fun name => [("a", 1), ("b", 2), ("c", 3)].lookup name
      columns :=
        [⟨1, "Name", SqlType.varChar.code, SqlType.varChar.code⟩,
         ⟨2, "Name", SqlType.nVarChar.code, SqlType.nVarChar.code⟩,
         ⟨2, "Age", SqlType.int.code, SqlType.int.code⟩,
         ⟨3, "Name", SqlType.varChar.code, SqlType.varChar.code⟩]
      distinct := by decide }
  definition := fun _ => .null
  convert := fun _ value => value

/-- The name is shared, and its copy narrows it. -/
theorem sharedColumns_rows_narrowedNames :
    (Query.union [⟨"a", none⟩, ⟨"b", none⟩]).sourceTables ≠ [] ∧
      (narrowedNames.join (sharedSelect [⟨"a", none⟩, ⟨"b", none⟩] ⟨"c", none⟩)).Perm
        [[.text "Name", .number 1]] := by
  have hsources : (Query.union [⟨"a", none⟩, ⟨"b", none⟩]).sourceTables ≠ [] := by simp
  obtain ⟨-, ⟨-, hrows⟩, -⟩ :=
    sharedColumns_rows hsources ⟨"c", none⟩ .sqlServer narrowedNames
  exact ⟨hsources, hrows⟩

end SqlScribe.SchemaOperation
