import SqlScribe.Query.Document
import SqlScribe.Proofs.Documents.Expressions

/-!
# Queries read back

A query is written with the parts that it has and read with the parts that it lacks supplied, and
the queries inside it are written and read in the same way.

Main definitions:

- `Query.values` lists the constants inside a query, those of the queries inside it included.

Main results:

- `Query.readAs_toJson`: queries are read back at every depth that their documents have room in.
- `ofJson?_toJson_of_allFinite`: documents of every kind are read back, however deep they are, if
  their floating-point numbers are finite.  The limits of their texts are those of `Json.ofText?`.
-/

namespace SqlScribe

/-! ## Parts of a query -/

namespace Record

variable {α : Type} {record : Record} {name : String} {read : Json → Option α}

/-- What is read for a field that may be absent, by what is written for it. -/
def orDefault (default : α) (read : Json → Option α) : Option Json → Option α
  | some document => read document
  | none => some default

theorem orDefault_some (default : α) (document : Json) :
    orDefault default read (some document) = read document := rfl

/-- A field with a default is read by whether something is written for it. -/
theorem defaulted?_eq_orDefault (default : α) :
    record.defaulted? name default read = orDefault default read (record.field? name) := by
  unfold defaulted? orDefault
  cases record.field? name <;> rfl

/-- What is written for a list: nothing if it is empty. -/
def presentList (documents : List Json) : Option Json :=
  if documents.isEmpty then none else some (.array documents)

/-- A list is found under its own name, if it is written at all. -/
theorem field?_listMember (other : String) (documents : List Json) :
    field? ⟨Query.listMember other documents⟩ name =
      if name = other then presentList documents else none := by
  cases documents <;> simp [Query.listMember, presentList]

/-- A list that is written only if it is not empty is read back. -/
theorem orDefault_presentList {documents : List Json} {items : List α}
    (hread : Json.listOf? read (.array documents) = some items) :
    orDefault [] (Json.listOf? read) (presentList documents) = some items := by
  cases documents with
  | nil => exact hread
  | cons document rest => exact hread

end Record

/-- The names of a list that may be left out are its name at most. -/
theorem Query.listMember_sublist (name : String) (documents : List Json) :
    ((listMember name documents).map Prod.fst).Sublist [name] := by
  cases documents <;> simp [listMember]

/-- A returned expression is read back from its document. -/
theorem SelectItem.ofJson?_toJson {item : SelectItem}
    (hfinite : Value.AllFinite item.expr.values) : ofJson? item.toJson = some item := by
  obtain ⟨expr, label⟩ := item
  have hlabel : Record.taken Json.text? (label.map .text) = some label :=
    Record.taken_map (by simp)
  rw [ofJson?, toJson, Json.record?_object, Option.bind_eq_bind, Option.bind_some]
  case hnames => simp
  case hmembers =>
    rw [List.map_cons]
    exact (Column.presentMember_sublist _ _ label).cons_cons "projection"
  simp [Record.required?, Expr.ofJson?_toJson hfinite, hlabel]

/-- An ordering expression is read back from its document. -/
theorem SortKey.ofJson?_toJson {key : SortKey} (hfinite : Value.AllFinite key.expr.values) :
    ofJson? key.toJson = some key := by
  rw [ofJson?, toJson, Json.record?_object, Option.bind_eq_bind, Option.bind_some]
  case hnames => simp
  case hmembers => simp
  simp [Record.required?, Record.defaulted?, Expr.ofJson?_toJson hfinite]

/-- A unit of limits is read back from its document. -/
@[simp] theorem LimitUnit.ofJson?_toJson (unit : LimitUnit) : ofJson? unit.toJson = some unit := by
  cases unit <;> rfl

/-- A limit is never written as null. -/
theorem RowLimit.toJson_ne_null (limit : RowLimit) : limit.toJson ≠ .null := by
  simp [toJson]

/-- A limit is read back from its document. -/
@[simp] theorem RowLimit.ofJson?_toJson (limit : RowLimit) : ofJson? limit.toJson = some limit := by
  rw [ofJson?, toJson, Json.record?_object, Option.bind_eq_bind, Option.bind_some]
  case hnames => simp
  case hmembers => simp
  simp [Record.required?, Record.defaulted?]

/-- A table is never written as null. -/
theorem Table.toJson_ne_null (table : Table) : table.toJson ≠ .null := by
  simp [toJson]

/-- A target is read back from its document. -/
@[simp] theorem Target.ofJson?_toJson (target : Target) : ofJson? target.toJson = some target := by
  cases target with
  | caller => rfl
  | table table => simp [toJson, ofJson?, Json.name?_payload _ table.toJson_ne_null, Json.variant?]

/-- A set operator is read back from its document. -/
@[simp] theorem SetOperator.ofJson?_toJson (operator : SetOperator) :
    ofJson? operator.toJson = some operator := by
  cases operator <;> rfl

namespace Query

mutual

/-- The constants inside a query, those of the queries inside it included. -/
def values : Query → List Value
  | ⟨source, _, _, _, _, _, _, _, items, filter, distinct, order, operations⟩ =>
    sourceValues source ++ (items.flatMap (·.expr.values) ++
      (filter.toList.flatMap Condition.values ++ (distinct.flatMap Expr.values ++
        (order.flatMap (·.expr.values) ++ operationsValues operations))))

/-- The constants inside a source. -/
def sourceValues : Source Query → List Value
  | .table _ => []
  | .queries queries => listValues queries

/-- The constants inside several queries. -/
def listValues : List Query → List Value
  | [] => []
  | query :: rest => query.values ++ listValues rest

/-- The constants inside several set operations. -/
def operationsValues : List (SetOperation Query) → List Value
  | [] => []
  | ⟨_, query⟩ :: rest => query.values ++ operationsValues rest

end

/-- A set operation is read if its query is. -/
theorem readAs_operation {operator : SetOperator} {query : Query}
    (hquery : Json.ReadAs readWithin? query.toJson query) :
    Json.ReadAs (fun depth => operationOf? (readWithin? depth))
      (.object [("operation", operator.toJson), ("select", query.toJson)]) ⟨operator, query⟩ := by
  intro depth hdepth
  simp only [Json.depth_object, Json.depthOfMembers_cons] at hdepth
  have hread := hquery depth (by omega)
  show operationOf? (readWithin? depth) _ = _
  rw [operationOf?, Json.record?_object, Option.bind_eq_bind, Option.bind_some]
  case hnames => simp
  case hmembers => simp
  simp [Record.required?, hread]

/-- A query is read if its source and its further queries are. -/
theorem recordOf?_toJson {query : Query} {read : Json → Option Query}
    (hfinite : Value.AllFinite query.values)
    (hsource : sourceOf? read (sourceToJson query.source) = some query.source)
    (hoperations : Json.listOf? (operationOf? read) (.array (operationsToJson query.operations)) =
      some query.operations) :
    recordOf? read query.toJson = some query := by
  obtain ⟨source, target, limit, skip, first, firstOrNone, count, shuffle, items, filter, distinct,
    order, operations⟩ := query
  simp only [values, Value.allFinite_append, Value.allFinite_flatMap] at hfinite
  obtain ⟨-, hitems, hfilter, hdistinct, horder, -⟩ := hfinite
  have hlimit : Record.taken RowLimit.ofJson? (limit.map RowLimit.toJson) = some limit :=
    Record.taken_map fun part _ => ⟨part.toJson_ne_null, part.ofJson?_toJson⟩
  have hcondition : Record.taken Condition.ofJson? (filter.map Condition.toJson) = some filter :=
    Record.taken_map fun part hpart =>
      ⟨part.toJson_ne_null, Condition.ofJson?_toJson (hfilter part (Option.mem_toList.mpr hpart))⟩
  have hcolumns := Record.orDefault_presentList
    (Json.listOf?_map fun item hitem => SelectItem.ofJson?_toJson (hitems item hitem))
  have hexprs := Record.orDefault_presentList
    (Json.listOf?_map fun expr hexpr => Expr.ofJson?_toJson (hdistinct expr hexpr))
  have hkeys := Record.orDefault_presentList
    (Json.listOf?_map fun key hkey => SortKey.ofJson?_toJson (horder key hkey))
  have hfurther := Record.orDefault_presentList hoperations
  rw [recordOf?, toJson, Json.record?_object, Option.bind_eq_bind, Option.bind_some]
  case hnames => simp
  case hmembers =>
    simp only [List.map_append]
    exact (((((((List.Sublist.refl ["source", "target"]).append
      (Column.presentMember_sublist _ _ limit)).append
      (List.Sublist.refl ["start", "first", "first_or_default", "count", "randomize"])).append
      (listMember_sublist _ _)).append (Column.presentMember_sublist _ _ filter)).append
      (listMember_sublist _ _)).append (listMember_sublist _ _)).append (listMember_sublist _ _)
  simp only [Record.required?, Record.optional?_eq_taken, Record.defaulted?_eq_orDefault,
    Record.field?_append, ↓Record.field?_cons, Record.field?_nil, Record.field?_presentMember,
    Record.field?_listMember, ↓reduceIte, String.reduceEq, Option.or_none, Option.none_or,
    hsource, hlimit, hcondition, hcolumns, hexprs, hkeys, hfurther, Record.orDefault_some,
    Json.uint32?_int, Json.bool?_bool, Target.ofJson?_toJson]
  rfl

/-- The documents of the source and of the further queries are less deep than that of the query. -/
theorem depth_parts_lt (query : Query) :
    (sourceToJson query.source).depth < query.toJson.depth ∧
      (Json.array (operationsToJson query.operations)).depth < query.toJson.depth := by
  obtain ⟨source, target, limit, skip, first, firstOrNone, count, shuffle, items, filter, distinct,
    order, operations⟩ := query
  rw [toJson]
  refine ⟨Json.depth_lt_of_mem "source" (by simp), ?_⟩
  -- An empty list is not written, but the source that is written is as deep as it.
  cases hlist : operationsToJson operations with
  | nil =>
    have hpos : (Json.array []).depth ≤ (sourceToJson source).depth := by
      simpa [Nat.one_le_iff_ne_zero, Nat.pos_iff_ne_zero] using (sourceToJson source).depth_pos
    exact hpos.trans_lt (Json.depth_lt_of_mem "source" (by simp))
  | cons document rest =>
    exact Json.depth_lt_of_mem "set_operations" (by simp [listMember])

/-- A query is read if its source and its further queries are, at what is left for them. -/
theorem readAs_of_parts {query : Query} (hfinite : Value.AllFinite query.values)
    (hsource : Json.ReadAs (fun depth => sourceOf? (readWithin? depth))
      (sourceToJson query.source) query.source)
    (hoperations : Json.ReadAs (fun depth => Json.listOf? (operationOf? (readWithin? depth)))
      (.array (operationsToJson query.operations)) query.operations) :
    Json.ReadAs readWithin? query.toJson query := by
  obtain ⟨hroom, hroom'⟩ := query.depth_parts_lt
  refine Json.readAs_of_succ fun depth hdepth => ?_
  exact recordOf?_toJson hfinite (hsource depth (by omega)) (hoperations depth (by omega))

/-- A table is read as a source at any depth. -/
theorem readAs_table (table : Table) :
    Json.ReadAs (fun depth => sourceOf? (readWithin? depth)) (sourceToJson (.table table))
      (.table table) := by
  intro depth _
  simp [sourceToJson, sourceOf?, Json.variant?]

/-- Queries are read as a source at what is left for their list. -/
theorem readAs_queries {queries : List Query}
    (hqueries : Json.ReadAs (fun depth => Json.listOf? (readWithin? depth))
      (.array (listToJson queries)) queries) :
    Json.ReadAs (fun depth => sourceOf? (readWithin? depth)) (sourceToJson (.queries queries))
      (.queries queries) := by
  intro depth hdepth
  rw [sourceToJson] at hdepth ⊢
  simp only [Json.depth_object, Json.depthOfMembers_cons] at hdepth
  have hread : Json.listOf? (readWithin? depth) (.array (listToJson queries)) = some queries :=
    hqueries depth (by omega)
  simp [sourceOf?, Json.variant?, hread]

mutual

/-- The document of a query is read as the query. -/
theorem readAs_toJson : ∀ query : Query, Value.AllFinite query.values →
    Json.ReadAs readWithin? query.toJson query
  | ⟨source, _, _, _, _, _, _, _, _, _, _, _, operations⟩, hfinite => by
    have hparts := hfinite
    simp only [values, Value.allFinite_append] at hparts
    exact readAs_of_parts hfinite (readAs_sourceToJson source hparts.1)
      (readAs_operationsToJson operations hparts.2.2.2.2.2)

/-- The document of a source is read as the source. -/
theorem readAs_sourceToJson : ∀ source : Source Query, Value.AllFinite (sourceValues source) →
    Json.ReadAs (fun depth => sourceOf? (readWithin? depth)) (sourceToJson source) source
  | .table table, _ => readAs_table table
  | .queries queries, hfinite => by
    rw [sourceValues] at hfinite
    exact readAs_queries (readAs_listToJson queries hfinite)

/-- The documents of several queries are read as these queries. -/
theorem readAs_listToJson : ∀ queries : List Query, Value.AllFinite (listValues queries) →
    Json.ReadAs (fun depth => Json.listOf? (readWithin? depth)) (.array (listToJson queries))
      queries
  | [], _ => Json.readAs_nil _
  | query :: rest, hfinite => by
    rw [listValues, Value.allFinite_append] at hfinite
    exact Json.readAs_cons (readAs_toJson query hfinite.1) (readAs_listToJson rest hfinite.2)

/-- The documents of several set operations are read as these operations. -/
theorem readAs_operationsToJson : ∀ operations : List (SetOperation Query),
    Value.AllFinite (operationsValues operations) →
    Json.ReadAs (fun depth => Json.listOf? (operationOf? (readWithin? depth)))
      (.array (operationsToJson operations)) operations
  | [], _ => Json.readAs_nil _
  | ⟨operator, query⟩ :: rest, hfinite => by
    rw [operationsValues, Value.allFinite_append] at hfinite
    exact Json.readAs_cons (readAs_operation (readAs_toJson query hfinite.1))
      (readAs_operationsToJson rest hfinite.2)

end

/-- A query without numbers that are not finite is read back from its document. -/
theorem ofJson?_toJson {query : Query} (hfinite : Value.AllFinite query.values) :
    ofJson? query.toJson = some query :=
  query.readAs_toJson hfinite _ le_rfl

end Query

/-! ## Documents of every kind -/

/-- Documents of every kind are read back, however deep they are, if none of their constants is a
number that is not finite.

This is a statement about documents and not about their texts.  A text that `Json.pretty` prints
is read by `Json.ofText?`, which takes what is nested deeper than `Json.greatestNesting` for
unreadable and rounds a number with a fraction in the two steps of `Binary64.ofSteps`. -/
theorem ofJson?_toJson_of_allFinite :
    (∀ query : Query, Value.AllFinite query.values →
      Query.ofJson? query.toJson = some query) ∧
    (∀ condition : Condition, Value.AllFinite condition.values →
      Condition.ofJson? condition.toJson = some condition) ∧
    (∀ expr : Expr, Value.AllFinite expr.values → Expr.ofJson? expr.toJson = some expr) ∧
    (∀ column : Column, Value.AllFinite column.values →
      Column.ofJson? column.toJson = some column) ∧
    (∀ statement : Statement, Value.AllFinite statement.values →
      Statement.ofJson? statement.toJson = some statement) ∧
    (∀ index : Index, Index.ofJson? index.toJson = some index) ∧
    (∀ table : Table, Table.ofJson? table.toJson = some table) ∧
    (∀ row : CatalogColumn, CatalogColumn.ofJson? row.toJson = some row) ∧
    (∀ row : CatalogIndexKey, CatalogIndexKey.ofJson? row.toJson = some row) ∧
    (∀ row : UnionColumn, UnionColumn.ofJson? row.toJson = some row) ∧
    (∀ row : SharedColumn, SharedColumn.ofJson? row.toJson = some row) :=
  ⟨fun _ => Query.ofJson?_toJson, fun _ => Condition.ofJson?_toJson, fun _ => Expr.ofJson?_toJson,
    fun _ => Column.ofJson?_toJson, fun _ => Statement.ofJson?_toJson, Index.ofJson?_toJson,
    Table.ofJson?_toJson, CatalogColumn.ofJson?_toJson, CatalogIndexKey.ofJson?_toJson,
    UnionColumn.ofJson?_toJson, SharedColumn.ofJson?_toJson⟩

/-- An expression with an absent option, a list and constants inside. -/
def reportExpr : Expr :=
  .coalesce [.substring (.trim (.field "City")) (.value (.int 0)) none,
    .value (.float ⟨0xbff8000000000000⟩), .value .null]

/-- A condition with tests, connectives and a comparison inside. -/
def reportCondition : Condition :=
  .or (.not (.holds (.search .finish (.field "Name") (.value (.text "]'")))))
    (.and (.compare .less reportExpr (.value (.bool true)))
      (.holds (.among (.field "Id") [.value (.guid ⟨0x1f⟩), .value (.blob [0, 255])])))

/-- A query over queries, into a table, with further queries of its own. -/
def reportQuery : Query where
  source := .queries [.ofTable ⟨"Orders", some "sales"⟩,
    (Query.ofQueries [.ofTable ⟨"Archive", none⟩]).filtered reportCondition]
  target := .table ⟨"Report", none⟩
  limit := some ⟨10, .percent⟩
  items := [⟨reportExpr, some "Place"⟩, ⟨.field "Id", none⟩]
  order := [⟨.field "Id", .descending⟩]
  operations := [⟨.except, (Query.ofTable ⟨"Closed", none⟩).filtered reportCondition⟩]

/-- A column with a default, some of whose parts are absent. -/
def reportColumn : Column :=
  { Column.stored "Rate" (.sql .float) with
    precision := some 24, default := some (.value (.float ⟨0x3fe0000000000000⟩)) }

/-- A statement with a bound value. -/
def reportStatement : Statement where
  text := "SELECT @p0"
  parameters := [⟨"@p0", .float ⟨0x8000000000000000⟩⟩]
  result := .single true

/-- The hypotheses hold of documents with numbers, absent parts and queries inside queries. -/
theorem ofJson?_toJson_of_allFinite_report :
    (Value.AllFinite reportQuery.values ∧
      Query.ofJson? reportQuery.toJson = some reportQuery) ∧
    (Value.AllFinite reportCondition.values ∧
      Condition.ofJson? reportCondition.toJson = some reportCondition) ∧
    (Value.AllFinite reportExpr.values ∧
      Expr.ofJson? reportExpr.toJson = some reportExpr) ∧
    (Value.AllFinite reportColumn.values ∧
      Column.ofJson? reportColumn.toJson = some reportColumn) ∧
    (Value.AllFinite reportStatement.values ∧
      Statement.ofJson? reportStatement.toJson = some reportStatement) := by
  obtain ⟨hqueries, hconditions, hexprs, hcolumns, hstatements, -⟩ := ofJson?_toJson_of_allFinite
  have hquery : Value.AllFinite reportQuery.values := by decide
  have hcondition : Value.AllFinite reportCondition.values := by decide
  have hexpr : Value.AllFinite reportExpr.values := by decide
  have hcolumn : Value.AllFinite reportColumn.values := by decide
  have hstatement : Value.AllFinite reportStatement.values := by decide
  exact ⟨⟨hquery, hqueries _ hquery⟩, ⟨hcondition, hconditions _ hcondition⟩,
    ⟨hexpr, hexprs _ hexpr⟩, ⟨hcolumn, hcolumns _ hcolumn⟩,
    ⟨hstatement, hstatements _ hstatement⟩⟩

end SqlScribe
