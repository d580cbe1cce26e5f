import SqlScribe.Proofs.Rendering.Acceptance
import SqlScribe.Proofs.Rendering.NodeParts
import SqlScribe.Query.Statement

/-!
# Queries that render

A query renders if its nodes agree with themselves, and not otherwise: every check is
made in every place where it matters and nowhere else.

Main definitions:

- `Query.Agrees` says that the parts of a node fit each other, `Query.SortsDistinct`
  that the ordering it keeps fits its distinct rows, and `Query.Fits` that besides its
  expressions render.
- `Query.Copyable` says that the columns of a copy have names.

Main results:

- `Query.statement_isOk_iff`: exactly the queries with these properties render.
-/

namespace SqlScribe.Query

open Binding Sql

/-! ## Properties of nodes -/

/-- The parts of a node fit each other. -/
structure Agrees (node : Query) : Prop where
  skip : 0 < node.skip → node.order ≠ [] ∧ ∀ limit ∈ node.limit, limit.unit ≠ .percent
  percent : ∀ limit ∈ node.limit, limit.unit = .percent → limit.amount ≤ 100
  first : ¬(node.first = true ∧ node.firstOrNone = true)
  shuffle : ¬(node.shuffle = true ∧ node.order ≠ [])
  /-- Returned columns are the distinct ones, if there are both. -/
  distinct : node.items ≠ [] → node.distinct ≠ [] →
    Expr.sameList (node.items.map (·.expr)) node.distinct = true
  /-- A list of source queries names one at least, and none that copies. -/
  source : ∀ queries, node.source = .queries queries →
    queries ≠ [] ∧ ∀ query ∈ queries, query.target = .caller

/-- Distinct rows are ordered by what makes them distinct, where the ordering is kept. -/
def SortsDistinct (whole : Bool) (node : Query) : Prop :=
  node.keepsOrder whole = true → node.distinct ≠ [] →
    node.shuffle = false ∧ ∀ key ∈ node.order, ∃ expr ∈ node.distinct, expr.same key.expr = true

/-- A node has these properties in its place. -/
structure Fits (whole : Bool) (node : Query) : Prop where
  agrees : node.Agrees
  sortsDistinct : node.SortsDistinct whole
  rendersOnly : node.RendersOnly Expr.isValue Condition.isValid whole

/-- The rows of a query may go to its target: copied rows are not counted, and every
copied column has a name. -/
def Copyable (query : Query) : Prop :=
  query.target ≠ .caller → query.count = false ∧
    (query.items ≠ [] → ∀ item ∈ query.items, item.outputName? ≠ none) ∧
    (query.items = [] → ∀ expr ∈ query.distinct, ∃ name, expr = .field name)

/-! ## Checks -/

theorem hasOrder_iff (query : Query) : query.hasOrder = true ↔ query.order ≠ [] := by
  simp [hasOrder]

theorem hasItems_iff (query : Query) : query.hasItems = true ↔ query.items ≠ [] := by
  simp [hasItems]

theorem hasDistinct_iff (query : Query) : query.hasDistinct = true ↔ query.distinct ≠ [] := by
  simp [hasDistinct]

theorem hasSkip_iff (query : Query) : query.hasSkip = true ↔ 0 < query.skip := by
  simp [hasSkip]

theorem hasPercent_eq_false_iff (query : Query) :
    query.hasPercent = false ↔ ∀ limit ∈ query.limit, limit.unit ≠ .percent := by
  cases hlimit : query.limit <;> simp [hasPercent, hlimit]

theorem isCopy_eq_false_iff (query : Query) : query.isCopy = false ↔ query.target = .caller := by
  simp [isCopy]

/-- A source is consistent unless it is an empty list of queries or one of them copies. -/
theorem consistentSource_eq_ok_iff (query : Query) :
    query.consistentSource = .ok () ↔ ∀ queries, query.source = .queries queries →
      queries ≠ [] ∧ ∀ query ∈ queries, query.target = .caller := by
  unfold consistentSource
  cases hsource : query.source with
  | table table => simp
  | queries queries =>
    simp only [Source.queries.injEq, forall_eq']
    cases hempty : queries.isEmpty with
    | true => simp_all
    | false =>
      have hne : queries ≠ [] := by simpa using hempty
      cases hany : queries.any isCopy with
      | true =>
        obtain ⟨copying, hmem, hcopy⟩ := List.any_eq_true.mp hany
        have htarget : copying.target ≠ .caller := by simpa [isCopy] using hcopy
        simp only [Bool.false_eq_true, if_false, if_true, reduceCtorEq, false_iff]
        rintro ⟨-, hnone⟩
        exact htarget (hnone copying hmem)
      | false =>
        have hnone : ∀ query ∈ queries, query.target = .caller := fun query hmem =>
          (isCopy_eq_false_iff query).mp (by simpa using List.any_eq_false.mp hany query hmem)
        simpa [hne] using hnone

/-- A limit passes the check unless it is more than a hundred percent. -/
theorem limit_filter_eq_none_iff (limit : Option RowLimit) :
    (limit.filter fun limit => limit.unit = .percent && 100 < limit.amount) = none ↔
      ∀ x ∈ limit, x.unit = .percent → x.amount ≤ 100 := by
  cases limit with
  | none => simp
  | some limit => simp [Option.filter]

/-- Exactly the nodes whose parts fit each other are consistent. -/
theorem consistent_iff_agrees (query : Query) : query.consistent = .ok () ↔ query.Agrees := by
  rw [consistent_eq_ok_iff, hasSkip_iff, hasOrder_iff, hasDistinct_iff, hasItems_iff,
    hasPercent_eq_false_iff, limit_filter_eq_none_iff, consistentSource_eq_ok_iff]
  constructor
  · rintro ⟨hskip, hpercent, hfirst, hshuffle, hdistinct, hsource⟩
    refine ⟨hskip, hpercent, ?_, ?_, fun hitems hkeys => hdistinct hkeys hitems, hsource⟩
    · rintro ⟨honce, hagain⟩
      simp [hfirst honce] at hagain
    · rintro ⟨hrandom, horder⟩
      have hnone := hshuffle hrandom
      rw [Bool.eq_false_iff, ne_eq, hasOrder_iff] at hnone
      exact hnone horder
  · intro h
    refine ⟨h.skip, h.percent, ?_, ?_, fun hkeys hitems => h.distinct hitems hkeys, h.source⟩
    · intro hfirst
      exact Bool.eq_false_iff.mpr fun hagain => h.first ⟨hfirst, hagain⟩
    · intro hshuffle
      rw [Bool.eq_false_iff, ne_eq, hasOrder_iff]
      exact fun horder => h.shuffle ⟨hshuffle, horder⟩

/-- The listing of a node is checked as the node itself where it keeps its ordering, and
not at all elsewhere. -/
theorem distinctOrder_listing_iff (whole : Bool) (query : Query) :
    (query.listing whole).distinctOrder = .ok () ↔ query.SortsDistinct whole := by
  rw [distinctOrder_eq_ok_iff, hasDistinct_listing, hasDistinct_iff, shuffle_listing,
    order_listing, distinct_listing, SortsDistinct]
  cases query.keepsOrder whole <;> simp

/-- All checks of a list succeed if each of them does. -/
theorem mapM_isOk_iff {α β : Type} (check : α → Except RenderError β) (list : List α) :
    (∃ results, list.mapM check = .ok results) ↔ ∀ a ∈ list, ∃ result, check a = .ok result := by
  induction list with
  | nil => simp [pure, Except.pure]
  | cons a rest ih =>
    rw [List.mapM_cons, List.forall_mem_cons, ← ih]
    cases check a with
    | error reason => simp [Bind.bind, Except.bind]
    | ok result =>
      cases rest.mapM check <;> simp [Bind.bind, Except.bind, pure, Except.pure]

/-- Exactly the columns with names can be copied. -/
theorem copiedColumns_isOk_iff (query : Query) :
    (∃ columns, query.copiedColumns = .ok columns) ↔
      (query.items ≠ [] → ∀ item ∈ query.items, item.outputName? ≠ none) ∧
        (query.items = [] → ∀ expr ∈ query.distinct, ∃ name, expr = .field name) := by
  have hitem : ∀ item : SelectItem,
      (∃ name, copiedItem item = .ok name) ↔ item.outputName? ≠ none := by
    intro item
    unfold copiedItem
    cases item.outputName? <;> simp
  have hkey : ∀ expr : Expr,
      (∃ name, copiedKey expr = .ok name) ↔ ∃ name, expr = .field name := by
    intro expr
    cases expr <;> simp [copiedKey]
  unfold copiedColumns
  by_cases hitems : query.items = []
  · have hnone : ¬query.hasItems = true := by simp [hasItems, hitems]
    rw [if_neg hnone]
    by_cases hdistinct : query.distinct = []
    · simp [hasDistinct, hdistinct, hitems]
    · rw [if_pos ((hasDistinct_iff query).mpr hdistinct), mapM_isOk_iff]
      simp only [hkey, hitems, ne_eq, not_true_eq_false, false_implies, true_implies, true_and]
  · rw [if_pos ((hasItems_iff query).mpr hitems), mapM_isOk_iff]
    simp only [hitem, hitems, ne_eq, not_false_eq_true, true_implies, false_implies, and_true]

/-! ## Nodes over a given source -/

/-- A returned expression is accepted if it is a value. -/
theorem accepts_renderItem (item : SelectItem) :
    Accepts (item.expr.isValue = true) (renderItem item) :=
  item.expr.accepts_scalar.map fun scalar => (scalar, item.label)

/-- An ordering expression is accepted if it is a value. -/
theorem accepts_renderKey (key : SortKey) : Accepts (key.expr.isValue = true) (renderKey key) :=
  key.expr.accepts_scalar.map fun scalar => (scalar, key.direction)

/-- What a query returns is accepted if all of it are values. -/
theorem accepts_selectList (query : Query) :
    Accepts (∀ expr ∈ query.listedExprs, expr.isValue = true) query.selectList := by
  unfold selectList listedExprs
  split
  · have hitems := (accepts_mapM accepts_renderItem query.items).map SelectList.items
    exact hitems.congr (by simp)
  · split
    · have hkeys := accepts_mapM (fun expr => accepts_renderItem ⟨expr, none⟩) query.distinct
      exact hkeys.map SelectList.items
    · rename_i hdistinct
      have hnone : query.distinct = [] := by simpa [hasDistinct] using hdistinct
      exact (accepts_pure _).congr (by simp [hnone])

/-- The condition of a query is accepted if it is valid. -/
theorem accepts_condition (query : Query) :
    Accepts (∀ condition ∈ query.filter, condition.isValid = true) query.condition :=
  accepts_optional Condition.accepts_predicate query.filter

/-- The ordering of a query is accepted if it is by values. -/
theorem accepts_ordering (query : Query) :
    Accepts (∀ expr ∈ if query.shuffle then [] else query.order.map (·.expr), expr.isValue = true)
      query.ordering := by
  unfold ordering
  split
  · exact (accepts_pure _).congr (by simp)
  · split
    · exact ((accepts_mapM accepts_renderKey query.order).map Ordering.keys).congr (by simp)
    · rename_i horder
      have hnone : query.order = [] := by simpa [hasOrder] using horder
      exact (accepts_pure _).congr (by simp [hnone])

/-- The listed rows of a query are accepted if its parts and what it reads are. -/
theorem accepts_rows (query : Query) {relation : Binding (Relation Select)} {p : Prop}
    (hrelation : Accepts p relation) :
    Accepts (query.distinctOrder = .ok () ∧ (∀ expr ∈ query.listedExprs, expr.isValue = true) ∧
        p ∧ (∀ condition ∈ query.filter, condition.isValid = true) ∧
        ∀ expr ∈ if query.shuffle then [] else query.order.map (·.expr), expr.isValue = true)
      (query.rows relation) := by
  apply (accepts_check query.distinctOrder).seq
  intro _
  apply query.accepts_selectList.seq
  intro columns
  apply hrelation.seq
  intro relation
  apply query.accepts_condition.seq
  intro condition
  exact query.accepts_ordering.map _

/-- A node is rendered exactly if it fits and its source is rendered. -/
theorem accepts_nodeOver (whole : Bool) (query : Query) {relation : Binding (Relation Select)}
    {p : Prop} (hrelation : Accepts p relation) :
    Accepts (query.Fits whole ∧ p) (query.nodeOver whole relation) := by
  have hselect : Accepts (query.SortsDistinct whole ∧
      query.RendersOnly Expr.isValue Condition.isValid whole ∧ p)
      ((query.placed whole).selectOver relation) := by
    rw [selectOver_placed]
    cases hrows : query.keepsRows with
    | true =>
      apply (((query.listing whole).accepts_rows hrelation).map _).congr
      rw [distinctOrder_listing_iff, ← orderingExprs_eq, RendersOnly, returnedExprs,
        if_pos hrows, List.forall_mem_append, listedExprs_listing, filter_listing]
      constructor
      · rintro ⟨hsorts, hlisted, hp, hcondition, hordering⟩
        exact ⟨hsorts, ⟨⟨hlisted, hordering⟩, hcondition⟩, hp⟩
      · rintro ⟨hsorts, ⟨⟨hlisted, hordering⟩, hcondition⟩, hp⟩
        exact ⟨hsorts, hlisted, hp, hcondition, hordering⟩
    | false =>
      have hsteps := hrelation.seq fun relation => query.accepts_condition.map fun condition =>
        ({ columns := .count, relation, condition } : Select)
      apply hsteps.congr
      obtain ⟨hreturned, hordering⟩ := exprs_of_not_keepsRows whole hrows
      have hkeeps := keepsOrder_of_not_keepsRows whole hrows
      simp [SortsDistinct, RendersOnly, hreturned, hordering, hkeeps, and_comm]
  apply ((accepts_check query.consistent).seq fun _ => hselect).congr
  rw [consistent_iff_agrees]
  constructor
  · rintro ⟨hagrees, hsorts, hrenders, hp⟩
    exact ⟨⟨hagrees, hsorts, hrenders⟩, hp⟩
  · rintro ⟨hfits, hp⟩
    exact ⟨hfits.agrees, hfits.sortsDistinct, hfits.rendersOnly, hp⟩

/-- An operand is accepted if it fits its place and what it reads is accepted. -/
theorem accepts_operandOver (query : Query) {relation : Binding (Relation Select)} {p : Prop}
    (hrelation : Accepts p relation) :
    Accepts (query.Fits false ∧ p) (query.operandOver relation) := by
  unfold operandOver
  rw [innerOver_eq]
  exact (query.accepts_nodeOver false hrelation).map _

/-! ## Sources -/

/-- What a node asks of the queries that it reads: there are some, and all of them and
the nodes inside them fit. -/
def SourceFits (source : Source Query) : Prop :=
  (∀ queries, source = .queries queries → queries ≠ []) ∧
    ∀ node ∈ nodesOfSource source, node.Fits false

/-- A node fits with what it reads exactly if it and all nodes inside it fit: a node that
fits reads some query. -/
theorem fits_over_iff (whole : Bool) (query : Query) :
    (query.Fits whole ∧
        SourceFits query.source ∧ ∀ node ∈ nodesOfOperations query.operations, node.Fits false) ↔
      query.Fits whole ∧ ∀ node ∈ query.inside, node.Fits false := by
  rw [inside, List.forall_mem_append, SourceFits]
  constructor
  · rintro ⟨hfits, ⟨-, hsource⟩, hoperations⟩
    exact ⟨hfits, hsource, hoperations⟩
  · rintro ⟨hfits, hsource, hoperations⟩
    have hsome := fun queries hqueries => (hfits.agrees.source queries hqueries).1
    exact ⟨hfits, ⟨hsome, hsource⟩, hoperations⟩

/-- A query is accepted if it fits its place and the nodes inside it fit theirs. -/
theorem accepts_query {query : Query} {step : Binding Select}
    (hstep : Accepts (query.Fits false ∧ SourceFits query.source ∧
      ∀ node ∈ nodesOfOperations query.operations, node.Fits false) step) :
    Accepts (∀ node ∈ query.nodes, node.Fits false) step := by
  apply hstep.congr
  rw [fits_over_iff, forall_mem_nodes_iff]

mutual

/-- What a query reads is rendered exactly if all nodes inside it fit. -/
theorem accepts_relation : ∀ query : Query,
    Accepts (SourceFits query.source ∧
      ∀ node ∈ nodesOfOperations query.operations, node.Fits false) query.relation
  | ⟨source, _, _, _, _, _, _, _, _, _, _, _, operations⟩ =>
    (accepts_sourceRelation source).seq fun base =>
      (accepts_operationLinks operations).map (chained base)

/-- A source is accepted if its nodes fit. -/
theorem accepts_sourceRelation : ∀ source : Source Query,
    Accepts (SourceFits source) (sourceRelation source)
  | .table table => (accepts_pure _).congr (by simp [SourceFits, nodesOfSource])
  | .queries [] => (accepts_fail _).congr (by simp [SourceFits])
  | .queries [query] => by
    have hquery := accepts_query (query.accepts_nodeOver false (accepts_relation query))
    apply (hquery.map fun select => Relation.derived ⟨select, []⟩).congr
    simp [SourceFits, nodesOfSource, nodesOfQueries]
  | .queries (query :: next :: rest) => by
    have hquery := accepts_query (query.accepts_operandOver (accepts_relation query))
    have hrest := accepts_operands (next :: rest)
    apply (hquery.seq fun select => hrest.map (unionAll select)).congr
    simp only [SourceFits, nodesOfSource, nodesOfQueries, List.forall_mem_append]
    simp

/-- Several queries are accepted if their nodes fit. -/
theorem accepts_operands : ∀ queries : List Query,
    Accepts (∀ node ∈ nodesOfQueries queries, node.Fits false) (operands queries)
  | [] => (accepts_pure _).congr (by simp [nodesOfQueries])
  | query :: rest => by
    have hquery := accepts_query (query.accepts_operandOver (accepts_relation query))
    apply (hquery.seq fun select => (accepts_operands rest).map (select :: ·)).congr
    rw [nodesOfQueries, List.forall_mem_append]

/-- Set operations are accepted if their nodes fit. -/
theorem accepts_operationLinks : ∀ operations : List (SetOperation Query),
    Accepts (∀ node ∈ nodesOfOperations operations, node.Fits false) (operationLinks operations)
  | [] => (accepts_pure _).congr (by simp [nodesOfOperations])
  | ⟨operator, query⟩ :: rest => by
    have hquery := accepts_query (query.accepts_operandOver (accepts_relation query))
    apply (hquery.seq fun select =>
      (accepts_operationLinks rest).map (⟨chainOperator operator, select⟩ :: ·)).congr
    rw [nodesOfOperations, List.forall_mem_append]

end

/-! ## Whole queries -/

/-- A whole query is rendered exactly if it and all nodes inside it fit. -/
theorem accepts_outer (query : Query) :
    Accepts (query.Fits true ∧ ∀ node ∈ query.inside, node.Fits false) query.outer := by
  unfold outer
  rw [outerOver_eq]
  exact (query.accepts_nodeOver true (accepts_relation query)).congr (fits_over_iff true query)

/-- The text of a query with its target is rendered exactly if the query may be copied
there as well. -/
theorem accepts_pieces (query : Query) :
    Accepts (query.Copyable ∧ query.Fits true ∧ ∀ node ∈ query.inside, node.Fits false)
      query.pieces := by
  unfold Query.pieces Copyable
  cases query.target with
  | caller => exact (query.accepts_outer.map _).congr (by simp)
  | table table =>
    have htarget : Target.table table ≠ .caller := by simp
    cases query.count with
    | true => exact (accepts_fail _).congr (by simp)
    | false =>
      simp only [htarget, ne_eq, not_false_eq_true, true_implies, true_and]
      rw [← copiedColumns_isOk_iff]
      cases query.copiedColumns with
      | error reason => exact (accepts_fail _).congr (by simp)
      | ok columns => exact (query.accepts_outer.map _).congr (by simp)

/-- A query renders exactly if every node fits in its place and the rows may go to their
target.  The nodes inside a query are rendered without an ordering that does not decide
which rows they have, and no more is asked of them. -/
theorem statement_isOk_iff (query : Query) (dialect : Dialect) :
    (∃ statement, query.statement dialect = .ok statement) ↔
      query.Copyable ∧ query.Fits true ∧ ∀ node ∈ query.inside, node.Fits false := by
  rw [← query.accepts_pieces []]
  constructor
  · rintro ⟨statement, hstatement⟩
    obtain ⟨pieces, values, hpieces, -⟩ := statement_eq_ok_iff.mp hstatement
    exact ⟨pieces, values, hpieces⟩
  · rintro ⟨pieces, values, hpieces⟩
    exact ⟨_, statement_eq_ok_iff.mpr ⟨pieces, values, hpieces, rfl⟩⟩

end SqlScribe.Query
