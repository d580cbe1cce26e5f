import SqlScribe.Proofs.Rendering.QueryAcceptance

/-!
# Targets of nested queries

Only the rows of a whole query go into a table.  A source query that copies is refused,
at every depth.  The target of a query that is combined with others is not looked at, and
such a query is rendered as if its rows went to the caller.

Main definitions:

- `Query.ReadsCallers` holds of a node whose source queries do not copy.
- `Query.calling` is a query with the caller as the target of all queries inside it.
- `Binding.Restricts` relates a step to one that succeeds in more cases.

Main results:

- `Query.statement_eq_ok_iff_calling`: a query renders exactly if no source query in it
  copies and the query without the targets inside it renders, to the same statement.
-/

namespace SqlScribe

/-! ## Steps that succeed in more cases -/

namespace Binding

variable {α β : Type} {p q : Prop}

/-- A step is another one with a condition on top of it. -/
def Restricts (p : Prop) (step other : Binding α) : Prop :=
  ∀ values done, step values = .ok done ↔ p ∧ other values = .ok done

/-- A step may be restricted by an equivalent condition. -/
theorem Restricts.congr {step other : Binding α} (hstep : Restricts p step other)
    (hiff : p ↔ q) : Restricts q step other := by
  intro values done
  rw [hstep values done, hiff]

/-- Every step is itself without a condition. -/
theorem restricts_refl (step : Binding α) : Restricts True step step := by
  intro values done
  simp

/-- A step that never succeeds is restricted by everything. -/
theorem restricts_fail (reason : RenderError) :
    Restricts p (fail reason : Binding α) (fail reason) := by
  intro values done
  simp

/-- A check is restricted by what it asks in addition. -/
theorem restricts_check {result other : Except RenderError Unit}
    (hresult : result = .ok () ↔ p ∧ other = .ok ()) :
    Restricts p (check result) (check other) := by
  rintro values ⟨done, values'⟩
  rw [run_check_eq_ok, run_check_eq_ok, hresult, and_assoc]

/-- Steps one after the other are restricted by the conditions of both. -/
theorem Restricts.seq {first other : Binding α} {next further : α → Binding β}
    (hfirst : Restricts p first other)
    (hnext : ∀ result, Restricts q (next result) (further result)) :
    Restricts (p ∧ q) (first >>= next) (other >>= further) := by
  rintro values ⟨result, values'⟩
  rw [run_seq_eq_ok, run_seq_eq_ok]
  constructor
  · rintro ⟨part, between, hpart, hresult⟩
    obtain ⟨hp, hother⟩ := (hfirst values _).mp hpart
    obtain ⟨hq, hfurther⟩ := (hnext part between _).mp hresult
    exact ⟨⟨hp, hq⟩, part, between, hother, hfurther⟩
  · rintro ⟨⟨hp, hq⟩, part, between, hother, hfurther⟩
    have hpart := (hfirst values _).mpr ⟨hp, hother⟩
    have hresult := (hnext part between _).mpr ⟨hq, hfurther⟩
    exact ⟨part, between, hpart, hresult⟩

/-- What is done behind a step does not restrict it further. -/
theorem Restricts.before {first other : Binding α} (hfirst : Restricts p first other)
    (next : α → Binding β) : Restricts p (first >>= next) (other >>= next) :=
  (hfirst.seq fun result => restricts_refl (next result)).congr (and_iff_left trivial)

/-- What is done in front of a step does not restrict it either. -/
theorem Restricts.behind {next further : α → Binding β} (first : Binding α)
    (hnext : ∀ result, Restricts q (next result) (further result)) :
    Restricts q (first >>= next) (first >>= further) :=
  ((restricts_refl first).seq hnext).congr (and_iff_right trivial)

end Binding

namespace Query

open Binding Sql

/-! ## Queries without targets inside -/

/-- The source queries of a node do not copy. -/
def ReadsCallers (node : Query) : Prop :=
  ∀ queries, node.source = .queries queries → ∀ query ∈ queries, query.target = .caller

mutual

/-- The query with the caller as the target of all queries inside it. -/
def calling : Query → Query
  | ⟨source, target, limit, skip, first, firstOrNone, count, shuffle, items, filter, distinct,
      order, operations⟩ =>
    ⟨callingSource source, target, limit, skip, first, firstOrNone, count, shuffle, items, filter,
      distinct, order, callingOperations operations⟩

/-- The source with these targets. -/
def callingSource : Source Query → Source Query
  | .table table => .table table
  | .queries queries => .queries (callingQueries queries)

/-- Queries with these targets, their own ones included. -/
def callingQueries : List Query → List Query
  | [] => []
  | query :: rest => { query.calling with target := .caller } :: callingQueries rest

/-- Set operations with these targets. -/
def callingOperations : List (SetOperation Query) → List (SetOperation Query)
  | [] => []
  | ⟨operator, query⟩ :: rest =>
    ⟨operator, { query.calling with target := .caller }⟩ :: callingOperations rest

end

/-- A query inside another one with the caller as every target. -/
abbrev called (query : Query) : Query := { query.calling with target := .caller }

/-- Only the queries inside a query lose their targets. -/
theorem calling_eq (query : Query) :
    query.calling =
      { query with
        source := callingSource query.source
        operations := callingOperations query.operations } := by
  cases query
  rfl

/-- All queries of a source lose their targets. -/
theorem callingQueries_eq_map (queries : List Query) :
    callingQueries queries = queries.map called := by
  induction queries with
  | nil => rfl
  | cons query rest ih => rw [callingQueries, ih, List.map_cons]

/-- The source of a query without targets inside it names as many queries, and none of
them copies. -/
theorem consistentSource_iff_calling (query : Query) :
    query.consistentSource = .ok () ↔
      query.ReadsCallers ∧ query.calling.consistentSource = .ok () := by
  rw [consistentSource_eq_ok_iff, consistentSource_eq_ok_iff, calling_eq, ReadsCallers]
  cases hsource : query.source with
  | table table => simp [callingSource]
  | queries queries =>
    simp only [callingSource, callingQueries_eq_map, Source.queries.injEq, forall_eq', ne_eq,
      List.map_eq_nil_iff, List.forall_mem_map]
    simp [and_comm]

/-- Apart from that nothing is asked of the targets inside a query. -/
theorem consistent_iff_calling (query : Query) :
    query.consistent = .ok () ↔ query.ReadsCallers ∧ query.calling.consistent = .ok () := by
  have hsource := query.consistentSource_iff_calling
  rw [consistent_eq_ok_iff, consistent_eq_ok_iff, hsource]
  rw [calling_eq]
  constructor
  · rintro ⟨hskip, hpercent, hfirst, hshuffle, hdistinct, hreads, hcalling⟩
    exact ⟨hreads, hskip, hpercent, hfirst, hshuffle, hdistinct, hcalling⟩
  · rintro ⟨hreads, hskip, hpercent, hfirst, hshuffle, hdistinct, hcalling⟩
    exact ⟨hskip, hpercent, hfirst, hshuffle, hdistinct, hreads, hcalling⟩

/-- Over a given source a node is rendered without a look at the targets inside it. -/
theorem selectOver_placed_calling (whole : Bool) (query : Query)
    (relation : Binding (Relation Select)) :
    (query.calling.placed whole).selectOver relation =
      (query.placed whole).selectOver relation := by
  rw [selectOver_placed, selectOver_placed, calling_eq]
  rfl

/-! ## Rendering -/

variable {p : Prop} {relation other : Binding (Relation Select)}

/-- Listed rows are restricted as what is read is. -/
theorem restricts_rows (query : Query) (hrelation : Restricts p relation other) :
    Restricts p (query.rows relation) (query.rows other) := by
  apply Restricts.behind
  intro checked
  apply Restricts.behind
  intro columns
  exact hrelation.before _

/-- A node without its check is restricted as what is read is. -/
theorem restricts_selectOver (query : Query) (hrelation : Restricts p relation other) :
    Restricts p (query.selectOver relation) (query.selectOver other) := by
  unfold selectOver number
  split
  · split
    · exact (query.counted.derivable.restricts_rows hrelation).before _
    · exact hrelation.before _
  · exact query.restricts_rows hrelation

/-- A node asks in addition that its source queries do not copy. -/
theorem restricts_nodeOver (whole : Bool) (query : Query) (hrelation : Restricts p relation other) :
    Restricts (query.ReadsCallers ∧ p) (query.nodeOver whole relation)
      (query.calling.nodeOver whole other) := by
  apply (restricts_check query.consistent_iff_calling).seq
  intro checked
  rw [selectOver_placed_calling]
  exact (query.placed whole).restricts_selectOver hrelation

/-- The target of a node itself is not looked at here. -/
theorem nodeOver_called (query : Query) (relation : Binding (Relation Select)) :
    query.called.nodeOver false relation = query.calling.nodeOver false relation := by
  unfold nodeOver
  rw [selectOver_placed, selectOver_placed]
  rfl

/-- What is read does not depend on the target. -/
theorem relation_called (query : Query) : query.called.relation = query.calling.relation := by
  cases query
  rfl

/-- An inner query asks in addition that its source queries do not copy, whatever its own target
is. -/
theorem restricts_innerOver (query : Query) (hrelation : Restricts p relation other) :
    Restricts (query.ReadsCallers ∧ p) (query.innerOver relation)
      (query.called.innerOver other) := by
  rw [innerOver_eq, innerOver_eq, nodeOver_called]
  exact query.restricts_nodeOver false hrelation

/-- An operand asks in addition that its source queries do not copy, whatever its own target is. -/
theorem restricts_operandOver (query : Query) (hrelation : Restricts p relation other) :
    Restricts (query.ReadsCallers ∧ p) (query.operandOver relation)
      (query.called.operandOver other) := by
  have hordered : query.called.derivable.isOrdered = query.derivable.isOrdered := by
    rw [isOrdered_derivable, isOrdered_derivable, called, calling_eq]
    rfl
  unfold operandOver
  rw [hordered]
  exact (query.restricts_innerOver hrelation).before _

/-- A query and what it reads ask that all nodes of it read callers. -/
theorem restricts_query {query : Query} {step other : Binding Select}
    (hstep : Restricts (query.ReadsCallers ∧ ∀ node ∈ query.inside, node.ReadsCallers) step other) :
    Restricts (∀ node ∈ query.nodes, node.ReadsCallers) step other :=
  hstep.congr (query.forall_mem_nodes_iff ReadsCallers).symm

mutual

/-- What a query reads is restricted by the nodes inside it. -/
theorem restricts_relation : ∀ query : Query,
    Restricts (∀ node ∈ query.inside, node.ReadsCallers) query.relation query.calling.relation
  | ⟨source, _, _, _, _, _, _, _, _, _, _, _, operations⟩ => by
    have hsteps := (restricts_sourceRelation source).seq fun base =>
      (restricts_operationLinks operations).before fun links => pure (chained base links)
    exact hsteps.congr List.forall_mem_append.symm

/-- A source asks in addition what its nodes do. -/
theorem restricts_sourceRelation : ∀ source : Source Query,
    Restricts (∀ node ∈ nodesOfSource source, node.ReadsCallers) (sourceRelation source)
      (sourceRelation (callingSource source))
  | .table table => (restricts_refl _).congr (by simp [nodesOfSource])
  | .queries [] => (restricts_refl _).congr (by simp [nodesOfSource, nodesOfQueries])
  | .queries [query] => by
    have hquery := restricts_query (query.restricts_innerOver (restricts_relation query))
    rw [nodesOfSource, nodesOfQueries, nodesOfQueries, List.append_nil]
    simp only [callingSource, callingQueries, sourceRelation, relation_called]
    exact hquery.before _
  | .queries (query :: next :: rest) => by
    have hquery := restricts_query (query.restricts_operandOver (restricts_relation query))
    have hrest := restricts_operands (next :: rest)
    rw [nodesOfSource, nodesOfQueries]
    simp only [callingSource, callingQueries, sourceRelation, relation_called]
    exact (hquery.seq fun select => hrest.before _).congr List.forall_mem_append.symm

/-- Several queries ask in addition what their nodes do. -/
theorem restricts_operands : ∀ queries : List Query,
    Restricts (∀ node ∈ nodesOfQueries queries, node.ReadsCallers) (operands queries)
      (operands (callingQueries queries))
  | [] => (restricts_refl _).congr (by simp [nodesOfQueries])
  | query :: rest => by
    have hquery := restricts_query (query.restricts_operandOver (restricts_relation query))
    have hrest := restricts_operands rest
    rw [nodesOfQueries]
    simp only [callingQueries, operands, relation_called]
    exact (hquery.seq fun select => hrest.before _).congr List.forall_mem_append.symm

/-- Set operations ask in addition what their nodes do. -/
theorem restricts_operationLinks : ∀ operations : List (SetOperation Query),
    Restricts (∀ node ∈ nodesOfOperations operations, node.ReadsCallers)
      (operationLinks operations) (operationLinks (callingOperations operations))
  | [] => (restricts_refl _).congr (by simp [nodesOfOperations])
  | ⟨operator, query⟩ :: rest => by
    have hquery := restricts_query (query.restricts_operandOver (restricts_relation query))
    have hrest := restricts_operationLinks rest
    rw [nodesOfOperations]
    simp only [callingOperations, operationLinks, relation_called]
    exact (hquery.seq fun select => hrest.before _).congr List.forall_mem_append.symm

end

/-- A query asks in addition that the source queries of its nodes do not copy. -/
theorem restricts_outer (query : Query) :
    Restricts (∀ node ∈ query.nodes, node.ReadsCallers) query.outer query.calling.outer := by
  unfold outer
  rw [outerOver_eq, outerOver_eq]
  exact restricts_query (query.restricts_nodeOver true (restricts_relation query))

/-! ## Statements -/

/-- The text of a query asks in addition what the query does. -/
theorem restricts_pieces (query : Query) :
    Restricts (∀ node ∈ query.nodes, node.ReadsCallers) query.pieces query.calling.pieces := by
  have htarget : query.calling.target = query.target := by rw [calling_eq]
  have hcount : query.calling.count = query.count := by rw [calling_eq]
  have hcolumns : query.calling.copiedColumns = query.copiedColumns := by
    rw [calling_eq]
    rfl
  unfold Query.pieces
  rw [htarget, hcount, hcolumns]
  cases query.target with
  | caller => exact query.restricts_outer.before _
  | table table =>
    cases query.count with
    | true => exact restricts_fail _
    | false =>
      cases query.copiedColumns with
      | error reason => exact restricts_fail reason
      | ok columns => exact query.restricts_outer.before _

/-- A query renders exactly if no query in a source list of it copies, at any depth, and if
it renders without the targets inside it, to the same statement.  So a source query that
copies is always refused, and the target of a query behind a set operator is never looked
at. -/
theorem statement_eq_ok_iff_calling (query : Query) (dialect : Dialect) (statement : Statement) :
    query.statement dialect = .ok statement ↔
      (∀ node ∈ query.nodes, node.ReadsCallers) ∧
        query.calling.statement dialect = .ok statement := by
  have hshape : query.calling.resultShape = query.resultShape := by
    rw [calling_eq]
    rfl
  have hpieces := query.restricts_pieces []
  rw [statement_eq_ok_iff, statement_eq_ok_iff, hshape]
  constructor
  · rintro ⟨pieces, values, hquery, hstatement⟩
    obtain ⟨hreads, hcalling⟩ := (hpieces _).mp hquery
    exact ⟨hreads, pieces, values, hcalling, hstatement⟩
  · rintro ⟨hreads, pieces, values, hcalling, hstatement⟩
    exact ⟨pieces, values, (hpieces _).mpr ⟨hreads, hcalling⟩, hstatement⟩

/-- A table combined with a query whose rows would go into another table. -/
def copyingOperand : Query :=
  { source := .table ⟨"a", none⟩
    operations := [⟨.intersect, { source := .table ⟨"b", none⟩, target := .table ⟨"c", none⟩ }⟩] }

/-- The query behind the set operator copies, and nothing is copied or refused. -/
theorem copyingOperand_renders :
    (∃ node ∈ copyingOperand.inside, node.target = .table ⟨"c", none⟩) ∧
      copyingOperand.statement =
        .ok
          { text := "SELECT * FROM (SELECT * FROM [a] INTERSECT SELECT * FROM [b]) [__SubQuery__]"
            result := .multiple } := by
  refine ⟨⟨{ source := .table ⟨"b", none⟩, target := .table ⟨"c", none⟩ }, ?_, rfl⟩, rfl⟩
  exact List.mem_cons_self

end Query

end SqlScribe
