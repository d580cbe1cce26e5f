import SqlScribe.Proofs.Rendering.NodeParts

/-!
# Properties of the chains of a query

Each SELECT inside a rendered query belongs to a node of the query, or it wraps one that
does.  So a property of the chains of a query is settled node by node.

Main definitions:

- `Binding.Ensures` gives all results of a step a property.
- `Query.RendersNode` lists the SELECTs that a node is rendered as.
- `Sql.Chain.All` is a property of a chain; `Query.Settles` says that it is a matter of single
  nodes.

Main results:

- `Query.ensures_nodeOver`: a node is rendered as one of these SELECTs.
- `Query.ensures_relation`: where a property of chains is a matter of single nodes, what a
  query reads has it exactly if all nodes inside the query are as they have to be.
-/

namespace SqlScribe

/-! ## Results of steps -/

namespace Binding

variable {α β : Type} {p : α → Prop} {q : β → Prop}

/-- Every result of a step has a property. -/
def Ensures (p : α → Prop) (step : Binding α) : Prop :=
  ∀ values result values', step values = .ok (result, values') → p result

/-- A weaker property is ensured too. -/
theorem Ensures.mono {step : Binding α} {more : α → Prop} (hstep : Ensures p step)
    (hmore : ∀ result, p result → more result) : Ensures more step :=
  fun values result values' hresult => hmore result (hstep values result values' hresult)

theorem ensures_true (step : Binding α) : Ensures (fun _ => True) step :=
  fun _ _ _ _ => trivial

theorem ensures_pure {result : α} (hresult : p result) : Ensures p (pure result) := by
  intro values other values' hother
  simp only [run_pure, Except.ok.injEq, Prod.mk.injEq] at hother
  exact hother.1 ▸ hresult

/-- A step that never succeeds ensures everything. -/
theorem ensures_fail (reason : RenderError) : Ensures p (fail reason) := by
  intro values result values' hresult
  simp at hresult

/-- Behind a check it is known that it was passed. -/
theorem ensures_check (result : Except RenderError Unit) :
    Ensures (fun _ => result = .ok ()) (check result) :=
  fun _ _ _ hresult => (run_check_eq_ok.mp hresult).1

/-- A step ensures what it makes of results with a property that the step in front ensures. -/
theorem Ensures.seq {first : Binding α} {next : α → Binding β} (hfirst : Ensures p first)
    (hnext : ∀ result, p result → Ensures q (next result)) : Ensures q (first >>= next) := by
  intro values result values' hresult
  obtain ⟨part, between, hpart, hresult⟩ := run_seq_eq_ok.mp hresult
  exact hnext part (hfirst values part between hpart) between result values' hresult

/-- Two properties are ensured together. -/
theorem Ensures.and {step : Binding α} {more : α → Prop} (hstep : Ensures p step)
    (hmore : Ensures more step) : Ensures (fun result => p result ∧ more result) step :=
  fun values result values' hresult =>
    ⟨hstep values result values' hresult, hmore values result values' hresult⟩

/-- What a step ensures does not depend on the steps in front of it. -/
theorem Ensures.behind (first : Binding α) {next : α → Binding β}
    (hnext : ∀ result, Ensures q (next result)) : Ensures q (first >>= next) :=
  (ensures_true first).seq fun result _ => hnext result

end Binding

/-! ## SELECTs of nodes -/

/-- Whether an ordering orders rows. -/
def Sql.Ordering.orders : Sql.Ordering → Bool
  | .none => false
  | .random | .keys _ => true

namespace Query

open Sql Binding

/-- A SELECT that lists the rows of a query. -/
structure Lists (query : Query) (columns : SelectList → Prop) (relation : Relation Select → Prop)
    (select : Select) : Prop where
  columns : columns select.columns
  relation : relation select.relation
  /-- A limit stands in front of the columns if no rows are skipped. -/
  top : select.top = if query.hasSkip then none else query.effectiveLimit
  paging : select.paging = query.paging
  ordering : select.ordering.orders = query.isOrdered

/-- The SELECTs that a node is rendered as: one that lists its rows, one that counts the listed
rows, or one that counts the rows that the node reads. -/
inductive RendersNode (whole : Bool) (query : Query) (columns : SelectList → Prop)
    (relation : Relation Select → Prop) : Select → Prop where
  | listed {select : Select} (hcount : query.count = false)
    (hlists : (query.listing whole).Lists columns relation select) :
    RendersNode whole query columns relation select
  | counted {select : Select} (hcount : query.count = true) (hrows : query.keepsRows = true)
    (hlists : (query.listing whole).Lists columns relation select) :
    RendersNode whole query columns relation (counting select)
  /-- The rows are counted without a list. -/
  | number {rendered : Relation Select} {condition : Option Predicate}
    (hcount : query.count = true) (hrows : query.keepsRows = false)
    (hrelation : relation rendered) :
    RendersNode whole query columns relation
      { columns := .count, relation := rendered, condition }

/-- An ordering is rendered exactly if the query has one. -/
theorem ensures_ordering (query : Query) :
    Ensures (fun ordering => ordering.orders = query.isOrdered) query.ordering := by
  unfold ordering isOrdered
  cases query.shuffle with
  | true => exact ensures_pure (by simp [Ordering.orders])
  | false =>
    cases query.hasOrder with
    | true => exact (ensures_true _).seq fun keys _ => ensures_pure rfl
    | false => exact ensures_pure rfl

variable {columns : SelectList → Prop} {rendered : Relation Select → Prop}
  {relation : Binding (Relation Select)}

/-- The rows of a query are listed by one SELECT over what its source is rendered as. -/
theorem ensures_rows {query : Query} (hcolumns : Ensures columns query.selectList)
    (hrelation : Ensures rendered relation) :
    Ensures (query.Lists columns rendered) (query.rows relation) := by
  refine Ensures.behind _ fun _ => ?_
  refine hcolumns.seq fun list hlist => ?_
  refine hrelation.seq fun source hsource => ?_
  refine Ensures.behind _ fun condition => ?_
  refine query.ensures_ordering.seq fun ordering hordering => ?_
  exact ensures_pure ⟨hlist, hsource, rfl, rfl, hordering⟩

/-- What a node ensures: it is consistent, and its rows are listed, or listed and counted, or
counted without a list. -/
theorem ensures_node (whole : Bool) {query : Query} {p : Select → Prop}
    (hlisted : query.consistent = .ok () → query.count = false →
      Ensures p ((query.listing whole).rows relation))
    (hcounted : query.consistent = .ok () → query.count = true → query.keepsRows = true →
      Ensures (fun select => p (counting select)) ((query.listing whole).rows relation))
    (hnumber : query.consistent = .ok () → query.count = true → query.keepsRows = false →
      Ensures (fun rendered => ∀ condition, p { columns := .count, relation := rendered, condition })
        relation) :
    Ensures p (query.nodeOver whole relation) := by
  refine (ensures_check query.consistent).seq fun _ hconsistent => ?_
  rw [selectOver_placed]
  cases hrows : query.keepsRows with
  | true =>
    simp only [if_true]
    cases hcount : query.count with
    | true =>
      exact (hcounted hconsistent hcount hrows).seq fun select hselect => ensures_pure hselect
    | false => exact (hlisted hconsistent hcount).seq fun select hselect => ensures_pure hselect
  | false =>
    have hcount : query.count = true := by
      simp_all [keepsRows]
    simp only [Bool.false_eq_true, if_false]
    refine (hnumber hconsistent hcount hrows).seq fun source hsource => ?_
    exact Ensures.behind _ fun condition => ensures_pure (hsource condition)

/-- A consistent node is rendered as one of its SELECTs. -/
theorem ensures_nodeOver (whole : Bool) {query : Query}
    (hcolumns : Ensures columns (query.listing whole).selectList)
    (hrelation : Ensures rendered relation) :
    Ensures (fun select => query.consistent = .ok () ∧
      query.RendersNode whole columns rendered select) (query.nodeOver whole relation) := by
  have hrows := ensures_rows hcolumns hrelation
  apply ensures_node
  · exact fun hconsistent hcount => hrows.mono fun select hlists =>
      ⟨hconsistent, .listed hcount hlists⟩
  · exact fun hconsistent hcount hkeeps => hrows.mono fun select hlists =>
      ⟨hconsistent, .counted hcount hkeeps hlists⟩
  · exact fun hconsistent hcount hkeeps => hrelation.mono fun source hsource _ =>
      ⟨hconsistent, .number hcount hkeeps hsource⟩

end Query

/-! ## Properties of chains -/

namespace Sql

/-- The SELECTs of a chain. -/
def Chain.selects (chain : Chain Select) : List Select := chain.first :: chain.links.map (·.select)

variable (alone beside : Select → Prop)

/-- A SELECT has one property if it stands alone, and another one beside other SELECTs. -/
def Chain.All (chain : Chain Select) : Prop :=
  if chain.links.isEmpty then alone chain.first else ∀ select ∈ chain.selects, beside select

/-- All chains in what is read have a property. -/
def Relation.All (relation : Relation Select) : Prop :=
  ∀ chain ∈ relationChains relation, chain.All alone beside

/-- All chains in a SELECT have a property. -/
def Select.All (select : Select) : Prop := ∀ chain ∈ select.chains, chain.All alone beside

variable {alone beside}

/-- The SELECTs in a SELECT are those in what it reads. -/
theorem Select.all_iff {select : Select} :
    select.All alone beside ↔ select.relation.All alone beside := by
  cases select
  rfl

/-- A SELECT in parentheses alone counts as one that stands alone. -/
theorem Relation.all_alone_iff {select : Select} :
    Relation.All alone beside (.derived ⟨select, []⟩) ↔
      alone select ∧ select.All alone beside := by
  simp [Relation.All, relationChains, linkChains, Chain.All, Select.All]

/-- A counted SELECT stands alone in parentheses. -/
theorem all_counting_iff {select : Select} :
    (Query.counting select).All alone beside ↔ alone select ∧ select.All alone beside := by
  rw [Select.all_iff, Query.counting, Relation.all_alone_iff]

/-- SELECTs in parentheses that are joined count as such that stand beside others. -/
theorem Relation.all_beside_iff {first : Select} {links : List (Link Select)}
    (hlinks : links ≠ []) :
    Relation.All alone beside (.derived ⟨first, links⟩) ↔
      (beside first ∧ first.All alone beside) ∧
        ∀ link ∈ links, beside link.select ∧ link.select.All alone beside := by
  have hchain : Chain.All alone beside ⟨first, links⟩ ↔
      beside first ∧ ∀ link ∈ links, beside link.select := by
    simp [Chain.All, hlinks, Chain.selects]
  have hbelow : (∀ chain ∈ linkChains links, chain.All alone beside) ↔
      ∀ link ∈ links, link.select.All alone beside := by
    simp only [linkChains_eq_flatMap, List.mem_flatMap, Select.All]
    exact ⟨fun h link hlink chain hchain => h chain ⟨link, hlink, hchain⟩,
      fun h chain ⟨link, hlink, hchain⟩ => h link hlink chain hchain⟩
  simp only [Relation.All, relationChains, List.forall_mem_cons, List.forall_mem_append, hchain,
    hbelow, forall_and]
  exact ⟨fun ⟨⟨hfirst, hlinks⟩, hfirstAll, hlinksAll⟩ => ⟨⟨hfirst, hfirstAll⟩, hlinks, hlinksAll⟩,
    fun ⟨⟨hfirst, hfirstAll⟩, hlinks, hlinksAll⟩ => ⟨⟨hfirst, hlinks⟩, hfirstAll, hlinksAll⟩⟩

end Sql

namespace Query

open Sql Binding

/-- Whether the chains of a query have a property is a matter of its nodes, one by one. -/
structure Settles (alone beside : Select → Prop) (settled : Query → Prop) : Prop where
  source : ∀ relation, beside { relation }
  /-- A node alone settles it for its own SELECT. -/
  node : ∀ {query : Query} {below : Prop},
    Ensures (fun rendered => rendered.All alone beside ↔ below) query.relation →
      Ensures (fun select => (alone select ∧ select.All alone beside ↔ settled query ∧ below) ∧
        (query.derivable.isOrdered = false → (beside select ↔ alone select)))
        (query.innerOver query.relation)

section Settles

variable {alone beside : Select → Prop} {settled : Query → Prop}

/-- An ordered query next to a set operator is wrapped, so it stands alone. -/
theorem Settles.operand (hsettles : Settles alone beside settled) {query : Query} {below : Prop}
    (hrelation : Ensures (fun rendered => rendered.All alone beside ↔ below) query.relation) :
    Ensures (fun select => beside select ∧ select.All alone beside ↔ settled query ∧ below)
      (query.operandOver query.relation) := by
  refine (hsettles.node hrelation).seq fun select ⟨hselect, hbeside⟩ => ?_
  apply ensures_pure
  cases hordered : query.derivable.isOrdered with
  | true =>
    have hwrap : beside select.wrap := hsettles.source _
    rw [if_pos rfl, Select.all_iff, Select.wrap, Relation.all_alone_iff]
    rw [← hselect]
    exact and_iff_right hwrap
  | false =>
    rw [if_neg (by simp), hbeside hordered]
    exact hselect

mutual

/-- What a query reads is settled by the nodes inside the query. -/
theorem ensures_relation (hsettles : Settles alone beside settled) : ∀ query : Query,
    Ensures (fun rendered => rendered.All alone beside ↔ ∀ node ∈ query.inside, settled node)
      query.relation
  | ⟨source, target, limit, skip, first, firstOrNone, count, shuffle, items, filter, distinct,
      order, operations⟩ => by
    refine (ensures_sourceRelation hsettles source).seq fun base hbase => ?_
    refine (ensures_operationLinks hsettles operations).seq fun links hlinks => ?_
    apply ensures_pure
    rw [inside, List.forall_mem_append, ← hbase, ← hlinks]
    -- Without set operations the source is read as it is, and no chain is added.
    cases links with
    | nil => simp [chained]
    | cons link rest =>
      have hsource := hsettles.source base
      rw [chained, if_neg (by simp), Relation.all_beside_iff (by simp), Select.all_iff]
      exact and_congr_left fun _ => and_iff_right hsource

/-- Whether the chains of a source have a property is a matter of its nodes. -/
theorem ensures_sourceRelation (hsettles : Settles alone beside settled) : ∀ source : Source Query,
    Ensures (fun rendered => rendered.All alone beside ↔
      ∀ node ∈ nodesOfSource source, settled node) (sourceRelation source)
  | .table table => ensures_pure (by simp [Relation.All, relationChains, nodesOfSource])
  | .queries [] => ensures_fail _
  -- A single query is the only SELECT of its derived table, so it is not an operand.
  | .queries [query] => by
    refine (hsettles.node (ensures_relation hsettles query)).seq fun select ⟨hselect, _⟩ => ?_
    apply ensures_pure
    rw [Relation.all_alone_iff, hselect, nodesOfSource, nodesOfQueries, nodesOfQueries,
      List.append_nil, forall_mem_nodes_iff]
  | .queries (query :: next :: rest) => by
    refine (hsettles.operand (ensures_relation hsettles query)).seq fun select hselect => ?_
    refine (ensures_operands hsettles (next :: rest)).seq fun selects ⟨hlength, hselects⟩ => ?_
    apply ensures_pure
    have hlinks : selects.map (fun select => (⟨.unionAll, select⟩ : Link Select)) ≠ [] := by
      cases selects <;> simp at hlength ⊢
    rw [nodesOfSource, nodesOfQueries, forall_mem_nodes_append_iff, unionAll,
      Relation.all_beside_iff hlinks, List.forall_mem_map, hselect, hselects]

/-- Whether the SELECTs of several queries have a property is a matter of the nodes of each. -/
theorem ensures_operands (hsettles : Settles alone beside settled) : ∀ queries : List Query,
    Ensures (fun selects => selects.length = queries.length ∧
      ((∀ select ∈ selects, beside select ∧ select.All alone beside) ↔
        ∀ node ∈ nodesOfQueries queries, settled node)) (operands queries)
  | [] => ensures_pure ⟨rfl, by simp [nodesOfQueries]⟩
  | query :: rest => by
    refine (hsettles.operand (ensures_relation hsettles query)).seq fun select hselect => ?_
    refine (ensures_operands hsettles rest).seq fun selects ⟨hlength, hselects⟩ => ?_
    apply ensures_pure
    refine ⟨congrArg (· + 1) hlength, ?_⟩
    rw [List.forall_mem_cons, hselect, hselects, nodesOfQueries, forall_mem_nodes_append_iff]

/-- Whether the SELECTs of set operations have a property is a matter of their nodes. -/
theorem ensures_operationLinks (hsettles : Settles alone beside settled) :
    ∀ operations : List (SetOperation Query),
    Ensures (fun links => (∀ link ∈ links, beside link.select ∧ link.select.All alone beside) ↔
      ∀ node ∈ nodesOfOperations operations, settled node) (operationLinks operations)
  | [] => ensures_pure (by simp [nodesOfOperations])
  | ⟨operator, query⟩ :: rest => by
    refine (hsettles.operand (ensures_relation hsettles query)).seq fun select hselect => ?_
    refine (ensures_operationLinks hsettles rest).seq fun links hlinks => ?_
    apply ensures_pure
    rw [List.forall_mem_cons, hselect, hlinks, nodesOfOperations, forall_mem_nodes_append_iff]

end

end Settles

end Query

end SqlScribe
