import SqlScribe.Query.Select

/-!
# Nodes of a query and chains of a SELECT

A query consists of nodes: itself, the queries that it reads, and the queries that
are combined with it, at every depth.  The set operations of each node become one
chain somewhere in the rendered SELECT.

Main definitions:

- `Query.nodes` are the nodes of a query, `Sql.Select.chains` the chains of a SELECT.
- `Query.RendersChain` relates a node to the chain of its set operations.

Main results:

- `Query.exists_chain_of_outer`: every node of a rendered query has its chain in the
  SELECT.
-/

namespace SqlScribe

open Sql Binding

/-! ## Nodes -/

namespace Query

mutual

/-- The nodes of a query. -/
def nodes : Query → List Query
  | ⟨source, target, limit, skip, first, firstOrNone, count, shuffle, items, filter, distinct,
      order, operations⟩ =>
    ⟨source, target, limit, skip, first, firstOrNone, count, shuffle, items, filter, distinct,
      order, operations⟩ :: (nodesOfSource source ++ nodesOfOperations operations)

/-- The nodes in a source. -/
def nodesOfSource : Source Query → List Query
  | .table _ => []
  | .queries queries => nodesOfQueries queries

/-- The nodes in several queries. -/
def nodesOfQueries : List Query → List Query
  | [] => []
  | query :: rest => query.nodes ++ nodesOfQueries rest

/-- The nodes in set operations. -/
def nodesOfOperations : List (SetOperation Query) → List Query
  | [] => []
  | ⟨_, query⟩ :: rest => query.nodes ++ nodesOfOperations rest

end

end Query

/-! ## Chains -/

namespace Sql

mutual

/-- The chains in a SELECT. -/
def Select.chains : Select → List (Chain Select)
  | ⟨_, _, _, relation, _, _, _⟩ => relationChains relation

/-- The chains in what a SELECT reads. -/
def relationChains : Relation Select → List (Chain Select)
  | .table _ => []
  | .derived ⟨first, links⟩ => ⟨first, links⟩ :: (first.chains ++ linkChains links)

/-- The chains in further SELECTs. -/
def linkChains : List (Link Select) → List (Chain Select)
  | [] => []
  | ⟨_, select⟩ :: rest => select.chains ++ linkChains rest

end

/-- The chains of further SELECTs are those of each. -/
theorem linkChains_eq_flatMap (links : List (Link Select)) :
    linkChains links = links.flatMap (·.select.chains) := by
  induction links with
  | nil => rfl
  | cons link rest ih => simp [linkChains, ih]

end Sql

namespace Query

/-- The chain that the set operations of a node become, with the source of the node in
front of them. -/
def RendersChain (node : Query) (chain : Chain Select) : Prop :=
  ∃ before between after base,
    sourceRelation node.source before = .ok (base, between) ∧
      operationLinks node.operations between = .ok (chain.links, after) ∧
      chain.first = { relation := base }

/-- Every node with set operations has its chain among some chains. -/
def Covered (nodes : List Query) (chains : List (Chain Select)) : Prop :=
  ∀ node ∈ nodes, node.operations ≠ [] → ∃ chain ∈ chains, node.RendersChain chain

/-- What is covered by some chains is covered by more. -/
theorem Covered.mono {nodes : List Query} {chains more : List (Chain Select)}
    (hcovered : Covered nodes chains) (hsubset : chains ⊆ more) : Covered nodes more := by
  intro node hnode hoperations
  obtain ⟨chain, hchain, hrenders⟩ := hcovered node hnode hoperations
  exact ⟨chain, hsubset hchain, hrenders⟩

/-- Nodes are covered together if each of them is. -/
theorem Covered.append {a b : List Query} {chains : List (Chain Select)}
    (ha : Covered a chains) (hb : Covered b chains) : Covered (a ++ b) chains := by
  intro node hnode hoperations
  rcases List.mem_append.mp hnode with hnode | hnode
  · exact ha node hnode hoperations
  · exact hb node hnode hoperations

/-! ## SELECTs over a given source -/

variable {query : Query} {relation : Binding (Relation Select)} {values values' : List Value}
  {select : Select}

/-- A SELECT has all the chains of what it reads. -/
theorem chains_of_rows (hselect : query.rows relation values = .ok (select, values')) :
    ∃ before after rendered, relation before = .ok (rendered, after) ∧
      select.chains = relationChains rendered := by
  obtain ⟨_, _, -, hselect⟩ := run_seq_eq_ok.mp hselect
  obtain ⟨_, before, -, hselect⟩ := run_seq_eq_ok.mp hselect
  obtain ⟨rendered, after, hrendered, hselect⟩ := run_seq_eq_ok.mp hselect
  obtain ⟨_, _, -, hselect⟩ := run_seq_eq_ok.mp hselect
  obtain ⟨_, _, -, hselect⟩ := run_seq_eq_ok.mp hselect
  simp only [run_pure, Except.ok.injEq, Prod.mk.injEq] at hselect
  obtain ⟨rfl, rfl⟩ := hselect
  exact ⟨before, after, rendered, hrendered, rfl⟩

/-- A node has the chains of what it reads in its SELECT. -/
theorem chains_of_selectOver (hselect : query.selectOver relation values = .ok (select, values')) :
    ∃ before after rendered, relation before = .ok (rendered, after) ∧
      relationChains rendered ⊆ select.chains := by
  unfold selectOver at hselect
  split at hselect
  · unfold number at hselect
    split at hselect
    · obtain ⟨inner, _, hinner, hselect⟩ := run_seq_eq_ok.mp hselect
      obtain ⟨before, after, rendered, hrendered, hchains⟩ := chains_of_rows hinner
      simp only [run_pure, Except.ok.injEq, Prod.mk.injEq] at hselect
      obtain ⟨rfl, rfl⟩ := hselect
      refine ⟨before, after, rendered, hrendered, ?_⟩
      simp [Select.chains, relationChains, linkChains, hchains]
    · obtain ⟨rendered, after, hrendered, hselect⟩ := run_seq_eq_ok.mp hselect
      obtain ⟨_, _, -, hselect⟩ := run_seq_eq_ok.mp hselect
      simp only [run_pure, Except.ok.injEq, Prod.mk.injEq] at hselect
      obtain ⟨rfl, rfl⟩ := hselect
      exact ⟨values, after, rendered, hrendered, List.Subset.refl _⟩
  · obtain ⟨before, after, rendered, hrendered, hchains⟩ := chains_of_rows hselect
    exact ⟨before, after, rendered, hrendered, by simp [hchains]⟩

/-- The outermost query has the chains of what it reads in its SELECT. -/
theorem chains_of_outerOver (hselect : query.outerOver relation values = .ok (select, values')) :
    ∃ before after rendered, relation before = .ok (rendered, after) ∧
      relationChains rendered ⊆ select.chains := by
  obtain ⟨_, _, -, hselect⟩ := run_seq_eq_ok.mp hselect
  exact chains_of_selectOver hselect

/-- An inner query has the chains of what it reads in its SELECT. -/
theorem chains_of_innerOver (hselect : query.innerOver relation values = .ok (select, values')) :
    ∃ before after rendered, relation before = .ok (rendered, after) ∧
      relationChains rendered ⊆ select.chains := by
  obtain ⟨_, _, -, hselect⟩ := run_seq_eq_ok.mp hselect
  exact chains_of_selectOver hselect

/-- An operand has the chains of what it reads in its SELECT. -/
theorem chains_of_operandOver
    (hselect : query.operandOver relation values = .ok (select, values')) :
    ∃ before after rendered, relation before = .ok (rendered, after) ∧
      relationChains rendered ⊆ select.chains := by
  obtain ⟨inner, _, hinner, hselect⟩ := run_seq_eq_ok.mp hselect
  obtain ⟨before, after, rendered, hrendered, hchains⟩ := chains_of_innerOver hinner
  simp only [run_pure, Except.ok.injEq, Prod.mk.injEq] at hselect
  obtain ⟨rfl, rfl⟩ := hselect
  refine ⟨before, after, rendered, hrendered, List.Subset.trans hchains ?_⟩
  split
  · simp [Select.wrap, Select.chains, relationChains, linkChains]
  · exact List.Subset.refl _

/-! ## Nodes and their chains -/

/-- The number and the operators of set operations stay. -/
theorem operators_of_operationLinks {operations : List (SetOperation Query)}
    {links : List (Link Select)}
    (hlinks : operationLinks operations values = .ok (links, values')) :
    links.map (·.operator) = operations.map fun operation => chainOperator operation.operator := by
  induction operations generalizing values links with
  | nil =>
    simp only [operationLinks, run_pure, Except.ok.injEq, Prod.mk.injEq] at hlinks
    obtain ⟨rfl, rfl⟩ := hlinks
    rfl
  | cons operation rest ih =>
    obtain ⟨operator, operand⟩ := operation
    rw [operationLinks] at hlinks
    obtain ⟨select, _, -, hlinks⟩ := run_seq_eq_ok.mp hlinks
    obtain ⟨more, _, hmore, hlinks⟩ := run_seq_eq_ok.mp hlinks
    simp only [run_pure, Except.ok.injEq, Prod.mk.injEq] at hlinks
    obtain ⟨rfl, rfl⟩ := hlinks
    simp [ih hmore]

mutual

/-- The nodes of a query have their chains in what it reads. -/
theorem covered_relation : ∀ (query : Query) {values values' : List Value}
    {rendered : Relation Select}, query.relation values = .ok (rendered, values') →
    Covered query.nodes (relationChains rendered)
  | ⟨source, target, limit, skip, first, firstOrNone, count, shuffle, items, filter, distinct,
      order, operations⟩, values, values', rendered, hrendered => by
    obtain ⟨base, between, hbase, hrendered⟩ := run_seq_eq_ok.mp hrendered
    obtain ⟨links, after, hlinks, hrendered⟩ := run_seq_eq_ok.mp hrendered
    simp only [run_pure, Except.ok.injEq, Prod.mk.injEq] at hrendered
    obtain ⟨rfl, rfl⟩ := hrendered
    have hsource := covered_sourceRelation source hbase
    have hoperations := covered_operationLinks operations hlinks
    have hoperators := operators_of_operationLinks hlinks
    cases links with
    | nil =>
      have hnone : operations = [] := by simpa using hoperators.symm
      subst hnone
      intro node hnode hne
      rcases List.mem_cons.mp hnode with rfl | hnode
      · exact absurd rfl hne
      · exact hsource node (by simpa [nodesOfOperations] using hnode) hne
    | cons link more =>
      have hbelow : Covered (nodesOfSource source ++ nodesOfOperations operations)
          (relationChains (chained base (link :: more))) := by
        apply Covered.append
        · apply hsource.mono
          simp [chained, relationChains, Select.chains]
        · apply hoperations.mono
          simp [chained, relationChains]
      intro node hnode hne
      rcases List.mem_cons.mp hnode with rfl | hnode
      · refine ⟨⟨{ relation := base }, link :: more⟩, List.mem_cons_self, ?_⟩
        exact ⟨values, between, after, base, hbase, hlinks, rfl⟩
      · exact hbelow node hnode hne

/-- The nodes of a source have their chains in what the source is rendered as. -/
theorem covered_sourceRelation : ∀ (source : Source Query) {values values' : List Value}
    {rendered : Relation Select}, sourceRelation source values = .ok (rendered, values') →
    Covered (nodesOfSource source) (relationChains rendered)
  | .table _, _, _, _, _ => by simp [Covered, nodesOfSource]
  | .queries [], _, _, _, _ => by simp [Covered, nodesOfSource, nodesOfQueries]
  | .queries [query], values, values', rendered, hrendered => by
    obtain ⟨select, _, hselect, hrendered⟩ := run_seq_eq_ok.mp hrendered
    simp only [run_pure, Except.ok.injEq, Prod.mk.injEq] at hrendered
    obtain ⟨rfl, rfl⟩ := hrendered
    obtain ⟨before, after, inside, hinside, hchains⟩ := chains_of_innerOver hselect
    have hquery := (covered_relation query hinside).mono hchains
    rw [nodesOfSource, nodesOfQueries, nodesOfQueries, List.append_nil]
    apply hquery.mono
    simp [relationChains]
  | .queries (query :: next :: rest), values, values', rendered, hrendered => by
    obtain ⟨select, _, hselect, hrendered⟩ := run_seq_eq_ok.mp hrendered
    obtain ⟨selects, _, hselects, hrendered⟩ := run_seq_eq_ok.mp hrendered
    simp only [run_pure, Except.ok.injEq, Prod.mk.injEq] at hrendered
    obtain ⟨rfl, rfl⟩ := hrendered
    obtain ⟨before, after, inside, hinside, hchains⟩ := chains_of_operandOver hselect
    have hquery := (covered_relation query hinside).mono hchains
    have hrest := covered_operands (next :: rest) hselects
    rw [nodesOfSource, nodesOfQueries]
    apply Covered.append
    · apply hquery.mono
      simp [unionAll, relationChains]
    · apply hrest.mono
      simp [unionAll, relationChains, linkChains_eq_flatMap, List.flatMap_map]

/-- The nodes of several queries have their chains in the SELECTs of these. -/
theorem covered_operands : ∀ (queries : List Query) {values values' : List Value}
    {selects : List Select}, operands queries values = .ok (selects, values') →
    Covered (nodesOfQueries queries) (selects.flatMap (·.chains))
  | [], _, _, _, _ => by simp [Covered, nodesOfQueries]
  | query :: rest, values, values', selects, hselects => by
    obtain ⟨select, _, hselect, hselects⟩ := run_seq_eq_ok.mp hselects
    obtain ⟨more, _, hmore, hselects⟩ := run_seq_eq_ok.mp hselects
    simp only [run_pure, Except.ok.injEq, Prod.mk.injEq] at hselects
    obtain ⟨rfl, rfl⟩ := hselects
    obtain ⟨before, after, inside, hinside, hchains⟩ := chains_of_operandOver hselect
    have hquery := (covered_relation query hinside).mono hchains
    have hrest := covered_operands rest hmore
    rw [nodesOfQueries, List.flatMap_cons]
    exact (hquery.mono (List.subset_append_left _ _)).append
      (hrest.mono (List.subset_append_right _ _))

/-- The nodes of set operations have their chains in the further SELECTs. -/
theorem covered_operationLinks : ∀ (operations : List (SetOperation Query))
    {values values' : List Value} {links : List (Link Select)},
    operationLinks operations values = .ok (links, values') →
    Covered (nodesOfOperations operations) (linkChains links)
  | [], _, _, _, _ => by simp [Covered, nodesOfOperations]
  | ⟨_, query⟩ :: rest, values, values', links, hlinks => by
    obtain ⟨select, _, hselect, hlinks⟩ := run_seq_eq_ok.mp hlinks
    obtain ⟨more, _, hmore, hlinks⟩ := run_seq_eq_ok.mp hlinks
    simp only [run_pure, Except.ok.injEq, Prod.mk.injEq] at hlinks
    obtain ⟨rfl, rfl⟩ := hlinks
    obtain ⟨before, after, inside, hinside, hchains⟩ := chains_of_operandOver hselect
    have hquery := (covered_relation query hinside).mono hchains
    have hrest := covered_operationLinks rest hmore
    rw [nodesOfOperations, linkChains]
    exact (hquery.mono (List.subset_append_left _ _)).append
      (hrest.mono (List.subset_append_right _ _))

end

/-- Every node of a rendered query has its chain in the SELECT. -/
theorem exists_chain_of_outer (hselect : query.outer values = .ok (select, values'))
    {node : Query} (hnode : node ∈ query.nodes) (hoperations : node.operations ≠ []) :
    ∃ chain ∈ select.chains, node.RendersChain chain := by
  obtain ⟨before, after, rendered, hrendered, hchains⟩ := chains_of_outerOver hselect
  exact (covered_relation query hrendered).mono hchains node hnode hoperations

end Query

end SqlScribe
