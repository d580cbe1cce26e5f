import SqlScribe.Proofs.Evaluation.Server
import SqlScribe.Proofs.Rendering.Nodes
import SqlScribe.Query.Statement

/-!
# The order of set operations

The set operations of a node are written one behind the other, and the server reads
them by precedence.  This is the order in which they are listed as long as no
intersection comes after an exclusion; otherwise there are rows that only one of the
two readings has.

Main definitions:

- `Query.AppliesInOrder` says that a server reads the operations of a node in order.
- `Query.probing` is a query over tables that tells the two readings apart.

Main results:

- `Query.appliesInOrder_iff`: exactly the lists of operators without an intersection
  after an exclusion apply in order in every query and on every server.
-/

namespace SqlScribe

open Sql Binding

namespace Query

/-- The set operations of a node apply in order: on every server, reading their chain
in the SELECT by precedence gives the same set of rows as applying one operation after
the other to the rows in front of them. -/
def AppliesInOrder (query node : Query) : Prop :=
  ∃ select values, query.outer [] = .ok (select, values) ∧
    ∃ chain ∈ select.chains, node.RendersChain chain ∧
      ∀ (Row : Type) [DecidableEq Row] (server : Server Row) (row : Row),
        row ∈ server.relation (.derived chain) ↔
          row ∈ inOrder (server.select chain.first) (server.links chain.links)

/-- No intersection comes after an exclusion. -/
def IntersectsFirst (operators : List SetOperator) : Prop :=
  operators.Pairwise fun a b => ¬ (a = .except ∧ b = .intersect)

instance (operators : List SetOperator) : Decidable (IntersectsFirst operators) :=
  inferInstanceAs (Decidable (operators.Pairwise _))

/-! ## Intersections first -/

/-- Operations with all intersections first apply in order. -/
theorem appliesInOrder_of_intersectsFirst {query : Query} {statement : Statement}
    (hstatement : query.statement = .ok statement) {node : Query} (hnode : node ∈ query.nodes)
    (hoperations : node.operations ≠ [])
    (hfirst : IntersectsFirst (node.operations.map (·.operator))) :
    query.AppliesInOrder node := by
  obtain ⟨pieces, values, hpieces, -⟩ := statement_eq_ok_iff.mp hstatement
  obtain ⟨select, hselect, -⟩ := pieces_eq_ok hpieces
  obtain ⟨chain, hchain, hrenders⟩ := exists_chain_of_outer hselect hnode hoperations
  refine ⟨select, values, hselect, chain, hchain, hrenders, ?_⟩
  intro Row _ server row
  obtain ⟨before, between, after, base, -, hlinks, -⟩ := hrenders
  have hoperators : (server.links chain.links).map (·.1) =
      node.operations.map fun operation => chainOperator operation.operator := by
    rw [server.map_fst_links, operators_of_operationLinks hlinks]
  have hpairwise : ((server.links chain.links).map (·.1)).Pairwise
      fun a b => ¬ (a ≠ .intersect ∧ b = .intersect) := by
    rw [hoperators, List.pairwise_map]
    refine (List.pairwise_map.mp hfirst).imp ?_
    intro a b hab
    cases ha : a.operator <;> cases hb : b.operator <;> simp_all [chainOperator]
  have hsame := readChain_eq_inOrder (List.pairwise_map.mp hpairwise) (server.select chain.first)
  rw [← hsame]
  exact Iff.rfl

/-! ## A query that tells the readings apart -/

/-- A table that has a row and a table that has none. -/
def fullTable : Table := ⟨"full", none⟩

/-- The table without rows. -/
def emptyTable : Table := ⟨"empty", none⟩

/-- The operations up to the first exclusion read the full table, and all further ones
the empty table, so nothing is excluded and then nothing is left by an intersection. -/
def probes : List SetOperator → List (SetOperator × Table)
  | [] => []
  | .intersect :: rest => (.intersect, fullTable) :: probes rest
  | .except :: rest => (.except, emptyTable) :: rest.map fun operator => (operator, emptyTable)

/-- The full table combined with tables. -/
def probing (tables : List (SetOperator × Table)) : Query :=
  { source := .table fullTable
    operations := tables.map fun (operator, table) => ⟨operator, .ofTable table⟩ }

/-- The server with these tables. -/
def probeServer : Server Unit where
  table table := if table = fullTable then [()] else []
  holds _ _ := true
  item _ _ := ()
  number _ := ()
  sort _ rows := rows
  sort_perm _ rows := .refl rows

/-- A table next to a set operator is rendered as it stands. -/
theorem operandOver_ofTable (table : Table) (values : List Value) :
    (ofTable table).operandOver (ofTable table).relation values =
      .ok ({ relation := .table table }, values) := rfl

/-- The links of a probing query. -/
def probeLinks (tables : List (SetOperator × Table)) : List (Link Select) :=
  tables.map fun (operator, table) => ⟨chainOperator operator, { relation := .table table }⟩

/-- The operations of a probing query render as its links and bind nothing. -/
theorem operationLinks_probing (tables : List (SetOperator × Table)) (values : List Value) :
    operationLinks (probing tables).operations values = .ok (probeLinks tables, values) := by
  induction tables with
  | nil => rfl
  | cons probe rest ih =>
    obtain ⟨operator, table⟩ := probe
    change operationLinks (⟨operator, .ofTable table⟩ :: (probing rest).operations) values = _
    rw [operationLinks, run_seq_eq_ok]
    refine ⟨{ relation := .table table }, values, operandOver_ofTable table values, ?_⟩
    rw [run_seq_eq_ok]
    exact ⟨probeLinks rest, values, ih, rfl⟩

/-- A probing query renders. -/
theorem statement_probing (tables : List (SetOperator × Table)) :
    ∃ statement, (probing tables).statement = .ok statement := by
  have hrelation : (probing tables).relation [] =
      .ok (chained (.table fullTable) (probeLinks tables), []) := by
    refine run_seq_eq_ok.mpr ⟨.table fullTable, [], rfl, ?_⟩
    exact run_seq_eq_ok.mpr ⟨probeLinks tables, [], operationLinks_probing tables [], rfl⟩
  have hrows : (probing tables).rows (probing tables).relation [] =
      .ok ({ relation := chained (.table fullTable) (probeLinks tables) }, []) := by
    refine run_seq_eq_ok.mpr ⟨(), [], rfl, ?_⟩
    refine run_seq_eq_ok.mpr ⟨.all, [], rfl, ?_⟩
    refine run_seq_eq_ok.mpr ⟨_, [], hrelation, ?_⟩
    refine run_seq_eq_ok.mpr ⟨none, [], rfl, ?_⟩
    exact run_seq_eq_ok.mpr ⟨.none, [], rfl, rfl⟩
  have houter : (probing tables).outer [] =
      .ok ({ relation := chained (.table fullTable) (probeLinks tables) }, []) :=
    run_seq_eq_ok.mpr ⟨(), [], rfl, hrows⟩
  have hpieces : (probing tables).pieces [] =
      .ok (Select.pieces { relation := chained (.table fullTable) (probeLinks tables) }, []) :=
    run_seq_eq_ok.mpr ⟨_, [], houter, rfl⟩
  exact ⟨_, statement_eq_ok_iff.mpr ⟨_, [], hpieces, rfl⟩⟩

/-- The rows of the links of a probing query. -/
def probeRows (tables : List (SetOperator × Table)) : List (ChainOperator × List Unit) :=
  tables.map fun (operator, table) => (chainOperator operator, probeServer.table table)

/-- The links of a probing query have the rows of its tables. -/
theorem links_probing (tables : List (SetOperator × Table)) :
    probeServer.links (probeLinks tables) = probeRows tables := by
  induction tables with
  | nil => rfl
  | cons probe rest ih =>
    obtain ⟨operator, table⟩ := probe
    change (chainOperator operator, _) :: probeServer.links (probeLinks rest) = _
    rw [ih]
    rfl

/-! ## The two readings of a probing query -/

/-- Operators with no rows behind them. -/
def emptyLinks (operators : List SetOperator) : List (ChainOperator × List Unit) :=
  operators.map fun operator => (chainOperator operator, [])

/-- Behind EXCEPT the tables of the probes are empty. -/
theorem probeRows_probes_except (operators : List SetOperator) :
    probeRows (probes (.except :: operators)) = (.except, []) :: emptyLinks operators := by
  simp [probeRows, probes, emptyLinks, chainOperator, probeServer, emptyTable, fullTable,
    Function.comp_def]

/-- Behind an exclusion of nothing, by precedence everything else is excluded as well,
and that is nothing. -/
theorem mem_readChain_emptyLinks (operators : List SetOperator) {finish : List Unit → List Unit}
    (hfinish : () ∈ finish []) : () ∈ readChain finish [] (emptyLinks operators) := by
  induction operators generalizing finish with
  | nil => exact hfinish
  | cons operator rest ih =>
    cases operator with
    | intersect => exact ih hfinish
    | except =>
      apply ih
      exact mem_apply_except.mpr ⟨hfinish, by simp⟩

/-- From left to right no row comes back. -/
theorem mem_of_mem_inOrder {operators : List SetOperator} {rows : List Unit} {row : Unit}
    (hmem : row ∈ inOrder rows (emptyLinks operators)) : row ∈ rows := by
  induction operators generalizing rows with
  | nil => exact hmem
  | cons operator rest ih =>
    have hnext := ih hmem
    cases operator with
    | intersect => exact (mem_apply_intersect.mp hnext).1
    | except => exact (mem_apply_except.mp hnext).1

/-- An intersection with nothing leaves nothing. -/
theorem notMem_inOrder_emptyLinks {operators : List SetOperator}
    (hintersect : .intersect ∈ operators) (rows : List Unit) :
    () ∉ inOrder rows (emptyLinks operators) := by
  induction operators generalizing rows with
  | nil => simp at hintersect
  | cons operator rest ih =>
    intro hmem
    cases operator with
    | intersect =>
      have hback := @mem_of_mem_inOrder rest (ChainOperator.intersect.apply rows []) () hmem
      simpa using (mem_apply_intersect.mp hback).2
    | except =>
      have hrest : SetOperator.intersect ∈ rest := by simpa using hintersect
      exact ih hrest _ hmem

/-- Behind an exclusion it takes an intersection to break the order. -/
theorem intersect_mem_of_not_intersectsFirst {rest : List SetOperator}
    (hnot : ¬ IntersectsFirst (.except :: rest)) : .intersect ∈ rest := by
  by_cases hmem : SetOperator.intersect ∈ rest
  · exact hmem
  · have hnone : ∀ other ∈ rest, other ≠ .intersect :=
      fun other hother heq => hmem (heq ▸ hother)
    have hrest : IntersectsFirst rest :=
      (List.pairwise_of_forall (R := fun _ _ => True) fun _ _ => trivial).imp_of_mem
        fun _ hb _ hab => hnone _ hb hab.2
    exact absurd (List.pairwise_cons.mpr
      ⟨fun other hother hab => hnone other hother hab.2, hrest⟩) hnot

/-- An intersection after an exclusion leaves the row in one reading and takes it in
the other. -/
theorem readings_of_not_intersectsFirst {operators : List SetOperator}
    (hnot : ¬ IntersectsFirst operators) :
    () ∈ readChain id [()] (probeRows (probes operators)) ∧
      () ∉ inOrder [()] (probeRows (probes operators)) := by
  induction operators with
  | nil => exact absurd .nil hnot
  | cons operator rest ih =>
    cases operator with
    | intersect =>
      have hrest : ¬ IntersectsFirst rest := fun hfirst =>
        hnot (List.pairwise_cons.mpr ⟨fun _ _ => by simp, hfirst⟩)
      exact ih hrest
    | except =>
      have hintersect := intersect_mem_of_not_intersectsFirst hnot
      have hfinish : () ∈ ChainOperator.except.apply (id [()]) [] := by decide
      rw [probeRows_probes_except]
      refine ⟨?_, ?_⟩
      · exact mem_readChain_emptyLinks rest hfinish
      · exact notMem_inOrder_emptyLinks hintersect _

/-- A probing query does not apply an intersection after an exclusion in order. -/
theorem not_appliesInOrder_probing {operators : List SetOperator}
    (hnot : ¬ IntersectsFirst operators) :
    ¬ (probing (probes operators)).AppliesInOrder (probing (probes operators)) := by
  rintro ⟨select, values, -, ⟨first, links⟩, -, ⟨before, between, after, base, hsource,
    hoperations, hfirst⟩, hsame⟩
  have hbase : base = .table fullTable := by
    change Except.ok (Relation.table fullTable, before) = _ at hsource
    simp only [Except.ok.injEq, Prod.mk.injEq] at hsource
    exact hsource.1.symm
  have hlinks : links = probeLinks (probes operators) := by
    rw [operationLinks_probing] at hoperations
    simp only [Except.ok.injEq, Prod.mk.injEq] at hoperations
    exact hoperations.1.symm
  have hrow := hsame Unit probeServer ()
  simp only at hfirst
  rw [hfirst, hbase, hlinks] at hrow
  rw [Server.relation, links_probing] at hrow
  obtain ⟨hread, hinOrder⟩ := readings_of_not_intersectsFirst hnot
  exact hinOrder (hrow.mp hread)

/-- A probing query has the operators that it probes. -/
theorem operators_probing (operators : List SetOperator) :
    (probing (probes operators)).operations.map (·.operator) = operators := by
  induction operators with
  | nil => rfl
  | cons operator rest ih =>
    cases operator with
    | intersect => simpa [probing, probes, Function.comp_def] using ih
    | except => simp [probing, probes, Function.comp_def]

/-- Exactly the lists of operators without an intersection after an exclusion apply in
order in every node of every query that renders. -/
theorem appliesInOrder_iff (operators : List SetOperator) :
    (∀ (query : Query) (statement : Statement), query.statement = .ok statement →
        ∀ node ∈ query.nodes, node.operations ≠ [] →
          node.operations.map (·.operator) = operators → query.AppliesInOrder node) ↔
      IntersectsFirst operators := by
  constructor
  · intro happlies
    by_cases hfirst : IntersectsFirst operators
    · exact hfirst
    · exfalso
      obtain ⟨statement, hstatement⟩ := statement_probing (probes operators)
      refine not_appliesInOrder_probing hfirst
        (happlies _ statement hstatement _ ?_ ?_ (operators_probing operators))
      · exact List.mem_cons_self
      · intro hnone
        rw [← operators_probing operators, hnone] at hfirst
        exact hfirst .nil
  · rintro hfirst query statement hstatement node hnode hoperations rfl
    exact appliesInOrder_of_intersectsFirst hstatement hnode hoperations hfirst

/-- Excluding one table and then intersecting with another is written as one chain, and
the intersection comes first in it. -/
theorem not_appliesInOrder_except_intersect :
    (probing (probes [.except, .intersect])).statement =
        .ok
          { text := "SELECT * FROM (SELECT * FROM [full] EXCEPT SELECT * FROM [empty] " ++
              "INTERSECT SELECT * FROM [empty]) [__SubQuery__]"
            result := .multiple } ∧
      probing (probes [.except, .intersect]) ∈ (probing (probes [.except, .intersect])).nodes ∧
      ¬ (probing (probes [.except, .intersect])).AppliesInOrder
        (probing (probes [.except, .intersect])) := by
  refine ⟨rfl, List.mem_cons_self, ?_⟩
  have hnot : ¬ IntersectsFirst [.except, .intersect] := by decide
  exact not_appliesInOrder_probing hnot

end Query

end SqlScribe
