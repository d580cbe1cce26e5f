import SqlScribe.Proofs.Rendering.Nodes

/-!
# What a node renders

A node is a query in its place: a whole query, or one inside another query.  Its
place and its flags decide which of its parts are rendered.  An ordering that does
not decide which rows there are is dropped inside another query, and counted rows
are rendered only if limits or distinct expressions apply before they are counted.

Main definitions:

- `Query.inside` are the nodes inside a query.
- `Query.keepsRows` and `Query.keepsOrder` say which parts of a node are rendered;
  `Query.returnedExprs` and `Query.orderingExprs` are the expressions in them, and
  `Query.RendersOnly` gives all of them a property.
- `Query.listing` is the query that lists the rows of a node.

Main results:

- `Query.selectOver_placed`: a node is rendered as its listing, counted if need be,
  or as the number of the rows that it reads.
-/

namespace SqlScribe.Query

open Sql

/-! ## Places -/

/-- The nodes inside a query. -/
def inside (query : Query) : List Query :=
  nodesOfSource query.source ++ nodesOfOperations query.operations

/-- The nodes of a query are the query and the nodes inside it. -/
theorem nodes_eq_cons (query : Query) : query.nodes = query :: query.inside := by
  cases query
  rfl

/-- All nodes of a query have a property if the query and the nodes inside it have. -/
theorem forall_mem_nodes_iff (query : Query) (holds : Query → Prop) :
    (∀ node ∈ query.nodes, holds node) ↔ holds query ∧ ∀ node ∈ query.inside, holds node := by
  rw [nodes_eq_cons, List.forall_mem_cons]

/-- What holds of the nodes of a query holds of the query and of the nodes inside it. -/
theorem forall_mem_nodes_append_iff (query : Query) (rest : List Query) (holds : Query → Prop) :
    (∀ node ∈ query.nodes ++ rest, holds node) ↔
      (holds query ∧ ∀ node ∈ query.inside, holds node) ∧ ∀ node ∈ rest, holds node := by
  rw [List.forall_mem_append, forall_mem_nodes_iff]

/-- A query as it is rendered in its place. -/
def placed (whole : Bool) (query : Query) : Query :=
  if whole then query else query.derivable

/-- Renders a query in its place over its source. -/
def nodeOver (whole : Bool) (query : Query) (relation : Binding (Relation Select)) :
    Binding Select := do
  Binding.check query.consistent
  (query.placed whole).selectOver relation

theorem outerOver_eq (query : Query) (relation : Binding (Relation Select)) :
    query.outerOver relation = query.nodeOver true relation := rfl

theorem innerOver_eq (query : Query) (relation : Binding (Relation Select)) :
    query.innerOver relation = query.nodeOver false relation := rfl

/-! ## Parts -/

/-- Whether the rows of a node are listed, also where they are only counted. -/
def keepsRows (query : Query) : Bool :=
  !query.count || query.hasLimit || query.hasSkip || query.hasDistinct

/-- Whether a node keeps its ordering: a whole query does, and so does a query whose
ordering decides which rows it has.  Before rows are counted, flags that want the
first row do not count as limits. -/
def keepsOrder (whole : Bool) (query : Query) : Bool :=
  if query.count then query.hasLimit || query.hasSkip else whole || query.isLimited

/-- The expressions that a listing of a node returns. -/
def listedExprs (query : Query) : List Expr :=
  if query.hasItems then query.items.map (·.expr) else query.distinct

/-- The returned expressions that a node renders. -/
def returnedExprs (query : Query) : List Expr :=
  if query.keepsRows then query.listedExprs else []

/-- The ordering expressions that a node renders. -/
def orderingExprs (whole : Bool) (query : Query) : List Expr :=
  if query.keepsOrder whole && !query.shuffle then query.order.map (·.expr) else []

/-- Every expression and the condition that a node renders have a property. -/
def RendersOnly (value : Expr → Bool) (condition : Condition → Bool) (whole : Bool)
    (node : Query) : Prop :=
  (∀ expr ∈ node.returnedExprs ++ node.orderingExprs whole, value expr = true) ∧
    ∀ filter ∈ node.filter, condition filter = true

/-- The query that lists the rows of a node. -/
def listing (whole : Bool) (query : Query) : Query :=
  { query with
    count := false
    first := query.first && !query.count
    firstOrNone := query.firstOrNone && !query.count
    order := if query.keepsOrder whole then query.order else []
    shuffle := query.keepsOrder whole && query.shuffle }

@[simp] theorem filter_listing (whole : Bool) (query : Query) :
    (query.listing whole).filter = query.filter := rfl

@[simp] theorem distinct_listing (whole : Bool) (query : Query) :
    (query.listing whole).distinct = query.distinct := rfl

@[simp] theorem hasDistinct_listing (whole : Bool) (query : Query) :
    (query.listing whole).hasDistinct = query.hasDistinct := rfl

@[simp] theorem hasSkip_listing (whole : Bool) (query : Query) :
    (query.listing whole).hasSkip = query.hasSkip := rfl

@[simp] theorem hasLimit_listing (whole : Bool) (query : Query) :
    (query.listing whole).hasLimit = query.hasLimit := rfl

@[simp] theorem listedExprs_listing (whole : Bool) (query : Query) :
    (query.listing whole).listedExprs = query.listedExprs := rfl

@[simp] theorem shuffle_listing (whole : Bool) (query : Query) :
    (query.listing whole).shuffle = (query.keepsOrder whole && query.shuffle) := rfl

@[simp] theorem order_listing (whole : Bool) (query : Query) :
    (query.listing whole).order = if query.keepsOrder whole then query.order else [] := rfl

/-- The ordering expressions of a node are those of its listing. -/
theorem orderingExprs_eq (whole : Bool) (query : Query) :
    query.orderingExprs whole =
      if (query.listing whole).shuffle then []
      else (query.listing whole).order.map (·.expr) := by
  rw [orderingExprs, shuffle_listing, order_listing]
  cases query.keepsOrder whole <;> cases query.shuffle <;> simp

/-- A query that is not listed has no ordering to keep. -/
theorem keepsOrder_of_not_keepsRows (whole : Bool) {query : Query}
    (hrows : query.keepsRows = false) : query.keepsOrder whole = false := by
  simp only [keepsRows, Bool.or_eq_false_iff, Bool.not_eq_false'] at hrows
  simp [keepsOrder, hrows]

/-- A query that is not listed renders its condition only. -/
theorem exprs_of_not_keepsRows (whole : Bool) {query : Query} (hrows : query.keepsRows = false) :
    query.returnedExprs = [] ∧ query.orderingExprs whole = [] := by
  have hkeeps := keepsOrder_of_not_keepsRows whole hrows
  simp [returnedExprs, orderingExprs, hrows, hkeeps]

/-! ## Rendering -/

/-- The number of the rows of a SELECT. -/
def counting (select : Select) : Select := { columns := .count, relation := .derived ⟨select, []⟩ }

/-- Before rows are counted only limits and skipped rows limit them. -/
theorem isLimited_counted (query : Query) :
    query.counted.isLimited = (query.hasLimit || query.hasSkip) := by
  change (query.hasLimit || query.hasSkip || (false || false)) = _
  rw [Bool.or_self, Bool.or_false]

/-- Only an ordering that decides which rows there are is kept inside another query. -/
theorem isOrdered_derivable (query : Query) :
    query.derivable.isOrdered = (query.isLimited && query.isOrdered) := by
  unfold derivable
  cases query.isLimited <;> rfl

/-- The listed rows are ordered if the query keeps its ordering. -/
theorem isOrdered_listing (whole : Bool) (query : Query) :
    (query.listing whole).isOrdered = (query.keepsOrder whole && query.isOrdered) := by
  simp only [isOrdered, hasOrder, order_listing, shuffle_listing]
  cases query.keepsOrder whole <;> simp

/-- An ordering that is dropped inside another query is dropped before counting, too. -/
theorem derivable_counted_derivable (query : Query) :
    query.derivable.counted.derivable = query.counted.derivable := by
  cases hlimited : query.isLimited with
  | true => simp [derivable, hlimited]
  | false =>
    have hkept : (query.hasLimit || query.hasSkip) = false := by
      simp_all [isLimited]
    have hcounted : query.counted.isLimited = false := by rw [isLimited_counted, hkept]
    have hdropped : query.derivable.counted.isLimited = false := by
      rw [isLimited_counted]
      simpa [derivable, hlimited, hasLimit, hasSkip] using hkept
    rw [derivable, hdropped, derivable.eq_def query.counted, hcounted]
    simp [derivable, hlimited, counted]

/-- Counted rows are listed without flags that want the first row. -/
theorem derivable_counted (whole : Bool) {query : Query} (hcount : query.count = true) :
    query.counted.derivable = query.listing whole := by
  have hkeeps : query.counted.isLimited = query.keepsOrder whole := by
    rw [isLimited_counted, keepsOrder, if_pos hcount]
  rw [derivable, hkeeps]
  cases hkept : query.keepsOrder whole <;> simp [listing, counted, hcount, hkept]

/-- Rows that are not counted are listed by the query in its place. -/
theorem placed_eq_listing (whole : Bool) {query : Query} (hcount : query.count = false) :
    query.placed whole = query.listing whole := by
  have hkeeps : query.keepsOrder whole = (whole || query.isLimited) := by simp [keepsOrder, hcount]
  have hlisting : query.listing whole =
      if whole || query.isLimited then query else { query with order := [], shuffle := false } := by
    rw [listing, hkeeps]
    cases query
    subst hcount
    cases whole || isLimited _ <;> simp
  rw [hlisting, placed, derivable]
  cases whole <;> simp

/-- A node is rendered as its listing, counted if need be, or as the number of the
rows that it reads. -/
theorem selectOver_placed (whole : Bool) (query : Query) (relation : Binding (Relation Select)) :
    (query.placed whole).selectOver relation =
      if query.keepsRows then
        (query.listing whole).rows relation >>= fun select =>
          pure (if query.count then counting select else select)
      else
        relation >>= fun relation =>
          query.condition >>= fun condition =>
            pure { columns := .count, relation, condition } := by
  have hplaced : (query.placed whole).count = query.count ∧
      (query.placed whole).condition = query.condition ∧
      ((query.placed whole).hasLimit || (query.placed whole).hasSkip ||
        (query.placed whole).hasDistinct) =
        (query.hasLimit || query.hasSkip || query.hasDistinct) := by
    unfold placed derivable
    split
    · exact ⟨rfl, rfl, rfl⟩
    · split <;> exact ⟨rfl, rfl, rfl⟩
  obtain ⟨hcounts, hcondition, hlimits⟩ := hplaced
  unfold selectOver number
  rw [hcounts, hcondition, hlimits]
  cases hcount : query.count with
  | false =>
    rw [placed_eq_listing whole hcount]
    simp [keepsRows, hcount]
  | true =>
    have hlisting : (query.placed whole).counted.derivable = query.listing whole := by
      rw [← derivable_counted whole hcount, placed]
      cases whole
      · exact derivable_counted_derivable query
      · rfl
    have hkeeps : query.keepsRows = (query.hasLimit || query.hasSkip || query.hasDistinct) := by
      simp [keepsRows, hcount]
    rw [hlisting, hkeeps]
    rfl

end SqlScribe.Query
