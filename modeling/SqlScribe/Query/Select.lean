import SqlScribe.Condition.Predicate
import SqlScribe.Query.Consistency

/-!
# Queries in the server's language

A query becomes a SELECT.  Queries inside it become derived tables, where an
ordering may stand only if it decides which rows there are; an ordered query next
to a set operator is wrapped into one more SELECT.

Main definitions:

- `Query.relation` renders what a query reads, with the queries inside it.
- `Query.outer` renders a whole query; `Query.inner` renders one inside another.
-/

namespace SqlScribe.Query

/-! ## Effective parts -/

/-- The limit that takes effect: one row if only one is wanted. -/
def effectiveLimit (query : Query) : Option RowLimit :=
  if query.wantsOne then some ⟨1, .rows⟩ else query.limit.filter (0 < ·.amount)

/-- Whether an ordering decides which rows a query has. -/
def isLimited (query : Query) : Bool := query.hasLimit || query.hasSkip || query.wantsOne

/-- The query as it stands inside another one: without an ordering that does not
decide which rows it has. -/
def derivable (query : Query) : Query :=
  if query.isLimited then query else { query with order := [], shuffle := false }

/-- The query whose rows are counted. -/
def counted (query : Query) : Query :=
  { query with count := false, first := false, firstOrNone := false }

/-- Whether the rows come in any order. -/
def isOrdered (query : Query) : Bool := query.hasOrder || query.shuffle

/-! ## Parts of a SELECT -/

/-- Renders a returned column. -/
def renderItem (item : SelectItem) : Binding (Sql.Scalar × Option String) := do
  let scalar ← item.expr.scalar
  pure (scalar, item.label)

/-- Renders an ordering expression. -/
def renderKey (key : SortKey) : Binding (Sql.Scalar × Direction) := do
  let scalar ← key.expr.scalar
  pure (scalar, key.direction)

/-- Renders what is returned. -/
def selectList (query : Query) : Binding Sql.SelectList :=
  if query.hasItems then do
    let items ← query.items.mapM renderItem
    pure (.items items)
  else if query.hasDistinct then do
    let items ← query.distinct.mapM fun expr => renderItem ⟨expr, none⟩
    pure (.items items)
  else pure .all

/-- Renders the condition on the rows. -/
def condition (query : Query) : Binding (Option Sql.Predicate) :=
  Binding.optional Condition.predicate query.filter

/-- Renders the ordering. -/
def ordering (query : Query) : Binding Sql.Ordering :=
  if query.shuffle then pure .random
  else if query.hasOrder then do
    let keys ← query.order.mapM renderKey
    pure (.keys keys)
  else pure .none

/-- The skipped and returned rows of a query that skips some. -/
def paging (query : Query) : Option Sql.Paging :=
  if query.hasSkip then
    some ⟨query.skip.toNat, query.effectiveLimit.map fun limit => limit.amount.toNat⟩
  else none

/-! ## SELECTs over a given source -/

/-- Renders a query that returns rows. -/
def rows (query : Query) (relation : Binding (Sql.Relation Sql.Select)) :
    Binding Sql.Select := do
  Binding.check query.distinctOrder
  let columns ← query.selectList
  let relation ← relation
  let condition ← query.condition
  let ordering ← query.ordering
  pure
    { distinct := query.hasDistinct
      top := if query.hasSkip then none else query.effectiveLimit
      columns, relation, condition, ordering
      paging := query.paging }

/-- Renders a query that counts rows.  Limited and distinct rows are counted in a
derived table. -/
def number (query : Query) (relation : Binding (Sql.Relation Sql.Select)) :
    Binding Sql.Select :=
  if query.hasLimit || query.hasSkip || query.hasDistinct then do
    let inner ← query.counted.derivable.rows relation
    pure { columns := .count, relation := .derived ⟨inner, []⟩ }
  else do
    let relation ← relation
    let condition ← query.condition
    pure { columns := .count, relation, condition }

/-- Renders a query over its source. -/
def selectOver (query : Query) (relation : Binding (Sql.Relation Sql.Select)) : Binding Sql.Select :=
  if query.count then query.number relation else query.rows relation

/-- Renders a whole query over its source. -/
def outerOver (query : Query) (relation : Binding (Sql.Relation Sql.Select)) :
    Binding Sql.Select := do
  Binding.check query.consistent
  query.selectOver relation

/-- Renders a query inside another one over its source. -/
def innerOver (query : Query) (relation : Binding (Sql.Relation Sql.Select)) :
    Binding Sql.Select := do
  Binding.check query.consistent
  query.derivable.selectOver relation

/-- Renders a query next to a set operator over its source. -/
def operandOver (query : Query) (relation : Binding (Sql.Relation Sql.Select)) :
    Binding Sql.Select := do
  let select ← query.innerOver relation
  pure (if query.derivable.isOrdered then select.wrap else select)

/-! ## Sources -/

/-- The operator of a set operation. -/
def chainOperator : SetOperator → Sql.ChainOperator
  | .intersect => .intersect
  | .except => .except

/-- A source combined with further SELECTs. -/
def chained (base : Sql.Relation Sql.Select) (links : List (Sql.Link Sql.Select)) :
    Sql.Relation Sql.Select :=
  if links.isEmpty then base else .derived ⟨{ relation := base }, links⟩

/-- SELECTs whose rows all count. -/
def unionAll (first : Sql.Select) (rest : List Sql.Select) : Sql.Relation Sql.Select :=
  .derived ⟨first, rest.map fun select => ⟨.unionAll, select⟩⟩

mutual

/-- Renders what a query reads. -/
def relation : Query → Binding (Sql.Relation Sql.Select)
  | ⟨source, _, _, _, _, _, _, _, _, _, _, _, operations⟩ => do
    let base ← sourceRelation source
    let links ← operationLinks operations
    pure (chained base links)

/-- Renders a source.  Several queries stand next to set operators, a single one
does not. -/
def sourceRelation : Source Query → Binding (Sql.Relation Sql.Select)
  | .table table => pure (.table table)
  | .queries [] => Binding.fail .noQueries
  | .queries [query] => do
    let select ← query.innerOver query.relation
    pure (.derived ⟨select, []⟩)
  | .queries (query :: rest) => do
    let select ← query.operandOver query.relation
    let rest ← operands rest
    pure (unionAll select rest)

/-- Renders queries next to set operators. -/
def operands : List Query → Binding (List Sql.Select)
  | [] => pure []
  | query :: rest => do
    let select ← query.operandOver query.relation
    let rest ← operands rest
    pure (select :: rest)

/-- Renders set operations. -/
def operationLinks : List (SetOperation Query) → Binding (List (Sql.Link Sql.Select))
  | [] => pure []
  | ⟨operator, query⟩ :: rest => do
    let select ← query.operandOver query.relation
    let rest ← operationLinks rest
    pure (⟨chainOperator operator, select⟩ :: rest)

end

/-- Renders a whole query. -/
def outer (query : Query) : Binding Sql.Select := query.outerOver query.relation

/-- Renders a query inside another one. -/
def inner (query : Query) : Binding Sql.Select := query.innerOver query.relation

end SqlScribe.Query
