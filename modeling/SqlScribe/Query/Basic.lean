import SqlScribe.Condition
import SqlScribe.Direction
import SqlScribe.Table

/-!
# Queries

A query reads rows from a table or from the rows of other queries, combines them
with the rows of further queries, filters, orders and limits them, and returns
them, counts them or copies them into a table.

Main definitions:

- `Query` is the type of queries; `Query.ofTable`, `Query.ofQueries` and
  `Query.union` begin one and the functions after them change one.
- `Query.sourceTables` are the tables whose rows a query reads.
-/

namespace SqlScribe

/-! ## Parts of a query -/

/-- An expression that a query returns, under an alias if it has one. -/
structure SelectItem where
  expr : Expr
  label : Option String := none

/-- The name of a returned column: its alias, or the field that it is. -/
def SelectItem.outputName? (item : SelectItem) : Option String :=
  match item.label, item.expr with
  | some label, _ => some label
  | none, .field name => some name
  | none, _ => none

/-- An expression by which rows are ordered. -/
structure SortKey where
  expr : Expr
  direction : Direction := .ascending

/-- What a limit counts. -/
inductive LimitUnit where
  | rows
  | percent
deriving DecidableEq, Repr

/-- A limit on the number of rows. -/
structure RowLimit where
  amount : UInt32
  unit : LimitUnit := .rows
deriving DecidableEq

/-- Where the rows come from. -/
inductive Source (Query : Type) where
  | table (table : Table)
  | queries (queries : List Query)

/-- Where the rows go. -/
inductive Target where
  | caller
  | table (table : Table)
deriving DecidableEq

/-- How the rows of a further query are combined. -/
inductive SetOperator where
  | intersect
  | except
deriving DecidableEq, Repr

/-- A further query and how its rows are combined. -/
structure SetOperation (Query : Type) where
  operator : SetOperator
  query : Query

/-- A query. -/
structure Query where
  source : Source Query
  target : Target := .caller
  limit : Option RowLimit := none
  skip : UInt32 := 0
  /-- Whether the first row is wanted and there must be one. -/
  first : Bool := false
  /-- Whether the first row is wanted, if there is one. -/
  firstOrNone : Bool := false
  count : Bool := false
  shuffle : Bool := false
  /-- The returned columns; none stands for all. -/
  items : List SelectItem := []
  filter : Option Condition := none
  /-- The expressions no two rows agree on; none stands for keeping all rows. -/
  distinct : List Expr := []
  order : List SortKey := []
  operations : List (SetOperation Query) := []

namespace Query

/-! ## Building -/

/-- All rows of a table. -/
def ofTable (table : Table) : Query := { source := .table table }

/-- All rows of several queries. -/
def ofQueries (queries : List Query) : Query := { source := .queries queries }

/-- All rows of several tables. -/
def union (tables : List Table) : Query := ofQueries (tables.map ofTable)

/-- The query with a further condition. -/
def filtered (query : Query) (condition : Condition) : Query :=
  { query with
    filter := some (match query.filter with
      | some existing => .and existing condition
      | none => condition) }

/-- The query with a further returned column. -/
def selecting (query : Query) (item : SelectItem) : Query :=
  { query with items := query.items ++ [item] }

/-- The query with a further ordering expression. -/
def orderedBy (query : Query) (expr : Expr) (direction : Direction) : Query :=
  { query with order := query.order ++ [⟨expr, direction⟩] }

/-- The query combined with a further one. -/
def combined (query : Query) (operator : SetOperator) (other : Query) : Query :=
  { query with operations := query.operations ++ [⟨operator, other⟩] }

/-! ## Questions -/

/-- Whether a limit takes effect; a limit of zero does not. -/
def hasLimit (query : Query) : Bool := query.limit.any (0 < ·.amount)

/-- Whether rows are skipped. -/
def hasSkip (query : Query) : Bool := 0 < query.skip

/-- Whether the returned columns are listed. -/
def hasItems (query : Query) : Bool := !query.items.isEmpty

/-- Whether there is a condition. -/
def hasFilter (query : Query) : Bool := query.filter.isSome

/-- Whether rows are made distinct. -/
def hasDistinct (query : Query) : Bool := !query.distinct.isEmpty

/-- Whether there is an ordering. -/
def hasOrder (query : Query) : Bool := !query.order.isEmpty

/-- Whether further queries are combined. -/
def hasOperations (query : Query) : Bool := !query.operations.isEmpty

/-- Whether some further query is intersected. -/
def hasIntersections (query : Query) : Bool := query.operations.any (·.operator = .intersect)

/-- Whether some further query is excluded. -/
def hasExclusions (query : Query) : Bool := query.operations.any (·.operator = .except)

/-- Whether anything but the source and the target is set. -/
def hasConditions (query : Query) : Bool :=
  query.hasLimit || query.hasSkip || query.first || query.firstOrNone || query.count ||
    query.shuffle || query.hasItems || query.hasFilter || query.hasDistinct || query.hasOrder ||
    query.hasOperations

/-- Whether only one row is wanted. -/
def wantsOne (query : Query) : Bool := query.first || query.firstOrNone

/-! ## Source tables -/

mutual

/-- The tables whose rows a query reads, in order.  Further queries that are
combined with it do not count. -/
def sourceTables : Query → List Table
  | ⟨source, _, _, _, _, _, _, _, _, _, _, _, _⟩ => tablesOfSource source

/-- The tables of a source. -/
def tablesOfSource : Source Query → List Table
  | .table table => [table]
  | .queries queries => tablesOfQueries queries

/-- The tables of several queries. -/
def tablesOfQueries : List Query → List Table
  | [] => []
  | query :: rest => query.sourceTables ++ tablesOfQueries rest

end

/-- A query over tables reads exactly these tables. -/
@[simp] theorem sourceTables_union (tables : List Table) :
    (union tables).sourceTables = tables := by
  simp only [union, ofQueries, sourceTables, tablesOfSource]
  induction tables with
  | nil => rfl
  | cons table rest ih =>
    simpa [ofTable, sourceTables, tablesOfSource, tablesOfQueries] using ih

end Query

end SqlScribe
