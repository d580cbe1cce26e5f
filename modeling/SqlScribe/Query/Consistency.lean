import SqlScribe.Query.Basic
import SqlScribe.RenderError

/-!
# Consistency of queries

Some parts of a query exclude each other whatever expressions it contains.

Main definitions:

- `Query.consistent` checks one query against its own parts.
- `Query.distinctOrder` checks that distinct rows are ordered by what they contain.
- `Query.copiedColumns` names the columns that a copy fills.

Main results:

- `Query.consistent_eq_ok_iff` lists what a consistent query meets, and
  `Query.distinctOrder_eq_ok_iff` what a query with distinct rows does.
-/

namespace SqlScribe.Query

/-- Whether a limit counts percent. -/
def hasPercent (query : Query) : Bool := query.limit.any (·.unit = .percent)

/-- Whether the rows go into a table. -/
def isCopy (query : Query) : Bool := query.target ≠ .caller

/-- The source of a query names at least one query, and none that copies. -/
def consistentSource (query : Query) : Except RenderError Unit :=
  match query.source with
  | .table _ => .ok ()
  | .queries queries =>
    if queries.isEmpty then .error .noQueries
    else if queries.any isCopy then .error .nestedCopy
    else .ok ()

/-- Checks the parts of a query against each other. -/
def consistent (query : Query) : Except RenderError Unit :=
  if query.hasSkip && !query.hasOrder then .error .skipWithoutOrder
  else if query.hasSkip && query.hasPercent then .error .skipUnderPercent
  else
    match query.limit.filter fun limit => limit.unit = .percent && 100 < limit.amount with
    | some limit => .error (.percentTooGreat limit.amount)
    | none =>
      if query.first && query.firstOrNone then .error .firstTwice
      else if query.shuffle && query.hasOrder then .error .shuffledOrder
      else if query.hasDistinct && query.hasItems &&
          !Expr.sameList (query.items.map (·.expr)) query.distinct then
        .error .distinctOtherThanItems
      else query.consistentSource

/-- What a consistent query meets. -/
theorem consistent_eq_ok_iff {query : Query} :
    query.consistent = .ok () ↔
      (query.hasSkip = true → query.hasOrder = true ∧ query.hasPercent = false) ∧
        (query.limit.filter fun limit => limit.unit = .percent && 100 < limit.amount) = none ∧
        (query.first = true → query.firstOrNone = false) ∧
        (query.shuffle = true → query.hasOrder = false) ∧
        (query.hasDistinct = true → query.hasItems = true →
          Expr.sameList (query.items.map (·.expr)) query.distinct = true) ∧
        query.consistentSource = .ok () := by
  unfold consistent
  cases hlimit : query.limit.filter fun limit => limit.unit = .percent && 100 < limit.amount with
  | some limit =>
    repeat' split
    all_goals simp_all
  | none =>
    repeat' split
    all_goals simp_all

/-- Distinct rows can only be ordered by the expressions that make them distinct. -/
def distinctOrder (query : Query) : Except RenderError Unit :=
  if !query.hasDistinct then .ok ()
  else if query.shuffle then .error .shuffledDistinct
  else
    match query.order.find? fun key => !query.distinct.any (·.same key.expr) with
    | some key => .error (.orderOutsideDistinct key.expr)
    | none => .ok ()

/-- Distinct rows are in order if they are not in random order and are ordered by what they
contain. -/
theorem distinctOrder_eq_ok_iff {query : Query} :
    query.distinctOrder = .ok () ↔
      (query.hasDistinct = true → query.shuffle = false ∧
        ∀ key ∈ query.order, query.distinct.any (·.same key.expr) = true) := by
  unfold distinctOrder
  cases hdistinct : query.hasDistinct with
  | false => simp
  | true =>
    cases hshuffle : query.shuffle with
    | true => simp
    | false =>
      cases hfind : query.order.find? fun key => !query.distinct.any (·.same key.expr) with
      | some key =>
        have hmem := List.mem_of_find?_eq_some hfind
        have hkey := List.find?_some hfind
        simp only [Bool.not_true, Bool.false_eq_true, if_false, reduceCtorEq, false_iff]
        intro horder
        simp [(horder trivial).2 key hmem] at hkey
      | none =>
        rw [List.find?_eq_none] at hfind
        simpa using hfind

/-- The name of a copied column. -/
def copiedItem (item : SelectItem) : Except RenderError String :=
  match item.outputName? with
  | some name => .ok name
  | none => .error .copiedWithoutAlias

/-- The name of a copied distinct expression. -/
def copiedKey : Expr → Except RenderError String
  | .field name => .ok name
  | _ => .error .copiedKeyNotField

/-- The columns that a copy fills; none stands for all. -/
def copiedColumns (query : Query) : Except RenderError (List String) :=
  if query.hasItems then query.items.mapM copiedItem
  else if query.hasDistinct then query.distinct.mapM copiedKey
  else .ok []

end SqlScribe.Query
