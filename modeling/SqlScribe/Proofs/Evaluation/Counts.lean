import SqlScribe.Proofs.Evaluation.Database
import SqlScribe.Proofs.Rendering.NodeParts
import SqlScribe.Query.Statement

/-!
# Counted rows

The statement for the number of the rows of a query is not the statement of the query inside a
count.  Where no limit applies, orderings are left out, and so are the returned columns if rows may
repeat.  The number is that of the rows of the query all the same.

Main definitions:

- `Database.Counts` says that a SELECT has the number of the rows of another one.
- `Query.asCount` is the query for the number of the rows of a query.
- `Query.Answers` says which rows the statement of a query has in a database.

Main results:

- `Query.agree_rows_derivable`: without an ordering that does not decide which rows it has, a query
  has the same rows up to their order.
- `Query.count_rows`: the number that is counted is the number of the rows.
-/

namespace SqlScribe

open Sql (Relation SelectList Select)

/-! ## Rows in another order -/

/-- What is left without repetitions does not depend on the order of rows, up to the order. -/
theorem Sql.perm_eraseDups {Row : Type} [DecidableEq Row] {rows others : List Row}
    (hperm : rows.Perm others) : rows.eraseDups.Perm others.eraseDups := by
  rw [List.perm_ext_iff_of_nodup (nodup_eraseDups rows) (nodup_eraseDups others)]
  intro row
  rw [List.mem_eraseDups, List.mem_eraseDups, hperm.mem_iff]

namespace Server

variable {Row : Type} (server : Server Row)

/-- Rows in another order are returned in another order, and as many of them are counted. -/
theorem perm_returned (columns : SelectList) {rows others : List Row} (hperm : rows.Perm others) :
    (server.returned columns rows).Perm (server.returned columns others) := by
  cases columns with
  | all => exact hperm
  | count => rw [returned, returned, hperm.length_eq]
  | items list => exact hperm.map _

/-- Unless the rows are counted, one row is returned of each. -/
theorem length_returned {columns : SelectList} (hcolumns : columns ≠ .count) (rows : List Row) :
    (server.returned columns rows).length = rows.length := by
  cases columns with
  | all => rfl
  | count => exact absurd rfl hcolumns
  | items list => exact List.length_map _

variable [DecidableEq Row]

/-- An ordering of rows does not change how many there are. -/
theorem length_select {columns : SelectList} (hcolumns : columns ≠ .count)
    (relation : Relation Select) (condition : Option Sql.Predicate) (ordering : Sql.Ordering) :
    (server.select { columns, relation, condition, ordering }).length =
      (server.filter condition (server.relation relation)).length := by
  rw [select]
  exact (server.length_returned hcolumns _).trans (server.sort_perm ordering _).length_eq

/-- A SELECT that counts returns the number of the rows that meet its condition. -/
theorem select_count (relation : Relation Select) (condition : Option Sql.Predicate) :
    server.select { columns := .count, relation, condition } =
      [server.number (server.filter condition (server.relation relation)).length] := by
  rw [select]
  exact congrArg (fun length => [server.number length]) (server.sort_perm _ _).length_eq

/-- Counting a SELECT returns the number of its rows. -/
theorem select_counting (select : Select) :
    server.select (Query.counting select) = [server.number (server.select select).length] := by
  rw [Query.counting, select_count, relation]
  rfl

end Server

/-- A SELECT has the number of the rows of another one, each with its bound values. -/
def Database.Counts {Row : Type} [DecidableEq Row] (database : Database Row) (bound : List Value)
    (select : Select) (bound' : List Value) (counting : Select) : Prop :=
  (database.server bound').select counting =
    [database.number ((database.server bound).select select).length]

/-- Without limits two orderings of the same rows leave the same ones. -/
theorem Database.perm_select {Row : Type} [DecidableEq Row] {database : Database Row}
    {bound bound' : List Value} {distinct : Bool} {columns others : SelectList}
    {relation relation' : Relation Select} {condition condition' : Option Sql.Predicate}
    (hcolumns : database.SameColumns bound columns bound' others)
    (hrelation : database.SameSource bound relation bound' relation')
    (hcondition : database.SameFilter bound condition bound' condition')
    (ordering ordering' : Sql.Ordering) :
    ((database.server bound).select { distinct, columns, relation, condition, ordering }).Perm
      ((database.server bound').select ⟨distinct, none, others, relation', condition', ordering',
        none⟩) := by
  rw [Server.select, Server.select, hrelation.filter hcondition]
  have hsorted := ((database.server bound).sort_perm ordering _).trans
    ((database.server bound').sort_perm ordering' ((database.server bound').filter condition'
      ((database.server bound').relation relation'))).symm
  have hreturned := ((database.server bound).perm_returned columns hsorted).trans
    (.of_eq (hcolumns _))
  cases distinct with
  | true => exact Sql.perm_eraseDups hreturned
  | false => exact hreturned

namespace Query

open Binding Database

/-! ## Queries that are not limited -/

/-- A query that is not limited has no limit that counts. -/
theorem effectiveLimit_of_not_isLimited {query : Query} (hlimited : query.isLimited = false) :
    query.effectiveLimit = none := by
  simp only [isLimited, Bool.or_eq_false_iff] at hlimited
  obtain ⟨⟨hlimit, -⟩, hone⟩ := hlimited
  rw [effectiveLimit, hone, if_neg Bool.false_ne_true, Option.filter_eq_none_iff]
  intro limit hsome
  rw [hasLimit, hsome, Option.any_some] at hlimit
  exact Bool.not_eq_true _ ▸ hlimit

/-- A query that is not limited skips no rows. -/
theorem hasSkip_of_not_isLimited {query : Query} (hlimited : query.isLimited = false) :
    query.hasSkip = false := by
  simp only [isLimited, Bool.or_eq_false_iff] at hlimited
  exact hlimited.1.2

/-- A query that is not limited is rendered without limits. -/
theorem rows_of_not_isLimited {query : Query} (hlimited : query.isLimited = false)
    (relation : Binding (Relation Select)) :
    query.rows relation = (do
      Binding.check query.distinctOrder
      let columns ← query.selectList
      let relation ← relation
      let condition ← query.condition
      let ordering ← query.ordering
      pure { distinct := query.hasDistinct, columns, relation, condition, ordering }) := by
  rw [rows, paging, effectiveLimit_of_not_isLimited hlimited, hasSkip_of_not_isLimited hlimited]
  rfl

/-- Only the rows of a query are rendered in place of their number. -/
theorem ne_count_of_selectList {query : Query} {values values' : List Value} {columns : SelectList}
    (hcolumns : query.selectList values = .ok (columns, values')) : columns ≠ .count := by
  rintro rfl
  unfold selectList at hcolumns
  split at hcolumns
  · obtain ⟨items, between, -, hitems⟩ := run_seq_eq_ok.mp hcolumns
    cases hitems
  · split at hcolumns
    · obtain ⟨items, between, -, hitems⟩ := run_seq_eq_ok.mp hcolumns
      cases hitems
    · cases hcolumns

variable {Row : Type} [DecidableEq Row] (database : Database Row)
  {relation : Binding (Relation Select)}

/-- Without an ordering that does not decide which rows it has, a query has the same rows up to
their order. -/
theorem agree_rows_derivable (query : Query)
    (hrelation : Agree database.SameSource relation relation) :
    Agree (fun bound select bound' other =>
        ((database.server bound).select select).Perm ((database.server bound').select other))
      (query.rows relation) (query.derivable.rows relation) := by
  cases hlimited : query.isLimited with
  | true =>
    rw [derivable, if_pos hlimited]
    exact (query.agree_rows database hrelation).mono fun _ _ _ _ hrows => .of_eq hrows
  | false =>
    have hdropped : query.derivable.isLimited = false := by
      rwa [derivable, if_neg (by simp [hlimited])]
    rw [rows_of_not_isLimited hlimited, rows_of_not_isLimited hdropped, derivable,
      if_neg (by simp [hlimited])]
    apply (agree_check _ _).seq
    intro _ _
    apply (query.agree_selectList database).seq
    intro _ _
    apply hrelation.seq
    intro _ _
    apply (query.agree_condition database).seq
    intro _ _
    -- Only the query in its own place binds what its ordering needs.
    apply (query.agree_ordering database).behind
    intro _ _ _ _
    exact agree_pure fun _ _ hcondition hrelation hcolumns _ =>
      perm_select hcolumns hrelation hcondition _ _

/-! ## Counted rows -/

/-- The query for the number of the rows of a query. -/
def asCount (query : Query) : Query := { query with count := true }

/-- What a query reads does not depend on whether its rows are counted. -/
theorem relation_asCount (query : Query) : query.asCount.relation = query.relation := by
  cases query
  rfl

/-- A query that lists all of its rows is what is counted. -/
theorem counted_asCount {query : Query} (hcount : query.count = false)
    (hfirst : query.first = false) (hnone : query.firstOrNone = false) :
    query.asCount.counted = query := by
  cases query
  subst hcount hfirst hnone
  rfl

/-- Where no limit applies and rows may repeat, one row is returned of each that is read. -/
theorem agree_rows_read {query : Query} (hlimited : query.isLimited = false)
    (hdistinct : query.hasDistinct = false)
    (hrelation : Agree database.SameSource relation relation) :
    Agree database.Counts (query.rows relation) (do
      let relation ← relation
      let condition ← query.condition
      pure { columns := .count, relation, condition }) := by
  rw [rows_of_not_isLimited hlimited, hdistinct]
  apply (agree_check _ _).behind
  intro _ _ _ _
  apply (query.agree_selectList database).behind
  intro _ _ _ hcolumns
  apply hrelation.seq
  intro _ _
  apply (query.agree_condition database).seq
  intro _ _
  apply (query.agree_ordering database).behind
  intro _ _ _ _
  refine agree_pure fun _ _ hcondition hrelation => ?_
  rw [Counts, Server.select_count, Server.length_select _ (ne_count_of_selectList hcolumns),
    hrelation.filter hcondition]
  rfl

/-- The number of rows is that of the rows that are listed over the same source. -/
theorem agree_rows_number {query : Query} (hcount : query.count = false)
    (hfirst : query.first = false) (hnone : query.firstOrNone = false)
    (hrelation : Agree database.SameSource relation relation) :
    Agree database.Counts (query.rows relation) (query.asCount.number relation) := by
  rw [number, counted_asCount hcount hfirst hnone]
  split
  -- The rows are counted in a derived table, in which they may come in another order.
  · rw [← bind_pure (query.rows relation)]
    apply (query.agree_rows_derivable database hrelation).map
    intro bound select bound' other hperm
    rw [Counts, hperm.length_eq]
    exact (database.server bound').select_counting other
  · rename_i hlists
    have hnothing : (query.hasLimit || query.hasSkip || query.hasDistinct) = false :=
      Bool.eq_false_iff.mpr hlists
    obtain ⟨⟨hlimit, hskip⟩, hdistinct⟩ :
        (query.hasLimit = false ∧ query.hasSkip = false) ∧ query.hasDistinct = false := by
      simpa only [Bool.or_eq_false_iff] using hnothing
    have hlimited : query.isLimited = false := by
      rw [isLimited, wantsOne, hlimit, hskip, hfirst, hnone]
      rfl
    exact agree_rows_read database hlimited hdistinct hrelation

/-! ## Statements -/

/-- A statement has these rows: it consists of the text of a SELECT of a query and of the values
bound in it, and the SELECT has these rows with the values. -/
def Answers (query : Query) (dialect : Dialect) (statement : Statement) (rows : List Row) : Prop :=
  ∃ select values, query.outer [] = .ok (select, values) ∧
    statement.text = select.pieces.spell dialect ∧
    statement.parameters.map (·.value) = values ∧
    (database.server values).select select = rows

/-- A statement has its rows in one order. -/
theorem Answers.unique {database : Database Row} {query : Query} {dialect : Dialect}
    {statement : Statement} {rows others : List Row}
    (hrows : query.Answers database dialect statement rows)
    (hothers : query.Answers database dialect statement others) : rows = others := by
  obtain ⟨select, values, hselect, -, -, rfl⟩ := hrows
  obtain ⟨select', values', hselect', -, -, rfl⟩ := hothers
  rw [hselect, Except.ok.injEq, Prod.mk.injEq] at hselect'
  rw [hselect'.1, hselect'.2]

/-- The statement of a query without a target is a SELECT of it with its bound values. -/
theorem outer_of_statement {query : Query} {dialect : Dialect} {statement : Statement}
    (htarget : query.target = .caller) (hstatement : query.statement dialect = .ok statement) :
    ∃ select values, query.outer [] = .ok (select, values) ∧
      statement.text = select.pieces.spell dialect ∧
      statement.parameters.map (·.value) = values := by
  obtain ⟨pieces, values, hpieces, rfl⟩ := statement_eq_ok_iff.mp hstatement
  rw [Query.pieces, htarget] at hpieces
  obtain ⟨select, between, hselect, hpure⟩ := run_seq_eq_ok.mp hpieces
  simp only [run_pure, Except.ok.injEq, Prod.mk.injEq] at hpure
  obtain ⟨rfl, rfl⟩ := hpure
  refine ⟨select, between, hselect, rfl, ?_⟩
  rw [namedParameters, List.map_map]
  exact List.zipIdx_map_fst _ _

/-- A whole query that renders renders over what it reads. -/
theorem selectOver_of_outer {query : Query} {select : Select} {values values' : List Value}
    (hselect : query.outer values = .ok (select, values')) :
    query.selectOver query.relation values = .ok (select, values') := by
  obtain ⟨_, between, hcheck, hover⟩ := run_seq_eq_ok.mp hselect
  obtain ⟨-, rfl⟩ := run_check_eq_ok.mp hcheck
  exact hover

/-- The number that is counted is the number of the rows: where a query without a target and its
count both render, the rows of the count in a database are the one row with the number of the rows
that the query has there. -/
theorem count_rows {query : Query} {dialect : Dialect} {statement counted : Statement}
    (htarget : query.target = .caller) (hcount : query.count = false)
    (hfirst : query.first = false) (hnone : query.firstOrNone = false)
    (hstatement : query.statement dialect = .ok statement)
    (hcounted : query.asCount.statement dialect = .ok counted) :
    ∃ rows, query.Answers database dialect statement rows ∧
      query.asCount.Answers database dialect counted [database.number rows.length] := by
  obtain ⟨select, values, hselect, htext, hvalues⟩ := outer_of_statement htarget hstatement
  have htarget' : query.asCount.target = .caller := htarget
  obtain ⟨counting, bound, hcounting, hnumber, hbound⟩ := outer_of_statement htarget' hcounted
  have hrows : query.rows query.relation [] = .ok (select, values) := by
    have hover := selectOver_of_outer hselect
    rwa [selectOver, hcount, if_neg Bool.false_ne_true] at hover
  have hones : query.asCount.number query.relation [] = .ok (counting, bound) := by
    have hover := selectOver_of_outer hcounting
    rwa [relation_asCount] at hover
  obtain ⟨-, -, hagree⟩ := agree_rows_number database hcount hfirst hnone
    (query.agree_relation database) hrows hones
  exact ⟨_, ⟨select, values, hselect, htext, hvalues, rfl⟩,
    ⟨counting, bound, hcounting, hnumber, hbound, hagree List.prefix_rfl List.prefix_rfl⟩⟩

/-- The cities of shops, ordered by name. -/
def shopCities : Query :=
  { source := .table ⟨"Shops", none⟩
    distinct := [.field "City"]
    order := [⟨.field "City", .ascending⟩] }

/-- Three shops in two cities; a row is a single value. -/
def shops : Database Value where
  table := fun _ => [.text "Oslo", .text "Rome", .text "Oslo"]
  environment := fun city =>
    { column := fun _ => city
      bound := []
      call := fun _ _ => .null
      cast := fun _ value => value
      sum := fun _ _ => .null
      difference := fun _ _ => .null
      compares := fun _ _ _ => false
      matching := fun _ _ => false }
  row := fun items => (items.head?.map (·.2)).getD .null
  number := fun length => .int (.ofNat length)
  arrange := fun _ => List.reverse
  shuffle := List.reverse
  arrange_perm := fun _ => List.reverse_perm
  shuffle_perm := List.reverse_perm

/-- The cities are counted without their ordering. -/
theorem count_rows_shopCities :
    ∃ statement counted : Statement,
      shopCities.statement = .ok statement ∧
        statement.text = "SELECT DISTINCT [City] FROM [Shops] ORDER BY [City] ASC" ∧
        shopCities.Answers shops .sqlServer statement [.text "Oslo", .text "Rome"] ∧
        shopCities.asCount.statement = .ok counted ∧
        counted.text =
          "SELECT COUNT(*) FROM (SELECT DISTINCT [City] FROM [Shops]) [__SubQuery__]" ∧
        shopCities.asCount.Answers shops .sqlServer counted [.int 2] := by
  have hstatement : shopCities.statement = .ok
      { text := "SELECT DISTINCT [City] FROM [Shops] ORDER BY [City] ASC"
        result := .multiple } := rfl
  have hcounted : shopCities.asCount.statement = .ok
      { text := "SELECT COUNT(*) FROM (SELECT DISTINCT [City] FROM [Shops]) [__SubQuery__]"
        result := .scalar } := rfl
  obtain ⟨rows, hrows, hnumber⟩ := count_rows shops rfl rfl rfl rfl hstatement hcounted
  obtain rfl : rows = [.text "Oslo", .text "Rome"] :=
    hrows.unique ⟨_, [], rfl, rfl, rfl, by decide +kernel⟩
  exact ⟨_, _, hstatement, rfl, hrows, hcounted, rfl, hnumber⟩

end Query

end SqlScribe
