import SqlScribe.Proofs.Evaluation.Agreement
import SqlScribe.Proofs.Evaluation.Server
import SqlScribe.Query.Select

/-!
# Rows of rendered queries over a database

A database has the rows of its tables.  With the values that a statement binds it is a server, and
what a query reads has the same rows wherever the query is rendered.

Main definitions:

- `Database` is the content of tables, with what the server makes of values.
- `Database.server` is the server for a list of bound values.
- `Database.SameRows` says that two SELECTs, each with its bound values, have the same rows.

Main results:

- `Query.agree_relation`: what a query reads has the same rows wherever it is rendered.
-/

namespace SqlScribe

open Sql (Scalar Predicate SelectList Select Relation Link Environment)

/-! ## Databases -/

/-- The name of a returned column: its alias, or the column that it is. -/
def Sql.outputName? (item : Scalar × Option String) : Option String :=
  item.2 <|> item.1.columnName?

/-- The content of tables, and what the server makes of values.  Where an ordering leaves open how
rows are ordered, the server decides. -/
structure Database (Row : Type) where
  table : Table → List Row
  environment : Row → Environment
  /-- The row with some values, under names if they have one. -/
  row : List (Option String × Value) → Row
  number : Nat → Row
  /-- The rows ordered by keys; without a key they come in some order. -/
  arrange : (Row → List (Value × Direction)) → List Row → List Row
  shuffle : List Row → List Row
  arrange_perm : ∀ keys rows, (arrange keys rows).Perm rows
  shuffle_perm : ∀ rows, (shuffle rows).Perm rows

namespace Database

variable {Row : Type} (database : Database Row) (bound : List Value)

/-- The value of an expression over a row. -/
def valueOver (scalar : Scalar) (row : Row) : Value :=
  scalar.value ((database.environment row).binding bound)

/-- The rows in an ordering. -/
def sort : Sql.Ordering → List Row → List Row
  | .none => database.arrange fun _ => []
  | .random => database.shuffle
  | .keys keys =>
    database.arrange fun row => keys.map fun key => (database.valueOver bound key.1 row, key.2)

/-- The database as a server for a list of bound values. -/
def server : Server Row where
  table := database.table
  holds predicate row :=
    predicate.truth ((database.environment row).binding bound) = some true
  item items row :=
    database.row (items.map fun item =>
      (Sql.outputName? item, database.valueOver bound item.1 row))
  number := database.number
  sort := database.sort bound
  sort_perm ordering rows := by
    cases ordering with
    | random => exact database.shuffle_perm rows
    | _ => exact database.arrange_perm _ rows

/-! ## Parts of a SELECT -/

/-- The same is returned of all rows. -/
def SameColumns (bound : List Value) (columns : SelectList) (bound' : List Value)
    (others : SelectList) : Prop :=
  ∀ rows, (database.server bound).returned columns rows =
    (database.server bound').returned others rows

/-- The same rows meet two conditions. -/
def SameFilter (bound : List Value) (condition : Option Predicate) (bound' : List Value)
    (other : Option Predicate) : Prop :=
  ∀ rows, (database.server bound).filter condition rows =
    (database.server bound').filter other rows

/-- All rows are ordered in the same way. -/
def SameOrder (bound : List Value) (ordering : Sql.Ordering) (bound' : List Value)
    (other : Sql.Ordering) : Prop :=
  ∀ rows, database.sort bound ordering rows = database.sort bound' other rows

section Parts

variable {database} {bound} {bound' : List Value}

/-- All columns are the same whatever values are bound. -/
theorem sameColumns_all : database.SameColumns bound .all bound' .all := fun _ => rfl

/-- Numbers of rows are the same whatever values are bound. -/
theorem sameColumns_count : database.SameColumns bound .count bound' .count := fun _ => rfl

theorem sameFilter_none : database.SameFilter bound none bound' none := fun _ => rfl

theorem sameOrder_none : database.SameOrder bound .none bound' .none := fun _ => rfl

/-- Expressions under the same names and with the same values make up the same row. -/
theorem sameColumns_items {items others : List (Scalar × Option String)}
    (hitems : List.Forall₂ (fun a b => a.1.Alike bound bound' b.1 ∧ a.2 = b.2) items others) :
    database.SameColumns bound (.items items) bound' (.items others) := by
  intro rows
  have hrow : (database.server bound).item items = (database.server bound').item others := by
    funext row
    refine congrArg database.row ?_
    induction hitems with
    | nil => rfl
    | @cons a b _ _ hitem _ ih =>
      obtain ⟨halike, hlabel⟩ := hitem
      have hname : Sql.outputName? a = Sql.outputName? b := by
        rw [Sql.outputName?, Sql.outputName?, hlabel, halike.columnName?]
      have hvalue : database.valueOver bound a.1 row = database.valueOver bound' b.1 row :=
        halike.value _
      rw [List.map_cons, List.map_cons, ih, hname, hvalue]
  rw [Server.returned, Server.returned, hrow]

/-- Conditions that are worth the same are met by the same rows. -/
theorem sameFilter_of_rel {condition other : Option Predicate}
    (hcondition : Option.Rel (fun a b => a.Alike bound bound' b) condition other) :
    database.SameFilter bound condition bound' other := by
  intro rows
  cases hcondition with
  | none => rfl
  | some halike =>
    refine congrFun (congrArg List.filter (funext fun row => ?_)) rows
    exact congrArg (fun truth => decide (truth = some true)) (halike (database.environment row))

/-- Keys with the same values and directions order all rows in the same way. -/
theorem sameOrder_keys {keys others : List (Scalar × Direction)}
    (hkeys : List.Forall₂ (fun a b => a.1.Alike bound bound' b.1 ∧ a.2 = b.2) keys others) :
    database.SameOrder bound (.keys keys) bound' (.keys others) := by
  intro rows
  refine congrFun (congrArg database.arrange (funext fun row => ?_)) rows
  induction hkeys with
  | nil => rfl
  | @cons a b _ _ hkey _ ih =>
    obtain ⟨halike, hdirection⟩ := hkey
    have hvalue : database.valueOver bound a.1 row = database.valueOver bound' b.1 row :=
      halike.value _
    rw [List.map_cons, List.map_cons, ih, hdirection, hvalue]

end Parts

/-! ## The same rows -/

variable [DecidableEq Row]

/-- Two SELECTs, each with its bound values, have the same rows. -/
def SameRows (bound : List Value) (select : Select) (bound' : List Value) (other : Select) : Prop :=
  (database.server bound).select select = (database.server bound').select other

/-- What two SELECTs read has the same rows. -/
def SameSource (bound : List Value) (relation : Relation Select) (bound' : List Value)
    (other : Relation Select) : Prop :=
  (database.server bound).relation relation = (database.server bound').relation other

/-- Two further SELECTs have the same operator and the same rows. -/
def SameLink (bound : List Value) (link : Link Select) (bound' : List Value)
    (other : Link Select) : Prop :=
  link.operator = other.operator ∧ database.SameRows bound link.select bound' other.select

variable {database} {bound} {bound' : List Value}

/-- Links with the same rows one by one have the same rows together. -/
theorem SameLink.links {further others : List (Link Select)}
    (hlinks : List.Forall₂ (fun link other => database.SameLink bound link bound' other)
      further others) :
    (database.server bound).links further = (database.server bound').links others := by
  induction hlinks with
  | nil => rfl
  | @cons link other _ _ hlink _ ih =>
    obtain ⟨operator, select⟩ := link
    obtain ⟨operator', other⟩ := other
    obtain ⟨rfl, hrows⟩ := hlink
    rw [Server.links, Server.links, ih, hrows]

/-- Chains of SELECTs with the same rows have the same rows as derived tables. -/
theorem SameRows.derived {first other : Select} {further others : List (Link Select)}
    (hfirst : database.SameRows bound first bound' other)
    (hlinks : List.Forall₂ (fun link other => database.SameLink bound link bound' other)
      further others) :
    database.SameSource bound (.derived ⟨first, further⟩) bound' (.derived ⟨other, others⟩) := by
  rw [SameSource, Server.relation, Server.relation, hfirst, SameLink.links hlinks]

/-- Of the same rows the same ones meet conditions that are worth the same. -/
theorem SameSource.filter {relation relation' : Relation Select}
    {condition condition' : Option Predicate}
    (hrelation : database.SameSource bound relation bound' relation')
    (hcondition : database.SameFilter bound condition bound' condition') :
    (database.server bound).filter condition ((database.server bound).relation relation) =
      (database.server bound').filter condition' ((database.server bound').relation relation') :=
  (congrArg _ hrelation).trans (hcondition _)

/-- A SELECT has the same rows as another one part by part. -/
theorem sameRows_select {distinct : Bool} {top : Option RowLimit} {columns others : SelectList}
    {relation relation' : Relation Select} {condition condition' : Option Predicate}
    {ordering ordering' : Sql.Ordering} {paging : Option Sql.Paging}
    (hcolumns : database.SameColumns bound columns bound' others)
    (hrelation : database.SameSource bound relation bound' relation')
    (hcondition : database.SameFilter bound condition bound' condition')
    (hordering : database.SameOrder bound ordering bound' ordering') :
    database.SameRows bound ⟨distinct, top, columns, relation, condition, ordering, paging⟩ bound'
      ⟨distinct, top, others, relation', condition', ordering', paging⟩ := by
  have hreturned (rows : List Row) :
      (database.server bound).returned columns ((database.server bound).sort ordering rows) =
        (database.server bound').returned others
          ((database.server bound').sort ordering' rows) :=
    (congrArg _ (hordering rows)).trans (hcolumns _)
  rw [SameRows, Server.select, Server.select, hrelation.filter hcondition, hreturned]

end Database

/-! ## Queries over a given source -/

namespace Query

open Binding Database

variable {Row : Type} (database : Database Row) {relation : Binding (Relation Select)}

/-- A returned expression is worth the same wherever it is rendered. -/
theorem agree_renderItem (item : SelectItem) :
    Agree (fun bound a bound' b => a.1.Alike bound bound' b.1 ∧ a.2 = b.2) (renderItem item)
      (renderItem item) :=
  (Expr.agree_scalar item.expr).map fun _ _ _ _ halike => ⟨halike, rfl⟩

/-- An ordering expression is worth the same wherever it is rendered. -/
theorem agree_renderKey (key : SortKey) :
    Agree (fun bound a bound' b => a.1.Alike bound bound' b.1 ∧ a.2 = b.2) (renderKey key)
      (renderKey key) :=
  (Expr.agree_scalar key.expr).map fun _ _ _ _ halike => ⟨halike, rfl⟩

/-- A query returns the same columns wherever it is rendered. -/
theorem agree_selectList (query : Query) :
    Agree database.SameColumns query.selectList query.selectList := by
  unfold selectList
  split
  · exact (agree_mapM agree_renderItem query.items).map fun _ _ _ _ hitems =>
      sameColumns_items hitems
  · split
    · exact (agree_mapM (fun expr => agree_renderItem ⟨expr, none⟩) query.distinct).map
        fun _ _ _ _ hitems => sameColumns_items hitems
    · exact agree_pure fun _ _ => sameColumns_all

/-- The condition of a query is met by the same rows wherever it is rendered. -/
theorem agree_condition (query : Query) :
    Agree database.SameFilter query.condition query.condition :=
  (agree_optional Condition.agree_predicate query.filter).mono fun _ _ _ _ hcondition =>
    sameFilter_of_rel hcondition

/-- A query orders rows in the same way wherever it is rendered. -/
theorem agree_ordering (query : Query) :
    Agree database.SameOrder query.ordering query.ordering := by
  unfold ordering
  split
  · exact agree_pure fun _ _ _ => rfl
  · split
    · exact (agree_mapM agree_renderKey query.order).map fun _ _ _ _ hkeys => sameOrder_keys hkeys
    · exact agree_pure fun _ _ => sameOrder_none

variable [DecidableEq Row]

/-- The listed rows of a query are the same if the rows that it reads are. -/
theorem agree_rows (query : Query) (hrelation : Agree database.SameSource relation relation) :
    Agree database.SameRows (query.rows relation) (query.rows relation) := by
  unfold rows
  apply (agree_check _ _).seq
  intro _ _
  apply (query.agree_selectList database).seq
  intro _ _
  apply hrelation.seq
  intro _ _
  apply (query.agree_condition database).seq
  intro _ _
  apply (query.agree_ordering database).map
  intro _ _ _ _ hordering hcondition hrelation hcolumns _
  exact sameRows_select hcolumns hrelation hcondition hordering

/-- The number of rows of a query is the same if the rows that it reads are. -/
theorem agree_number (query : Query) (hrelation : Agree database.SameSource relation relation) :
    Agree database.SameRows (query.number relation) (query.number relation) := by
  unfold number
  split
  · apply (query.counted.derivable.agree_rows database hrelation).map
    intro _ _ _ _ hinner
    exact sameRows_select sameColumns_count (hinner.derived .nil) sameFilter_none sameOrder_none
  · apply hrelation.seq
    intro _ _
    apply (query.agree_condition database).map
    intro _ _ _ _ hcondition hrelation
    exact sameRows_select sameColumns_count hrelation hcondition sameOrder_none

/-- An inner query has the same rows if those that it reads are the same. -/
theorem agree_innerOver (query : Query) (hrelation : Agree database.SameSource relation relation) :
    Agree database.SameRows (query.innerOver relation) (query.innerOver relation) := by
  have hselect : Agree database.SameRows (query.derivable.selectOver relation)
      (query.derivable.selectOver relation) := by
    unfold selectOver
    split
    · exact query.derivable.agree_number database hrelation
    · exact query.derivable.agree_rows database hrelation
  apply (agree_check _ _).seq
  intro _ _
  exact hselect.mono fun _ _ _ _ hrows _ => hrows

/-- An operand has the same rows if those that it reads are the same. -/
theorem agree_operandOver (query : Query)
    (hrelation : Agree database.SameSource relation relation) :
    Agree database.SameRows (query.operandOver relation) (query.operandOver relation) := by
  apply (query.agree_innerOver database hrelation).map
  intro _ _ _ _ hrows
  split
  · exact sameRows_select sameColumns_all (hrows.derived .nil) sameFilter_none sameOrder_none
  · exact hrows

/-! ## Sources -/

mutual

/-- What a query reads has the same rows wherever it is rendered. -/
theorem agree_relation : ∀ query : Query,
    Agree database.SameSource query.relation query.relation
  | ⟨source, _, _, _, _, _, _, _, _, _, _, _, operations⟩ => by
    apply (agree_sourceRelation source).seq
    intro _ _
    apply (agree_operationLinks operations).map
    intro _ _ _ _ hlinks hbase
    cases hlinks with
    | nil => exact hbase
    | cons hlink hmore =>
      exact SameRows.derived
        (sameRows_select sameColumns_all hbase sameFilter_none sameOrder_none)
        (.cons hlink hmore)

/-- A source has the same rows wherever it is rendered. -/
theorem agree_sourceRelation : ∀ source : Source Query,
    Agree database.SameSource (sourceRelation source) (sourceRelation source)
  | .table _ => agree_pure fun _ _ => rfl
  | .queries [] => agree_fail
  | .queries [query] =>
    (query.agree_innerOver database (agree_relation query)).map fun _ _ _ _ hrows =>
      hrows.derived .nil
  | .queries (query :: next :: rest) => by
    apply (query.agree_operandOver database (agree_relation query)).seq
    intro _ _
    apply (agree_operands (next :: rest)).map
    intro _ _ _ _ hrest hfirst
    apply hfirst.derived
    rw [List.forall₂_map_left_iff, List.forall₂_map_right_iff]
    exact hrest.imp fun _ _ hrows => ⟨rfl, hrows⟩

/-- The queries of a source have the same rows one by one. -/
theorem agree_operands : ∀ queries : List Query,
    Agree (fun bound selects bound' others =>
        List.Forall₂ (fun a b => database.SameRows bound a bound' b) selects others)
      (operands queries) (operands queries)
  | [] => agree_pure fun _ _ => .nil
  | query :: rest => by
    apply (query.agree_operandOver database (agree_relation query)).seq
    intro _ _
    exact (agree_operands rest).map fun _ _ _ _ hrest hrows => .cons hrows hrest

/-- The queries of set operations have the same rows one by one. -/
theorem agree_operationLinks : ∀ operations : List (SetOperation Query),
    Agree (fun bound further bound' others =>
        List.Forall₂ (fun a b => database.SameLink bound a bound' b) further others)
      (operationLinks operations) (operationLinks operations)
  | [] => agree_pure fun _ _ => .nil
  | ⟨_, query⟩ :: rest => by
    apply (query.agree_operandOver database (agree_relation query)).seq
    intro _ _
    exact (agree_operationLinks rest).map fun _ _ _ _ hrest hrows => .cons ⟨rfl, hrows⟩ hrest

end

end Query

end SqlScribe
