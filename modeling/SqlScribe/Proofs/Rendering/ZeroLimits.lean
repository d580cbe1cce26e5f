import SqlScribe.Proofs.Rendering.NodeParts
import SqlScribe.Query.Statement

/-!
# Limits of zero

A limit of zero does not take effect: a query renders as it does without it, in every
place and at every depth.  There is one exception.  A limit in percent is refused next to
skipped rows before its amount is looked at.

Main definitions:

- `Query.LosesLimits` relates a query to what is left of it when some of its nodes lose
  limits of zero.
- `Binding.RefusesUnless` relates a step to another one without a check that it makes.

Main results:

- `Query.statement_of_losesLimits`: the results are the same if no node that loses its
  limit skips rows under percent; otherwise the query is refused for that, unless both
  are refused for another reason before.
-/

namespace SqlScribe

/-! ## Steps with a further check -/

namespace Binding

variable {α β : Type} {p q : Prop} {reason : RenderError}

/-- A step does what another one does under a condition.  Without the condition it stops
with a reason, unless both stop before with the same one. -/
def RefusesUnless (p : Prop) (reason : RenderError) (step other : Binding α) : Prop :=
  ∀ values, (p → step values = other values) ∧
    (¬p → step values = .error reason ∨
      ∃ earlier, step values = .error earlier ∧ other values = .error earlier)

/-- The condition may be replaced by an equivalent one. -/
theorem RefusesUnless.congr {step other : Binding α} (hstep : RefusesUnless p reason step other)
    (hiff : p ↔ q) : RefusesUnless q reason step other := by
  intro values
  rw [← hiff]
  exact hstep values

theorem refusesUnless_refl (step : Binding α) : RefusesUnless True reason step step :=
  fun _ => ⟨fun _ => rfl, fun hnot => absurd trivial hnot⟩

/-- Where both steps stop in any case the condition does not matter. -/
theorem refusesUnless_fail (earlier : RenderError) :
    RefusesUnless p reason (fail earlier : Binding α) (fail earlier) :=
  fun _ => ⟨fun _ => rfl, fun _ => .inr ⟨earlier, rfl, rfl⟩⟩

theorem refusesUnless_check {result other : Except RenderError Unit} (hsame : p → result = other)
    (hrefused : ¬p → result = .error reason ∨
      ∃ earlier, result = .error earlier ∧ other = .error earlier) :
    RefusesUnless p reason (check result) (check other) := by
  intro values
  refine ⟨fun hp => by rw [hsame hp], fun hnot => ?_⟩
  rcases hrefused hnot with rfl | ⟨earlier, rfl, rfl⟩
  · exact .inl rfl
  · exact .inr ⟨earlier, rfl, rfl⟩

/-- The condition of two steps is that of both of them: the second one is refused only
where the first one did not stop. -/
theorem RefusesUnless.seq {first other : Binding α} {next further : α → Binding β}
    (hfirst : RefusesUnless p reason first other)
    (hnext : ∀ result, RefusesUnless q reason (next result) (further result)) :
    RefusesUnless (p ∧ q) reason (first >>= next) (other >>= further) := by
  intro values
  obtain ⟨hsame, hrefused⟩ := hfirst values
  by_cases hp : p
  · have hother := hsame hp
    cases hdone : first values with
    | error earlier =>
      have hstep : (first >>= next) values = .error earlier := run_seq_of_error hdone
      have hbehind : (other >>= further) values = .error earlier :=
        run_seq_of_error (hother.symm.trans hdone)
      rw [hstep, hbehind]
      exact ⟨fun _ => rfl, fun _ => .inr ⟨earlier, rfl, rfl⟩⟩
    | ok done =>
      obtain ⟨part, between⟩ := done
      rw [run_seq_of_ok hdone, run_seq_of_ok (hother.symm.trans hdone), and_iff_right hp]
      exact hnext part between
  · refine ⟨fun hboth => absurd hboth.1 hp, fun _ => ?_⟩
    rcases hrefused hp with hreason | ⟨earlier, hstep, hother⟩
    · exact .inl (run_seq_of_error hreason)
    · exact .inr ⟨earlier, run_seq_of_error hstep, run_seq_of_error hother⟩

/-- What is done behind a step is not refused. -/
theorem RefusesUnless.before {first other : Binding α} (hfirst : RefusesUnless p reason first other)
    (next : α → Binding β) : RefusesUnless p reason (first >>= next) (other >>= next) :=
  (hfirst.seq fun result => refusesUnless_refl (next result)).congr (and_iff_left trivial)

/-- Neither is what is done in front of one. -/
theorem RefusesUnless.behind {next further : α → Binding β} (first : Binding α)
    (hnext : ∀ result, RefusesUnless q reason (next result) (further result)) :
    RefusesUnless q reason (first >>= next) (first >>= further) :=
  ((refusesUnless_refl first).seq hnext).congr (and_iff_right trivial)

end Binding

namespace Query

open Binding Sql

/-! ## Queries without limits of zero -/

/-- The limit that is left to a node when it may lose a limit of zero, with the node if
it does. -/
inductive LosesOwn (query : Query) : List Query → Option RowLimit → Prop
  | keep : LosesOwn query [] query.limit
  | lose (unit : LimitUnit) (hlimit : query.limit = some ⟨0, unit⟩) : LosesOwn query [query] none

mutual

/-- A query and what is left of it when some of its nodes lose limits of zero, with a
list of these nodes. -/
inductive LosesLimits : Query → List Query → Query → Prop
  | node {query : Query} {own inSource inOperations : List Query} {limit : Option RowLimit}
      {source : Source Query} {operations : List (SetOperation Query)}
      (hown : query.LosesOwn own limit) (hsource : SourceLosesLimits query.source inSource source)
      (hoperations : OperationsLoseLimits query.operations inOperations operations) :
      LosesLimits query (own ++ (inSource ++ inOperations))
        { query with source, limit, operations }

/-- A source and what is left of it. -/
inductive SourceLosesLimits : Source Query → List Query → Source Query → Prop
  | table (table : Table) : SourceLosesLimits (.table table) [] (.table table)
  | queries {queries dropped others : List Query}
      (hqueries : QueriesLoseLimits queries dropped others) :
      SourceLosesLimits (.queries queries) dropped (.queries others)

/-- Several queries and what is left of them. -/
inductive QueriesLoseLimits : List Query → List Query → List Query → Prop
  | nil : QueriesLoseLimits [] [] []
  | cons {query other : Query} {rest others dropped more : List Query}
      (hquery : LosesLimits query dropped other) (hrest : QueriesLoseLimits rest more others) :
      QueriesLoseLimits (query :: rest) (dropped ++ more) (other :: others)

/-- Set operations and what is left of them. -/
inductive OperationsLoseLimits :
    List (SetOperation Query) → List Query → List (SetOperation Query) → Prop
  | nil : OperationsLoseLimits [] [] []
  | cons {operator : SetOperator} {query other : Query}
      {rest others : List (SetOperation Query)} {dropped more : List Query}
      (hquery : LosesLimits query dropped other) (hrest : OperationsLoseLimits rest more others) :
      OperationsLoseLimits (⟨operator, query⟩ :: rest) (dropped ++ more)
        (⟨operator, other⟩ :: others)

end

/-- A node does not skip rows under a limit in percent, of whatever amount. -/
def SkipsPlainly (node : Query) : Prop := node.hasSkip = true → node.hasPercent = false

/-! ## Nodes over a given source -/

section

variable {p : Prop} {reason : RenderError} {relation other : Binding (Relation Select)}

/-- The listed rows of a query are refused as what they are read from is. -/
theorem refusesUnless_rows (query : Query) (hrelation : RefusesUnless p reason relation other) :
    RefusesUnless p reason (query.rows relation) (query.rows other) := by
  apply RefusesUnless.behind
  intro checked
  apply RefusesUnless.behind
  intro columns
  exact hrelation.before _

theorem refusesUnless_selectOver (query : Query)
    (hrelation : RefusesUnless p reason relation other) :
    RefusesUnless p reason (query.selectOver relation) (query.selectOver other) := by
  unfold selectOver number
  split
  · split
    · exact (query.counted.derivable.refusesUnless_rows hrelation).before _
    · exact hrelation.before _
  · exact query.refusesUnless_rows hrelation

variable {query : Query} {own : List Query} {source : Source Query} {limit : Option RowLimit}
  {operations : List (SetOperation Query)}

/-- The limit that takes effect is the same. -/
theorem LosesOwn.filter_eq (hown : query.LosesOwn own limit) :
    limit.filter (0 < ·.amount) = query.limit.filter (0 < ·.amount) := by
  cases hown with
  | keep => rfl
  | lose unit hlimit =>
    rw [hlimit]
    rfl

/-- A query has a limit if one that is not zero is there. -/
theorem hasLimit_eq_isSome (query : Query) :
    query.hasLimit = (query.limit.filter (0 < ·.amount)).isSome := by
  cases hlimit : query.limit with
  | none => simp [hasLimit, hlimit]
  | some limit => by_cases hamount : 0 < limit.amount <;> simp [hasLimit, hlimit, hamount]

/-- Whether a limit takes effect is the same. -/
theorem LosesOwn.hasLimit_eq (hown : query.LosesOwn own limit) :
    { query with source, limit, operations }.hasLimit = query.hasLimit := by
  rw [hasLimit_eq_isSome, hasLimit_eq_isSome, ← hown.filter_eq]

/-- Rows are listed by the limit that takes effect. -/
theorem rows_of_filter_eq (query : Query)
    (hlimit : limit.filter (0 < ·.amount) = query.limit.filter (0 < ·.amount))
    (relation : Binding (Relation Select)) :
    { query with source, limit, operations }.rows relation = query.rows relation := by
  have heffective : { query with source, limit, operations }.effectiveLimit =
      query.effectiveLimit := by
    rw [effectiveLimit, effectiveLimit, hlimit]
    rfl
  unfold rows paging
  rw [heffective]
  rfl

/-- Over a given source a node is rendered without its limit of zero as with it. -/
theorem LosesOwn.selectOver_eq (hown : query.LosesOwn own limit) (whole : Bool)
    (relation : Binding (Relation Select)) :
    ({ query with source, limit, operations }.placed whole).selectOver relation =
      (query.placed whole).selectOver relation := by
  have hlimit : { query with source, limit, operations }.hasLimit = query.hasLimit :=
    hown.hasLimit_eq
  have hkeepsRows : { query with source, limit, operations }.keepsRows = query.keepsRows := by
    unfold keepsRows
    rw [hlimit]
    rfl
  have hkeepsOrder :
      { query with source, limit, operations }.keepsOrder whole = query.keepsOrder whole := by
    unfold keepsOrder isLimited
    rw [hlimit]
    rfl
  have hlisting : { query with source, limit, operations }.listing whole =
      { query.listing whole with source, limit, operations } := by
    unfold listing
    rw [hkeepsOrder]
  have hrows : { query.listing whole with source, limit, operations }.rows relation =
      (query.listing whole).rows relation :=
    rows_of_filter_eq (query.listing whole) hown.filter_eq relation
  rw [selectOver_placed, selectOver_placed, hkeepsRows, hlisting, hrows]
  rfl

/-- Next to a set operator a node is wrapped without its limit of zero as with it. -/
theorem LosesOwn.isOrdered_eq (hown : query.LosesOwn own limit) :
    { query with source, limit, operations }.derivable.isOrdered =
      query.derivable.isOrdered := by
  have hlimit : { query with source, limit, operations }.hasLimit = query.hasLimit :=
    hown.hasLimit_eq
  rw [isOrdered_derivable, isOrdered_derivable, isLimited, isLimited, hlimit]
  rfl

/-! ## Checks -/

/-- As many queries are left, with the same targets. -/
theorem targets_of_losesLimits : ∀ {queries dropped others : List Query},
    QueriesLoseLimits queries dropped others → others.map (·.target) = queries.map (·.target)
  | [], _, _, .nil => rfl
  | _ :: _, _, _, .cons (.node _ _ _) hrest => by
    rw [List.map_cons, List.map_cons, targets_of_losesLimits hrest]

/-- The check of the source only looks at the number of its queries and their targets. -/
theorem consistentSource_of_losesLimits {inSource : List Query}
    (hsource : SourceLosesLimits query.source inSource source) :
    { query with source, limit, operations }.consistentSource = query.consistentSource := by
  unfold consistentSource
  cases hqueries : query.source with
  | table table =>
    rw [hqueries] at hsource
    cases hsource
    rfl
  | queries queries =>
    rw [hqueries] at hsource
    obtain ⟨others, hothers, rfl⟩ : ∃ others, QueriesLoseLimits queries inSource others ∧
        source = .queries others := by
      cases hsource with
      | queries hothers => exact ⟨_, hothers, rfl⟩
    have htargets := targets_of_losesLimits hothers
    have hempty : others.isEmpty = queries.isEmpty := by
      rw [← List.isEmpty_map (f := (·.target)), htargets, List.isEmpty_map]
    have hany : ∀ queries : List Query,
        queries.any isCopy = (queries.map (·.target)).any (· ≠ .caller) := by
      intro queries
      rw [List.any_map]
      rfl
    have hcopies : others.any isCopy = queries.any isCopy := by
      rw [hany, htargets, ← hany]
    simp only [hempty, hcopies]

/-- The parts of a node are checked with the same result, except for a limit in percent
next to skipped rows. -/
theorem LosesOwn.refusesUnless_consistent (hown : query.LosesOwn own limit)
    (hsource : { query with source, limit, operations }.consistentSource =
      query.consistentSource) :
    RefusesUnless (∀ node ∈ own, node.SkipsPlainly) .skipUnderPercent (check query.consistent)
      (check { query with source, limit, operations }.consistent) := by
  cases hown with
  | keep =>
    have hsame : { query with source, operations }.consistent = query.consistent := by
      unfold consistent
      rw [← hsource]
      rfl
    rw [hsame]
    exact (refusesUnless_refl _).congr (by simp)
  | lose unit hlimit =>
    have hgreat : (query.limit.filter fun limit => limit.unit = .percent && 100 < limit.amount) =
        none := by
      simp [hlimit]
    have hother : { query with source, limit := none, operations }.consistent =
        if query.hasSkip && !query.hasOrder then .error .skipWithoutOrder
        else if query.hasSkip && false then .error .skipUnderPercent
        else if query.first && query.firstOrNone then .error .firstTwice
        else if query.shuffle && query.hasOrder then .error .shuffledOrder
        else if query.hasDistinct && query.hasItems &&
            !Expr.sameList (query.items.map (·.expr)) query.distinct then
          .error .distinctOtherThanItems
        else query.consistentSource := by
      rw [← hsource]
      rfl
    have hplain : (∀ node ∈ [query], node.SkipsPlainly) ↔ query.SkipsPlainly := by simp
    rw [hplain, hother, consistent, hgreat, SkipsPlainly]
    -- the check that the limit is in is the second one, behind that of the ordering
    apply refusesUnless_check
    · intro hplain
      cases hskip : query.hasSkip with
      | false => simp
      | true => simp [hplain hskip]
    · intro hnot
      obtain ⟨hskip, hpercent⟩ : query.hasSkip = true ∧ query.hasPercent = true := by
        simpa using hnot
      cases horder : query.hasOrder with
      | true => exact .inl (by simp [hskip, hpercent])
      | false => exact .inr ⟨.skipWithoutOrder, by simp [hskip], by simp [hskip]⟩

/-- Over the same source a node is refused in its place for its own limit only. -/
theorem LosesOwn.refusesUnless_nodeOver (hown : query.LosesOwn own limit)
    (hsource : { query with source, limit, operations }.consistentSource =
      query.consistentSource) (whole : Bool)
    (hrelation : RefusesUnless p .skipUnderPercent relation other) :
    RefusesUnless ((∀ node ∈ own, node.SkipsPlainly) ∧ p) .skipUnderPercent
      (query.nodeOver whole relation)
      ({ query with source, limit, operations }.nodeOver whole other) := by
  apply (hown.refusesUnless_consistent hsource).seq
  intro checked
  rw [hown.selectOver_eq]
  exact refusesUnless_selectOver (query.placed whole) hrelation

/-- Next to a set operator nothing more is checked. -/
theorem LosesLimits.refusesUnless_operandOver {query left : Query} {dropped : List Query}
    (hloses : query.LosesLimits dropped left)
    (hinner : RefusesUnless p reason (query.innerOver relation) (left.innerOver other)) :
    RefusesUnless p reason (query.operandOver relation) (left.operandOver other) := by
  obtain ⟨hown, -, -⟩ := hloses
  unfold operandOver
  rw [hown.isOrdered_eq]
  exact hinner.before _

end

/-! ## Sources -/

mutual

/-- A node with what it reads is refused for the limits that it and the nodes inside it
lose. -/
theorem LosesLimits.refusesUnless : ∀ {query other : Query} {dropped : List Query},
    query.LosesLimits dropped other → ∀ whole : Bool,
    RefusesUnless (∀ node ∈ dropped, node.SkipsPlainly) .skipUnderPercent
      (query.nodeOver whole query.relation) (other.nodeOver whole other.relation)
  | ⟨_, _, _, _, _, _, _, _, _, _, _, _, _⟩, _, _, .node hown hsource hoperations, whole => by
    have hrelation := (SourceLosesLimits.refusesUnless hsource).seq fun base =>
      (OperationsLoseLimits.refusesUnless hoperations).before fun links => pure (chained base links)
    rw [List.forall_mem_append, List.forall_mem_append]
    exact hown.refusesUnless_nodeOver (consistentSource_of_losesLimits hsource) whole hrelation

theorem SourceLosesLimits.refusesUnless : ∀ {source other : Source Query} {dropped : List Query},
    SourceLosesLimits source dropped other →
    RefusesUnless (∀ node ∈ dropped, node.SkipsPlainly) .skipUnderPercent
      (sourceRelation source) (sourceRelation other)
  | _, _, _, .table table => (refusesUnless_refl _).congr (by simp)
  | _, _, _, .queries .nil => refusesUnless_fail _
  | _, _, _, .queries (.cons hquery .nil) => by
    rw [List.append_nil]
    exact (LosesLimits.refusesUnless hquery false).before _
  | _, _, _, .queries (.cons hquery (.cons hnext hrest)) => by
    have hfirst := hquery.refusesUnless_operandOver (LosesLimits.refusesUnless hquery false)
    have hothers := QueriesLoseLimits.refusesUnless (.cons hnext hrest)
    exact (hfirst.seq fun select => hothers.before _).congr List.forall_mem_append.symm

theorem QueriesLoseLimits.refusesUnless : ∀ {queries others dropped : List Query},
    QueriesLoseLimits queries dropped others →
    RefusesUnless (∀ node ∈ dropped, node.SkipsPlainly) .skipUnderPercent
      (operands queries) (operands others)
  | _, _, _, .nil => (refusesUnless_refl _).congr (by simp)
  | _, _, _, .cons hquery hrest => by
    have hfirst := hquery.refusesUnless_operandOver (LosesLimits.refusesUnless hquery false)
    have hothers := QueriesLoseLimits.refusesUnless hrest
    exact (hfirst.seq fun select => hothers.before _).congr List.forall_mem_append.symm

theorem OperationsLoseLimits.refusesUnless :
    ∀ {operations others : List (SetOperation Query)} {dropped : List Query},
    OperationsLoseLimits operations dropped others →
    RefusesUnless (∀ node ∈ dropped, node.SkipsPlainly) .skipUnderPercent
      (operationLinks operations) (operationLinks others)
  | _, _, _, .nil => (refusesUnless_refl _).congr (by simp)
  | _, _, _, .cons hquery hrest => by
    have hfirst := hquery.refusesUnless_operandOver (LosesLimits.refusesUnless hquery false)
    have hothers := OperationsLoseLimits.refusesUnless hrest
    exact (hfirst.seq fun select => hothers.before _).congr List.forall_mem_append.symm

end

/-! ## Statements -/

section

variable {query other : Query} {dropped : List Query}

/-- Apart from limits inside it the target of a query is as before. -/
theorem LosesLimits.target_eq (hloses : query.LosesLimits dropped other) :
    other.target = query.target ∧ other.count = query.count ∧
      other.copiedColumns = query.copiedColumns ∧ other.resultShape = query.resultShape := by
  obtain ⟨-, -, -⟩ := hloses
  exact ⟨rfl, rfl, rfl, rfl⟩

/-- A query loses limits of zero without a change of its pieces, unless a node that loses one skips
rows under a percentage. -/
theorem LosesLimits.refusesUnless_pieces (hloses : query.LosesLimits dropped other) :
    RefusesUnless (∀ node ∈ dropped, node.SkipsPlainly) .skipUnderPercent query.pieces
      other.pieces := by
  obtain ⟨htarget, hcount, hcolumns, -⟩ := hloses.target_eq
  have houter := hloses.refusesUnless true
  unfold Query.pieces
  rw [htarget, hcount, hcolumns]
  cases query.target with
  | caller => exact houter.before _
  | table table =>
    cases query.count with
    | true => exact refusesUnless_fail _
    | false =>
      cases query.copiedColumns with
      | error reason => exact refusesUnless_fail reason
      | ok columns => exact houter.before _

theorem statement_of_pieces_error {reason : RenderError} (hpieces : query.pieces [] = .error reason)
    (dialect : Dialect) : query.statement dialect = .error reason := by
  unfold Query.statement
  rw [hpieces]
  rfl

/-- A query renders as what is left of it when nodes of it lose limits of zero, with the
same text, values and result shape or with the same error, if none of these nodes skips
rows under a limit in percent.  If one of them does, the query is refused for it, unless
what is left is refused, too, for a reason found before. -/
theorem statement_of_losesLimits (hloses : query.LosesLimits dropped other) (dialect : Dialect) :
    ((∀ node ∈ dropped, node.SkipsPlainly) →
        query.statement dialect = other.statement dialect) ∧
      (¬(∀ node ∈ dropped, node.SkipsPlainly) →
        query.statement dialect = .error .skipUnderPercent ∨
          ∃ reason, query.statement dialect = .error reason ∧
            other.statement dialect = .error reason) := by
  obtain ⟨hsame, hrefused⟩ := hloses.refusesUnless_pieces []
  obtain ⟨-, -, -, hshape⟩ := hloses.target_eq
  constructor
  · intro hplain
    unfold Query.statement
    rw [hsame hplain, hshape]
  · intro hnot
    rcases hrefused hnot with hreason | ⟨earlier, hquery, hother⟩
    · exact .inl (statement_of_pieces_error hreason dialect)
    · exact .inr ⟨earlier, statement_of_pieces_error hquery dialect,
        statement_of_pieces_error hother dialect⟩

end

/-- All rows of a table in an order, under a limit of zero percent. -/
def orderedUnderZero : Query :=
  { source := .table ⟨"a", none⟩
    limit := some ⟨0, .percent⟩
    order := [⟨.field "Id", .ascending⟩] }

/-- These rows with those of another table behind the first five, under a limit of zero
rows. -/
def skippedUnderZero : Query :=
  { source := .queries [orderedUnderZero, ofTable ⟨"b", none⟩]
    limit := some ⟨0, .rows⟩
    skip := 5
    order := [⟨.field "Id", .ascending⟩] }

/-- The same rows without the limits. -/
def skippedUnlimited : Query :=
  { source := .queries [{ orderedUnderZero with limit := none }, ofTable ⟨"b", none⟩]
    skip := 5
    order := [⟨.field "Id", .ascending⟩] }

/-- Both limits of zero may be left out, that inside the query and that of the query. -/
theorem statement_skippedUnderZero :
    skippedUnderZero.LosesLimits [skippedUnderZero, orderedUnderZero] skippedUnlimited ∧
      (∀ node ∈ [skippedUnderZero, orderedUnderZero], node.SkipsPlainly) ∧
      skippedUnderZero.statement = skippedUnlimited.statement := by
  have hordered : orderedUnderZero.LosesLimits _ { orderedUnderZero with limit := none } :=
    .node (.lose .percent rfl) (.table ⟨"a", none⟩) .nil
  have hother : (ofTable ⟨"b", none⟩).LosesLimits _ (ofTable ⟨"b", none⟩) :=
    .node .keep (.table ⟨"b", none⟩) .nil
  have hloses : skippedUnderZero.LosesLimits _ skippedUnlimited :=
    .node (.lose .rows rfl) (.queries (.cons hordered (.cons hother .nil))) .nil
  have hplain : ∀ node ∈ [skippedUnderZero, orderedUnderZero], node.SkipsPlainly := by
    rw [List.forall_mem_cons, List.forall_mem_singleton]
    exact ⟨fun _ => rfl, fun hskip => absurd hskip (by decide)⟩
  exact ⟨hloses, hplain, (statement_of_losesLimits hloses .sqlServer).1 hplain⟩

/-- Rows behind the first five under a limit of zero percent. -/
def skippedUnderPercent : Query :=
  { source := .table ⟨"t", none⟩
    limit := some ⟨0, .percent⟩
    skip := 5
    order := [⟨.field "Id", .ascending⟩] }

/-- This limit of zero has an effect: the query is refused, and it renders without the
limit. -/
theorem statement_skippedUnderPercent :
    skippedUnderPercent.LosesLimits [skippedUnderPercent]
        { skippedUnderPercent with limit := none } ∧
      skippedUnderPercent.statement = .error .skipUnderPercent ∧
      { skippedUnderPercent with limit := none }.statement =
        .ok
          { text := "SELECT * FROM [t] ORDER BY [Id] ASC OFFSET 5 ROWS"
            result := .multiple } := by
  have hloses : skippedUnderPercent.LosesLimits _ { skippedUnderPercent with limit := none } :=
    .node (.lose .percent rfl) (.table ⟨"t", none⟩) .nil
  exact ⟨hloses, rfl, rfl⟩

end Query

end SqlScribe
