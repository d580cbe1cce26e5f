import SqlScribe.Proofs.Reading.SelectTrees

/-!
# Where orderings stand

The server takes an ordering only in some places.  A SELECT in parentheses may be ordered only
if a limit or skipped rows apply to it, a SELECT beside a set operator not at all, and rows are
skipped only behind an ordering.

Main definitions:

- `Sql.OrderingsAllowed` says this of SELECTs that are joined with each other, given by the
  words that begin their clauses.
- `Sql.OrderingsPlaced` says it of all SELECTs in a text.

Main results:

- `Query.settles_orderings`: orderings are in their places because each node puts its own one
  there.
- `Query.orderingsPlaced_statement`: all orderings in the text of a query are in their places.
-/

namespace SqlScribe

/-! ## Places of orderings in a text -/

namespace Sql

/-- Directly in front of a word stands, wherever it stands, another one. -/
def Behind (word front : String) (words : List String) : Prop :=
  ∀ pair ∈ ("" :: words).zip words, pair.2 = word → pair.1 = front

instance (word front : String) (words : List String) : Decidable (Behind word front words) :=
  inferInstanceAs (Decidable (∀ pair ∈ _, _))

/-- SELECTs that are joined with each other are ordered, limited and skip rows as the server
allows it.  They are given by the words that begin their clauses. -/
structure OrderingsAllowed (nested : Bool) (selects : List (List String)) : Prop where
  /-- In parentheses an ordered SELECT is limited or skips rows. -/
  limited : nested = true → ∀ words ∈ selects, "ORDER" ∈ words → "TOP" ∈ words ∨ "OFFSET" ∈ words
  /-- Beside others no SELECT is ordered. -/
  beside : 1 < selects.length → ∀ words ∈ selects, "ORDER" ∉ words
  exclusive : ∀ words ∈ selects, ¬("TOP" ∈ words ∧ "OFFSET" ∈ words)
  offset : ∀ words ∈ selects, Behind "OFFSET" "ORDER" words
  fetch : ∀ words ∈ selects, Behind "FETCH" "OFFSET" words

/-- The clauses of the SELECTs that are joined in trees. -/
def selectClauses (trees : List Tree) : List (List String) := (operands trees).map keywords

/-- All orderings in trees stand where the server allows them, at every depth. -/
structure OrderingsPlaced (trees : List Tree) : Prop where
  outside : OrderingsAllowed false (selectClauses trees)
  inside : ∀ body ∈ bodies trees, OrderingsAllowed true (selectClauses body)

/-- Where no keyword joins SELECTs the clauses are those of a single one. -/
theorem selectClauses_of_keywords {trees : List Tree}
    (hkeywords : ∀ word ∈ keywords trees, word ∉ setWords) :
    selectClauses trees = [keywords trees] := by
  rw [selectClauses, operands_of_keywords hkeywords, List.map_singleton, keywords_dropWhile]

/-- Where no clause begins there is no ordering. -/
theorem Quiet.orderingsAllowed {trees : List Tree} (hquiet : Quiet trees) (nested : Bool) :
    OrderingsAllowed nested (selectClauses trees) := by
  rw [selectClauses_of_keywords (by simp [hquiet.keywords_eq]), hquiet.keywords_eq]
  exact ⟨by simp, by simp, by simp, by simp [Behind], by simp [Behind]⟩

/-! ## Places of orderings in a SELECT -/

/-- A SELECT that skips rows is ordered and has no limit in front of its columns. -/
def Select.SkipsInOrder (select : Select) : Prop :=
  select.paging.isSome = true → select.top = none ∧ select.ordering.orders = true

/-- What a SELECT in parentheses has to meet: if it is ordered it has a limit or skips rows. -/
def Select.OrderedAlone (select : Select) : Prop :=
  select.SkipsInOrder ∧
    (select.ordering.orders = true → select.top.isSome = true ∨ select.paging.isSome = true)

/-- What a SELECT beside others has to meet: it is not ordered. -/
def Select.OrderedBeside (select : Select) : Prop :=
  select.SkipsInOrder ∧ select.ordering.orders = false

/-- What may stand beside others may stand alone. -/
theorem Select.OrderedBeside.alone {select : Select} (hselect : select.OrderedBeside) :
    select.OrderedAlone :=
  ⟨hselect.1, by simp [hselect.2]⟩

/-- A SELECT that only filters may stand anywhere. -/
theorem orderedBeside_filter (columns : SelectList) (relation : Relation Select)
    (condition : Option Predicate) : Select.OrderedBeside { columns, relation, condition } :=
  ⟨fun hpaging => absurd hpaging (by simp), rfl⟩

/-- A SELECT has the word of an ordering if it is ordered. -/
theorem order_mem_clausesOf : ∀ limits filters orders skips fetches : Bool,
    "ORDER" ∈ clausesOf limits filters orders skips fetches ↔ orders = true := by
  decide

/-- A limit in front of the columns and skipped rows are clauses of their own. -/
theorem limits_mem_clausesOf : ∀ limits filters orders skips fetches : Bool,
    ("TOP" ∈ clausesOf limits filters orders skips fetches ↔ limits = true) ∧
      ("OFFSET" ∈ clausesOf limits filters orders skips fetches ↔ skips = true) := by
  decide

/-- Skipped rows stand behind an ordering, and returned ones behind the skipped ones. -/
theorem behind_clausesOf : ∀ limits filters orders skips fetches : Bool,
    (skips = true → orders = true) → (fetches = true → skips = true) →
      Behind "OFFSET" "ORDER" (clausesOf limits filters orders skips fetches) ∧
        Behind "FETCH" "OFFSET" (clausesOf limits filters orders skips fetches) := by
  decide

namespace Select

variable {select : Select}

/-- A SELECT is ordered if its text has the word of an ordering. -/
theorem order_mem_clauses : "ORDER" ∈ select.clauses ↔ select.ordering.orders = true :=
  order_mem_clausesOf _ _ _ _ _

/-- A limit in front of the columns and skipped rows are seen from the clauses of a SELECT. -/
theorem limits_mem_clauses :
    ("TOP" ∈ select.clauses ↔ select.top.isSome = true) ∧
      ("OFFSET" ∈ select.clauses ↔ select.paging.isSome = true) :=
  limits_mem_clausesOf _ _ _ _ _

/-- A SELECT that skips rows in order has no limit in front of its columns. -/
theorem SkipsInOrder.exclusive (hselect : select.SkipsInOrder) :
    ¬("TOP" ∈ select.clauses ∧ "OFFSET" ∈ select.clauses) := by
  rw [limits_mem_clauses.1, limits_mem_clauses.2]
  rintro ⟨htop, hpaging⟩
  rw [(hselect hpaging).1] at htop
  exact absurd htop (by decide)

/-- A SELECT that skips rows in order does so directly behind its ordering. -/
theorem SkipsInOrder.behind (hselect : select.SkipsInOrder) :
    Behind "OFFSET" "ORDER" select.clauses ∧ Behind "FETCH" "OFFSET" select.clauses := by
  apply behind_clausesOf
  · exact fun hpaging => (hselect hpaging).2
  · cases select.paging <;> simp

end Select

/-- SELECTs that skip rows in order are allowed where they may be ordered. -/
theorem orderingsAllowed_of_skipsInOrder (selects : List Select) {nested : Bool}
    (hselects : ∀ select ∈ selects, select.SkipsInOrder)
    (hlimited : nested = true → ∀ select ∈ selects, select.OrderedAlone)
    (hbeside : 1 < selects.length → ∀ select ∈ selects, select.OrderedBeside) :
    OrderingsAllowed nested (selects.map Select.clauses) := by
  constructor
  · intro hnested
    rw [List.forall_mem_map]
    intro select hselect
    rw [Select.order_mem_clauses, Select.limits_mem_clauses.1, Select.limits_mem_clauses.2]
    exact (hlimited hnested select hselect).2
  · rw [List.length_map, List.forall_mem_map]
    intro hseveral select hselect
    rw [Select.order_mem_clauses, (hbeside hseveral select hselect).2]
    decide
  · rw [List.forall_mem_map]
    exact fun select hselect => (hselects select hselect).exclusive
  · rw [List.forall_mem_map]
    exact fun select hselect => (hselects select hselect).behind.1
  · rw [List.forall_mem_map]
    exact fun select hselect => (hselects select hselect).behind.2

/-- The orderings of a derived table are allowed if its SELECTs are ordered as they have to
be. -/
theorem Chain.All.orderingsAllowed {chain : Chain Select}
    (hchain : chain.All Select.OrderedAlone Select.OrderedBeside) :
    OrderingsAllowed true (selectClauses chain.trees) := by
  have hclauses : selectClauses chain.trees = chain.selects.map Select.clauses := by
    rw [selectClauses, chain.operands_trees, List.map_map]
    exact List.map_congr_left fun select _ => select.keywords_trees
  obtain ⟨first, links⟩ := chain
  rw [hclauses]
  unfold Chain.All at hchain
  cases links with
  | nil =>
    have halone : ∀ select ∈ [first], select.OrderedAlone := by simpa using hchain
    exact orderingsAllowed_of_skipsInOrder _ (fun select hselect => (halone select hselect).1)
      (fun _ => halone) (fun hseveral => absurd hseveral (by simp [Chain.selects]))
  | cons link rest =>
    have hbeside : ∀ select ∈ Chain.selects ⟨first, link :: rest⟩, select.OrderedBeside := by
      simpa using hchain
    have halone : ∀ select ∈ Chain.selects ⟨first, link :: rest⟩, select.OrderedAlone :=
      fun select hselect => (hbeside select hselect).alone
    exact orderingsAllowed_of_skipsInOrder _ (fun select hselect => (halone select hselect).1)
      (fun _ => halone) (fun _ => hbeside)

/-- The orderings in a SELECT are in their places if its derived tables are ordered as they
have to be. -/
theorem Select.orderingsPlaced {front : List Tree} {select : Select} (hfront : Quiet front)
    (houter : select.SkipsInOrder) (hselect : select.All Select.OrderedAlone Select.OrderedBeside) :
    OrderingsPlaced (front ++ select.trees) := by
  have hkeywords : keywords (front ++ select.trees) = select.clauses := by
    rw [keywords_append, hfront.keywords_eq, List.nil_append, select.keywords_trees]
  constructor
  · rw [selectClauses_of_keywords (by rw [hkeywords]; exact clausesOf_not_setWords _ _ _ _ _),
      hkeywords]
    exact orderingsAllowed_of_skipsInOrder [select] (by simpa using houter)
      nofun (fun hseveral => absurd hseveral (by simp))
  · rw [bodies_append, List.forall_mem_append]
    have hquiet : ∀ body, Quiet body → OrderingsAllowed true (selectClauses body) :=
      fun body hbody => hbody.orderingsAllowed true
    refine ⟨fun body hbody => hquiet body (hfront.bodies body hbody), ?_⟩
    rw [select.forall_mem_bodies_iff hquiet]
    exact fun chain hchain => (hselect chain hchain).orderingsAllowed

end Sql

/-! ## Orderings of nodes -/

namespace Query

open Sql Binding

variable {query : Query} {whole : Bool} {columns : SelectList → Prop}
  {relation : Relation Select → Prop} {select : Select}

/-- A limit takes effect if there is one or only one row is wanted. -/
theorem isSome_effectiveLimit (query : Query) :
    query.effectiveLimit.isSome = (query.wantsOne || query.hasLimit) := by
  unfold effectiveLimit
  cases query.wantsOne with
  | true => rfl
  | false => exact Option.isSome_filter

/-- A SELECT skips rows if the query that it lists does. -/
theorem Lists.isSome_paging (hlists : (query.listing whole).Lists columns relation select) :
    select.paging.isSome = query.hasSkip := by
  rw [hlists.paging, Query.paging, hasSkip_listing]
  cases query.hasSkip <;> rfl

/-- A node skips rows only in its order. -/
theorem Lists.skipsInOrder (hlists : (query.listing whole).Lists columns relation select)
    (hconsistent : query.consistent = .ok ()) : select.SkipsInOrder := by
  intro hpaging
  have hskip : query.hasSkip = true := hlists.isSome_paging.symm.trans hpaging
  have horder := ((consistent_eq_ok_iff.mp hconsistent).1 hskip).1
  have hkeeps : query.keepsOrder whole = true := by
    unfold keepsOrder isLimited
    split <;> simp [hskip]
  constructor
  · rw [hlists.top, hasSkip_listing, if_pos hskip]
  · rw [hlists.ordering, isOrdered_listing, hkeeps, isOrdered, horder]
    rfl

/-- An ordering that is kept for the rows that it decides on has a limit or skipped rows to
decide on. -/
theorem Lists.orderedAlone (hlists : (query.listing whole).Lists columns relation select)
    (hconsistent : query.consistent = .ok ()) (hlimited : whole = false ∨ query.count = true) :
    select.OrderedAlone := by
  refine ⟨hlists.skipsInOrder hconsistent, fun horders => ?_⟩
  rw [hlists.ordering, isOrdered_listing, Bool.and_eq_true] at horders
  have hkeeps := horders.1
  cases hskip : query.hasSkip with
  | true => exact .inr (hlists.isSome_paging.trans hskip)
  | false =>
    left
    have hone : (query.listing whole).wantsOne = (query.wantsOne && !query.count) :=
      (Bool.and_or_distrib_right _ _ _).symm
    rw [hlists.top, hasSkip_listing, if_neg (by simp [hskip]), isSome_effectiveLimit, hone,
      hasLimit_listing]
    unfold keepsOrder isLimited at hkeeps
    cases hcount : query.count with
    | true =>
      simp only [hcount, hskip, if_true, Bool.or_false] at hkeeps
      simp [hkeeps]
    | false =>
      have hwhole : whole = false := by simpa [hcount] using hlimited
      simp only [hcount, hskip, hwhole, Bool.false_eq_true, if_false, Bool.or_false,
        Bool.false_or] at hkeeps
      simpa [or_comm] using hkeeps

/-- Orderings are in their places because each node puts its own one there. -/
theorem settles_orderings :
    Settles Select.OrderedAlone Select.OrderedBeside fun _ => True where
  source := fun relation => orderedBeside_filter .all relation none
  node := by
    intro query below hrelation
    rw [innerOver_eq]
    refine (ensures_nodeOver false (ensures_true _) hrelation).mono ?_
    rintro select ⟨hconsistent, hrenders⟩
    rw [true_and]
    cases hrenders with
    | @listed select hcount hlists =>
      have halone := hlists.orderedAlone hconsistent (.inl rfl)
      refine ⟨?_, fun hunordered => ?_⟩
      · rw [Select.all_iff, hlists.relation]
        exact and_iff_right halone
      · have horders : select.ordering.orders = false := by
          rw [hlists.ordering, ← placed_eq_listing false hcount]
          exact hunordered
        exact ⟨fun _ => halone, fun _ => ⟨halone.1, horders⟩⟩
    | @counted select hcount hrows hlists =>
      have hlisted := hlists.orderedAlone hconsistent (.inr hcount)
      have hcounting : (counting select).OrderedBeside := orderedBeside_filter _ _ _
      refine ⟨?_, fun _ => iff_of_true hcounting hcounting.alone⟩
      rw [all_counting_iff, Select.all_iff, hlists.relation, and_iff_right hcounting.alone]
      exact and_iff_right hlisted
    | @number rendered condition hcount hrows hbelow =>
      have hnumber := orderedBeside_filter .count rendered condition
      refine ⟨?_, fun _ => iff_of_true hnumber hnumber.alone⟩
      rw [Select.all_iff, hbelow]
      exact and_iff_right hnumber.alone

/-- In a whole query all orderings are in their places, too. -/
theorem ensures_outer (query : Query) :
    Ensures (fun select => select.SkipsInOrder ∧
      select.All Select.OrderedAlone Select.OrderedBeside) query.outer := by
  have hrelation : Ensures (fun rendered => rendered.All Select.OrderedAlone Select.OrderedBeside)
      query.relation :=
    (ensures_relation settles_orderings query).mono fun rendered hall => hall.mpr fun _ _ => trivial
  rw [outer, outerOver_eq]
  refine (ensures_nodeOver true (ensures_true _) hrelation).mono ?_
  rintro select ⟨hconsistent, hrenders⟩
  cases hrenders with
  | @listed select hcount hlists =>
    exact ⟨hlists.skipsInOrder hconsistent, Select.all_iff.mpr hlists.relation⟩
  | @counted select hcount hrows hlists =>
    have hlisted := hlists.orderedAlone hconsistent (.inr hcount)
    have hcounting : (counting select).OrderedBeside := orderedBeside_filter _ _ _
    exact ⟨hcounting.1, all_counting_iff.mpr ⟨hlisted, Select.all_iff.mpr hlists.relation⟩⟩
  | @number rendered condition hcount hrows hbelow =>
    exact ⟨(orderedBeside_filter .count rendered condition).1, Select.all_iff.mpr hbelow⟩

/-- All orderings in the text of a query stand where the server allows them. -/
theorem orderingsPlaced_statement {query : Query} {statement : Statement}
    (hstatement : query.statement = .ok statement) :
    ∃ trees, readGroups (tokens statement.text) = some trees ∧ OrderingsPlaced trees := by
  obtain ⟨front, select, values, houter, hfront, htrees⟩ := readGroups_statement hstatement
  obtain ⟨hskips, hall⟩ := ensures_outer query [] select values houter
  exact ⟨_, htrees, select.orderingsPlaced hfront hskips hall⟩

/-- The number of some rows of two ordered queries. -/
def rankedUnion : Query :=
  { source := .queries
      [{ source := .table ⟨"a", none⟩
         limit := some ⟨5, .rows⟩
         order := [⟨.field "x", .ascending⟩] },
        { source := .table ⟨"b", none⟩
          skip := 2
          order := [⟨.field "y", .descending⟩] }]
    limit := some ⟨4, .rows⟩
    skip := 3
    count := true
    order := [⟨.field "x", .ascending⟩] }

theorem orderingsPlaced_statement_rankedUnion :
    ∃ statement trees, rankedUnion.statement = .ok statement ∧
      readGroups (tokens statement.text) = some trees ∧ OrderingsPlaced trees := by
  obtain ⟨statement, hstatement⟩ : ∃ statement, rankedUnion.statement = .ok statement := ⟨_, rfl⟩
  obtain ⟨trees, htrees, hplaced⟩ := orderingsPlaced_statement hstatement
  exact ⟨statement, trees, hstatement, htrees, hplaced⟩

end Query

end SqlScribe
