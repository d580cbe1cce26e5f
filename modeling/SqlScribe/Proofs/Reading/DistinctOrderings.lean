import SqlScribe.Proofs.Reading.DerivedColumns
import SqlScribe.Proofs.Rendering.QueryPlaceholders
import SqlScribe.Proofs.Rendering.SteadyExprs

/-!
# Orderings of distinct rows

The server orders distinct rows only by what they return, and it compares texts.  A query is
checked before it is rendered, by its expressions.  Each constant has a placeholder of its own, so
an expression that binds one is equal to a returned one and differs from it in the text.

Main definitions:

- `Sql.distinctSorted` says that in a text each SELECT of distinct rows is ordered by what it
  returns only.
- `Query.SortsUnbound` says that a node orders distinct rows only by expressions that bind
  nothing.

Main results:

- `Query.distinctSorted_statement_iff`: the SELECTs of distinct rows in the text of a query are
  ordered by what they return exactly if no node orders distinct rows by an expression that binds
  a constant.
-/

namespace SqlScribe

/-! ## Reading orderings of distinct rows -/

namespace Sql

/-- Whether a SELECT returns equal rows once. -/
def isDistinct : List Tree → Bool
  | first :: second :: _ => first.isWord "SELECT" && second.isWord "DISTINCT"
  | _ => false

/-- The ordering expressions of a SELECT, without their directions. -/
def orderTrees (select : List Tree) : List (List Tree) :=
  match select.dropWhile (!·.isWord "ORDER") with
  | _ :: _ :: keys =>
    ((keys.takeWhile (!·.isWord "OFFSET")).splitOnP (·.isSign ",")).map List.dropLast
  | _ => []

/-- A returned column without its alias. -/
def withoutAlias (column : List Tree) : List Tree :=
  match column.reverse with
  | .token (.name _) :: front :: rest => if front.isWord "AS" then rest.reverse else column
  | _ => column

/-- Whether a SELECT of distinct rows is ordered by returned columns only; texts are compared
token by token. -/
def sortsDistinct (select : List Tree) : Bool :=
  !isDistinct select || (orderTrees select).all fun key =>
    ((columnTrees select).getD []).any fun column =>
      treeTokens (withoutAlias column) = treeTokens key

/-- Whether all SELECTs of distinct rows in a text are ordered by returned columns only, the
outermost one and those in parentheses. -/
def distinctSorted (trees : List Tree) : Bool :=
  sortsDistinct (outerSelect trees) && (bodies trees).all fun body =>
    (operands body).all sortsDistinct

/-- The alias of a returned column does not count. -/
example :
    (readGroups (tokens "SELECT DISTINCT UPPER([a]) AS [b] FROM [t] ORDER BY UPPER([a]) ASC")).map
      distinctSorted = some true := by
  decide +kernel

/-! ## Reading a SELECT back -/

/-- Where no clause begins no distinct rows are returned. -/
theorem isDistinct_of_keywords {trees : List Tree} (hkeywords : keywords trees = []) :
    isDistinct trees = false := by
  match trees with
  | [] | [_] => rfl
  | first :: second :: rest =>
    rw [isDistinct, isWord_select_of_keywords hkeywords, Bool.false_and]

/-- Where no clause begins no distinct rows are ordered. -/
theorem sortsDistinct_of_keywords (trees : List Tree) (hkeywords : keywords trees = []) :
    sortsDistinct trees = true := by
  rw [sortsDistinct, isDistinct_of_keywords hkeywords]
  rfl

/-- Whether a SELECT returns distinct rows is read back. -/
theorem Select.isDistinct_trees (select : Select) : isDistinct select.trees = select.distinct := by
  obtain ⟨distinct, top, columns, relation, condition, ordering, paging⟩ := select
  cases distinct with
  | true => simp [Select.trees, distinctTrees, isDistinct]
  | false =>
    obtain ⟨first, more, hcolumns, hwords⟩ := exists_first_column columns
      (relationTrees relation ++ (whereTrees condition ++ (ordering.trees ++ pagingTrees paging)))
    have hfirst : first.isWord "DISTINCT" = false := hwords "DISTINCT" (by simp)
    rw [Select.trees, hcolumns]
    cases top with
    | none => simp [distinctTrees, topTrees, isDistinct, hfirst]
    | some limit => simp [distinctTrees, topTrees, isDistinct]

/-- In front of its ordering no ordering begins in a SELECT. -/
theorem Select.dropWhile_order (select : Select) :
    select.trees.dropWhile (!·.isWord "ORDER") =
      (select.ordering.trees ++ pagingTrees select.paging).dropWhile (!·.isWord "ORDER") := by
  have hquiet : ∀ {trees : List Tree}, Quiet trees →
      ∀ tree ∈ trees, (!tree.isWord "ORDER") = true := by
    intro trees htrees tree htree
    rw [htrees.isWord_eq_false (by decide) tree htree]
    rfl
  obtain ⟨distinct, top, columns, relation, condition, ordering, paging⟩ := select
  have htop : ∀ tree ∈ topTrees top, (!tree.isWord "ORDER") = true := by
    cases top with
    | none => simp [topTrees]
    | some limit => cases hunit : limit.unit <;> simp [topTrees, hunit]
  have hrelation : ∀ tree ∈ relationTrees relation, (!tree.isWord "ORDER") = true := by
    cases relation with
    | table table => exact hquiet (quiet_tableTrees table)
    | derived chain => simp [relationTrees]
  have hcondition : ∀ tree ∈ whereTrees condition, (!tree.isWord "ORDER") = true := by
    cases condition with
    | none => simp [whereTrees]
    | some predicate =>
      rw [whereTrees, List.forall_mem_cons]
      exact ⟨by simp, hquiet predicate.quiet_trees⟩
  rw [Select.trees, List.dropWhile_cons_of_pos (by simp),
    List.dropWhile_append_of_pos (hquiet (quiet_distinctTrees distinct)),
    List.dropWhile_append_of_pos htop, List.dropWhile_append_of_pos (hquiet columns.quiet_trees),
    List.dropWhile_cons_of_pos (by simp), List.dropWhile_append_of_pos hrelation,
    List.dropWhile_append_of_pos hcondition]

/-- A SELECT without an ordering has no ordering expressions. -/
theorem Select.orderTrees_none {select : Select} (hordering : select.ordering = .none) :
    orderTrees select.trees = [] := by
  rw [orderTrees, select.dropWhile_order, hordering]
  rcases select.paging with - | ⟨skip, - | count⟩ <;> simp [Ordering.trees, pagingTrees]

/-- The ordering expressions of a SELECT are read back. -/
theorem Select.orderTrees_keys {select : Select} {keys : List (Scalar × Direction)}
    (hordering : select.ordering = .keys keys) (hne : keys ≠ []) :
    orderTrees select.trees = keys.map (·.1.trees) := by
  have hkeys : ∀ tree ∈ commas (keys.map keyTrees), (!tree.isWord "OFFSET") = true := by
    intro tree htree
    rw [(quiet_keyTrees keys).isWord_eq_false (by decide) tree htree]
    rfl
  have hpaging : (pagingTrees select.paging).takeWhile (!·.isWord "OFFSET") = [] := by
    rcases select.paging with - | ⟨skip, fetch⟩
    · rfl
    · exact List.takeWhile_cons_of_neg (by simp)
  have hsplit : (commas (keys.map keyTrees)).splitOnP (·.isSign ",") = keys.map keyTrees := by
    apply splitOnP_commas (by simpa using hne)
    rw [List.forall_mem_map]
    intro key _
    rw [keyTrees, List.forall_mem_append]
    exact ⟨fun tree htree => Tree.isToken_of_within (key.1.within_trees tree htree) (by decide),
      by simp⟩
  rw [orderTrees, select.dropWhile_order, hordering, Ordering.trees]
  simp only [List.cons_append]
  rw [List.dropWhile_cons_of_neg (by simp)]
  simp only [List.takeWhile_append_of_pos hkeys, hpaging, List.append_nil, hsplit, List.map_map]
  exact List.map_congr_left fun key _ => List.dropLast_concat

/-- Without its alias a returned column is its expression. -/
theorem withoutAlias_itemTrees (item : Scalar × Option String) :
    withoutAlias (itemTrees item) = item.1.trees := by
  obtain ⟨scalar, label⟩ := item
  cases label with
  | some label => simp [itemTrees, withoutAlias]
  | none =>
    have halias : ∀ tree ∈ scalar.trees.reverse, tree.isWord "AS" = false := fun tree htree =>
      Tree.isToken_of_within (scalar.within_trees tree (List.mem_reverse.mp htree)) (by decide)
    rw [itemTrees]
    unfold withoutAlias
    split
    · rename_i front rest hreverse
      rw [halias front (by simp [hreverse]), if_neg (by simp)]
    · rfl

/-- A SELECT of distinct rows is ordered by what it returns if each key has the tokens of a
returned expression. -/
theorem Select.sortsDistinct_keys {select : Select} {keys : List (Scalar × Direction)}
    {items : List (Scalar × Option String)} (hdistinct : select.distinct = true)
    (hcolumns : select.columns = .items items) (hitems : items ≠ [])
    (hordering : select.ordering = .keys keys) (hkeys : keys ≠ []) :
    sortsDistinct select.trees = true ↔
      ∀ key ∈ keys, ∃ item ∈ items, treeTokens item.1.trees = treeTokens key.1.trees := by
  rw [sortsDistinct, select.isDistinct_trees, hdistinct, select.columnTrees_trees, hcolumns,
    SelectList.splitOnP_items hitems, select.orderTrees_keys hordering hkeys]
  simp [withoutAlias_itemTrees]

/-- Expressions with the same tokens have the same placeholders. -/
theorem indices_eq_of_treeTokens {a b : Scalar} (htokens : treeTokens a.trees = treeTokens b.trees) :
    a.indices = b.indices := by
  rw [a.groups_pieces.treeTokens_eq, b.groups_pieces.treeTokens_eq] at htokens
  have hplaceholders := congrArg (List.filterMap Token.placeholder?) htokens
  rw [Pieces.tokens, Pieces.tokens, Pieces.placeholders_tokens a.calm_pieces,
    Pieces.placeholders_tokens b.calm_pieces] at hplaceholders
  exact List.map_injective_iff.mpr placeholder_injective hplaceholders

/-- The SELECTs of distinct rows in a text are ordered by what they return if those of a SELECT
are. -/
theorem Select.distinctSorted_iff {front : List Tree} (hfront : Quiet front) (select : Select) :
    distinctSorted (front ++ select.trees) = true ↔
      sortsDistinct select.trees = true ∧
        select.All (sortsDistinct ·.trees = true) (sortsDistinct ·.trees = true) := by
  rw [distinctSorted, outerSelect_trees hfront, Bool.and_eq_true,
    select.all_operands_iff sortsDistinct_of_keywords hfront]

end Sql

/-! ## Where expressions are rendered -/

open Sql Binding

/-- For each equal expression there is one on the other side. -/
theorem Expr.exists_same_of_sameList {as bs : List Expr} (hsame : sameList as bs = true) :
    ∀ b ∈ bs, ∃ a ∈ as, a.same b = true := by
  induction as generalizing bs with
  | nil =>
    cases bs with
    | nil => simp
    | cons b bs => simp [sameList] at hsame
  | cons a as ih =>
    cases bs with
    | nil => simp
    | cons b bs =>
      simp only [sameList, Bool.and_eq_true] at hsame
      rw [List.forall_mem_cons]
      refine ⟨⟨a, List.mem_cons_self, hsame.1⟩, fun other hother => ?_⟩
      obtain ⟨expr, hexpr, hequal⟩ := ih hsame.2 other hother
      exact ⟨expr, List.mem_cons_of_mem _ hexpr, hequal⟩

/-- An expression is rendered behind a number of bound values, or more. -/
def Expr.RendersBehind (count : Nat) (expr : Expr) (scalar : Scalar) : Prop :=
  ∃ before after, count ≤ before.length ∧ expr.scalar before = .ok (scalar, after)

/-- What is rendered behind some bound values is rendered behind fewer. -/
theorem Expr.RendersBehind.mono {count fewer : Nat} {expr : Expr} {scalar : Scalar}
    (hrenders : expr.RendersBehind count scalar) (hfewer : fewer ≤ count) :
    expr.RendersBehind fewer scalar := by
  obtain ⟨before, after, hbefore, hscalar⟩ := hrenders
  exact ⟨before, after, hfewer.trans hbefore, hscalar⟩

/-- Parts with an expression in them are rendered one by one, each behind what is bound before. -/
theorem Expr.rendersBehind_of_mapM {α β : Type} {render : α → Binding β} {expr : α → Expr}
    {scalar : β → Scalar} {parts : List α} {values values' : List Value} {results : List β}
    (hresults : parts.mapM render values = .ok (results, values'))
    (hrender : ∀ part values result values', render part values = .ok (result, values') →
      (expr part).scalar values = .ok (scalar result, values')) :
    List.Forall₂ (fun part result => (expr part).RendersBehind values.length (scalar result))
      parts results := by
  induction parts generalizing values results with
  | nil =>
    obtain ⟨rfl, -⟩ : [] = results ∧ _ := by simpa using hresults
    exact .nil
  | cons part rest ih =>
    rw [List.mapM_cons] at hresults
    obtain ⟨result, between, hresult, hrest⟩ := run_seq_eq_ok.mp hresults
    obtain ⟨more, after, hmore, hpure⟩ := run_seq_eq_ok.mp hrest
    cases hpure
    have hscalar := hrender part values result between hresult
    have hgrown : values.length ≤ between.length := by
      obtain ⟨rfl, -⟩ := (expr part).spans_scalar hscalar
      simp
    exact .cons ⟨values, between, Nat.le_refl _, hscalar⟩
      ((ih hmore).imp fun _ _ hrenders => hrenders.mono hgrown)

namespace Query

/-- A node orders distinct rows only by expressions that bind nothing. -/
def SortsUnbound (whole : Bool) (node : Query) : Prop :=
  node.distinct ≠ [] → ∀ expr ∈ node.orderingExprs whole, expr.constants = []

/-- What a query returns: each expression that it lists is rendered, with placeholders for no more
than a number of bound values. -/
structure Returns (query : Query) (count : Nat) (items : List (Scalar × Option String)) : Prop where
  rendered : ∀ expr ∈ query.listedExprs, ∃ item ∈ items, expr.RendersBehind 0 item.1
  bound : ∀ item ∈ items, ∀ index ∈ item.1.indices, index < count
  ne_nil : items ≠ []

instance (whole : Bool) (node : Query) : Decidable (node.SortsUnbound whole) :=
  inferInstanceAs (Decidable (_ → ∀ expr ∈ _, _))

variable {query : Query} {values values' : List Value}

/-- A returned expression is rendered as the expression by itself. -/
theorem scalar_of_renderItem {item : SelectItem} {result : Scalar × Option String}
    (hresult : renderItem item values = .ok (result, values')) :
    item.expr.scalar values = .ok (result.1, values') := by
  obtain ⟨scalar, between, hscalar, hpure⟩ := run_seq_eq_ok.mp hresult
  cases hpure
  exact hscalar

/-- An ordering expression is rendered as the expression by itself. -/
theorem scalar_of_renderKey {key : SortKey} {result : Scalar × Direction}
    (hresult : renderKey key values = .ok (result, values')) :
    key.expr.scalar values = .ok (result.1, values') := by
  obtain ⟨scalar, between, hscalar, hpure⟩ := run_seq_eq_ok.mp hresult
  cases hpure
  exact hscalar

/-- A query with distinct rows lists what it returns. -/
theorem exists_returns {columns : SelectList} (hdistinct : query.hasDistinct = true)
    (hcolumns : query.selectList values = .ok (columns, values')) :
    ∃ items, columns = .items items ∧ query.Returns values'.length items := by
  obtain ⟨items, rfl, hitems⟩ : ∃ items, columns = .items items ∧
      List.Forall₂ (fun expr item => expr.RendersBehind values.length item.1)
        query.listedExprs items := by
    unfold selectList at hcolumns
    unfold listedExprs
    cases hlists : query.hasItems with
    | true =>
      rw [hlists, if_pos rfl] at hcolumns
      obtain ⟨items, between, hlist, hpure⟩ := run_seq_eq_ok.mp hcolumns
      cases hpure
      refine ⟨items, rfl, ?_⟩
      rw [if_pos rfl, List.forall₂_map_left_iff]
      exact Expr.rendersBehind_of_mapM hlist fun _ _ _ _ => scalar_of_renderItem
    | false =>
      rw [hlists, hdistinct, if_neg Bool.false_ne_true, if_pos rfl] at hcolumns
      obtain ⟨items, between, hlist, hpure⟩ := run_seq_eq_ok.mp hcolumns
      cases hpure
      refine ⟨items, rfl, ?_⟩
      rw [if_neg Bool.false_ne_true]
      exact Expr.rendersBehind_of_mapM hlist fun _ _ _ _ => scalar_of_renderItem
  obtain ⟨rfl, own, hown, hspan⟩ := query.spans_selectList hcolumns
  refine ⟨items, rfl, ?_, ?_, ?_⟩
  · intro expr hexpr
    obtain ⟨index, hindex, rfl⟩ := List.mem_iff_getElem.mp hexpr
    have hlength : index < items.length := hitems.length_eq ▸ hindex
    exact ⟨items[index], List.getElem_mem _, (hitems.get hindex hlength).mono (Nat.zero_le _)⟩
  · intro item hitem index hindex
    have hmem : index ∈ (SelectList.items items).pieces.indices := by
      simp only [SelectList.pieces, Pieces.indices_join, List.flatMap_map, List.mem_flatMap]
      exact ⟨item, hitem, by rwa [indices_itemPieces]⟩
    have hbound : index ∈ own := by
      rw [List.nil_append] at hown
      exact hown ▸ hmem
    rw [List.length_append]
    exact ((hspan.mem_iff index).mp hbound).2
  · rintro rfl
    have hlisted : query.listedExprs = [] := List.forall₂_nil_right_iff.mp hitems
    unfold listedExprs at hlisted
    split at hlisted <;> simp_all [hasItems, hasDistinct]

/-- Where distinct rows are ordered by an expression that binds nothing, a listed one is rendered
by the same step. -/
theorem exists_listed_scalar
    (hsame : query.hasItems = true →
      Expr.sameList (query.items.map (·.expr)) query.distinct = true)
    {expr : Expr} (horder : query.distinct.any (·.same expr) = true) (hnone : expr.constants = []) :
    ∃ listed ∈ query.listedExprs, listed.scalar = expr.scalar := by
  obtain ⟨key, hkey, hequal⟩ := List.any_eq_true.mp horder
  obtain ⟨hkeyNone, hkeyScalar⟩ := Expr.scalar_eq_of_same key expr hequal hnone
  unfold listedExprs
  cases hitems : query.hasItems with
  | true =>
    obtain ⟨listed, hlisted, hlistedSame⟩ :=
      Expr.exists_same_of_sameList (hsame hitems) key hkey
    obtain ⟨-, hscalar⟩ := Expr.scalar_eq_of_same listed key hlistedSame hkeyNone
    exact ⟨listed, hlisted, hscalar.trans hkeyScalar⟩
  | false => exact ⟨key, hkey, hkeyScalar⟩

/-! ## Orderings of nodes -/

section Returns

variable {count : Nat} {items : List (Scalar × Option String)}

/-- An expression that is rendered behind what a query returns, and is equal to an expression in
it, has the text of one exactly if it binds nothing. -/
theorem Returns.exists_item_iff (hreturns : query.Returns count items) {expr : Expr}
    {scalar : Scalar} (hrenders : expr.RendersBehind count scalar)
    (hlisted : expr.constants = [] → ∃ other ∈ query.listedExprs, other.scalar = expr.scalar) :
    (∃ item ∈ items, treeTokens item.1.trees = treeTokens scalar.trees) ↔
      expr.constants = [] := by
  obtain ⟨before, after, hbefore, hscalar⟩ := hrenders
  constructor
  · rintro ⟨item, hitem, htokens⟩
    -- The placeholder of the first constant is newer than all that is returned.
    by_contra hsome
    obtain ⟨rfl, own, hown, hspan⟩ := expr.spans_scalar hscalar
    have hnew : before.length ∈ scalar.indices := by
      have hlength := List.length_pos_iff.mpr hsome
      rw [hown, List.nil_append, hspan.mem_iff]
      omega
    rw [← indices_eq_of_treeTokens htokens] at hnew
    have hold := hreturns.bound item hitem _ hnew
    omega
  · intro hnone
    obtain ⟨other, hother, hsame⟩ := hlisted hnone
    obtain ⟨item, hitem, start, finish, -, hrendered⟩ := hreturns.rendered other hother
    rw [hsame] at hrendered
    exact ⟨item, hitem, by rw [(expr.steady_scalar hnone).unique hscalar hrendered]⟩

/-- Keys that are equal to returned expressions have their texts exactly if they bind nothing. -/
theorem Returns.forall_keys_iff (hreturns : query.Returns count items) {order : List SortKey}
    {keys : List (Scalar × Direction)}
    (hkeys : List.Forall₂ (fun key rendered => key.expr.RendersBehind count rendered.1) order keys)
    (hlisted : ∀ key ∈ order, key.expr.constants = [] →
      ∃ other ∈ query.listedExprs, other.scalar = key.expr.scalar) :
    (∀ key ∈ keys, ∃ item ∈ items, treeTokens item.1.trees = treeTokens key.1.trees) ↔
      ∀ key ∈ order, key.expr.constants = [] := by
  induction hkeys with
  | nil => simp
  | cons hkey _ ih =>
    rw [List.forall_mem_cons] at hlisted
    rw [List.forall_mem_cons, List.forall_mem_cons]
    exact and_congr (hreturns.exists_item_iff hkey hlisted.1) (ih hlisted.2)

end Returns

/-- The rows that a query lists are ordered by what it returns exactly if it orders distinct rows
only by expressions that bind nothing. -/
theorem ensures_sortsDistinct_rows (query : Query) {relation : Binding (Relation Select)} {p : Prop}
    {source : List Value} (hrelation : Spans [] relationIndices source p relation)
    (hsame : query.hasDistinct = true → query.hasItems = true →
      Expr.sameList (query.items.map (·.expr)) query.distinct = true) :
    Ensures (fun select => sortsDistinct select.trees = true ↔ (query.distinct ≠ [] →
      ∀ expr ∈ if query.shuffle then [] else query.order.map (·.expr), expr.constants = []))
      (query.rows relation) := by
  intro values select values' hselect
  obtain ⟨_, start, hcheck, hselect⟩ := run_seq_eq_ok.mp hselect
  obtain ⟨columns, listed, hcolumns, hselect⟩ := run_seq_eq_ok.mp hselect
  obtain ⟨rendered, read, hread, hselect⟩ := run_seq_eq_ok.mp hselect
  obtain ⟨condition, filtered, hcondition, hselect⟩ := run_seq_eq_ok.mp hselect
  obtain ⟨ordering, ordered, hordering, hselect⟩ := run_seq_eq_ok.mp hselect
  cases hselect
  obtain ⟨hsorted, rfl⟩ := run_check_eq_ok.mp hcheck
  cases hdistinct : query.hasDistinct with
  | false =>
    have hnone : query.distinct = [] := by simpa [hasDistinct] using hdistinct
    simp [sortsDistinct, Select.isDistinct_trees, hnone]
  | true =>
    obtain ⟨hshuffle, horder⟩ := distinctOrder_eq_ok_iff.mp hsorted hdistinct
    have hsome : query.distinct ≠ [] := by simpa [hasDistinct] using hdistinct
    rw [Query.ordering, hshuffle, if_neg Bool.false_ne_true] at hordering
    rw [hshuffle, if_neg Bool.false_ne_true, List.forall_mem_map, forall_prop_of_true hsome]
    cases hhasOrder : query.hasOrder with
    | false =>
      rw [hhasOrder, if_neg Bool.false_ne_true] at hordering
      cases hordering
      have hnone : query.order = [] := by simpa [hasOrder] using hhasOrder
      rw [hnone, sortsDistinct, Select.orderTrees_none rfl]
      simp
    | true =>
      rw [hhasOrder, if_pos rfl] at hordering
      obtain ⟨keys, between, hkeys, hpure⟩ := run_seq_eq_ok.mp hordering
      cases hpure
      obtain ⟨items, rfl, hreturns⟩ := exists_returns hdistinct hcolumns
      have hgrown : listed.length ≤ filtered.length := by
        obtain ⟨rfl, -⟩ := hrelation hread
        obtain ⟨rfl, -⟩ := query.spans_condition hcondition
        simp only [List.length_append]
        omega
      have hrendered := (Expr.rendersBehind_of_mapM hkeys fun _ _ _ _ => scalar_of_renderKey).imp
        fun _ _ hrenders => hrenders.mono hgrown
      have hne : keys ≠ [] := by
        rintro rfl
        have hnone := List.forall₂_nil_right_iff.mp hrendered
        simp [hasOrder, hnone] at hhasOrder
      rw [Select.sortsDistinct_keys rfl rfl hreturns.ne_nil rfl hne,
        hreturns.forall_keys_iff hrendered fun key hkey =>
          exists_listed_scalar (hsame hdistinct) (horder key hkey)]

/-- The orderings of distinct rows in a node are a matter of single nodes. -/
theorem ensures_sorted_node (whole : Bool) (query : Query) {below : Prop}
    (hrelation : Ensures (fun rendered =>
      rendered.All (sortsDistinct ·.trees = true) (sortsDistinct ·.trees = true) ↔ below)
      query.relation) :
    Ensures (fun select => sortsDistinct select.trees = true ∧
      select.All (sortsDistinct ·.trees = true) (sortsDistinct ·.trees = true) ↔
        query.SortsUnbound whole ∧ below) (query.nodeOver whole query.relation) := by
  have hplain : ∀ {select : Select}, select.distinct = false →
      sortsDistinct select.trees = true := by
    intro select hdistinct
    rw [sortsDistinct, select.isDistinct_trees, hdistinct]
    rfl
  have hlisted : query.consistent = .ok () → Ensures (fun select =>
      sortsDistinct select.trees = true ∧
        select.All (sortsDistinct ·.trees = true) (sortsDistinct ·.trees = true) ↔
          query.SortsUnbound whole ∧ below) ((query.listing whole).rows query.relation) := by
    intro hconsistent
    have hsame := (consistent_eq_ok_iff.mp hconsistent).2.2.2.2.1
    have hsorts := (query.listing whole).ensures_sortsDistinct_rows (spans_relation query) hsame
    rw [← orderingExprs_eq, distinct_listing] at hsorts
    have hlists := ensures_rows (ensures_true (query.listing whole).selectList) hrelation
    refine (hsorts.and hlists).mono fun select ⟨hselect, hbelow⟩ => ?_
    rw [hselect, Select.all_iff, hbelow.relation]
    rfl
  apply ensures_node
  · exact fun hconsistent _ => hlisted hconsistent
  · intro hconsistent _ _
    refine (hlisted hconsistent).mono fun select hselect => ?_
    rw [all_counting_iff, ← hselect]
    exact and_iff_right (hplain rfl)
  · intro _ _ hkeeps
    refine hrelation.mono fun rendered hbelow condition => ?_
    have hnone : query.distinct = [] := by
      simp_all [keepsRows, hasDistinct]
    rw [Select.all_iff, hbelow]
    exact and_congr_left fun _ => iff_of_true (hplain rfl) fun hsome => absurd hnone hsome

/-- Whether the SELECTs of a query order distinct rows by what they return is a matter of its
nodes. -/
theorem settles_sorting :
    Settles (sortsDistinct ·.trees = true) (sortsDistinct ·.trees = true) (SortsUnbound false) where
  source := fun relation => by rw [sortsDistinct, Select.isDistinct_trees]; rfl
  node := by
    intro query below hrelation
    rw [innerOver_eq]
    exact (query.ensures_sorted_node false hrelation).mono fun select hselect =>
      ⟨hselect, fun _ => Iff.rfl⟩

/-- In the text of a query each SELECT of distinct rows is ordered by what it returns exactly if
no node of the query orders distinct rows by an expression that binds a constant. -/
theorem distinctSorted_statement_iff {query : Query} {statement : Statement}
    (hstatement : query.statement = .ok statement) :
    ∃ trees, readGroups (tokens statement.text) = some trees ∧
      (distinctSorted trees = true ↔
        query.SortsUnbound true ∧ ∀ node ∈ query.inside, node.SortsUnbound false) := by
  obtain ⟨front, select, values, houter, hfront, htrees⟩ := readGroups_statement hstatement
  refine ⟨_, htrees, ?_⟩
  rw [select.distinctSorted_iff hfront]
  exact query.ensures_sorted_node true (ensures_relation settles_sorting query) [] select values
    houter

/-- The values of a column, each once and in order, with a constant for the missing ones. -/
def filledValues : Query :=
  { source := .table ⟨"t", none⟩
    distinct := [.coalesce [.field "a", .value (.text "x")]]
    order := [⟨.coalesce [.field "a", .value (.text "x")], .ascending⟩] }

/-- The same constant has two placeholders, so the ordering is no returned expression. -/
theorem not_distinctSorted_filledValues :
    filledValues.statement = .ok
        { text := "SELECT DISTINCT COALESCE([a], @p0) FROM [t] ORDER BY COALESCE([a], @p1) ASC"
          parameters := [⟨"@p0", .text "x"⟩, ⟨"@p1", .text "x"⟩]
          result := .multiple } ∧
      (readGroups (tokens
        "SELECT DISTINCT COALESCE([a], @p0) FROM [t] ORDER BY COALESCE([a], @p1) ASC")).map
        distinctSorted = some false :=
  ⟨rfl, by decide +kernel⟩

/-- The labels of two tables, of which the first lists distinct ones. -/
def distinctLabels : Query :=
  { source := .queries
      [{ source := .table ⟨"t", none⟩
         limit := some ⟨5, .rows⟩
         items := [⟨.upper (.field "a"), some "Label"⟩]
         distinct := [.upper (.field "a")]
         order := [⟨.upper (.field "a"), .descending⟩] },
        { source := .table ⟨"u", none⟩
          items := [⟨.coalesce [.field "b", .value (.text "x")], some "Label"⟩] }]
    distinct := [.field "Label"]
    order := [⟨.field "Label", .ascending⟩] }

theorem distinctSorted_statement_iff_distinctLabels :
    ∃ statement trees, distinctLabels.statement = .ok statement ∧
      readGroups (tokens statement.text) = some trees ∧ distinctSorted trees = true := by
  obtain ⟨statement, hstatement⟩ : ∃ statement, distinctLabels.statement = .ok statement :=
    ⟨_, rfl⟩
  obtain ⟨trees, htrees, hsorted⟩ := distinctSorted_statement_iff hstatement
  exact ⟨statement, trees, hstatement, htrees, hsorted.mpr ⟨by decide, by decide⟩⟩

end Query

end SqlScribe
