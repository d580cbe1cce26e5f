import SqlScribe.Proofs.Lexing.Token
import SqlScribe.Proofs.Rendering.ExprPlaceholders
import SqlScribe.Proofs.Rendering.NodeParts

/-!
# Placeholders of queries

Queries share the numbering of their placeholders with the queries inside them.  So the
placeholders in the text of a whole query are those of its parameters, each of which
occurs; and they first occur in the order of the parameters unless the position of a
term is asked for in a text and both of them bind values.

Main definitions:

- `Query.constants` are the values that a query binds, one after the other.
- `Query.BindsInOrder` holds where every rendered expression binds in order.
- `Sql.placeholders` are the placeholders of a text as the server reads it.

Main results:

- `Query.parameters_eq`: the parameters of a statement are the values that the query
  binds.
- `Query.placeholder_mem_tokens_iff`: the placeholders of a statement are the names of
  its parameters.
- `Query.placeholders_inOrder_iff`: exactly if every rendered expression binds in order
  they first occur in the order of the parameters.
-/

namespace SqlScribe

open Sql Binding

/-! ## Texts of queries -/

namespace Sql

/-- The placeholders of a SELECT. -/
abbrev Select.indices (select : Select) : List Nat := select.pieces.indices

/-- The placeholders of what a SELECT reads. -/
abbrev relationIndices (relation : Relation Select) : List Nat := (relationPieces relation).indices

/-- A limit has no placeholders. -/
theorem indices_topPieces (top : Option RowLimit) : (topPieces top).indices = [] := by
  cases top with
  | none => rfl
  | some limit => by_cases hunit : limit.unit = .percent <;> simp [topPieces, hunit]

/-- Skipped and returned rows have no placeholders. -/
theorem indices_pagingPieces (paging : Option Paging) : (pagingPieces paging).indices = [] := by
  rcases paging with - | ⟨skip, - | count⟩ <;> simp [pagingPieces]

/-- The name of a table has no placeholders. -/
theorem indices_tablePieces (table : Table) : (tablePieces table).indices = [] := by
  rcases table with ⟨name, - | schema⟩ <;> simp [tablePieces]

/-- A returned expression has its placeholders under an alias too. -/
theorem indices_itemPieces (item : Scalar × Option String) :
    (itemPieces item).indices = item.1.indices := by
  rcases item with ⟨scalar, - | label⟩ <;> simp [itemPieces]

/-- A condition on the rows has the placeholders of the condition. -/
theorem indices_wherePieces (condition : Option Predicate) :
    (wherePieces condition).indices = condition.toList.flatMap Predicate.indices := by
  cases condition <;> simp [wherePieces]

/-- The placeholders of a SELECT are those of its parts, in the order of their texts. -/
theorem Select.indices_mk (distinct : Bool) (top : Option RowLimit) (columns : SelectList)
    (relation : Relation Select) (condition : Option Predicate) (ordering : Sql.Ordering)
    (paging : Option Paging) :
    Select.indices ⟨distinct, top, columns, relation, condition, ordering, paging⟩ =
      columns.pieces.indices ++ (relationIndices relation ++
        (condition.toList.flatMap Predicate.indices ++ ordering.pieces.indices)) := by
  have hdistinct : (if distinct then fixed "DISTINCT " else []).indices = [] := by
    cases distinct <;> rfl
  simp [Select.indices, Select.pieces, hdistinct, indices_topPieces, indices_wherePieces,
    indices_pagingPieces]

/-- Further SELECTs have the placeholders of each of them. -/
theorem indices_linkPieces (links : List (Link Select)) :
    (linkPieces links).indices = links.flatMap (·.select.indices) := by
  induction links with
  | nil => rfl
  | cons link rest ih => simp [linkPieces, ih]

/-- A derived table has the placeholders of its SELECTs, from left to right. -/
theorem relationIndices_derived (first : Select) (links : List (Link Select)) :
    relationIndices (.derived ⟨first, links⟩) =
      first.indices ++ links.flatMap (·.select.indices) := by
  simp [relationIndices, relationPieces, derivedPieces, indices_linkPieces]

/-- A SELECT in parentheses has its placeholders. -/
theorem Select.indices_wrap (select : Select) : select.wrap.indices = select.indices := by
  rw [wrap, indices_mk, relationIndices_derived]
  simp [SelectList.pieces, Ordering.pieces]

end Sql

namespace Query

/-- A counted SELECT has its placeholders. -/
theorem indices_counting (select : Select) : (counting select).indices = select.indices := by
  rw [counting, Select.indices_mk, relationIndices_derived]
  simp [SelectList.pieces, Ordering.pieces]

/-- A chain has the placeholders of its first part and then those of the others. -/
theorem relationIndices_chained (base : Relation Select) (links : List (Link Select)) :
    relationIndices (chained base links) =
      relationIndices base ++ links.flatMap (·.select.indices) := by
  unfold chained
  split
  · rename_i hempty
    simp [List.isEmpty_iff.mp hempty]
  · rw [relationIndices_derived, Select.indices_mk]
    simp [SelectList.pieces, Ordering.pieces]

/-- United SELECTs have the placeholders of each of them. -/
theorem relationIndices_unionAll (first : Select) (rest : List Select) :
    relationIndices (unionAll first rest) = first.indices ++ rest.flatMap Select.indices := by
  rw [unionAll, relationIndices_derived, List.flatMap_map]

/-- What stands in front of a copied query has no placeholders. -/
theorem indices_insertPieces (table : Table) (columns : List String) :
    (insertPieces table columns).indices = [] := by
  have hnames : (columns.map fun name => [Piece.name name]).flatMap Pieces.indices = [] := by
    simp [List.flatMap_map]
  unfold insertPieces
  split <;> simp [indices_tablePieces, hnames]

/-! ## The values that a query binds -/

/-- The values that a node binds, given those of what it reads. -/
def constantsOver (whole : Bool) (node : Query) (source : List Value) : List Value :=
  node.returnedExprs.flatMap Expr.constants ++ (source ++
    (node.filter.toList.flatMap Condition.constants ++
      (node.orderingExprs whole).flatMap Expr.constants))

mutual

/-- The values bound in what a query reads. -/
def sourceConstants : Query → List Value
  | ⟨source, _, _, _, _, _, _, _, _, _, _, _, operations⟩ =>
    constantsOfSource source ++ constantsOfOperations operations

/-- The values bound in a source. -/
def constantsOfSource : Source Query → List Value
  | .table _ => []
  | .queries queries => constantsOfQueries queries

/-- The values bound in several queries. -/
def constantsOfQueries : List Query → List Value
  | [] => []
  | query :: rest => query.constantsOver false query.sourceConstants ++ constantsOfQueries rest

/-- The values bound in set operations. -/
def constantsOfOperations : List (SetOperation Query) → List Value
  | [] => []
  | ⟨_, query⟩ :: rest =>
    query.constantsOver false query.sourceConstants ++ constantsOfOperations rest

end

/-- The values that a whole query binds, one after the other. -/
def constants (query : Query) : List Value := query.constantsOver true query.sourceConstants

/-- The placeholders of a node first occur in the order of binding, as far as it renders
expressions itself. -/
abbrev NodeBindsInOrder (whole : Bool) (node : Query) : Prop :=
  node.RendersOnly Expr.bindsInOrder Condition.bindsInOrder whole

/-- Every expression that a query renders binds in order. -/
def BindsInOrder (query : Query) : Prop :=
  query.NodeBindsInOrder true ∧ ∀ node ∈ query.inside, node.NodeBindsInOrder false

/-! ## Nodes over a given source -/

/-- A returned expression binds its constants. -/
theorem spans_renderItem (item : SelectItem) :
    Spans [] (fun item => (itemPieces item).indices) item.expr.constants
      (item.expr.bindsInOrder = true) (renderItem item) :=
  item.expr.spans_scalar.map fun scalar => by simp [indices_itemPieces]

/-- An ordering expression binds its constants. -/
theorem spans_renderKey (key : SortKey) :
    Spans [] (fun key => (keyPieces key).indices) key.expr.constants
      (key.expr.bindsInOrder = true) (renderKey key) :=
  key.expr.spans_scalar.map fun scalar => by simp [keyPieces]

/-- What a query returns binds the constants of all its expressions. -/
theorem spans_selectList (query : Query) :
    Spans [] (fun columns => columns.pieces.indices) (query.listedExprs.flatMap Expr.constants)
      (∀ expr ∈ query.listedExprs, expr.bindsInOrder = true) query.selectList := by
  unfold selectList listedExprs
  split
  · have hitems := spans_mapM spans_renderItem query.items
    have hlist : Spans [] (fun columns : SelectList => columns.pieces.indices) _ _
        (query.items.mapM renderItem >>= fun items => pure (.items items)) :=
      hitems.map fun items => by simp [SelectList.pieces, List.flatMap_map]
    exact hlist.congr (by simp [List.flatMap_map]) (by simp)
  · split
    · have hkeys := spans_mapM (fun expr => spans_renderItem ⟨expr, none⟩) query.distinct
      exact hkeys.map fun items => by simp [SelectList.pieces, List.flatMap_map]
    · rename_i hdistinct
      have hnone : query.distinct = [] := by simpa [hasDistinct] using hdistinct
      exact (spans_pure rfl).congr (by simp [hnone]) (by simp [hnone])

/-- The condition of a query binds its constants. -/
theorem spans_condition (query : Query) :
    Spans [] (fun condition => condition.toList.flatMap Predicate.indices)
      (query.filter.toList.flatMap Condition.constants)
      (∀ condition ∈ query.filter, condition.bindsInOrder = true) query.condition :=
  spans_optional Condition.spans_predicate query.filter

/-- The ordering of a query binds the constants of its expressions, unless it is random. -/
theorem spans_ordering (query : Query) :
    Spans [] (fun ordering => ordering.pieces.indices)
      ((if query.shuffle then [] else query.order.map (·.expr)).flatMap Expr.constants)
      (∀ expr ∈ if query.shuffle then [] else query.order.map (·.expr), expr.bindsInOrder = true)
      query.ordering := by
  unfold ordering
  split
  · exact (spans_pure rfl).congr rfl (by simp)
  · split
    · have hkeys := spans_mapM spans_renderKey query.order
      have hlist : Spans [] (fun ordering : Sql.Ordering => ordering.pieces.indices) _ _
          (query.order.mapM renderKey >>= fun keys => pure (.keys keys)) :=
        hkeys.map fun keys => by simp [Ordering.pieces, List.flatMap_map]
      exact hlist.congr (by simp [List.flatMap_map]) (by simp)
    · rename_i horder
      have hnone : query.order = [] := by simpa [hasOrder] using horder
      exact (spans_pure rfl).congr (by simp [hnone]) (by simp [hnone])

/-- The listed rows of a query bind the constants of what is returned, read, asked and ordered
by. -/
theorem spans_rows (query : Query) {relation : Binding (Relation Select)} {p : Prop}
    {source : List Value} (hrelation : Spans [] relationIndices source p relation) :
    Spans [] Select.indices
      (query.listedExprs.flatMap Expr.constants ++ (source ++
        (query.filter.toList.flatMap Condition.constants ++
          (if query.shuffle then [] else query.order.map (·.expr)).flatMap Expr.constants)))
      ((∀ expr ∈ query.listedExprs, expr.bindsInOrder = true) ∧ p ∧
        (∀ condition ∈ query.filter, condition.bindsInOrder = true) ∧
        ∀ expr ∈ if query.shuffle then [] else query.order.map (·.expr),
          expr.bindsInOrder = true)
      (query.rows relation) := by
  have hsteps : Spans [] Select.indices _ _ (query.rows relation) :=
    (spans_check query.distinctOrder).seq fun _ => query.spans_selectList.seq fun columns =>
      hrelation.seq fun relation => query.spans_condition.seq fun condition =>
        query.spans_ordering.map fun ordering => by simp [Select.indices_mk]
  exact hsteps.congr (List.nil_append _) (iff_of_eq (true_and _))

/-- The placeholders of a node are those of the values that it binds itself and in what it
reads. -/
theorem spans_nodeOver (whole : Bool) (query : Query) {relation : Binding (Relation Select)}
    {p : Prop} {source : List Value}
    (hrelation : Spans [] relationIndices source p relation) :
    Spans [] Select.indices (query.constantsOver whole source) (query.NodeBindsInOrder whole ∧ p)
      (query.nodeOver whole relation) := by
  have hselect : Spans [] Select.indices (query.constantsOver whole source)
      (query.NodeBindsInOrder whole ∧ p) ((query.placed whole).selectOver relation) := by
    rw [selectOver_placed]
    cases hrows : query.keepsRows with
    | true =>
      have hlisted : Spans [] Select.indices _ _
          ((query.listing whole).rows relation >>= fun select =>
            pure (if query.count then counting select else select)) :=
        ((query.listing whole).spans_rows hrelation).map fun select => by
          split
          · rw [indices_counting, List.nil_append]
          · rw [List.nil_append]
      apply hlisted.congr
      · rw [← orderingExprs_eq, constantsOver, returnedExprs, if_pos hrows, listedExprs_listing,
          filter_listing]
      · rw [← orderingExprs_eq, NodeBindsInOrder, RendersOnly, returnedExprs, if_pos hrows,
          List.forall_mem_append, listedExprs_listing, filter_listing]
        constructor
        · rintro ⟨hlisted, hp, hcondition, hordering⟩
          exact ⟨⟨⟨hlisted, hordering⟩, hcondition⟩, hp⟩
        · rintro ⟨⟨⟨hlisted, hordering⟩, hcondition⟩, hp⟩
          exact ⟨hlisted, hp, hcondition, hordering⟩
    | false =>
      have hsteps : Spans [] Select.indices _ _ (relation >>= fun relation =>
          query.condition >>= fun condition =>
            pure ({ columns := .count, relation, condition } : Select)) :=
        hrelation.seq fun relation => query.spans_condition.map fun condition => by
          simp [Select.indices_mk, SelectList.pieces, Ordering.pieces]
      obtain ⟨hreturned, hordering⟩ := exprs_of_not_keepsRows whole hrows
      apply hsteps.congr
      · simp [constantsOver, hreturned, hordering]
      · simp [NodeBindsInOrder, RendersOnly, hreturned, hordering, and_comm]
  exact ((spans_check query.consistent).seq fun _ => hselect).congr (List.nil_append _)
    (iff_of_eq (true_and _))

/-- An operand binds the constants of its parts and of what it reads. -/
theorem spans_operandOver (query : Query) {relation : Binding (Relation Select)} {p : Prop}
    {source : List Value} (hrelation : Spans [] relationIndices source p relation) :
    Spans [] Select.indices (query.constantsOver false source) (query.NodeBindsInOrder false ∧ p)
      (query.operandOver relation) := by
  have hinner := query.spans_nodeOver false hrelation
  rw [← innerOver_eq] at hinner
  exact hinner.map fun select => by
    split
    · rw [Select.indices_wrap, List.nil_append]
    · rw [List.nil_append]

/-! ## Sources -/

mutual

/-- The placeholders of what a query reads are those of the values that the queries inside
it bind. -/
theorem spans_relation : ∀ query : Query,
    Spans [] relationIndices query.sourceConstants
      (∀ node ∈ query.inside, node.NodeBindsInOrder false) query.relation
  | ⟨source, _, _, _, _, _, _, _, _, _, _, _, operations⟩ => by
    have hsteps : Spans [] relationIndices _ _
        (sourceRelation source >>= fun base => operationLinks operations >>= fun links =>
          pure (chained base links)) :=
      (spans_sourceRelation source).seq fun base =>
        (spans_operationLinks operations).map fun links => by
          rw [relationIndices_chained, List.nil_append]
    exact hsteps.congr rfl List.forall_mem_append.symm

/-- A source binds the constants of its queries. -/
theorem spans_sourceRelation : ∀ source : Source Query,
    Spans [] relationIndices (constantsOfSource source)
      (∀ node ∈ nodesOfSource source, node.NodeBindsInOrder false) (sourceRelation source)
  | .table table => by
    refine (spans_pure ?_).congr rfl (by simp [nodesOfSource])
    exact indices_tablePieces table
  | .queries [] => spans_fail _
  | .queries [query] => by
    have hquery := query.spans_nodeOver false (spans_relation query)
    have hsteps : Spans [] relationIndices _ _ (query.innerOver query.relation >>= fun select =>
        pure (.derived ⟨select, []⟩)) :=
      hquery.map fun select => by simp [relationIndices_derived]
    apply hsteps.congr
    · simp [constantsOfSource, constantsOfQueries]
    · rw [nodesOfSource, nodesOfQueries, nodesOfQueries, List.append_nil, forall_mem_nodes_iff]
  | .queries (query :: next :: rest) => by
    have hquery := query.spans_operandOver (spans_relation query)
    have hsteps : Spans [] relationIndices _ _
        (query.operandOver query.relation >>= fun select =>
          operands (next :: rest) >>= fun rest => pure (unionAll select rest)) :=
      hquery.seq fun select => (spans_operands (next :: rest)).map fun rest => by
        rw [relationIndices_unionAll, List.nil_append]
    exact hsteps.congr rfl (forall_mem_nodes_append_iff query _ _).symm

/-- Several queries bind their constants one after the other. -/
theorem spans_operands : ∀ queries : List Query,
    Spans [] (fun selects => selects.flatMap Select.indices) (constantsOfQueries queries)
      (∀ node ∈ nodesOfQueries queries, node.NodeBindsInOrder false) (operands queries)
  | [] => (spans_pure rfl).congr rfl (by simp [nodesOfQueries])
  | query :: rest => by
    have hquery := query.spans_operandOver (spans_relation query)
    have hsteps : Spans [] (fun selects => selects.flatMap Select.indices) _ _
        (query.operandOver query.relation >>= fun select =>
          operands rest >>= fun rest => pure (select :: rest)) :=
      hquery.seq fun select => (spans_operands rest).map fun rest => by simp
    exact hsteps.congr rfl (forall_mem_nodes_append_iff query _ _).symm

/-- Set operations bind the constants of their queries one after the other. -/
theorem spans_operationLinks : ∀ operations : List (SetOperation Query),
    Spans [] (fun links => links.flatMap (·.select.indices)) (constantsOfOperations operations)
      (∀ node ∈ nodesOfOperations operations, node.NodeBindsInOrder false)
      (operationLinks operations)
  | [] => (spans_pure rfl).congr rfl (by simp [nodesOfOperations])
  | ⟨operator, query⟩ :: rest => by
    have hquery := query.spans_operandOver (spans_relation query)
    have hsteps : Spans [] (fun links : List (Link Select) => links.flatMap (·.select.indices)) _ _
        (query.operandOver query.relation >>= fun select =>
          operationLinks rest >>= fun rest => pure (⟨chainOperator operator, select⟩ :: rest)) :=
      hquery.seq fun select => (spans_operationLinks rest).map fun rest => by simp
    exact hsteps.congr rfl (forall_mem_nodes_append_iff query _ _).symm

end

/-- The placeholders of a whole query are those of the values that it binds. -/
theorem spans_pieces (query : Query) :
    Spans [] Pieces.indices query.constants query.BindsInOrder query.pieces := by
  have houter : Spans [] Select.indices query.constants query.BindsInOrder query.outer :=
    query.spans_nodeOver true (spans_relation query)
  unfold Query.pieces
  split
  · exact houter.map fun select => by simp
  · split
    · exact spans_fail _
    · split
      · exact spans_fail _
      · exact houter.map fun select => by simp [indices_insertPieces]

end Query

/-! ## Placeholders as the server reads them -/

namespace Sql

/-- The text of a token that is a placeholder. -/
def Token.placeholder? : Token → Option String
  | .placeholder text => some text
  | _ => none

/-- The placeholders of a text, from left to right.  What is quoted has none. -/
def placeholders (text : String) : List String := (tokens text).filterMap Token.placeholder?

/-- Only a placeholder says one. -/
theorem mode_of_token?_placeholder {lexeme : Lexeme} {text : String}
    (htoken : lexeme.token? = some (.placeholder text)) : lexeme.mode = .placeholder := by
  obtain ⟨mode, characters⟩ := lexeme
  cases mode with
  | placeholder => rfl
  | literalEnd =>
    simp only [Lexeme.token?] at htoken
    split at htoken <;> simp at htoken
  | _ => simp [Lexeme.token?] at htoken

/-- No plain text has a placeholder in it. -/
theorem placeholder_notMem_tokens_fixed {words text : String}
    (hcalm : (Piece.fixed words).calm = true) :
    Token.placeholder text ∉ (Piece.fixed words).tokens := by
  intro hmem
  simp only [Piece.calm, Bool.or_eq_true, Bool.and_eq_true, decide_eq_true_eq] at hcalm
  rcases hcalm with rfl | ⟨-, hplain⟩
  · have hdash : (Piece.fixed " - ").tokens = [.sign "-"] := by decide
    simp [hdash] at hmem
  · obtain ⟨lexeme, hlexeme, htoken⟩ := List.mem_filterMap.mp hmem
    have hmode := plain_of_mem_lexemes (List.all_eq_true.mp hplain) hlexeme
    rw [mode_of_token?_placeholder htoken] at hmode
    simp [Mode.plain] at hmode

/-- A calm piece has a placeholder only if it is one. -/
theorem Piece.placeholders_tokens {piece : Piece} (hcalm : piece.calm = true) :
    piece.tokens.filterMap Token.placeholder? =
      (piece.index?.map Dialect.sqlServer.placeholder).toList := by
  cases piece with
  | fixed words =>
    have hnone : (Piece.fixed words).index? = none := rfl
    rw [hnone, Option.map_none, Option.toList_none, List.filterMap_eq_nil_iff]
    intro token htoken
    cases token with
    | placeholder text => exact absurd htoken (placeholder_notMem_tokens_fixed hcalm)
    | _ => rfl
  | name text => rw [tokens_name]; rfl
  | ownName text => rw [tokens_ownName]; rfl
  | literal national text =>
    cases national with
    | true => simp [calm] at hcalm
    | false => rw [tokens_literal]; rfl
  | placeholder index => rw [tokens_placeholder]; rfl
  | number value =>
    simp only [calm, decide_eq_true_eq] at hcalm
    obtain ⟨n, rfl⟩ := Int.eq_ofNat_of_zero_le hcalm
    simp [tokens, (lexemes_number n).1, Lexeme.token?, Token.placeholder?, index?]
  | raw text => simp [calm] at hcalm

/-- The placeholders of calm pieces are those that stand among them. -/
theorem Pieces.placeholders_tokens {goesOn : Bool} {pieces : Pieces}
    (hcalm : Pieces.Calm goesOn pieces) :
    (pieces.flatMap Piece.tokens).filterMap Token.placeholder? =
      pieces.indices.map Dialect.sqlServer.placeholder := by
  rw [List.filterMap_flatMap, Pieces.indices, List.map_filterMap, List.filterMap_eq_flatMap_toList]
  apply List.flatMap_congr
  intro piece hpiece
  exact Piece.placeholders_tokens (hcalm.fits_of_mem hpiece)

/-- Placeholders with different numbers are different. -/
theorem placeholder_injective : Function.Injective Dialect.sqlServer.placeholder := by
  intro a b hab
  have hchars : (Piece.placeholder a).chars = (Piece.placeholder b).chars := by
    simp only [Piece.chars, Piece.spell, hab]
  rw [Piece.chars_placeholder, Piece.chars_placeholder] at hchars
  have hdigits : Nat.toDigits 10 a = Nat.toDigits 10 b := by simpa using hchars
  have hread : ∀ n, Nat.ofDigitChars 10 (Nat.toDigits 10 n) 0 = n := fun n =>
    Nat.ofDigitChars_toDigits (by decide) (by decide)
  rw [← hread a, hdigits, hread b]

/-- Renaming one to one keeps first occurrences. -/
theorem eraseDups_map_placeholder (indices : List Nat) :
    (indices.map Dialect.sqlServer.placeholder).eraseDups =
      indices.eraseDups.map Dialect.sqlServer.placeholder := by
  induction hlength : indices.length using Nat.strong_induction_on generalizing indices with
  | _ length ih =>
    cases indices with
    | nil => rfl
    | cons index rest =>
      have hkeep : (fun name => !name == Dialect.sqlServer.placeholder index) ∘
          Dialect.sqlServer.placeholder = fun other => !other == index := by
        funext other
        simp [placeholder_injective.beq_eq]
      have hshorter : (rest.filter fun other => !other == index).length < length := by
        rw [← hlength, List.length_cons]
        exact Nat.lt_succ_of_le (List.length_filter_le _ _)
      rw [List.map_cons, List.eraseDups_cons, List.eraseDups_cons, List.filter_map, hkeep,
        ih _ hshorter _ rfl, List.map_cons]

end Sql

/-! ## Placeholders of statements -/

namespace Query

/-- The placeholders of a rendered query are those of its pieces. -/
theorem placeholders_spell_pieces {query : Query} {pieces : Pieces} {values : List Value}
    (hpieces : query.pieces [] = .ok (pieces, values)) :
    placeholders (pieces.spell .sqlServer) = pieces.indices.map Dialect.sqlServer.placeholder := by
  rw [placeholders, tokens_spell_pieces hpieces, Pieces.placeholders_tokens (calm_pieces hpieces)]

/-- The bound values of a rendered query, and its placeholders as those of a span. -/
theorem spans_of_pieces {query : Query} {pieces : Pieces} {values : List Value}
    (hpieces : query.pieces [] = .ok (pieces, values)) :
    values = query.constants ∧ Span 0 values.length query.BindsInOrder pieces.indices := by
  obtain ⟨hvalues, own, hown, hspan⟩ := query.spans_pieces hpieces
  rw [List.nil_append] at hvalues hown
  subst hvalues hown
  exact ⟨rfl, hspan⟩

/-- The parameters of a statement are the values that the query binds. -/
theorem parameters_eq {query : Query} {dialect : Dialect} {statement : Statement}
    (hstatement : query.statement dialect = .ok statement) :
    statement.parameters = namedParameters dialect query.constants := by
  obtain ⟨pieces, values, hpieces, rfl⟩ := statement_eq_ok_iff.mp hstatement
  rw [(spans_of_pieces hpieces).1]

/-- The names of the parameters of a statement count up, and they are exactly the
placeholders of its text: none is left without a value, and no value is bound in vain. -/
theorem placeholder_mem_tokens_iff {query : Query} {statement : Statement}
    (hstatement : query.statement = .ok statement) :
    statement.parameters.map (·.name) =
        (List.range statement.parameters.length).map (fun index => "@p" ++ toString index) ∧
      ∀ name, .placeholder name ∈ tokens statement.text ↔
        name ∈ statement.parameters.map (·.name) := by
  obtain ⟨pieces, values, hpieces, rfl⟩ := statement_eq_ok_iff.mp hstatement
  have hnames := names_namedParameters .sqlServer values
  have hcount : (namedParameters .sqlServer values).length = values.length := by
    simp [namedParameters]
  refine ⟨by rw [hnames, hcount]; rfl, ?_⟩
  intro name
  have hread : .placeholder name ∈ tokens (pieces.spell .sqlServer) ↔
      name ∈ placeholders (pieces.spell .sqlServer) := by
    rw [placeholders, List.mem_filterMap]
    constructor
    · exact fun hmem => ⟨_, hmem, rfl⟩
    · rintro ⟨token, hmem, htoken⟩
      cases token with
      | placeholder text =>
        cases htoken
        exact hmem
      | _ => cases htoken
  have hmem : ∀ index, index ∈ pieces.indices ↔ index ∈ List.range values.length := by
    intro index
    rw [(spans_of_pieces hpieces).2.mem_iff, List.mem_range]
    omega
  rw [hread, placeholders_spell_pieces hpieces, hnames]
  simp only [List.mem_map, hmem]

/-- A search whose text is written twice and bound once. -/
def repeatedText : Query :=
  ((ofTable ⟨"t", none⟩).selecting
      ⟨.substring (.value (.text "abc")) (.field "n") none, none⟩).filtered
    (.compare .equal (.field "f") (.value (.int 5)))

set_option maxRecDepth 4000 in
/-- The placeholders of a text that is written twice. -/
theorem placeholder_mem_tokens_iff_repeatedText :
    ["@p0", "@p1"] = (List.range 2).map (fun index => "@p" ++ toString index) ∧
      ∀ name, .placeholder name ∈
          tokens "SELECT SUBSTRING(@p0, [n] + 1, LEN(@p0)) FROM [t] WHERE [f] = @p1" ↔
        name ∈ ["@p0", "@p1"] := by
  have hstatement : repeatedText.statement = .ok
      { text := "SELECT SUBSTRING(@p0, [n] + 1, LEN(@p0)) FROM [t] WHERE [f] = @p1"
        parameters := [⟨"@p0", .text "abc"⟩, ⟨"@p1", .int 5⟩]
        result := .multiple } := rfl
  exact (placeholder_mem_tokens_iff hstatement :)

/-- The placeholders of a statement first occur in the order of its parameters exactly if
every expression that the query renders binds in order. -/
theorem placeholders_inOrder_iff {query : Query} {statement : Statement}
    (hstatement : query.statement = .ok statement) :
    (placeholders statement.text).eraseDups = statement.parameters.map (·.name) ↔
      query.BindsInOrder := by
  obtain ⟨pieces, values, hpieces, rfl⟩ := statement_eq_ok_iff.mp hstatement
  have hspan := (spans_of_pieces hpieces).2
  rw [placeholders_spell_pieces hpieces, eraseDups_map_placeholder, names_namedParameters,
    (List.map_injective_iff.mpr placeholder_injective).eq_iff, List.range_eq_range']
  exact hspan.eraseDups_eq_range'_iff

/-- The position of a text in another one. -/
def positionOfText : Query :=
  (ofTable ⟨"t", none⟩).selecting
    ⟨.indexOf (.value (.text "abc")) (.value (.text "b")), none⟩

set_option maxRecDepth 1000 in
/-- The order of the placeholders where a position is asked for. -/
theorem placeholders_inOrder_iff_positionOfText :
    (placeholders "SELECT (CHARINDEX(@p1, @p0) - 1) FROM [t]").eraseDups = ["@p0", "@p1"] ↔
      positionOfText.BindsInOrder := by
  have hstatement : positionOfText.statement = .ok
      { text := "SELECT (CHARINDEX(@p1, @p0) - 1) FROM [t]"
        parameters := [⟨"@p0", .text "abc"⟩, ⟨"@p1", .text "b"⟩]
        result := .multiple } := rfl
  exact (placeholders_inOrder_iff hstatement :)

set_option maxRecDepth 1000 in
/-- The text is bound first and written last. -/
theorem not_placeholders_inOrder_positionOfText :
    positionOfText.statement = .ok
        { text := "SELECT (CHARINDEX(@p1, @p0) - 1) FROM [t]"
          parameters := [⟨"@p0", .text "abc"⟩, ⟨"@p1", .text "b"⟩]
          result := .multiple } ∧
      (placeholders "SELECT (CHARINDEX(@p1, @p0) - 1) FROM [t]").eraseDups ≠
        ["@p0", "@p1"] := by
  have hread : placeholders "SELECT (CHARINDEX(@p1, @p0) - 1) FROM [t]" = ["@p1", "@p0"] := by
    decide
  refine ⟨rfl, ?_⟩
  rw [hread]
  decide

end Query

end SqlScribe
