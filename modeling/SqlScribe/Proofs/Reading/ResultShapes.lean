import SqlScribe.Proofs.Evaluation.Counts
import SqlScribe.Proofs.Execution.Calls
import SqlScribe.Proofs.Reading.DerivedColumns

/-!
# Announced results and texts

A statement announces the shape of its result, and a session trusts it: it sends the text
and takes the answer as announced.  The shape is computed from the flags of a query and the
text is rendered from its parts, and both agree: what is announced can be read from the
outermost SELECT, and where a single row is announced the text never has more.

Main definitions:

- `Sql.topCount?` and `Sql.fetchCount?` read the limit of a SELECT, and `Sql.LimitedTo` says
  which one applies.
- `Query.ShapeFits` says that the announced shape fits the trees of a text and what a session
  makes of it.

Main results:

- `Query.shapeFits_statement`: the shape that a statement of a query announces fits its text.
-/

namespace SqlScribe

/-! ## Reading limits -/

namespace Sql

/-- The number of rows in the limit in front of returned columns, unless it is one in
percent. -/
def topCount? (select : List Tree) : Option (List Token) :=
  match (select.drop 1).dropWhile (·.isWord "DISTINCT") with
  | top :: .group amount :: rest =>
    if top.isWord "TOP" && !rest.head?.any (·.isWord "PERCENT") then some (treeTokens amount)
    else none
  | _ => none

/-- The number of rows at the end of a SELECT that skips rows. -/
def fetchCount? (select : List Tree) : Option (List Token) :=
  match select.reverse with
  | only :: rows :: .token amount :: next :: fetch :: _ =>
    if fetch.isWord "FETCH" && next.isWord "NEXT" && rows.isWord "ROWS" && only.isWord "ONLY" then
      some [amount]
    else none
  | _ => none

/-- A SELECT returns no more than a number of rows. -/
def LimitedTo (number : Nat) (select : List Tree) : Prop :=
  topCount? select = some [.number (toString number)] ∨
    fetchCount? select = some [.number (toString number)]

/-- A limit in front of the columns and one behind skipped rows. -/
example :
    (readGroups (tokens "SELECT DISTINCT TOP (1) [a] FROM [t]")).bind topCount? =
        some [.number "1"] ∧
      (readGroups (tokens "SELECT TOP (1) PERCENT [a] FROM [t]")).bind topCount? = none ∧
      (readGroups (tokens ("SELECT * FROM [t] ORDER BY [a] ASC " ++
        "OFFSET 5 ROWS FETCH NEXT 1 ROWS ONLY"))).bind fetchCount? = some [.number "1"] := by
  decide +kernel

/-! ## Limits of a SELECT -/

/-- A SELECT is rendered with a limit of a number of rows. -/
def Select.Limited (number : UInt32) (select : Select) : Prop :=
  select.top = some ⟨number, .rows⟩ ∨ ∃ skip, select.paging = some ⟨skip, some number.toNat⟩

/-- The limit in front of the columns is read back. -/
theorem topCount?_trees {select : Select} {number : UInt32}
    (htop : select.top = some ⟨number, .rows⟩) :
    topCount? select.trees = some [.number (toString number.toNat)] := by
  obtain ⟨distinct, top, columns, relation, condition, ordering, paging⟩ := select
  obtain rfl : top = some ⟨number, .rows⟩ := htop
  obtain ⟨first, more, hcolumns, hwords⟩ := exists_first_column columns
    (relationTrees relation ++ (whereTrees condition ++ (ordering.trees ++ pagingTrees paging)))
  rw [topCount?, Select.trees, List.drop_succ_cons, List.drop_zero, dropWhile_distinctTrees,
    hcolumns]
  have hpercent : first.isWord "PERCENT" = false := hwords "PERCENT" (by simp)
  simp [topTrees, hpercent, treeTokens, Tree.tokens]

/-- The number of returned rows behind skipped ones is read back. -/
theorem fetchCount?_trees {select : Select} {skip count : Nat}
    (hpaging : select.paging = some ⟨skip, some count⟩) :
    fetchCount? select.trees = some [.number (toString count)] := by
  obtain ⟨distinct, top, columns, relation, condition, ordering, paging⟩ := select
  obtain rfl : paging = some ⟨skip, some count⟩ := hpaging
  simp [fetchCount?, Select.trees, pagingTrees]

/-- The limit of a SELECT is read back. -/
theorem Select.Limited.limitedTo {select : Select} {number : UInt32}
    (hlimited : select.Limited number) : LimitedTo number.toNat select.trees := by
  rcases hlimited with htop | ⟨skip, hpaging⟩
  · exact .inl (topCount?_trees htop)
  · exact .inr (fetchCount?_trees hpaging)

/-- A page of rows has no more rows. -/
theorem length_takePage_le {Row : Type} (paging : Option Paging) (rows : List Row) :
    (takePage paging rows).length ≤ rows.length := by
  rcases paging with - | ⟨skip, - | count⟩
  · exact Nat.le_refl _
  · rw [takePage, List.length_drop]
    omega
  · rw [takePage, List.length_take, List.length_drop]
    omega

/-- No server returns more rows of a SELECT than its limit allows. -/
theorem Select.Limited.length_select_le {Row : Type} [DecidableEq Row] (server : Server Row)
    {select : Select} {number : UInt32} (hlimited : select.Limited number) :
    (server.select select).length ≤ number.toNat := by
  obtain ⟨distinct, top, columns, relation, condition, ordering, paging⟩ := select
  rw [Server.select]
  rcases hlimited with htop | ⟨skip, hpaging⟩
  · obtain rfl : top = some ⟨number, .rows⟩ := htop
    refine (length_takePage_le _ _).trans ?_
    rw [takeTop, List.length_take]
    omega
  · obtain rfl : paging = some ⟨skip, some number.toNat⟩ := hpaging
    rw [takePage, List.length_take]
    omega

/-! ## Counts -/

/-- The trees of the number of rows. -/
def countTrees : List Tree := [.word "COUNT", .group [.sign "*"]]

/-- No returned expression is read as the number of rows: it begins with no such word. -/
theorem itemTrees_ne_countTrees (item : Scalar × Option String) : itemTrees item ≠ countTrees := by
  obtain ⟨first, more, htrees⟩ := List.exists_cons_of_ne_nil item.1.trees_ne_nil
  have hword : first.isWord "COUNT" = false := by
    have hfirst : first ∈ item.1.trees := by rw [htrees]; exact List.mem_cons_self
    exact Tree.isToken_of_within (item.1.within_trees first hfirst) (by decide)
  obtain ⟨rest, hitem⟩ : ∃ rest, itemTrees item = first :: rest := by
    obtain ⟨scalar, - | label⟩ := item
    · exact ⟨more, htrees⟩
    · exact ⟨_, congrArg (· ++ _) htrees⟩
  rw [hitem, countTrees]
  intro hcount
  rw [(List.cons.inj hcount).1] at hword
  exact absurd hword (by decide)

/-- Only the number of rows is read as such. -/
theorem Select.columnTrees_eq_count_iff (select : Select) :
    columnTrees select.trees = some [countTrees] ↔ select.columns = .count := by
  rw [select.columnTrees_trees, Option.some.injEq]
  cases select.columns with
  | all =>
    have hsplit : SelectList.all.trees.splitOnP (·.isSign ",") = [[.sign "*"]] :=
      List.splitOnP_eq_singleton (by simp [SelectList.trees])
    simp [hsplit, countTrees]
  | count =>
    exact iff_of_true (List.splitOnP_eq_singleton (by simp [SelectList.trees])) rfl
  | items list =>
    refine iff_of_false ?_ (by simp)
    cases list with
    | nil =>
      have hsplit : (SelectList.items []).trees.splitOnP (·.isSign ",") = [[]] :=
        List.splitOnP_eq_singleton (by simp [SelectList.trees, commas])
      simp [hsplit, countTrees]
    | cons item rest =>
      rw [SelectList.splitOnP_items (by simp), List.map_cons]
      exact fun hcount => itemTrees_ne_countTrees item (List.cons.inj hcount).1

end Sql

/-! ## Answers -/

namespace Session

open Sql

variable {Row σ : Type} [DecidableEq Row]

/-- Where a session gets rows for a statement of a query, it gets as many as the statement has
in a database. -/
def Serves (session : Session σ) (database : Database Row) (query : Query) (statement : Statement)
    (state : σ) : Prop :=
  ∀ rows answers, (session.rows statement state).1 = .ok rows →
    query.Answers database .sqlServer statement answers → rows.length = answers.length

/-- Only the answer of a connection is turned into a failure of the connection. -/
theorem rows_eq_error {session : Session σ} {statement : Statement} {state : σ}
    {error : ExecutionError} (herror : (session.rows statement state).1 = .error error) :
    ∃ text, error = .connection text := by
  unfold rows at herror
  generalize session.connection.query (session.command statement) state = answer at herror
  obtain ⟨answer | rows, next⟩ := answer
  · exact ⟨answer, (Except.error.inj herror).symm⟩
  · cases herror

/-- A statement for a single row does not fail for several ones if no more than one comes. -/
theorem run_ne_multipleRows {session : Session σ} {statement : Statement} {state : σ}
    {orNone : Bool} (hresult : statement.result = .single orNone)
    (hrows : ∀ rows, (session.rows statement state).1 = .ok rows → rows.length ≤ 1) (count : Nat) :
    (session.run statement state).1 ≠ .error (.multipleRows count) := by
  rw [run, hresult]
  simp only [SessionStep.bind_apply]
  generalize hanswer : session.rows statement state = answer at hrows
  obtain ⟨error | rows, next⟩ := answer
  · obtain ⟨text, rfl⟩ := rows_eq_error (congrArg Prod.fst hanswer)
    simp
  · have hsingle : singleOf rows = .ok rows.head? := if_neg (by have := hrows rows rfl; omega)
    simp only [hsingle, SessionStep.ofExcept]
    split <;> simp

end Session

/-! ## Shapes -/

namespace Query

open Sql Binding

/-- The shape that a statement of a query announces fits the trees of its text. -/
structure ShapeFits (query : Query) (statement : Statement) (trees : List Tree) : Prop where
  none_iff : statement.result = .none ↔ "INSERT INTO".toList <+: statement.text.toList
  scalar_iff : statement.result = .scalar ↔
    query.target = .caller ∧ columnTrees (outerSelect trees) = some [countTrees]
  limited : ∀ orNone, statement.result = .single orNone → LimitedTo 1 (outerSelect trees)
  /-- There need be no row exactly if the query says so and does not also say that there
  must be one. -/
  orNone_iff : ∀ orNone, statement.result = .single orNone →
    (orNone = true ↔ query.firstOrNone = true ∧ query.first = false)
  /-- Whatever a database holds, a session that serves it never gets several rows where a
  single one is announced. -/
  run : ∀ orNone, statement.result = .single orNone → ∀ {Row σ : Type} [DecidableEq Row]
    (database : Database Row) (session : Session σ) (state : σ),
    session.Serves database query statement state → ∀ count,
      (session.run statement state).1 ≠ .error (.multipleRows count)

/-- A whole query counts exactly if it says so, and it is limited to one row if only one is
wanted. -/
theorem ensures_outer_shape (query : Query) :
    Ensures (fun select => (select.columns = .count ↔ query.count = true) ∧
      (query.count = false → query.wantsOne = true → select.Limited 1)) query.outer := by
  have hcolumns : Ensures (· ≠ .count) (query.listing true).selectList :=
    fun _ _ _ hcolumns => ne_count_of_selectList hcolumns
  rw [outer, outerOver_eq]
  refine (ensures_nodeOver true hcolumns (ensures_true query.relation)).mono ?_
  rintro select ⟨-, hrenders⟩
  cases hrenders with
  | listed hcount hlists =>
    refine ⟨iff_of_false hlists.columns (by simp [hcount]), fun _ hone => ?_⟩
    have hlimit : (query.listing true).effectiveLimit = some ⟨1, .rows⟩ := by
      have hlists : (query.listing true).wantsOne = query.wantsOne := by
        simp [wantsOne, listing, hcount]
      rw [effectiveLimit, hlists, hone, if_pos rfl]
    have htop := hlists.top
    have hpaging := hlists.paging
    rw [Query.paging] at hpaging
    rw [hlimit] at htop hpaging
    -- Where rows are skipped the limit stands behind them.
    cases hskip : (query.listing true).hasSkip with
    | true =>
      rw [hskip, if_pos rfl] at hpaging
      exact .inr ⟨_, hpaging⟩
    | false =>
      rw [hskip, if_neg Bool.false_ne_true] at htop
      exact .inl htop
  | counted hcount hrows hlists =>
    exact ⟨iff_of_true rfl hcount, fun hnot => absurd hcount (by simp [hnot])⟩
  | number hcount hrows hrelation =>
    exact ⟨iff_of_true rfl hcount, fun hnot => absurd hcount (by simp [hnot])⟩

/-- A text begins with the words that copy rows exactly if the query copies its rows. -/
theorem insert_prefix_iff {query : Query} {dialect : Dialect} {statement : Statement}
    (hstatement : query.statement dialect = .ok statement) :
    "INSERT INTO".toList <+: statement.text.toList ↔ query.target ≠ .caller := by
  obtain ⟨pieces, values, hpieces, rfl⟩ := statement_eq_ok_iff.mp hstatement
  obtain ⟨select, -, ⟨htarget, rfl⟩ | ⟨table, columns, htarget, rfl⟩⟩ := pieces_eq_ok hpieces
  · have hfirst : select.pieces.spell dialect =
        "SELECT " ++ Pieces.spell dialect (select.pieces.drop 1) := by
      obtain ⟨distinct, top, columns, relation, condition, ordering, paging⟩ := select
      simp [Select.pieces, Piece.spell]
    refine iff_of_false ?_ (not_not_intro htarget)
    simp [hfirst, String.toList_append]
  · refine iff_of_true ?_ (by simp [htarget])
    simp [insertPieces, Piece.spell, String.toList_append]

/-- What a query announces, by its target and by what it wants. -/
theorem resultShape_eq (query : Query) :
    (query.resultShape = .none ↔ query.target ≠ .caller) ∧
      (query.resultShape = .scalar ↔ query.target = .caller ∧ query.count = true) ∧
      ∀ orNone, query.resultShape = .single orNone → query.target = .caller ∧
        query.count = false ∧ query.wantsOne = true ∧
        (orNone = true ↔ query.firstOrNone = true ∧ query.first = false) := by
  unfold resultShape wantsOne
  cases query.target <;> cases query.count <;> cases query.first <;> cases query.firstOrNone <;>
    simp

/-- The shape that a statement of a query announces fits its text: it is read from the words in
front, from what the outermost SELECT returns and from its limit. -/
theorem shapeFits_statement {query : Query} {statement : Statement}
    (hstatement : query.statement = .ok statement) :
    ∃ trees, readGroups (tokens statement.text) = some trees ∧
      query.ShapeFits statement trees := by
  obtain ⟨front, select, values, houter, hfront, htrees⟩ := readGroups_statement hstatement
  obtain ⟨hcounts, hlimited⟩ := query.ensures_outer_shape [] select values houter
  obtain ⟨hnone, hscalar, hsingle⟩ := query.resultShape_eq
  have hresult : statement.result = query.resultShape := by
    obtain ⟨pieces, bound, -, rfl⟩ := statement_eq_ok_iff.mp hstatement
    rfl
  refine ⟨_, htrees, ?_⟩
  rw [← hresult] at hnone hscalar hsingle
  constructor
  case none_iff => rw [hnone, insert_prefix_iff hstatement]
  case scalar_iff =>
    rw [hscalar, outerSelect_trees hfront, select.columnTrees_eq_count_iff, hcounts]
  case limited =>
    intro orNone horNone
    obtain ⟨-, hcount, hone, -⟩ := hsingle orNone horNone
    rw [outerSelect_trees hfront]
    exact (hlimited hcount hone).limitedTo
  case orNone_iff => exact fun orNone horNone => (hsingle orNone horNone).2.2.2
  case run =>
    intro orNone horNone Row σ _ database session state hserves
    obtain ⟨htarget, hcount, hone, -⟩ := hsingle orNone horNone
    refine Session.run_ne_multipleRows horNone fun rows hrows => ?_
    obtain ⟨listed, bound, hlisted, htext, hbound⟩ := outer_of_statement htarget hstatement
    obtain ⟨-, hlimit⟩ := query.ensures_outer_shape [] listed bound hlisted
    have hanswers : query.Answers database .sqlServer statement
        ((database.server bound).select listed) := ⟨listed, bound, hlisted, htext, hbound, rfl⟩
    rw [hserves rows _ hrows hanswers]
    exact (hlimit hcount hone).length_select_le (database.server bound)

/-- The second shop by city, if there is one. -/
def secondShop : Query :=
  { source := .table ⟨"Shops", none⟩
    skip := 1
    firstOrNone := true
    order := [⟨.field "City", .ascending⟩] }

/-- The statement for it. -/
def secondShopStatement : Statement :=
  { text := "SELECT * FROM [Shops] ORDER BY [City] ASC OFFSET 1 ROWS FETCH NEXT 1 ROWS ONLY"
    result := .single true }

/-- A session over a connection that follows a script. -/
def scripted : Session Script := ⟨Script.connection, {}⟩

/-- The limit of a single row stands behind the skipped one, and a session that is answered with
the row that the database has gets no second one. -/
theorem shapeFits_statement_secondShop :
    secondShop.statement = .ok secondShopStatement ∧
      (∃ trees, readGroups (tokens secondShopStatement.text) = some trees ∧
        LimitedTo 1 (outerSelect trees)) ∧
      scripted.Serves shops secondShop secondShopStatement ⟨[.rows [.empty]], []⟩ ∧
      ∀ count, (scripted.run secondShopStatement ⟨[.rows [.empty]], []⟩).1 ≠
        .error (.multipleRows count) := by
  have hstatement : secondShop.statement = .ok secondShopStatement := rfl
  obtain ⟨trees, htrees, hfits⟩ := shapeFits_statement hstatement
  have hserves : scripted.Serves shops secondShop secondShopStatement ⟨[.rows [.empty]], []⟩ := by
    intro rows answers hrows hanswers
    obtain rfl : [Row.empty] = rows := Except.ok.inj hrows
    obtain rfl : answers = [.text "Rome"] :=
      hanswers.unique ⟨_, [], rfl, rfl, rfl, by decide +kernel⟩
    rfl
  exact ⟨hstatement, ⟨trees, htrees, hfits.limited true rfl⟩, hserves,
    hfits.run true rfl shops scripted _ hserves⟩

end Query

end SqlScribe
