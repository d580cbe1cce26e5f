import SqlScribe.Proofs.Reading.ExprTrees
import SqlScribe.Proofs.Rendering.Chains
import SqlScribe.Query.Statement

/-!
# Trees of SELECTs

The text of a query is a tree of SELECTs: each derived table is a group, and words that
stand outside of the groups in it join its SELECTs and begin their clauses.

Main definitions:

- `Sql.Select.trees` are the trees of a SELECT; `Sql.Chain.trees` are those inside a derived
  table.
- `Sql.operands` are the SELECTs that are joined in some trees, `Sql.keywords` the words that
  begin their clauses, and `Sql.outerSelect` is the outermost SELECT of a text.

Main results:

- `Sql.Select.keywords_trees` and `Sql.Chain.operands_trees`: the clauses of a SELECT and the
  SELECTs of a chain are read back.
- `Sql.Select.forall_mem_bodies_iff`: the groups of a SELECT are the derived tables in it and
  groups in which no clause begins.
- `Query.readGroups_statement`: the text of a query is read into the trees of its SELECT,
  behind those of a target.
-/

namespace SqlScribe.Sql

/-! ## Trees -/

/-- The trees of a table. -/
def tableTrees (table : Table) : List Tree :=
  match table.schema with
  | some schema => [.name schema, .sign ".", .name table.name]
  | none => [.name table.name]

/-- The trees of a returned column. -/
def itemTrees : Scalar × Option String → List Tree
  | (scalar, some label) => scalar.trees ++ [.word "AS", .name label]
  | (scalar, none) => scalar.trees

/-- The trees of what a SELECT returns. -/
def SelectList.trees : SelectList → List Tree
  | .all => [.sign "*"]
  | .count => [.word "COUNT", .group [.sign "*"]]
  | .items list => commas (list.map itemTrees)

/-- The trees in front of the returned columns. -/
def distinctTrees (distinct : Bool) : List Tree := if distinct then [.word "DISTINCT"] else []

/-- The trees of the limit in front of the returned columns. -/
def topTrees : Option RowLimit → List Tree
  | none => []
  | some limit =>
    .word "TOP" :: .group [.number limit.amount.toNat] ::
      (if limit.unit = .percent then [.word "PERCENT"] else [])

/-- The trees of a condition on the rows. -/
def whereTrees : Option Predicate → List Tree
  | none => []
  | some predicate => .word "WHERE" :: predicate.trees

/-- The trees of an ordering expression. -/
def keyTrees (key : Scalar × Direction) : List Tree := key.1.trees ++ [.word key.2.sql]

/-- The trees of an ordering. -/
def Ordering.trees : Ordering → List Tree
  | .none => []
  | .random => [.word "ORDER", .word "BY", .word "NEWID", .group []]
  | .keys list => .word "ORDER" :: .word "BY" :: commas (list.map keyTrees)

/-- The trees of skipped and returned rows. -/
def pagingTrees : Option Paging → List Tree
  | none => []
  | some paging =>
    .word "OFFSET" :: .number paging.skip :: .word "ROWS" ::
      (match paging.fetch with
      | some count =>
        [.word "FETCH", .word "NEXT", .number count, .word "ROWS", .word "ONLY"]
      | none => [])

/-- The trees of an operator between SELECTs. -/
def ChainOperator.trees : ChainOperator → List Tree
  | .unionAll => [.word "UNION", .word "ALL"]
  | .intersect => [.word "INTERSECT"]
  | .except => [.word "EXCEPT"]

mutual

/-- The trees of a SELECT. -/
def Select.trees : Select → List Tree
  | ⟨distinct, top, columns, relation, condition, ordering, paging⟩ =>
    .word "SELECT" :: (distinctTrees distinct ++ (topTrees top ++ (columns.trees ++
      .word "FROM" :: (relationTrees relation ++ (whereTrees condition ++
        (ordering.trees ++ pagingTrees paging))))))

/-- The trees of what a SELECT reads. -/
def relationTrees : Relation Select → List Tree
  | .table table => tableTrees table
  | .derived ⟨first, links⟩ => [.group (first.trees ++ linkTrees links), .name derivedAlias]

/-- The trees of further SELECTs with their operators. -/
def linkTrees : List (Link Select) → List Tree
  | [] => []
  | ⟨operator, select⟩ :: rest => operator.trees ++ (select.trees ++ linkTrees rest)

end

/-- The trees of a chain. -/
def Chain.trees (chain : Chain Select) : List Tree := chain.first.trees ++ linkTrees chain.links

/-! ## Tokens make up trees -/

/-- Texts with commas between them make up their trees with commas between them. -/
theorem groups_commas {α : Type} (text : α → Pieces) (trees : α → List Tree) {list : List α}
    (hlist : ∀ part ∈ list, Groups (text part).tokens (trees part)) :
    Groups (Pieces.join ", " (list.map text)).tokens (commas (list.map trees)) := by
  induction list with
  | nil => exact .nil
  | cons part rest ih =>
    rw [List.forall_mem_cons] at hlist
    cases rest with
    | nil => exact hlist.1
    | cons next rest =>
      have hrest := Groups.token (.sign ",") rfl (ih hlist.2)
      simpa [Pieces.join, commas, tokens_fixed_comma] using hlist.1.append hrest

/-- The tokens of a table make up its trees. -/
theorem groups_tablePieces (table : Table) :
    Groups (tablePieces table).tokens (tableTrees table) := by
  have hdot : (Piece.fixed ".").tokens = [.sign "."] := by decide
  cases hschema : table.schema with
  | none =>
    have hname := Groups.single (.name table.name) rfl
    simpa [tablePieces, tableTrees, hschema, Piece.tokens_name] using hname
  | some schema =>
    have hnames := Groups.plain [.name schema, .sign ".", .name table.name] rfl
    simpa [tablePieces, tableTrees, hschema, Piece.tokens_name, hdot] using hnames

/-- The tokens of a returned column make up its trees. -/
theorem groups_itemPieces (item : Scalar × Option String) :
    Groups (itemPieces item).tokens (itemTrees item) := by
  obtain ⟨scalar, label⟩ := item
  cases label with
  | none => exact scalar.groups_pieces
  | some label =>
    have has : (Piece.fixed " AS ").tokens = [.word "AS"] := by decide
    have hlabel := (Groups.single (.name label) rfl).word "AS"
    simpa [itemPieces, itemTrees, has, Piece.tokens_name] using scalar.groups_pieces.append hlabel

/-- The tokens of what a SELECT returns make up its trees. -/
theorem SelectList.groups_pieces (columns : SelectList) :
    Groups columns.pieces.tokens columns.trees := by
  cases columns with
  | all => exact .single _ rfl
  | count =>
    have hcount : (Piece.fixed "COUNT(*)").tokens =
        [.word "COUNT", .opening, .sign "*", .closing] := by decide
    have hinside := (Groups.single (.sign "*") rfl).enclosed
    simpa [SelectList.pieces, SelectList.trees, hcount] using hinside.word "COUNT"
  | items list => exact groups_commas itemPieces itemTrees fun item _ => groups_itemPieces item

/-- The tokens of a limit make up its trees. -/
theorem groups_topPieces (top : Option RowLimit) :
    Groups (topPieces top).tokens (topTrees top) := by
  cases top with
  | none => exact .nil
  | some limit =>
    have hopening : (Piece.fixed "TOP (").tokens = [.word "TOP", .opening] := by decide
    have hclosing : (Piece.fixed ") ").tokens = [.closing] := by decide
    have hamount := (Groups.single (.number (toString limit.amount.toNat)) rfl).enclosed
    have hpercent : Groups (Pieces.tokens (if limit.unit = .percent then fixed "PERCENT " else []))
        (if limit.unit = .percent then [.word "PERCENT"] else []) := by
      split
      · exact .plain [.word "PERCENT"] rfl
      · exact .nil
    simpa [topPieces, topTrees, hopening, hclosing, tokens_number, Tree.number] using
      (hamount.append hpercent).word "TOP"

/-- The tokens of a condition on the rows make up its trees. -/
theorem groups_wherePieces (condition : Option Predicate) :
    Groups (wherePieces condition).tokens (whereTrees condition) := by
  cases condition with
  | none => exact .nil
  | some predicate =>
    have hwhere : (Piece.fixed " WHERE ").tokens = [.word "WHERE"] := by decide
    simpa [wherePieces, whereTrees, hwhere] using predicate.groups_pieces.word "WHERE"

/-- The tokens of an ordering expression make up its trees. -/
theorem groups_keyPieces (key : Scalar × Direction) :
    Groups (keyPieces key).tokens (keyTrees key) := by
  have hdirection : (Piece.fixed (" " ++ key.2.sql)).tokens = [.word key.2.sql] := by
    cases key.2 <;> decide
  simpa [keyPieces, keyTrees, hdirection] using
    key.1.groups_pieces.append (Groups.nil.word key.2.sql)

/-- The tokens of an ordering make up its trees. -/
theorem Ordering.groups_pieces (ordering : Ordering) :
    Groups ordering.pieces.tokens ordering.trees := by
  cases ordering with
  | none => exact .nil
  | random =>
    have hrandom : (Piece.fixed " ORDER BY NEWID()").tokens =
        [.word "ORDER", .word "BY", .word "NEWID", .opening, .closing] := by decide
    have hinside := Groups.nil.enclosed
    simpa [Ordering.pieces, Ordering.trees, hrandom] using
      ((hinside.word "NEWID").word "BY").word "ORDER"
  | keys list =>
    have horder : (Piece.fixed " ORDER BY ").tokens = [.word "ORDER", .word "BY"] := by decide
    have hkeys := groups_commas keyPieces keyTrees fun key (_ : key ∈ list) => groups_keyPieces key
    simpa [Ordering.pieces, Ordering.trees, horder] using (hkeys.word "BY").word "ORDER"

/-- The tokens of skipped and returned rows make up their trees. -/
theorem groups_pagingPieces (paging : Option Paging) :
    Groups (pagingPieces paging).tokens (pagingTrees paging) := by
  cases paging with
  | none => exact .nil
  | some paging =>
    have hskip : (Piece.fixed " OFFSET ").tokens = [.word "OFFSET"] := by decide
    have hrows : (Piece.fixed " ROWS").tokens = [.word "ROWS"] := by decide
    have hfetch : (Piece.fixed " FETCH NEXT ").tokens = [.word "FETCH", .word "NEXT"] := by decide
    have honly : (Piece.fixed " ROWS ONLY").tokens = [.word "ROWS", .word "ONLY"] := by decide
    obtain ⟨skip, fetch⟩ := paging
    cases fetch with
    | none =>
      simpa [pagingPieces, pagingTrees, hskip, hrows, tokens_number, Tree.number] using
        Groups.plain [.word "OFFSET", .number (toString skip), .word "ROWS"] rfl
    | some count =>
      simpa [pagingPieces, pagingTrees, hskip, hrows, hfetch, honly, tokens_number, Tree.number]
        using Groups.plain [.word "OFFSET", .number (toString skip), .word "ROWS",
          .word "FETCH", .word "NEXT", .number (toString count), .word "ROWS", .word "ONLY"] rfl

/-- The tokens of an operator between SELECTs make up its trees. -/
theorem ChainOperator.groups_sql (operator : ChainOperator) :
    Groups (Piece.fixed (" " ++ operator.sql ++ " ")).tokens operator.trees := by
  cases operator <;> exact .plain _ (by decide)

mutual

/-- The tokens of a SELECT make up its trees. -/
theorem Select.groups_pieces : ∀ select : Select, Groups select.pieces.tokens select.trees
  | ⟨distinct, top, columns, relation, condition, ordering, paging⟩ => by
    have hselect : (Piece.fixed "SELECT ").tokens = [.word "SELECT"] := by decide
    have hfrom : (Piece.fixed " FROM ").tokens = [.word "FROM"] := by decide
    have hdistinct : Groups (Pieces.tokens (if distinct then fixed "DISTINCT " else []))
        (distinctTrees distinct) := by
      cases distinct
      · exact .nil
      · exact .plain [.word "DISTINCT"] rfl
    have htail := (groups_wherePieces condition).append
      (ordering.groups_pieces.append (groups_pagingPieces paging))
    have hreads := ((groups_relationPieces relation).append htail).word "FROM"
    have hlist := (groups_topPieces top).append (columns.groups_pieces.append hreads)
    simpa [Select.pieces, Select.trees, hselect, hfrom] using (hdistinct.append hlist).word "SELECT"

/-- The tokens of what a SELECT reads make up its trees. -/
theorem groups_relationPieces : ∀ relation : Relation Select,
    Groups (relationPieces relation).tokens (relationTrees relation)
  | .table table => groups_tablePieces table
  | .derived ⟨first, links⟩ => by
    have hclosing : (Piece.fixed ") ").tokens = [.closing] := by decide
    have hinside := (first.groups_pieces.append (groups_linkPieces links)).enclosed
    simpa [relationPieces, relationTrees, derivedPieces, tokens_fixed_opening, hclosing,
      Piece.tokens_ownName] using
      hinside.append (Groups.single (.name derivedAlias) rfl)

/-- The tokens of further SELECTs make up their trees. -/
theorem groups_linkPieces : ∀ links : List (Link Select),
    Groups (linkPieces links).tokens (linkTrees links)
  | [] => .nil
  | ⟨operator, select⟩ :: rest => by
    have hrest := select.groups_pieces.append (groups_linkPieces rest)
    simpa [linkPieces, linkTrees] using operator.groups_sql.append hrest

end

/-! ## Joined SELECTs and their clauses -/

/-- Whether a tree is a word that stands between SELECTs. -/
def Tree.joinsSelects : Tree → Bool
  | .token (.word text) => text ∈ setWords
  | _ => false

/-- The SELECTs that are joined in trees; UNION may have ALL behind it. -/
def operands (trees : List Tree) : List (List Tree) :=
  (trees.splitOnP Tree.joinsSelects).map (List.dropWhile (·.isWord "ALL"))

/-- The word of a tree if it begins a clause or joins SELECTs. -/
def Tree.keyword? : Tree → Option String
  | .token (.word text) => if text ∈ clauseWords || text ∈ setWords then some text else none
  | _ => none

/-- The words outside of groups that begin clauses or join SELECTs, from left to right. -/
def keywords (trees : List Tree) : List String := trees.filterMap Tree.keyword?

/-- The keywords of trees behind others stand behind theirs. -/
theorem keywords_append (a b : List Tree) : keywords (a ++ b) = keywords a ++ keywords b :=
  List.filterMap_append

/-- ALL is no keyword. -/
theorem keywords_dropWhile (trees : List Tree) :
    keywords (trees.dropWhile (·.isWord "ALL")) = keywords trees := by
  induction trees with
  | nil => rfl
  | cons tree rest ih =>
    cases hall : tree.isWord "ALL" with
    | false => rw [List.dropWhile_cons_of_neg (by simp [hall])]
    | true =>
      have hnone : tree.keyword? = none := by
        cases tree with
        | group inside => rfl
        | token token =>
          have hword : token = .word "ALL" := by simpa using hall
          rw [hword]
          decide
      rw [List.dropWhile_cons_of_pos hall, ih, keywords, keywords, List.filterMap_cons_none hnone]

/-- Quiet trees have no keywords. -/
theorem Quiet.keywords_eq {trees : List Tree} (hquiet : Quiet trees) : keywords trees = [] := by
  induction trees with
  | nil => rfl
  | cons tree rest ih =>
    cases tree with
    | group inside =>
      rw [quiet_group] at hquiet
      exact ih hquiet.2
    | token token =>
      rw [quiet_token] at hquiet
      have hnone : (Tree.token token).keyword? = none := by
        cases token with
        | word text => simpa [Token.isKeyword, Tree.keyword?] using hquiet.1
        | _ => rfl
      rw [keywords, List.filterMap_cons_none hnone]
      exact ih hquiet.2

/-- Trees without keywords that join SELECTs join none. -/
theorem not_joinsSelects_of_keywords {trees : List Tree}
    (hkeywords : ∀ word ∈ keywords trees, word ∉ setWords) :
    ∀ tree ∈ trees, tree.joinsSelects = false := by
  intro tree htree
  cases tree with
  | group inside => rfl
  | token token =>
    cases token with
    | word text =>
      simp only [Tree.joinsSelects, decide_eq_false_iff_not]
      intro hset
      have hkeyword : text ∈ keywords trees :=
        List.mem_filterMap.mpr ⟨_, htree, by simp [Tree.keyword?, hset]⟩
      exact hkeywords text hkeyword hset
    | _ => rfl

/-- Where no keyword joins SELECTs there is a single one. -/
theorem operands_of_keywords {trees : List Tree}
    (hkeywords : ∀ word ∈ keywords trees, word ∉ setWords) :
    operands trees = [trees.dropWhile (·.isWord "ALL")] := by
  have hsplit : trees.splitOnP Tree.joinsSelects = [trees] := by
    rw [List.splitOnP_eq_singleton]
    exact not_joinsSelects_of_keywords hkeywords
  rw [operands, hsplit, List.map_singleton]

/-- No SELECTs are joined in quiet trees. -/
theorem Quiet.operands_eq {trees : List Tree} (hquiet : Quiet trees) :
    operands trees = [trees.dropWhile (·.isWord "ALL")] :=
  operands_of_keywords (by simp [hquiet.keywords_eq])

/-! ## Parts of a SELECT are quiet -/

/-- Quiet parts are quiet with commas between them. -/
theorem quiet_commas {list : List (List Tree)} (hlist : ∀ trees ∈ list, Quiet trees) :
    Quiet (commas list) := by
  induction list with
  | nil => simp [commas]
  | cons trees rest ih =>
    rw [List.forall_mem_cons] at hlist
    cases rest with
    | nil => exact hlist.1
    | cons next rest => simpa [commas, Token.isKeyword] using ⟨hlist.1, ih hlist.2⟩

/-- No clause begins in the name of a table. -/
theorem quiet_tableTrees (table : Table) : Quiet (tableTrees table) := by
  unfold tableTrees
  split <;> simp [Token.isKeyword]

/-- No clause begins in what a SELECT returns. -/
theorem SelectList.quiet_trees (columns : SelectList) : Quiet columns.trees := by
  cases columns with
  | all => simp [SelectList.trees, Token.isKeyword]
  | count => simp [SelectList.trees, Token.isKeyword, clauseWords, setWords]
  | items list =>
    apply quiet_commas
    rw [List.forall_mem_map]
    rintro ⟨scalar, label⟩ -
    cases label with
    | none => exact scalar.quiet_trees
    | some label =>
      simpa [itemTrees, Token.isKeyword, clauseWords, setWords] using scalar.quiet_trees

/-- No clause begins in front of the returned columns. -/
theorem quiet_distinctTrees (distinct : Bool) : Quiet (distinctTrees distinct) := by
  cases distinct <;> simp [distinctTrees, Token.isKeyword, clauseWords, setWords]

/-- No clause begins in ordering expressions. -/
theorem quiet_keyTrees (list : List (Scalar × Direction)) :
    Quiet (commas (list.map keyTrees)) := by
  apply quiet_commas
  rw [List.forall_mem_map]
  rintro ⟨scalar, direction⟩ -
  have hdirection : (Token.word direction.sql).isKeyword = false := by cases direction <;> decide
  simpa [keyTrees, hdirection] using scalar.quiet_trees

/-! ## Reading SELECTs back -/

/-- The clauses of a SELECT that has some of them. -/
def clausesOf (limits filters orders skips fetches : Bool) : List String :=
  "SELECT" :: ((if limits then ["TOP"] else []) ++ "FROM" :: ((if filters then ["WHERE"] else []) ++
    ((if orders then ["ORDER"] else []) ++
      ((if skips then ["OFFSET"] else []) ++ (if fetches then ["FETCH"] else [])))))

/-- The clauses of a SELECT. -/
def Select.clauses (select : Select) : List String :=
  clausesOf select.top.isSome select.condition.isSome select.ordering.orders select.paging.isSome
    (select.paging.any (·.fetch.isSome))

/-- A limit has one keyword. -/
theorem keywords_topTrees (top : Option RowLimit) :
    keywords (topTrees top) = if top.isSome then ["TOP"] else [] := by
  cases top with
  | none => rfl
  | some limit =>
    rw [keywords, topTrees]
    cases limit.unit <;> simp [Tree.keyword?, clauseWords, setWords]

/-- A condition on the rows has one keyword. -/
theorem keywords_whereTrees (condition : Option Predicate) :
    keywords (whereTrees condition) = if condition.isSome then ["WHERE"] else [] := by
  cases condition with
  | none => rfl
  | some predicate => exact congrArg ("WHERE" :: ·) predicate.quiet_trees.keywords_eq

/-- An ordering has one keyword. -/
theorem Ordering.keywords_trees (ordering : Ordering) :
    keywords ordering.trees = if ordering.orders then ["ORDER"] else [] := by
  cases ordering with
  | none => rfl
  | random => rfl
  | keys list => exact congrArg ("ORDER" :: ·) (quiet_keyTrees list).keywords_eq

/-- Skipped rows have one keyword, and returned ones another. -/
theorem keywords_pagingTrees (paging : Option Paging) :
    keywords (pagingTrees paging) = (if paging.isSome then ["OFFSET"] else []) ++
      (if paging.any (·.fetch.isSome) then ["FETCH"] else []) := by
  cases paging with
  | none => rfl
  | some paging =>
    obtain ⟨skip, fetch⟩ := paging
    cases fetch <;> rfl

/-- What a SELECT reads has its keywords inside of a group. -/
theorem keywords_relationTrees (relation : Relation Select) :
    keywords (relationTrees relation) = [] := by
  cases relation with
  | table table => exact (quiet_tableTrees table).keywords_eq
  | derived chain => rfl

/-- The clauses of a SELECT are read back. -/
theorem Select.keywords_trees (select : Select) : keywords select.trees = select.clauses := by
  obtain ⟨distinct, top, columns, relation, condition, ordering, paging⟩ := select
  have hword : ∀ word ∈ clauseWords, ∀ rest,
      keywords (.word word :: rest) = word :: keywords rest := fun word hword rest =>
    List.filterMap_cons_some (by simp [Tree.keyword?, hword])
  rw [Select.trees, hword "SELECT" (by decide), keywords_append, keywords_append, keywords_append,
    hword "FROM" (by decide), keywords_append, keywords_append, keywords_append,
    (quiet_distinctTrees distinct).keywords_eq, keywords_topTrees, columns.quiet_trees.keywords_eq,
    keywords_relationTrees, keywords_whereTrees, ordering.keywords_trees, keywords_pagingTrees]
  rfl

/-- No clause of a SELECT begins with a word that joins SELECTs. -/
theorem clausesOf_not_setWords : ∀ limits filters orders skips fetches : Bool,
    ∀ word ∈ clausesOf limits filters orders skips fetches, word ∉ setWords := by
  decide

/-- What stands between a SELECT and the word that joins it: ALL or nothing. -/
def allTrees (all : Bool) : List Tree := if all then [.word "ALL"] else []

/-- A SELECT has no keywords that join it with others. -/
theorem keywords_allTrees (all : Bool) (select : Select) :
    ∀ word ∈ keywords (allTrees all ++ select.trees), word ∉ setWords := by
  have hkeywords : keywords (allTrees all ++ select.trees) = select.clauses := by
    rw [keywords_append, select.keywords_trees]
    cases all <;> rfl
  rw [hkeywords]
  exact clausesOf_not_setWords _ _ _ _ _

/-- A SELECT is read from its first word on. -/
theorem dropWhile_allTrees (all : Bool) (select : Select) :
    (allTrees all ++ select.trees).dropWhile (·.isWord "ALL") = select.trees := by
  obtain ⟨distinct, top, columns, relation, condition, ordering, paging⟩ := select
  rw [Select.trees]
  cases all <;> rfl

/-- Joined SELECTs are read back. -/
theorem operands_allTrees (all : Bool) (first : Select) (links : List (Link Select)) :
    operands (allTrees all ++ first.trees ++ linkTrees links) =
      first.trees :: links.map (·.select.trees) := by
  induction links generalizing all first with
  | nil =>
    rw [linkTrees, List.append_nil, operands_of_keywords (keywords_allTrees all first),
      dropWhile_allTrees, List.map_nil]
  | cons link rest ih =>
    obtain ⟨operator, select⟩ := link
    obtain ⟨word, more, htrees, hword⟩ : ∃ word more,
        operator.trees = .word word :: allTrees more ∧ word ∈ setWords := by
      cases operator
      · exact ⟨_, true, rfl, by decide⟩
      · exact ⟨_, false, rfl, by decide⟩
      · exact ⟨_, false, rfl, by decide⟩
    have hfirst := not_joinsSelects_of_keywords (keywords_allTrees all first)
    have hsplit := List.splitOnP_append_cons_of_forall_mem hfirst (.word word)
      (by simpa [Tree.joinsSelects] using hword) (allTrees more ++ select.trees ++ linkTrees rest)
    rw [linkTrees, htrees, List.cons_append, ← List.append_assoc, operands, hsplit, List.map_cons,
      dropWhile_allTrees, ← operands, ih more select, List.map_cons]

/-- The SELECTs of a chain are read back. -/
theorem Chain.operands_trees (chain : Chain Select) :
    operands chain.trees = chain.selects.map Select.trees := by
  rw [Chain.selects, List.map_cons, List.map_map]
  exact operands_allTrees false chain.first chain.links

/-- Two joined SELECTs in parentheses, and the limit of the first one. -/
example : ((readGroups (tokens ("SELECT * FROM (SELECT TOP (5) * FROM [t] WHERE [a] = 1 " ++
      "ORDER BY [a] ASC UNION ALL SELECT [b] FROM [u]) [q]"))).map fun trees =>
        (bodies trees).map fun body => (operands body).map keywords) =
    some [[["SELECT", "TOP", "FROM", "WHERE", "ORDER"], ["SELECT", "FROM"]], [[]]] := by
  decide +kernel

/-! ## The outermost SELECT -/

/-- The trees from the first SELECT on that stands outside of groups. -/
def outerSelect (trees : List Tree) : List Tree := trees.dropWhile (!·.isWord "SELECT")

/-- No keyword stands in quiet trees. -/
theorem Quiet.isWord_eq_false {trees : List Tree} (hquiet : Quiet trees) {word : String}
    (hword : (Token.word word).isKeyword = true) : ∀ tree ∈ trees, tree.isWord word = false := by
  induction trees with
  | nil => nofun
  | cons tree rest ih =>
    rw [List.forall_mem_cons]
    cases tree with
    | group inside =>
      rw [quiet_group] at hquiet
      exact ⟨rfl, ih hquiet.2⟩
    | token token =>
      rw [quiet_token] at hquiet
      refine ⟨?_, ih hquiet.2⟩
      simp only [Tree.isToken_token, decide_eq_false_iff_not]
      rintro rfl
      simp [hword] at hquiet

/-- A SELECT behind quiet trees is the outermost one. -/
theorem outerSelect_trees {front : List Tree} (hfront : Quiet front) (select : Select) :
    outerSelect (front ++ select.trees) = select.trees := by
  have hselect : ∀ tree ∈ front, (!tree.isWord "SELECT") = true := by
    intro tree htree
    rw [hfront.isWord_eq_false (by decide) tree htree]
    rfl
  obtain ⟨distinct, top, columns, relation, condition, ordering, paging⟩ := select
  rw [outerSelect, List.dropWhile_append_of_pos hselect, Select.trees,
    List.dropWhile_cons_of_neg (by simp)]

/-! ## Groups in SELECTs -/

/-- All groups in quiet trees are quiet. -/
theorem Quiet.bodies : ∀ {trees : List Tree}, Quiet trees → ∀ body ∈ bodies trees, Quiet body
  | [], _ => by simp
  | .token token :: rest, hquiet => by
    rw [quiet_token] at hquiet
    rw [bodies_token]
    exact Quiet.bodies hquiet.2
  | .group inside :: rest, hquiet => by
    rw [quiet_group] at hquiet
    rw [bodies_group, List.forall_mem_cons, List.forall_mem_append]
    exact ⟨hquiet.1, Quiet.bodies hquiet.1, Quiet.bodies hquiet.2⟩

/-- The groups of a limit are quiet. -/
theorem bodies_topTrees (top : Option RowLimit) : ∀ body ∈ bodies (topTrees top), Quiet body := by
  cases top with
  | none => nofun
  | some limit =>
    rw [topTrees]
    cases limit.unit <;> simp [Token.isKeyword]

/-- The groups of an ordering are quiet. -/
theorem Ordering.bodies_trees (ordering : Ordering) :
    ∀ body ∈ bodies ordering.trees, Quiet body := by
  cases ordering with
  | none => nofun
  | random => simp [Ordering.trees]
  | keys list =>
    rw [Ordering.trees, bodies_token, bodies_token]
    exact (quiet_keyTrees list).bodies

/-- The groups of a condition on the rows are quiet. -/
theorem bodies_whereTrees (condition : Option Predicate) :
    ∀ body ∈ bodies (whereTrees condition), Quiet body := by
  cases condition with
  | none => nofun
  | some predicate =>
    rw [whereTrees, bodies_token]
    exact predicate.quiet_trees.bodies

/-- Skipped and returned rows have no groups. -/
theorem bodies_pagingTrees (paging : Option Paging) : bodies (pagingTrees paging) = [] := by
  cases paging with
  | none => rfl
  | some paging =>
    obtain ⟨skip, fetch⟩ := paging
    cases fetch <;> rfl

section Bodies

variable {p : List Tree → Prop}

mutual

/-- What holds of quiet trees holds of all groups in a SELECT if it holds of the derived tables
in it. -/
theorem Select.forall_mem_bodies_iff (hquiet : ∀ body, Quiet body → p body) : ∀ select : Select,
    (∀ body ∈ bodies select.trees, p body) ↔ ∀ chain ∈ select.chains, p chain.trees
  | ⟨distinct, top, columns, relation, condition, ordering, paging⟩ => by
    have hrelation := forall_mem_bodies_relationTrees hquiet relation
    have hdistinct : ∀ body ∈ bodies (distinctTrees distinct), p body := fun body hbody =>
      hquiet body ((quiet_distinctTrees distinct).bodies body hbody)
    have htop : ∀ body ∈ bodies (topTrees top), p body := fun body hbody =>
      hquiet body (bodies_topTrees top body hbody)
    have hcolumns : ∀ body ∈ bodies columns.trees, p body := fun body hbody =>
      hquiet body (columns.quiet_trees.bodies body hbody)
    have hcondition : ∀ body ∈ bodies (whereTrees condition), p body := fun body hbody =>
      hquiet body (bodies_whereTrees condition body hbody)
    have hordering : ∀ body ∈ bodies ordering.trees, p body := fun body hbody =>
      hquiet body (ordering.bodies_trees body hbody)
    rw [Select.chains, ← hrelation, Select.trees, bodies_token]
    simp only [bodies_append, bodies_token, bodies_pagingTrees, List.append_nil,
      List.forall_mem_append]
    exact ⟨fun h => h.2.2.2.1, fun h => ⟨hdistinct, htop, hcolumns, h, hcondition, hordering⟩⟩

/-- What holds of quiet trees holds of all groups in what a SELECT reads if it holds of the derived
tables in it. -/
theorem forall_mem_bodies_relationTrees (hquiet : ∀ body, Quiet body → p body) :
    ∀ relation : Relation Select,
    (∀ body ∈ bodies (relationTrees relation), p body) ↔
      ∀ chain ∈ relationChains relation, p chain.trees
  | .table table => by
    have htable : ∀ body ∈ bodies (tableTrees table), p body := fun body hbody =>
      hquiet body ((quiet_tableTrees table).bodies body hbody)
    simpa [relationTrees, relationChains] using htable
  | .derived ⟨first, links⟩ => by
    have hfirst := first.forall_mem_bodies_iff hquiet
    have hlinks := forall_mem_bodies_linkTrees hquiet links
    simp only [relationTrees, relationChains, bodies_group, bodies_token, bodies_nil, bodies_append,
      List.append_nil, List.forall_mem_cons, List.forall_mem_append, hfirst, hlinks, Chain.trees]

/-- What holds of quiet trees holds of all groups in further SELECTs if it holds of the derived
tables in them. -/
theorem forall_mem_bodies_linkTrees (hquiet : ∀ body, Quiet body → p body) :
    ∀ links : List (Link Select),
    (∀ body ∈ bodies (linkTrees links), p body) ↔ ∀ chain ∈ linkChains links, p chain.trees
  | [] => by simp [linkTrees, linkChains]
  | ⟨operator, select⟩ :: rest => by
    have hoperator : bodies operator.trees = [] := by cases operator <;> rfl
    have hselect := select.forall_mem_bodies_iff hquiet
    have hrest := forall_mem_bodies_linkTrees hquiet rest
    simp only [linkTrees, linkChains, bodies_append, hoperator, List.nil_append,
      List.forall_mem_append, hselect, hrest]

end

end Bodies

/-- Trees without keywords do not begin with a SELECT. -/
theorem isWord_select_of_keywords {first : Tree} {rest : List Tree}
    (hkeywords : keywords (first :: rest) = []) : first.isWord "SELECT" = false := by
  cases first with
  | group inside => rfl
  | token token =>
    simp only [Tree.isToken_token, decide_eq_false_iff_not]
    rintro rfl
    have hselect : (Tree.word "SELECT").keyword? = some "SELECT" := by decide
    rw [keywords, List.filterMap_cons_some hselect] at hkeywords
    exact absurd hkeywords (by simp)

/-- What must hold of a SELECT alone and beside others holds of a chain if it holds of all its
SELECTs. -/
theorem Chain.all_same_iff {p : Select → Prop} {chain : Chain Select} :
    chain.All p p ↔ ∀ select ∈ chain.selects, p select := by
  obtain ⟨first, links⟩ := chain
  cases links <;> simp [Chain.All, Chain.selects]

/-- A check that is passed where no keyword stands is passed by all SELECTs in parentheses
exactly if those of the derived tables in a SELECT pass it. -/
theorem Select.all_operands_iff {check : List Tree → Bool}
    (hcheck : ∀ trees, keywords trees = [] → check trees = true) {front : List Tree}
    (hfront : Quiet front) (select : Select) :
    ((bodies (front ++ select.trees)).all fun body => (operands body).all check) = true ↔
      select.All (check ·.trees = true) (check ·.trees = true) := by
  have hquiet : ∀ body, Quiet body → (operands body).all check = true := by
    intro body hbody
    rw [hbody.operands_eq, List.all_cons,
      hcheck _ (by rw [keywords_dropWhile, hbody.keywords_eq])]
    rfl
  have hchain : ∀ chain : Chain Select, (operands chain.trees).all check = true ↔
      chain.All (check ·.trees = true) (check ·.trees = true) := by
    intro chain
    rw [Chain.all_same_iff, chain.operands_trees, List.all_map, List.all_eq_true]
    rfl
  rw [List.all_eq_true, bodies_append, List.forall_mem_append, select.forall_mem_bodies_iff hquiet]
  simp only [hchain]
  exact and_iff_right fun body hbody => hquiet body (hfront.bodies body hbody)

end SqlScribe.Sql

namespace SqlScribe.Query

open Sql

/-! ## Trees of a query -/

/-- The trees in front of a query whose rows go into a table. -/
def insertTrees (table : Table) (columns : List String) : List Tree :=
  .word "INSERT" :: .word "INTO" :: (tableTrees table ++
    if columns.isEmpty then [] else [.group (commas (columns.map fun name => [.name name]))])

/-- The tokens in front of a copied query make up the trees of its target. -/
theorem groups_insertPieces (table : Table) (columns : List String) :
    Groups (insertPieces table columns).tokens (insertTrees table columns) := by
  have hinsert : (Piece.fixed "INSERT INTO ").tokens = [.word "INSERT", .word "INTO"] := by decide
  have hopening : (Piece.fixed " (").tokens = [.opening] := by decide
  have hspace : (Piece.fixed " ").tokens = [] := by decide
  have htable := groups_tablePieces table
  cases hcolumns : columns.isEmpty with
  | true =>
    simpa [insertPieces, insertTrees, hcolumns, hinsert, hspace] using
      (htable.word "INTO").word "INSERT"
  | false =>
    have hname : ∀ name ∈ columns, Groups (Pieces.tokens [.name name]) [.name name] := by
      intro name _
      rw [Pieces.tokens_cons, Piece.tokens_name]
      exact .single _ rfl
    have hnames := groups_commas (fun name => [.name name]) (fun name => [.name name]) hname
    have hcopied := htable.append hnames.enclosed
    simpa [insertPieces, insertTrees, hcolumns, hinsert, hopening, tokens_fixed_closing, hspace]
      using (hcopied.word "INTO").word "INSERT"

/-- No clause of a SELECT begins in front of a copied query. -/
theorem quiet_insertTrees (table : Table) (columns : List String) :
    Quiet (insertTrees table columns) := by
  have hnames : Quiet (commas (columns.map fun name => [.name name])) := by
    apply quiet_commas
    rw [List.forall_mem_map]
    intro name _
    simp [Token.isKeyword]
  unfold insertTrees
  split <;> simp [Token.isKeyword, clauseWords, setWords, quiet_tableTrees, hnames]

/-- The text of a query is read into the trees of a SELECT, behind those of a target. -/
theorem readGroups_statement {query : Query} {statement : Statement}
    (hstatement : query.statement = .ok statement) :
    ∃ front select values, query.outer [] = .ok (select, values) ∧ Quiet front ∧
      readGroups (tokens statement.text) = some (front ++ select.trees) := by
  obtain ⟨pieces, values, hpieces, rfl⟩ := statement_eq_ok_iff.mp hstatement
  obtain ⟨select, houter, hselect⟩ := pieces_eq_ok hpieces
  have htokens : tokens (pieces.spell .sqlServer) = pieces.tokens := tokens_spell_pieces hpieces
  simp only [htokens, readGroups_eq_some_iff]
  rcases hselect with ⟨-, rfl⟩ | ⟨table, columns, -, rfl⟩
  · exact ⟨[], select, values, houter, quiet_nil, select.groups_pieces⟩
  · refine ⟨insertTrees table columns, select, values, houter, quiet_insertTrees table columns, ?_⟩
    rw [Pieces.tokens_append]
    exact (groups_insertPieces table columns).append select.groups_pieces

end SqlScribe.Query
