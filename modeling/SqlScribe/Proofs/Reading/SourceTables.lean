import SqlScribe.Proofs.Reading.SelectTrees
import SqlScribe.Proofs.Schema.StatementFrames

/-!
# The tables that a query reads

The tables whose rows a query returns are collected from the query, and they are rendered with
it, at any depth.  The two agree: the references behind FROM in the text of a query, without
what INTERSECT and EXCEPT only compare with, are the source tables in their order, and the
columns that these tables share are intersected over the same list.

Main definitions:

- `Sql.keptTrees` deletes the SELECTs that INTERSECT and EXCEPT add, and `Sql.references` reads
  the references to tables behind FROM.
- `Sql.Select.sources` are the tables whose rows a SELECT reads.
- `Schema.listingTrees` are the trees of a listing of codes.

Main results:

- `Sql.Select.references_keptTrees`: the sources of a SELECT are read back from its trees.
- `Query.ensures_sources_nodeOver`: a query is rendered as a SELECT from its source tables.
- `Query.references_statement`: the references in the text of a query are its source tables,
  and the shared columns are listed for each of them.
-/

namespace SqlScribe

namespace Sql

/-! ## Reading references -/

/-- Whether a tree is deleted.  INTERSECT and EXCEPT begin what is deleted, UNION ends it. -/
def Tree.isDeleted (deleting : Bool) (tree : Tree) : Bool :=
  if tree.joinsSelects then !tree.isWord "UNION" else deleting

mutual

/-- A tree without the SELECTs that INTERSECT and EXCEPT add inside. -/
def Tree.kept : Tree → Tree
  | .token token => .token token
  | .group inside => .group (keptTrees false inside)

/-- Trees without the SELECTs that INTERSECT and EXCEPT add, at every depth. -/
def keptTrees (deleting : Bool) : List Tree → List Tree
  | [] => []
  | tree :: rest =>
    if tree.isDeleted deleting then keptTrees true rest else tree.kept :: keptTrees false rest

end

/-- The reference to a table in front of trees. -/
def reference? : List Tree → Option Table
  | .token (.name schema) :: .token (.sign ".") :: .token (.name name) :: _ =>
    some ⟨name, some schema⟩
  | .token (.name name) :: _ => some ⟨name, none⟩
  | _ => none

mutual

/-- The references behind FROM inside a tree. -/
def Tree.references : Tree → List Table
  | .token _ => []
  | .group inside => references inside

/-- The references to tables behind FROM, at every depth, from left to right. -/
def references : List Tree → List Table
  | [] => []
  | tree :: rest =>
    (if tree.isWord "FROM" then (reference? rest).toList else []) ++
      (tree.references ++ references rest)

end

/-- A third table is only compared with. -/
example : ((readGroups (tokens ("SELECT * FROM (SELECT [FROM] FROM [s].[a] UNION ALL SELECT * " ++
      "FROM [b] EXCEPT SELECT * FROM [c]) [q]"))).map fun trees =>
        references (keptTrees false trees)) =
    some [⟨"a", some "s"⟩, ⟨"b", none⟩] := by
  decide +kernel

/-! ## Trees without sources -/

/-- Whether a token is a word that reads a table or joins SELECTs. -/
def Token.bringsRows : Token → Bool
  | .word text => text = "FROM" || text ∈ setWords
  | _ => false

/-- No table is read in trees and no SELECTs are joined in them, at any depth. -/
def Sourceless (trees : List Tree) : Prop := ∀ token ∈ treeTokens trees, token.bringsRows = false

@[simp] theorem sourceless_nil : Sourceless [] := nofun

@[simp] theorem sourceless_token {token : Token} {rest : List Tree} :
    Sourceless (.token token :: rest) ↔ token.bringsRows = false ∧ Sourceless rest := by
  simp [Sourceless, treeTokens, Tree.tokens]

@[simp] theorem sourceless_group {inside rest : List Tree} :
    Sourceless (.group inside :: rest) ↔ Sourceless inside ∧ Sourceless rest := by
  simp [Sourceless, treeTokens, Tree.tokens, Token.bringsRows, forall_and, or_imp]

/-- No table is read in two parts of trees if none is read in either. -/
@[simp] theorem sourceless_append {a b : List Tree} :
    Sourceless (a ++ b) ↔ Sourceless a ∧ Sourceless b := by
  simp [Sourceless, forall_and, or_imp]

/-- Where no clause begins no table is read. -/
theorem Quiet.sourceless {trees : List Tree} (hquiet : Quiet trees) : Sourceless trees := by
  intro token htoken
  have hkeyword := hquiet token htoken
  cases token with
  | word text =>
    simp only [Token.isKeyword, Bool.or_eq_false_iff, decide_eq_false_iff_not] at hkeyword
    have hfrom : text ≠ "FROM" := by
      rintro rfl
      exact hkeyword.1 (by decide)
    simp [Token.bringsRows, hfrom, hkeyword.2]
  | _ => rfl

/-- Nothing in such trees is deleted. -/
theorem Sourceless.keptTrees_eq : ∀ {trees : List Tree}, Sourceless trees →
    keptTrees false trees = trees
  | [], _ => rfl
  | .token token :: rest, htrees => by
    rw [sourceless_token] at htrees
    have hkept : (Tree.token token).isDeleted false = false := by
      cases token with
      | word text => simp_all [Tree.isDeleted, Tree.joinsSelects, Token.bringsRows]
      | _ => rfl
    rw [keptTrees, hkept, Sourceless.keptTrees_eq htrees.2]
    rfl
  | .group inside :: rest, htrees => by
    rw [sourceless_group] at htrees
    rw [keptTrees, Tree.kept, Sourceless.keptTrees_eq htrees.1, Sourceless.keptTrees_eq htrees.2]
    rfl

/-- There are no references in such trees. -/
theorem Sourceless.references_append : ∀ {trees : List Tree}, Sourceless trees →
    ∀ rest, references (trees ++ rest) = references rest
  | [], _, _ => rfl
  | .token token :: more, htrees, rest => by
    rw [sourceless_token] at htrees
    have hword : (Tree.token token).isWord "FROM" = false := by
      simp only [Tree.isToken_token, decide_eq_false_iff_not]
      rintro rfl
      exact absurd htrees.1 (by decide)
    rw [List.cons_append, references, hword, Sourceless.references_append htrees.2]
    rfl
  | .group inside :: more, htrees, rest => by
    rw [sourceless_group] at htrees
    have hinside := Sourceless.references_append htrees.1 []
    rw [List.append_nil] at hinside
    rw [List.cons_append, references, Tree.references, hinside,
      Sourceless.references_append htrees.2]
    rfl

/-- Where no SELECTs are joined, the deletion goes on as it begins. -/
theorem keptTrees_append {a : List Tree} (ha : ∀ tree ∈ a, tree.joinsSelects = false)
    (deleting : Bool) (b : List Tree) :
    keptTrees deleting (a ++ b) = keptTrees deleting a ++ keptTrees deleting b := by
  induction a with
  | nil => rfl
  | cons tree rest ih =>
    rw [List.forall_mem_cons] at ha
    have hdeleted : tree.isDeleted deleting = deleting := by simp [Tree.isDeleted, ha.1]
    rw [List.cons_append, keptTrees, keptTrees, hdeleted]
    cases deleting with
    | false => exact congrArg (tree.kept :: ·) (ih ha.2)
    | true => exact ih ha.2

/-- What follows a deleted SELECT is deleted up to the next operator. -/
theorem keptTrees_true {a : List Tree} (ha : ∀ tree ∈ a, tree.joinsSelects = false) :
    keptTrees true a = [] := by
  induction a with
  | nil => rfl
  | cons tree rest ih =>
    rw [List.forall_mem_cons] at ha
    have hdeleted : tree.isDeleted true = true := by simp [Tree.isDeleted, ha.1]
    rw [keptTrees, if_pos hdeleted, ih ha.2]

/-! ## Tables of a SELECT -/

mutual

/-- The tables whose rows a SELECT reads, in order. -/
def Select.sources : Select → List Table
  | ⟨_, _, _, relation, _, _, _⟩ => relationSources relation

/-- The tables whose rows are read. -/
def relationSources : Relation Select → List Table
  | .table table => [table]
  | .derived ⟨first, links⟩ => first.sources ++ linkSources links

/-- The tables of the united SELECTs; the others are only compared with. -/
def linkSources : List (Link Select) → List Table
  | [] => []
  | ⟨operator, select⟩ :: rest =>
    (if operator = .unionAll then select.sources else []) ++ linkSources rest

end

/-- A SELECT reads the tables of what stands behind FROM. -/
theorem Select.sources_eq (select : Select) : select.sources = relationSources select.relation := by
  cases select
  rfl

@[simp] theorem relationSources_single (select : Select) :
    relationSources (.derived ⟨select, []⟩) = select.sources := by
  simp [relationSources, linkSources]

mutual

/-- Every SELECT reads some table. -/
theorem Select.sources_ne_nil : ∀ select : Select, select.sources ≠ []
  | ⟨_, _, _, relation, _, _, _⟩ => relationSources_ne_nil relation

/-- Some table is read wherever rows come from. -/
theorem relationSources_ne_nil : ∀ relation : Relation Select, relationSources relation ≠ []
  | .table _ => by simp [relationSources]
  | .derived ⟨first, _⟩ => by simp [relationSources, first.sources_ne_nil]

end

/-! ## Sources are read back -/

/-- What begins with these trees does not go on with the reference in front of them. -/
def EndsReference (trees : List Tree) : Prop := trees.head? ≠ some (.sign ".")

/-- A reference is read back where no second name follows it. -/
theorem reference?_tableTrees (table : Table) {rest : List Tree} (hrest : EndsReference rest) :
    reference? (tableTrees table ++ rest) = some table := by
  obtain ⟨name, schema⟩ := table
  cases schema with
  | some schema => rfl
  | none =>
    simp only [tableTrees, List.cons_append, List.nil_append]
    unfold reference?
    split
    · rename_i heq
      cases heq
      exact absurd rfl hrest
    · rename_i heq
      cases heq
      rfl
    · rename_i hnone
      exact absurd rfl (hnone name rest)

/-- The trees of a SELECT in front of what it reads. -/
def Select.frontTrees (select : Select) : List Tree :=
  .word "SELECT" :: (distinctTrees select.distinct ++ (topTrees select.top ++ select.columns.trees))

/-- The trees of a SELECT behind what it reads. -/
def Select.backTrees (select : Select) : List Tree :=
  whereTrees select.condition ++ (select.ordering.trees ++ pagingTrees select.paging)

/-- What a SELECT reads stands between its two other parts. -/
theorem Select.trees_eq (select : Select) :
    select.trees =
      select.frontTrees ++ .word "FROM" :: (relationTrees select.relation ++ select.backTrees) := by
  cases select
  simp [Select.trees, Select.frontTrees, Select.backTrees]

/-- No table is read in front of FROM. -/
theorem Select.sourceless_frontTrees (select : Select) : Sourceless select.frontTrees := by
  have hdistinct := (quiet_distinctTrees select.distinct).sourceless
  have hcolumns := select.columns.quiet_trees.sourceless
  have htop : Sourceless (topTrees select.top) := by
    unfold topTrees
    split
    · exact sourceless_nil
    · split <;> simp [Token.bringsRows, setWords]
  rw [frontTrees, sourceless_token, sourceless_append, sourceless_append]
  exact ⟨by decide, hdistinct, htop, hcolumns⟩

/-- No table is read behind what a SELECT reads. -/
theorem Select.sourceless_backTrees (select : Select) : Sourceless select.backTrees := by
  have hcondition : Sourceless (whereTrees select.condition) := by
    unfold whereTrees
    split
    · exact sourceless_nil
    · rename_i predicate _
      exact sourceless_token.mpr ⟨by decide, predicate.quiet_trees.sourceless⟩
  have hordering : Sourceless select.ordering.trees := by
    cases select.ordering with
    | none => exact sourceless_nil
    | random => simp [Ordering.trees, Token.bringsRows, setWords]
    | keys list =>
      have hkeys := (quiet_keyTrees list).sourceless
      simpa [Ordering.trees, Token.bringsRows, setWords] using hkeys
  have hpaging : Sourceless (pagingTrees select.paging) := by
    unfold pagingTrees
    split
    · exact sourceless_nil
    · split <;> simp [Token.bringsRows, setWords]
  rw [backTrees, sourceless_append, sourceless_append]
  exact ⟨hcondition, hordering, hpaging⟩

/-- Behind what a SELECT reads there is a word or what stands behind the SELECT. -/
theorem Select.endsReference_backTrees (select : Select) {rest : List Tree}
    (hrest : EndsReference rest) : EndsReference (select.backTrees ++ rest) := by
  obtain ⟨distinct, top, columns, relation, condition, ordering, paging⟩ := select
  cases condition with
  | some predicate => simp [EndsReference, backTrees, whereTrees]
  | none =>
    cases ordering with
    | random | keys => simp [EndsReference, backTrees, whereTrees, Ordering.trees]
    | none =>
      cases paging with
      | some paging => simp [EndsReference, backTrees, whereTrees, Ordering.trees, pagingTrees]
      | none => exact hrest

/-- No SELECTs are joined outside of the groups of a SELECT. -/
theorem Select.not_joinsSelects_trees (select : Select) :
    ∀ tree ∈ select.trees, tree.joinsSelects = false := by
  apply not_joinsSelects_of_keywords
  rw [select.keywords_trees]
  exact clausesOf_not_setWords _ _ _ _ _

/-- What remains of a SELECT is the SELECT over what remains of what it reads. -/
theorem Select.keptTrees_trees (select : Select) :
    keptTrees false select.trees = select.frontTrees ++
      .word "FROM" :: (keptTrees false (relationTrees select.relation) ++ select.backTrees) := by
  have hjoins := select.not_joinsSelects_trees
  rw [trees_eq, List.forall_mem_append, List.forall_mem_cons, List.forall_mem_append] at hjoins
  obtain ⟨hfront, hfrom, hrelation, -⟩ := hjoins
  have hword : (Tree.word "FROM").isDeleted false = false := rfl
  rw [trees_eq, keptTrees_append hfront, keptTrees, if_neg (by simp [hword]),
    keptTrees_append hrelation, select.sourceless_frontTrees.keptTrees_eq,
    select.sourceless_backTrees.keptTrees_eq]
  rfl

/-- Of further SELECTs the united ones remain, with their operators. -/
theorem keptTrees_linkTrees (operator : ChainOperator) (select : Select) (rest : List (Link Select))
    (deleting : Bool) :
    keptTrees deleting (linkTrees (⟨operator, select⟩ :: rest)) =
      if operator = .unionAll then
        .word "UNION" :: .word "ALL" ::
          (keptTrees false select.trees ++ keptTrees false (linkTrees rest))
      else keptTrees true (linkTrees rest) := by
  have hjoins := select.not_joinsSelects_trees
  cases operator with
  | unionAll =>
    rw [if_pos rfl, ← keptTrees_append hjoins]
    rfl
  | intersect | except =>
    have hdeleted := keptTrees_append hjoins true (linkTrees rest)
    rw [keptTrees_true hjoins, List.nil_append] at hdeleted
    exact hdeleted

/-- What remains of further SELECTs begins with a word, if anything remains. -/
theorem endsReference_keptTrees_linkTrees (links : List (Link Select)) (deleting : Bool) :
    EndsReference (keptTrees deleting (linkTrees links)) := by
  induction links generalizing deleting with
  | nil => simp [EndsReference, linkTrees, keptTrees]
  | cons link rest ih =>
    rw [keptTrees_linkTrees]
    split
    · simp [EndsReference]
    · exact ih true

mutual

/-- The sources of a SELECT are read back from what remains of it. -/
theorem Select.references_keptTrees : ∀ (select : Select) {rest : List Tree},
    EndsReference rest →
    references (keptTrees false select.trees ++ rest) = select.sources ++ references rest
  | ⟨distinct, top, columns, relation, condition, ordering, paging⟩, rest, hrest => by
    let select : Select := ⟨distinct, top, columns, relation, condition, ordering, paging⟩
    have hback := select.endsReference_backTrees hrest
    have hrelation := references_keptTrees_relationTrees relation hback
    rw [select.keptTrees_trees, List.append_assoc, List.cons_append, List.append_assoc,
      select.sourceless_frontTrees.references_append, hrelation,
      select.sourceless_backTrees.references_append]
    rfl

/-- Behind FROM the tables that are read are read back. -/
theorem references_keptTrees_relationTrees : ∀ (relation : Relation Select) {rest : List Tree},
    EndsReference rest →
    references (.word "FROM" :: (keptTrees false (relationTrees relation) ++ rest)) =
      relationSources relation ++ references rest
  | .table table, rest, hrest => by
    have htable := (quiet_tableTrees table).sourceless
    rw [relationTrees, htable.keptTrees_eq, references, reference?_tableTrees table hrest,
      Tree.references, htable.references_append]
    rfl
  | .derived ⟨first, links⟩, rest, hrest => by
    have hfirst := first.references_keptTrees (endsReference_keptTrees_linkTrees links false)
    have hlinks := references_keptTrees_linkTrees links false
    have hinside : references (keptTrees false (first.trees ++ linkTrees links)) =
        relationSources (.derived ⟨first, links⟩) := by
      rw [keptTrees_append first.not_joinsSelects_trees, hfirst, hlinks, relationSources]
    rw [← hinside]
    rfl

/-- In further SELECTs the tables of the united ones are read back. -/
theorem references_keptTrees_linkTrees : ∀ (links : List (Link Select)) (deleting : Bool),
    references (keptTrees deleting (linkTrees links)) = linkSources links
  | [], _ => rfl
  | ⟨operator, select⟩ :: rest, deleting => by
    have hselect := select.references_keptTrees (endsReference_keptTrees_linkTrees rest false)
    have hrest := references_keptTrees_linkTrees rest
    rw [keptTrees_linkTrees, linkSources]
    split
    · rw [← hrest false, ← hselect]
      rfl
    · exact hrest true

end

/-- The sources of a SELECT behind other trees are read back from the whole. -/
theorem Select.references_behind {front : List Tree} (hfront : Quiet front) (select : Select) :
    references (keptTrees false (front ++ select.trees)) = select.sources := by
  have hjoins : ∀ tree ∈ front, tree.joinsSelects = false :=
    not_joinsSelects_of_keywords (by simp [hfront.keywords_eq])
  have hnothing : EndsReference [] := by simp [EndsReference]
  have hselect := select.references_keptTrees hnothing
  rw [keptTrees_append hjoins, hfront.sourceless.keptTrees_eq,
    hfront.sourceless.references_append, ← List.append_nil (keptTrees false select.trees), hselect]
  exact List.append_nil _

end Sql

/-! ## Tables of a query -/

namespace Query

open Sql Binding

variable {tables : List Table} {relation : Binding (Relation Select)}

/-- A node is rendered as a SELECT from the tables that it is rendered over, counted or not. -/
theorem ensures_sources_nodeOver (whole : Bool) (query : Query)
    (hrelation : Ensures (fun rendered => relationSources rendered = tables) relation) :
    Ensures (fun select => select.sources = tables) (query.nodeOver whole relation) := by
  refine (ensures_nodeOver whole (ensures_true _) hrelation).mono fun select ⟨_, hnode⟩ => ?_
  cases hnode with
  | listed hcount hlists => rw [select.sources_eq, hlists.relation]
  | counted hcount hrows hlists =>
    rw [counting, Select.sources, relationSources_single, Select.sources_eq, hlists.relation]
  | number hcount hrows hsources => exact hsources

/-- Next to a set operator an ordered query is wrapped, which adds no tables. -/
theorem ensures_sources_operandOver (query : Query)
    (hrelation : Ensures (fun rendered => relationSources rendered = tables) relation) :
    Ensures (fun select => select.sources = tables) (query.operandOver relation) := by
  refine (query.ensures_sources_nodeOver false hrelation).seq fun select hselect => ?_
  apply ensures_pure
  split
  · rw [Select.wrap, Select.sources, relationSources_single, hselect]
  · exact hselect

/-- Set operations only compare with further queries: their tables are no sources. -/
theorem ensures_linkSources (operations : List (SetOperation Query)) :
    Ensures (fun links => linkSources links = []) (operationLinks operations) := by
  induction operations with
  | nil => exact ensures_pure rfl
  | cons operation rest ih =>
    obtain ⟨operator, query⟩ := operation
    refine .behind _ fun select => ih.seq fun links hlinks => ensures_pure ?_
    cases operator <;> exact hlinks

/-- United SELECTs read the tables of all of them. -/
theorem relationSources_unionAll (first : Select) (rest : List Select) :
    relationSources (unionAll first rest) = (first :: rest).flatMap Select.sources := by
  have hlinks : linkSources (rest.map fun select => ⟨.unionAll, select⟩) =
      rest.flatMap Select.sources := by
    induction rest with
    | nil => rfl
    | cons select rest ih => simp [linkSources, ih]
  rw [unionAll, relationSources, hlinks, List.flatMap_cons]

mutual

/-- What a query reads is rendered over its source tables. -/
theorem ensures_sources_relation : ∀ query : Query,
    Ensures (fun rendered => relationSources rendered = query.sourceTables) query.relation
  | ⟨source, target, limit, skip, first, firstOrNone, count, shuffle, items, filter, distinct,
      order, operations⟩ => by
    refine (ensures_sources_sourceRelation source).seq fun base hbase => ?_
    refine (ensures_linkSources operations).seq fun links hlinks => ensures_pure ?_
    rw [chained, sourceTables, ← hbase]
    split
    · rfl
    · rw [relationSources, hlinks, List.append_nil, Select.sources]

/-- A source is rendered as what reads its tables. -/
theorem ensures_sources_sourceRelation : ∀ source : Source Query,
    Ensures (fun rendered => relationSources rendered = tablesOfSource source)
      (sourceRelation source)
  | .table _ => ensures_pure rfl
  | .queries [] => ensures_fail _
  | .queries [query] => by
    have hquery := query.ensures_sources_nodeOver false (ensures_sources_relation query)
    refine hquery.seq fun select hselect => ensures_pure ?_
    rw [relationSources_single, hselect, tablesOfSource, tablesOfQueries, tablesOfQueries,
      List.append_nil]
  | .queries (query :: next :: rest) => by
    have hquery := query.ensures_sources_operandOver (ensures_sources_relation query)
    refine hquery.seq fun select hselect => ?_
    refine (ensures_sources_operands (next :: rest)).seq fun selects hselects => ensures_pure ?_
    rw [relationSources_unionAll, List.flatMap_cons, hselect, hselects]
    rfl

/-- The queries of a source are rendered as SELECTs that read their tables. -/
theorem ensures_sources_operands : ∀ queries : List Query,
    Ensures (fun selects => selects.flatMap Select.sources = tablesOfQueries queries)
      (operands queries)
  | [] => ensures_pure rfl
  | query :: rest => by
    have hquery := query.ensures_sources_operandOver (ensures_sources_relation query)
    refine hquery.seq fun select hselect => ?_
    refine (ensures_sources_operands rest).seq fun selects hselects => ensures_pure ?_
    rw [List.flatMap_cons, hselect, hselects, tablesOfQueries]

end

end Query

/-! ## Listings of codes -/

namespace Schema

open Sql Sql.Pieces

/-- The trees of the replacement of a code by its counterpart. -/
def branchTrees (branch : Int × Int) : List Tree :=
  [.word "WHEN", .token (.number (toString branch.1)), .word "THEN",
    .token (.number (toString branch.2))]

/-- The trees of a normalized code under its own name. -/
def codeTrees (code : String) : List Tree :=
  [Tree.word "CASE", Tree.name code] ++ TypeCode.normalized.flatMap branchTrees ++
    [Tree.word "ELSE", Tree.name code, Tree.word "END", Tree.word "AS", Tree.name code]

/-- The trees of the view that is listed and of the condition on it, up to the table. -/
def viewTrees : List Tree :=
  [.word "FROM", .name "sys", .sign ".", .name "columns", .word "WHERE", .name "object_id",
    .sign "=", .word "OBJECT_ID"]

/-- The trees of a listing of codes up to the table. -/
def listingFront : List Tree :=
  .word "SELECT" ::
    (commas [[.name "name"], codeTrees "system_type_id", codeTrees "user_type_id"] ++ viewTrees)

/-- The trees of the listing of codes of a table. -/
def listingTrees (table : Table) : List Tree :=
  listingFront ++ [.group [.token (.literal true table.objectName)]]

/-- The tokens of a listing of codes make up its trees. -/
theorem groups_codeListing (table : Table) :
    Groups (codeListing table).tokens (listingTrees table) := by
  have htokens : Pieces.tokens (fixed "SELECT " ++ Pieces.join ", " (codeOutputs.map (·.pieces)) ++
      fixed (" FROM " ++ Catalog.View.columns.path ++ " WHERE [object_id] = ") ++
      fixed "OBJECT_ID(") = treeTokens listingFront ++ [.opening] := by
    decide +kernel
  have hsplit : codeListing table =
      (fixed "SELECT " ++ Pieces.join ", " (codeOutputs.map (·.pieces)) ++
        fixed (" FROM " ++ Catalog.View.columns.path ++ " WHERE [object_id] = ") ++
        fixed "OBJECT_ID(") ++ [.literal true table.objectName, .fixed ")"] := by
    rw [List.append_assoc]
    rfl
  have hlisting : (codeListing table).tokens =
      treeTokens listingFront ++ [.opening, .literal true table.objectName, .closing] := by
    rw [hsplit, Pieces.tokens_append, htokens, Pieces.tokens_cons, Pieces.tokens_cons,
      Piece.tokens_nationalLiteral, tokens_fixed_closing, List.append_assoc]
    rfl
  have hfront : Groups (treeTokens listingFront) listingFront :=
    Groups.plain (treeTokens listingFront) (by decide +kernel)
  have hobject := (Groups.single (.literal true table.objectName) rfl).enclosed
  rw [hlisting]
  exact hfront.append hobject

/-- The text of a listing of codes keeps its tokens to itself. -/
theorem tidy_codeListing (table : Table) : Tidy false (codeListing table) := by
  obtain ⟨frame, hframed⟩ : Uniform false (fun _ => True) (fun table => [table.objectQuote])
      codeListing := uniform_codeListing
  exact (hframed table trivial).tidy

/-- The tokens of intersected listings make up their trees, with INTERSECT between them. -/
theorem groups_intersection (tables : List Table) :
    Groups (intersection tables).tokens
      ([.word "INTERSECT"].intercalate (tables.map listingTrees)) := by
  have hseparator : (Piece.fixed " INTERSECT ").tokens = [.word "INTERSECT"] := by decide
  induction tables with
  | nil => exact .nil
  | cons table rest ih =>
    cases rest with
    | nil => simpa [intersection, Pieces.join] using groups_codeListing table
    | cons next rest =>
      have hparts := (groups_codeListing table).append (ih.word "INTERSECT")
      simpa [intersection, Pieces.join, List.intercalate_cons_cons, hseparator] using hparts

/-- The text of intersected listings is read into their trees. -/
theorem readGroups_intersection (tables : List Table) :
    readGroups (Sql.tokens ((intersection tables).spell .sqlServer)) =
      some ([.word "INTERSECT"].intercalate (tables.map listingTrees)) := by
  have htidy : Tidy false (intersection tables) := by
    refine .join _ (by decide) fun text htext => ?_
    obtain ⟨table, -, rfl⟩ := List.mem_map.mp htext
    exact tidy_codeListing table
  rw [tokens_spell (fun _ hwhole => hwhole) htidy, readGroups_eq_some_iff]
  exact groups_intersection tables

end Schema

namespace Query

open Sql

/-! ## Tables of a rendered query -/

/-- The shared columns of a query with source tables are listed for each of them. -/
theorem statement_unionColumns {query : Query} (htables : query.sourceTables ≠ []) :
    (SchemaOperation.unionColumns query).statement =
      .ok
        { text := (Schema.intersection query.sourceTables).spell .sqlServer
          result := .multiple } := by
  have hsources : Schema.sources query = .ok query.sourceTables := by
    unfold Schema.sources
    split
    · contradiction
    · rfl
  rw [SchemaOperation.statement, SchemaOperation.pieces, Schema.unionColumns, hsources]
  rfl

/-- The tables of a query that renders are those that its text reads: the references behind FROM,
without the SELECTs behind INTERSECT and EXCEPT, are its source tables in order.  The columns that
they share are listed by one listing for each of them, in this order, with INTERSECT between. -/
theorem references_statement {query : Query} {statement : Statement}
    (hstatement : query.statement = .ok statement) :
    ∃ trees shared, readGroups (tokens statement.text) = some trees ∧
      references (keptTrees false trees) = query.sourceTables ∧
      (SchemaOperation.unionColumns query).statement = .ok shared ∧
      readGroups (tokens shared.text) =
        some ([.word "INTERSECT"].intercalate (query.sourceTables.map Schema.listingTrees)) := by
  obtain ⟨front, select, values, houter, hfront, htrees⟩ := readGroups_statement hstatement
  have hsources : select.sources = query.sourceTables :=
    query.ensures_sources_nodeOver true (ensures_sources_relation query) [] select values houter
  have hne : query.sourceTables ≠ [] := hsources ▸ select.sources_ne_nil
  refine ⟨_, _, htrees, ?_, statement_unionColumns hne,
    Schema.readGroups_intersection query.sourceTables⟩
  rw [select.references_behind hfront, hsources]

/-- The rows of three queries that a further table has, too.  The second one is a union itself, with
an intersection inside and without the rows of an archive. -/
def archived : Query :=
  { source := .queries
      [{ source := .table ⟨"a", none⟩
         limit := some ⟨5, .rows⟩
         order := [⟨.field "x", .ascending⟩] },
       { source := .queries
           [.ofTable ⟨"b", some "dbo"⟩, (Query.ofTable ⟨"c", none⟩).combined .intersect
              (.union [⟨"d", none⟩, ⟨"e", none⟩])]
         order := [⟨.field "y", .descending⟩]
         operations := [⟨.except, .ofTable ⟨"Archive", some "old"⟩⟩] },
       .ofTable ⟨"a", none⟩]
    operations := [⟨.intersect, .ofTable ⟨"f", none⟩⟩] }

/-- Three tables are read, one of them twice, and those that are only compared with are left out. -/
theorem references_statement_archived :
    archived.sourceTables = [⟨"a", none⟩, ⟨"b", some "dbo"⟩, ⟨"c", none⟩, ⟨"a", none⟩] ∧
      ∃ statement trees shared, archived.statement = .ok statement ∧
        readGroups (tokens statement.text) = some trees ∧
        references (keptTrees false trees) = archived.sourceTables ∧
        (SchemaOperation.unionColumns archived).statement = .ok shared ∧
        readGroups (tokens shared.text) =
          some ([.word "INTERSECT"].intercalate
            (archived.sourceTables.map Schema.listingTrees)) := by
  obtain ⟨statement, hstatement⟩ : ∃ statement, archived.statement = .ok statement := ⟨_, rfl⟩
  obtain ⟨trees, shared, htrees, hreferences, hshared, hlisted⟩ := references_statement hstatement
  exact ⟨rfl, statement, trees, shared, hstatement, htrees, hreferences, hshared, hlisted⟩

end Query

end SqlScribe
