import SqlScribe.Proofs.Reading.SelectTrees

/-!
# Names of the columns of derived tables

A derived table needs a name for each of its columns: a returned expression has to be a column
or to have an alias.  Nested queries are rendered with the expressions that they return, so it
is up to the query whether the names are there.

Main definitions:

- `Sql.columnTrees` reads what a SELECT returns and `Sql.namesColumn` whether a returned column
  has a name.
- `Sql.namesDerivedColumns` says that all columns of all derived tables in a text have names.
- `Query.namesColumns` says that all columns that a query returns have names.

Main results:

- `Query.namesDerivedColumns_statement_iff`: the columns of the derived tables in a rendered
  query have names exactly if no query inside it counts, each of them names its columns, and
  so does the query itself where its listed rows are counted.
-/

namespace SqlScribe

/-! ## Reading returned columns -/

namespace Sql

/-- Whether a returned column has a name: it is a column or ends in an alias, or it is a star,
which stands for columns that have names. -/
def namesColumn (column : List Tree) : Bool :=
  match column.reverse with
  | [.token (.name _)] => true
  | [.token (.sign text)] => text = "*"
  | .token (.name _) :: front :: _ => front.isWord "AS"
  | _ => false

/-- What stands behind the limit in front of returned columns. -/
def behindTop : List Tree → List Tree
  | first :: amount :: rest =>
    if first.isWord "TOP" then rest.dropWhile (·.isWord "PERCENT") else first :: amount :: rest
  | trees => trees

/-- The returned columns of a SELECT. -/
def columnTrees : List Tree → Option (List (List Tree))
  | first :: rest =>
    if first.isWord "SELECT" then
      some (((behindTop (rest.dropWhile (·.isWord "DISTINCT"))).takeWhile
        (!·.isWord "FROM")).splitOnP (·.isSign ","))
    else none
  | [] => none

/-- Whether all columns of the SELECTs in parentheses have names, at every depth. -/
def namesDerivedColumns (trees : List Tree) : Bool :=
  (bodies trees).all fun body => (operands body).all fun select =>
    (columnTrees select).all (·.all namesColumn)

/-! ## Returned columns are read back -/

/-- The words of returned columns outside of groups. -/
def columnWords : List String := scalarWords ++ ["AS", "COUNT"]

/-- The words of a returned column outside of groups are those of an expression and AS. -/
theorem within_itemTrees (item : Scalar × Option String) :
    ∀ tree ∈ itemTrees item, tree.within columnWords ["+"] = true := by
  have hscalar : ∀ tree ∈ item.1.trees, tree.within columnWords ["+"] = true := fun tree htree =>
    Tree.within_mono (by decide) (List.Subset.refl _) (item.1.within_trees tree htree)
  obtain ⟨scalar, label⟩ := item
  cases label with
  | none => exact hscalar
  | some label =>
    rw [itemTrees, List.forall_mem_append]
    exact ⟨hscalar, by simp [Tree.within, columnWords]⟩

/-- Commas between trees are the only signs that are added. -/
theorem within_commas {words signs : List String} {list : List (List Tree)}
    (hcomma : "," ∈ signs)
    (hlist : ∀ trees ∈ list, ∀ tree ∈ trees, tree.within words signs = true) :
    ∀ tree ∈ commas list, tree.within words signs = true := by
  induction list with
  | nil => nofun
  | cons trees rest ih =>
    rw [List.forall_mem_cons] at hlist
    cases rest with
    | nil => exact hlist.1
    | cons next rest =>
      rw [commas, List.forall_mem_append, List.forall_mem_cons]
      exact ⟨hlist.1, by simpa [Tree.within] using hcomma, ih hlist.2⟩

/-- Outside of groups, what a SELECT returns has no words but those of its columns. -/
theorem SelectList.within_trees (columns : SelectList) :
    ∀ tree ∈ columns.trees, tree.within columnWords ["+", ",", "*"] = true := by
  cases columns with
  | all => simp [SelectList.trees, Tree.within]
  | count => simp [SelectList.trees, Tree.within, columnWords]
  | items list =>
    apply within_commas (by decide)
    rw [List.forall_mem_map]
    intro item _ tree htree
    exact Tree.within_mono (List.Subset.refl _) (by decide) (within_itemTrees item tree htree)

/-- Sequences of trees without commas are parted again at the commas between them. -/
theorem splitOnP_commas {list : List (List Tree)} (hne : list ≠ [])
    (hlist : ∀ trees ∈ list, ∀ tree ∈ trees, tree.isSign "," = false) :
    (commas list).splitOnP (·.isSign ",") = list := by
  induction list with
  | nil => exact absurd rfl hne
  | cons trees rest ih =>
    rw [List.forall_mem_cons] at hlist
    cases rest with
    | nil => exact List.splitOnP_eq_singleton hlist.1
    | cons next rest =>
      rw [commas, List.splitOnP_append_cons_of_forall_mem hlist.1 _ (by simp),
        ih (by simp) hlist.2]

/-- Returned columns are read back one by one. -/
theorem SelectList.splitOnP_items {list : List (Scalar × Option String)} (hne : list ≠ []) :
    (SelectList.items list).trees.splitOnP (·.isSign ",") = list.map itemTrees := by
  apply splitOnP_commas (by simpa using hne)
  rw [List.forall_mem_map]
  intro item _ tree htree
  exact Tree.isToken_of_within (within_itemTrees item tree htree) (by decide)

/-- Whether an expression is a column. -/
def Scalar.isColumn : Scalar → Bool
  | .column _ => true
  | _ => false

/-- Several trees name a column only through an alias. -/
theorem namesColumn_of_no_alias {trees : List Tree} (hseveral : 1 < trees.length)
    (halias : ∀ tree ∈ trees, tree.isWord "AS" = false) : namesColumn trees = false := by
  have hlength : 1 < trees.reverse.length := by rwa [List.length_reverse]
  have hreverse : ∀ tree ∈ trees.reverse, tree.isWord "AS" = false :=
    fun tree htree => halias tree (List.mem_reverse.mp htree)
  unfold namesColumn
  split
  · simp_all
  · simp_all
  · simp_all
  · rfl

/-- Whether there is a single expression and it is a column. -/
def Scalar.singleIsColumn : List Scalar → Bool
  | [scalar] => scalar.isColumn
  | _ => false

/-- An expression without an alias has a name only if it is a column. -/
theorem Scalar.namesColumn_trees (scalar : Scalar) :
    namesColumn scalar.trees = scalar.isColumn := by
  cases scalar with
  | plus left right =>
    apply namesColumn_of_no_alias
    · have hleft := List.length_pos_iff.mpr left.trees_ne_nil
      rw [Scalar.trees, List.length_append, List.length_cons]
      omega
    · intro tree htree
      exact Tree.isToken_of_within ((Scalar.plus left right).within_trees tree htree) (by decide)
  | _ => simp [Scalar.trees, namesColumn, Scalar.isColumn]

/-- A returned column has a name if it has an alias or is a column. -/
theorem namesColumn_itemTrees (item : Scalar × Option String) :
    namesColumn (itemTrees item) = (item.2.isSome || item.1.isColumn) := by
  obtain ⟨scalar, label⟩ := item
  cases label with
  | none => exact scalar.namesColumn_trees
  | some label => simp [itemTrees, namesColumn]

/-- Whether everything that a SELECT returns has a name. -/
def SelectList.named : SelectList → Bool
  | .all => true
  | .count => false
  | .items list => !list.isEmpty && list.all fun (scalar, label) => label.isSome || scalar.isColumn

/-- What a SELECT returns is read as columns with names exactly if it is such. -/
theorem SelectList.namesColumn_trees (columns : SelectList) :
    (columns.trees.splitOnP (·.isSign ",")).all namesColumn = columns.named := by
  cases columns with
  | all => decide
  | count => decide
  | items list =>
    cases list with
    | nil => decide
    | cons item rest =>
      rw [SelectList.splitOnP_items (by simp), List.all_map]
      simp [SelectList.named, Function.comp_def, namesColumn_itemTrees]

/-- Behind returned columns a clause begins. -/
theorem exists_first_column (columns : SelectList) (rest : List Tree) :
    ∃ first more, columns.trees ++ .word "FROM" :: rest = first :: more ∧
      ∀ word ∈ ["DISTINCT", "TOP", "PERCENT"], first.isWord word = false := by
  have hwords : ∀ word ∈ ["DISTINCT", "TOP", "PERCENT"],
      (Tree.word word).within columnWords ["+", ",", "*"] = false := by decide
  cases htrees : columns.trees with
  | nil => exact ⟨_, _, rfl, by simp⟩
  | cons first more =>
    refine ⟨first, _, rfl, fun word hword => ?_⟩
    have hfirst := columns.within_trees first (by rw [htrees]; exact List.mem_cons_self)
    exact Tree.isToken_of_within hfirst (hwords word hword)

/-- The limit in front of returned columns is passed over. -/
theorem behindTop_topTrees (top : Option RowLimit) (columns : SelectList) (rest : List Tree) :
    behindTop (topTrees top ++ (columns.trees ++ .word "FROM" :: rest)) =
      columns.trees ++ .word "FROM" :: rest := by
  obtain ⟨first, more, hcolumns, hwords⟩ := exists_first_column columns rest
  have hdrop : (first :: more).dropWhile (·.isWord "PERCENT") = first :: more :=
    List.dropWhile_cons_of_neg (by simp [hwords])
  rw [hcolumns]
  cases top with
  | none => cases more <;> simp [topTrees, behindTop, hwords]
  | some limit => cases hunit : limit.unit <;> simp [topTrees, behindTop, hunit, hdrop]

/-- DISTINCT in front of returned columns is passed over. -/
theorem dropWhile_distinctTrees (distinct : Bool) (top : Option RowLimit) (columns : SelectList)
    (rest : List Tree) :
    (distinctTrees distinct ++ (topTrees top ++ (columns.trees ++ .word "FROM" :: rest))).dropWhile
      (·.isWord "DISTINCT") = topTrees top ++ (columns.trees ++ .word "FROM" :: rest) := by
  obtain ⟨first, more, hcolumns, hwords⟩ := exists_first_column columns rest
  have hdrop : (topTrees top ++ (first :: more)).dropWhile (·.isWord "DISTINCT") =
      topTrees top ++ (first :: more) := by
    cases top with
    | none => exact List.dropWhile_cons_of_neg (by simp [hwords])
    | some limit => exact List.dropWhile_cons_of_neg (by simp)
  rw [hcolumns]
  cases distinct with
  | true => simp [distinctTrees, hdrop]
  | false => exact hdrop

/-- The returned columns stand in front of FROM. -/
theorem takeWhile_trees (columns : SelectList) (rest : List Tree) :
    (columns.trees ++ .word "FROM" :: rest).takeWhile (!·.isWord "FROM") = columns.trees := by
  have hcolumns : ∀ tree ∈ columns.trees, (!tree.isWord "FROM") = true := by
    intro tree htree
    have hword : tree.isWord "FROM" = false :=
      Tree.isToken_of_within (columns.within_trees tree htree) (by decide)
    rw [hword]
    rfl
  rw [List.takeWhile_append_of_pos hcolumns, List.takeWhile_cons_of_neg (by simp), List.append_nil]

/-- What a SELECT returns is read back. -/
theorem Select.columnTrees_trees (select : Select) :
    columnTrees select.trees = some (select.columns.trees.splitOnP (·.isSign ",")) := by
  obtain ⟨distinct, top, columns, relation, condition, ordering, paging⟩ := select
  rw [Select.trees, columnTrees, if_pos (by simp), dropWhile_distinctTrees, behindTop_topTrees,
    takeWhile_trees]

/-- Trees without keywords are no SELECT. -/
theorem columnTrees_of_keywords {trees : List Tree} (hkeywords : keywords trees = []) :
    columnTrees trees = none := by
  cases trees with
  | nil => rfl
  | cons first rest => rw [columnTrees, isWord_select_of_keywords hkeywords, if_neg (by simp)]

/-- The columns of derived tables have names if those of the SELECTs in them have. -/
theorem Select.namesDerivedColumns_iff {front : List Tree} (hfront : Quiet front)
    (select : Select) :
    namesDerivedColumns (front ++ select.trees) = true ↔
      select.All (·.columns.named = true) (·.columns.named = true) := by
  have hselect : ∀ select : Select,
      (columnTrees select.trees).all (·.all namesColumn) = select.columns.named := by
    intro select
    rw [select.columnTrees_trees, Option.all_some, SelectList.namesColumn_trees]
  have hcheck : ∀ trees, keywords trees = [] →
      (columnTrees trees).all (·.all namesColumn) = true := by
    intro trees hkeywords
    rw [columnTrees_of_keywords hkeywords]
    rfl
  rw [namesDerivedColumns, select.all_operands_iff hcheck hfront]
  simp only [hselect]

end Sql

/-! ## Columns of nodes -/

mutual

/-- Whether an expression is rendered as a column: a single part stands for the whole. -/
def Expr.rendersColumn : Expr → Bool
  | .field _ => true
  | .concat parts | .coalesce parts => Expr.singleRendersColumn parts
  | _ => false

/-- Whether there is a single part and it is rendered as a column. -/
def Expr.singleRendersColumn : List Expr → Bool
  | [part] => part.rendersColumn
  | _ => false

end

namespace Query

open Sql Binding

/-- Whether all columns that a query returns have names. -/
def namesColumns (query : Query) : Bool :=
  if query.hasItems then
    query.items.all fun item => item.label.isSome || item.expr.rendersColumn
  else query.distinct.all Expr.rendersColumn

/-- All results have a property exactly if the parts that they are rendered from have theirs. -/
theorem ensures_mapM_all {α β : Type} {render : α → Binding β} {p : β → Bool} {q : α → Bool}
    (hrender : ∀ part, Ensures (fun result => p result = q part) (render part)) (list : List α) :
    Ensures (fun results => results.isEmpty = list.isEmpty ∧ results.all p = list.all q)
      (list.mapM render) := by
  induction list with
  | nil => exact ensures_pure ⟨rfl, rfl⟩
  | cons part rest ih =>
    rw [List.mapM_cons]
    refine (hrender part).seq fun result hresult => ?_
    refine ih.seq fun results ⟨_, hresults⟩ => ?_
    exact ensures_pure ⟨rfl, by rw [List.all_cons, List.all_cons, hresult, hresults]⟩

/-- A bound value is no column. -/
theorem ensures_bind (value : Value) :
    Ensures (fun scalar => scalar.isColumn = false) (Binding.bind value) := by
  intro values scalar values' hscalar
  cases hscalar
  rfl

/-- A single argument stands for itself. -/
theorem ensures_variadic (function : Function) (scalars : List Scalar) :
    Ensures (fun scalar => scalar.isColumn = Scalar.singleIsColumn scalars)
      (Expr.variadic function scalars) := by
  match scalars with
  | [] => exact ensures_fail _
  | [scalar] | first :: second :: rest => exact ensures_pure rfl

mutual

/-- An expression is rendered as a column exactly if it is a field or the single part of a call that
is. -/
theorem ensures_scalar : ∀ expr : Expr,
    Ensures (fun scalar => scalar.isColumn = expr.rendersColumn) expr.scalar
  | .field name => ensures_pure rfl
  | .value constant => by
    cases constant with
    | null => exact ensures_pure rfl
    | _ => exact ensures_bind _
  | .upper text | .lower text | .trim text | .length text => .behind _ fun _ => ensures_pure rfl
  | .substring text start count =>
    .behind _ fun _ => .behind _ fun _ => .behind _ fun _ => ensures_pure rfl
  | .replace text term replacement =>
    .behind _ fun _ => .behind _ fun _ => .behind _ fun _ => ensures_pure rfl
  | .indexOf text term => .behind _ fun _ => .behind _ fun _ => ensures_pure rfl
  | .concat parts => (ensures_scalars parts).seq fun scalars hscalars => by
    rw [Expr.rendersColumn, ← hscalars]
    exact ensures_variadic .concat scalars
  | .coalesce parts => (ensures_scalars parts).seq fun scalars hscalars => by
    rw [Expr.rendersColumn, ← hscalars]
    exact ensures_variadic .coalesce scalars
  | .convert operand type => .behind _ fun _ => ensures_pure rfl
  | .search place text term => .behind _ fun _ => ensures_pure rfl
  | .among operand values => .behind _ fun _ => ensures_pure rfl

/-- Arguments are rendered as a single column exactly if they are one expression that is. -/
theorem ensures_scalars : ∀ parts : List Expr,
    Ensures (fun scalars => Scalar.singleIsColumn scalars = Expr.singleRendersColumn parts)
      (Expr.scalars parts)
  | [] => ensures_pure rfl
  | [part] => by
    have hnone : Ensures (fun rest => rest = []) (Expr.scalars []) := ensures_pure rfl
    refine (ensures_scalar part).seq fun scalar hscalar => ?_
    refine hnone.seq fun rest hrest => ensures_pure ?_
    rw [hrest]
    exact hscalar
  | part :: next :: rest => by
    have hmore : Ensures (fun more => more ≠ []) (Expr.scalars (next :: rest)) :=
      .behind _ fun _ => .behind _ fun _ => ensures_pure (List.cons_ne_nil _ _)
    refine Ensures.behind _ fun scalar => ?_
    refine hmore.seq fun more hne => ensures_pure ?_
    obtain ⟨second, others, rfl⟩ := List.exists_cons_of_ne_nil hne
    rfl

end

/-- What a query returns has names if the query names it. -/
theorem ensures_selectList (query : Query) :
    Ensures (fun columns => columns.named = query.namesColumns) query.selectList := by
  have hitem : ∀ item : SelectItem, Ensures
      (fun result => (result.2.isSome || result.1.isColumn) =
        (item.label.isSome || item.expr.rendersColumn)) (renderItem item) := fun item =>
    (ensures_scalar item.expr).seq fun scalar hscalar => ensures_pure (by rw [hscalar])
  unfold selectList namesColumns
  cases hitems : query.hasItems with
  | true =>
    refine (ensures_mapM_all hitem query.items).seq fun items ⟨hempty, hall⟩ => ?_
    apply ensures_pure
    have hne : items.isEmpty = false := by simpa [hasItems, hempty] using hitems
    simpa [SelectList.named, hne] using hall
  | false =>
    cases hdistinct : query.hasDistinct with
    | true =>
      refine (ensures_mapM_all (fun expr => hitem ⟨expr, none⟩) query.distinct).seq
        fun items ⟨hempty, hall⟩ => ?_
      apply ensures_pure
      have hne : items.isEmpty = false := by simpa [hasDistinct, hempty] using hdistinct
      simpa [SelectList.named, hne] using hall
    | false =>
      have hnone : query.distinct = [] := by simpa [hasDistinct] using hdistinct
      exact ensures_pure (by simp [SelectList.named, hnone])

/-- Whether derived tables have names for their columns is a matter of single nodes: a nested
count never has one, and a nested list has them if its query names them. -/
theorem settles_names :
    Settles (·.columns.named = true) (·.columns.named = true)
      fun node => node.count = false ∧ node.namesColumns = true where
  source := fun _ => rfl
  node := by
    intro query below hrelation
    rw [innerOver_eq]
    refine (ensures_nodeOver false (ensures_selectList _) hrelation).mono ?_
    rintro select ⟨-, hrenders⟩
    refine ⟨?_, fun _ => Iff.rfl⟩
    cases hrenders with
    | listed hcount hlists =>
      rw [Select.all_iff, hlists.relation, hlists.columns, hcount]
      exact and_congr_left fun _ => (and_iff_right rfl).symm
    | counted hcount hrows hlists => simp [counting, SelectList.named, hcount]
    | number hcount hrows hbelow => simp [SelectList.named, hcount]

/-- The SELECTs of a query name their columns exactly if its nodes do. -/
theorem ensures_names_outer (query : Query) :
    Ensures (fun select => select.All (·.columns.named = true) (·.columns.named = true) ↔
      (∀ node ∈ query.inside, node.count = false ∧ node.namesColumns = true) ∧
        (query.count = true → query.keepsRows = true → query.namesColumns = true)) query.outer := by
  rw [outer, outerOver_eq]
  have hrelation := ensures_relation settles_names query
  refine (ensures_nodeOver true (ensures_selectList _) hrelation).mono ?_
  rintro select ⟨-, hrenders⟩
  cases hrenders with
  | listed hcount hlists =>
    rw [Select.all_iff, hlists.relation]
    simp [hcount]
  | counted hcount hrows hlists =>
    rw [all_counting_iff, Select.all_iff, hlists.relation, hlists.columns]
    simp only [hcount, hrows, true_implies]
    exact and_comm
  | number hcount hrows hbelow =>
    rw [Select.all_iff, hbelow]
    simp [hrows]

/-- The columns of the derived tables in a rendered query have names exactly if no query inside
it counts, each of them names its columns, and so does the query itself where its listed rows
are counted. -/
theorem namesDerivedColumns_statement_iff {query : Query} {statement : Statement}
    (hstatement : query.statement = .ok statement) :
    ∃ trees, readGroups (tokens statement.text) = some trees ∧
      (namesDerivedColumns trees = true ↔
        (∀ node ∈ query.inside, node.count = false ∧ node.namesColumns = true) ∧
          (query.count = true → query.keepsRows = true → query.namesColumns = true)) := by
  obtain ⟨front, select, values, houter, hfront, htrees⟩ := readGroups_statement hstatement
  refine ⟨_, htrees, ?_⟩
  rw [select.namesDerivedColumns_iff hfront]
  exact ensures_names_outer query [] select values houter

/-- The number of rows that differ in a name, whatever its case. -/
def countedNames : Query :=
  { source := .table ⟨"t", none⟩, count := true, distinct := [.upper (.field "Name")] }

/-- The derived table of counted rows has a column without a name. -/
theorem not_namesDerivedColumns_countedNames :
    countedNames.statement = .ok
        { text := "SELECT COUNT(*) FROM (SELECT DISTINCT UPPER([Name]) FROM [t]) [__SubQuery__]"
          parameters := []
          result := .scalar } ∧
      (readGroups (tokens
        "SELECT COUNT(*) FROM (SELECT DISTINCT UPPER([Name]) FROM [t]) [__SubQuery__]")).map
        namesDerivedColumns = some false :=
  ⟨rfl, by decide +kernel⟩

/-- The number of rows of a query that returns two columns and an expression with an alias. -/
def countedLabels : Query :=
  { source := .queries [{ source := .table ⟨"t", none⟩, items := [⟨.field "Id", none⟩,
      ⟨.coalesce [.field "Name"], none⟩, ⟨.upper (.field "Name"), some "Label"⟩] }]
    limit := some ⟨5, .rows⟩
    count := true }

theorem namesDerivedColumns_statement_iff_countedLabels :
    ∃ statement trees, countedLabels.statement = .ok statement ∧
      readGroups (tokens statement.text) = some trees ∧ namesDerivedColumns trees = true := by
  obtain ⟨statement, hstatement⟩ : ∃ statement, countedLabels.statement = .ok statement := ⟨_, rfl⟩
  obtain ⟨trees, htrees, hnames⟩ := namesDerivedColumns_statement_iff hstatement
  exact ⟨statement, trees, hstatement, htrees, hnames.mpr (by decide)⟩

end Query

end SqlScribe
