import SqlScribe.Proofs.Reading.DerivedColumns
import SqlScribe.Proofs.Schema.Creation

/-!
# The columns of copied rows

A query that copies into a table names the columns that it fills, and it returns what they are
filled with.  Both lists are made of the same items, but by different steps: the one of the names
of the items, the other one of their expressions.  They agree column by column.

Main definitions:

- `Query.returned` are the items that a query returns and `Query.returning` is the query that
  returns its rows to the caller.
- `Sql.Fills` says that a returned column goes under a name, and `Query.Copies` that a statement
  copies what another one returns.

Main results:

- `Query.copiedColumns_eq_ok_iff` and `Query.ensures_selectList_returned`: the names of the filled
  columns and the returned columns are those of the same items.
- `Query.copies_statement`: a copy fills its columns, one by one, with the rows of the query.
-/

namespace SqlScribe

open Sql Binding

/-- A step for each part of a list ensures for each result what it ensures for the part. -/
theorem Binding.ensures_mapM {α β : Type} {related : α → β → Prop} {render : α → Binding β}
    (hrender : ∀ part, Ensures (related part) (render part)) (list : List α) :
    Ensures (List.Forall₂ related list) (list.mapM render) := by
  induction list with
  | nil => exact ensures_pure .nil
  | cons part rest ih =>
    rw [List.mapM_cons]
    refine (hrender part).seq fun result hresult => ?_
    exact ih.seq fun results hresults => ensures_pure (.cons hresult hresults)

/-! ## Columns under names -/

namespace Sql

/-- A returned column goes under a name: its alias, or the column that it is. -/
def Fills (name : String) (item : Scalar × Option String) : Prop :=
  item.2 = some name ∨ item.2 = none ∧ item.1 = .column name

/-- A returned column is read under a name: it is the column, or ends in the alias. -/
def ReadsAs (name : String) (column : List Tree) : Prop :=
  column = [.name name] ∨ [.word "AS", .name name] <:+ column

/-- A column that goes under a name is read under it. -/
theorem Fills.readsAs {name : String} {item : Scalar × Option String} (hfills : Fills name item) :
    ReadsAs name (itemTrees item) := by
  obtain ⟨scalar, label⟩ := item
  rcases hfills with rfl | ⟨rfl, rfl⟩
  · exact .inr (List.suffix_append _ _)
  · exact .inl rfl

/-- A star is read under no name. -/
theorem ReadsAs.ne_star {name : String} {column : List Tree} (hreads : ReadsAs name column) :
    column ≠ [.sign "*"] := by
  rintro rfl
  rcases hreads with hname | halias
  · cases hname
  · exact absurd halias.length_le (by simp)

/-- All columns are read back as a star. -/
theorem Select.columnTrees_all {select : Select} (hall : select.columns = .all) :
    columnTrees select.trees = some [[.sign "*"]] := by
  rw [select.columnTrees_trees, hall]
  exact congrArg some (List.splitOnP_eq_singleton (by simp [SelectList.trees]))

/-- The returned columns of a SELECT are read back one by one. -/
theorem Select.columnTrees_items {select : Select} {list : List (Scalar × Option String)}
    (hitems : select.columns = .items list) (hne : list ≠ []) :
    columnTrees select.trees = some (list.map itemTrees) := by
  rw [select.columnTrees_trees, hitems, SelectList.splitOnP_items hne]

end Sql

namespace Query

variable {query : Query} {columns : List String}

/-! ## Items of a query -/

/-- The items that a query returns; none stands for all columns. -/
def returned (query : Query) : List SelectItem :=
  if query.hasItems then query.items else query.distinct.map fun expr => ⟨expr, none⟩

/-- An item is copied if it has a name, and under this name. -/
theorem copiedItem_eq_ok_iff {item : SelectItem} {name : String} :
    copiedItem item = .ok name ↔ item.outputName? = some name := by
  unfold copiedItem
  cases item.outputName? <;> simp

/-- A distinct expression is copied if it is a field, and under the name of the field. -/
theorem copiedKey_eq_ok_iff {expr : Expr} {name : String} :
    copiedKey expr = .ok name ↔ (SelectItem.mk expr none).outputName? = some name := by
  cases expr <;> simp [copiedKey, SelectItem.outputName?]

/-- The filled columns have the names of the returned items. -/
theorem copiedColumns_eq_ok_iff :
    query.copiedColumns = .ok columns ↔
      List.Forall₂ (fun item name => item.outputName? = some name) query.returned columns := by
  unfold copiedColumns returned
  split
  · simp only [Except.mapM_eq_ok_iff, copiedItem_eq_ok_iff]
  · rw [List.forall₂_map_left_iff]
    simp only [← copiedKey_eq_ok_iff, ← Except.mapM_eq_ok_iff]
    split
    · rfl
    · rename_i hdistinct
      have hnone : query.distinct = [] := by simpa [hasDistinct] using hdistinct
      simp [hnone, pure, Except.pure]

/-- An item is returned with its label, and a field as the column of its name. -/
def RendersItem (item : SelectItem) (rendered : Scalar × Option String) : Prop :=
  rendered.2 = item.label ∧ ∀ name, item.expr = .field name → rendered.1 = .column name

/-- An item is rendered with its label, and a field as the column of its name. -/
theorem ensures_renderItem (item : SelectItem) : Ensures (RendersItem item) (renderItem item) := by
  obtain ⟨expr, label⟩ := item
  have hscalar : Ensures (fun scalar => ∀ name, expr = .field name → scalar = .column name)
      expr.scalar := by
    cases expr with
    | field name =>
      refine ensures_pure fun other hother => ?_
      rw [Expr.field.inj hother]
    | _ => exact (ensures_true _).mono fun _ _ => nofun
  exact hscalar.seq fun scalar hfield => ensures_pure ⟨rfl, hfield⟩

/-- An item with a name is returned under this name. -/
theorem RendersItem.fills {item : SelectItem} {rendered : Scalar × Option String} {name : String}
    (hrenders : RendersItem item rendered) (hname : item.outputName? = some name) :
    Fills name rendered := by
  obtain ⟨expr, label⟩ := item
  obtain ⟨hlabel, hfield⟩ := hrenders
  cases label with
  | some label => exact .inl (hlabel.trans hname)
  | none =>
    cases expr with
    | field field =>
      obtain rfl : field = name := Option.some.inj hname
      exact .inr ⟨hlabel, hfield field rfl⟩
    | _ => cases hname

/-- The list of what a query returns: all columns, or its items one by one. -/
inductive ListsItems : List SelectItem → SelectList → Prop where
  | all : ListsItems [] .all
  | items {items : List SelectItem} {list : List (Scalar × Option String)} (hne : items ≠ [])
    (hitems : List.Forall₂ RendersItem items list) : ListsItems items (.items list)

/-- The returned columns are those of the returned items. -/
theorem ensures_selectList_returned (query : Query) :
    Ensures (ListsItems query.returned) query.selectList := by
  unfold selectList returned
  cases hitems : query.hasItems with
  | true =>
    have hne : query.items ≠ [] := by simpa [hasItems] using hitems
    exact (ensures_mapM ensures_renderItem query.items).seq fun list hlist =>
      ensures_pure (.items hne hlist)
  | false =>
    cases hdistinct : query.hasDistinct with
    | true =>
      have hne : query.distinct ≠ [] := by simpa [hasDistinct] using hdistinct
      have hkeys := ensures_mapM (fun expr => ensures_renderItem ⟨expr, none⟩) query.distinct
      refine hkeys.seq fun list hlist => ensures_pure ?_
      exact .items (by simpa using hne) (List.forall₂_map_left_iff.mpr hlist)
    | false =>
      have hnone : query.distinct = [] := by simpa [hasDistinct] using hdistinct
      refine ensures_pure ?_
      simp [hnone, ListsItems.all]

/-! ## Statements that copy -/

/-- The text in front of a query whose rows go into a table. -/
def insertText (dialect : Dialect) (table : Table) (columns : List String) : String :=
  "INSERT INTO " ++ Schema.quotedName dialect table ++
    (if columns = [] then ""
      else " (" ++ ", ".intercalate (columns.map dialect.identifier) ++ ")") ++
    " "

/-- The text in front of a copied query names the table and, if there are any, the columns. -/
theorem spell_insertPieces (dialect : Dialect) (table : Table) (columns : List String) :
    (insertPieces table columns).spell dialect = insertText dialect table columns := by
  have hnames : columns.map (fun name => Pieces.spell dialect [.name name]) =
      columns.map dialect.identifier := by simp [Piece.spell]
  unfold insertPieces insertText
  cases columns with
  | nil => simp [Piece.spell, Schema.spell_tablePieces, String.append_assoc]
  | cons name rest =>
    simp only [List.isEmpty_cons, Bool.false_eq_true, if_false, reduceCtorEq, Pieces.spell_append,
      Pieces.spell_join, List.map_map, Function.comp_def, hnames]
    simp [Piece.spell, Schema.spell_tablePieces, String.append_assoc]

/-- The query that returns its rows to the caller. -/
def returning (query : Query) : Query := { query with target := .caller }

/-- The SELECT that lists rows does not depend on where they go. -/
theorem outer_returning (hcount : query.count = false) : query.returning.outer = query.outer := by
  have hrelation : query.returning.relation = query.relation := by
    cases query
    simp only [returning, relation]
  have hreturning : query.returning.count = false := hcount
  simp only [outer, outerOver, selectOver, hrelation, hcount, hreturning]
  rfl

/-- A copy names the columns that it fills and returns the rows. -/
theorem pieces_eq_ok_iff_of_table {table : Table} {pieces : Pieces} {values values' : List Value}
    (htarget : query.target = .table table) :
    query.pieces values = .ok (pieces, values') ↔
      query.count = false ∧ ∃ columns select, query.copiedColumns = .ok columns ∧
        query.outer values = .ok (select, values') ∧
        insertPieces table columns ++ select.pieces = pieces := by
  simp only [Query.pieces, htarget]
  cases query.count with
  | true => simp
  | false =>
    cases query.copiedColumns with
    | error reason => simp
    | ok columns =>
      simp only [Bool.false_eq_true, if_false, run_seq_eq_ok, run_pure, Except.ok.injEq,
        Prod.mk.injEq, true_and, exists_eq_left', exists_and_left]
      constructor
      · rintro ⟨select, between, hselect, rfl, rfl⟩
        exact ⟨select, hselect, rfl⟩
      · rintro ⟨select, hselect, rfl⟩
        exact ⟨select, values', hselect, rfl, rfl⟩

/-- A statement copies into the columns of a table what another one returns, column by column. -/
structure Copies (dialect : Dialect) (table : Table) (columns : List String) (select : Select)
    (statement returning : Statement) : Prop where
  parameters : statement.parameters = returning.parameters
  text : statement.text = insertText dialect table columns ++ returning.text
  rows : returning.text = select.pieces.spell dialect
  all_iff : columns = [] ↔ select.columns = .all
  /-- Else each named column gets what is returned under its name in the same place. -/
  fills : columns ≠ [] →
    ∃ list, select.columns = .items list ∧ List.Forall₂ Fills columns list
  /-- The server reads it so: there is a star, or there are as many columns with these names. -/
  reads : dialect = .sqlServer → ∃ trees list,
    readGroups (tokens returning.text) = some trees ∧
    columnTrees (outerSelect trees) = some list ∧
    (columns = [] ↔ list = [[.sign "*"]]) ∧
    (columns ≠ [] → List.Forall₂ ReadsAs columns list)

/-- What a listing of rows returns are the items of the query. -/
theorem ensures_outer_listsItems (hcount : query.count = false) :
    Ensures (fun select => ListsItems query.returned select.columns) query.outer := by
  have hcolumns : Ensures (ListsItems query.returned) (query.listing true).selectList :=
    (query.listing true).ensures_selectList_returned
  rw [outer, outerOver_eq]
  refine (ensures_nodeOver true hcolumns (ensures_true query.relation)).mono ?_
  rintro select ⟨-, hrenders⟩
  cases hrenders with
  | listed _ hlists => exact hlists.columns
  | counted hcounts => simp [hcount] at hcounts
  | number hcounts => simp [hcount] at hcounts

/-- Columns with the names of items are filled with what is rendered of these items. -/
theorem forall₂_fills {items : List SelectItem} {rendered : List (Scalar × Option String)}
    (hnames : List.Forall₂ (fun item name => item.outputName? = some name) items columns)
    (hrenders : List.Forall₂ RendersItem items rendered) :
    List.Forall₂ Fills columns rendered := by
  induction hrenders generalizing columns with
  | nil =>
    cases hnames
    exact .nil
  | cons hitem _ ih =>
    cases hnames with
    | cons hname hrest => exact .cons (hitem.fills hname) (ih hrest)

/-- Columns with the names of the returned items are filled with all columns, if there are none of
these names, and else with the items one by one. -/
theorem ListsItems.fills {items : List SelectItem} {list : SelectList}
    (hlists : ListsItems items list)
    (hnames : List.Forall₂ (fun item name => item.outputName? = some name) items columns) :
    columns = [] ∧ list = .all ∨
      columns ≠ [] ∧ ∃ rendered, list = .items rendered ∧ List.Forall₂ Fills columns rendered := by
  cases hlists with
  | all =>
    cases hnames
    exact .inl ⟨rfl, rfl⟩
  | items hne hitems =>
    have hcolumns : columns ≠ [] := by
      rintro rfl
      exact hne (List.forall₂_nil_right_iff.mp hnames)
    exact .inr ⟨hcolumns, _, rfl, forall₂_fills hnames hitems⟩

/-- The server reads returned columns under the names that they fill. -/
theorem exists_columnTrees {select : Select} {statement : Statement} {values : List Value}
    (hstatement : query.statement = .ok statement) (houter : query.outer [] = .ok (select, values))
    (hfills : columns = [] ∧ select.columns = .all ∨
      columns ≠ [] ∧ ∃ rendered, select.columns = .items rendered ∧
        List.Forall₂ Fills columns rendered) :
    ∃ trees list, readGroups (tokens statement.text) = some trees ∧
      columnTrees (outerSelect trees) = some list ∧ (columns = [] ↔ list = [[.sign "*"]]) ∧
      (columns ≠ [] → List.Forall₂ ReadsAs columns list) := by
  obtain ⟨front, other, values', houter', hfront, htrees⟩ := readGroups_statement hstatement
  obtain rfl : select = other := congrArg Prod.fst (Except.ok.inj (houter.symm.trans houter'))
  simp only [htrees, Option.some.injEq, exists_and_left, exists_eq_left', outerSelect_trees hfront]
  rcases hfills with ⟨rfl, hall⟩ | ⟨hcolumns, rendered, hitems, hfills⟩
  · exact ⟨_, select.columnTrees_all hall, by simp, by simp⟩
  · have hne : rendered ≠ [] := by
      rintro rfl
      exact hcolumns (List.forall₂_nil_right_iff.mp hfills)
    have hreads : List.Forall₂ ReadsAs columns (rendered.map itemTrees) := by
      rw [List.forall₂_map_right_iff]
      exact hfills.imp fun _ _ => Fills.readsAs
    refine ⟨_, select.columnTrees_items hitems hne, iff_of_false hcolumns ?_, fun _ => hreads⟩
    intro hstar
    rw [hstar] at hreads
    cases hreads with
    | cons hname _ => exact hname.ne_star rfl

/-- A copy names no columns and copies all, or it fills the columns that it names, one by one, with
what the query returns under these names.  Without the target the query has the same rows. -/
theorem copies_statement {dialect : Dialect} {table : Table} {statement : Statement}
    (htarget : query.target = .table table) (hstatement : query.statement dialect = .ok statement) :
    ∃ returning columns select values,
      query.returning.statement dialect = .ok returning ∧
      query.returning.outer [] = .ok (select, values) ∧
      List.Forall₂ (fun item name => item.outputName? = some name) query.returned columns ∧
      Copies dialect table columns select statement returning := by
  obtain ⟨pieces, values, hpieces, rfl⟩ := statement_eq_ok_iff.mp hstatement
  obtain ⟨hcount, columns, select, hcolumns, houter, rfl⟩ :=
    (pieces_eq_ok_iff_of_table htarget).mp hpieces
  rw [← outer_returning hcount] at houter
  have hnames := copiedColumns_eq_ok_iff.mp hcolumns
  have hlists : ListsItems query.returned select.columns :=
    query.returning.ensures_outer_listsItems hcount [] select values houter
  have hfills := hlists.fills hnames
  have hreturning : query.returning.pieces [] = .ok (select.pieces, values) :=
    run_seq_eq_ok.mpr ⟨select, values, houter, rfl⟩
  have hreturned : query.returning.statement dialect = .ok _ :=
    statement_eq_ok_iff.mpr ⟨_, _, hreturning, rfl⟩
  refine ⟨_, columns, select, values, hreturned, houter, hnames, ?_⟩
  constructor
  case parameters => rfl
  case text => simp [spell_insertPieces]
  case rows => rfl
  case all_iff =>
    rcases hfills with ⟨hnone, hall⟩ | ⟨hcolumns, rendered, hitems, -⟩
    · exact iff_of_true hnone hall
    · exact iff_of_false hcolumns (by simp [hitems])
  case fills =>
    rcases hfills with ⟨hnone, -⟩ | ⟨-, hrendered⟩
    · exact fun hcolumns => absurd hnone hcolumns
    · exact fun _ => hrendered
  case reads =>
    rintro rfl
    exact exists_columnTrees hreturned houter hfills

/-- Users by number and name, put away under other names. -/
def archivedUsers : Query :=
  { source := .table ⟨"users", none⟩
    target := .table ⟨"archive", none⟩
    items := [⟨.field "Id", none⟩, ⟨.upper (.field "Name"), some "Label"⟩]
    filter := some (.compare .less (.field "Id") (.value (.int 10))) }

/-- The column without an alias keeps its name, the expression is filled in under its alias. -/
theorem copies_statement_archivedUsers :
    ∃ statement returning select,
      archivedUsers.statement = .ok statement ∧
      archivedUsers.returning.statement = .ok returning ∧
      Copies .sqlServer ⟨"archive", none⟩ ["Id", "Label"] select statement returning ∧
      statement.text = "INSERT INTO [archive] ([Id], [Label]) " ++
        "SELECT [Id], UPPER([Name]) AS [Label] FROM [users] WHERE [Id] < @p0" ∧
      returning.parameters = [⟨"@p0", .int 10⟩] := by
  have hstatement : archivedUsers.statement = .ok _ := rfl
  obtain ⟨returning, columns, select, values, hreturning, -, hnames, hcopies⟩ :=
    copies_statement rfl hstatement
  obtain rfl : columns = ["Id", "Label"] := by
    have hcolumns : archivedUsers.copiedColumns = .ok columns :=
      copiedColumns_eq_ok_iff.mpr hnames
    exact (Except.ok.inj hcolumns).symm
  exact ⟨_, returning, select, hstatement, hreturning, hcopies, rfl, hcopies.parameters.symm⟩

end Query

end SqlScribe
