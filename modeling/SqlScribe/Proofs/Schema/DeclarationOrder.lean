import Mathlib.Data.List.Perm.Basic
import SqlScribe.Proofs.Schema.Creation

/-!
# The order in which columns are declared

The columns of a table may be declared in any order: the order decides neither whether the table
can be created nor which columns and which primary key it has.  The text lists the clauses of the
columns and the columns of the key in order of declaration, so these move with the columns, while
the name of the constraint stays, since it is made of sorted names.

Main definitions:

- `Schema.KeyConstraint` is the constraint of a primary key, `Schema.KeyConstraint.SameKey` says
  that two of them differ in the order of their columns at most.
- `Schema.creationText` is the text that creates a table.

Main results:

- `Schema.keyName_perm`: the name of a primary key does not depend on the order of its columns.
- `Schema.createTable_statement_perm`: what the order of declaration changes.
-/

namespace SqlScribe.Schema

open Sql (Pieces)

variable {dialect : Dialect} {table : Table} {columns columns' : List Column}

/-! ## Constraints -/

/-- The constraint of a primary key. -/
structure KeyConstraint where
  name : String
  clustered : Bool
  columns : List String
deriving DecidableEq

namespace KeyConstraint

/-- The constraint of the columns of a table; there is none without columns of the primary key. -/
def ofColumns? (table : Table) (columns : List Column) : Option KeyConstraint :=
  match keyColumns columns with
  | [] => none
  | first :: rest =>
    some { name := keyName table (first :: rest)
           clustered := first.key = .clusteredPrimary
           columns := (first :: rest).map (·.name) }

/-- The text of a constraint. -/
def text (dialect : Dialect) (constraint : KeyConstraint) : String :=
  "CONSTRAINT " ++ dialect.identifier constraint.name ++ " PRIMARY KEY" ++
    (if constraint.clustered then " CLUSTERED" else "") ++ " (" ++
    ", ".intercalate (constraint.columns.map fun column => dialect.identifier column ++ " ASC") ++
    ")"

/-- Two constraints differ in the order of their columns at most. -/
structure SameKey (a b : KeyConstraint) : Prop where
  name : a.name = b.name
  clustered : a.clustered = b.clustered
  columns : a.columns.Perm b.columns

/-- The constraint in the text of a table is the one of its columns. -/
theorem map_text_ofColumns? (dialect : Dialect) (table : Table) (columns : List Column) :
    (ofColumns? table columns).map (text dialect) = keyConstraint? dialect table columns := by
  unfold ofColumns? keyConstraint? keyColumns text
  cases columns.filter (·.isKey) <;> simp [Function.comp_def]

end KeyConstraint

/-- Sorted names are in order. -/
theorem pairwise_sortedNames (names : List String) :
    (names.mergeSort fun a b => decide (a ≤ b)).Pairwise (· ≤ ·) := by
  have htrans (a b c : String) (hab : decide (a ≤ b) = true) (hbc : decide (b ≤ c) = true) :
      decide (a ≤ c) = true :=
    decide_eq_true (String.le_trans (of_decide_eq_true hab) (of_decide_eq_true hbc))
  have htotal (a b : String) : (decide (a ≤ b) || decide (b ≤ a)) = true := by
    simpa using String.le_total a b
  exact (List.pairwise_mergeSort htrans htotal names).imp of_decide_eq_true

/-- The name of a primary key does not depend on the order of its columns. -/
theorem keyName_perm {keys keys' : List Column} (hperm : keys.Perm keys') :
    keyName table keys = keyName table keys' := by
  have hsame : ((keys.map (·.name)).mergeSort fun a b => decide (a ≤ b)).Perm
      ((keys'.map (·.name)).mergeSort fun a b => decide (a ≤ b)) :=
    (List.mergeSort_perm _ _).trans ((hperm.map _).trans (List.mergeSort_perm _ _).symm)
  have hsorted := hsame.eq_of_pairwise (fun _ _ _ _ => String.le_antisymm)
    (pairwise_sortedNames _) (pairwise_sortedNames _)
  rw [keyName, keyName, hsorted]

/-- If all columns of a key play the same part in it, the order in which they are declared is that
of the columns of the constraint and nothing else. -/
theorem sameKey_of_perm (hperm : columns.Perm columns')
    (hroles : ∀ a ∈ columns, ∀ b ∈ columns, a.isKey = true → b.isKey = true → a.key = b.key) :
    Option.Rel KeyConstraint.SameKey (KeyConstraint.ofColumns? table columns)
      (KeyConstraint.ofColumns? table columns') := by
  have hkeys : (keyColumns columns).Perm (keyColumns columns') := hperm.filter _
  have hmem : ∀ column ∈ keyColumns columns, column ∈ columns ∧ column.isKey = true :=
    fun _ => List.mem_filter.mp
  unfold KeyConstraint.ofColumns?
  revert hkeys hmem
  cases keyColumns columns with
  | nil =>
    intro hkeys _
    rw [List.nil_perm.mp hkeys]
    exact .none
  | cons first rest =>
    cases keyColumns columns' with
    | nil => exact fun hkeys => absurd hkeys (List.not_perm_cons_nil)
    | cons first' rest' =>
      intro hkeys hmem
      have hfirst := hmem first List.mem_cons_self
      have hfirst' := hmem first' (hkeys.mem_iff.mpr List.mem_cons_self)
      have hkey : first.key = first'.key := hroles _ hfirst.1 _ hfirst'.1 hfirst.2 hfirst'.2
      exact .some ⟨keyName_perm hkeys, by simp [hkey], hkeys.map _⟩

/-! ## Checks -/

/-- Columns that agree with each other do so in any order. -/
theorem consistentColumns_perm (hperm : columns.Perm columns')
    (hconsistent : consistentColumns table columns = .ok ()) :
    consistentColumns table columns' = .ok () := by
  obtain ⟨hnonempty, hnames, hidentities⟩ := consistentColumns_eq_ok_iff.mp hconsistent
  refine consistentColumns_eq_ok_iff.mpr ⟨?_, ?_, ?_⟩
  · rintro rfl
    exact hnonempty hperm.eq_nil
  · exact ((hperm.map _).map _).nodup_iff.mp hnames
  · rwa [← (hperm.filter _).length_eq]

/-! ## Created tables -/

/-- A column is declared by this clause. -/
def IsClause (dialect : Dialect) (column : Column) (clause : String) : Prop :=
  ∃ pieces, column.clause = .ok pieces ∧ pieces.spell dialect = clause

/-- A column has one clause at most. -/
theorem rightUnique_isClause : Relator.RightUnique (IsClause dialect) := by
  rintro column _ _ ⟨pieces, hpieces, rfl⟩ ⟨pieces', hpieces', rfl⟩
  rw [Except.ok.inj (hpieces.symm.trans hpieces')]

/-- The text that creates a table with these clauses and this constraint. -/
def creationText (dialect : Dialect) (table : Table) (clauses : List String)
    (constraint : Option KeyConstraint) : String :=
  "CREATE TABLE " ++ quotedName dialect table ++ " (" ++
    ", ".intercalate (clauses ++ (constraint.map (KeyConstraint.text dialect)).toList) ++ ")"

/-- The text of a created table: its columns play the same part in the primary key if they belong
to it, and each of them has its clause. -/
theorem createTable_statement_text {statement : Statement}
    (hstatement : (SchemaOperation.createTable table columns).statement dialect =
      .ok statement) :
    (∀ a ∈ columns, ∀ b ∈ columns, a.isKey = true → b.isKey = true → a.key = b.key) ∧
      ∃ clauses, List.Forall₂ (IsClause dialect) columns clauses ∧
        statement.text =
          creationText dialect table clauses (KeyConstraint.ofColumns? table columns) := by
  obtain ⟨pieces, hpieces, rfl⟩ := Except.map_eq_ok_iff.mp hstatement
  obtain ⟨-, clauses, key, hclauses, hkey, rfl⟩ := createTable_eq_ok_iff.mp hpieces
  refine ⟨keyClause_isOk_iff.mp ⟨key, hkey⟩, clauses.map (Pieces.spell dialect), ?_, ?_⟩
  · rw [List.forall₂_map_right_iff]
    exact hclauses.imp fun _ clause hclause => ⟨clause, hclause, rfl⟩
  · unfold creationText
    rw [KeyConstraint.map_text_ofColumns?, ← spell_keyClause hkey]
    cases key <;>
    simp [Sql.Pieces.spell_join, Sql.Piece.spell, spell_tablePieces, String.append_assoc]

/-- A table whose columns are declared in another order can be created too. -/
theorem createTable_isOk_of_perm (hperm : columns.Perm columns')
    (hcreated : ∃ statement,
      (SchemaOperation.createTable table columns).statement dialect = .ok statement) :
    ∃ statement,
      (SchemaOperation.createTable table columns').statement dialect = .ok statement := by
  obtain ⟨statement, hstatement⟩ := hcreated
  obtain ⟨pieces, hpieces, -⟩ := Except.map_eq_ok_iff.mp hstatement
  obtain ⟨hconsistent, clauses, key, hclauses, hkey, -⟩ := createTable_eq_ok_iff.mp hpieces
  obtain ⟨clauses', hclauses', -⟩ := List.perm_comp_forall₂ hperm.symm hclauses
  obtain ⟨key', hkey'⟩ : ∃ key', keyClause table columns' = .ok key' := by
    rw [keyClause_isOk_iff]
    simpa only [hperm.mem_iff] using keyClause_isOk_iff.mp ⟨key, hkey⟩
  have hcreated' := createTable_eq_ok_iff.mpr
    ⟨consistentColumns_perm hperm hconsistent, clauses', key', hclauses', hkey', rfl⟩
  exact ⟨_, Except.map_eq_ok_iff.mpr ⟨_, hcreated', rfl⟩⟩

/-- Of the same columns in two orders, the table can be created in both or in none.  If it can, the
clauses of the columns are the same but for their order, and either none of the texts has a
constraint or both have one of the same name, clustered or not, with the same columns but for
their order. -/
theorem createTable_statement_perm (dialect : Dialect) (table : Table)
    (hperm : columns.Perm columns') :
    ((∃ statement, (SchemaOperation.createTable table columns).statement dialect =
        .ok statement) ↔
      ∃ statement, (SchemaOperation.createTable table columns').statement dialect =
        .ok statement) ∧
    ∀ statement statement',
      (SchemaOperation.createTable table columns).statement dialect = .ok statement →
      (SchemaOperation.createTable table columns').statement dialect = .ok statement' →
      ∃ clauses clauses' : List String,
        List.Forall₂ (IsClause dialect) columns clauses ∧
        List.Forall₂ (IsClause dialect) columns' clauses' ∧
        statement.text =
          creationText dialect table clauses (KeyConstraint.ofColumns? table columns) ∧
        statement'.text =
          creationText dialect table clauses' (KeyConstraint.ofColumns? table columns') ∧
        clauses.Perm clauses' ∧
        Option.Rel KeyConstraint.SameKey (KeyConstraint.ofColumns? table columns)
          (KeyConstraint.ofColumns? table columns') := by
  refine ⟨⟨createTable_isOk_of_perm hperm, createTable_isOk_of_perm hperm.symm⟩, ?_⟩
  intro statement statement' hstatement hstatement'
  obtain ⟨hroles, clauses, hclauses, htext⟩ := createTable_statement_text hstatement
  obtain ⟨-, clauses', hclauses', htext'⟩ := createTable_statement_text hstatement'
  exact ⟨clauses, clauses', hclauses, hclauses', htext, htext',
    List.rel_perm_imp rightUnique_isClause hclauses hclauses' hperm, sameKey_of_perm hperm hroles⟩

/-- A table with a key of two columns, declared in one order and in the other. -/
theorem createTable_statement_perm_accounts :
    accountColumns.Perm accountColumns.reverse ∧
    ∃ statement statement' clauses clauses',
      (SchemaOperation.createTable ⟨"t", none⟩ accountColumns).statement = .ok statement ∧
      (SchemaOperation.createTable ⟨"t", none⟩ accountColumns.reverse).statement =
        .ok statement' ∧
      clauses.Perm clauses' ∧
      statement.text = "CREATE TABLE [t] (" ++
        ", ".intercalate (clauses ++ [
          "CONSTRAINT [PK_t_Branch_Id] PRIMARY KEY CLUSTERED ([Id] ASC, [Branch] ASC)"]) ++
        ")" ∧
      statement'.text = "CREATE TABLE [t] (" ++
        ", ".intercalate (clauses' ++ [
          "CONSTRAINT [PK_t_Branch_Id] PRIMARY KEY CLUSTERED ([Branch] ASC, [Id] ASC)"]) ++
        ")" := by
  have hperm : accountColumns.Perm accountColumns.reverse := accountColumns.reverse_perm.symm
  obtain ⟨hboth, hclauses⟩ := createTable_statement_perm .sqlServer ⟨"t", none⟩ hperm
  obtain ⟨statement, hcreated⟩ : ∃ statement,
      (SchemaOperation.createTable ⟨"t", none⟩ accountColumns).statement = .ok statement :=
    ⟨_, rfl⟩
  obtain ⟨statement', hcreated'⟩ := hboth.mp ⟨statement, hcreated⟩
  obtain ⟨clauses, clauses', -, -, htext, htext', hsame, -⟩ := hclauses _ _ hcreated hcreated'
  have hname : keyName ⟨"t", none⟩ accountKeys = "PK_t_Branch_Id" := by
    have hsorted : ["Id", "Branch"].mergeSort (fun a b => decide (a ≤ b)) = ["Branch", "Id"] := by
      simp [List.mergeSort, List.MergeSort.Internal.splitInTwo]
    change "PK_t_" ++ "_".intercalate (["Id", "Branch"].mergeSort _) = _
    rw [hsorted]
    rfl
  have hname' : keyName ⟨"t", none⟩ accountKeys.reverse = "PK_t_Branch_Id" :=
    (keyName_perm accountKeys.reverse_perm).trans hname
  refine ⟨hperm, statement, statement', clauses, clauses', hcreated, hcreated', hsame, ?_, ?_⟩
  · rw [htext]
    have hconstraint : KeyConstraint.ofColumns? ⟨"t", none⟩ accountColumns =
        some ⟨keyName ⟨"t", none⟩ accountKeys, true, ["Id", "Branch"]⟩ := rfl
    rw [hconstraint, hname]
    rfl
  · rw [htext']
    have hconstraint : KeyConstraint.ofColumns? ⟨"t", none⟩ accountColumns.reverse =
        some ⟨keyName ⟨"t", none⟩ accountKeys.reverse, true, ["Branch", "Id"]⟩ := rfl
    rw [hconstraint, hname']
    rfl

end SqlScribe.Schema
