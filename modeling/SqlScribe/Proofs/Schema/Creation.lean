import SqlScribe.Proofs.Schema.Clauses
import SqlScribe.Schema.Operation

/-!
# Tables that can be created

The checks behind the creation of a table are made in several passes: over all columns, for
each column by itself, and over the columns of the primary key.  Together they ask for nothing
but what is said here of the columns, and the text that creates the table then has one entry for
each column, in order, which is the one that adds the column to a table.

Main definitions:

- `Column.IsDeclarable` says what must hold of a column by itself, `Schema.Creatable` what must
  hold of the columns of a table.
- `Schema.keyConstraint?` is the text of the constraint of a primary key.

Main results:

- `Column.clause_isOk_iff` and `Schema.keyClause_isOk_iff`: the checks of a column and of the
  columns of the primary key.
- `Schema.createTable_statement_iff`: which tables can be created, and by which text.
-/

namespace SqlScribe

open Sql (Pieces fixed)

/-! ## Text with separators -/

/-- Sequences are spelled with the separator between each two. -/
theorem Sql.Pieces.spell_join (dialect : Dialect) (separator : String) (texts : List Pieces) :
    (Pieces.join separator texts).spell dialect =
      separator.intercalate (texts.map (Pieces.spell dialect)) := by
  induction texts with
  | nil => rfl
  | cons text rest ih =>
    cases rest with
    | nil => simp [Pieces.join]
    | cons next more =>
      simp only [Pieces.join, Pieces.spell_append, Pieces.spell_cons, Sql.Piece.spell, ih,
        List.map_cons, String.intercalate_cons_cons, String.append_assoc]

/-! ## Columns by themselves -/

namespace Column

variable {column : Column} {type : SqlType}

/-- The types that have an automatic default: identifiers and dates. -/
def automaticTypes : List SqlType :=
  [.uniqueIdentifier, .date, .dateTime, .dateTime2, .dateTimeOffset, .smallDateTime]

/-- What must hold of a column so that it can be declared.  A computed column is no identity and
has no default.  The facets of a stored column fit its type; an identity is a whole number
without a default; a constant default is no number that is not finite; and an automatic default
is that of an identifier or of a date. -/
def IsDeclarable (column : Column) : Prop :=
  match column.kind with
  | .computed _ _ => column.identity = false ∧ column.default = none
  | .stored type =>
    (∃ physical, PhysicalType.resolve type column.facets = .ok physical) ∧
    (column.identity = true → type.stored.isInteger = true ∧ column.default = none) ∧
    (∀ number, column.default = some (.value (.float number)) → number.isFinite = true) ∧
    (column.default = some .auto → type.stored ∈ automaticTypes)

theorem identityClause_isOk_iff :
    (∃ pieces, column.identityClause type = .ok pieces) ↔
      (column.identity = true → type.isInteger = true ∧ column.default = none) := by
  unfold identityClause
  cases column.identity <;> cases type.isInteger <;> cases column.default <;> simp

/-- A generator is found for identifiers and for dates. -/
theorem autoGenerator_isOk_iff :
    (∃ generator, column.autoGenerator type = .ok generator) ↔ type ∈ automaticTypes := by
  unfold autoGenerator
  cases type <;> simp [SqlType.isTemporal, automaticTypes]

theorem defaultClause_isOk_iff :
    (∃ pieces, column.defaultClause type = .ok pieces) ↔
      (∀ number, column.default = some (.value (.float number)) → number.isFinite = true) ∧
      (column.default = some .auto → type ∈ automaticTypes) := by
  unfold defaultClause
  cases column.default with
  | none => simp
  | some default =>
    simp only [Except.map_eq_ok_iff]
    cases default with
    | generated generator => simp [defaultPieces]
    | expression text => simp [defaultPieces]
    | value constant =>
      cases constant with
      | float number =>
        cases hfinite : number.isFinite <;> simp [defaultPieces, Value.hasLiteral, hfinite]
      | _ => simp [defaultPieces, Value.hasLiteral]
    | auto =>
      have hgenerator : (∃ generator, column.autoGenerator type = .ok generator) ↔
          type ∈ automaticTypes := autoGenerator_isOk_iff
      rw [← hgenerator]
      simp [defaultPieces, Except.map_eq_ok_iff]

/-- A column has a clause exactly if it is declarable. -/
theorem clause_isOk_iff : (∃ pieces, column.clause = .ok pieces) ↔ column.IsDeclarable := by
  unfold IsDeclarable
  cases hkind : column.kind with
  | computed expression persisted =>
    simp [clause_eq_ok_iff_of_computed hkind]
  | stored type =>
    dsimp only
    rw [← identityClause_isOk_iff, ← defaultClause_isOk_iff]
    simp only [clause_eq_ok_iff_of_stored hkind]
    constructor
    · rintro ⟨_, physical, identity, default, hphysical, hidentity, hdefault, -⟩
      exact ⟨⟨physical, hphysical⟩, ⟨identity, hidentity⟩, ⟨default, hdefault⟩⟩
    · rintro ⟨⟨physical, hphysical⟩, ⟨identity, hidentity⟩, ⟨default, hdefault⟩⟩
      exact ⟨_, physical, identity, default, hphysical, hidentity, hdefault, rfl⟩

end Column

/-! ## Columns of a table -/

namespace Schema

variable {table : Table} {columns : List Column}

/-- What must hold of the columns of a table so that it can be created. -/
structure Creatable (columns : List Column) : Prop where
  nonempty : columns ≠ []
  /-- No two names have the same lower-case form. -/
  names : (columns.map fun column => Text.lowercase column.name).Nodup
  identities : (columns.filter (·.identity)).length ≤ 1
  declarable : ∀ column ∈ columns, column.IsDeclarable
  keyRoles : ∀ a ∈ columns, ∀ b ∈ columns, a.isKey = true → b.isKey = true → a.key = b.key

/-- The text of the constraint of the primary key, which names its columns in order of
declaration; there is none without such columns. -/
def keyConstraint? (dialect : Dialect) (table : Table) (columns : List Column) : Option String :=
  match columns.filter (·.isKey) with
  | [] => none
  | first :: rest =>
    some ("CONSTRAINT " ++ dialect.identifier (keyName table (first :: rest)) ++ " PRIMARY KEY" ++
      (if first.key = .clusteredPrimary then " CLUSTERED" else "") ++ " (" ++
      ", ".intercalate ((first :: rest).map fun key => dialect.identifier key.name ++ " ASC") ++
      ")")

/-- The columns of a primary key are fit for a constraint exactly if they play the same part. -/
theorem keyClause_isOk_iff :
    (∃ key, keyClause table columns = .ok key) ↔
      ∀ a ∈ columns, ∀ b ∈ columns, a.isKey = true → b.isKey = true → a.key = b.key := by
  have hmem (column : Column) :
      column ∈ keyColumns columns ↔ column ∈ columns ∧ column.isKey = true := List.mem_filter
  have hkeys : (∀ a ∈ columns, ∀ b ∈ columns, a.isKey = true → b.isKey = true → a.key = b.key) ↔
      ∀ a ∈ keyColumns columns, ∀ b ∈ keyColumns columns, a.key = b.key := by
    simp only [hmem]
    exact ⟨fun h a ha b hb => h a ha.1 b hb.1 ha.2 hb.2,
      fun h a ha b hb hkey hkey' => h a ⟨ha, hkey⟩ b ⟨hb, hkey'⟩⟩
  rw [hkeys, keyClause]
  cases keyColumns columns with
  | nil => simp
  | cons first rest =>
    dsimp only
    split
    · rename_i hmixed
      obtain ⟨other, hother, hkey⟩ := List.any_eq_true.mp hmixed
      simp only [reduceCtorEq, exists_false, false_iff]
      intro hsame
      exact of_decide_eq_true hkey
        (hsame other (List.mem_cons_of_mem first hother) first List.mem_cons_self)
    · rename_i hsame
      have hfirst : ∀ column ∈ first :: rest, column.key = first.key := by
        simpa using hsame
      simp only [Except.ok.injEq, exists_eq', true_iff]
      exact fun a ha b hb => (hfirst a ha).trans (hfirst b hb).symm

/-- The constraint is spelled as said. -/
theorem spell_keyClause {dialect : Dialect} {key : Option Pieces}
    (hkey : keyClause table columns = .ok key) :
    key.map (Pieces.spell dialect) = keyConstraint? dialect table columns := by
  unfold keyClause keyColumns at hkey
  unfold keyConstraint?
  generalize columns.filter (·.isKey) = keys at hkey ⊢
  cases keys with
  | nil =>
    cases hkey
    rfl
  | cons first rest =>
    dsimp only at hkey ⊢
    split at hkey
    · cases hkey
    · cases hkey
      have hopening : (if first.key = .clusteredPrimary then " CLUSTERED (" else " (") =
          (if first.key = .clusteredPrimary then " CLUSTERED" else "") ++ " (" := by
        split <;> rfl
      simp [hopening, Sql.Pieces.spell_join, Sql.Piece.spell, String.append_assoc,
        Function.comp_def]

/-! ## Created tables -/

/-- The quoted name of a table. -/
def quotedName (dialect : Dialect) (table : Table) : String :=
  match table.schema with
  | some schema => dialect.identifier schema ++ "." ++ dialect.identifier table.name
  | none => dialect.identifier table.name

theorem spell_tablePieces (dialect : Dialect) (table : Table) :
    (Sql.tablePieces table).spell dialect = quotedName dialect table := by
  unfold Sql.tablePieces quotedName
  cases table.schema <;> simp [Sql.Piece.spell, String.append_assoc]

/-- The clause of a column is what its addition to any table has behind the name of the table. -/
theorem addColumn_statement_of_clause {dialect : Dialect} {column : Column} {clause : Pieces}
    (hclause : column.clause = .ok clause) (table : Table) :
    ∃ added, (SchemaOperation.addColumn table column).statement dialect = .ok added ∧
      added.text =
        "ALTER TABLE " ++ quotedName dialect table ++ " ADD " ++ clause.spell dialect := by
  have hadded : Schema.addColumn table column = .ok _ :=
    addColumn_eq_ok_iff.mpr ⟨clause, hclause, rfl⟩
  refine ⟨_, Except.map_eq_ok_iff.mpr ⟨_, hadded, rfl⟩, ?_⟩
  simp [Sql.Piece.spell, spell_tablePieces, String.append_assoc]

/-- Items all have a partner exactly if each of them has one. -/
theorem exists_forall₂_iff {α β : Type} {relation : α → β → Prop} {items : List α} :
    (∃ results, List.Forall₂ relation items results) ↔
      ∀ item ∈ items, ∃ result, relation item result := by
  induction items with
  | nil => simp
  | cons item rest ih =>
    rw [List.forall_mem_cons, ← ih]
    constructor
    · rintro ⟨_, _ | ⟨hitem, hrest⟩⟩
      exact ⟨⟨_, hitem⟩, ⟨_, hrest⟩⟩
    · rintro ⟨⟨result, hitem⟩, ⟨results, hrest⟩⟩
      exact ⟨result :: results, .cons hitem hrest⟩

/-- A table can be created exactly if its columns are as said.  The text then has, between the
parentheses behind the quoted name of the table, one entry for each column, in order of
declaration, which is the one that adds the column to any table; and, if columns belong to the
primary key, the constraint that names these columns in order of declaration. -/
theorem createTable_statement_iff (dialect : Dialect) (table : Table) (columns : List Column) :
    ((∃ statement, (SchemaOperation.createTable table columns).statement dialect =
        .ok statement) ↔ Creatable columns) ∧
    ∀ statement, (SchemaOperation.createTable table columns).statement dialect = .ok statement →
      ∃ clauses : List String,
        List.Forall₂ (fun column clause => ∀ other, ∃ added,
          (SchemaOperation.addColumn other column).statement dialect = .ok added ∧
          added.text = "ALTER TABLE " ++ quotedName dialect other ++ " ADD " ++ clause)
          columns clauses ∧
        statement =
          { text := "CREATE TABLE " ++ quotedName dialect table ++ " (" ++
              ", ".intercalate (clauses ++ (keyConstraint? dialect table columns).toList) ++ ")"
            result := .none } := by
  constructor
  · constructor
    · rintro ⟨statement, hstatement⟩
      obtain ⟨pieces, hpieces, -⟩ := Except.map_eq_ok_iff.mp hstatement
      obtain ⟨hconsistent, clauses, key, hclauses, hkey, -⟩ := createTable_eq_ok_iff.mp hpieces
      obtain ⟨hnonempty, hnames, hidentities⟩ := consistentColumns_eq_ok_iff.mp hconsistent
      refine ⟨hnonempty, by simpa [Function.comp_def] using hnames, hidentities, ?_,
        keyClause_isOk_iff.mp ⟨key, hkey⟩⟩
      intro column hcolumn
      exact Column.clause_isOk_iff.mp (exists_forall₂_iff.mp ⟨clauses, hclauses⟩ column hcolumn)
    · intro hcreatable
      have hconsistent : consistentColumns table columns = .ok () :=
        consistentColumns_eq_ok_iff.mpr ⟨hcreatable.nonempty,
          by simpa [Function.comp_def] using hcreatable.names, hcreatable.identities⟩
      obtain ⟨clauses, hclauses⟩ := exists_forall₂_iff.mpr fun column hcolumn =>
        Column.clause_isOk_iff.mpr (hcreatable.declarable column hcolumn)
      obtain ⟨key, hkey⟩ := keyClause_isOk_iff.mpr hcreatable.keyRoles
      have hcreated :=
        createTable_eq_ok_iff.mpr ⟨hconsistent, clauses, key, hclauses, hkey, rfl⟩
      exact ⟨_, Except.map_eq_ok_iff.mpr ⟨_, hcreated, rfl⟩⟩
  · intro statement hstatement
    obtain ⟨pieces, hpieces, rfl⟩ := Except.map_eq_ok_iff.mp hstatement
    obtain ⟨-, clauses, key, hclauses, hkey, rfl⟩ := createTable_eq_ok_iff.mp hpieces
    refine ⟨clauses.map (Pieces.spell dialect), ?_, ?_⟩
    · rw [List.forall₂_map_right_iff]
      exact hclauses.imp fun _ _ hclause other => addColumn_statement_of_clause hclause other
    · rw [← spell_keyClause hkey]
      cases key <;>
      simp [Sql.Pieces.spell_join, Sql.Piece.spell, spell_tablePieces, String.append_assoc,
        SchemaOperation.resultShape]

/-- The columns of a primary key. -/
def accountKeys : List Column :=
  [{ Column.stored "Id" (.host .int32) with identity := true, key := .clusteredPrimary },
   { Column.stored "Branch" (.sql .uniqueIdentifier) with
      key := .clusteredPrimary, default := some .auto }]

/-- Columns of every kind, with a primary key. -/
def accountColumns : List Column :=
  accountKeys ++
    [{ Column.stored "Owner" (.sql .nVarChar) with length := some 50, nullable := true },
     Column.computed "Label" "UPPER([Owner])"]

/-- A table with such columns can be created, with one entry for each and a constraint. -/
theorem createTable_statement_iff_accounts :
    Creatable accountColumns ∧
    ∃ statement clauses,
      (SchemaOperation.createTable ⟨"t", none⟩ accountColumns).statement = .ok statement ∧
      clauses.length = 4 ∧
      statement.text = "CREATE TABLE [t] (" ++
        ", ".intercalate (clauses ++ [
          "CONSTRAINT [PK_t_Branch_Id] PRIMARY KEY CLUSTERED ([Id] ASC, [Branch] ASC)"]) ++
        ")" := by
  obtain ⟨statement, hcreated⟩ : ∃ statement,
      (SchemaOperation.createTable ⟨"t", none⟩ accountColumns).statement = .ok statement :=
    ⟨_, rfl⟩
  obtain ⟨hcreatable, htext⟩ :=
    createTable_statement_iff .sqlServer ⟨"t", none⟩ accountColumns
  obtain ⟨clauses, hclauses, rfl⟩ := htext statement hcreated
  have hsorted : ["Id", "Branch"].mergeSort (fun a b => decide (a ≤ b)) = ["Branch", "Id"] := by
    simp [List.mergeSort, List.MergeSort.Internal.splitInTwo]
  have hkeyName : keyName ⟨"t", none⟩ accountKeys = "PK_t_Branch_Id" := by
    change "PK_t_" ++ "_".intercalate (["Id", "Branch"].mergeSort _) = _
    rw [hsorted]
    rfl
  have hconstraint : keyConstraint? .sqlServer ⟨"t", none⟩ accountColumns =
      some ("CONSTRAINT " ++ Dialect.sqlServer.identifier (keyName ⟨"t", none⟩ accountKeys) ++
        " PRIMARY KEY" ++ " CLUSTERED" ++ " (" ++ "[Id] ASC, [Branch] ASC" ++ ")") := rfl
  have hname : quotedName .sqlServer ⟨"t", none⟩ = "[t]" := by decide
  refine ⟨hcreatable.mp ⟨_, hcreated⟩, _, clauses, hcreated, hclauses.length_eq.symm, ?_⟩
  rw [hconstraint, hkeyName, hname]
  rfl

end Schema

end SqlScribe
