import SqlScribe.Proofs.Schema.NameFrames
import SqlScribe.Schema.Definition

/-!
# What names and texts can do to definitions

The definition of a table, a column or an index says names as quoted identifiers, some of them
made of other names, and text defaults as text literals.  With the same shape of definition, all
names and texts give the same tokens around them.

Main definitions:

- `Column.erased` is a column without its name and the text of its default, `Index.erased` an
  index without names.
- `Column.quotes` and `Schema.keyQuotes` are the quoted tokens of a column and of a primary key.

Main results:

- `Schema.uniform_addIndex`: definitions of alike indexes have one frame.
- `Column.uniform_clause`: so have the clauses of alike columns, unless an expression is copied.
- `Schema.uniform_createTable` and `Schema.uniform_addColumn`: so have the definitions made of
  these clauses.
-/

namespace SqlScribe

open Sql (Pieces Piece Token fixed)
open Sql.Pieces (Framed Tidy Uniform)

/-! ## Without names and texts -/

namespace Default

/-- A default without its text. -/
def erased : Default → Default
  | .value (.text _) => .value (.text "")
  | default => default

/-- The text of a default that is one. -/
def quotes : Default → List Token
  | .value (.text text) => [.literal true text]
  | _ => []

end Default

namespace Column

/-- A column without its name and the text of its default. -/
def erased (column : Column) : Column :=
  { column with name := "", default := column.default.map Default.erased }

/-- The name of a column and the text of its default. -/
def quotes (column : Column) : List Token :=
  .name column.name :: column.default.toList.flatMap Default.quotes

end Column

/-- An index column without its name. -/
def IndexKey.erased (key : IndexKey) : IndexKey := { key with name := "" }

/-- An index without its names. -/
def Index.erased (index : Index) : Index :=
  { index with name := index.name.map fun _ => "", keys := index.keys.map IndexKey.erased }

/-- The name of a primary key and those of its columns. -/
def Schema.keyQuotes (table : Table) (columns : List Column) : List Token :=
  match Schema.keyColumns columns with
  | [] => []
  | keys => .name (Schema.keyName table keys) :: keys.map fun key => .name key.name

namespace Schema

/-! ## Indexes -/

/-- The text of an index column says its direction behind its name. -/
theorem uniform_indexKeyPieces (key : IndexKey) :
    Uniform false (fun other : IndexKey => other.erased = key.erased)
      (fun other => [.name other.name]) indexKeyPieces := by
  have hdirection : Pieces.trailsWhole (" " ++ key.direction.sql) = true := by
    cases key.direction <;> decide
  refine (Uniform.behind _ hdirection (.name IndexKey.name)).congr (fun _ _ => rfl) ?_
  rintro ⟨name, direction⟩ halike
  obtain ⟨⟩ : direction = key.direction := congrArg IndexKey.direction halike
  rfl

theorem tidy_indexOpening (index : Index) :
    Tidy false (fixed "CREATE " ++ (if index.unique then fixed "UNIQUE " else []) ++
      fixed (if index.clustered then "CLUSTERED" else "NONCLUSTERED")) := by
  have hclustered : Tidy false
      [.fixed (if index.clustered then "CLUSTERED" else "NONCLUSTERED")] :=
    .single (Piece.whole_of_isWhole (by cases index.clustered <;> decide))
  cases index.unique with
  | false => exact hclustered.lead "CREATE " (by decide)
  | true => exact (hclustered.lead "UNIQUE " (by decide)).lead "CREATE " (by decide)

/-- Whether a table and its index differ from others in names only. -/
def AlikeIndexed (table : Table) (index : Index) (indexed : Table × Index) : Prop :=
  indexed.1.erased = table.erased ∧ indexed.2.erased = index.erased

/-- The definition of an index says its name, the one it has or the one made for it, its table and
its columns. -/
theorem uniform_addIndex (table : Table) (index : Index) :
    Uniform false
      (fun added : (Table × Index) × Pieces =>
        added.1.1.erased = table.erased ∧ added.1.2.erased = index.erased ∧
          addIndex added.1.1 added.1.2 = .ok added.2)
      (fun added => [.name (added.1.2.nameFor added.1.1.name)] ++
        (added.1.1.nameQuotes ++ added.1.2.keys.map fun key => .name key.name))
      Prod.snd := by
  have hname : Uniform false (AlikeIndexed table index) _ _ :=
    .name fun indexed => indexed.2.nameFor indexed.1.name
  have htable : Uniform false (AlikeIndexed table index) _ _ :=
    (uniform_tablePieces table).on Prod.fst fun _ h => h.1
  have hkeys : Uniform false (AlikeIndexed table index) _ _ :=
    (Uniform.join_of_shape ", " (by decide) index.keys uniform_indexKeyPieces).on
      (fun indexed => indexed.2.keys) fun indexed h =>
        show indexed.2.keys.map IndexKey.erased = _ from congrArg Index.keys h.2
  have hplace := htable.append (.joint " (" (by decide) (hkeys.behind ")" (by decide)))
  refine ((Uniform.own (tidy_indexOpening index)).append (.joint " INDEX " (by decide)
    (hname.append (.joint " ON " (by decide) hplace)))).along ?_
  rintro ⟨⟨other, otherIndex⟩, pieces⟩
    ⟨htable, hindex : otherIndex.erased = index.erased,
      hadded : addIndex other otherIndex = .ok pieces⟩
  have hunique : otherIndex.unique = index.unique :=
    show otherIndex.erased.unique = index.erased.unique by rw [hindex]
  have hclustered : otherIndex.clustered = index.clustered :=
    show otherIndex.erased.clustered = index.erased.clustered by rw [hindex]
  unfold addIndex at hadded
  split at hadded
  · cases hadded
  · cases hadded
    refine ⟨(other, otherIndex), ⟨htable, hindex⟩, ?_, ?_⟩
    · simp [List.map_eq_flatMap]
    · simp [hunique, hclustered]

end Schema

/-! ## Columns -/

namespace Column

/-- The text that a column has as its default. -/
def defaultText (column : Column) : String :=
  match column.default with
  | some (.value (.text text)) => text
  | _ => ""

variable {column other : Column} {type : SqlType} {pieces : Pieces}

/-- What does not depend on names and texts is the same for columns that are alike. -/
theorem eq_of_alike {β : Type} (part : Column → β)
    (hpart : ∀ column : Column, part column.erased = part column)
    (halike : other.erased = column.erased) : part other = part column := by
  rw [← hpart other, halike, hpart]

/-- Defaults that differ in a text only are both texts. -/
theorem default_eq_of_text {text : String} (halike : other.erased = column.erased)
    (hdefault : column.default = some (.value (.text text))) :
    other.default = some (.value (.text other.defaultText)) := by
  have hdefaults : other.default.map Default.erased = column.default.map Default.erased :=
    congrArg Column.default halike
  rw [hdefault] at hdefaults
  obtain ⟨default, hother, herased⟩ := Option.map_eq_some_iff.mp hdefaults
  unfold Default.erased at herased
  split at herased
  · simp [defaultText, hother]
  · rename_i hnoText
    exact absurd herased (hnoText "")

/-- Defaults that are no texts are alike only if they are equal. -/
theorem default_eq_of_noText (halike : other.erased = column.erased)
    (hnoText : ∀ text, column.default ≠ some (.value (.text text))) :
    other.default = column.default := by
  have hdefaults : other.default.map Default.erased = column.default.map Default.erased :=
    congrArg Column.default halike
  cases hcolumn : column.default with
  | none => simpa [hcolumn] using hdefaults
  | some default =>
    have herased : default.erased = default := by
      unfold Default.erased
      split
      · exact absurd hcolumn (hnoText _)
      · rfl
    rw [hcolumn, Option.map_some, herased] at hdefaults
    obtain ⟨otherDefault, hother, hotherErased⟩ := Option.map_eq_some_iff.mp hdefaults
    unfold Default.erased at hotherErased
    split at hotherErased
    · exact absurd (hotherErased ▸ hcolumn) (hnoText _)
    · rw [hother, hotherErased]

theorem tidy_defaultClause (hwritten : column.copiesText = false)
    (hclause : column.defaultClause type = .ok pieces) : Tidy true pieces :=
  (keyless_defaultClause hwritten hclause).mono fun _ => Piece.whole_of_keyless

/-- The generator of a default depends on nothing but the type and whether its column is a key. -/
theorem autoGenerator_of_key_eq {generator : Generator} (hkey : other.key = column.key)
    (hgenerator : other.autoGenerator type = .ok generator) :
    column.autoGenerator type = .ok generator := by
  unfold autoGenerator isKey at hgenerator ⊢
  rw [hkey] at hgenerator
  split_ifs at hgenerator ⊢
  all_goals exact hgenerator

/-- Equal defaults of columns that are alike are written alike. -/
theorem defaultClause_of_alike (halike : other.erased = column.erased)
    (hdefault : other.default = column.default)
    (hclause : other.defaultClause type = .ok pieces) :
    column.defaultClause type = .ok pieces := by
  unfold defaultClause at hclause ⊢
  rw [hdefault] at hclause
  generalize column.default = declared at hclause ⊢
  cases declared with
  | none => exact hclause
  | some default =>
    obtain ⟨text, htext, rfl⟩ := Except.map_eq_ok_iff.mp hclause
    refine Except.map_eq_ok_iff.mpr ⟨text, ?_, rfl⟩
    cases default with
    | value value =>
      simp only [defaultPieces] at htext ⊢
      split_ifs at htext ⊢
      exact htext
    | generated generator => exact htext
    | expression text => exact htext
    | auto =>
      obtain ⟨generator, hgenerator, rfl⟩ := Except.map_eq_ok_iff.mp htext
      have hkey : other.key = column.key := eq_of_alike _ (fun _ => rfl) halike
      exact Except.map_eq_ok_iff.mpr
        ⟨generator, autoGenerator_of_key_eq hkey hgenerator, rfl⟩

/-- The clause of a text default has a gap for the text. -/
theorem uniform_defaultClause_of_text {text : String}
    (hdefault : column.default = some (.value (.text text))) (type : SqlType) :
    Uniform true
      (fun declared : Column × Pieces => declared.1.erased = column.erased ∧
        declared.1.defaultClause type = .ok declared.2)
      (fun declared => declared.1.default.toList.flatMap Default.quotes) Prod.snd := by
  refine (Uniform.joint " DEFAULT " (by decide)
    (.literal true fun declared => declared.1.defaultText)).congr ?_ ?_
  · rintro ⟨other, pieces⟩ ⟨halike : other.erased = column.erased, -⟩
    simp [default_eq_of_text halike hdefault, Default.quotes]
  · rintro ⟨other, pieces⟩ ⟨halike : other.erased = column.erased,
      hclause : other.defaultClause type = .ok pieces⟩
    simp only [defaultClause, default_eq_of_text halike hdefault] at hclause
    cases hclause
    rfl

theorem quotes_default_of_noText
    (hnoText : ∀ text, column.default ≠ some (.value (.text text))) :
    column.default.toList.flatMap Default.quotes = [] := by
  cases hdefault : column.default with
  | none => rfl
  | some default =>
    simp only [Option.toList_some, List.flatMap_cons, List.flatMap_nil, List.append_nil]
    unfold Default.quotes
    split
    · exact absurd hdefault (hnoText _)
    · rfl

/-- The clause of any other default is the same for all columns that are alike. -/
theorem uniform_defaultClause_of_noText (hwritten : column.copiesText = false)
    (hnoText : ∀ text, column.default ≠ some (.value (.text text))) (type : SqlType) :
    Uniform true
      (fun declared : Column × Pieces => declared.1.erased = column.erased ∧
        declared.1.defaultClause type = .ok declared.2)
      (fun declared => declared.1.default.toList.flatMap Default.quotes) Prod.snd := by
  have hsame {declared : Column × Pieces} (halike : declared.1.erased = column.erased)
      (hdeclared : declared.1.defaultClause type = .ok declared.2) :
      column.defaultClause type = .ok declared.2 :=
    defaultClause_of_alike halike (default_eq_of_noText halike hnoText) hdeclared
  cases hclause : column.defaultClause type with
  | error reason =>
    refine .of_empty fun declared ⟨halike, hdeclared⟩ => ?_
    have hother := hsame halike hdeclared
    simp [hclause] at hother
  | ok shared =>
    refine (Uniform.own (tidy_defaultClause hwritten hclause)).congr ?_ ?_
    · rintro declared ⟨halike, -⟩
      rw [default_eq_of_noText halike hnoText]
      exact quotes_default_of_noText hnoText
    · rintro declared ⟨halike, hdeclared⟩
      exact Except.ok.inj ((hsame halike hdeclared).symm.trans hclause)

/-- The clause of a default has a gap for its text. -/
theorem uniform_defaultClause (hwritten : column.copiesText = false) (type : SqlType) :
    Uniform true
      (fun declared : Column × Pieces => declared.1.erased = column.erased ∧
        declared.1.defaultClause type = .ok declared.2)
      (fun declared => declared.1.default.toList.flatMap Default.quotes) Prod.snd := by
  by_cases htext : ∃ text, column.default = some (.value (.text text))
  · obtain ⟨text, hdefault⟩ := htext
    exact uniform_defaultClause_of_text hdefault type
  · exact uniform_defaultClause_of_noText hwritten (not_exists.mp htext) type

theorem identityClause_eq_of_ok (hclause : column.identityClause type = .ok pieces) :
    pieces = if column.identity then fixed " IDENTITY(1,1)" else [] := by
  unfold identityClause at hclause
  split_ifs at hclause <;> cases hclause <;> simp_all

theorem exists_stored_of_written (hwritten : column.copiesText = false) :
    ∃ type, column.kind = .stored type := by
  cases hkind : column.kind with
  | stored type => exact ⟨type, rfl⟩
  | computed expression persisted =>
    simp [copiesText, column.isComputed_iff.mpr ⟨expression, persisted, hkind⟩] at hwritten

/-- What the clause of a stored column has between the name and the default. -/
def typePieces (column : Column) (physical : PhysicalType) : Pieces :=
  [.fixed " ", .fixed physical.text] ++
    (if column.identity then fixed " IDENTITY(1,1)" else []) ++
    fixed (if column.acceptsNull then " NULL" else " NOT NULL")

theorem tidy_typePieces (column : Column) (physical : PhysicalType) :
    Tidy true (column.typePieces physical) := by
  have htype : Tidy true [.fixed " ", .fixed physical.text] :=
    .joint " " (by decide) (.single (Piece.whole_of_keyless (Sql.keyless_typeText physical)))
  have hidentity : Tidy true (if column.identity then fixed " IDENTITY(1,1)" else []) := by
    cases column.identity
    · exact Pieces.tidy_nil
    · exact .trail _ (by decide) Pieces.tidy_nil
  have hnull : Tidy true (fixed (if column.acceptsNull then " NULL" else " NOT NULL")) := by
    cases column.acceptsNull <;> exact .trail _ (by decide) Pieces.tidy_nil
  exact (htype.append hidentity).append hnull

/-- A clause says the name of its column and, if its default is a text, that text. -/
theorem uniform_clause (hwritten : column.copiesText = false) :
    Uniform false
      (fun declared : Column × Pieces => declared.1.clause = .ok declared.2 ∧
        declared.1.erased = column.erased)
      (fun declared => declared.1.quotes) Prod.snd := by
  obtain ⟨type, hkind⟩ := exists_stored_of_written hwritten
  have hshape {other : Column} (halike : other.erased = column.erased) :
      other.kind = .stored type ∧ other.facets = column.facets ∧
        other.typePieces = column.typePieces :=
    ⟨hkind ▸ eq_of_alike _ (fun _ => rfl) halike, eq_of_alike _ (fun _ => rfl) halike,
      eq_of_alike _ (fun _ => rfl) halike⟩
  cases hresolve : PhysicalType.resolve type column.facets with
  | error reason =>
    refine .of_empty fun declared ⟨hclause, halike⟩ => ?_
    obtain ⟨hstored, hfacets, -⟩ := hshape halike
    obtain ⟨physical, _, _, hphysical, -⟩ := (clause_eq_ok_iff_of_stored hstored).mp hclause
    simp [hfacets, hresolve] at hphysical
  | ok physical =>
    obtain ⟨front, hfront⟩ : Uniform false (fun _ => True) _ _ :=
      (Uniform.name Column.name).append (.own (column.tidy_typePieces physical))
    obtain ⟨frame, hframe⟩ := uniform_defaultClause hwritten type.stored
    refine ⟨front ++ frame, ?_⟩
    rintro ⟨other, pieces⟩ ⟨hclause : other.clause = .ok pieces,
      halike : other.erased = column.erased⟩
    obtain ⟨hstored, hfacets, htypes⟩ := hshape halike
    obtain ⟨found, identity, default, hfound, hidentity, hdefault, rfl⟩ :=
      (clause_eq_ok_iff_of_stored hstored).mp hclause
    obtain rfl : physical = found := by simpa [hfacets, hresolve] using hfound
    have hframed := (hfront other trivial).append (hframe (other, default) ⟨halike, hdefault⟩)
    rw [← htypes] at hframed
    simpa [Column.quotes, typePieces, identityClause_eq_of_ok hidentity] using hframed

end Column

/-! ## Created tables -/

namespace Schema

theorem join_concat (separator : String) {texts : List Pieces} (htexts : texts ≠ [])
    (text : Pieces) :
    Pieces.join separator (texts ++ [text]) =
      Pieces.join separator texts ++ .fixed separator :: text := by
  induction texts with
  | nil => exact absurd rfl htexts
  | cons first rest ih =>
    cases rest with
    | nil => rfl
    | cons second more =>
      have hrest := ih (List.cons_ne_nil second more)
      simp only [List.cons_append, Pieces.join] at hrest ⊢
      simp [hrest]

/-- The same columns of tables that are alike belong to the key. -/
theorem keyColumns_alike {others columns : List Column}
    (halike : others.map Column.erased = columns.map Column.erased) :
    (keyColumns others).map Column.erased = (keyColumns columns).map Column.erased := by
  have herased (columns : List Column) :
      (keyColumns columns).map Column.erased = keyColumns (columns.map Column.erased) := by
    simp only [keyColumns, List.filter_map]
    rfl
  rw [herased, herased, halike]

/-- The constraint of a primary key says its name and those of its columns. -/
theorem uniform_constraint (keys : List Column) {opening : String}
    (hopening : Pieces.joinsWhole opening = true) :
    Uniform false
      (fun keyed : Table × List Column => keyed.2.map Column.erased = keys.map Column.erased)
      (fun keyed => .name (keyName keyed.1 keyed.2) :: keyed.2.map fun key => .name key.name)
      (fun keyed => [.fixed "CONSTRAINT ", .name (keyName keyed.1 keyed.2),
        .fixed " PRIMARY KEY"] ++ fixed opening ++
          Pieces.join ", " (keyed.2.map fun key => [.name key.name, .fixed " ASC"]) ++
          fixed ")") := by
  have hkey (key : Column) : Uniform false (fun other : Column => other.erased = key.erased)
      (fun other => [.name other.name]) (fun other => [.name other.name, .fixed " ASC"]) :=
    .behind " ASC" (by decide) (.name Column.name)
  have hkeys := (Uniform.join_of_shape ", " (by decide) keys hkey).on
    (fun keyed : Table × List Column => keyed.2) fun _ h => h
  have hparts := (Uniform.name fun keyed : Table × List Column => keyName keyed.1 keyed.2).append
    (.trail " PRIMARY KEY" (by decide) (.joint opening hopening (hkeys.behind ")" (by decide))))
  refine (hparts.lead "CONSTRAINT " (by decide)).congr ?_ ?_
  · exact fun keyed _ => by simp [List.map_eq_flatMap]
  · exact fun keyed _ => by simp

variable {columns : List Column}

/-- Columns with a clause each can be put in a list together with their clauses. -/
theorem exists_declared {others : List Column} {clauses : List Pieces}
    (hclauses :
      List.Forall₂ (fun column clause => column.clause = .ok clause) others clauses) :
    ∃ declared : List (Column × Pieces), declared.map Prod.fst = others ∧
      declared.map Prod.snd = clauses ∧ ∀ entry ∈ declared, entry.1.clause = .ok entry.2 := by
  induction hclauses with
  | nil => exact ⟨[], by simp⟩
  | @cons column clause _ _ hclause _ ih =>
    obtain ⟨declared, rfl, rfl, hdeclared⟩ := ih
    exact ⟨(column, clause) :: declared, rfl, rfl, List.forall_mem_cons.mpr ⟨hclause, hdeclared⟩⟩

/-- The clauses of columns that are alike have one frame. -/
theorem exists_frame_clauses (hwritten : ∀ column ∈ columns, column.copiesText = false) :
    ∃ frame, ∀ others clauses, others.map Column.erased = columns.map Column.erased →
      List.Forall₂ (fun column clause => column.clause = .ok clause) others clauses →
        Framed false frame (others.flatMap Column.quotes) (Pieces.join ", " clauses) := by
  have hlisted : Uniform false
      (List.Forall₂ (fun (declared : Column × Pieces) (column : Column) =>
        declared.1.clause = .ok declared.2 ∧ declared.1.erased = column.erased) · columns)
      (fun declared => declared.flatMap fun entry => entry.1.quotes)
      (fun declared => Pieces.join ", " (declared.map Prod.snd)) :=
    .join ", " (by decide) fun column hcolumn => Column.uniform_clause (hwritten column hcolumn)
  obtain ⟨frame, hframe⟩ := hlisted
  refine ⟨frame, fun others clauses halike hclauses => ?_⟩
  obtain ⟨declared, rfl, rfl, hdeclared⟩ := exists_declared hclauses
  rw [List.map_map] at halike
  have hframed := hframe declared ((List.forall₂_and_left ..).mpr
    ⟨hdeclared, Pieces.forall₂_of_map_eq halike⟩)
  simpa [List.flatMap_map] using hframed

/-- The constraint of a primary key, if there are columns for one. -/
theorem keyClause_of_cons {table : Table} {first : Column} {rest : List Column}
    {key : Option Pieces} (hkeys : keyColumns columns = first :: rest)
    (hkey : keyClause table columns = .ok key) :
    key = some
      ([.fixed "CONSTRAINT ", .name (keyName table (first :: rest)), .fixed " PRIMARY KEY"] ++
        fixed (if first.key = .clusteredPrimary then " CLUSTERED (" else " (") ++
        Pieces.join ", " ((first :: rest).map fun key => [.name key.name, .fixed " ASC"]) ++
        fixed ")") := by
  simp only [keyClause, hkeys] at hkey
  split at hkey
  · cases hkey
  · exact (Except.ok.inj hkey).symm

/-- The entries of a created table say its columns and its key. -/
theorem exists_frame_entries (hwritten : ∀ column ∈ columns, column.copiesText = false) :
    ∃ frame, ∀ other others clauses key,
      others.map Column.erased = columns.map Column.erased →
      List.Forall₂ (fun column clause => column.clause = .ok clause) others clauses →
      keyClause other others = .ok key →
        Framed false frame (others.flatMap Column.quotes ++ keyQuotes other others)
          (Pieces.join ", " (clauses ++ key.toList)) := by
  obtain ⟨listed, hlisted⟩ := exists_frame_clauses hwritten
  cases hkeys : keyColumns columns with
  | nil =>
    refine ⟨listed, fun other others clauses key halike hclauses hkey => ?_⟩
    have hnone : keyColumns others = [] := by simpa [hkeys] using keyColumns_alike halike
    simp only [keyClause, hnone] at hkey
    cases hkey
    simpa [keyQuotes, hnone] using hlisted others clauses halike hclauses
  | cons first rest =>
    have hopening : Pieces.joinsWhole
        (if first.key = .clusteredPrimary then " CLUSTERED (" else " (") = true := by
      split_ifs <;> decide
    obtain ⟨named, hnamed⟩ : Uniform true _ _ _ :=
      (uniform_constraint (first :: rest) hopening).joint ", " (by decide)
    refine ⟨listed ++ named, fun other others clauses key halike hclauses hkey => ?_⟩
    have hcolumns := keyColumns_alike halike
    rw [hkeys] at hcolumns
    cases hothers : keyColumns others with
    | nil => simp [hothers] at hcolumns
    | cons otherFirst otherRest =>
      rw [hothers] at hcolumns
      have hfirst : otherFirst.key = first.key :=
        Column.eq_of_alike Column.key (fun _ => rfl) (List.cons.inj hcolumns).1
      have hnonempty : clauses ≠ [] := by
        rintro rfl
        cases hclauses
        simp [keyColumns] at hothers
      obtain rfl := keyClause_of_cons hothers hkey
      rw [Option.toList_some, join_concat ", " hnonempty, hfirst, keyQuotes, hothers]
      exact (hlisted others clauses halike hclauses).append
        (hnamed (other, otherFirst :: otherRest) hcolumns)

/-- What creates tables with alike columns has one frame. -/
theorem uniform_createTable (table : Table)
    (hwritten : ∀ column ∈ columns, column.copiesText = false) :
    Uniform false
      (fun created : (Table × List Column) × Pieces =>
        created.1.1.erased = table.erased ∧
          created.1.2.map Column.erased = columns.map Column.erased ∧
          createTable created.1.1 created.1.2 = .ok created.2)
      (fun created => created.1.1.nameQuotes ++
        (created.1.2.flatMap Column.quotes ++ keyQuotes created.1.1 created.1.2))
      Prod.snd := by
  obtain ⟨frame, hframe⟩ := exists_frame_entries hwritten
  have hentries : Uniform false
      (fun entered : (Table × List Column) × Pieces => entered.1.1.erased = table.erased ∧
        Framed false frame
          (entered.1.2.flatMap Column.quotes ++ keyQuotes entered.1.1 entered.1.2) entered.2)
      _ _ := ⟨frame, fun _ h => h.2⟩
  refine ((((uniform_tablePieces table).on (fun entered => entered.1.1) fun _ h => h.1).append
    (.joint " (" (by decide) (hentries.behind ")" (by decide)))).lead
      "CREATE TABLE " (by decide)).along ?_
  rintro ⟨⟨other, others⟩, pieces⟩
    ⟨htable, halike, hcreated : createTable other others = .ok pieces⟩
  obtain ⟨-, clauses, key, hclauses, hkey, rfl⟩ := createTable_eq_ok_iff.mp hcreated
  exact ⟨((other, others), Pieces.join ", " (clauses ++ key.toList)),
    ⟨htable, hframe other others clauses key halike hclauses hkey⟩, rfl, by simp⟩

/-- The text that adds a column says its table and the column. -/
theorem uniform_addColumn (table : Table) {column : Column}
    (hwritten : column.copiesText = false) :
    Uniform false
      (fun added : (Table × Column) × Pieces =>
        added.1.1.erased = table.erased ∧ added.1.2.erased = column.erased ∧
          addColumn added.1.1 added.1.2 = .ok added.2)
      (fun added => added.1.1.nameQuotes ++ added.1.2.quotes) Prod.snd := by
  have hparts : Uniform false
      (fun added : Table × (Column × Pieces) => added.1.erased = table.erased ∧
        added.2.1.clause = .ok added.2.2 ∧ added.2.1.erased = column.erased) _ _ :=
    ((uniform_tablePieces table).on Prod.fst fun _ h => h.1).append
      (.joint " ADD " (by decide) ((Column.uniform_clause hwritten).on Prod.snd fun _ h => h.2))
  refine (hparts.lead "ALTER TABLE " (by decide)).along ?_
  rintro ⟨⟨other, otherColumn⟩, pieces⟩
    ⟨htable, hcolumn, hadded : addColumn other otherColumn = .ok pieces⟩
  obtain ⟨clause, hclause, rfl⟩ := addColumn_eq_ok_iff.mp hadded
  exact ⟨(other, otherColumn, clause), ⟨htable, hclause, hcolumn⟩, rfl, by simp⟩

end Schema

end SqlScribe
