import SqlScribe.Proofs.Schema.NameFrames
import SqlScribe.Proofs.Text.QuotedForms
import SqlScribe.Schema.Operation

/-!
# What guarded drops test and change

The text that drops a column or an index names its table twice.  The action quotes each part of
the name.  The guard hands the parts to the server as one text, with a dot between them and
nothing quoted, and the server takes that text apart again.

Main definitions:

- `Table.ofMultipart?` is how the server takes apart a name of several parts.
- `Table.HasPlainParts` says that no part has a dot in it or begins as a quoted one.
- `Drop` is a text that drops something of a table; `Drop.read?` reads it into a
  `GuardedDrop`.

Main results:

- `Table.ofMultipart?_objectName_iff`: whose name the server takes apart into the same parts.
- `Drop.guards_table_iff`: when a guard tests the table that its action changes.
-/

namespace SqlScribe

/-! ## Names of several parts -/

namespace Table

/-- Reads one part off the front of a name: a delimited part up to its end, any other up to the
next dot.  A delimiter stands only in front of a part. -/
def readPart? : List Char → Option (List Char × List Char)
  | '[' :: rest => Quoted.scanInside? ']' rest
  | '\"' :: rest => Quoted.scanInside? '\"' rest
  | text => some (text.takeWhile (· ≠ '.'), text.dropWhile (· ≠ '.'))

/-- The table that a name denotes for the server: its last part, in the schema in front of it.
Further parts would name a database. -/
def ofMultipart? (text : String) : Option Table :=
  match readPart? text.toList with
  | some (name, []) => some ⟨String.ofList name, none⟩
  | some (schema, '.' :: rest) =>
    match readPart? rest with
    | some (name, []) => some ⟨String.ofList name, some (String.ofList schema)⟩
    | _ => none
  | _ => none

/-- Whether a part is read as it stands. -/
def isPlainPart (part : List Char) : Bool :=
  !part.contains '.' && part.head? ≠ some '[' && part.head? ≠ some '\"'

/-- Whether no part of a table's name has a dot in it or begins as a quoted one. -/
def HasPlainParts (table : Table) : Prop :=
  (∀ schema, table.schema = some schema → isPlainPart schema.toList = true) ∧
    isPlainPart table.name.toList = true

/-- What is read between two ends is shorter than what is written. -/
theorem length_scanInside? {close : Char} {text part rest : List Char}
    (hscan : Quoted.scanInside? close text = some (part, rest)) :
    part.length + rest.length + 1 ≤ text.length := by
  obtain ⟨rfl, -⟩ := Quoted.scanInside?_eq_some_iff.mp hscan
  have hdouble := Quoted.length_le_length_double close part
  simp only [List.length_append, List.length_cons]
  omega

/-- A part that is read as it stands makes up the text with what follows it; one between
delimiters leaves less than it takes. -/
theorem readPart?_cases {text part rest : List Char}
    (hread : readPart? text = some (part, rest)) :
    (part ++ rest = text ∧ isPlainPart part = true) ∨
      part.length + rest.length + 2 ≤ text.length := by
  unfold readPart? at hread
  split at hread
  · have hshorter := length_scanInside? hread
    exact .inr (by simpa using hshorter)
  · have hshorter := length_scanInside? hread
    exact .inr (by simpa using hshorter)
  · rename_i hbracket hquote
    cases hread
    refine .inl ⟨List.takeWhile_append_dropWhile, ?_⟩
    have hnoDot : '.' ∉ text.takeWhile (· ≠ '.') := fun hmem => by
      simpa using List.all_eq_true.mp List.all_takeWhile '.' hmem
    cases text with
    | nil => rfl
    | cons c rest =>
      have hc : c ≠ '[' := fun hc => hbracket rest (by rw [hc])
      have hc' : c ≠ '\"' := fun hc => hquote rest (by rw [hc])
      by_cases hdot : c = '.'
      · simp [hdot, isPlainPart]
      · simp only [isPlainPart, Bool.and_eq_true, Bool.not_eq_true', List.contains_eq_mem,
          decide_eq_false_iff_not, decide_eq_true_eq]
        exact ⟨⟨hnoDot, by simpa [hdot] using hc⟩, by simpa [hdot] using hc'⟩

/-- A plain part is read up to the dot behind it, or up to the end. -/
theorem readPart?_of_isPlainPart {part rest : List Char} (hplain : isPlainPart part = true)
    (hrest : ∀ c ∈ rest.head?, c = '.') : readPart? (part ++ rest) = some (part, rest) := by
  simp only [isPlainPart, Bool.and_eq_true, Bool.not_eq_true', List.contains_eq_mem,
    decide_eq_false_iff_not, decide_eq_true_eq] at hplain
  obtain ⟨⟨hnoDot, hbracket⟩, hquote⟩ := hplain
  have hinside : ∀ c ∈ part, (decide (c ≠ '.')) = true := by
    intro c hc
    rw [decide_eq_true_eq]
    rintro rfl
    exact hnoDot hc
  have htake : rest.takeWhile (· ≠ '.') = [] ∧ rest.dropWhile (· ≠ '.') = rest := by
    cases rest with
    | nil => simp
    | cons c rest =>
      have hc : c = '.' := hrest c rfl
      simp [hc]
  have hbare : some ((part ++ rest).takeWhile (· ≠ '.'), (part ++ rest).dropWhile (· ≠ '.')) =
      some (part, rest) := by
    rw [List.takeWhile_append_of_pos hinside, List.dropWhile_append_of_pos hinside, htake.1,
      htake.2, List.append_nil]
  have hhead : ∀ c ∈ (part ++ rest).head?, c ≠ '[' ∧ c ≠ '\"' := by
    intro c hc
    cases part with
    | nil =>
      rw [hrest c hc]
      decide
    | cons d tail =>
      cases hc
      exact ⟨by simpa using hbracket, by simpa using hquote⟩
  unfold readPart?
  split
  · rename_i heq
    exact absurd rfl (hhead '[' (by simp [heq])).1
  · rename_i heq
    exact absurd rfl (hhead '\"' (by simp [heq])).2
  · exact hbare

/-- A part is read as it stands exactly if it is plain. -/
theorem readPart?_append_iff (part : List Char) {rest : List Char}
    (hrest : ∀ c ∈ rest.head?, c = '.') :
    readPart? (part ++ rest) = some (part, rest) ↔ isPlainPart part = true := by
  refine ⟨fun hread => ?_, fun hplain => readPart?_of_isPlainPart hplain hrest⟩
  rcases readPart?_cases hread with ⟨-, hplain⟩ | hshorter
  · exact hplain
  · rw [List.length_append] at hshorter
    omega

/-- A name of one part is the name of a table. -/
theorem ofMultipart?_eq_bare_iff {text name : String} :
    ofMultipart? text = some ⟨name, none⟩ ↔
      readPart? text.toList = some (name.toList, []) := by
  constructor
  · intro hread
    unfold ofMultipart? at hread
    split at hread
    · rename_i hpart
      cases hread
      rw [hpart, String.toList_ofList]
    · split at hread <;> cases hread
    · cases hread
  · intro hpart
    simp [ofMultipart?, hpart]

/-- A name of two parts is that of a table in a schema. -/
theorem ofMultipart?_eq_qualified_iff {text schema name : String} :
    ofMultipart? text = some ⟨name, some schema⟩ ↔
      ∃ rest, readPart? text.toList = some (schema.toList, '.' :: rest) ∧
        readPart? rest = some (name.toList, []) := by
  constructor
  · intro hread
    unfold ofMultipart? at hread
    split at hread
    · cases hread
    · rename_i first rest hfirst
      split at hread
      · rename_i second hsecond
        cases hread
        exact ⟨rest, by rw [hfirst, String.toList_ofList], by rw [hsecond, String.toList_ofList]⟩
      · cases hread
    · cases hread
  · rintro ⟨rest, hfirst, hsecond⟩
    simp [ofMultipart?, hfirst, hsecond]

/-- The server takes the one-part spelling of a table apart into the parts it is made of exactly
if they are plain. -/
theorem ofMultipart?_objectName_iff (table : Table) :
    ofMultipart? table.objectName = some table ↔ table.HasPlainParts := by
  obtain ⟨name, schema⟩ := table
  have hname : readPart? name.toList = some (name.toList, []) ↔
      isPlainPart name.toList = true := by
    have hend : ∀ c ∈ ([] : List Char).head?, c = '.' := by simp
    simpa using readPart?_append_iff name.toList hend
  cases schema with
  | none =>
    rw [ofMultipart?_eq_bare_iff]
    simp only [HasPlainParts, reduceCtorEq, false_implies, implies_true, true_and, ← hname]
    rfl
  | some schema =>
    have htext : (objectName ⟨name, some schema⟩).toList =
        schema.toList ++ '.' :: name.toList := by
      simp [objectName]
    have hdot : ∀ c ∈ ('.' :: name.toList).head?, c = '.' := by simp
    have hschema := readPart?_append_iff schema.toList hdot
    rw [ofMultipart?_eq_qualified_iff, htext]
    simp only [HasPlainParts, Option.some.injEq, forall_eq', ← hname, ← hschema]
    constructor
    · rintro ⟨rest, hfirst, hsecond⟩
      -- Neither part can be delimited: the text is too short for that.
      rcases readPart?_cases hfirst with hwhole | hshorter
      · have hrest : rest = name.toList := by simpa using hwhole.1
        exact ⟨hrest ▸ hfirst, hrest ▸ hsecond⟩
      · simp only [List.length_append, List.length_cons] at hshorter
        rcases readPart?_cases hsecond with hwhole | hshorter'
        · have hlength := congrArg List.length hwhole.1
          simp only [List.append_nil] at hlength
          omega
        · simp only [List.length_nil] at hshorter'
          omega
    · rintro ⟨hfirst, hsecond⟩
      exact ⟨name.toList, hfirst, hsecond⟩

end Table

/-! ## Reading tokens in order -/

namespace Sql

/-- Reads the tokens of a text off the front. -/
def expect? (text : String) (found : List Token) : Option (List Token) :=
  found.dropPrefix? (tokens text)

/-- Reads the quoted name of a table off the front. -/
def readTable? : List Token → Option (Table × List Token)
  | .name schema :: .sign "." :: .name name :: rest => some (⟨name, some schema⟩, rest)
  | .name name :: rest => some (⟨name, none⟩, rest)
  | _ => none

/-- The tokens of an expected text are taken off the front. -/
@[simp] theorem expect?_append (text : String) (rest : List Token) :
    expect? text (tokens text ++ rest) = some rest :=
  List.dropPrefix?_eq_some_iff.mpr ⟨tokens text, rfl, beq_self_eq_true _⟩

/-- The tokens of the quoted name of a table. -/
theorem tokens_tablePieces (table : Table) :
    (tablePieces table).flatMap Piece.tokens =
      match table.schema with
      | some schema => [.name schema, .sign ".", .name table.name]
      | none => [.name table.name] := by
  have hdot : (Piece.fixed ".").tokens = [.sign "."] := by decide
  unfold tablePieces
  cases table.schema <;> simp [Piece.tokens_name, hdot]

/-- The quoted name of a table is read back in front of a word. -/
theorem readTable?_tablePieces (table : Table) {rest : List Token}
    (hrest : rest.head? ≠ some (.sign ".")) :
    readTable? ((tablePieces table).flatMap Piece.tokens ++ rest) = some (table, rest) := by
  obtain ⟨name, schema⟩ := table
  rw [tokens_tablePieces]
  cases schema with
  | some schema => rfl
  | none =>
    simp only [List.cons_append, List.nil_append]
    unfold readTable?
    split
    · rename_i heq
      cases heq
      simp at hrest
    · rename_i heq
      cases heq
      rfl
    · rename_i hother
      exact absurd rfl (hother name rest)

end Sql

/-! ## Guarded drops -/

/-- A text that drops something of a table. -/
inductive Drop where
  | column
  | index

/-- What a guard tests, as it hands it to the server, and what the action behind it changes. -/
structure GuardedDrop where
  testedTable : String
  testedName : String
  changedTable : Table
  droppedName : String
deriving DecidableEq

namespace Drop

open Catalog (View)
open Sql (Token Pieces expect? readTable? tokens)

/-- The operation that drops a name of a table. -/
def operation (drop : Drop) (table : Table) (name : String) : SchemaOperation :=
  match drop with
  | .column => .dropColumn table name
  | .index => .dropIndex table name

/-- The view in which the guard looks for the name. -/
def view : Drop → View
  | .column => .columns
  | .index => .indexes

/-- Reads what a guard tests. -/
def readGuard? (view : View) (found : List Token) :
    Option ((String × String) × List Token) := do
  let rest ← expect? "IF EXISTS (" found
  let rest ← expect? ("SELECT * FROM " ++ view.path ++ " WHERE [object_id] = ") rest
  let .literal true table :: rest ← expect? "OBJECT_ID(" rest | none
  let rest ← expect? ")" rest
  let .literal false name :: rest ← expect? " AND [name] = " rest | none
  let rest ← expect? ") " rest
  some ((table, name), rest)

/-- Reads what an action changes: a table and a name of it. -/
def readAction? (drop : Drop) (found : List Token) : Option (Table × String) :=
  match drop with
  | .column => do
    let (table, rest) ← readTable? (← expect? "ALTER TABLE " found)
    let [.name name] ← expect? " DROP COLUMN " rest | none
    some (table, name)
  | .index => do
    let .name name :: rest ← expect? "DROP INDEX " found | none
    let (table, []) ← readTable? (← expect? " ON " rest) | none
    some (table, name)

/-- Reads the whole text. -/
def read? (drop : Drop) (text : String) : Option GuardedDrop := do
  let ((testedTable, testedName), rest) ← readGuard? drop.view (tokens text)
  let (changedTable, droppedName) ← drop.readAction? rest
  some ⟨testedTable, testedName, changedTable, droppedName⟩

/-- The action behind the guard. -/
def action (drop : Drop) (table : Table) (name : String) : Pieces :=
  match drop with
  | .column =>
    Sql.fixed "ALTER TABLE " ++ Sql.tablePieces table ++ [.fixed " DROP COLUMN ", .name name]
  | .index => [.fixed "DROP INDEX ", .name name, .fixed " ON "] ++ Sql.tablePieces table

variable (drop : Drop) (table : Table) (name : String)

/-- A drop is its guard with the action behind it. -/
theorem pieces_operation :
    (drop.operation table name).pieces =
      .ok (Schema.guarded (Schema.objectCheck drop.view table name) (drop.action table name)) := by
  cases drop <;> rfl

/-! ## The tokens of guard and action -/

/-- Every fixed text of a drop begins or ends a token, and nothing in it stays open. -/
theorem tidy_guarded :
    Pieces.Tidy false
      (Schema.guarded (Schema.objectCheck drop.view table name) (drop.action table name)) := by
  cases drop with
  | column =>
    obtain ⟨_, hframed⟩ := Schema.uniform_dropColumn table
    exact (hframed (table, name) rfl).tidy
  | index =>
    obtain ⟨_, hframed⟩ := Schema.uniform_dropIndex table
    exact (hframed (table, name) rfl).tidy

/-- The tokens of a guard, text by text, and of the action behind it. -/
theorem tokens_guarded :
    tokens ((Schema.guarded (Schema.objectCheck drop.view table name)
        (drop.action table name)).spell .sqlServer) =
      tokens "IF EXISTS (" ++
        (tokens ("SELECT * FROM " ++ drop.view.path ++ " WHERE [object_id] = ") ++
          (tokens "OBJECT_ID(" ++ .literal true table.objectName ::
            (tokens ")" ++ (tokens " AND [name] = " ++ .literal false name ::
              (tokens ") " ++ (drop.action table name).flatMap Sql.Piece.tokens))))) := by
  have hfixed (text : String) : (Sql.Piece.fixed text).tokens = tokens text := rfl
  rw [Sql.Pieces.tokens_spell (fun _ hwhole => hwhole) (tidy_guarded drop table name)]
  simp [Schema.guarded, Schema.objectCheck, Catalog.objectId, hfixed, Sql.Piece.tokens_literal,
    Sql.Piece.tokens_nationalLiteral]

/-- The guard is read back, with the action behind it left. -/
theorem readGuard?_tokens :
    readGuard? drop.view
        (tokens ((Schema.guarded (Schema.objectCheck drop.view table name)
          (drop.action table name)).spell .sqlServer)) =
      some ((table.objectName, name), (drop.action table name).flatMap Sql.Piece.tokens) := by
  rw [tokens_guarded]
  simp [readGuard?]

/-- The action is read back. -/
theorem readAction?_tokens :
    drop.readAction? ((drop.action table name).flatMap Sql.Piece.tokens) = some (table, name) := by
  have hfixed (text : String) : (Sql.Piece.fixed text).tokens = tokens text := rfl
  cases drop with
  | column =>
    have hhead : (tokens " DROP COLUMN " ++ [Token.name name]).head? ≠ some (.sign ".") := by
      have hwords : tokens " DROP COLUMN " = [.word "DROP", .word "COLUMN"] := by decide
      simp [hwords]
    simp [readAction?, action, List.flatMap_append, hfixed, Sql.Piece.tokens_name,
      Sql.readTable?_tablePieces table hhead]
  | index =>
    have hend : ([] : List Token).head? ≠ some (.sign ".") := by simp
    have hread := Sql.readTable?_tablePieces table hend
    rw [List.append_nil] at hread
    simp [readAction?, action, hfixed, Sql.Piece.tokens_name, hread]

/-- What is read back from the text of a drop. -/
theorem read?_text {statement : Statement}
    (hrendered : (drop.operation table name).statement = .ok statement) :
    drop.read? statement.text = some ⟨table.objectName, name, table, name⟩ := by
  rw [SchemaOperation.statement, pieces_operation] at hrendered
  cases hrendered
  simp [read?, readGuard?_tokens, readAction?_tokens]

/-! ## Guards and actions -/

/-- The guard of a drop looks for the very name that is dropped.  It tests the table that is
changed exactly if the parts of its name are plain, so two different tables of which this is
true never share a guard. -/
theorem guards_table_iff :
    ∃ statement guarded, (drop.operation table name).statement = .ok statement ∧
      drop.read? statement.text = some guarded ∧
      guarded.changedTable = table ∧ guarded.droppedName = name ∧
      guarded.testedName = guarded.droppedName ∧
      (Table.ofMultipart? guarded.testedTable = some guarded.changedTable ↔
        table.HasPlainParts) ∧
      ∀ otherDrop otherTable otherName otherStatement otherGuarded,
        (operation otherDrop otherTable otherName).statement = .ok otherStatement →
        otherDrop.read? otherStatement.text = some otherGuarded →
        otherGuarded.testedTable = guarded.testedTable →
        table.HasPlainParts → otherTable.HasPlainParts → otherTable = table := by
  obtain ⟨statement, hrendered⟩ : ∃ statement, (drop.operation table name).statement =
      .ok statement := ⟨_, by rw [SchemaOperation.statement, pieces_operation]; rfl⟩
  refine ⟨statement, _, hrendered, read?_text drop table name hrendered, rfl, rfl, rfl,
    Table.ofMultipart?_objectName_iff table, ?_⟩
  intro otherDrop otherTable otherName otherStatement otherGuarded hother hread hshared hplain
    hplain'
  rw [read?_text otherDrop otherTable otherName hother] at hread
  cases hread
  rw [← Table.ofMultipart?_objectName_iff] at hplain hplain'
  change otherTable.objectName = table.objectName at hshared
  rw [hshared, hplain] at hplain'
  exact (Option.some.inj hplain').symm

/-- A drop in a schema tests the table that it changes. -/
theorem guards_table_iff_qualifiedName :
    ∃ statement guarded, (operation .index ⟨"b", some "a"⟩ "c").statement = .ok statement ∧
      read? .index statement.text = some guarded ∧
      Table.ofMultipart? guarded.testedTable = some guarded.changedTable := by
  obtain ⟨statement, guarded, hrendered, hread, -, -, -, hguards, -⟩ :=
    guards_table_iff .index ⟨"b", some "a"⟩ "c"
  have hplain : Table.HasPlainParts ⟨"b", some "a"⟩ :=
    ⟨by rintro schema ⟨⟩; decide, by decide⟩
  exact ⟨statement, guarded, hrendered, hread, hguards.mpr hplain⟩

/-- The guard of a table with a dot in its name tests another table, whose own drops have the
same guard. -/
theorem not_guards_table_dottedName :
    (∃ statement, (operation .column ⟨"a.b", none⟩ "c").statement = .ok statement ∧
        read? .column statement.text = some ⟨"a.b", "c", ⟨"a.b", none⟩, "c"⟩) ∧
      Table.ofMultipart? "a.b" = some ⟨"b", some "a"⟩ ∧
      ∃ statement, (operation .column ⟨"b", some "a"⟩ "c").statement = .ok statement ∧
        read? .column statement.text = some ⟨"a.b", "c", ⟨"b", some "a"⟩, "c"⟩ :=
  ⟨⟨_, rfl, read?_text .column ⟨"a.b", none⟩ "c" rfl⟩, by decide,
    _, rfl, read?_text .column ⟨"b", some "a"⟩ "c" rfl⟩

end Drop

end SqlScribe
