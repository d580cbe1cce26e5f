import Mathlib.Data.List.TakeWhile
import SqlScribe.Proofs.Reading.GuardedDrops

/-!
# Names that are sought in the catalog

A check looks for an object by the names in its text literals, and the drop behind it quotes the
same names.  The server reads a national literal as it stands, but converts an ordinary one to a
code page, which is sure to keep ASCII characters only.  The table of a column or an index is
said by a national literal, and every other name by an ordinary one.

Main definitions:

- `CodePage` is what the server does with ordinary literals.
- `Sought` is what a check looks for, `Sought.operation` asks for it or drops it.
- `Sql.literals` are the text literals of a text, `Sql.changedNames` the names that its action
  quotes.

Main results:

- `CodePage.received_eq_iff`: when literals are received as they stand in every code page.
- `Sought.names_survive_iff`: when the names that are looked for are those that are dropped.
-/

namespace SqlScribe

open Catalog (View)
open Sql (Pieces Piece Token fixed tokens)

/-! ## Literals and code pages -/

/-- Whether every character of a text is one of ASCII. -/
def isAscii (text : String) : Bool := text.toList.all (·.toNat < 128)

/-- A text literal. -/
structure Literal where
  national : Bool
  text : String
deriving DecidableEq

/-- What the server makes of the texts of ordinary literals. -/
structure CodePage where
  convert : String → String
  convert_ascii : ∀ text, isAscii text = true → convert text = text

namespace CodePage

/-- The code page that keeps nothing but ASCII characters. -/
def asciiOnly : CodePage where
  convert text := String.ofList (text.toList.map fun c => if c.toNat < 128 then c else '?')
  convert_ascii text htext := by
    have hkeep : ∀ c ∈ text.toList, (if c.toNat < 128 then c else '?') = c := by
      intro c hc
      rw [if_pos (by simpa using List.all_eq_true.mp htext c hc)]
    rw [List.map_congr_left hkeep, List.map_id', String.ofList_toList]

/-- What is left by it is ASCII. -/
theorem isAscii_convert_asciiOnly (text : String) : isAscii (asciiOnly.convert text) = true := by
  simp only [isAscii, asciiOnly, String.toList_ofList, List.all_map, List.all_eq_true,
    Function.comp_apply, decide_eq_true_eq]
  intro c _
  split
  · assumption
  · decide

/-- A text is kept by every code page exactly if it is ASCII. -/
theorem convert_eq_iff (text : String) :
    (∀ page : CodePage, page.convert text = text) ↔ isAscii text = true := by
  constructor
  · intro hkept
    rw [← hkept asciiOnly]
    exact isAscii_convert_asciiOnly text
  · intro htext page
    exact page.convert_ascii text htext

/-- The text that the server receives of a literal. -/
def received (page : CodePage) (literal : Literal) : String :=
  if literal.national then literal.text else page.convert literal.text

/-- Literals are received as they stand in every code page exactly if those that are not ASCII
are national. -/
theorem received_eq_iff (found : List Literal) :
    (∀ page : CodePage, found.map page.received = found.map Literal.text) ↔
      ∀ literal ∈ found, isAscii literal.text = false → literal.national = true := by
  simp only [List.map_inj_left]
  rw [forall_comm]
  refine forall_congr' fun literal => ?_
  rw [forall_comm]
  refine forall_congr' fun _ => ?_
  cases hnational : literal.national with
  | true => simp [received, hnational]
  | false => simp [received, hnational, convert_eq_iff]

end CodePage

namespace Sql

/-- The literal of a token. -/
def Token.literal? : Token → Option Literal
  | .literal national text => some ⟨national, text⟩
  | _ => none

/-- The name of a token. -/
def Token.name? : Token → Option String
  | .name text => some text
  | _ => none

/-- Whether a token begins an action. -/
def Token.startsAction : Token → Bool
  | .word text => text = "DROP" || text = "ALTER"
  | _ => false

/-- The text literals of a text. -/
def literals (text : String) : List Literal := (tokens text).filterMap Token.literal?

/-- The names that the action of a text quotes, from its first word on. -/
def changedNames (text : String) : List String :=
  ((tokens text).dropWhile (!·.startsAction)).filterMap Token.name?

/-- The literal of a piece. -/
def Piece.literal? : Piece → Option Literal
  | .literal national text => some ⟨national, text⟩
  | _ => none

@[simp] theorem Piece.literal?_fixed (text : String) : (Piece.fixed text).literal? = none := rfl

/-- Whether a piece is a literal, or a fixed text without one in which no action begins. -/
def Piece.isQuiet : Piece → Bool
  | .fixed text =>
    (Piece.fixed text).tokens.all fun token => token.literal? = none && !token.startsAction
  | .literal .. => true
  | _ => false

/-- A literal is a single token, national or not. -/
theorem Piece.tokens_of_literal (national : Bool) (text : String) :
    (Piece.literal national text).tokens = [.literal national text] := by
  cases national with
  | true => exact tokens_nationalLiteral text
  | false => exact tokens_literal text

/-- The literals of quiet pieces are literals of their text. -/
theorem literal?_tokens_of_isQuiet {pieces : Pieces} (hquiet : pieces.all Piece.isQuiet = true) :
    (pieces.flatMap Piece.tokens).filterMap Token.literal? = pieces.filterMap Piece.literal? := by
  induction pieces with
  | nil => rfl
  | cons piece rest ih =>
    obtain ⟨hpiece, hrest⟩ := Bool.and_eq_true_iff.mp hquiet
    rw [List.flatMap_cons, List.filterMap_append, ih hrest]
    cases piece with
    | fixed text =>
      have hnone : (Piece.fixed text).tokens.filterMap Token.literal? = [] := by
        rw [List.filterMap_eq_nil_iff]
        intro token htoken
        have hboth := List.all_eq_true.mp hpiece token htoken
        simp only [Bool.and_eq_true, decide_eq_true_eq] at hboth
        exact hboth.1
      rw [hnone]
      rfl
    | literal national text =>
      rw [Piece.tokens_of_literal]
      rfl
    | _ => cases hpiece

/-- No action begins in quiet pieces. -/
theorem startsAction_of_isQuiet {pieces : Pieces} (hquiet : pieces.all Piece.isQuiet = true)
    {token : Token} (htoken : token ∈ pieces.flatMap Piece.tokens) :
    token.startsAction = false := by
  obtain ⟨piece, hpiece, hmem⟩ := List.mem_flatMap.mp htoken
  have hone := List.all_eq_true.mp hquiet piece hpiece
  cases piece with
  | fixed text =>
    have hboth := List.all_eq_true.mp hone token hmem
    simp only [Bool.and_eq_true, Bool.not_eq_true'] at hboth
    exact hboth.2
  | literal national text =>
    rw [Piece.tokens_of_literal, List.mem_singleton] at hmem
    rw [hmem]
    rfl
  | _ => cases hone

end Sql

/-! ## What is sought -/

/-- What a check looks for. -/
inductive Sought where
  | table (target : Table)
  | column (target : Table) (name : String)
  | index (target : Table) (name : String)

/-- What a check is made for. -/
inductive Purpose where
  | ask
  | drop

namespace Sought

/-- The operation that looks for something. -/
def operation : Sought → Purpose → SchemaOperation
  | .table target, .ask => .tableExists target
  | .table target, .drop => .dropTable target
  | .column target name, .ask => .columnExists target name
  | .column target name, .drop => .dropColumn target name
  | .index target name, .ask => .indexExists target name
  | .index target name, .drop => .dropIndex target name

/-- The texts that are compared with the catalog, a table of a column or an index as a single
one. -/
def texts : Sought → List String
  | .table target => target.name :: target.schema.toList
  | .column target name | .index target name => [target.objectName, name]

/-- The names that a drop changes. -/
def names : Sought → List String
  | .table target => target.schema.toList ++ [target.name]
  | .column target name => target.schema.toList ++ [target.name, name]
  | .index target name => name :: (target.schema.toList ++ [target.name])

/-- Whether the names in ordinary literals are ASCII: all but the table of a column or an
index. -/
def HasAsciiNames : Sought → Prop
  | .table target => isAscii target.name = true ∧ ∀ schema ∈ target.schema, isAscii schema = true
  | .column _ name | .index _ name => isAscii name = true

/-- The literals of a check. -/
def literals : Sought → List Literal
  | .table target => ⟨false, target.name⟩ :: (target.schema.map (Literal.mk false)).toList
  | .column target name | .index target name => [⟨true, target.objectName⟩, ⟨false, name⟩]

/-- The literals of a check say the texts that it compares. -/
theorem map_text_literals (sought : Sought) : sought.literals.map Literal.text = sought.texts := by
  cases sought with
  | table target => cases hschema : target.schema <;> simp [literals, texts, hschema]
  | _ => rfl

/-- The literals that are not ASCII are national exactly if the names in ordinary ones are
ASCII. -/
theorem literals_national_iff (sought : Sought) :
    (∀ literal ∈ sought.literals, isAscii literal.text = false → literal.national = true) ↔
      sought.HasAsciiNames := by
  cases sought with
  | table target => cases hschema : target.schema <;> simp [literals, HasAsciiNames, hschema]
  | column target name => simp [literals, HasAsciiNames]
  | index target name => simp [literals, HasAsciiNames]

/-! ## Tokens of checks and actions -/

/-- The check that looks for something. -/
def check : Sought → Pieces
  | .table target => Schema.tableCheck target
  | .column target name => Schema.columnCheck target name
  | .index target name => Schema.indexCheck target name

/-- The action that drops it. -/
def action : Sought → Pieces
  | .table target => fixed "DROP TABLE " ++ Sql.tablePieces target
  | .column target name => Drop.column.action target name
  | .index target name => Drop.index.action target name

/-- The text around the check. -/
def pieces (sought : Sought) : Purpose → Pieces
  | .ask => Schema.existence sought.check
  | .drop => Schema.guarded sought.check sought.action

variable (sought : Sought) (purpose : Purpose)

/-- An operation on what is sought is its check with the text around it. -/
theorem pieces_operation :
    (sought.operation purpose).pieces = .ok (sought.pieces purpose) := by
  cases sought <;> cases purpose <;> rfl

/-- Every operation on what is sought renders. -/
theorem exists_statement :
    ∃ statement, (sought.operation purpose).statement = .ok statement ∧
      statement.text = (sought.pieces purpose).spell .sqlServer := by
  rw [SchemaOperation.statement, pieces_operation]
  exact ⟨_, rfl, rfl⟩

/-- Every fixed text begins or ends a token, and nothing in it stays open. -/
theorem tidy_pieces : Pieces.Tidy false (sought.pieces purpose) := by
  cases sought with
  | table target =>
    cases purpose with
    | ask =>
      obtain ⟨_, hframed⟩ := Schema.uniform_existence (Schema.uniform_tableCheck target)
      exact (hframed target rfl).tidy
    | drop =>
      obtain ⟨_, hframed⟩ := Schema.uniform_dropTable target
      exact (hframed target rfl).tidy
  | column target name =>
    cases purpose with
    | ask =>
      obtain ⟨_, hframed⟩ := Schema.uniform_objectExists .columns target
      exact (hframed (target, name) rfl).tidy
    | drop => exact Drop.tidy_guarded .column target name
  | index target name =>
    cases purpose with
    | ask =>
      obtain ⟨_, hframed⟩ := Schema.uniform_objectExists .indexes target
      exact (hframed (target, name) rfl).tidy
    | drop => exact Drop.tidy_guarded .index target name

/-- The tokens of a check are those of each piece by itself. -/
theorem tokens_pieces :
    tokens ((sought.pieces purpose).spell .sqlServer) =
      (sought.pieces purpose).flatMap Piece.tokens :=
  Pieces.tokens_spell (fun _ hwhole => hwhole) (tidy_pieces sought purpose)

/-- Checks are quiet. -/
theorem isQuiet_check : sought.check.all Piece.isQuiet = true := by
  have htables :
      Piece.isQuiet (.fixed ("SELECT * FROM " ++ View.tables.path ++ " WHERE [name] = ")) = true := by
    decide +kernel
  have hschema : Piece.isQuiet (.fixed " AND [schema_id] = SCHEMA_ID(") = true := by decide +kernel
  have hclose : Piece.isQuiet (.fixed ")") = true := by decide +kernel
  have hobject : Piece.isQuiet (.fixed "OBJECT_ID(") = true := by decide +kernel
  have hname : Piece.isQuiet (.fixed " AND [name] = ") = true := by decide +kernel
  have hcolumns : Piece.isQuiet
      (.fixed ("SELECT * FROM " ++ View.columns.path ++ " WHERE [object_id] = ")) = true := by
    decide +kernel
  have hindexes : Piece.isQuiet
      (.fixed ("SELECT * FROM " ++ View.indexes.path ++ " WHERE [object_id] = ")) = true := by
    decide +kernel
  have hliteral : ∀ national text, Piece.isQuiet (.literal national text) = true :=
    fun _ _ => rfl
  cases sought with
  | table target =>
    cases hs : target.schema <;>
      simp [check, Schema.tableCheck, hs, htables, hschema, hclose, hliteral]
  | column target name =>
    simp [check, Schema.columnCheck, Schema.objectCheck, Catalog.objectId, hcolumns, hobject,
      hclose, hname, hliteral]
  | index target name =>
    simp [check, Schema.indexCheck, Schema.objectCheck, Catalog.objectId, hindexes, hobject,
      hclose, hname, hliteral]

/-- The literals of a check are those that say what is sought. -/
theorem literals_check : sought.check.filterMap Piece.literal? = sought.literals := by
  cases sought with
  | table target => obtain ⟨name, _ | schema⟩ := target <;> rfl
  | column target name => rfl
  | index target name => rfl

/-- An action begins with its first word, has no literal, and quotes what it changes. -/
theorem tokens_action :
    ∃ word rest, sought.action.flatMap Piece.tokens = word :: rest ∧ word.startsAction = true ∧
      (word :: rest).filterMap Token.literal? = [] ∧
      (word :: rest).filterMap Token.name? = sought.names := by
  have hdropTable : (Piece.fixed "DROP TABLE ").tokens = [.word "DROP", .word "TABLE"] := by
    decide +kernel
  have halter : (Piece.fixed "ALTER TABLE ").tokens = [.word "ALTER", .word "TABLE"] := by
    decide +kernel
  have hcolumn : (Piece.fixed " DROP COLUMN ").tokens = [.word "DROP", .word "COLUMN"] := by
    decide +kernel
  have hindex : (Piece.fixed "DROP INDEX ").tokens = [.word "DROP", .word "INDEX"] := by
    decide +kernel
  have hon : (Piece.fixed " ON ").tokens = [.word "ON"] := by decide +kernel
  cases sought with
  | table target =>
    have htokens : (action (.table target)).flatMap Piece.tokens =
        .word "DROP" :: .word "TABLE" :: (Sql.tablePieces target).flatMap Piece.tokens := by
      simp [action, hdropTable]
    refine ⟨_, _, htokens, rfl, ?_⟩
    rw [Sql.tokens_tablePieces]
    obtain ⟨name, _ | schema⟩ := target
    all_goals exact ⟨rfl, rfl⟩
  | column target name =>
    have htokens : (action (.column target name)).flatMap Piece.tokens =
        .word "ALTER" :: .word "TABLE" :: ((Sql.tablePieces target).flatMap Piece.tokens ++
          [.word "DROP", .word "COLUMN", .name name]) := by
      simp [action, Drop.action, halter, hcolumn, Piece.tokens_name]
    refine ⟨_, _, htokens, rfl, ?_⟩
    rw [Sql.tokens_tablePieces]
    obtain ⟨table, _ | schema⟩ := target
    all_goals exact ⟨rfl, rfl⟩
  | index target name =>
    have htokens : (action (.index target name)).flatMap Piece.tokens =
        .word "DROP" :: .word "INDEX" :: .name name :: .word "ON" ::
          (Sql.tablePieces target).flatMap Piece.tokens := by
      simp [action, Drop.action, hindex, hon, Piece.tokens_name]
    refine ⟨_, _, htokens, rfl, ?_⟩
    rw [Sql.tokens_tablePieces]
    obtain ⟨table, _ | schema⟩ := target
    all_goals exact ⟨rfl, rfl⟩

/-! ## Texts of statements -/

/-- What stands in front of an action. -/
def guard : Pieces := fixed "IF EXISTS (" ++ sought.check ++ fixed ") "

/-- A drop is its guard with the action behind it. -/
theorem pieces_drop : sought.pieces .drop = sought.guard ++ sought.action := by
  simp [pieces, Schema.guarded, guard]

/-- A guard is quiet. -/
theorem isQuiet_guard : sought.guard.all Piece.isQuiet = true := by
  have hopen : Piece.isQuiet (.fixed "IF EXISTS (") = true := by decide +kernel
  have hclose : Piece.isQuiet (.fixed ") ") = true := by decide +kernel
  simp only [guard, List.all_append, List.all_cons, List.all_nil, isQuiet_check, hopen, hclose,
    Bool.and_self]

/-- A question is quiet. -/
theorem isQuiet_ask : (sought.pieces .ask).all Piece.isQuiet = true := by
  have hopen : Piece.isQuiet (.fixed "SELECT CAST(CASE WHEN EXISTS (") = true := by decide +kernel
  have hclose : Piece.isQuiet (.fixed ") THEN 1 ELSE 0 END AS bit)") = true := by decide +kernel
  simp only [pieces, Schema.existence, List.all_append, List.all_cons, List.all_nil, isQuiet_check,
    hopen, hclose, Bool.and_self]

/-- The literals of the text are those of the check. -/
theorem literals_text :
    Sql.literals ((sought.pieces purpose).spell .sqlServer) = sought.literals := by
  rw [Sql.literals, tokens_pieces]
  cases purpose with
  | ask =>
    rw [Sql.literal?_tokens_of_isQuiet sought.isQuiet_ask]
    simp only [pieces, Schema.existence, List.filterMap_append, List.filterMap_cons,
      Piece.literal?_fixed, List.filterMap_nil, literals_check, List.nil_append, List.append_nil]
  | drop =>
    obtain ⟨word, rest, htokens, -, hnone, -⟩ := sought.tokens_action
    rw [pieces_drop, List.flatMap_append, List.filterMap_append, htokens, hnone, List.append_nil,
      Sql.literal?_tokens_of_isQuiet sought.isQuiet_guard]
    simp only [guard, List.filterMap_append, List.filterMap_cons, Piece.literal?_fixed,
      List.filterMap_nil, literals_check, List.nil_append, List.append_nil]

/-- What the text changes is what the action of a drop quotes. -/
theorem changedNames_text :
    Sql.changedNames ((sought.pieces purpose).spell .sqlServer) =
      match purpose with
      | .ask => []
      | .drop => sought.names := by
  rw [Sql.changedNames, tokens_pieces]
  cases purpose with
  | ask =>
    have hpassed : ∀ token ∈ (sought.pieces .ask).flatMap Piece.tokens,
        (!token.startsAction) = true := fun token htoken => by
      rw [Sql.startsAction_of_isQuiet sought.isQuiet_ask htoken, Bool.not_false]
    rw [List.dropWhile_eq_nil_iff.mpr hpassed, List.filterMap_nil]
  | drop =>
    -- Nothing in the guard begins an action, so the names are those behind the guard.
    have hpassed : ∀ token ∈ sought.guard.flatMap Piece.tokens, (!token.startsAction) = true :=
      fun token htoken => by
        rw [Sql.startsAction_of_isQuiet sought.isQuiet_guard htoken, Bool.not_false]
    obtain ⟨word, rest, htokens, hword, -, hnames⟩ := sought.tokens_action
    rw [pieces_drop, List.flatMap_append, List.dropWhile_append_of_pos hpassed, htokens,
      List.dropWhile_cons_of_neg (by simp [hword]), hnames]

/-! ## Names that survive -/

/-- All literals of a check or a guard that are not ASCII are national exactly if the names in
ordinary literals are ASCII.  Exactly then every server compares the names as they stand, which
are those that a drop changes. -/
theorem names_survive_iff :
    ∃ statement, (sought.operation purpose).statement = .ok statement ∧
      ((∀ literal ∈ Sql.literals statement.text,
          isAscii literal.text = false → literal.national = true) ↔ sought.HasAsciiNames) ∧
      ((∀ page : CodePage, (Sql.literals statement.text).map page.received = sought.texts) ↔
        sought.HasAsciiNames) ∧
      Sql.changedNames statement.text =
        match purpose with
        | .ask => []
        | .drop => sought.names := by
  obtain ⟨statement, hstatement, htext⟩ := exists_statement sought purpose
  refine ⟨statement, hstatement, ?_, ?_, ?_⟩
  · rw [htext, literals_text]
    exact sought.literals_national_iff
  · rw [htext, literals_text, ← sought.map_text_literals, CodePage.received_eq_iff]
    exact sought.literals_national_iff
  · rw [htext]
    exact sought.changedNames_text purpose

/-- The guard of a column whose name is not ASCII has it in an ordinary literal, so a server
can look for another name than the one that the action drops. -/
theorem not_names_survive_umlaut :
    ∃ statement, (operation (.column ⟨"t", none⟩ "Größe") .drop).statement = .ok statement ∧
      ⟨false, "Größe"⟩ ∈ Sql.literals statement.text ∧ isAscii "Größe" = false ∧
      (Sql.literals statement.text).map CodePage.asciiOnly.received = ["t", "Gr??e"] ∧
      Sql.changedNames statement.text = ["t", "Größe"] := by
  obtain ⟨statement, hstatement, htext⟩ := exists_statement (.column ⟨"t", none⟩ "Größe") .drop
  refine ⟨statement, hstatement, ?_, by decide, ?_, ?_⟩
  · rw [htext, literals_text]
    exact List.mem_cons_of_mem _ List.mem_cons_self
  · rw [htext, literals_text]
    decide
  · rw [htext, changedNames_text]
    rfl

end Sought

end SqlScribe
