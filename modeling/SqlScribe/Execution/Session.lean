import SqlScribe.Catalog.Rows
import SqlScribe.Schema.Operation

/-!
# Executing statements

A connection takes one command at a time and answers with rows, with a number of
affected rows or with an error.  A session sends statements over a connection and
turns the answers into results of the shape that the statement announces.

Main definitions:

- `Connection` is what a session needs of a connection with states of some type.
- `Session` offers one function for each shape of result, and `Session.run`, which
  follows the shape that the statement announces.
- `ExecutionError` lists what can go wrong.
-/

namespace SqlScribe

/-! ## Rows -/

namespace Row

/-- Sets a value; a new name comes last. -/
def setCell (name : String) (value : Json) : List (String × Json) → List (String × Json)
  | [] => [(name, value)]
  | cell :: rest =>
    if cell.1 = name then (name, value) :: rest else cell :: setCell name value rest

/-- Setting a value keeps the names, or adds the new one behind them. -/
theorem names_setCell (name : String) (value : Json) (cells : List (String × Json)) :
    (setCell name value cells).map (·.1) =
      if name ∈ cells.map (·.1) then cells.map (·.1) else cells.map (·.1) ++ [name] := by
  induction cells with
  | nil => simp [setCell]
  | cons cell rest ih =>
    by_cases same : cell.1 = name
    · simp [setCell, same]
    · simp only [setCell, same, if_false, List.map_cons, ih, List.mem_cons, Ne.symm same, false_or]
      split <;> simp

/-- Setting a value keeps names distinct. -/
theorem nodup_setCell (name : String) (value : Json) {cells : List (String × Json)}
    (distinct : (cells.map (·.1)).Nodup) : ((setCell name value cells).map (·.1)).Nodup := by
  rw [names_setCell]
  split
  · exact distinct
  · next fresh =>
    refine List.nodup_append.mpr ⟨distinct, by simp, fun a member b single => ?_⟩
    simp only [List.mem_singleton] at single
    exact fun same => fresh (single ▸ same ▸ member)

end Row

/-- A row: values by the name of their column, in order. -/
structure Row where
  cells : List (String × Json)
  distinct : (cells.map (·.1)).Nodup

namespace Row

/-- The row without cells. -/
def empty : Row := ⟨[], by simp⟩

/-- The row with a value set; a new name comes last. -/
def set (row : Row) (name : String) (value : Json) : Row :=
  ⟨setCell name value row.cells, nodup_setCell name value row.distinct⟩

/-- The row with the given cells; of two with the same name the later value counts. -/
def ofCells (cells : List (String × Json)) : Row :=
  cells.foldl (fun row cell => row.set cell.1 cell.2) empty

/-- The document of a row. -/
def toJson (row : Row) : Json := .object row.cells

/-- Reads the document of a row. -/
def ofJson? : Json → Option Row
  | .object cells => some (ofCells cells)
  | _ => none

/-- The value of the first column. -/
def firstValue? (row : Row) : Option Json := row.cells.head?.map (·.2)

end Row

/-! ## Connections -/

/-- How a session sends its commands. -/
structure CommandConfig where
  timeoutSeconds : UInt64 := 300
deriving DecidableEq

namespace CommandConfig

/-- The configuration with a time limit in milliseconds, cut to whole seconds. -/
def ofMilliseconds (milliseconds : UInt64) : CommandConfig := ⟨milliseconds / 1000⟩

/-- The document of a configuration. -/
def toJson (config : CommandConfig) : Json :=
  .object [("timeout_seconds", .int config.timeoutSeconds.toNat)]

/-- Reads the document of a configuration. -/
def ofJson? (document : Json) : Option CommandConfig := do
  let record ← document.record? ["timeout_seconds"]
  let timeoutSeconds ← record.defaulted? "timeout_seconds" 300 Json.uint64?
  some { timeoutSeconds }

end CommandConfig

/-- A statement on its way to the server. -/
structure Command where
  statement : Statement
  timeoutSeconds : UInt64
deriving DecidableEq

/-- What a session needs of a connection whose states are of type `σ`.  Errors are
texts. -/
structure Connection (σ : Type) where
  /-- Runs a command and counts the affected rows. -/
  execute : Command → σ → Except String UInt64 × σ
  /-- Runs a command and returns its rows. -/
  query : Command → σ → Except String (List Row) × σ

/-! ## Errors -/

/-- What can go wrong in a session. -/
inductive ExecutionError where
  | connection (text : String)
  | noRows
  | multipleRows (count : Nat)
  /-- The source tables of a query share no columns. -/
  | schemaMismatch (tables : List String)
  | render (reason : RenderError)
  | undecodable

/-- The wording of an error. -/
def ExecutionError.message : ExecutionError → String
  | .connection text => "Connection error: " ++ text
  | .noRows => "Expected one row, got none"
  | .multipleRows count => "Expected at most one row, got " ++ toString count
  | .schemaMismatch tables =>
    "Schema mismatch: no columns are shared by " ++ ", ".intercalate tables
  | .render reason => reason.message
  | .undecodable => "Row decode error"

/-- Columns that tables share, of which there must be one. -/
def ensureShared {α : Type} (columns : List α) (query : Query) : Except ExecutionError (List α) :=
  if columns.isEmpty then
    .error (.schemaMismatch (query.sourceTables.map (·.objectName)))
  else .ok columns

/-! ## Sessions -/

/-- A result of the shape that a statement announces. -/
inductive Outcome where
  | affected (count : UInt64)
  | scalar (value : Option Json)
  | row (row : Option Row)
  | rows (rows : List Row)

/-- A connection and how commands are sent over it. -/
structure Session (σ : Type) where
  connection : Connection σ
  config : CommandConfig

/-- A step of a session: it may fail, and changes the state of the connection even
then. -/
abbrev SessionStep (σ α : Type) := ExceptT ExecutionError (StateM σ) α

namespace SessionStep

/-- A step that sends nothing. -/
def ofExcept {σ α : Type} (result : Except ExecutionError α) : SessionStep σ α :=
  fun state => (result, state)

/-- A step that reads a document. -/
def decode {σ α : Type} (read : Json → Option α) (document : Json) : SessionStep σ α :=
  match read document with
  | some value => pure value
  | none => throw .undecodable

end SessionStep

/-- The first value of the first row, unless it is missing. -/
def scalarOf (rows : List Row) : Option Json :=
  match rows.head?.bind Row.firstValue? with
  | some .null | none => none
  | some value => some value

/-- The only row, if there is one. -/
def singleOf (rows : List Row) : Except ExecutionError (Option Row) :=
  if 1 < rows.length then .error (.multipleRows rows.length) else .ok rows.head?

namespace Session

variable {σ α : Type}

/-- The command that carries a statement. -/
def command (session : Session σ) (statement : Statement) : Command :=
  ⟨statement, session.config.timeoutSeconds⟩

/-- Counts the rows that a statement affects. -/
def execute (session : Session σ) (statement : Statement) : SessionStep σ UInt64 := fun state =>
  let (answer, next) := session.connection.execute (session.command statement) state
  (answer.mapError .connection, next)

/-- The rows that a statement returns. -/
def rows (session : Session σ) (statement : Statement) : SessionStep σ (List Row) := fun state =>
  let (answer, next) := session.connection.query (session.command statement) state
  (answer.mapError .connection, next)

/-- The first value that a statement returns. -/
def scalar (session : Session σ) (read : Json → Option α) (statement : Statement) :
    SessionStep σ (Option α) := do
  let rows ← session.rows statement
  match scalarOf rows with
  | some value => do
    let value ← SessionStep.decode read value
    pure (some value)
  | none => pure none

/-- The only row that a statement returns, if there is one. -/
def singleOrNone (session : Session σ) (read : Json → Option α) (statement : Statement) :
    SessionStep σ (Option α) := do
  let rows ← session.rows statement
  let row ← SessionStep.ofExcept (singleOf rows)
  match row with
  | some row => do
    let value ← SessionStep.decode read row.toJson
    pure (some value)
  | none => pure none

/-- The only row that a statement returns. -/
def single (session : Session σ) (read : Json → Option α) (statement : Statement) :
    SessionStep σ α := do
  let value ← session.singleOrNone read statement
  match value with
  | some value => pure value
  | none => throw .noRows

/-- All rows that a statement returns. -/
def many (session : Session σ) (read : Json → Option α) (statement : Statement) :
    SessionStep σ (List α) := do
  let rows ← session.rows statement
  rows.mapM fun row => SessionStep.decode read row.toJson

/-- Runs a statement and returns a result of the shape that it announces. -/
def run (session : Session σ) (statement : Statement) : SessionStep σ Outcome :=
  match statement.result with
  | .none => do
    let count ← session.execute statement
    pure (.affected count)
  | .scalar => do
    let rows ← session.rows statement
    pure (.scalar (scalarOf rows))
  | .single orNone => do
    let rows ← session.rows statement
    let row ← SessionStep.ofExcept (singleOf rows)
    if row.isNone && !orNone then throw .noRows else pure (.row row)
  | .multiple => do
    let rows ← session.rows statement
    pure (.rows rows)

/-- The columns that the sources of a query share with a table. -/
def sharedColumns (session : Session σ) (query : Query) (into : Table) :
    SessionStep σ (List SharedColumn) := do
  let statement ← SessionStep.ofExcept
    ((SchemaOperation.sharedColumns query into).statement.mapError .render)
  let columns ← session.many SharedColumn.ofJson? statement
  SessionStep.ofExcept (ensureShared columns query)

end Session

end SqlScribe
