import SqlScribe.CommandLine.Invocation
import SqlScribe.Json.Printer
import SqlScribe.Json.Reader
import SqlScribe.Query.Statement

/-!
# The output of an invocation

Main definitions:

- `Invocation.statements` renders the statements of a task.
- `Invocation.output` gives them the wanted format.
- `InvocationError` lists what can go wrong.
-/

namespace SqlScribe

/-- What can go wrong in an invocation. -/
inductive InvocationError where
  | unreadable (path : String)
  | malformed (path : String)
  | unknownOrder (order key : String)
  | render (reason : RenderError)

/-- The wording of an error. -/
def InvocationError.message : InvocationError → String
  | .unreadable path => "Failed to read " ++ path
  | .malformed path => "Failed to parse " ++ path
  | .unknownOrder order key => "Unknown sort order '" ++ order ++ "' in '" ++ key ++ "'"
  | .render reason => reason.message

/-! ## Files -/

/-- What a file says about a table. -/
structure TableDefinition where
  table : Table
  columns : List Column
  indexes : List Index

namespace TableDefinition

/-- Reads the document of a table's definition. -/
def ofJson? (document : Json) : Option TableDefinition := do
  let record ← document.record? ["name", "schema", "columns", "indexes"]
  let name ← record.required? "name" Json.text?
  let schema ← record.optional? "schema" Json.text?
  let columns ← record.required? "columns" (Json.listOf? Column.ofJson?)
  let indexes ← record.defaulted? "indexes" [] (Json.listOf? Index.ofJson?)
  some { table := ⟨name, schema⟩, columns, indexes }

/-- The operations that create the table with its indexes. -/
def operations (definition : TableDefinition) : List SchemaOperation :=
  .createTable definition.table definition.columns ::
    definition.indexes.map (.addIndex definition.table)

end TableDefinition

/-- Reads what a file says; the content is absent if the file cannot be read. -/
def readFile {α : Type} (read : Json → Option α) (path : String) (content : Option String) :
    Except InvocationError α :=
  match content with
  | none => .error (.unreadable path)
  | some text =>
    match (Json.ofText? text).bind read with
    | some value => .ok value
    | none => .error (.malformed path)

/-! ## Columns of an index -/

/-- Splits text at the last occurrence of a character. -/
def splitLast? (mark : Char) (text : List Char) : Option (List Char × List Char) :=
  (Table.splitFirst? mark text.reverse).map fun (after, before) =>
    (before.reverse, after.reverse)

namespace IndexKey

/-- Reads a column of an index, with a direction after the last colon. -/
def ofSpelling (spelling : String) : Except InvocationError IndexKey :=
  match splitLast? ':' spelling.toList with
  | none => .ok ⟨spelling, .ascending⟩
  | some (name, order) =>
    let order := String.ofList order
    if Text.equalsIgnoringAsciiCase order "asc" then .ok ⟨String.ofList name, .ascending⟩
    else if Text.equalsIgnoringAsciiCase order "desc" then .ok ⟨String.ofList name, .descending⟩
    else .error (.unknownOrder order spelling)

end IndexKey

/-! ## Statements -/

namespace Task

/-- Renders operations one after the other. -/
def render (operations : List SchemaOperation) : Except InvocationError (List Statement) :=
  (SchemaOperation.statements operations).mapError .render

/-- The statements of a task, given the content of its file. -/
def statements (content : Option String) : Task → Except InvocationError (List Statement)
  | .createTable file => do
    let definition ← readFile TableDefinition.ofJson? file content
    render definition.operations
  | .addColumn table file => do
    let column ← readFile Column.ofJson? file content
    render [.addColumn (Table.ofQualified table) column]
  | .dropTable table => render [.dropTable (Table.ofQualified table)]
  | .dropColumn table column => render [.dropColumn (Table.ofQualified table) column]
  | .addIndex table keys name unique clustered => do
    let keys ← keys.mapM IndexKey.ofSpelling
    render [.addIndex (Table.ofQualified table) { name, keys, clustered, unique }]
  | .dropIndex table index => render [.dropIndex (Table.ofQualified table) index]
  | .existence table column index =>
    let table := Table.ofQualified table
    render
      [match column, index with
        | some column, _ => .columnExists table column
        | none, some index => .indexExists table index
        | none, none => .tableExists table]
  | .columns table => render [.tableColumns (Table.ofQualified table)]
  | .indexes table => render [.tableIndexes (Table.ofQualified table)]
  | .select file => do
    let query ← readFile Query.ofJson? file content
    let statement ← query.statement.mapError .render
    .ok [statement]
  | .sharedColumns tables into =>
    let query := Query.union (tables.map Table.ofQualified)
    render
      [match into with
        | some into => .sharedColumns query (Table.ofQualified into)
        | none => .unionColumns query]

end Task

/-! ## Formats -/

namespace Statement

/-- A bound value as a comment of a script. -/
def parameterComment (parameter : Parameter) : String :=
  "-- " ++ parameter.name ++ " = " ++ parameter.value.inline ++ "\n"

/-- A statement in a script: its bound values as comments, then its text. -/
def script (statement : Statement) : String :=
  String.join (statement.parameters.map parameterComment) ++ statement.text ++ ";\n"

end Statement

/-- Statements in a format. -/
def OutputFormat.write (format : OutputFormat) (statements : List Statement) : String :=
  match format with
  | .sql => String.join (statements.map (·.script))
  | .json => (Json.array (statements.map (·.toJson))).pretty

/-- The output of an invocation, given the content of its file. -/
def Invocation.output (invocation : Invocation) (content : Option String) :
    Except InvocationError String :=
  (invocation.task.statements content).map invocation.format.write

end SqlScribe
