import SqlScribe.CommandLine.Options
import SqlScribe.Query.Document
import SqlScribe.Schema.Operation

/-!
# Invocations

An invocation names one task, the format of the output, and at most one file that
describes what the task is about.

Main definitions:

- `Task` lists the tasks and `Invocation.parse?` reads an invocation.
- `Task.file?` is the file that a task needs.
-/

namespace SqlScribe

/-- The format of the output. -/
inductive OutputFormat where
  | sql
  | json
deriving DecidableEq, Repr

/-- The format with a name. -/
def OutputFormat.ofName? : String → Option OutputFormat
  | "sql" => some .sql
  | "json" => some .json
  | _ => none

/-- A task. -/
inductive Task where
  | createTable (file : String)
  | addColumn (table file : String)
  | dropTable (table : String)
  | dropColumn (table column : String)
  | addIndex (table : String) (keys : List String) (name : Option String)
      (unique clustered : Bool)
  | dropIndex (table index : String)
  | existence (table : String) (column index : Option String)
  | columns (table : String)
  | indexes (table : String)
  | select (file : String)
  | sharedColumns (tables : List String) (into : Option String)
deriving DecidableEq

/-- A task and the format of its output. -/
structure Invocation where
  format : OutputFormat
  task : Task
deriving DecidableEq

namespace Task

/-- The file that a task needs. -/
def file? : Task → Option String
  | .createTable file | .addColumn _ file | .select file => some file
  | _ => none

/-! ## Reading tasks -/

/-- The options of a task. -/
def options : String → List OptionSpec
  | "add-index" =>
    [{ name := "name", short := some 'n', takesValue := true }, { name := "unique" },
     { name := "clustered" }]
  | "exists" => [{ name := "column", takesValue := true }, { name := "index", takesValue := true }]
  | "shared-columns" => [{ name := "into", takesValue := true }]
  | _ => []

/-- A path names something. -/
def isPath (argument : String) : Bool := argument ≠ ""

/-- The task with a name and sorted arguments. -/
def ofArguments? (name : String) (arguments : SortedArguments) : Option Task :=
  match name, arguments.positionals with
  | "create-table", [file] => if isPath file then some (.createTable file) else none
  | "add-column", [table, file] => if isPath file then some (.addColumn table file) else none
  | "drop-table", [table] => some (.dropTable table)
  | "drop-column", [table, column] => some (.dropColumn table column)
  | "add-index", table :: key :: keys =>
    some (.addIndex table (key :: keys) (arguments.value? "name") (arguments.has "unique")
      (arguments.has "clustered"))
  | "drop-index", [table, index] => some (.dropIndex table index)
  | "exists", [table] =>
    if arguments.has "column" && arguments.has "index" then none
    else some (.existence table (arguments.value? "column") (arguments.value? "index"))
  | "columns", [table] => some (.columns table)
  | "indexes", [table] => some (.indexes table)
  | "select", [file] => if isPath file then some (.select file) else none
  | "shared-columns", table :: tables =>
    some (.sharedColumns (table :: tables) (arguments.value? "into"))
  | _, _ => none

end Task

namespace Invocation

/-- The options in front of the task. -/
def options : List OptionSpec :=
  [{ name := "format", short := some 'f', takesValue := true },
   { name := "verbose", short := some 'v' }]

/-- The format of the output: the option counts before the environment. -/
def format? (arguments : SortedArguments) (environment : Option String) : Option OutputFormat :=
  match arguments.value? "format" <|> environment with
  | some name => OutputFormat.ofName? name
  | none => some .sql

/-- Reads an invocation, given the format that the environment asks for. -/
def parse? (environment : Option String) (arguments : List String) : Option Invocation := do
  let (leading, rest) ← OptionSpec.parseLeading? options arguments
  let format ← if leading.hasDistinctOptions then format? leading environment else none
  match rest with
  | [] => none
  | name :: rest => do
    let sorted ← OptionSpec.parse? (Task.options name) rest
    let task ← Task.ofArguments? name sorted
    some { format, task }

end Invocation

end SqlScribe
