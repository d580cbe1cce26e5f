import SqlScribe.CommandLine.Output

/-!
# The command line

The program renders the statements of one task to its output.  A wrong invocation
ends it with code 2, any other failure with code 1 and the reason on the error
stream.

Main definitions:

- `main` is the program.
-/

open SqlScribe

/-- Renders the statements of the task that the arguments name. -/
def main (arguments : List String) : IO UInt32 := do
  let environment ← IO.getEnv "OXIDE_TSQL_FORMAT"
  match Invocation.parse? environment arguments with
  | none =>
    IO.eprintln "error: invalid arguments"
    return 2
  | some invocation =>
    let content ←
      match invocation.task.file? with
      | none => pure none
      | some path =>
        try
          let text ← IO.FS.readFile path
          pure (some text)
        catch _ => pure none
    match invocation.output content with
    | .ok text =>
      IO.print text
      return 0
    | .error reason =>
      IO.eprintln ("Error: " ++ reason.message)
      return 1
