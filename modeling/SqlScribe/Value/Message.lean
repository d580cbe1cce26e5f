import SqlScribe.Value.Basic
import SqlScribe.Text.Escaped

/-!
# Values in messages

Messages show a value by its kind and its contents, so that a text and a number
of the same spelling stay apart.

Main definitions:

- `Value.message` is the form of a value in messages.
- `Messages.call`, `Messages.record` and `Messages.list` lay out nested parts.
-/

namespace SqlScribe

namespace Messages

/-- A name with one part in parentheses. -/
def call (name content : String) : String := name ++ "(" ++ content ++ ")"

/-- A list of parts in brackets. -/
def list (parts : List String) : String := "[" ++ ", ".intercalate parts ++ "]"

/-- A name with named parts in braces. -/
def record (name : String) (parts : List (String × String)) : String :=
  name ++ " \x7b " ++ ", ".intercalate (parts.map fun (field, text) => field ++ ": " ++ text) ++
    " \x7d"

end Messages

namespace Value

/-- The form of a value in messages. -/
def message : Value → String
  | .null => "Null"
  | .bool value => Messages.call "Bool" (if value then "true" else "false")
  | .int value => Messages.call "Int" (toString value.toInt)
  | .float value => Messages.call "Float" (FloatLayout.inMessages.write value)
  | .text value => Messages.call "Text" (Text.escaped value)
  | .blob bytes =>
    Messages.call "Blob" (Messages.list (bytes.map fun byte => toString byte.toNat))
  | .guid value => Messages.call "Guid" value.write
  | .dateTime value => Messages.call "DateTime" value.write

end Value

end SqlScribe
