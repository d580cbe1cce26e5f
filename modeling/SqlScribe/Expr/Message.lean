import SqlScribe.Expr.Basic
import SqlScribe.Value.Message

/-!
# Expressions in messages

Main definitions:

- `Expr.message` is the form of an expression in messages.
-/

namespace SqlScribe.Expr

open Messages (call list record)

/-- The form of a search place in messages. -/
def placeName : SearchPlace → String
  | .start => "StartsWith"
  | .finish => "EndsWith"
  | .anywhere => "Contains"

mutual

/-- The form of an expression in messages. -/
def message : Expr → String
  | .field name => call "Field" (Text.escaped name)
  | .value constant => call "Value" constant.message
  | .upper text => call "Function" (call "ToUpper" text.message)
  | .lower text => call "Function" (call "ToLower" text.message)
  | .trim text => call "Function" (call "Trim" text.message)
  | .length text => call "Function" (call "Length" text.message)
  | .substring text start count =>
    call "Function" (record "Substring"
      [("text", text.message), ("start", start.message), ("length", messageOption count)])
  | .replace text term replacement =>
    call "Function" (record "Replace"
      [("text", text.message), ("search", term.message), ("replacement", replacement.message)])
  | .indexOf text term =>
    call "Function" (record "IndexOf" [("text", text.message), ("value", term.message)])
  | .concat parts => call "Function" (call "Concat" (list (messages parts)))
  | .coalesce parts => call "Function" (call "Coalesce" (list (messages parts)))
  | .convert operand type =>
    call "Function" (record "Convert" [("projection", operand.message), ("to", type.message)])
  | .search place text term =>
    call "Function" (record (placeName place) [("text", text.message), ("value", term.message)])
  | .among operand values =>
    call "Function" (record "In"
      [("projection", operand.message), ("values", list (messages values))])

/-- The form of an optional expression. -/
def messageOption : Option Expr → String
  | none => "None"
  | some expr => call "Some" expr.message

/-- The forms of several expressions. -/
def messages : List Expr → List String
  | [] => []
  | expr :: rest => expr.message :: messages rest

end

end SqlScribe.Expr
