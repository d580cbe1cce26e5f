import SqlScribe.Expr.Message
import SqlScribe.Column.Document

/-!
# Expressions as documents

An expression is a choice of three, `Field`, `Value` and `Function`, and a
function is again a choice named for what it does.

Main definitions:

- `Expr.toJson` writes an expression and `Expr.ofJson?` reads one.
-/

namespace SqlScribe.Expr

/-! ## Writing -/

/-- The document of a function with the given name and payload. -/
def functionJson (name : String) (payload : Json) : Json :=
  .object [("Function", .object [(name, payload)])]

mutual

/-- The document of an expression. -/
def toJson : Expr → Json
  | .field name => .object [("Field", .text name)]
  | .value constant => .object [("Value", constant.toJson)]
  | .upper text => functionJson "ToUpper" text.toJson
  | .lower text => functionJson "ToLower" text.toJson
  | .trim text => functionJson "Trim" text.toJson
  | .length text => functionJson "Length" text.toJson
  | .substring text start count =>
    functionJson "Substring" (.object
      [("text", text.toJson), ("start", start.toJson), ("length", optionToJson count)])
  | .replace text term replacement =>
    functionJson "Replace" (.object
      [("text", text.toJson), ("search", term.toJson), ("replacement", replacement.toJson)])
  | .indexOf text term =>
    functionJson "IndexOf" (.object [("text", text.toJson), ("value", term.toJson)])
  | .concat parts => functionJson "Concat" (.array (listToJson parts))
  | .coalesce parts => functionJson "Coalesce" (.array (listToJson parts))
  | .convert operand type =>
    functionJson "Convert" (.object [("projection", operand.toJson), ("to", type.toJson)])
  | .search place text term =>
    functionJson (placeName place) (.object [("text", text.toJson), ("value", term.toJson)])
  | .among operand values =>
    functionJson "In" (.object
      [("projection", operand.toJson), ("values", .array (listToJson values))])

/-- The document of an optional expression. -/
def optionToJson : Option Expr → Json
  | none => .null
  | some expr => expr.toJson

/-- The documents of several expressions. -/
def listToJson : List Expr → List Json
  | [] => []
  | expr :: rest => expr.toJson :: listToJson rest

end

/-! ## Reading -/

/-- The function with a name and a payload, given a reader of its arguments. -/
def functionOf? (read : Json → Option Expr) (name : String) (payload : Json) : Option Expr :=
  let search? (place : SearchPlace) : Option Expr := do
    let record ← payload.fields? ["text", "value"]
    let text ← record.required? "text" read
    let term ← record.required? "value" read
    some (.search place text term)
  match name with
  | "ToUpper" => (read payload).map .upper
  | "ToLower" => (read payload).map .lower
  | "Trim" => (read payload).map .trim
  | "Length" => (read payload).map .length
  | "Substring" => do
    let record ← payload.fields? ["text", "start", "length"]
    let text ← record.required? "text" read
    let start ← record.required? "start" read
    let count ← record.optional? "length" read
    some (.substring text start count)
  | "Replace" => do
    let record ← payload.fields? ["text", "search", "replacement"]
    let text ← record.required? "text" read
    let term ← record.required? "search" read
    let replacement ← record.required? "replacement" read
    some (.replace text term replacement)
  | "IndexOf" => do
    let record ← payload.fields? ["text", "value"]
    let text ← record.required? "text" read
    let term ← record.required? "value" read
    some (.indexOf text term)
  | "Concat" => (payload.listOf? read).map .concat
  | "Coalesce" => (payload.listOf? read).map .coalesce
  | "Convert" => do
    let record ← payload.fields? ["projection", "to"]
    let operand ← record.required? "projection" read
    let type ← record.required? "to" ColumnType.ofJson?
    some (.convert operand type)
  | "StartsWith" => search? .start
  | "EndsWith" => search? .finish
  | "Contains" => search? .anywhere
  | "In" => do
    let record ← payload.fields? ["projection", "values"]
    let operand ← record.required? "projection" read
    let values ← record.required? "values" (Json.listOf? read)
    some (.among operand values)
  | _ => none

/-- Reads a document of at most the given depth. -/
def readWithin? : Nat → Json → Option Expr
  | 0, _ => none
  | depth + 1, document =>
    match document.variant? with
    | some ("Field", some payload) => payload.text?.map .field
    | some ("Value", some payload) => (Value.ofJson? payload).map .value
    | some ("Function", some payload) =>
      match payload.variant? with
      | some (name, some argument) => functionOf? (readWithin? depth) name argument
      | _ => none
    | _ => none

/-- Reads the document of an expression. -/
def ofJson? (document : Json) : Option Expr := readWithin? document.depth document

end SqlScribe.Expr
