import SqlScribe.Value.Basic
import SqlScribe.Json.Record

/-!
# Values as documents

A value is a choice named for its kind, with its contents as payload.

Main definitions:

- `Value.toJson` writes a value and `Value.ofJson?` reads one.
- `Parameter.toJson` and `Parameter.ofJson?` do the same for bound values.
-/

namespace SqlScribe

namespace Value

/-- The document of a value. -/
def toJson : Value → Json
  | .null => .text "Null"
  | .bool value => .object [("Bool", .bool value)]
  | .int value => .object [("Int", .int value.toInt)]
  | .float value => .object [("Float", if value.isFinite then .float value else .null)]
  | .text value => .object [("Text", .text value)]
  | .blob bytes => .object [("Blob", .array (bytes.map fun byte => .int byte.toNat))]
  | .guid value => .object [("Guid", .text value.write)]
  | .dateTime value => .object [("DateTime", .text value.write)]

/-- The value that the name of a choice and its payload stand for. -/
def ofPayload? (name : String) (payload : Json) : Option Value :=
  match name with
  | "Bool" => payload.bool?.map .bool
  | "Int" => payload.int64?.map .int
  | "Float" => payload.float?.map .float
  | "Text" => payload.text?.map .text
  | "Blob" => (payload.listOf? Json.uint8?).map .blob
  | "Guid" => (payload.text?.bind Guid.read?).map .guid
  | "DateTime" => (payload.text?.bind DateTime.read?).map .dateTime
  | _ => none

/-- Reads the document of a value. -/
def ofJson? (document : Json) : Option Value :=
  if document.name? = some "Null" then some .null
  else
    match document.variant? with
    | some (name, some payload) => ofPayload? name payload
    | _ => none

end Value

namespace Parameter

/-- The document of a bound value. -/
def toJson (parameter : Parameter) : Json :=
  .object [("name", .text parameter.name), ("value", parameter.value.toJson)]

/-- Reads the document of a bound value. -/
def ofJson? (document : Json) : Option Parameter := do
  let record ← document.record? ["name", "value"]
  let name ← record.required? "name" Json.text?
  let value ← record.required? "value" Value.ofJson?
  some ⟨name, value⟩

end Parameter

end SqlScribe
