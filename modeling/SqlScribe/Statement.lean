import SqlScribe.Value.Document

/-!
# Statements

A statement is text with its bound values, the shape of its result and the way
the server is to take the text.

Main definitions:

- `Statement` is the type of statements; `Procedure` builds calls of stored
  procedures.
- `Statement.toJson` writes a statement and `Statement.ofJson?` reads one.
-/

namespace SqlScribe

/-- The shape of a result. -/
inductive ResultShape where
  /-- Nothing but the number of affected rows. -/
  | none
  | scalar
  | single (orNone : Bool)
  | multiple
deriving DecidableEq, Repr

/-- How the server takes the text of a statement. -/
inductive CommandKind where
  | text
  | procedure
deriving DecidableEq, Repr

/-- A statement. -/
structure Statement where
  text : String
  parameters : List Parameter := []
  result : ResultShape
  kind : CommandKind := .text
deriving DecidableEq

/-- The first bound value with a name. -/
def Statement.parameter? (statement : Statement) (name : String) : Option Parameter :=
  statement.parameters.find? (·.name = name)

/-! ## Stored procedures -/

/-- A call of a stored procedure. -/
structure Procedure where
  name : String
  parameters : List Parameter := []
  result : ResultShape := .none

namespace Procedure

/-- The name of an argument with an at sign in front. -/
def parameterName (name : String) : String :=
  if name.toList.head? = some '@' then name else "@" ++ name

/-- The call with a further argument. -/
def withParameter (procedure : Procedure) (name : String) (value : Value) : Procedure :=
  { procedure with
    parameters := procedure.parameters ++ [⟨parameterName name, value⟩] }

/-- The statement that makes the call. -/
def statement (procedure : Procedure) : Statement :=
  { text := procedure.name
    parameters := procedure.parameters
    result := procedure.result
    kind := .procedure }

end Procedure

/-! ## Documents -/

namespace ResultShape

/-- The document of a shape. -/
def toJson : ResultShape → Json
  | .none => .text "None"
  | .scalar => .text "Scalar"
  | .single orNone => .object [("Single", .object [("or_none", .bool orNone)])]
  | .multiple => .text "Multiple"

/-- Reads the document of a shape. -/
def ofJson? (document : Json) : Option ResultShape :=
  match document.name? with
  | some "None" => some .none
  | some "Scalar" => some .scalar
  | some "Multiple" => some .multiple
  | _ =>
    match document.variant? with
    | some ("Single", some payload) => do
      let record ← payload.fields? ["or_none"]
      let orNone ← record.required? "or_none" Json.bool?
      some (.single orNone)
    | _ => Option.none

/-- Every shape is read back from its document. -/
@[simp] theorem ofJson?_toJson (shape : ResultShape) : ofJson? shape.toJson = some shape := by
  cases shape <;> rfl

end ResultShape

namespace CommandKind

/-- The document of a command kind. -/
def toJson : CommandKind → Json
  | .text => .text "Text"
  | .procedure => .text "StoredProcedure"

/-- Reads the document of a command kind. -/
def ofJson? (document : Json) : Option CommandKind :=
  match document.name? with
  | some "Text" => some .text
  | some "StoredProcedure" => some .procedure
  | _ => none

/-- Every command kind is read back from its document. -/
@[simp] theorem ofJson?_toJson (kind : CommandKind) : ofJson? kind.toJson = some kind := by
  cases kind <;> rfl

end CommandKind

namespace Statement

/-- The document of a statement. -/
def toJson (statement : Statement) : Json :=
  .object
    [("text", .text statement.text),
     ("parameters", .array (statement.parameters.map Parameter.toJson)),
     ("result", statement.result.toJson), ("kind", statement.kind.toJson)]

/-- Reads the document of a statement. -/
def ofJson? (document : Json) : Option Statement := do
  let record ← document.record? ["text", "parameters", "result", "kind"]
  let text ← record.required? "text" Json.text?
  let parameters ← record.defaulted? "parameters" [] (Json.listOf? Parameter.ofJson?)
  let result ← record.required? "result" ResultShape.ofJson?
  let kind ← record.defaulted? "kind" .text CommandKind.ofJson?
  some { text, parameters, result, kind }

end Statement

end SqlScribe
