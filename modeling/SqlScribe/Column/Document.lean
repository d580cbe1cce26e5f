import SqlScribe.Column.Basic
import SqlScribe.Value.Document

/-!
# Columns as documents

Main definitions:

- `Column.toJson` writes a column and `Column.ofJson?` reads one; so do the
  functions of the same names for the parts of a column.
-/

namespace SqlScribe

namespace ColumnType

/-- The document of a declared type. -/
def toJson : ColumnType → Json
  | .host type => .object [("Clr", .text type.documentName)]
  | .sql type => .object [("Sql", .text type.documentName)]

/-- Reads the document of a declared type. -/
def ofJson? (document : Json) : Option ColumnType :=
  match document.variant? with
  | some ("Clr", some type) => (type.name?.bind HostType.ofDocumentName?).map .host
  | some ("Sql", some type) => (type.name?.bind SqlType.ofDocumentName?).map .sql
  | _ => none

/-- Every declared type is read back from its document. -/
@[simp] theorem ofJson?_toJson (type : ColumnType) : ofJson? type.toJson = some type := by
  cases type with
  | host type => simp [toJson, ofJson?, Json.variant?, Json.name?]
  | sql type => simp [toJson, ofJson?, Json.variant?, Json.name?]

end ColumnType

namespace Generator

/-- Reads the document of a generator. -/
def ofJson? (document : Json) : Option Generator := document.name?.bind ofDocumentName?

end Generator

namespace KeyRole

/-- The document of a key role. -/
def toJson : KeyRole → Json
  | .none => .text "None"
  | .primary => .text "PrimaryKey"
  | .clusteredPrimary => .text "ClusteredPrimaryKey"

/-- Reads the document of a key role. -/
def ofJson? (document : Json) : Option KeyRole :=
  match document.name? with
  | some "None" => some .none
  | some "PrimaryKey" => some .primary
  | some "ClusteredPrimaryKey" => some .clusteredPrimary
  | _ => Option.none

/-- Every key role is read back from its document. -/
@[simp] theorem ofJson?_toJson (role : KeyRole) : ofJson? role.toJson = some role := by
  cases role <;> rfl

end KeyRole

namespace ColumnKind

/-- The document of a column kind. -/
def toJson : ColumnKind → Json
  | .stored type => .object [("Stored", type.toJson)]
  | .computed expression persisted =>
    .object [("Computed",
      .object [("expression", .text expression), ("persisted", .bool persisted)])]

/-- Reads the document of a column kind. -/
def ofJson? (document : Json) : Option ColumnKind :=
  match document.variant? with
  | some ("Stored", some type) => (ColumnType.ofJson? type).map .stored
  | some ("Computed", some payload) => do
    let record ← payload.fields? ["expression", "persisted"]
    let expression ← record.required? "expression" Json.text?
    let persisted ← record.required? "persisted" Json.bool?
    some (.computed expression persisted)
  | _ => none

/-- Every column kind is read back from its document. -/
@[simp] theorem ofJson?_toJson (kind : ColumnKind) : ofJson? kind.toJson = some kind := by
  cases kind with
  | stored type => simp [toJson, ofJson?, Json.variant?]
  | computed expression persisted => rfl

end ColumnKind

namespace Default

/-- The document of a default. -/
def toJson : Default → Json
  | .value constant => .object [("Value", constant.toJson)]
  | .generated generator => .object [("Generated", .text generator.documentName)]
  | .expression text => .object [("Expression", .text text)]
  | .auto => .text "Auto"

/-- Reads the document of a default. -/
def ofJson? (document : Json) : Option Default :=
  if document.name? = some "Auto" then some .auto
  else
    match document.variant? with
    | some ("Value", some payload) => (Value.ofJson? payload).map .value
    | some ("Generated", some payload) => (Generator.ofJson? payload).map .generated
    | some ("Expression", some payload) => payload.text?.map .expression
    | _ => none

end Default

namespace Column

/-- A member that is written only if it is present. -/
def presentMember {α : Type} (name : String) (write : α → Json) (value : Option α) :
    List (String × Json) :=
  (value.map fun value => (name, write value)).toList

/-- The document of a column. -/
def toJson (column : Column) : Json :=
  .object (
    [("name", .text column.name), ("kind", column.kind.toJson)] ++
    presentMember "length" (fun n => .int n.toNat) column.length ++
    presentMember "precision" (fun n => .int n.toNat) column.precision ++
    presentMember "scale" (fun n => .int n.toNat) column.scale ++
    [("nullable", .bool column.nullable), ("key", column.key.toJson),
     ("identity", .bool column.identity)] ++
    presentMember "default" Default.toJson column.default)

/-- Reads the document of a column. -/
def ofJson? (document : Json) : Option Column := do
  let record ← document.record?
    ["name", "kind", "length", "precision", "scale", "nullable", "key", "identity", "default"]
  let name ← record.required? "name" Json.text?
  let kind ← record.required? "kind" ColumnKind.ofJson?
  let length ← record.optional? "length" Json.uint32?
  let precision ← record.optional? "precision" Json.uint8?
  let scale ← record.optional? "scale" Json.uint8?
  let nullable ← record.defaulted? "nullable" false Json.bool?
  let key ← record.defaulted? "key" .none KeyRole.ofJson?
  let identity ← record.defaulted? "identity" false Json.bool?
  let default ← record.optional? "default" Default.ofJson?
  some { name, kind, length, precision, scale, nullable, key, identity, default }

end Column

end SqlScribe
