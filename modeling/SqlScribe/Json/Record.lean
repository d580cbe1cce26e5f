import SqlScribe.Json.Basic

/-!
# Records in documents

A record is written as an object, whose unknown members are ignored, or as the
array of its fields in their declared order, whose last fields may be left out.

Main definitions:

- `Json.record?` reads either form against a list of field names.
- `Record.required?`, `Record.optional?` and `Record.defaulted?` read one field.
-/

namespace SqlScribe

/-- The fields of a record that are present, by name. -/
structure Record where
  fields : List (String × Json)

namespace Record

/-- The document of a field. -/
def field? (record : Record) (name : String) : Option Json := record.fields.lookup name

/-- A field that must be present. -/
def required? {α : Type} (record : Record) (name : String) (read : Json → Option α) : Option α :=
  match record.field? name with
  | some document => read document
  | none => none

/-- A field that may be absent or null. -/
def optional? {α : Type} (record : Record) (name : String) (read : Json → Option α) :
    Option (Option α) :=
  match record.field? name with
  | none | some .null => some none
  | some document => (read document).map some

/-- A field that may be absent but not null. -/
def defaulted? {α : Type} (record : Record) (name : String) (default : α) (read : Json → Option α) :
    Option α :=
  match record.field? name with
  | some document => read document
  | none => some default

end Record

namespace Json

/-- Whether no name occurs twice. -/
def distinctNames : List (String × Json) → Bool
  | [] => true
  | (name, _) :: rest => rest.all (·.1 != name) && distinctNames rest

/-- The fields of a record written as an object; a known field must not occur
twice. -/
def fields? (names : List String) : Json → Option Record
  | .object members =>
    let known := members.filter (names.contains ·.1)
    if distinctNames known then some ⟨known⟩ else none
  | _ => none

/-- The fields of a record written as an object or as an array. -/
def record? (names : List String) : Json → Option Record
  | .array items => if items.length ≤ names.length then some ⟨names.zip items⟩ else none
  | document => document.fields? names

end Json

end SqlScribe
