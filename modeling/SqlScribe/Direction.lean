import SqlScribe.Json.Record

/-!
# Directions of an ordering

Main definitions:

- `Direction` says whether rows come in ascending or descending order.
-/

namespace SqlScribe

/-- The direction of an ordering. -/
inductive Direction where
  | ascending
  | descending
deriving DecidableEq, Repr

namespace Direction

/-- The keyword of a direction. -/
def sql : Direction → String
  | .ascending => "ASC"
  | .descending => "DESC"

/-- The document of a direction. -/
def toJson : Direction → Json
  | .ascending => .text "Ascending"
  | .descending => .text "Descending"

/-- Reads the document of a direction. -/
def ofJson? (document : Json) : Option Direction :=
  match document.name? with
  | some "Ascending" => some .ascending
  | some "Descending" => some .descending
  | _ => none

/-- Every direction is read back from its document. -/
@[simp] theorem ofJson?_toJson (direction : Direction) :
    ofJson? direction.toJson = some direction := by
  cases direction <;> rfl

end Direction

end SqlScribe
