import SqlScribe.Query.Basic

/-!
# Queries as documents

Main definitions:

- `Query.toJson` writes a query and `Query.ofJson?` reads one; so do the
  functions of the same names for the parts of a query.
-/

namespace SqlScribe

/-! ## Parts without queries inside -/

namespace SelectItem

/-- The document of a returned column. -/
def toJson (item : SelectItem) : Json :=
  .object (("projection", item.expr.toJson) ::
    Column.presentMember "alias" Json.text item.label)

/-- Reads the document of a returned column. -/
def ofJson? (document : Json) : Option SelectItem := do
  let record ← document.record? ["projection", "alias"]
  let expr ← record.required? "projection" Expr.ofJson?
  let label ← record.optional? "alias" Json.text?
  some ⟨expr, label⟩

end SelectItem

namespace SortKey

/-- The document of an ordering expression. -/
def toJson (key : SortKey) : Json :=
  .object [("projection", key.expr.toJson), ("order", key.direction.toJson)]

/-- Reads the document of an ordering expression. -/
def ofJson? (document : Json) : Option SortKey := do
  let record ← document.record? ["projection", "order"]
  let expr ← record.required? "projection" Expr.ofJson?
  let direction ← record.defaulted? "order" .ascending Direction.ofJson?
  some ⟨expr, direction⟩

end SortKey

namespace LimitUnit

/-- The document of a unit. -/
def toJson : LimitUnit → Json
  | .rows => .text "Count"
  | .percent => .text "Percent"

/-- Reads the document of a unit. -/
def ofJson? (document : Json) : Option LimitUnit :=
  match document.name? with
  | some "Count" => some .rows
  | some "Percent" => some .percent
  | _ => none

end LimitUnit

namespace RowLimit

/-- The document of a limit. -/
def toJson (limit : RowLimit) : Json :=
  .object [("value", .int limit.amount.toNat), ("kind", limit.unit.toJson)]

/-- Reads the document of a limit. -/
def ofJson? (document : Json) : Option RowLimit := do
  let record ← document.record? ["value", "kind"]
  let amount ← record.required? "value" Json.uint32?
  let unit ← record.defaulted? "kind" .rows LimitUnit.ofJson?
  some ⟨amount, unit⟩

end RowLimit

namespace Target

/-- The document of a target. -/
def toJson : Target → Json
  | .caller => .text "Query"
  | .table destination => .object [("Table", destination.toJson)]

/-- Reads the document of a target. -/
def ofJson? (document : Json) : Option Target :=
  if document.name? = some "Query" then some .caller
  else
    match document.variant? with
    | some ("Table", some payload) => (Table.ofJson? payload).map .table
    | _ => none

end Target

namespace SetOperator

/-- The document of a way of combining. -/
def toJson : SetOperator → Json
  | .intersect => .text "Intersect"
  | .except => .text "Complement"

/-- Reads the document of a way of combining. -/
def ofJson? (document : Json) : Option SetOperator :=
  match document.name? with
  | some "Intersect" => some .intersect
  | some "Complement" => some .except
  | _ => none

end SetOperator

namespace Query

/-! ## Writing queries -/

/-- A list member that is written only if the list is not empty. -/
def listMember (name : String) (items : List Json) : List (String × Json) :=
  if items.isEmpty then [] else [(name, .array items)]

mutual

/-- The document of a query. -/
def toJson : Query → Json
  | ⟨source, target, limit, skip, first, firstOrNone, count, shuffle, items, filter, distinct,
      order, operations⟩ =>
    .object (
      [("source", sourceToJson source), ("target", target.toJson)] ++
      Column.presentMember "top" RowLimit.toJson limit ++
      [("start", .int skip.toNat), ("first", .bool first), ("first_or_default", .bool firstOrNone),
       ("count", .bool count), ("randomize", .bool shuffle)] ++
      listMember "projection" (items.map SelectItem.toJson) ++
      Column.presentMember "filter" Condition.toJson filter ++
      listMember "distinct" (distinct.map Expr.toJson) ++
      listMember "order_by" (order.map SortKey.toJson) ++
      listMember "set_operations" (operationsToJson operations))

/-- The document of a source. -/
def sourceToJson : Source Query → Json
  | .table table => .object [("Table", table.toJson)]
  | .queries queries => .object [("Query", .array (listToJson queries))]

/-- The documents of several queries. -/
def listToJson : List Query → List Json
  | [] => []
  | query :: rest => query.toJson :: listToJson rest

/-- The documents of several set operations. -/
def operationsToJson : List (SetOperation Query) → List Json
  | [] => []
  | ⟨operator, query⟩ :: rest =>
    .object [("operation", operator.toJson), ("select", query.toJson)] :: operationsToJson rest

end

/-! ## Reading queries -/

/-- Reads a source, given a reader of queries. -/
def sourceOf? (read : Json → Option Query) (document : Json) : Option (Source Query) :=
  match document.variant? with
  | some ("Table", some payload) => (Table.ofJson? payload).map .table
  | some ("Query", some payload) => (payload.listOf? read).map .queries
  | _ => none

/-- Reads a set operation, given a reader of queries. -/
def operationOf? (read : Json → Option Query) (document : Json) :
    Option (SetOperation Query) := do
  let record ← document.record? ["operation", "select"]
  let operator ← record.required? "operation" SetOperator.ofJson?
  let query ← record.required? "select" read
  some ⟨operator, query⟩

/-- Reads a query, given a reader of the queries inside it. -/
def recordOf? (read : Json → Option Query) (document : Json) : Option Query := do
  let record ← document.record?
    ["source", "target", "top", "start", "first", "first_or_default", "count", "randomize",
     "projection", "filter", "distinct", "order_by", "set_operations"]
  let source ← record.required? "source" (sourceOf? read)
  let target ← record.defaulted? "target" .caller Target.ofJson?
  let limit ← record.optional? "top" RowLimit.ofJson?
  let skip ← record.defaulted? "start" 0 Json.uint32?
  let first ← record.defaulted? "first" false Json.bool?
  let firstOrNone ← record.defaulted? "first_or_default" false Json.bool?
  let count ← record.defaulted? "count" false Json.bool?
  let shuffle ← record.defaulted? "randomize" false Json.bool?
  let items ← record.defaulted? "projection" [] (Json.listOf? SelectItem.ofJson?)
  let filter ← record.optional? "filter" Condition.ofJson?
  let distinct ← record.defaulted? "distinct" [] (Json.listOf? Expr.ofJson?)
  let order ← record.defaulted? "order_by" [] (Json.listOf? SortKey.ofJson?)
  let operations ← record.defaulted? "set_operations" [] (Json.listOf? (operationOf? read))
  some { source, target, limit, skip, first, firstOrNone, count, shuffle, items, filter,
         distinct, order, operations }

/-- Reads a document of at most the given depth. -/
def readWithin? : Nat → Json → Option Query
  | 0, _ => none
  | depth + 1, document => recordOf? (readWithin? depth) document

/-- Reads the document of a query. -/
def ofJson? (document : Json) : Option Query := readWithin? document.depth document

end Query

end SqlScribe
