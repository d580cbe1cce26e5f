import SqlScribe.Sql.Piece
import SqlScribe.Sql.Syntax

/-!
# The text of rendered queries

Main definitions:

- `Sql.Scalar.pieces`, `Sql.Predicate.pieces` and `Sql.Select.pieces` give the text
  of an expression, a condition and a SELECT.
- `Sql.tablePieces` gives those of a table and `Sql.derivedPieces` those of a derived
  table, which always has the same alias.
-/

namespace SqlScribe.Sql

/-! ## Expressions and conditions -/

mutual

/-- The text of an expression. -/
def Scalar.pieces : Scalar → Pieces
  | .column name => [.name name]
  | .null => fixed "NULL"
  | .parameter index => [.placeholder index]
  | .number value => [.number value]
  | .text value => [.literal false value]
  | .call function arguments =>
    fixed (function.name ++ "(") ++ argumentPieces arguments ++ fixed ")"
  | .cast operand type =>
    fixed "CAST(" ++ operand.pieces ++ [.fixed " AS ", .fixed type.text, .fixed ")"]
  | .plus left right => left.pieces ++ fixed " + " ++ right.pieces
  | .minus left right => fixed "(" ++ left.pieces ++ fixed " - " ++ right.pieces ++ fixed ")"
  | .flag predicate =>
    fixed "CAST(CASE WHEN " ++ predicate.pieces ++ fixed " THEN 1 ELSE 0 END AS bit)"

/-- The text of arguments with commas between them. -/
def argumentPieces : List Scalar → Pieces
  | [] => []
  | scalar :: rest => scalar.pieces ++ moreArgumentPieces rest

/-- The text of the arguments after the first. -/
def moreArgumentPieces : List Scalar → Pieces
  | [] => []
  | scalar :: rest => fixed ", " ++ scalar.pieces ++ moreArgumentPieces rest

/-- The text of a condition. -/
def Predicate.pieces : Predicate → Pieces
  | .compare comparison left right =>
    left.pieces ++ fixed (" " ++ comparison.sql ++ " ") ++ right.pieces
  | .isNull operand => operand.pieces ++ fixed " IS NULL"
  | .isNotNull operand => operand.pieces ++ fixed " IS NOT NULL"
  | .like text pattern => text.pieces ++ fixed " LIKE " ++ pattern.pieces
  | .among operand values => operand.pieces ++ fixed " IN (" ++ argumentPieces values ++ fixed ")"
  | .and left right => fixed "(" ++ left.pieces ++ fixed ") AND (" ++ right.pieces ++ fixed ")"
  | .or left right => fixed "(" ++ left.pieces ++ fixed ") OR (" ++ right.pieces ++ fixed ")"
  | .not operand => fixed "NOT (" ++ operand.pieces ++ fixed ")"

end

/-! ## Tables -/

/-- The text of a table. -/
def tablePieces (table : Table) : Pieces :=
  match table.schema with
  | some schema => [.name schema, .fixed ".", .name table.name]
  | none => [.name table.name]

/-- The alias of every derived table. -/
def derivedAlias : String := "__SubQuery__"

/-- The text of a derived table. -/
def derivedPieces (query : Pieces) : Pieces :=
  fixed "(" ++ query ++ [.fixed ") ", .ownName derivedAlias]

/-! ## Queries -/

/-- The text of a returned column. -/
def itemPieces : Scalar × Option String → Pieces
  | (scalar, some label) => scalar.pieces ++ [.fixed " AS ", .name label]
  | (scalar, none) => scalar.pieces

/-- The text of what a SELECT returns. -/
def SelectList.pieces : SelectList → Pieces
  | .all => fixed "*"
  | .count => fixed "COUNT(*)"
  | .items list => Pieces.join ", " (list.map itemPieces)

/-- The text of the limit in front of the returned columns. -/
def topPieces : Option RowLimit → Pieces
  | none => []
  | some limit =>
    [.fixed "TOP (", .number limit.amount.toNat, .fixed ") "] ++
      (if limit.unit = .percent then fixed "PERCENT " else [])

/-- The text of an ordering expression. -/
def keyPieces (key : Scalar × Direction) : Pieces := key.1.pieces ++ fixed (" " ++ key.2.sql)

/-- The text of an ordering. -/
def Ordering.pieces : Ordering → Pieces
  | .none => []
  | .random => fixed " ORDER BY NEWID()"
  | .keys list => fixed " ORDER BY " ++ Pieces.join ", " (list.map keyPieces)

/-- The text of a condition on the rows. -/
def wherePieces : Option Predicate → Pieces
  | none => []
  | some predicate => fixed " WHERE " ++ predicate.pieces

/-- The text of skipped and returned rows. -/
def pagingPieces : Option Paging → Pieces
  | none => []
  | some paging =>
    [.fixed " OFFSET ", .number paging.skip, .fixed " ROWS"] ++
      (match paging.fetch with
      | some count => [.fixed " FETCH NEXT ", .number count, .fixed " ROWS ONLY"]
      | none => [])

mutual

/-- The text of a SELECT. -/
def Select.pieces : Select → Pieces
  | ⟨distinct, top, columns, relation, condition, ordering, paging⟩ =>
    fixed "SELECT " ++ (if distinct then fixed "DISTINCT " else []) ++ topPieces top ++
      columns.pieces ++ fixed " FROM " ++ relationPieces relation ++ wherePieces condition ++
      ordering.pieces ++ pagingPieces paging

/-- The text of what a SELECT reads. -/
def relationPieces : Relation Select → Pieces
  | .table table => tablePieces table
  | .derived ⟨first, links⟩ => derivedPieces (first.pieces ++ linkPieces links)

/-- The text of further SELECTs with their operators. -/
def linkPieces : List (Link Select) → Pieces
  | [] => []
  | ⟨operator, select⟩ :: rest =>
    fixed (" " ++ operator.sql ++ " ") ++ select.pieces ++ linkPieces rest

end

end SqlScribe.Sql
