import SqlScribe.Catalog.Term

/-!
# Listings of the catalog

A listing returns expressions over joined views.  It is restricted to the rows
that belong to one table, and may be ordered.

Main definitions:

- `Catalog.Relation` is a join of views and `Catalog.Output` a returned expression.
- `Catalog.Listing` is a listing; `Catalog.Listing.ofTable` is its text for a table.
-/

namespace SqlScribe.Catalog

open Sql (Pieces fixed)

/-! ## Joins -/

/-- Pairs of fields that must be equal. -/
abbrev Match := List (Field × Field)

/-- Views that are read together. -/
inductive Relation where
  | view (source : View)
  | join (left : Relation) (right : View) (on : Match)
  /-- Rows with all matching rows of a view, or alone where there are none. -/
  | leftJoin (left : Relation) (right : View) (on : Match)
deriving DecidableEq

/-- The text of equalities. -/
def matchPieces (on : Match) : Pieces :=
  Pieces.join " AND " (on.map fun (a, b) => a.pieces ++ fixed " = " ++ b.pieces)

/-- The text of a join. -/
def Relation.pieces : Relation → Pieces
  | .view source => fixed source.reference
  | .join left right on =>
    left.pieces ++ fixed (" JOIN " ++ right.reference ++ " ON ") ++ matchPieces on
  | .leftJoin left right on =>
    fixed "( " ++ left.pieces ++ fixed (" LEFT JOIN " ++ right.reference ++ " ON ") ++
      matchPieces on ++ fixed " )"

/-! ## Outputs -/

/-- A returned expression. -/
structure Output where
  term : Term
  /-- The name of the returned column, if it is not that of a field. -/
  label : Option String := none

namespace Output

/-- A returned field. -/
def ofField (field : Field) : Output := ⟨.field field, none⟩

/-- The text of a returned expression. -/
def pieces (output : Output) : Pieces :=
  output.term.pieces ++
    (match output.label with
      | some label => fixed (" AS [" ++ label ++ "]")
      | none => [])

end Output

/-! ## Listings -/

/-- A listing. -/
structure Listing where
  outputs : List Output
  separator : String := ", "
  relation : Relation
  /-- The field that identifies the table. -/
  owner : Field
  order : List Field := []

namespace Listing

/-- The text of a listing that is not restricted to a table. -/
def pieces (listing : Listing) : Pieces :=
  fixed "SELECT " ++ Pieces.join listing.separator (listing.outputs.map (·.pieces)) ++
    fixed " FROM " ++ listing.relation.pieces

/-- The text of the order of rows. -/
def orderPieces (listing : Listing) : Pieces :=
  if listing.order.isEmpty then []
  else fixed " ORDER BY " ++ Pieces.join ", " (listing.order.map (·.pieces))

/-- The text of a listing of a table. -/
def ofTable (listing : Listing) (table : Table) : Pieces :=
  listing.pieces ++ fixed " WHERE " ++ listing.owner.pieces ++ fixed " = " ++ objectId table ++
    listing.orderPieces

end Listing

end SqlScribe.Catalog
