import SqlScribe.Dialect

/-!
# Pieces of statement text

Statement text is assembled from pieces that keep apart what the library writes
and what a caller supplies.  Only fixed text and raw expressions are copied as
they are; names, text literals and placeholders are spelled by the dialect.

Main definitions:

- `Sql.Piece` is one piece and `Sql.Pieces` a sequence of them.
- `Sql.Pieces.spell` is the text that the pieces stand for.

Main results:

- `Sql.Pieces.spell_append` spells sequences part by part.
-/

namespace SqlScribe.Sql

/-- A piece of statement text. -/
inductive Piece where
  | fixed (text : String)
  /-- A quoted identifier that a caller supplies. -/
  | name (text : String)
  /-- A quoted identifier of the library itself. -/
  | ownName (text : String)
  | literal (national : Bool) (text : String)
  | placeholder (index : Nat)
  | number (value : Int)
  /-- An expression that is copied as it was given. -/
  | raw (text : String)
deriving DecidableEq

/-- Statement text in pieces. -/
abbrev Pieces := List Piece

/-- Fixed text as a sequence. -/
abbrev fixed (text : String) : Pieces := [.fixed text]

/-- The text of a piece in a dialect. -/
def Piece.spell (dialect : Dialect) : Piece → String
  | .fixed text => text
  | .name text => dialect.identifier text
  | .ownName text => dialect.identifier text
  | .literal true text => nationalLiteral text
  | .literal false text => textLiteral text
  | .placeholder index => dialect.placeholder index
  | .number value => toString value
  | .raw text => text

namespace Pieces

/-- The text of a sequence of pieces in a dialect. -/
def spell (dialect : Dialect) : Pieces → String
  | [] => ""
  | piece :: rest => piece.spell dialect ++ spell dialect rest

/-- Sequences with a separator between each two. -/
def join (separator : String) : List Pieces → Pieces
  | [] => []
  | [text] => text
  | text :: next :: rest => text ++ .fixed separator :: join separator (next :: rest)

@[simp] theorem spell_nil (dialect : Dialect) : spell dialect [] = "" := rfl

@[simp] theorem spell_cons (dialect : Dialect) (piece : Piece) (rest : Pieces) :
    spell dialect (piece :: rest) = piece.spell dialect ++ spell dialect rest := rfl

/-- The text of two sequences is the text of the one and then of the other. -/
@[simp] theorem spell_append (dialect : Dialect) (a b : Pieces) :
    spell dialect (a ++ b) = spell dialect a ++ spell dialect b := by
  induction a with
  | nil => simp
  | cons piece rest ih => simp [ih, String.append_assoc]

end Pieces

end SqlScribe.Sql
