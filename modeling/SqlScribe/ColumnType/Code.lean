import SqlScribe.ColumnType.Basic

/-!
# Comparing catalog codes

Text columns of different tables are compared by their catalog codes.  The codes
of the single-byte texts are identified with those of their Unicode
counterparts, and a copy into a text column of a smaller code narrows it.

Main definitions:

- `TypeCode.normalize` identifies the codes of single-byte and Unicode texts.
- `TypeCode.narrows` says whether a copy narrows a column.
-/

namespace SqlScribe.TypeCode

/-- Codes of texts with two bytes to a character. -/
def doubleWidth : List Int := [SqlType.nChar.code, SqlType.nVarChar.code, SqlType.nText.code]

/-- Codes of single-byte texts with those of their Unicode counterparts. -/
def normalized : List (Int × Int) :=
  [(SqlType.varChar.code, SqlType.nVarChar.code), (SqlType.char.code, SqlType.nChar.code),
   (SqlType.text.code, SqlType.nText.code)]

/-- Codes of all texts. -/
def textFamily : List Int :=
  [SqlType.char.code, SqlType.varChar.code, SqlType.text.code, SqlType.nChar.code,
   SqlType.nVarChar.code, SqlType.nText.code]

/-- The code of the Unicode counterpart; codes of other types stay. -/
def normalize (code : Int) : Int := (normalized.lookup code).getD code

/-- Whether a code is that of a text with two bytes to a character. -/
def isDoubleWidth (code : Int) : Bool := doubleWidth.contains code

/-- Whether some source text has a greater code than the destination. -/
def narrows (destination : Int) (sources : List Int) : Bool :=
  match (sources.filter textFamily.contains).max? with
  | some widest => destination < widest
  | none => false

end SqlScribe.TypeCode
