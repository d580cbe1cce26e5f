import SqlScribe.Number.Layout
import SqlScribe.Calendar.Text
import SqlScribe.Guid
import SqlScribe.Sql.Piece

/-!
# SQL values

A value is what a literal or a bound parameter carries.  Values are bound as
parameters in queries and written as literals in definitions.

Main definitions:

- `Value` is the type of values and `Value.same` their equality, under which
  not-a-number differs from itself.
- `Value.literal` writes a value; `Value.hasLiteral` says whether it can be
  written without loss of its kind.
-/

namespace SqlScribe

/-- A value of one of the kinds that SQL Server knows. -/
inductive Value where
  | null
  | bool (value : Bool)
  | int (value : Int64)
  | float (value : Binary64)
  | text (value : String)
  | blob (bytes : List UInt8)
  | guid (value : Guid)
  | dateTime (value : DateTime)
deriving DecidableEq

namespace Value

/-- Whether the value is missing. -/
def isNull : Value → Bool
  | .null => true
  | _ => false

/-- Equality of values; numbers are compared as numbers. -/
def same : Value → Value → Bool
  | .float x, .float y => x.equals y
  | a, b => a = b

/-! ## Literals -/

/-- Two upper-case hexadecimal digits. -/
def hexByte (byte : UInt8) : List Char :=
  [Nat.digitChar (byte.toNat / 16), Nat.digitChar (byte.toNat % 16)].map Char.toUpper

/-- The literal of a value.  A number that is not finite has none and becomes
`NULL`. -/
def literal : Value → Sql.Piece
  | .null => .fixed "NULL"
  | .bool value => .fixed (if value then "1" else "0")
  | .int value => .number value.toInt
  | .float value => .fixed (if value.isFinite then FloatLayout.plain.write value else "NULL")
  | .text value => .literal true value
  | .blob bytes => .fixed ("0x" ++ String.ofList (bytes.flatMap hexByte))
  | .guid value => .literal false value.write
  | .dateTime value => .literal false value.writeLiteral

/-- The text of the literal, which is the same in every dialect. -/
def inline (value : Value) : String := value.literal.spell .sqlServer

/-- Whether a value has a literal of its own kind. -/
def hasLiteral : Value → Bool
  | .float value => value.isFinite
  | _ => true

end Value

/-- A named value that is bound to a statement. -/
structure Parameter where
  /-- The name, mark included. -/
  name : String
  value : Value
deriving DecidableEq

end SqlScribe
