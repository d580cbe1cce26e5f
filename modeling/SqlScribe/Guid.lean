import SqlScribe.Json.Reader

/-!
# Globally unique identifiers

An identifier is a 128-bit number.  It is written as thirty-two lower-case
hexadecimal digits in five groups and read in any case, with or without hyphens,
in braces, or with its name space in front.

Main definitions:

- `Guid.write` is the written form and `Guid.read?` reads all accepted forms.
-/

namespace SqlScribe

/-- A globally unique identifier. -/
structure Guid where
  bits : BitVec 128
deriving DecidableEq, Inhabited

namespace Guid

/-- The lengths of the five groups of digits. -/
def groupLengths : List Nat := [8, 4, 4, 4, 12]

/-- The lower-case hexadecimal digit of a number below sixteen. -/
def hexDigit (n : Nat) : Char := Nat.digitChar n

/-- The last `count` hexadecimal digits of a number. -/
def fixedHex : Nat → Nat → List Char
  | 0, _ => []
  | count + 1, n => fixedHex count (n / 16) ++ [hexDigit (n % 16)]

/-- Cuts a list into pieces of the given lengths. -/
def cut : List Nat → List Char → List (List Char)
  | [], _ => []
  | length :: lengths, text => text.take length :: cut lengths (text.drop length)

/-- The written form. -/
def write (guid : Guid) : String :=
  String.ofList (List.intercalate ['-'] (cut groupLengths (fixedHex 32 guid.bits.toNat)))

/-- Thirty-two hexadecimal digits. -/
def ofDigits? (digits : List Char) : Option Guid :=
  if digits.length = 32 then (Json.hexValue? digits).map fun value => ⟨BitVec.ofNat 128 value⟩
  else none

/-- Five groups of digits with hyphens between them. -/
def ofGroups? (text : List Char) : Option Guid :=
  let groups := text.splitOn '-'
  if groups.map List.length = groupLengths then ofDigits? groups.flatten else none

/-- The name space that may stand in front of the five groups, in any case. -/
def nameSpace : List Char := "urn:uuid:".toList

/-- Reads any of the accepted forms. -/
def read? (text : String) : Option Guid :=
  match text.toList with
  | '\x7b' :: rest =>
    if rest.getLast? = some '\x7d' then ofGroups? rest.dropLast else none
  | characters =>
    if nameSpace.isPrefixOf (characters.map Char.toLower) then
      ofGroups? (characters.drop nameSpace.length)
    else if characters.length = 32 then ofDigits? characters
    else ofGroups? characters

end Guid

end SqlScribe
