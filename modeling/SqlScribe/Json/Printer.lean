import SqlScribe.Json.Basic
import SqlScribe.Number.Layout

/-!
# Printing JSON documents

Documents are printed over several lines, two blanks to a level; an empty array
or object stays on its line.  Text escapes quotes, backslashes and controls and
nothing else.

Main definitions:

- `Json.quoted` prints a text and `Json.pretty` a document.
-/

namespace SqlScribe.Json

/-! ## Text -/

/-- Four lower-case hexadecimal digits. -/
def fourDigits (code : Nat) : List Char :=
  let digits := Nat.toDigits 16 code
  List.replicate (4 - digits.length) '0' ++ digits

/-- A character inside a printed text. -/
def quotedChar (c : Char) : List Char :=
  match c with
  | '"' => ['\\', '"']
  | '\\' => ['\\', '\\']
  | '\x08' => ['\\', 'b']
  | '\t' => ['\\', 't']
  | '\n' => ['\\', 'n']
  | '\x0c' => ['\\', 'f']
  | '\r' => ['\\', 'r']
  | c => if c < ' ' then ['\\', 'u'] ++ fourDigits c.toNat else [c]

/-- A text between quotes. -/
def quoted (value : String) : String :=
  String.ofList ('"' :: value.toList.flatMap quotedChar ++ ['"'])

/-! ## Documents -/

/-- A line break and the blanks of a level. -/
def newline (level : Nat) : String :=
  "\n" ++ String.ofList (List.replicate (2 * level) ' ')

/-- A number in a document; one that is not finite is null. -/
def floatText (value : Binary64) : String :=
  if value.isFinite then FloatLayout.inDocuments.write value else "null"

mutual

/-- A document that begins inside the given level. -/
def prettyAt (level : Nat) : Json → String
  | .null | .unreadable => "null"
  | .bool value => if value then "true" else "false"
  | .int value => toString value
  | .float value => floatText value
  | .text value => quoted value
  | .array [] => "[]"
  | .array (item :: rest) =>
    "[" ++ newline (level + 1) ++ item.prettyAt (level + 1) ++ moreItems level rest ++
      newline level ++ "]"
  | .object [] => "\x7b\x7d"
  | .object ((name, value) :: rest) =>
    "\x7b" ++ newline (level + 1) ++ quoted name ++ ": " ++ value.prettyAt (level + 1) ++
      moreMembers level rest ++ newline level ++ "\x7d"

/-- The items after the first. -/
def moreItems (level : Nat) : List Json → String
  | [] => ""
  | item :: rest =>
    "," ++ newline (level + 1) ++ item.prettyAt (level + 1) ++ moreItems level rest

/-- The members after the first. -/
def moreMembers (level : Nat) : List (String × Json) → String
  | [] => ""
  | (name, value) :: rest =>
    "," ++ newline (level + 1) ++ quoted name ++ ": " ++ value.prettyAt (level + 1) ++
      moreMembers level rest

end

/-- A document over several lines, without a line break at the end. -/
def pretty (document : Json) : String := document.prettyAt 0

end SqlScribe.Json
