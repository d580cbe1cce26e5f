import SqlScribe.Text.Escaped.Table

/-!
# Quoted text in messages

A message shows a text between double quotes.  Quotes and backslashes carry a
backslash, four controls have letters of their own, and every other formless
character is shown by its code point in braces.

Main definitions:

- `Text.escaped` shows a text this way.
-/

namespace SqlScribe.Text

/-- The lower-case hexadecimal digits of a number. -/
def hexDigits (n : Nat) : List Char := Nat.toDigits 16 n

/-- A character as a message shows it. -/
def escapedChar (c : Char) : List Char :=
  match c with
  | '"' => ['\\', '"']
  | '\\' => ['\\', '\\']
  | '\n' => ['\\', 'n']
  | '\r' => ['\\', 'r']
  | '\t' => ['\\', 't']
  | '\x00' => ['\\', '0']
  | c =>
    if CodePoints.formless.contains c then
      ['\\', 'u', '\x7b'] ++ hexDigits c.toNat ++ ['\x7d']
    else [c]

/-- A text as a message shows it. -/
def escaped (text : String) : String :=
  String.ofList ('"' :: text.toList.flatMap escapedChar ++ ['"'])

end SqlScribe.Text
