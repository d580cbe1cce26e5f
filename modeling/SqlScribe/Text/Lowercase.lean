import SqlScribe.Text.Lowercase.Table

/-!
# Lower-case text

Text is put into lower case letter by letter, with two exceptions: the dotted
capital `İ` becomes two characters, and a capital sigma becomes the final form
`ς` at the end of a word.  A second, simpler comparison ignores the case of
ASCII letters only.

Main definitions:

- `Text.lowercase` is the full mapping.
- `Text.equalsIgnoringAsciiCase` compares names up to the case of ASCII letters.

Main results:

- `Text.equalsIgnoringAsciiCase_iff`: the comparison tells whether two texts are one with their
  ASCII letters in lower case.
-/

namespace SqlScribe

/-! ## Single letters -/

/-- The lower-case form that a run gives a code point, if it belongs to the run. -/
def CaseRun.image? (run : CaseRun) (code : Nat) : Option Nat :=
  if run.first ≤ code && code ≤ run.last && (code - run.first) % run.step = 0 then
    some (run.image + (code - run.first))
  else none

namespace Text

/-- The lower-case form of a letter that has a single one; other characters stay. -/
def lowerLetter (c : Char) : Char :=
  match CaseRun.lowercase.findSome? (·.image? c.toNat) with
  | some code => Char.ofNat code
  | none => c

/-- Whether the first character that does not interrupt a word's case is cased. -/
def meetsCased (text : List Char) : Bool :=
  match text.dropWhile CodePoints.caseIgnorable.contains with
  | [] => false
  | c :: _ => CodePoints.cased.contains c

/-- The lower-case form of a capital sigma between what was read, last character
first, and what follows. -/
def lowerSigma (before after : List Char) : Char :=
  if meetsCased before && !meetsCased after then 'ς' else 'σ'

/-- The lower-case form of text after what was read, last character first. -/
def lowerFrom (before : List Char) : List Char → List Char
  | [] => []
  | c :: after =>
    (if c = 'Σ' then [lowerSigma before after]
      else if c = 'İ' then ['i', '\u0307']
      else [lowerLetter c]) ++ lowerFrom (c :: before) after

/-- The lower-case form of a text. -/
def lowercase (text : String) : String := String.ofList (lowerFrom [] text.toList)

/-! ## ASCII letters only -/

/-- A text with its ASCII letters in lower case. -/
def foldAsciiCase (text : String) : List Char := text.toList.map Char.toLower

/-- Whether two texts differ at most in the case of ASCII letters. -/
def equalsIgnoringAsciiCase (a b : String) : Bool := foldAsciiCase a = foldAsciiCase b

/-- Texts are the same if they have the same letters. -/
theorem equalsIgnoringAsciiCase_iff {a b : String} :
    equalsIgnoringAsciiCase a b = true ↔ foldAsciiCase a = foldAsciiCase b := by
  simp [equalsIgnoringAsciiCase]

/-- Every text equals itself. -/
@[simp] theorem equalsIgnoringAsciiCase_refl (a : String) : equalsIgnoringAsciiCase a a = true := by
  simp [equalsIgnoringAsciiCase]

end Text

end SqlScribe
