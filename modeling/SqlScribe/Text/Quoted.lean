/-!
# Quoted text

Text between an opening and a closing character is written with every closing
character inside it doubled, and read up to the first closing character that
stands alone.

Main definitions:

- `Quoted.double` writes the inside; `Quoted.quote` adds the two ends.
- `Quoted.scan?` reads a quoted text off the front of a longer one.

Main results:

- `Quoted.scanInside?_double` reads back what was written, whatever follows it,
  as long as that does not begin with the closing character.
-/

namespace SqlScribe.Quoted

/-- Doubles every closing character. -/
def double (close : Char) : List Char → List Char
  | [] => []
  | c :: rest => if c = close then close :: close :: double close rest else c :: double close rest

/-- A text between its two ends. -/
def quote (opening close : Char) (text : String) : String :=
  String.ofList (opening :: double close text.toList ++ [close])

/-- Reads up to the first closing character that is not doubled and returns the
text before it and what follows it. -/
def scanInside? (close : Char) : List Char → Option (List Char × List Char)
  | [] => none
  | [c] => if c = close then some ([], []) else none
  | c :: d :: rest =>
    if c = close then
      if d = close then (scanInside? close rest).map fun (text, tail) => (close :: text, tail)
      else some ([], d :: rest)
    else (scanInside? close (d :: rest)).map fun (text, tail) => (c :: text, tail)

/-- Reads a quoted text off the front. -/
def scan? (opening close : Char) : List Char → Option (List Char × List Char)
  | [] => none
  | c :: rest => if c = opening then scanInside? close rest else none

@[simp] theorem double_nil (close : Char) : double close [] = [] := rfl

/-- Scanning undoes doubling before any text that does not begin with the closing
character. -/
theorem scanInside?_double (close : Char) (text tail : List Char)
    (boundary : tail.head? ≠ some close) :
    scanInside? close (double close text ++ close :: tail) = some (text, tail) := by
  induction text with
  | nil =>
    cases tail with
    | nil => simp [scanInside?]
    | cons d rest =>
      have : d ≠ close := by simpa using boundary
      simp [scanInside?, this]
  | cons c rest ih =>
    by_cases h : c = close
    · subst h
      simp [double, scanInside?, ih]
    · simp only [double, h, if_false, List.cons_append]
      generalize hw : double close rest ++ close :: tail = written at ih
      cases written with
      | nil => simp at hw
      | cons d more => simp [scanInside?, h, ih]

end SqlScribe.Quoted
