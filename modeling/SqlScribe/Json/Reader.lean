import SqlScribe.Json.Basic
import SqlScribe.Number.Numeral

/-!
# Reading JSON text

Text becomes a document in two passes, each of them a machine that takes one
symbol at a time: the scanner turns characters into tokens and the builder turns
tokens into a document with a stack of unfinished arrays and objects.

Some values are spelled correctly and still stand for nothing: text with half a
pair of code units, and arrays and objects too deep inside others.  They become
unreadable parts of the document and leave the rest of it alone.

Main definitions:

- `Json.Scanner` is the first machine and `Json.Builder` the second.
- `Json.ofText?` reads a whole text.
-/

namespace SqlScribe.Json

/-! ## Tokens -/

/-- A token of JSON text. -/
inductive Token where
  | openObject
  | closeObject
  | openArray
  | closeArray
  | colon
  | comma
  /-- A quoted text, if its code units stand for one. -/
  | text (value : Option String)
  | scalar (value : Json)

/-- A blank between tokens. -/
def isBlank (c : Char) : Bool := c = ' ' || c = '\t' || c = '\n' || c = '\r'

/-- The token that a punctuation character is. -/
def punctuation? : Char → Option Token
  | '\x7b' => some .openObject
  | '\x7d' => some .closeObject
  | '[' => some .openArray
  | ']' => some .closeArray
  | ':' => some .colon
  | ',' => some .comma
  | _ => none

/-! ## Numbers -/

/-- A whole number: a zero alone, or digits that do not begin with one. -/
def isWhole : List Char → Bool
  | [] => false
  | '0' :: rest => rest.isEmpty
  | digits => digits.all Char.isDigit

/-- The greatest coefficient that a number in a document keeps exactly. -/
def greatestCoefficient : Nat := 0xffffffffffffffff

/-- Appends digits to a coefficient up to the first one that does not fit, and
counts those left out. -/
def appendDigits (start : Nat) (digits : List Char) : Nat × Nat :=
  digits.foldl
    (fun (value, dropped) digit =>
      let next := 10 * value + (digit.toNat - '0'.toNat)
      if dropped = 0 && next ≤ greatestCoefficient then (next, 0) else (value, dropped + 1))
    (start, 0)

/-- A number without its sign.  A whole one that is out of the range of signed
and unsigned 64-bit numbers is a floating-point number, and so is minus zero; one
that is too great even for that becomes infinite, which no reader accepts. -/
def unsignedNumber? (negative : Bool) (text : List Char) : Option Json :=
  let whole := text.takeWhile Char.isDigit
  let afterWhole := text.dropWhile Char.isDigit
  if !isWhole whole then none
  else if afterWhole.isEmpty then
    let value := digitsValue whole
    let limit := if negative then 0x8000000000000000 else greatestCoefficient
    if value ≤ limit && !(negative && value = 0) then
      some (.int (if negative then -value else value))
    else
      let (kept, dropped) := appendDigits 0 whole
      some (.float (Binary64.ofSteps negative kept dropped))
  else
    let (fraction, tail) :=
      match afterWhole with
      | '.' :: rest => (some (rest.takeWhile Char.isDigit), rest.dropWhile Char.isDigit)
      | rest => (none, rest)
    if fraction.any List.isEmpty then none
    else do
      let exponent ← Numeral.exponentPart? tail
      let fraction := fraction.getD []
      let (kept, droppedWhole) := appendDigits 0 whole
      let (kept, droppedFraction) := appendDigits kept fraction
      some (.float (Binary64.ofSteps negative kept
        (exponent + droppedWhole + droppedFraction - fraction.length)))

/-- A number with at most a minus sign. -/
def number? : List Char → Option Json
  | '-' :: rest => unsignedNumber? true rest
  | digits => unsignedNumber? false digits

/-- The value of a bare word. -/
def word? (text : List Char) : Option Json :=
  match String.ofList text with
  | "null" => some .null
  | "true" => some (.bool true)
  | "false" => some (.bool false)
  | _ => number? text

/-! ## The scanner -/

/-- Where the scanner stands; what was read is kept last part first.  Of a quoted
text that is code points, with the halves of pairs among them. -/
inductive Mode where
  | between
  | word (read : List Char)
  | quoted (read : List Nat)
  | escape (read : List Nat)
  /-- Inside the four digits of a code unit. -/
  | unit (read : List Nat) (digits : List Char)

/-- The scanner: where it stands and the tokens so far. -/
structure Scanner where
  mode : Mode
  tokens : Array Token

/-- The value of a hexadecimal digit. -/
def hexDigit? (c : Char) : Option Nat :=
  if c.isDigit then some (c.toNat - '0'.toNat)
  else if 'a' ≤ c && c ≤ 'f' then some (c.toNat - 'a'.toNat + 10)
  else if 'A' ≤ c && c ≤ 'F' then some (c.toNat - 'A'.toNat + 10)
  else none

/-- The value of hexadecimal digits. -/
def hexValue? (digits : List Char) : Option Nat :=
  digits.foldlM (fun value digit => (hexDigit? digit).map (16 * value + ·)) 0

/-- The character that a letter after a backslash stands for. -/
def escapedChar? : Char → Option Char
  | '"' => some '"'
  | '\\' => some '\\'
  | '/' => some '/'
  | 'b' => some '\x08'
  | 'f' => some '\x0c'
  | 'n' => some '\n'
  | 'r' => some '\r'
  | 't' => some '\t'
  | _ => none

/-- The text of code points, in which the halves of a pair of code units stand
next to each other. -/
def characters? : List Nat → Option (List Char)
  | [] => some []
  | code :: rest =>
    if 0xd800 ≤ code && code < 0xdc00 then
      match rest with
      | [] => none
      | second :: rest =>
        if 0xdc00 ≤ second && second < 0xe000 then
          (characters? rest).map
            (Char.ofNat (0x10000 + (code - 0xd800) * 0x400 + (second - 0xdc00)) :: ·)
        else none
    else if 0xdc00 ≤ code && code < 0xe000 then none
    else (characters? rest).map (Char.ofNat code :: ·)

namespace Scanner

/-- Adds a token and returns to the space between tokens. -/
def emit (scanner : Scanner) (token : Token) : Scanner := ⟨.between, scanner.tokens.push token⟩

/-- Begins with a character between tokens. -/
def start (scanner : Scanner) (c : Char) : Scanner :=
  if isBlank c then { scanner with mode := .between }
  else if c = '"' then { scanner with mode := .quoted [] }
  else
    match punctuation? c with
    | some token => scanner.emit token
    | none => { scanner with mode := .word [c] }

/-- Takes one character. -/
def step? (scanner : Scanner) (c : Char) : Option Scanner :=
  match scanner.mode with
  | .between => some (scanner.start c)
  | .word read =>
    if isBlank c || c = '"' || (punctuation? c).isSome then
      (word? read.reverse).map fun value => (scanner.emit (.scalar value)).start c
    else some { scanner with mode := .word (c :: read) }
  | .quoted read =>
    if c = '"' then some (scanner.emit (.text ((characters? read.reverse).map String.ofList)))
    else if c = '\\' then some { scanner with mode := .escape read }
    else if c < ' ' then none
    else some { scanner with mode := .quoted (c.toNat :: read) }
  | .escape read =>
    if c = 'u' then some { scanner with mode := .unit read [] }
    else
      (escapedChar? c).map fun meant => { scanner with mode := .quoted (meant.toNat :: read) }
  | .unit read digits =>
    if digits.length < 3 then some { scanner with mode := .unit read (digits ++ [c]) }
    else
      (hexValue? (digits ++ [c])).map fun code => { scanner with mode := .quoted (code :: read) }

/-- The tokens at the end of the text. -/
def finish? (scanner : Scanner) : Option (Array Token) :=
  match scanner.mode with
  | .between => some scanner.tokens
  | .word read => (word? read.reverse).map fun value => scanner.tokens.push (.scalar value)
  | _ => none

end Scanner

/-- The tokens of a text. -/
def tokens? (text : List Char) : Option (Array Token) := do
  let scanner ← text.foldlM Scanner.step? ⟨.between, #[]⟩
  scanner.finish?

/-! ## The builder -/

/-- Members of an object; the name of one may stand for nothing. -/
abbrev SpelledMembers := List (Option String × Json)

/-- An unfinished array or object, its last part first. -/
inductive Frame where
  | array (items : List Json)
  /-- An object, waiting for the value of a name. -/
  | object (members : SpelledMembers) (name : Option String)

/-- What the builder accepts next. -/
inductive Expectation where
  | value
  /-- The first item of an array, or its end. -/
  | firstItem
  | firstName
  | name (members : SpelledMembers)
  | colon (members : SpelledMembers) (name : Option String)
  | separator (items : List Json ⊕ SpelledMembers)
  | finished (document : Json)

/-- The builder: the arrays and objects around it, innermost first, and what it
accepts next. -/
structure Builder where
  stack : List Frame
  expectation : Expectation

/-- The greatest number of arrays and objects inside one another that are read. -/
def greatestNesting : Nat := 127

/-- The object of its members; it stands for nothing if one of its names does. -/
def ofMembers (members : SpelledMembers) : Json :=
  match members.mapM fun (name, value) => name.map (·, value) with
  | some members => .object members
  | none => .unreadable

namespace Builder

/-- Puts a finished value where it belongs. -/
def place (value : Json) : List Frame → Builder
  | [] => ⟨[], .finished value⟩
  | .array items :: stack => ⟨stack, .separator (.inl (value :: items))⟩
  | .object members name :: stack => ⟨stack, .separator (.inr ((name, value) :: members))⟩

/-- Whether an array or object inside the given ones is read. -/
def isShallow (stack : List Frame) : Bool := (stack.drop (greatestNesting - 1)).isEmpty

/-- Puts a finished array or object where it belongs, unless it is too deep. -/
def close (value : Json) (stack : List Frame) : Builder :=
  place (if isShallow stack then value else .unreadable) stack

/-- Takes the first token of a value. -/
def beginValue? (stack : List Frame) : Token → Option Builder
  | .text value => some (place (value.elim .unreadable .text) stack)
  | .scalar value => some (place value stack)
  | .openArray => some ⟨stack, .firstItem⟩
  | .openObject => some ⟨stack, .firstName⟩
  | _ => none

/-- Takes one token. -/
def step? (builder : Builder) (token : Token) : Option Builder :=
  let stack := builder.stack
  match builder.expectation with
  | .value => beginValue? stack token
  | .firstItem =>
    match token with
    | .closeArray => some (close (.array []) stack)
    | token => beginValue? (.array [] :: stack) token
  | .firstName =>
    match token with
    | .closeObject => some (close (.object []) stack)
    | .text name => some ⟨stack, .colon [] name⟩
    | _ => none
  | .name members =>
    match token with
    | .text name => some ⟨stack, .colon members name⟩
    | _ => none
  | .colon members name =>
    match token with
    | .colon => some ⟨.object members name :: stack, .value⟩
    | _ => none
  | .separator (.inl items) =>
    match token with
    | .comma => some ⟨.array items :: stack, .value⟩
    | .closeArray => some (close (.array items.reverse) stack)
    | _ => none
  | .separator (.inr members) =>
    match token with
    | .comma => some ⟨stack, .name members⟩
    | .closeObject => some (close (ofMembers members.reverse) stack)
    | _ => none
  | .finished _ => none

end Builder

/-- The document that a text spells, blanks around it aside. -/
def ofText? (text : String) : Option Json := do
  let tokens ← tokens? text.toList
  let builder ← tokens.toList.foldlM Builder.step? ⟨[], .value⟩
  match builder.expectation with
  | .finished document => some document
  | _ => none

end SqlScribe.Json
