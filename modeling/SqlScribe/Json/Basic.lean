import SqlScribe.Number.Rounding

/-!
# JSON documents

A document is a tree of the six kinds of JSON values.  Whole numbers and
floating-point numbers are kept apart, objects keep their members in order, and
a name may occur more than once until a reader decides what that means.  A value
that is spelled correctly and yet stands for nothing is kept as one that no
reader accepts, so that it does no harm where nobody looks at it.

Main definitions:

- `Json` is the type of documents; `Json.depth` bounds its nesting.
- The accessors `Json.bool?`, `Json.text?`, `Json.intBetween?`, `Json.float?` and
  `Json.items?` read a value of one kind and nothing else.
- `Json.variant?` reads a choice: a bare name, or a name with a payload.
-/

namespace SqlScribe

/-- A JSON document. -/
inductive Json where
  | null
  | bool (value : Bool)
  | int (value : Int)
  /-- A number with a fraction or an exponent. -/
  | float (value : Binary64)
  | text (value : String)
  | array (items : List Json)
  | object (members : List (String × Json))
  /-- A value that stands for nothing and that no reader accepts. -/
  | unreadable
deriving Inhabited

namespace Json

/-! ## Nesting -/

mutual

/-- The number of levels of a document, itself included. -/
def depth : Json → Nat
  | .array items => depthOfItems items + 1
  | .object members => depthOfMembers members + 1
  | _ => 1

/-- The greatest depth of a list of documents. -/
def depthOfItems : List Json → Nat
  | [] => 0
  | item :: rest => max item.depth (depthOfItems rest)

/-- The greatest depth of a list of members. -/
def depthOfMembers : List (String × Json) → Nat
  | [] => 0
  | (_, value) :: rest => max value.depth (depthOfMembers rest)

end

/-! ## Values of one kind -/

/-- A truth value. -/
def bool? : Json → Option Bool
  | .bool value => some value
  | _ => none

/-- A text. -/
def text? : Json → Option String
  | .text value => some value
  | _ => none

/-- A whole number within bounds. -/
def intBetween? (low high : Int) : Json → Option Int
  | .int value => if low ≤ value && value ≤ high then some value else none
  | _ => none

/-- Any finite number, as a floating-point number. -/
def float? : Json → Option Binary64
  | .int value => some (.ofInt value)
  | .float value => if value.isFinite then some value else none
  | _ => none

/-- The items of a list. -/
def items? : Json → Option (List Json)
  | .array items => some items
  | _ => none

/-- A list whose items are all read by the same reader. -/
def listOf? {α : Type} (read : Json → Option α) (document : Json) : Option (List α) := do
  let items ← document.items?
  items.mapM read

/-! ## Whole numbers of fixed width -/

/-- An unsigned 8-bit number. -/
def uint8? (document : Json) : Option UInt8 :=
  (document.intBetween? 0 255).map fun value => UInt8.ofNat value.toNat

/-- An unsigned 32-bit number. -/
def uint32? (document : Json) : Option UInt32 :=
  (document.intBetween? 0 4294967295).map fun value => UInt32.ofNat value.toNat

/-- An unsigned 64-bit number. -/
def uint64? (document : Json) : Option UInt64 :=
  (document.intBetween? 0 18446744073709551615).map fun value => UInt64.ofNat value.toNat

/-- A signed 16-bit number. -/
def int16? (document : Json) : Option Int16 :=
  (document.intBetween? (-32768) 32767).map Int16.ofInt

/-- A signed 32-bit number. -/
def int32? (document : Json) : Option Int32 :=
  (document.intBetween? (-2147483648) 2147483647).map Int32.ofInt

/-- A signed 64-bit number. -/
def int64? (document : Json) : Option Int64 :=
  (document.intBetween? (-9223372036854775808) 9223372036854775807).map Int64.ofInt

/-! ## Choices -/

/-- The name of a choice and its payload: a bare name has none, an object with
exactly one member has that member's value. -/
def variant? : Json → Option (String × Option Json)
  | .text name => some (name, none)
  | .object [(name, payload)] => some (name, some payload)
  | _ => none

/-- The name of a choice without a payload; null stands for an absent one. -/
def name? (document : Json) : Option String :=
  match document.variant? with
  | some (name, none) | some (name, some .null) => some name
  | _ => none

end Json

end SqlScribe
