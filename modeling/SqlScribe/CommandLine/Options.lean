/-!
# Options and positional arguments

Arguments of a command are options and positional ones in any order.  An option
has a long name and perhaps a short one; short ones may share a dash.  A value
follows its option, either attached or as the next argument, which then must not
look like an option.  After a double dash everything is positional.

Main definitions:

- `OptionSpec` describes an option and `OptionSpec.parse?` sorts arguments.
- `OptionSpec.parseLeading?` stops at the first positional argument.
-/

namespace SqlScribe

/-- An option of a command. -/
structure OptionSpec where
  name : String
  short : Option Char := none
  takesValue : Bool := false

/-- Sorted arguments. -/
structure SortedArguments where
  options : List (String × Option String) := []
  positionals : List String := []

namespace SortedArguments

/-- Whether an option is given. -/
def has (arguments : SortedArguments) (name : String) : Bool :=
  arguments.options.any (·.1 = name)

/-- The value of an option. -/
def value? (arguments : SortedArguments) (name : String) : Option String :=
  (arguments.options.lookup name).join

/-- Whether no option is given twice. -/
def hasDistinctOptions (arguments : SortedArguments) : Bool :=
  (arguments.options.map (·.1)).Nodup

end SortedArguments

namespace OptionSpec

/-- What an argument is, going by its first characters. -/
inductive Shape where
  | escape
  | long (name : String) (value : Option String)
  | short (letters : List Char)
  | plain

/-- Splits a long option at the first equals sign. -/
def longShape (text : List Char) : Shape :=
  let name := text.takeWhile (· ≠ '=')
  .long (String.ofList name)
    (match text.dropWhile (· ≠ '=') with
      | [] => none
      | _ :: value => some (String.ofList value))

/-- The shape of an argument. -/
def shapeOf (argument : String) : Shape :=
  match argument.toList with
  | ['-', '-'] => .escape
  | '-' :: '-' :: rest => longShape rest
  | '-' :: c :: rest => .short (c :: rest)
  | _ => .plain

/-- What an option argument sets, and the option that waits for its value. -/
structure Settings where
  settled : List (String × Option String) := []
  waiting : Option String := none

/-- What a long option sets. -/
def longSettings? (specs : List OptionSpec) (name : String) (value : Option String) :
    Option Settings :=
  match specs.find? (·.name = name) with
  | none => none
  | some spec =>
    match spec.takesValue, value with
    | true, some value => some { settled := [(name, some value)] }
    | true, none => some { waiting := some name }
    | false, some _ => none
    | false, none => some { settled := [(name, none)] }

/-- The value attached to a short option, without an equals sign in front. -/
def attachedValue : List Char → String
  | '=' :: value => String.ofList value
  | value => String.ofList value

/-- What short options set. -/
def shortSettings? (specs : List OptionSpec) : List Char → Option Settings
  | [] => some {}
  | letter :: rest =>
    match specs.find? (·.short = some letter) with
    | none => none
    | some spec =>
      if spec.takesValue then
        if rest.isEmpty then some { waiting := some spec.name }
        else some { settled := [(spec.name, some (attachedValue rest))] }
      else
        (shortSettings? specs rest).map fun settings =>
          { settings with settled := (spec.name, none) :: settings.settled }

/-- What an option argument sets; `none` if it is no known option, and nothing for a
positional argument. -/
def settings? (specs : List OptionSpec) (argument : String) : Option (Option Settings) :=
  match shapeOf argument with
  | .escape | .plain => some none
  | .long name value => (longSettings? specs name value).map some
  | .short letters => (shortSettings? specs letters).map some

/-- Whether an argument can be the value of an option in front of it. -/
def isValue (argument : String) : Bool :=
  match shapeOf argument with
  | .plain => true
  | _ => false

/-- Whether an argument is a double dash. -/
def isEscape (argument : String) : Bool := argument = "--"

/-- Adds settled options in front of sorted arguments. -/
def addOptions (options : List (String × Option String)) (arguments : SortedArguments) :
    SortedArguments :=
  { arguments with options := options ++ arguments.options }

/-- Adds a positional argument in front of sorted arguments. -/
def addPositional (positional : String) (arguments : SortedArguments) : SortedArguments :=
  { arguments with positionals := positional :: arguments.positionals }

/-- Sorts the leading options; the rest begins with a positional argument. -/
def parseLeading? (specs : List OptionSpec) :
    List String → Option (SortedArguments × List String)
  | [] => some ({}, [])
  | argument :: rest =>
    if isEscape argument then none
    else
      match settings? specs argument with
      | none => none
      | some none => some ({}, argument :: rest)
      | some (some settings) =>
        match settings.waiting, rest with
        | none, rest =>
          (parseLeading? specs rest).map fun (sorted, rest) =>
            (addOptions settings.settled sorted, rest)
        | some _, [] => none
        | some name, value :: rest =>
          if isValue value then
            (parseLeading? specs rest).map fun (sorted, rest) =>
              (addOptions (settings.settled ++ [(name, some value)]) sorted, rest)
          else none

/-- Sorts all arguments. -/
def parseAll? (specs : List OptionSpec) : List String → Option SortedArguments
  | [] => some {}
  | argument :: rest =>
    if isEscape argument then some { positionals := rest }
    else
      match settings? specs argument with
      | none => none
      | some none => (parseAll? specs rest).map (addPositional argument)
      | some (some settings) =>
        match settings.waiting, rest with
        | none, rest => (parseAll? specs rest).map (addOptions settings.settled)
        | some _, [] => none
        | some name, value :: rest =>
          if isValue value then
            (parseAll? specs rest).map (addOptions (settings.settled ++ [(name, some value)]))
          else none

/-- Sorts all arguments of which no option occurs twice. -/
def parse? (specs : List OptionSpec) (arguments : List String) : Option SortedArguments :=
  (parseAll? specs arguments).filter (·.hasDistinctOptions)

end OptionSpec

end SqlScribe
