import Mathlib.Data.List.Infix
import SqlScribe.Expr.Scalar

/-!
# Patterns

A text is compared with a pattern part by part.  Most characters of a pattern ask for
themselves, a percent sign for any characters, an underscore for any single one, and
brackets for one of a set or, behind a caret, for one outside of it.

Main definitions:

- `Pattern.Part` is a part of a pattern; `Pattern.parts` reads the parts of one.
- `Pattern.accepts` says whether a text matches a pattern.
- `SearchPlace.Finds` says where a text has a term.

Main results:

- `Pattern.accepts_around_escape_iff`: an escaped term with percent signs around it finds the
  term itself, whatever characters it has.
-/

namespace SqlScribe

/-- A text has a term in a place. -/
def SearchPlace.Finds (place : SearchPlace) (term text : String) : Prop :=
  match place with
  | .start => term.toList <+: text.toList
  | .finish => term.toList <:+ text.toList
  | .anywhere => term.toList <:+: text.toList

instance (place : SearchPlace) (term text : String) : Decidable (place.Finds term text) :=
  match place with
  | .start => inferInstanceAs (Decidable (term.toList <+: text.toList))
  | .finish => inferInstanceAs (Decidable (term.toList <:+ text.toList))
  | .anywhere => inferInstanceAs (Decidable (term.toList <:+: text.toList))

namespace Pattern

/-! ## Parts of patterns -/

/-- What a pattern asks of a single character. -/
inductive Single where
  | any
  | exactly (c : Char)
  | among (set : List Char)
  | outside (set : List Char)
deriving DecidableEq

/-- A part of a pattern. -/
inductive Part where
  | run
  | one (single : Single)
deriving DecidableEq

/-- Whether a set holds a character.  A dash between two characters stands for those between
them. -/
def inSet (c : Char) : List Char → Bool
  | first :: '-' :: last :: rest => (first ≤ c && c ≤ last) || inSet c rest
  | member :: rest => c = member || inSet c rest
  | [] => false

/-- Whether a character is one that is asked for. -/
def Single.accepts : Single → Char → Bool
  | .any, _ => true
  | .exactly d, c => c = d
  | .among set, c => inSet c set
  | .outside set, c => !inSet c set

/-- The part that a character outside of brackets is. -/
def Part.ofChar (c : Char) : Part :=
  if c = '%' then .run else if c = '_' then .one .any else .one (.exactly c)

/-- The part that brackets with a set between them are. -/
def Part.ofSet : List Char → Part
  | '^' :: set => .one (.outside set)
  | set => .one (.among set)

/-- Reads a pattern, of which the set behind an open bracket has been read so far.  A bracket
that is never closed asks for itself. -/
def readParts : Option (List Char) → List Char → List Part
  | none, [] => []
  | some set, [] => ('[' :: set).map Part.ofChar
  | none, c :: rest => if c = '[' then readParts (some []) rest else .ofChar c :: readParts none rest
  | some set, c :: rest =>
    if c = ']' then .ofSet set :: readParts none rest else readParts (some (set ++ [c])) rest

/-- The parts of a pattern. -/
def parts (pattern : String) : List Part := readParts none pattern.toList

/-! ## Matching -/

/-- Whether a text matches parts one after the other.  A run may take any characters in
front. -/
def acceptsParts : List Part → List Char → Bool
  | [], text => text.isEmpty
  | .run :: rest, text => text.tails.any (acceptsParts rest)
  | .one single :: rest, c :: text => single.accepts c && acceptsParts rest text
  | .one _ :: _, [] => false

/-- Whether a text matches a pattern. -/
def accepts (pattern text : String) : Bool := acceptsParts (parts pattern) text.toList

/-- Sets, runs and single characters. -/
example : accepts "a%[b-d^][^x]_]%" "aaac.y]" = true ∧ accepts "[^a-c]%" "b" = false ∧
    accepts "[a%" "[aa" = true := by
  decide +kernel

/-! ## Escaped terms -/

/-- What an escaped character asks for. -/
def escaped (c : Char) : Single := if wildcards.contains c then .among [c] else .exactly c

/-- The parts of an escaped term. -/
def escapedParts (term : List Char) : List Part := term.map fun c => .one (escaped c)

/-- The text of a pattern that finds an escaped term in a place. -/
def around (place : SearchPlace) (pattern : String) : String :=
  match place with
  | .start => pattern ++ "%"
  | .finish => "%" ++ pattern
  | .anywhere => "%" ++ pattern ++ "%"

/-- An escaped character asks for itself. -/
theorem accepts_escaped (c d : Char) : (escaped c).accepts d = decide (d = c) := by
  unfold escaped
  split
  · simp [Single.accepts, inSet]
  · rfl

/-- An escaped character is a part of its own, whatever follows it. -/
theorem readParts_escapeChar (c : Char) (rest : List Char) :
    readParts none (escapeChar c ++ rest) = .one (escaped c) :: readParts none rest := by
  by_cases hwildcard : c ∈ wildcards
  · rcases (show c = '[' ∨ c = '%' ∨ c = '_' by simpa [wildcards] using hwildcard) with
      rfl | rfl | rfl
    all_goals rfl
  · obtain ⟨hbracket, hpercent, hunderscore⟩ : c ≠ '[' ∧ c ≠ '%' ∧ c ≠ '_' := by
      simpa [wildcards] using hwildcard
    have hchar : Part.ofChar c = .one (.exactly c) := by
      simp [Part.ofChar, hpercent, hunderscore]
    simp [escapeChar, escaped, hwildcard, readParts, hbracket, hchar]

/-- The parts of an escaped term stand in front of those of what follows it. -/
theorem readParts_escape (term rest : List Char) :
    readParts none (term.flatMap escapeChar ++ rest) =
      escapedParts term ++ readParts none rest := by
  induction term with
  | nil => rfl
  | cons c term ih =>
    rw [List.flatMap_cons, List.append_assoc, readParts_escapeChar, ih]
    rfl

/-- The parts of an escaped term with percent signs around it. -/
theorem parts_around_escape (place : SearchPlace) (term : String) :
    parts (around place (escape term)) =
      match place with
      | .start => escapedParts term.toList ++ [.run]
      | .finish => .run :: escapedParts term.toList
      | .anywhere => .run :: (escapedParts term.toList ++ [.run]) := by
  have hlast : readParts none (term.toList.flatMap escapeChar ++ ['%']) =
      escapedParts term.toList ++ [.run] := readParts_escape term.toList ['%']
  have hwhole : readParts none (term.toList.flatMap escapeChar) = escapedParts term.toList := by
    simpa [readParts] using readParts_escape term.toList []
  cases place with
  | start => simpa [parts, around, escape] using hlast
  | finish => simpa [parts, around, escape, readParts, Part.ofChar] using hwhole
  | anywhere => simpa [parts, around, escape, readParts, Part.ofChar] using hlast

/-! ## Escaped terms find themselves -/

variable {rest : List Part} {text : List Char}

/-- A run leaves any end of the text to the parts behind it. -/
theorem acceptsParts_run_iff :
    acceptsParts (.run :: rest) text = true ↔
      ∃ tail, tail <:+ text ∧ acceptsParts rest tail = true := by
  simp [acceptsParts, List.mem_tails]

/-- A run accepts every text. -/
theorem acceptsParts_run : acceptsParts [.run] text = true :=
  acceptsParts_run_iff.mpr ⟨[], List.nil_suffix, rfl⟩

/-- An escaped term takes itself off the front of the text. -/
theorem acceptsParts_escaped_iff {term : List Char} :
    acceptsParts (escapedParts term ++ rest) text = true ↔
      ∃ tail, text = term ++ tail ∧ acceptsParts rest tail = true := by
  induction term generalizing text with
  | nil => simp [escapedParts]
  | cons c term ih =>
    change acceptsParts (.one (escaped c) :: (escapedParts term ++ rest)) text = true ↔ _
    cases text with
    | nil => simp [acceptsParts]
    | cons d text =>
      rw [acceptsParts, accepts_escaped, Bool.and_eq_true, decide_eq_true_eq, ih]
      simp only [List.cons_append, List.cons.injEq, and_assoc, exists_and_left]

/-- An escaped term accepts the term alone. -/
theorem acceptsParts_escaped_self_iff {term : List Char} :
    acceptsParts (escapedParts term) text = true ↔ text = term := by
  have hparts : acceptsParts (escapedParts term ++ []) text = true ↔
      ∃ tail, text = term ++ tail ∧ acceptsParts [] tail = true :=
    acceptsParts_escaped_iff
  rw [List.append_nil] at hparts
  simp [hparts, acceptsParts]

/-- An escaped term in front of a run accepts the texts that begin with the term. -/
theorem acceptsParts_escaped_run_iff {term : List Char} :
    acceptsParts (escapedParts term ++ [.run]) text = true ↔ term <+: text := by
  rw [acceptsParts_escaped_iff, List.prefix_iff_exists_append_eq]
  simp [acceptsParts_run, eq_comm]

/-- An escaped term with percent signs around it finds the term itself, whatever characters
it has. -/
theorem accepts_around_escape_iff (place : SearchPlace) (term text : String) :
    accepts (around place (escape term)) text = true ↔ place.Finds term text := by
  rw [accepts, parts_around_escape]
  cases place with
  | start => exact acceptsParts_escaped_run_iff
  | finish =>
    rw [acceptsParts_run_iff]
    simp [acceptsParts_escaped_self_iff, SearchPlace.Finds]
  | anywhere =>
    rw [acceptsParts_run_iff]
    simp only [acceptsParts_escaped_run_iff, SearchPlace.Finds]
    rw [List.infix_iff_prefix_suffix]
    simp only [and_comm]

end Pattern

end SqlScribe
