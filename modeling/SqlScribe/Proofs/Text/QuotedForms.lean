import Mathlib.Logic.Function.Basic
import SqlScribe.Dialect

/-!
# Quoted forms and their readers

A quoted text is read in one pass: two closing characters in a row stand for one of them, and
a closing character that no further one follows is the end.  What is read in this way are the
quoted forms in front of texts that do not go on with the closing character, and nothing else,
be the two ends equal or not.

Main definitions:

- `Quoted.read?` reads a quoted text off the front of a text.
- `Dialect.readIdentifier?`, `readTextLiteral?` and `readNationalLiteral?` read what a dialect
  quotes.

Main results:

- `Quoted.scanInside?_eq_some_iff`: what is read up to an end, and where the end is.
- `Quoted.read?_eq_some_iff`: what is read as a quoted text is one.
- `Dialect.read?_quotedForms_iff`: the readers of a dialect undo its quoting, and no two texts
  have one quoted form.
-/

namespace SqlScribe

namespace Quoted

/-! ## The inside of a quoted text -/

/-- Doubling makes no text shorter. -/
theorem length_le_length_double (close : Char) (text : List Char) :
    text.length ≤ (double close text).length := by
  induction text with
  | nil => exact Nat.zero_le _
  | cons c rest ih =>
    by_cases hc : c = close
    · simp only [double, hc, if_true, List.length_cons]
      omega
    · simp only [double, hc, if_false, List.length_cons]
      omega

/-- What is read up to an end is written there with its closing characters doubled, and the
end is not followed by a further one. -/
theorem eq_double_of_scanInside? {close : Char} {text inside tail : List Char}
    (hscan : scanInside? close text = some (inside, tail)) :
    text = double close inside ++ close :: tail ∧ tail.head? ≠ some close := by
  -- The cases are those of the reader: a pair of closing characters, an end, another character.
  fun_induction scanInside? close text generalizing inside tail with
  | case1 => simp at hscan
  | case2 => simp_all
  | case3 c hc => simp at hscan
  | case4 rest ih =>
    obtain ⟨⟨inner, after⟩, hinner, hparts⟩ := Option.map_eq_some_iff.mp hscan
    cases hparts
    obtain ⟨hrest, hboundary⟩ := ih hinner
    exact ⟨by simp [double, ← hrest], hboundary⟩
  | case5 d rest hd =>
    cases hscan
    exact ⟨rfl, by simpa using hd⟩
  | case6 c d rest hc ih =>
    obtain ⟨⟨inner, after⟩, hinner, hparts⟩ := Option.map_eq_some_iff.mp hscan
    cases hparts
    obtain ⟨hrest, hboundary⟩ := ih hinner
    exact ⟨by simp [double, hc, ← hrest], hboundary⟩

/-- The reader undoes the doubling of closing characters and stops at the end alone. -/
theorem scanInside?_eq_some_iff {close : Char} {text inside tail : List Char} :
    scanInside? close text = some (inside, tail) ↔
      text = double close inside ++ close :: tail ∧ tail.head? ≠ some close := by
  constructor
  · exact eq_double_of_scanInside?
  · rintro ⟨rfl, hboundary⟩
    exact scanInside?_double close inside tail hboundary

/-- A quoted text begins with its opening character. -/
theorem scan?_eq_some_iff {opening close : Char} {text inside tail : List Char} :
    scan? opening close text = some (inside, tail) ↔
      text = opening :: (double close inside ++ close :: tail) ∧ tail.head? ≠ some close := by
  cases text with
  | nil => simp [scan?]
  | cons c rest =>
    by_cases hc : c = opening
    · simp [scan?, hc, scanInside?_eq_some_iff]
    · simp [scan?, hc]

/-! ## Quoted texts -/

/-- Reads a quoted text off the front of a text, and returns it with what follows. -/
def read? (opening close : Char) (text : String) : Option (String × String) :=
  (scan? opening close text.toList).map fun (inside, tail) =>
    (String.ofList inside, String.ofList tail)

/-- What is read as a quoted text is one, in front of a text that does not go on with the
closing character. -/
theorem read?_eq_some_iff {opening close : Char} {text inside rest : String} :
    read? opening close text = some (inside, rest) ↔
      text = quote opening close inside ++ rest ∧ rest.toList.head? ≠ some close := by
  have hparts : read? opening close text = some (inside, rest) ↔
      scan? opening close text.toList = some (inside.toList, rest.toList) := by
    simp only [read?, Option.map_eq_some_iff, Prod.exists, Prod.mk.injEq]
    constructor
    · rintro ⟨characters, tail, hscan, rfl, rfl⟩
      simpa using hscan
    · intro hscan
      exact ⟨inside.toList, rest.toList, hscan, by simp, by simp⟩
  have hwritten : text = quote opening close inside ++ rest ↔
      text.toList = opening :: (double close inside.toList ++ close :: rest.toList) := by
    rw [← String.toList_inj]
    simp [quote]
  rw [hparts, hwritten, scan?_eq_some_iff]

-- Where both ends are one character, only the last of a run of six is the end.
example : read? '|' '|' "|||||| AS n" = some ("||", " AS n") := by decide

/-- No two texts have one quoted form: it is read as both of them. -/
theorem quote_injective (opening close : Char) : Function.Injective (quote opening close) := by
  intro text other hsame
  have hread (inside : String) :
      read? opening close (quote opening close inside) = some (inside, "") :=
    read?_eq_some_iff.mpr (by simp)
  have hboth : some (text, "") = some (other, "") := by
    rw [← hread text, ← hread other, hsame]
  simpa using hboth

end Quoted

/-! ## What a dialect quotes -/

/-- Reads a quoted identifier off the front of a text. -/
def Dialect.readIdentifier? (dialect : Dialect) : String → Option (String × String) :=
  Quoted.read? dialect.opening dialect.closing

/-- Reads a text literal off the front of a text. -/
def readTextLiteral? : String → Option (String × String) := Quoted.read? '\'' '\''

/-- Reads a literal that keeps every character off the front of a text. -/
def readNationalLiteral? (text : String) : Option (String × String) :=
  match text.toList with
  | 'N' :: literal => readTextLiteral? (String.ofList literal)
  | _ => none

theorem readNationalLiteral?_eq_some_iff {text value rest : String} :
    readNationalLiteral? text = some (value, rest) ↔
      text = nationalLiteral value ++ rest ∧ rest.toList.head? ≠ some '\'' := by
  unfold readNationalLiteral?
  split
  · next literal hliteral =>
    have htext : text = "N" ++ String.ofList literal := by
      rw [← String.toList_inj]
      simp [hliteral]
    rw [readTextLiteral?, Quoted.read?_eq_some_iff, htext, nationalLiteral, textLiteral,
      String.append_assoc, String.append_right_inj]
  · next hother =>
    simp only [reduceCtorEq, false_iff, not_and]
    rintro rfl
    simp [nationalLiteral] at hother

/-- The readers of a dialect read exactly what it quotes: an identifier, a text literal or a
national one in front of a text that does not go on with the closing character, whatever the
dialect's two quoting characters are.  So no two names and no two values are quoted alike. -/
theorem Dialect.read?_quotedForms_iff (dialect : Dialect) :
    (∀ text name rest : String,
        dialect.readIdentifier? text = some (name, rest) ↔
          text = dialect.identifier name ++ rest ∧
            rest.toList.head? ≠ some dialect.closing) ∧
      (∀ text value rest : String,
        readTextLiteral? text = some (value, rest) ↔
          text = textLiteral value ++ rest ∧ rest.toList.head? ≠ some '\'') ∧
      (∀ text value rest : String,
        readNationalLiteral? text = some (value, rest) ↔
          text = nationalLiteral value ++ rest ∧ rest.toList.head? ≠ some '\'') ∧
      Function.Injective dialect.identifier ∧
      Function.Injective textLiteral ∧
      Function.Injective nationalLiteral := by
  refine ⟨fun _ _ _ => Quoted.read?_eq_some_iff, fun _ _ _ => Quoted.read?_eq_some_iff,
    fun _ _ _ => readNationalLiteral?_eq_some_iff, Quoted.quote_injective _ _,
    Quoted.quote_injective _ _, ?_⟩
  intro value other hsame
  exact Quoted.quote_injective _ _ ((String.append_right_inj "N").mp hsame)

end SqlScribe
