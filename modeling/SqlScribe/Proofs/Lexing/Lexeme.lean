import SqlScribe.Text.Quoted

/-!
# Lexemes of server text

Statement text is read character by character.  The lexer knows what the text
read so far stands in, and a character either goes on with the current lexeme or
begins the next one.  Nothing is dropped: blanks and comments are lexemes too,
and a quoted part that is never closed is one that ends in an open mode.

The lexer reads the part of the server's language that statements are written in: identifiers in
brackets, text literals, national or not, placeholders, words, numbers, signs and comments up to
the end of a line.  Comments between `/*` and `*/` and identifiers in double quotes are no
lexemes of their own; their marks are read as signs.

Main definitions:

- `Sql.Mode` is what the lexer stands in; `Sql.Mode.next?` goes on with a lexeme.
- `Sql.lexemes` cuts a text into lexemes.

Main results:

- `Sql.flatMap_text_lexemes`: the lexemes of a text make up the text.
- `Sql.lexemes_append`: two texts are cut independently where the first character
  of the second one does not go on with the last lexeme of the first one.
-/

namespace SqlScribe.Sql

/-! ## Classes of characters -/

/-- A character that ends a line. -/
def isLineEnd (c : Char) : Bool := c = '\n' || c = '\r'

/-- A character between lexemes. -/
def isBlank (c : Char) : Bool := c = ' ' || c = '\t' || isLineEnd c

/-- A character inside a word. -/
def isWordChar (c : Char) : Bool :=
  c.isAlphanum || c = '_' || c = '@' || c = '#' || c = '$'

/-! ## Modes -/

/-- What the lexer stands in. -/
inductive Mode where
  | blank
  | sign
  /-- A dash, which a second one makes a comment. -/
  | dash
  /-- The letter that a quote makes a national literal. -/
  | national
  | word
  | number
  | placeholder
  | name
  /-- A quoted identifier after what may be its end. -/
  | nameEnd
  | literal
  /-- A text literal after what may be its end. -/
  | literalEnd
  | comment
deriving DecidableEq, Repr

namespace Mode

/-- The mode after the first character of a lexeme. -/
def start (c : Char) : Mode :=
  if isBlank c then .blank
  else if c = '[' then .name
  else if c = '\'' then .literal
  else if c = '@' then .placeholder
  else if c = '-' then .dash
  else if c = 'N' then .national
  else if c.isDigit then .number
  else if isWordChar c then .word
  else .sign

/-- The mode after a further character, if that goes on with the lexeme. -/
def next? : Mode → Char → Option Mode
  | .blank, _ | .sign, _ => none
  | .dash, c => if c = '-' then some .comment else none
  | .national, c =>
    if c = '\'' then some .literal else if isWordChar c then some .word else none
  | .word, c => if isWordChar c then some .word else none
  | .number, c => if c.isDigit then some .number else none
  | .placeholder, c => if isWordChar c then some .placeholder else none
  | .name, c => some (if c = ']' then .nameEnd else .name)
  | .nameEnd, c => if c = ']' then some .name else none
  | .literal, c => some (if c = '\'' then .literalEnd else .literal)
  | .literalEnd, c => if c = '\'' then some .literal else none
  | .comment, c => if isLineEnd c then none else some .comment

/-- The mode after a text. -/
def after : Mode → List Char → Mode
  | mode, [] => mode
  | mode, c :: rest => after ((mode.next? c).getD (start c)) rest

@[simp] theorem after_nil (mode : Mode) : mode.after [] = mode := rfl

/-- The mode behind two texts is the one that the second leads to from the first. -/
@[simp] theorem after_append (mode : Mode) (a b : List Char) :
    mode.after (a ++ b) = (mode.after a).after b := by
  induction a generalizing mode with
  | nil => rfl
  | cons c rest ih => simp [after, ih]

end Mode

/-! ## Cutting a text -/

/-- A part of a text and the mode at its end. -/
structure Lexeme where
  mode : Mode
  text : List Char
deriving DecidableEq, Repr

/-- The lexeme read so far, if there is one. -/
def pending (mode : Mode) (text : List Char) : List Lexeme :=
  if text = [] then [] else [⟨mode, text⟩]

/-- Cuts a text after part of a lexeme. -/
def scan (mode : Mode) (read : List Char) : List Char → List Lexeme
  | [] => pending mode read
  | c :: rest =>
    match mode.next? c with
    | some mode => scan mode (read ++ [c]) rest
    | none => pending mode read ++ scan (Mode.start c) [c] rest

/-- The lexemes of a text. -/
def lexemes (text : List Char) : List Lexeme := scan .blank [] text

@[simp] theorem pending_nil (mode : Mode) : pending mode [] = [] := rfl

/-- An unfinished lexeme has the text that was read of it. -/
@[simp] theorem flatMap_text_pending (mode : Mode) (text : List Char) :
    (pending mode text).flatMap Lexeme.text = text := by
  unfold pending
  split <;> simp_all

/-- The text read so far and the rest are found again in the lexemes. -/
theorem flatMap_text_scan (mode : Mode) (read text : List Char) :
    (scan mode read text).flatMap Lexeme.text = read ++ text := by
  induction text generalizing mode read with
  | nil => simp [scan]
  | cons c rest ih =>
    cases hnext : mode.next? c with
    | some next => simp [scan, hnext, ih]
    | none => simp [scan, hnext, ih]

/-- The lexemes of a text make up the text. -/
@[simp] theorem flatMap_text_lexemes (text : List Char) :
    (lexemes text).flatMap Lexeme.text = text := by
  simp [lexemes, flatMap_text_scan]

@[simp] theorem lexemes_nil : lexemes [] = [] := rfl

/-- The first lexeme begins with the first character. -/
theorem lexemes_cons (c : Char) (rest : List Char) :
    lexemes (c :: rest) = scan (Mode.start c) [c] rest := by
  simp [lexemes, scan, Mode.next?]

/-- A text may be cut where the next character does not go on with the lexeme. -/
theorem scan_append (mode : Mode) (read a b : List Char)
    (hends : ∀ c ∈ b.head?, (mode.after a).next? c = none) :
    scan mode read (a ++ b) = scan mode read a ++ lexemes b := by
  induction a generalizing mode read with
  | nil =>
    cases b with
    | nil => simp [scan]
    | cons c rest =>
      have hnone : mode.next? c = none := hends c rfl
      simp [scan, hnone, lexemes_cons]
  | cons c rest ih =>
    cases hnext : mode.next? c with
    | some next =>
      simp only [Mode.after, hnext, Option.getD_some] at hends
      simp only [List.cons_append, scan, hnext, ih _ _ hends]
    | none =>
      simp only [Mode.after, hnext, Option.getD_none] at hends
      simp only [List.cons_append, scan, hnext, ih _ _ hends, List.append_assoc]

/-- Two texts are cut independently where the first character of the second one
does not go on with the last lexeme of the first one. -/
theorem lexemes_append {a b : List Char}
    (hends : ∀ c ∈ b.head?, (Mode.blank.after a).next? c = none) :
    lexemes (a ++ b) = lexemes a ++ lexemes b :=
  scan_append .blank [] a b hends

/-! ## What every step keeps -/

/-- The mode after a text has what the mode before it has and every character
keeps. -/
theorem Mode.after_keeps (keeps : Mode → Prop) {mode : Mode} {text : List Char}
    (hmode : keeps mode)
    (hstep : ∀ mode, keeps mode → ∀ c ∈ text, keeps ((mode.next? c).getD (start c))) :
    keeps (mode.after text) := by
  induction text generalizing mode with
  | nil => exact hmode
  | cons c rest ih =>
    apply ih (hstep mode hmode c List.mem_cons_self)
    intro mode hkeeps d hd
    exact hstep mode hkeeps d (List.mem_cons_of_mem c hd)

/-- An unfinished lexeme is the only one that is pending. -/
theorem eq_of_mem_pending {mode : Mode} {text : List Char} {lexeme : Lexeme}
    (hmem : lexeme ∈ pending mode text) : lexeme = ⟨mode, text⟩ := by
  unfold pending at hmem
  split at hmem
  · simp at hmem
  · exact List.mem_singleton.mp hmem

/-- What a lexeme has from its first character on and keeps with every further one,
all lexemes after part of a lexeme have, if that part has it. -/
theorem keeps_of_mem_scan (keeps : Lexeme → Prop) {mode : Mode} {read text : List Char}
    (hread : keeps ⟨mode, read⟩) (hfresh : ∀ c ∈ text, keeps ⟨Mode.start c, [c]⟩)
    (hstep : ∀ lexeme next, keeps lexeme → ∀ c ∈ text, lexeme.mode.next? c = some next →
      keeps ⟨next, lexeme.text ++ [c]⟩)
    {lexeme : Lexeme} (hmem : lexeme ∈ scan mode read text) : keeps lexeme := by
  induction text generalizing mode read with
  | nil =>
    rw [eq_of_mem_pending hmem]
    exact hread
  | cons c rest ih =>
    have hfreshRest : ∀ d ∈ rest, keeps ⟨Mode.start d, [d]⟩ :=
      fun d hd => hfresh d (List.mem_cons_of_mem c hd)
    have hstepRest : ∀ lexeme next, keeps lexeme → ∀ d ∈ rest, lexeme.mode.next? d = some next →
        keeps ⟨next, lexeme.text ++ [d]⟩ :=
      fun lexeme next hkeeps d hd => hstep lexeme next hkeeps d (List.mem_cons_of_mem c hd)
    cases hnext : mode.next? c with
    | some next =>
      simp only [scan, hnext] at hmem
      have hkeeps := hstep ⟨mode, read⟩ next hread c List.mem_cons_self hnext
      exact ih hkeeps hfreshRest hstepRest hmem
    | none =>
      simp only [scan, hnext, List.mem_append] at hmem
      rcases hmem with hmem | hmem
      · rw [eq_of_mem_pending hmem]
        exact hread
      · exact ih (hfresh c List.mem_cons_self) hfreshRest hstepRest hmem

/-- All lexemes of a text have what a single character has and every further one
keeps. -/
theorem keeps_of_mem_lexemes (keeps : Lexeme → Prop) {text : List Char}
    (hfresh : ∀ c ∈ text, keeps ⟨Mode.start c, [c]⟩)
    (hstep : ∀ lexeme next, keeps lexeme → ∀ c ∈ text, lexeme.mode.next? c = some next →
      keeps ⟨next, lexeme.text ++ [c]⟩)
    {lexeme : Lexeme} (hmem : lexeme ∈ lexemes text) : keeps lexeme := by
  cases text with
  | nil => simp at hmem
  | cons c rest =>
    rw [lexemes_cons] at hmem
    apply keeps_of_mem_scan keeps (hfresh c List.mem_cons_self) _ _ hmem
    · exact fun d hd => hfresh d (List.mem_cons_of_mem c hd)
    · exact fun lexeme next hkeeps d hd => hstep lexeme next hkeeps d (List.mem_cons_of_mem c hd)

end SqlScribe.Sql
