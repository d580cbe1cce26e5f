import SqlScribe.Proofs.Lexing.Lexeme
import SqlScribe.Sql.Piece

/-!
# Spacing of pieces

Pieces of statement text keep their lexemes to themselves if each of them is whole
and, of two neighbours, the first ends where nothing goes on or the second begins
with a separator.

Main definitions:

- `Sql.Piece.Whole` says that a piece leaves no quoted part open.
- `Sql.Pieces.Spaced` says that every two neighbours are kept apart.

Main results:

- `Sql.Pieces.lexemes_spell`: the lexemes of spaced pieces are those of each piece.
- `Sql.Pieces.settled_spell`: spaced pieces leave nothing open.
- `Sql.Piece.lexemes_name`, `Sql.Piece.lexemes_literal`, `Sql.Piece.lexemes_placeholder`
  and `Sql.Piece.lexemes_number`: each of these pieces is a single lexeme, whatever text
  it carries.
-/

namespace SqlScribe.Sql

/-! ## Separators -/

/-- Whether a lexeme may end in a mode. -/
def Mode.settled : Mode → Bool
  | .dash | .name | .literal | .comment => false
  | _ => true

/-- Whether no character goes on with a lexeme. -/
def Mode.closed : Mode → Bool
  | .blank | .sign => true
  | _ => false

/-- What nothing goes on with may end. -/
theorem Mode.settled_of_closed {mode : Mode} (hclosed : mode.closed = true) :
    mode.settled = true := by
  cases mode <;> simp_all [closed, settled]

/-- A character that goes on with no settled lexeme. -/
def isSeparator (c : Char) : Bool := !isWordChar c && c ≠ ']' && c ≠ '\''

/-- Digits are characters of words. -/
theorem isWordChar_of_isDigit {c : Char} (hdigit : c.isDigit = true) : isWordChar c = true := by
  simp [isWordChar, Char.isAlphanum, hdigit]

/-- A digit begins a number. -/
theorem Mode.start_of_isDigit {c : Char} (hdigit : c.isDigit = true) : start c = .number := by
  have hne : ∀ d : Char, d.isDigit = false → c ≠ d := fun d hd heq => by simp_all
  simp [start, isBlank, isLineEnd, hdigit, hne]

/-- No character goes on with what is closed. -/
@[simp] theorem Mode.next?_of_closed {mode : Mode} (hclosed : mode.closed = true) (c : Char) :
    mode.next? c = none := by
  cases mode <;> simp_all [closed, next?]

/-- A separator goes on with nothing that may end. -/
theorem Mode.next?_of_isSeparator {mode : Mode} {c : Char} (hsettled : mode.settled = true)
    (hseparator : isSeparator c = true) : mode.next? c = none := by
  simp only [isSeparator, Bool.and_eq_true, Bool.not_eq_true', decide_eq_true_eq] at hseparator
  obtain ⟨⟨hword, hbracket⟩, hquote⟩ := hseparator
  have hdigit : c.isDigit = false := by
    cases hc : c.isDigit
    · rfl
    · rw [isWordChar_of_isDigit hc] at hword
      exact hword
  cases mode <;> simp_all [settled, next?]

/-! ## Pieces by themselves -/

namespace Piece

/-- The characters of a piece. -/
def chars (piece : Piece) : List Char := (piece.spell .sqlServer).toList

/-- Whether a piece begins with a separator. -/
def opens (piece : Piece) : Bool := piece.chars.head?.any isSeparator

/-- Whether a piece ends where nothing goes on. -/
def closes (piece : Piece) : Bool := (Mode.blank.after piece.chars).closed

/-- A piece has a text and leaves nothing open in it. -/
structure Whole (piece : Piece) : Prop where
  nonempty : piece.chars ≠ []
  /-- The last lexeme may end there. -/
  settled : (Mode.blank.after piece.chars).settled = true

end Piece

/-! ## Neighbours -/

namespace Pieces

/-- Every piece is fit and kept apart from the one before it; the flag says whether
the text in front could go on. -/
def Spaced (fits : Piece → Prop) : Bool → Pieces → Prop
  | _, [] => True
  | goesOn, piece :: rest =>
    (goesOn = true → piece.opens = true) ∧ fits piece ∧ Spaced fits (!piece.closes) rest

variable {fits : Piece → Prop}

@[simp] theorem spaced_nil (goesOn : Bool) : Spaced fits goesOn [] := trivial

/-- Pieces that may follow a text that goes on may follow every text. -/
theorem Spaced.weaken {goesOn : Bool} {pieces : Pieces} (hspaced : Spaced fits true pieces) :
    Spaced fits goesOn pieces := by
  cases pieces with
  | nil => trivial
  | cons piece rest => exact ⟨fun _ => hspaced.1 rfl, hspaced.2⟩

/-- Pieces that may follow every text may follow spaced pieces. -/
theorem Spaced.append {goesOn : Bool} {a b : Pieces} (ha : Spaced fits goesOn a)
    (hb : Spaced fits true b) : Spaced fits goesOn (a ++ b) := by
  induction a generalizing goesOn with
  | nil => exact hb.weaken
  | cons piece rest ih => exact ⟨ha.1, ha.2.1, ih ha.2.2⟩

/-- Each of spaced pieces is fit. -/
theorem Spaced.fits_of_mem {goesOn : Bool} {pieces : Pieces} {piece : Piece}
    (hspaced : Spaced fits goesOn pieces) (hmem : piece ∈ pieces) : fits piece := by
  induction pieces generalizing goesOn with
  | nil => simp at hmem
  | cons first rest ih =>
    rcases List.mem_cons.mp hmem with rfl | hrest
    · exact hspaced.2.1
    · exact ih hspaced.2.2 hrest

/-- Pieces fit for one purpose may be fit for another. -/
theorem Spaced.mono {fits' : Piece → Prop} (himp : ∀ piece, fits piece → fits' piece)
    {goesOn : Bool} {pieces : Pieces} (hspaced : Spaced fits goesOn pieces) :
    Spaced fits' goesOn pieces := by
  induction pieces generalizing goesOn with
  | nil => trivial
  | cons piece rest ih => exact ⟨hspaced.1, himp piece hspaced.2.1, ih hspaced.2.2⟩

/-- A fixed text that ends where nothing goes on comes in front of spaced pieces. -/
theorem Spaced.lead {text : String} {rest : Pieces} (hfits : fits (.fixed text))
    (hcloses : (Piece.fixed text).closes = true) (hrest : Spaced fits false rest) :
    Spaced fits false (.fixed text :: rest) := by
  refine ⟨nofun, hfits, ?_⟩
  rw [hcloses]
  exact hrest

/-- A fixed text that begins with a separator may follow every text. -/
theorem Spaced.trail {goesOn : Bool} {text : String} {rest : Pieces}
    (hopens : (Piece.fixed text).opens = true) (hfits : fits (.fixed text))
    (hrest : Spaced fits true rest) : Spaced fits goesOn (.fixed text :: rest) :=
  ⟨fun _ => hopens, hfits, hrest.weaken⟩

/-- A fixed text that does both joins every text to spaced pieces. -/
theorem Spaced.joint {goesOn : Bool} {text : String} {rest : Pieces}
    (hopens : (Piece.fixed text).opens = true) (hfits : fits (.fixed text))
    (hcloses : (Piece.fixed text).closes = true) (hrest : Spaced fits false rest) :
    Spaced fits goesOn (.fixed text :: rest) :=
  ⟨fun _ => hopens, (hrest.lead hfits hcloses).2⟩

/-- Spaced sequences stay spaced with such a separator between each two. -/
theorem Spaced.join {separator : String} {texts : List Pieces}
    (hopens : (Piece.fixed separator).opens = true)
    (hcloses : (Piece.fixed separator).closes = true) (hfits : fits (.fixed separator))
    (htexts : ∀ text ∈ texts, Spaced fits false text) :
    Spaced fits false (join separator texts) := by
  induction texts with
  | nil => trivial
  | cons text rest ih =>
    have hrest := ih fun next hnext => htexts next (List.mem_cons_of_mem text hnext)
    have htext := htexts text List.mem_cons_self
    cases rest with
    | nil => exact htext
    | cons next more =>
      exact htext.append (.joint hopens hfits hcloses hrest)

/-- What follows a spaced piece does not go on with its last lexeme. -/
theorem next?_of_spaced {goesOn : Bool} {piece : Piece} {rest : Pieces}
    (hwhole : ∀ piece, fits piece → piece.Whole) (hspaced : Spaced fits goesOn (piece :: rest)) :
    ∀ c ∈ (rest.spell .sqlServer).toList.head?, (Mode.blank.after piece.chars).next? c = none := by
  intro c hc
  have hsettled := (hwhole piece hspaced.2.1).settled
  cases rest with
  | nil => simp at hc
  | cons next more =>
    obtain ⟨hopens, hfits, -⟩ := hspaced.2.2
    obtain ⟨d, tail, hchars⟩ := List.exists_cons_of_ne_nil (hwhole next hfits).nonempty
    have hd : d = c := by
      rw [spell_cons, String.toList_append] at hc
      change c ∈ (next.chars ++ _).head? at hc
      simpa [hchars] using hc
    cases hcloses : piece.closes with
    | true => exact Mode.next?_of_closed hcloses c
    | false =>
      have hseparator : next.opens = true := hopens (by simp [hcloses])
      simp only [Piece.opens, hchars, List.head?_cons, Option.any_some, hd] at hseparator
      exact Mode.next?_of_isSeparator hsettled hseparator

/-- The lexemes of spaced pieces are those of each piece by itself. -/
theorem lexemes_spell {goesOn : Bool} {pieces : Pieces}
    (hwhole : ∀ piece, fits piece → piece.Whole) (hspaced : Spaced fits goesOn pieces) :
    lexemes (pieces.spell .sqlServer).toList = pieces.flatMap fun piece => lexemes piece.chars := by
  induction pieces generalizing goesOn with
  | nil => rfl
  | cons piece rest ih =>
    rw [spell_cons, String.toList_append, List.flatMap_cons, ← ih hspaced.2.2]
    exact lexemes_append (next?_of_spaced hwhole hspaced)

/-- Spaced pieces leave nothing open. -/
theorem settled_spell {goesOn : Bool} {pieces : Pieces}
    (hwhole : ∀ piece, fits piece → piece.Whole) (hspaced : Spaced fits goesOn pieces) :
    (Mode.blank.after (pieces.spell .sqlServer).toList).settled = true := by
  induction pieces generalizing goesOn with
  | nil => rfl
  | cons piece rest ih =>
    have hcut := next?_of_spaced hwhole hspaced
    have hrest := ih hspaced.2.2
    have hpiece := (hwhole piece hspaced.2.1).settled
    rw [spell_cons, String.toList_append, Mode.after_append]
    change ((Mode.blank.after piece.chars).after _).settled = true
    cases hspell : (spell .sqlServer rest).toList with
    | nil => exact hpiece
    | cons c more =>
      rw [hspell] at hcut hrest
      have hnone : (Mode.blank.after piece.chars).next? c = none := hcut c rfl
      rw [Mode.after, hnone, Option.getD_none]
      exact hrest

end Pieces

/-! ## Single lexemes -/

/-- A text that goes on with a lexeme throughout is part of it. -/
theorem scan_of_next? {mode : Mode} {text : List Char}
    (hnext : ∀ c ∈ text, mode.next? c = some mode) (read : List Char) :
    scan mode read text = pending mode (read ++ text) ∧ mode.after text = mode := by
  induction text generalizing read with
  | nil => simp [scan]
  | cons c rest ih =>
    have hc := hnext c List.mem_cons_self
    have hrest := ih (fun d hd => hnext d (List.mem_cons_of_mem c hd)) (read ++ [c])
    refine ⟨?_, ?_⟩
    · simp [scan, hc, hrest.1]
    · simp [Mode.after, hc, hrest.2]

/-- Inside and behind a quoted part, its text with all ends doubled is read up to the
one that stands alone. -/
theorem scan_double {inside ending : Mode} {close : Char}
    (hinside : ∀ c, inside.next? c = some (if c = close then ending else inside))
    (hending : ending.next? close = some inside) (read text : List Char) :
    scan inside read (Quoted.double close text ++ [close]) =
        [⟨ending, read ++ (Quoted.double close text ++ [close])⟩] ∧
      inside.after (Quoted.double close text ++ [close]) = ending := by
  induction text generalizing read with
  | nil => simp [scan, pending, Mode.after, hinside]
  | cons c rest ih =>
    by_cases hc : c = close
    · subst hc
      have hrest := ih (read ++ [c, c])
      refine ⟨?_, ?_⟩
      · simpa [Quoted.double, scan, hinside, hending] using hrest.1
      · simpa [Quoted.double, Mode.after, hinside, hending] using hrest.2
    · have hrest := ih (read ++ [c])
      refine ⟨?_, ?_⟩
      · simpa [Quoted.double, scan, hinside, hc] using hrest.1
      · simpa [Quoted.double, Mode.after, hinside, hc] using hrest.2

namespace Piece

/-- A name stands between brackets, with the closing ones in it doubled. -/
theorem chars_name (text : String) :
    (name text).chars = '[' :: (Quoted.double ']' text.toList ++ [']']) := by
  simp [chars, spell, Dialect.identifier, Quoted.quote, Dialect.sqlServer]

/-- A literal stands between quotes, with those in it doubled. -/
theorem chars_literal (text : String) :
    (literal false text).chars = '\'' :: (Quoted.double '\'' text.toList ++ ['\'']) := by
  simp [chars, spell, textLiteral, Quoted.quote]

/-- A placeholder is the number of its value behind a mark. -/
theorem chars_placeholder (index : Nat) :
    (placeholder index).chars = '@' :: 'p' :: Nat.toDigits 10 index := by
  simp [chars, spell, Dialect.placeholder, Dialect.sqlServer, Nat.toString_eq_repr]

/-- A quoted identifier is a single lexeme. -/
theorem lexemes_name (text : String) :
    lexemes (name text).chars = [⟨.nameEnd, (name text).chars⟩] ∧
      Mode.blank.after (name text).chars = .nameEnd := by
  have hinside : ∀ c, Mode.name.next? c = some (if c = ']' then .nameEnd else .name) :=
    fun _ => rfl
  have hscan := scan_double hinside rfl ['['] text.toList
  rw [chars_name, lexemes_cons]
  exact hscan

/-- A text literal is a single lexeme. -/
theorem lexemes_literal (text : String) :
    lexemes (literal false text).chars = [⟨.literalEnd, (literal false text).chars⟩] ∧
      Mode.blank.after (literal false text).chars = .literalEnd := by
  have hinside : ∀ c, Mode.literal.next? c = some (if c = '\'' then .literalEnd else .literal) :=
    fun _ => rfl
  have hscan := scan_double hinside rfl ['\''] text.toList
  rw [chars_literal, lexemes_cons]
  exact hscan

theorem chars_number (value : Nat) : (number value).chars = Nat.toDigits 10 value := by
  change (Int.repr (Int.ofNat value)).toList = Nat.toDigits 10 value
  simp [Int.repr]

/-- A placeholder is a single lexeme. -/
theorem lexemes_placeholder (index : Nat) :
    lexemes (placeholder index).chars = [⟨.placeholder, (placeholder index).chars⟩] ∧
      Mode.blank.after (placeholder index).chars = .placeholder := by
  have hnext : ∀ c ∈ 'p' :: Nat.toDigits 10 index,
      Mode.placeholder.next? c = some .placeholder := by
    intro c hc
    have hword : isWordChar c = true := by
      rcases List.mem_cons.mp hc with rfl | hdigit
      · rfl
      · exact isWordChar_of_isDigit
          (Nat.isDigit_of_mem_toDigits (by decide) (by decide) hdigit)
    simp [Mode.next?, hword]
  have hscan := scan_of_next? hnext ['@']
  rw [chars_placeholder, lexemes_cons]
  exact hscan

/-- A whole number is a single lexeme. -/
theorem lexemes_number (value : Nat) :
    lexemes (number value).chars = [⟨.number, (number value).chars⟩] ∧
      Mode.blank.after (number value).chars = .number := by
  have hdigit : ∀ c ∈ Nat.toDigits 10 value, c.isDigit = true := fun c hc =>
    Nat.isDigit_of_mem_toDigits (by decide) (by decide) hc
  rw [chars_number]
  obtain ⟨first, rest, hdigits⟩ :=
    List.exists_cons_of_ne_nil (@Nat.toDigits_ne_nil value 10)
  rw [hdigits] at hdigit ⊢
  have hnext : ∀ c ∈ rest, Mode.number.next? c = some .number := fun c hc => by
    simp [Mode.next?, hdigit c (List.mem_cons_of_mem first hc)]
  have hscan := scan_of_next? hnext [first]
  rw [lexemes_cons, Mode.after, Mode.next?, Option.getD_none,
    Mode.start_of_isDigit (hdigit first List.mem_cons_self)]
  exact hscan

end Piece

end SqlScribe.Sql
