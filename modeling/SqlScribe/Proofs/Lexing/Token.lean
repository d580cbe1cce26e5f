import SqlScribe.Proofs.Lexing.QueryText

/-!
# Tokens of server text

A token is what a lexeme says: a quoted identifier says the name between its ends,
a text literal says its text.  Blanks and comments say nothing.

Main definitions:

- `Sql.Token` is a token; `Sql.tokens` reads the tokens of a text.
- `Sql.Piece.tokens` reads those of a single piece.

Main results:

- `Sql.Piece.tokens_name`: a quoted identifier is the token of its name, whatever
  characters the name has.
- `Query.tokens_spell_pieces`: the tokens of a query are those of its pieces.
-/

namespace SqlScribe.Sql

/-! ## Reading tokens -/

/-- What a lexeme says. -/
inductive Token where
  | name (text : String)
  | literal (national : Bool) (text : String)
  | placeholder (text : String)
  | word (text : String)
  | number (text : String)
  | sign (text : String)
  /-- A quoted part that is never closed. -/
  | unclosed (text : String)
deriving DecidableEq, Repr

/-- The inside of a quoted text, all ends doubled in it halved. -/
def unquoted (opening close : Char) (text : List Char) : String :=
  match Quoted.scan? opening close text with
  | some (inside, _) => String.ofList inside
  | none => String.ofList text

/-- The token of a lexeme, if it says something. -/
def Lexeme.token? (lexeme : Lexeme) : Option Token :=
  match lexeme.mode with
  | .blank | .comment => none
  | .sign | .dash => some (.sign (String.ofList lexeme.text))
  | .national | .word => some (.word (String.ofList lexeme.text))
  | .number => some (.number (String.ofList lexeme.text))
  | .placeholder => some (.placeholder (String.ofList lexeme.text))
  | .nameEnd => some (.name (unquoted '[' ']' lexeme.text))
  | .literalEnd =>
    match lexeme.text with
    | 'N' :: rest => some (.literal true (unquoted '\'' '\'' rest))
    | text => some (.literal false (unquoted '\'' '\'' text))
  | .name | .literal => some (.unclosed (String.ofList lexeme.text))

/-- The tokens of a text. -/
def tokens (text : String) : List Token := (lexemes text.toList).filterMap Lexeme.token?

/-- A text between its two ends is read back. -/
theorem unquoted_quote (opening close : Char) (text : String) :
    unquoted opening close (opening :: (Quoted.double close text.toList ++ [close])) = text := by
  have hscan := Quoted.scanInside?_double close text.toList [] (by simp)
  simp [unquoted, Quoted.scan?, hscan]

/-! ## Tokens of pieces -/

namespace Piece

/-- The tokens of a piece by itself. -/
def tokens (piece : Piece) : List Token := (lexemes piece.chars).filterMap Lexeme.token?

/-- A quoted identifier is the token of its name. -/
theorem tokens_name (text : String) : (name text).tokens = [.name text] := by
  rw [tokens, (lexemes_name text).1, chars_name]
  simp [Lexeme.token?, unquoted_quote]

/-- A name of the library is a single token. -/
theorem tokens_ownName (text : String) : (ownName text).tokens = [.name text] :=
  tokens_name text

/-- A literal is a single token. -/
theorem tokens_literal (text : String) : (literal false text).tokens = [.literal false text] := by
  rw [tokens, (lexemes_literal text).1, chars_literal]
  simp [Lexeme.token?, unquoted_quote]

/-- A placeholder is a single token. -/
theorem tokens_placeholder (index : Nat) :
    (placeholder index).tokens = [.placeholder (Dialect.sqlServer.placeholder index)] := by
  rw [tokens, (lexemes_placeholder index).1]
  simp [Lexeme.token?, chars, spell]

/-- Only a quoted identifier that is closed says a name. -/
theorem mode_of_token?_name {lexeme : Lexeme} {text : String}
    (htoken : lexeme.token? = some (.name text)) : lexeme.mode = .nameEnd := by
  obtain ⟨mode, characters⟩ := lexeme
  cases mode with
  | nameEnd => rfl
  | literalEnd =>
    simp only [Lexeme.token?] at htoken
    split at htoken <;> simp at htoken
  | _ => simp [Lexeme.token?] at htoken

/-- No plain text has a quoted identifier in it. -/
theorem name_notMem_tokens_fixed {words text : String} (hcalm : (fixed words).calm = true) :
    Token.name text ∉ (fixed words).tokens := by
  intro hmem
  simp only [calm, Bool.or_eq_true, Bool.and_eq_true, decide_eq_true_eq] at hcalm
  rcases hcalm with rfl | ⟨-, hplain⟩
  · have hdash : (fixed " - ").tokens = [.sign "-"] := by decide
    simp [hdash] at hmem
  · obtain ⟨lexeme, hlexeme, htoken⟩ := List.mem_filterMap.mp hmem
    have hmode := plain_of_mem_lexemes (List.all_eq_true.mp hplain) hlexeme
    rw [mode_of_token?_name htoken] at hmode
    simp [Mode.plain] at hmode

/-- The only quoted identifiers in a calm piece are names of a caller and the alias
of derived tables. -/
theorem name_of_mem_tokens {piece : Piece} {text : String} (hcalm : piece.calm = true)
    (hmem : .name text ∈ piece.tokens) : piece = .name text ∨ text = derivedAlias := by
  cases piece with
  | fixed words => exact absurd hmem (name_notMem_tokens_fixed hcalm)
  | name other =>
    rw [tokens_name, List.mem_singleton, Token.name.injEq] at hmem
    exact .inl (by rw [hmem])
  | ownName other =>
    simp only [calm, decide_eq_true_eq] at hcalm
    rw [tokens_ownName, List.mem_singleton, Token.name.injEq, hcalm] at hmem
    exact .inr hmem
  | literal national other =>
    cases national with
    | true => simp [calm] at hcalm
    | false => simp [tokens_literal] at hmem
  | placeholder index => simp [tokens_placeholder] at hmem
  | number value =>
    simp only [calm, decide_eq_true_eq] at hcalm
    obtain ⟨n, rfl⟩ := Int.eq_ofNat_of_zero_le hcalm
    simp [tokens, (lexemes_number n).1, Lexeme.token?] at hmem
  | raw other => simp [calm] at hcalm

end Piece

/-- The tokens of spaced pieces are those of each piece. -/
theorem Pieces.tokens_spell {fits : Piece → Prop} {goesOn : Bool} {pieces : Pieces}
    (hwhole : ∀ piece, fits piece → piece.Whole) (hspaced : Pieces.Spaced fits goesOn pieces) :
    tokens (pieces.spell .sqlServer) = pieces.flatMap Piece.tokens := by
  rw [tokens, Pieces.lexemes_spell hwhole hspaced, List.filterMap_flatMap]
  rfl

end SqlScribe.Sql

namespace SqlScribe.Query

open Sql

/-- The tokens of a query are those of its pieces. -/
theorem tokens_spell_pieces {query : Query} {values values' : List Value} {pieces : Pieces}
    (hpieces : query.pieces values = .ok (pieces, values')) :
    tokens (pieces.spell .sqlServer) = pieces.flatMap Piece.tokens := by
  rw [tokens, lexemes_spell_pieces hpieces, List.filterMap_flatMap]
  rfl

end SqlScribe.Query
