import SqlScribe.Proofs.Lexing.Token
import SqlScribe.Proofs.Schema.Clauses

/-!
# The text of added columns

A text declares a primary key where the words PRIMARY and KEY follow each other.  So does the
constraint in the definition of a table.  The text that adds a column has no such words: outside
of quoted names and literals it does not even have the letter K, unless an expression is copied
into it.

Main definitions:

- `Sql.declaresKey` says whether tokens declare a primary key.
- `Sql.Piece.keyless` holds of pieces that say nothing of a key.
- `Column.copiesText` says whether an expression is copied into the clause of a column.

Main results:

- `Sql.keyless_literal`: no literal of a value says anything of a key.
- `Schema.declaresKey_keyClause`: the constraint of a primary key declares it.
- `Schema.declaresKey_addColumn`: the text of an added column declares none.
-/

namespace SqlScribe.Sql

/-! ## Declarations of keys -/

/-- Whether a token is a word, in whatever case. -/
def Token.isWord (word : String) : Token → Bool
  | .word text => Text.equalsIgnoringAsciiCase text word
  | _ => false

/-- Whether the words that declare a primary key follow each other somewhere. -/
def declaresKey : List Token → Bool
  | [] => false
  | first :: rest =>
    (first.isWord "PRIMARY" && rest.head?.any (·.isWord "KEY")) || declaresKey rest

/-- The words that declare a key do so wherever they stand. -/
theorem declaresKey_of_words (before after : List Token) :
    declaresKey (before ++ .word "PRIMARY" :: .word "KEY" :: after) = true := by
  induction before with
  | nil => rfl
  | cons first rest ih => rw [List.cons_append, declaresKey, ih, Bool.or_true]

/-- Without the second word no key is declared. -/
theorem declaresKey_eq_false {tokens : List Token}
    (hnone : ∀ token ∈ tokens, token.isWord "KEY" = false) : declaresKey tokens = false := by
  induction tokens with
  | nil => rfl
  | cons first rest ih =>
    obtain ⟨-, hrest⟩ := List.forall_mem_cons.mp hnone
    rw [declaresKey, ih hrest, Bool.or_false]
    cases rest with
    | nil => simp
    | cons second others => simp [hrest second List.mem_cons_self]

/-! ## Pieces without the letter -/

/-- Whether a text does not have the letter K in either case. -/
def lacksK (text : List Char) : Bool := text.all fun c => c.toLower ≠ 'k'

/-- Whether a text is a dash in front of plain characters. -/
def isNegative : List Char → Bool
  | '-' :: c :: rest => (c :: rest).all isPlain
  | _ => false

/-- A text has the letter if one of its two parts has it. -/
@[simp] theorem lacksK_append (a b : List Char) : lacksK (a ++ b) = (lacksK a && lacksK b) := by
  simp [lacksK]

/-- A word is made of characters of the text that it is read from. -/
theorem subset_of_word_mem_tokens {text : List Char} {word : String}
    (hmem : .word word ∈ (lexemes text).filterMap Lexeme.token?) : word.toList ⊆ text := by
  obtain ⟨lexeme, hlexeme, htoken⟩ := List.mem_filterMap.mp hmem
  have hword : word.toList = lexeme.text := by
    unfold Lexeme.token? at htoken
    split at htoken <;> try cases htoken
    · exact String.toList_ofList
    · exact String.toList_ofList
    · split at htoken <;> cases htoken
  intro c hc
  rw [← flatMap_text_lexemes text, List.mem_flatMap]
  exact ⟨lexeme, hlexeme, hword ▸ hc⟩

/-- A text without the letter does not have the word. -/
theorem isWord_key_of_lacksK {text : List Char} (hlacks : lacksK text = true) {token : Token}
    (hmem : token ∈ (lexemes text).filterMap Lexeme.token?) : token.isWord "KEY" = false := by
  cases token with
  | word word =>
    by_contra hkey
    rw [Bool.not_eq_false, Token.isWord] at hkey
    have hletter : 'k' ∈ word.toList.map Char.toLower := by
      have hfold : word.toList.map Char.toLower = ['k', 'e', 'y'] := by
        simpa [Text.equalsIgnoringAsciiCase, Text.foldAsciiCase] using hkey
      rw [hfold]
      exact List.mem_cons_self
    obtain ⟨c, hc, hk⟩ := List.mem_map.mp hletter
    have hother := List.all_eq_true.mp hlacks c (subset_of_word_mem_tokens hmem hc)
    simp [hk] at hother
  | _ => rfl

namespace Piece

/-- Whether a piece says nothing of a key: it is quoted, or it is calm or a negative number and
does not have the letter. -/
def keyless (piece : Piece) : Bool :=
  match piece with
  | .name _ | .literal .. => true
  | other => (other.calm || isNegative other.chars) && lacksK other.chars

/-- A calm piece without the letter says nothing of a key. -/
theorem keyless_of_calm {piece : Piece} (hcalm : piece.calm = true)
    (hlacks : lacksK piece.chars = true) : piece.keyless = true := by
  cases piece <;> simp [keyless, hcalm, hlacks]

/-- A negative number without the letter says nothing of a key. -/
theorem keyless_of_isNegative {piece : Piece} (hnegative : isNegative piece.chars = true)
    (hlacks : lacksK piece.chars = true) : piece.keyless = true := by
  cases piece <;> simp [keyless, hnegative, hlacks]

/-- A national literal has a letter in front of its quotes. -/
theorem chars_nationalLiteral (text : String) :
    (literal true text).chars = 'N' :: '\'' :: (Quoted.double '\'' text.toList ++ ['\'']) := by
  simp [chars, spell, nationalLiteral, textLiteral, Quoted.quote]

/-- A national literal is a single lexeme. -/
theorem lexemes_nationalLiteral (text : String) :
    lexemes (literal true text).chars = [⟨.literalEnd, (literal true text).chars⟩] ∧
      Mode.blank.after (literal true text).chars = .literalEnd := by
  have hinside : ∀ c, Mode.literal.next? c = some (if c = '\'' then .literalEnd else .literal) :=
    fun _ => rfl
  have hscan := scan_double hinside rfl ['N', '\''] text.toList
  rw [chars_nationalLiteral, lexemes_cons]
  exact hscan

/-- A national literal is a single token. -/
theorem tokens_nationalLiteral (text : String) :
    (literal true text).tokens = [.literal true text] := by
  rw [tokens, (lexemes_nationalLiteral text).1, chars_nationalLiteral]
  simp [Lexeme.token?, unquoted_quote]

/-- A negative number is whole. -/
theorem whole_of_isNegative {piece : Piece} (hnegative : isNegative piece.chars = true) :
    piece.Whole := by
  unfold isNegative at hnegative
  split at hnegative
  · rename_i c rest hchars
    obtain ⟨hc, hrest⟩ := List.forall_mem_cons.mp (List.all_eq_true.mp hnegative)
    refine ⟨by simp [hchars], Mode.settled_of_plain ?_⟩
    -- The dash does not go on with a plain character, so what follows begins anew.
    have hnone : Mode.dash.next? c = none := by
      simp only [isPlain, Bool.and_eq_true, decide_eq_true_eq] at hc
      simp [Mode.next?, hc.2]
    have hblank : Mode.blank.plain = true := rfl
    have hstart : (Mode.start c).plain = true := Mode.plain_step hblank hc
    have hafter : Mode.blank.after piece.chars = (Mode.start c).after rest := by
      rw [hchars]
      change ((Mode.dash.next? c).getD (Mode.start c)).after rest = _
      rw [hnone, Option.getD_none]
    rw [hafter]
    exact Mode.after_keeps (fun mode => mode.plain = true) hstart fun mode hmode d hd =>
      Mode.plain_step hmode (hrest d hd)
  · cases hnegative

/-- A piece that says nothing of a key leaves nothing open. -/
theorem whole_of_keyless {piece : Piece} (hkeyless : piece.keyless = true) : piece.Whole := by
  unfold keyless at hkeyless
  split at hkeyless
  · exact whole_of_calm rfl
  · rename_i national text
    cases national with
    | false => exact whole_of_calm rfl
    | true =>
      exact ⟨by simp [chars_nationalLiteral], by rw [(lexemes_nationalLiteral text).2]; rfl⟩
  · rw [Bool.and_eq_true, Bool.or_eq_true] at hkeyless
    obtain ⟨hcalm | hnegative, -⟩ := hkeyless
    · exact whole_of_calm hcalm
    · exact whole_of_isNegative hnegative

/-- No token of such a piece is the word. -/
theorem isWord_key_of_keyless {piece : Piece} (hkeyless : piece.keyless = true) {token : Token}
    (hmem : token ∈ piece.tokens) : token.isWord "KEY" = false := by
  unfold keyless at hkeyless
  split at hkeyless
  · rw [tokens_name, List.mem_singleton] at hmem
    rw [hmem]
    rfl
  · rename_i national text
    have htoken : token = .literal national text := by
      cases national with
      | false => simpa [tokens_literal] using hmem
      | true => simpa [tokens_nationalLiteral] using hmem
    rw [htoken]
    rfl
  · exact isWord_key_of_lacksK (Bool.and_eq_true_iff.mp hkeyless).2 hmem

end Piece

namespace Pieces

/-- Pieces that say nothing of a key, every two neighbours kept apart. -/
def Keyless (goesOn : Bool) (pieces : Pieces) : Prop :=
  Spaced (fun piece => piece.keyless = true) goesOn pieces

/-- Such pieces declare no key. -/
theorem Keyless.declaresKey_tokens {goesOn : Bool} {pieces : Pieces}
    (hkeyless : Keyless goesOn pieces) :
    declaresKey (Sql.tokens (pieces.spell .sqlServer)) = false := by
  apply declaresKey_eq_false
  intro token hmem
  rw [tokens_spell (fun _ => Piece.whole_of_keyless) hkeyless, List.mem_flatMap] at hmem
  obtain ⟨piece, hpiece, hmem⟩ := hmem
  exact Piece.isWord_key_of_keyless (hkeyless.fits_of_mem hpiece) hmem

variable {goesOn : Bool} {text : String} {rest : Pieces}

/-- A fixed text that nothing goes on with may stand in front. -/
theorem Keyless.lead (hkeyless : (Piece.fixed text).keyless = true)
    (hcloses : (Piece.fixed text).closes = true) (hrest : Keyless false rest) :
    Keyless false (.fixed text :: rest) :=
  Spaced.lead hkeyless hcloses hrest

/-- A fixed text that begins with a separator may stand behind whatever text there is. -/
theorem Keyless.trail (hopens : (Piece.fixed text).opens = true)
    (hkeyless : (Piece.fixed text).keyless = true) (hrest : Keyless true rest) :
    Keyless goesOn (.fixed text :: rest) :=
  Spaced.trail hopens hkeyless hrest

/-- A fixed text that does both keeps its two neighbours apart. -/
theorem Keyless.joint (hopens : (Piece.fixed text).opens = true)
    (hkeyless : (Piece.fixed text).keyless = true) (hcloses : (Piece.fixed text).closes = true)
    (hrest : Keyless false rest) : Keyless goesOn (.fixed text :: rest) :=
  Spaced.joint hopens hkeyless hcloses hrest

/-- Pieces that may follow every text may follow pieces that say nothing of a key. -/
theorem Keyless.append {a b : Pieces} (ha : Keyless goesOn a) (hb : Keyless true b) :
    Keyless goesOn (a ++ b) :=
  Spaced.append ha hb

theorem Keyless.single {piece : Piece} (hkeyless : piece.keyless = true) :
    Keyless false [piece] :=
  ⟨nofun, hkeyless, trivial⟩

theorem keyless_nil : Keyless goesOn [] := trivial

end Pieces

/-! ## Types -/

/-- No digit is the letter. -/
theorem lacksK_of_isDigit {text : List Char} (hdigits : ∀ c ∈ text, c.isDigit = true) :
    lacksK text = true := by
  rw [lacksK, List.all_eq_true]
  intro c hc
  have hlower : c.toLower = c := by
    have hdigit := hdigits c hc
    simp only [Char.isDigit, Bool.and_eq_true, decide_eq_true_eq] at hdigit
    have hnine : c.toNat ≤ 57 := hdigit.2
    have hcapital : ¬ (65 ≤ c.toNat ∧ c.toNat ≤ 90) := by omega
    exact dif_neg hcapital
  rw [hlower, decide_eq_true_eq]
  rintro rfl
  exact absurd (hdigits 'k' hc) (by decide)

/-- A number does not have the letter. -/
theorem lacksK_toDigits (n : Nat) : lacksK (Nat.toDigits 10 n) = true :=
  lacksK_of_isDigit fun _ hc => Nat.isDigit_of_mem_toDigits (by decide) (by decide) hc

theorem lacksK_toString (n : Nat) : lacksK (toString n).toList = true := by
  rw [Nat.toString_eq_repr, Nat.toList_repr]
  exact lacksK_toDigits n

/-- No size clause has the letter. -/
theorem lacksK_sizeClause (size : SizeClause) : lacksK size.text.toList = true := by
  cases size with
  | greatest => decide
  | length value => exact lacksK_toString value.toNat
  | precision value => exact lacksK_toString value.toNat
  | precisionAndScale precision scale =>
    have hcomma : lacksK ", ".toList = true := by decide
    change lacksK (toString precision.toNat ++ ", " ++ toString scale.toNat).toList = true
    simp only [String.toList_append, lacksK_append, lacksK_toString, hcomma, Bool.and_self]

/-- No type has the letter in its text. -/
theorem keyless_typeText (type : PhysicalType) : (Piece.fixed type.text).keyless = true := by
  have hname : lacksK type.type.name.toList = true := by cases type.type <;> decide
  have hlacks : lacksK type.text.toList = true := by
    obtain ⟨type, size⟩ := type
    cases size with
    | none => exact hname
    | some size =>
      have hopening : lacksK " (".toList = true := by decide
      have hclosing : lacksK ")".toList = true := by decide
      change lacksK (type.name ++ " (" ++ size.text ++ ")").toList = true
      simp only [String.toList_append, lacksK_append, hname, lacksK_sizeClause, hopening,
        hclosing, Bool.and_self]
  exact Piece.keyless_of_calm (calm_typeText type) hlacks

/-! ## Literals -/

/-- A character of a positional numeral. -/
def isNumeral (c : Char) : Bool := c.isDigit || c = '.'

/-- Whether a text is a numeral without its sign. -/
def isMagnitude (text : List Char) : Bool := !text.isEmpty && text.all isNumeral

/-- The characters of a numeral are plain. -/
theorem isPlain_of_isNumeral {c : Char} (hnumeral : isNumeral c = true) : isPlain c = true := by
  rw [isNumeral, Bool.or_eq_true, decide_eq_true_eq] at hnumeral
  rcases hnumeral with hdigit | rfl
  · exact isPlain_of_isDigit hdigit
  · decide

/-- A numeral does not have the letter. -/
theorem lacksK_of_isMagnitude {text : List Char} (hmagnitude : isMagnitude text = true) :
    lacksK text = true := by
  obtain ⟨-, hnumeral⟩ := Bool.and_eq_true_iff.mp hmagnitude
  rw [lacksK, List.all_eq_true]
  intro c hc
  have hc := List.all_eq_true.mp hnumeral c hc
  rw [isNumeral, Bool.or_eq_true, decide_eq_true_eq] at hc
  rcases hc with hdigit | rfl
  · have hlacks : lacksK [c] = true := lacksK_of_isDigit (by simpa using hdigit)
    simpa [lacksK] using hlacks
  · decide

/-- A numeral is plain by itself and negative behind a dash. -/
theorem plain_of_isMagnitude {text : List Char} (hmagnitude : isMagnitude text = true) :
    text ≠ [] ∧ text.all isPlain = true ∧ isNegative ('-' :: text) = true := by
  obtain ⟨hnonempty, hnumeral⟩ := Bool.and_eq_true_iff.mp hmagnitude
  have hplain : text.all isPlain = true := by
    rw [List.all_eq_true] at hnumeral ⊢
    exact fun c hc => isPlain_of_isNumeral (hnumeral c hc)
  obtain ⟨c, rest, rfl⟩ := List.exists_cons_of_ne_nil (by simpa using hnonempty)
  exact ⟨List.cons_ne_nil c rest, hplain, hplain⟩

/-- A text of plain characters is calm. -/
theorem calm_fixed {text : String} (hnonempty : text.toList ≠ [])
    (hplain : text.toList.all isPlain = true) : (Piece.fixed text).calm = true := by
  have htext : text ≠ "" := fun hempty => hnonempty (by rw [hempty]; rfl)
  simp [Piece.calm, plainText, htext, hplain]

/-- A numeral with its sign says nothing of a key. -/
theorem keyless_numeral {text : String} (hmagnitude : isMagnitude text.toList = true)
    (negative : Bool) :
    (Piece.fixed ((if negative then "-" else "") ++ text)).keyless = true := by
  obtain ⟨hnonempty, hplain, hnegative⟩ := plain_of_isMagnitude hmagnitude
  have hlacks := lacksK_of_isMagnitude hmagnitude
  cases negative with
  | true =>
    have hchars : (Piece.fixed ("-" ++ text)).chars = '-' :: text.toList := String.toList_append
    have hdash : lacksK ('-' :: text.toList) = true := by simpa [lacksK] using hlacks
    exact Piece.keyless_of_isNegative (hchars ▸ hnegative) (hchars ▸ hdash)
  | false =>
    have htext : (if false = true then "-" else "") ++ text = text := String.empty_append
    rw [htext]
    exact Piece.keyless_of_calm (calm_fixed hnonempty hplain) hlacks

/-- A positional layout of digits is a numeral. -/
theorem isMagnitude_positional {digits : List Char} (hnonempty : digits ≠ [])
    (hdigits : ∀ c ∈ digits, c.isDigit = true) (exponent : Int) :
    isMagnitude (FloatLayout.plain.positional digits exponent).toList = true := by
  have hnumeral : digits.all isNumeral = true := by
    rw [List.all_eq_true]
    exact fun c hc => by simp [isNumeral, hdigits c hc]
  have hzeros : ∀ n, (List.replicate n '0').all isNumeral = true := fun n => by
    cases n <;> simp [isNumeral]
  have htake : ∀ n, (digits.take n).all isNumeral = true := fun n =>
    List.all_eq_true.mpr fun c hc => List.all_eq_true.mp hnumeral c (List.mem_of_mem_take hc)
  have hdrop : ∀ n, (digits.drop n).all isNumeral = true := fun n =>
    List.all_eq_true.mpr fun c hc => List.all_eq_true.mp hnumeral c (List.mem_of_mem_drop hc)
  have hpoint : isNumeral '.' = true := by decide
  have hzero : isNumeral '0' = true := by decide
  unfold FloatLayout.positional isMagnitude
  split
  · simp [FloatLayout.plain, hnonempty, hnumeral, hzeros]
  · dsimp only
    split
    · simp [hpoint, htake, hdrop]
    · simp [hzero, hpoint, hzeros, hnumeral]

/-- A number is laid out as a numeral behind its sign. -/
theorem isMagnitude_magnitude (x : Binary64) :
    isMagnitude (FloatLayout.plain.magnitude x).toList = true := by
  unfold FloatLayout.magnitude
  split
  · have hzero : ∀ c ∈ ['0'], c.isDigit = true := List.forall_mem_singleton.mpr rfl
    exact isMagnitude_positional (List.cons_ne_nil '0' []) hzero 0
  · have hlimits : ∀ first : Int, (FloatLayout.plain.lowest.all (· ≤ first) &&
        FloatLayout.plain.highest.all (first ≤ ·)) = true := fun _ => rfl
    simp only [hlimits, if_true]
    exact isMagnitude_positional Nat.toDigits_ne_nil
      (fun _ hc => Nat.isDigit_of_mem_toDigits (by decide) (by decide) hc) _

/-- The literal of a finite number says nothing of a key. -/
theorem keyless_float {x : Binary64} (hfinite : x.isFinite = true) :
    (Piece.fixed (FloatLayout.plain.write x)).keyless = true := by
  simp only [Binary64.isFinite, decide_eq_true_eq] at hfinite
  have hnan : x.isNaN = false := decide_eq_false (by omega)
  have hinfinite : x.isInfinite = false := decide_eq_false (by omega)
  have hwrite : FloatLayout.plain.write x =
      (if x.isNegative then "-" else "") ++ FloatLayout.plain.magnitude x := by
    simp [FloatLayout.write, hnan, hinfinite]
  rw [hwrite]
  exact keyless_numeral (isMagnitude_magnitude x) x.isNegative

/-- A whole number is a numeral. -/
theorem isMagnitude_toDigits (n : Nat) : isMagnitude (Nat.toDigits 10 n) = true := by
  have hdigits : ∀ c ∈ Nat.toDigits 10 n, isNumeral c = true := fun c hc => by
    simp [isNumeral, Nat.isDigit_of_mem_toDigits (by decide) (by decide) hc]
  simpa [isMagnitude, Nat.toDigits_ne_nil] using hdigits

/-- A whole number says nothing of a key, whatever its sign. -/
theorem keyless_number (value : Int) : (Piece.number value).keyless = true := by
  cases value with
  | ofNat n =>
    have hchars : (Piece.number (Int.ofNat n)).chars = Nat.toDigits 10 n := Piece.chars_number n
    exact Piece.keyless_of_calm (by simp [Piece.calm]) (hchars ▸ lacksK_toDigits n)
  | negSucc n =>
    have hchars : (Piece.number (Int.negSucc n)).chars = '-' :: Nat.toDigits 10 (n + 1) := by
      change (Int.repr (Int.negSucc n)).toList = _
      simp [Int.repr]
    have hmagnitude := isMagnitude_toDigits (n + 1)
    have hlacks : lacksK ('-' :: Nat.toDigits 10 (n + 1)) = true := by
      simpa [lacksK] using lacksK_toDigits (n + 1)
    exact Piece.keyless_of_isNegative (hchars ▸ (plain_of_isMagnitude hmagnitude).2.2)
      (hchars ▸ hlacks)

/-- The literal of a sequence of bytes says nothing of a key. -/
theorem keyless_blob (bytes : List UInt8) :
    (Piece.fixed ("0x" ++ String.ofList (bytes.flatMap Value.hexByte))).keyless = true := by
  have hdigit : ∀ n < 16, isPlain (Nat.digitChar n).toUpper = true ∧
      (Nat.digitChar n).toUpper.toLower ≠ 'k' := by
    decide +kernel
  have hdigits : ∀ c ∈ bytes.flatMap Value.hexByte, isPlain c = true ∧ c.toLower ≠ 'k' := by
    intro c hc
    obtain ⟨byte, -, hmem⟩ := List.mem_flatMap.mp hc
    have hlow : byte.toNat % 16 < 16 := Nat.mod_lt _ (by omega)
    have hhigh : byte.toNat / 16 < 16 := by
      have hbyte := byte.toNat_lt
      omega
    simp only [Value.hexByte, List.map_cons, List.map_nil, List.mem_cons, List.not_mem_nil,
      or_false] at hmem
    rcases hmem with rfl | rfl
    · exact hdigit _ hhigh
    · exact hdigit _ hlow
  have hchars : ("0x" ++ String.ofList (bytes.flatMap Value.hexByte)).toList =
      '0' :: 'x' :: bytes.flatMap Value.hexByte := by
    simp
  have hplain : ('0' :: 'x' :: bytes.flatMap Value.hexByte).all isPlain = true := by
    simp only [List.all_cons, Bool.and_eq_true, List.all_eq_true]
    exact ⟨by decide, by decide, fun c hc => (hdigits c hc).1⟩
  have hlacks : lacksK ('0' :: 'x' :: bytes.flatMap Value.hexByte) = true := by
    simp only [lacksK, List.all_cons, Bool.and_eq_true, List.all_eq_true, decide_eq_true_eq]
    exact ⟨by decide, by decide, fun c hc => (hdigits c hc).2⟩
  rw [← hchars] at hplain hlacks
  exact Piece.keyless_of_calm (calm_fixed (by simp [hchars]) hplain) hlacks

/-- The literal of every value says nothing of a key. -/
theorem keyless_literal (value : Value) : value.literal.keyless = true := by
  cases value with
  | null => decide
  | bool value => cases value <;> decide
  | int value => exact keyless_number value.toInt
  | float value =>
    simp only [Value.literal]
    split
    · exact keyless_float ‹_›
    · decide
  | text value => rfl
  | blob bytes => exact keyless_blob bytes
  | guid value => rfl
  | dateTime value => rfl

/-! ## Added columns -/

/-- The name of a table says nothing of a key. -/
theorem keyless_tablePieces (table : Table) : Pieces.Keyless false (tablePieces table) := by
  unfold tablePieces
  split
  · apply (Pieces.Keyless.single rfl).append
    exact .joint (by decide) (by decide) (by decide) (.single rfl)
  · exact .single rfl

end SqlScribe.Sql

namespace SqlScribe

open Sql (Pieces)

namespace Column

/-- Whether an expression is copied into the clause of a column: what it is computed from, or
its default. -/
def copiesText (column : Column) : Bool :=
  column.isComputed ||
    match column.default with
    | some (.expression _) => true
    | _ => false

variable {column : Column} {pieces : Pieces}

/-- The clause of an identity says nothing of a key. -/
theorem keyless_identityClause {type : SqlType}
    (hclause : column.identityClause type = .ok pieces) : Pieces.Keyless true pieces := by
  unfold identityClause at hclause
  split_ifs at hclause
  · cases hclause
    exact Pieces.keyless_nil
  · cases hclause
    exact .trail (by decide) (by decide) Pieces.keyless_nil

/-- No generator is called after a key. -/
theorem keyless_generator (generator : Generator) :
    (Sql.Piece.fixed generator.sql).keyless = true := by
  cases generator <;> decide

/-- The clause of a default says nothing of a key, unless an expression is copied into it. -/
theorem keyless_defaultClause {type : SqlType} (hwritten : column.copiesText = false)
    (hclause : column.defaultClause type = .ok pieces) : Pieces.Keyless true pieces := by
  unfold defaultClause at hclause
  split at hclause
  · cases hclause
    exact Pieces.keyless_nil
  · rename_i default hdefault
    obtain ⟨text, htext, rfl⟩ := Except.map_eq_ok_iff.mp hclause
    have hkeyless : Pieces.Keyless false text := by
      cases default with
      | value value =>
        simp only [defaultPieces] at htext
        split at htext <;> cases htext
        exact .single (Sql.keyless_literal value)
      | generated generator =>
        cases htext
        exact .single (keyless_generator generator)
      | expression text => simp [copiesText, hdefault] at hwritten
      | auto =>
        obtain ⟨generator, -, rfl⟩ := Except.map_eq_ok_iff.mp htext
        exact .single (keyless_generator generator)
    exact .joint (by decide) (by decide) (by decide) hkeyless

/-- The clause of a column says nothing of a key, unless an expression is copied into it. -/
theorem keyless_clause (hwritten : column.copiesText = false)
    (hclause : column.clause = .ok pieces) : Pieces.Keyless false pieces := by
  cases hkind : column.kind with
  | stored type =>
    obtain ⟨physical, identity, default, -, hidentity, hdefault, rfl⟩ :=
      (clause_eq_ok_iff_of_stored hkind).mp hclause
    have hname : Pieces.Keyless false
        [.name column.name, .fixed " ", .fixed physical.text] := by
      apply (Pieces.Keyless.single rfl).append
      exact .joint (by decide) (by decide) (by decide) (.single (Sql.keyless_typeText physical))
    have hnull : Pieces.Keyless true
        (Sql.fixed (if column.acceptsNull then " NULL" else " NOT NULL")) := by
      cases column.acceptsNull <;> exact .trail (by decide) (by decide) Pieces.keyless_nil
    exact ((hname.append (keyless_identityClause hidentity)).append hnull).append
      (keyless_defaultClause hwritten hdefault)
  | computed expression persisted =>
    have hcomputed : column.isComputed = true :=
      column.isComputed_iff.mpr ⟨expression, persisted, hkind⟩
    simp [copiesText, hcomputed] at hwritten

end Column

namespace Schema

/-- The pieces of the constraint of a primary key are calm. -/
theorem calm_constraint (name : String) (keys : List Column) {opening : String}
    (htrails : Pieces.trails opening = true) (hleads : Pieces.leads opening = true) :
    Pieces.Calm false
      ([.fixed "CONSTRAINT ", .name name, .fixed " PRIMARY KEY"] ++ (Sql.fixed opening ++
        (Pieces.join ", " (keys.map fun key => [.name key.name, .fixed " ASC"]) ++
          Sql.fixed ")"))) := by
  have hstart : Pieces.Calm false [.fixed "CONSTRAINT ", .name name, .fixed " PRIMARY KEY"] :=
    .lead (by decide) ((Pieces.Calm.single rfl).append (.trail (by decide) Pieces.calm_nil))
  have hnames : Pieces.Calm false
      (Pieces.join ", " (keys.map fun key => [.name key.name, .fixed " ASC"])) := by
    apply Sql.calm_commas
    intro text htext
    obtain ⟨key, -, rfl⟩ := List.mem_map.mp htext
    exact (Pieces.Calm.single rfl).append (.trail (by decide) Pieces.calm_nil)
  have hclosing : Pieces.Calm true (Sql.fixed ")") := .trail (by decide) Pieces.calm_nil
  exact hstart.append (.joint htrails hleads (hnames.append hclosing))

/-- The constraint of a primary key declares it. -/
theorem declaresKey_keyClause {table : Table} {columns : List Column} {pieces : Pieces}
    (hkey : keyClause table columns = .ok (some pieces)) :
    Sql.declaresKey (Sql.tokens (pieces.spell .sqlServer)) = true := by
  have hwords : (Sql.Piece.fixed " PRIMARY KEY").tokens = [.word "PRIMARY", .word "KEY"] := by
    decide
  unfold keyClause at hkey
  split at hkey
  · cases hkey
  · rename_i first rest _
    split at hkey
    · cases hkey
    · obtain ⟨⟩ := hkey
      generalize hopening :
        (if first.key = .clusteredPrimary then " CLUSTERED (" else " (") = opening
      have htrails : Pieces.trails opening = true := by rw [← hopening]; split_ifs <;> decide
      have hleads : Pieces.leads opening = true := by rw [← hopening]; split_ifs <;> decide
      have hcalm := calm_constraint (keyName table (first :: rest)) (first :: rest) htrails hleads
      rw [List.append_assoc, List.append_assoc,
        Pieces.tokens_spell (fun _ => Sql.Piece.whole_of_calm) hcalm, List.flatMap_append]
      simp only [List.flatMap_cons, List.flatMap_nil, hwords, List.append_nil]
      rw [← List.append_assoc, List.append_assoc]
      exact Sql.declaresKey_of_words _ _

/-- The text that adds a column declares no primary key, unless an expression is copied into
it. -/
theorem declaresKey_addColumn {table : Table} {column : Column} {pieces : Pieces}
    (hwritten : column.copiesText = false) (hadded : addColumn table column = .ok pieces) :
    Sql.declaresKey (Sql.tokens (pieces.spell .sqlServer)) = false := by
  obtain ⟨clause, hclause, rfl⟩ := addColumn_eq_ok_iff.mp hadded
  have htable : Pieces.Keyless false (Sql.fixed "ALTER TABLE " ++ Sql.tablePieces table) :=
    .lead (by decide) (by decide) (Sql.keyless_tablePieces table)
  have hkeyless : Pieces.Keyless false
      (Sql.fixed "ALTER TABLE " ++ Sql.tablePieces table ++ Sql.fixed " ADD " ++ clause) := by
    rw [List.append_assoc]
    apply htable.append
    exact .joint (by decide) (by decide) (by decide) (Column.keyless_clause hwritten hclause)
  exact hkeyless.declaresKey_tokens

end Schema

end SqlScribe
