import SqlScribe.Proofs.Lexing.Spacing
import SqlScribe.Query.Statement

/-!
# Lexemes of query text

Everything that the library writes around the names, values and constants of a
query is made of words, numbers, signs and blanks.  So the text of every SELECT is
cut into lexemes piece by piece, whatever names it carries.

Main definitions:

- `Sql.Piece.calm` holds of the pieces that query text is made of.

Main results:

- `Sql.Select.calm_pieces`: the pieces of a SELECT are calm and spaced.
- `Query.lexemes_spell_pieces`: the lexemes of a query are those of its pieces.
- `Query.mode_ne_comment`: none of them is a comment.
-/

namespace SqlScribe.Sql

/-! ## Calm pieces -/

/-- A character that neither quotes nor begins a placeholder or a comment. -/
def isPlain (c : Char) : Bool := c ≠ '[' && c ≠ '\'' && c ≠ '@' && c ≠ '-'

/-- A mode that plain text may be in. -/
def Mode.plain : Mode → Bool
  | .blank | .sign | .national | .word | .number => true
  | _ => false

/-- Digits are plain. -/
theorem isPlain_of_isDigit {c : Char} (hdigit : c.isDigit = true) : isPlain c = true := by
  have hne : ∀ d : Char, d.isDigit = false → c ≠ d := fun d hd heq => by simp_all
  simp [isPlain, hne]

/-- Plain text stays plain. -/
theorem Mode.plain_step {mode : Mode} {c : Char} (hmode : mode.plain = true)
    (hc : isPlain c = true) : ((mode.next? c).getD (start c)).plain = true := by
  simp only [isPlain, Bool.and_eq_true, decide_eq_true_eq] at hc
  obtain ⟨⟨⟨hbracket, hquote⟩, hat⟩, hdash⟩ := hc
  have hstart : (start c).plain = true := by
    simp only [start, hbracket, hquote, hat, hdash, if_false]
    repeat' split
    all_goals rfl
  cases mode with
  | blank | sign => exact hstart
  | national | word =>
    simp only [next?, hquote, if_false]
    split
    · rfl
    · exact hstart
  | number =>
    simp only [next?]
    split
    · rfl
    · exact hstart
  | dash | placeholder | name | nameEnd | literal | literalEnd | comment =>
    simp [plain] at hmode

/-- All lexemes of plain text are plain. -/
theorem plain_of_mem_lexemes {text : List Char} (hplain : ∀ c ∈ text, isPlain c = true)
    {lexeme : Lexeme} (hmem : lexeme ∈ lexemes text) : lexeme.mode.plain = true := by
  apply keeps_of_mem_lexemes (fun lexeme => lexeme.mode.plain = true) _ _ hmem
  · intro c hc
    have hblank : Mode.blank.plain = true := rfl
    exact Mode.plain_step hblank (hplain c hc)
  · intro lexeme next hkeeps c hc hnext
    have hstep := Mode.plain_step hkeeps (hplain c hc)
    rw [hnext, Option.getD_some] at hstep
    exact hstep

/-- Plain text ends in a mode where a lexeme may end. -/
theorem Mode.settled_of_plain {mode : Mode} (hmode : mode.plain = true) :
    mode.settled = true := by
  cases mode <;> simp_all [plain, settled]

/-- Whether a text has plain characters only. -/
def plainText (text : String) : Bool := text.toList.all isPlain

/-- A text is plain if both of its parts are. -/
@[simp] theorem plainText_append (a b : String) :
    plainText (a ++ b) = (plainText a && plainText b) := by
  simp [plainText]

namespace Piece

/-- Whether a piece is one of those that query text is made of: a fixed text is
plain, but for the difference sign, and the only name of the library is the alias of
derived tables. -/
def calm : Piece → Bool
  | .fixed text => text = " - " || (text ≠ "" && plainText text)
  | .name _ | .placeholder _ => true
  | .ownName text => text = derivedAlias
  | .literal national _ => !national
  | .number value => 0 ≤ value
  | .raw _ => false

/-- A name of the library has the characters of a supplied one. -/
theorem chars_ownName (text : String) : (ownName text).chars = (name text).chars := rfl

/-- Calm pieces are whole. -/
theorem whole_of_calm {piece : Piece} (hcalm : piece.calm = true) : piece.Whole := by
  cases piece with
  | fixed text =>
    simp only [calm, plainText, Bool.or_eq_true, Bool.and_eq_true, decide_eq_true_eq,
      List.all_eq_true] at hcalm
    rcases hcalm with rfl | ⟨hnonempty, hplain⟩
    · exact ⟨by decide, by decide⟩
    · refine ⟨by simpa [chars, spell] using hnonempty, ?_⟩
      have hafter : (Mode.blank.after (fixed text).chars).plain = true := by
        have hstep : ∀ mode : Mode, mode.plain = true → ∀ c ∈ (fixed text).chars,
            ((mode.next? c).getD (Mode.start c)).plain = true :=
          fun mode hmode c hc => Mode.plain_step hmode (hplain c hc)
        exact Mode.after_keeps (fun mode => mode.plain = true) rfl hstep
      exact Mode.settled_of_plain hafter
  | name text => exact ⟨by simp [chars_name], by rw [(lexemes_name text).2]; rfl⟩
  | ownName text =>
    exact ⟨by simp [chars_ownName, chars_name], by
      rw [chars_ownName, (lexemes_name text).2]; rfl⟩
  | literal national text =>
    cases national with
    | true => simp [calm] at hcalm
    | false => exact ⟨by simp [chars_literal], by rw [(lexemes_literal text).2]; rfl⟩
  | placeholder index =>
    exact ⟨by simp [chars_placeholder], by rw [(lexemes_placeholder index).2]; rfl⟩
  | number value =>
    simp only [calm, decide_eq_true_eq] at hcalm
    obtain ⟨n, rfl⟩ := Int.eq_ofNat_of_zero_le hcalm
    exact ⟨by simp [chars_number, Nat.toDigits_ne_nil], by rw [(lexemes_number n).2]; rfl⟩
  | raw text => simp [calm] at hcalm

end Piece

/-- There is no comment in a calm piece. -/
theorem Piece.mode_ne_comment {piece : Piece} (hcalm : piece.calm = true) {lexeme : Lexeme}
    (hmem : lexeme ∈ lexemes piece.chars) : lexeme.mode ≠ .comment := by
  cases piece with
  | fixed text =>
    simp only [calm, Bool.or_eq_true, Bool.and_eq_true, decide_eq_true_eq] at hcalm
    rcases hcalm with rfl | ⟨-, hplain⟩
    · revert lexeme
      decide
    · have hmode := plain_of_mem_lexemes (List.all_eq_true.mp hplain) hmem
      intro hcomment
      rw [hcomment] at hmode
      simp [Mode.plain] at hmode
  | name text | ownName text =>
    have hlexemes := (lexemes_name text).1
    simp only [chars_ownName, hlexemes, List.mem_singleton] at hmem
    simp [hmem]
  | literal national text =>
    cases national with
    | true => simp [calm] at hcalm
    | false =>
      rw [(lexemes_literal text).1, List.mem_singleton] at hmem
      simp [hmem]
  | placeholder index =>
    rw [(lexemes_placeholder index).1, List.mem_singleton] at hmem
    simp [hmem]
  | number value =>
    simp only [calm, decide_eq_true_eq] at hcalm
    obtain ⟨n, rfl⟩ := Int.eq_ofNat_of_zero_le hcalm
    rw [(lexemes_number n).1, List.mem_singleton] at hmem
    simp [hmem]
  | raw text => simp [calm] at hcalm

/-! ## Calm sequences -/

namespace Pieces

/-- Calm pieces, every two neighbours kept apart. -/
def Calm (goesOn : Bool) (pieces : Pieces) : Prop :=
  Spaced (fun piece => piece.calm = true) goesOn pieces

/-- Whether a calm text ends where nothing goes on. -/
def leads (text : String) : Bool := (Piece.fixed text).calm && (Piece.fixed text).closes

/-- Whether a calm text begins with a separator. -/
def trails (text : String) : Bool := (Piece.fixed text).opens && (Piece.fixed text).calm

variable {goesOn : Bool} {text : String} {rest : Pieces}

/-- A fixed text that nothing goes on with may stand in front of calm pieces. -/
theorem Calm.lead (hleads : leads text = true) (hrest : Calm false rest) :
    Calm false (.fixed text :: rest) := by
  obtain ⟨hcalm, hcloses⟩ := Bool.and_eq_true_iff.mp hleads
  exact Spaced.lead hcalm hcloses hrest

/-- A fixed text that begins with a separator may stand behind whatever text there is. -/
theorem Calm.trail (htrails : trails text = true) (hrest : Calm true rest) :
    Calm goesOn (.fixed text :: rest) := by
  obtain ⟨hopens, hcalm⟩ := Bool.and_eq_true_iff.mp htrails
  exact Spaced.trail hopens hcalm hrest

/-- A fixed text that does both keeps its two neighbours apart. -/
theorem Calm.joint (htrails : trails text = true) (hleads : leads text = true)
    (hrest : Calm false rest) : Calm goesOn (.fixed text :: rest) := by
  obtain ⟨hopens, hcalm⟩ := Bool.and_eq_true_iff.mp htrails
  exact Spaced.joint hopens hcalm (Bool.and_eq_true_iff.mp hleads).2 hrest

/-- Calm pieces that may follow every text may follow calm pieces. -/
theorem Calm.append {a b : Pieces} (ha : Calm goesOn a) (hb : Calm true b) :
    Calm goesOn (a ++ b) :=
  Spaced.append ha hb

theorem Calm.single {piece : Piece} (hcalm : piece.calm = true) : Calm false [piece] :=
  ⟨nofun, hcalm, trivial⟩

theorem calm_nil : Calm goesOn [] := trivial

end Pieces

/-! ## Types -/

/-- The names of types are plain. -/
theorem plainText_typeName (type : SqlType) : plainText type.name = true := by
  cases type <;> decide

/-- Numbers are plain. -/
theorem plainText_toString (n : Nat) : plainText (toString n) = true := by
  rw [plainText, List.all_eq_true]
  intro c hc
  rw [Nat.toString_eq_repr, Nat.toList_repr] at hc
  exact isPlain_of_isDigit (Nat.isDigit_of_mem_toDigits (by decide) (by decide) hc)

/-- Size clauses are plain. -/
theorem plainText_sizeClause (size : SizeClause) : plainText size.text = true := by
  cases size with
  | greatest => decide
  | length value => exact plainText_toString value.toNat
  | precision value => exact plainText_toString value.toNat
  | precisionAndScale precision scale =>
    have hcomma : plainText ", " = true := by decide
    change plainText (toString precision.toNat ++ ", " ++ toString scale.toNat) = true
    simp only [plainText_append, plainText_toString, hcomma, Bool.and_self]

/-- The text of a type is calm. -/
theorem calm_typeText (type : PhysicalType) : (Piece.fixed type.text).calm = true := by
  have hplain : plainText type.text = true := by
    obtain ⟨type, size⟩ := type
    cases size with
    | none => exact plainText_typeName type
    | some size =>
      have hopening : plainText " (" = true := by decide
      have hclosing : plainText ")" = true := by decide
      change plainText (type.name ++ " (" ++ size.text ++ ")") = true
      simp only [plainText_append, plainText_typeName, plainText_sizeClause, hopening, hclosing,
        Bool.and_self]
  have hnonempty : type.text ≠ "" := by
    have hname : type.type.name ≠ "" := by cases type.type <;> decide
    obtain ⟨type, size⟩ := type
    cases size with
    | none => exact hname
    | some size =>
      change type.name ++ " (" ++ size.text ++ ")" ≠ ""
      simp [hname]
  simp [Piece.calm, hplain, hnonempty]

/-! ## Expressions and conditions -/

open Pieces

mutual

/-- The text of an expression is calm. -/
theorem Scalar.calm_pieces : ∀ scalar : Scalar, Calm false scalar.pieces
  | .column name | .parameter index | .text value => .single rfl
  | .null => .single (by decide)
  | .number value => .single (by simp [Piece.calm])
  | .call function arguments => by
    have hleads : leads (function.name ++ "(") = true := by cases function <;> decide
    have harguments := calm_argumentPieces arguments
    simp only [Scalar.pieces, List.cons_append, List.nil_append]
    exact .lead hleads (harguments.append (.trail (by decide) calm_nil))
  | .cast operand type => by
    have hoperand := operand.calm_pieces
    have htype := calm_typeText type
    simp only [Scalar.pieces, List.cons_append, List.nil_append]
    apply Calm.lead (by decide)
    apply hoperand.append
    apply Calm.joint (by decide) (by decide)
    exact (Calm.single htype).append (.trail (by decide) calm_nil)
  | .plus left right => by
    have hleft := left.calm_pieces
    have hright := right.calm_pieces
    simp only [Scalar.pieces, List.append_assoc, List.cons_append, List.nil_append]
    exact hleft.append (.joint (by decide) (by decide) hright)
  | .minus left right => by
    have hleft := left.calm_pieces
    have hright := right.calm_pieces
    simp only [Scalar.pieces, List.append_assoc, List.cons_append, List.nil_append]
    apply Calm.lead (by decide)
    apply hleft.append
    apply Calm.joint (by decide) (by decide)
    exact hright.append (.trail (by decide) calm_nil)
  | .flag predicate => by
    have hpredicate := predicate.calm_pieces
    simp only [Scalar.pieces, List.cons_append, List.nil_append]
    exact .lead (by decide) (hpredicate.append (.trail (by decide) calm_nil))

/-- The text of arguments is calm. -/
theorem calm_argumentPieces : ∀ scalars : List Scalar, Calm false (argumentPieces scalars)
  | [] => calm_nil
  | scalar :: rest => scalar.calm_pieces.append (calm_moreArgumentPieces rest)

/-- The text of further arguments is calm. -/
theorem calm_moreArgumentPieces : ∀ scalars : List Scalar, Calm true (moreArgumentPieces scalars)
  | [] => calm_nil
  | scalar :: rest => by
    have hscalar := scalar.calm_pieces
    have hrest := calm_moreArgumentPieces rest
    simp only [moreArgumentPieces, List.cons_append, List.nil_append]
    exact .joint (by decide) (by decide) (hscalar.append hrest)

/-- The text of a condition is calm. -/
theorem Predicate.calm_pieces : ∀ predicate : Predicate, Calm false predicate.pieces
  | .compare comparison left right => by
    have hleft := left.calm_pieces
    have hright := right.calm_pieces
    have hjoint : trails (" " ++ comparison.sql ++ " ") = true ∧
        leads (" " ++ comparison.sql ++ " ") = true := by
      cases comparison <;> decide
    simp only [Predicate.pieces, List.append_assoc, List.cons_append, List.nil_append]
    exact hleft.append (.joint hjoint.1 hjoint.2 hright)
  | .isNull operand | .isNotNull operand =>
    operand.calm_pieces.append (.trail (by decide) calm_nil)
  | .like text pattern => by
    have htext := text.calm_pieces
    have hpattern := pattern.calm_pieces
    simp only [Predicate.pieces, List.append_assoc, List.cons_append, List.nil_append]
    exact htext.append (.joint (by decide) (by decide) hpattern)
  | .among operand values => by
    have hoperand := operand.calm_pieces
    have hvalues := calm_argumentPieces values
    simp only [Predicate.pieces, List.append_assoc, List.cons_append, List.nil_append]
    apply hoperand.append
    apply Calm.joint (by decide) (by decide)
    exact hvalues.append (.trail (by decide) calm_nil)
  | .and left right | .or left right => by
    have hleft := left.calm_pieces
    have hright := right.calm_pieces
    simp only [Predicate.pieces, List.append_assoc, List.cons_append, List.nil_append]
    apply Calm.lead (by decide)
    apply hleft.append
    apply Calm.joint (by decide) (by decide)
    exact hright.append (.trail (by decide) calm_nil)
  | .not operand => by
    have hoperand := operand.calm_pieces
    simp only [Predicate.pieces, List.cons_append, List.nil_append]
    exact .lead (by decide) (hoperand.append (.trail (by decide) calm_nil))

end

/-! ## Parts of a SELECT -/

/-- Calm texts are calm with commas between them. -/
theorem calm_commas {texts : List Pieces} (htexts : ∀ text ∈ texts, Calm false text) :
    Calm false (Pieces.join ", " texts) :=
  Spaced.join (by decide) (by decide) (by decide) htexts

/-- The name of a table is calm. -/
theorem calm_tablePieces (table : Table) : Calm false (tablePieces table) := by
  unfold tablePieces
  split
  · exact (Calm.single rfl).append (.joint (by decide) (by decide) (.single rfl))
  · exact .single rfl

/-- The text of a derived table is calm if that of its query is. -/
theorem calm_derivedPieces {query : Pieces} (hquery : Calm false query) :
    Calm false (derivedPieces query) := by
  simp only [derivedPieces, List.cons_append, List.nil_append]
  apply Calm.lead (by decide)
  apply hquery.append
  exact .joint (by decide) (by decide) (.single rfl)

/-- The text of a returned expression is calm. -/
theorem calm_itemPieces (item : Scalar × Option String) : Calm false (itemPieces item) := by
  obtain ⟨scalar, label⟩ := item
  cases label with
  | none => exact scalar.calm_pieces
  | some label =>
    exact scalar.calm_pieces.append (.joint (by decide) (by decide) (.single rfl))

/-- The text of what a SELECT returns is calm. -/
theorem SelectList.calm_pieces (columns : SelectList) : Calm false columns.pieces := by
  cases columns with
  | all => exact .single (by decide)
  | count => exact .single (by decide)
  | items list =>
    apply calm_commas
    intro text htext
    obtain ⟨item, -, rfl⟩ := List.mem_map.mp htext
    exact calm_itemPieces item

/-- A limit may stand in front of whatever is returned. -/
theorem Calm.after_top {top : Option RowLimit} {rest : Pieces} (hrest : Calm false rest) :
    Calm false (topPieces top ++ rest) := by
  cases top with
  | none => exact hrest
  | some limit =>
    have hnumber : (Piece.number limit.amount.toNat).calm = true := by simp [Piece.calm]
    simp only [topPieces, List.cons_append, List.nil_append]
    apply Calm.lead (by decide)
    refine ⟨nofun, hnumber, ?_⟩
    apply Calm.joint (by decide) (by decide)
    split
    · exact .lead (by decide) hrest
    · exact hrest

/-- The text of an ordering expression is calm. -/
theorem calm_keyPieces (key : Scalar × Direction) : Calm false (keyPieces key) := by
  have htrails : trails (" " ++ key.2.sql) = true := by cases key.2 <;> decide
  exact key.1.calm_pieces.append (.trail htrails calm_nil)

/-- The text of a condition on rows is calm. -/
theorem calm_wherePieces (condition : Option Predicate) : Calm true (wherePieces condition) := by
  cases condition with
  | none => exact calm_nil
  | some predicate => exact .joint (by decide) (by decide) predicate.calm_pieces

/-- The text of an ordering is calm. -/
theorem Ordering.calm_pieces (ordering : Ordering) : Calm true ordering.pieces := by
  cases ordering with
  | none => exact calm_nil
  | random => exact .trail (by decide) calm_nil
  | keys list =>
    apply Calm.joint (by decide) (by decide)
    apply calm_commas
    intro text htext
    obtain ⟨key, -, rfl⟩ := List.mem_map.mp htext
    exact calm_keyPieces key

/-- The text of skipped and returned rows is calm. -/
theorem calm_pagingPieces (paging : Option Paging) : Calm true (pagingPieces paging) := by
  cases paging with
  | none => exact calm_nil
  | some paging =>
    have hnumber : ∀ n : Nat, (Piece.number n).calm = true := fun n => by simp [Piece.calm]
    simp only [pagingPieces, List.cons_append, List.nil_append]
    apply Calm.joint (by decide) (by decide)
    refine ⟨nofun, hnumber paging.skip, ?_⟩
    apply Calm.trail (by decide)
    cases paging.fetch with
    | none => exact calm_nil
    | some count =>
      apply Calm.joint (by decide) (by decide)
      exact ⟨nofun, hnumber count, Calm.trail (by decide) calm_nil⟩

/-! ## Queries -/

mutual

/-- The text of a SELECT is calm. -/
theorem Select.calm_pieces : ∀ select : Select, Calm false select.pieces
  | ⟨distinct, top, columns, relation, condition, ordering, paging⟩ => by
    have hrelation := calm_relationPieces relation
    have htail : Calm true (wherePieces condition ++ (ordering.pieces ++ pagingPieces paging)) :=
      (calm_wherePieces condition).append (ordering.calm_pieces.append (calm_pagingPieces paging))
    simp only [Select.pieces, List.append_assoc, List.cons_append, List.nil_append]
    have hbody : Calm false (topPieces top ++ (columns.pieces ++ (.fixed " FROM " ::
        (relationPieces relation ++ (wherePieces condition ++
          (ordering.pieces ++ pagingPieces paging)))))) := by
      apply Calm.after_top
      apply columns.calm_pieces.append
      exact .joint (by decide) (by decide) (hrelation.append htail)
    apply Calm.lead (by decide)
    cases distinct with
    | true => exact .lead (by decide) hbody
    | false => exact hbody

/-- The text of what a SELECT reads is calm. -/
theorem calm_relationPieces :
    ∀ relation : Relation Select, Calm false (relationPieces relation)
  | .table table => calm_tablePieces table
  | .derived ⟨first, links⟩ =>
    calm_derivedPieces (first.calm_pieces.append (calm_linkPieces links))

/-- The text of further SELECTs is calm. -/
theorem calm_linkPieces : ∀ links : List (Link Select), Calm true (linkPieces links)
  | [] => calm_nil
  | ⟨operator, select⟩ :: rest => by
    have hselect := select.calm_pieces
    have hrest := calm_linkPieces rest
    have hjoint : trails (" " ++ operator.sql ++ " ") = true ∧
        leads (" " ++ operator.sql ++ " ") = true := by
      cases operator <;> decide
    simp only [linkPieces, List.cons_append, List.nil_append]
    exact .joint hjoint.1 hjoint.2 (hselect.append hrest)

end

end SqlScribe.Sql

namespace SqlScribe.Query

open Sql Sql.Pieces

/-- The text in front of copied rows is calm and may stand in front of any calm
text. -/
theorem calm_insertPieces (table : Table) (columns : List String) {rest : Pieces}
    (hrest : Calm false rest) : Calm false (insertPieces table columns ++ rest) := by
  have hspace : ∀ goesOn, Calm goesOn (.fixed " " :: rest) := fun _ =>
    .joint (by decide) (by decide) hrest
  simp only [insertPieces, List.append_assoc, List.cons_append, List.nil_append]
  apply Calm.lead (by decide)
  apply (calm_tablePieces table).append
  cases columns with
  | nil => exact hspace true
  | cons name more =>
    simp only [List.isEmpty_cons, Bool.false_eq_true, if_false, List.cons_append,
      List.nil_append, List.append_assoc]
    apply Calm.joint (by decide) (by decide)
    apply Calm.append
    · apply calm_commas
      intro text htext
      obtain ⟨column, -, rfl⟩ := List.mem_map.mp htext
      exact .single rfl
    · exact .trail (by decide) (hspace true)

/-- The text of a query is calm. -/
theorem calm_pieces {query : Query} {values values' : List Value} {pieces : Pieces}
    (hpieces : query.pieces values = .ok (pieces, values')) : Calm false pieces := by
  obtain ⟨select, -, ⟨-, rfl⟩ | ⟨table, columns, -, rfl⟩⟩ := pieces_eq_ok hpieces
  · exact select.calm_pieces
  · exact calm_insertPieces table columns select.calm_pieces

/-- The lexemes of a query are those of its pieces. -/
theorem lexemes_spell_pieces {query : Query} {values values' : List Value} {pieces : Pieces}
    (hpieces : query.pieces values = .ok (pieces, values')) :
    lexemes (pieces.spell .sqlServer).toList =
      pieces.flatMap fun piece => lexemes piece.chars :=
  Pieces.lexemes_spell (fun _ => Piece.whole_of_calm) (calm_pieces hpieces)

/-- There is no comment in the text of a query. -/
theorem mode_ne_comment {query : Query} {values values' : List Value} {pieces : Pieces}
    (hpieces : query.pieces values = .ok (pieces, values')) {lexeme : Lexeme}
    (hmem : lexeme ∈ lexemes (pieces.spell .sqlServer).toList) : lexeme.mode ≠ .comment := by
  rw [lexemes_spell_pieces hpieces] at hmem
  obtain ⟨piece, hpiece, hlexeme⟩ := List.mem_flatMap.mp hmem
  exact Piece.mode_ne_comment ((calm_pieces hpieces).fits_of_mem hpiece) hlexeme

/-- The text of a query leaves nothing open. -/
theorem settled_spell_pieces {query : Query} {values values' : List Value} {pieces : Pieces}
    (hpieces : query.pieces values = .ok (pieces, values')) :
    (Mode.blank.after (pieces.spell .sqlServer).toList).settled = true :=
  Pieces.settled_spell (fun _ => Piece.whole_of_calm) (calm_pieces hpieces)

/-- The text of a query begins with a letter. -/
theorem exists_head?_spell_pieces {query : Query} {values values' : List Value}
    {pieces : Pieces} (hpieces : query.pieces values = .ok (pieces, values')) :
    ∃ c, (pieces.spell .sqlServer).toList.head? = some c ∧ c.isAlpha = true := by
  obtain ⟨select, -, ⟨-, rfl⟩ | ⟨table, columns, -, rfl⟩⟩ := pieces_eq_ok hpieces
  · cases select
    exact ⟨'S', by simp [Select.pieces, Piece.spell], rfl⟩
  · exact ⟨'I', by simp [insertPieces, Piece.spell], rfl⟩

end SqlScribe.Query
