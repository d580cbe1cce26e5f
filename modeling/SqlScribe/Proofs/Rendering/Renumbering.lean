import SqlScribe.Proofs.Documents.WrittenForms
import SqlScribe.Proofs.Rendering.QueryPlaceholders

/-!
# Renumbered placeholders

The placeholders of a rendered query can be given other numbers in three places: in the syntax
tree, in the pieces that it is printed to, and in the text that the server reads.  All three come
to the same.

Main definitions:

- `Sql.Scalar.renumber`, `Sql.Predicate.renumber` and `Sql.Select.renumber` give other numbers to
  the parameters of a tree.
- `Sql.renumberText` gives them to the placeholders of a text, as it is cut into lexemes.

Main results:

- `Sql.Scalar.pieces_renumber`, `Sql.Predicate.pieces_renumber` and `Sql.Select.pieces_renumber`:
  a renumbered tree is printed to renumbered pieces.
- `Sql.Pieces.spell_renumber`: renumbered pieces are spelled as the renumbered text.
-/

namespace SqlScribe.Sql

variable (f : Nat → Nat)

/-! ## Renumbered trees -/

mutual

/-- An expression with other parameters. -/
def Scalar.renumber : Scalar → Scalar
  | .column name => .column name
  | .null => .null
  | .parameter index => .parameter (f index)
  | .number value => .number value
  | .text value => .text value
  | .call function arguments => .call function (renumberArguments arguments)
  | .cast operand type => .cast operand.renumber type
  | .plus left right => .plus left.renumber right.renumber
  | .minus left right => .minus left.renumber right.renumber
  | .flag predicate => .flag predicate.renumber

/-- Arguments with other parameters. -/
def renumberArguments : List Scalar → List Scalar
  | [] => []
  | scalar :: rest => scalar.renumber :: renumberArguments rest

/-- A condition with other parameters. -/
def Predicate.renumber : Predicate → Predicate
  | .compare comparison left right => .compare comparison left.renumber right.renumber
  | .isNull operand => .isNull operand.renumber
  | .isNotNull operand => .isNotNull operand.renumber
  | .like text pattern => .like text.renumber pattern.renumber
  | .among operand values => .among operand.renumber (renumberArguments values)
  | .and left right => .and left.renumber right.renumber
  | .or left right => .or left.renumber right.renumber
  | .not operand => .not operand.renumber

end

/-- An expression with other parameters, beside what stands with it. -/
def renumberFirst {α : Type} (part : Scalar × α) : Scalar × α := (part.1.renumber f, part.2)

/-- What a SELECT returns, with other parameters. -/
def SelectList.renumber : SelectList → SelectList
  | .all => .all
  | .count => .count
  | .items list => .items (list.map (renumberFirst f))

/-- An ordering with other parameters. -/
def Ordering.renumber : Ordering → Ordering
  | .none => .none
  | .random => .random
  | .keys list => .keys (list.map (renumberFirst f))

mutual

/-- A SELECT with other parameters. -/
def Select.renumber : Select → Select
  | ⟨distinct, top, columns, relation, condition, ordering, paging⟩ =>
    ⟨distinct, top, columns.renumber f, renumberRelation relation,
      condition.map (Predicate.renumber f), ordering.renumber f, paging⟩

/-- What a SELECT reads, with other parameters. -/
def renumberRelation : Relation Select → Relation Select
  | .table table => .table table
  | .derived ⟨first, links⟩ => .derived ⟨first.renumber, renumberLinks links⟩

/-- Further SELECTs with other parameters. -/
def renumberLinks : List (Link Select) → List (Link Select)
  | [] => []
  | ⟨operator, select⟩ :: rest => ⟨operator, select.renumber⟩ :: renumberLinks rest

end

/-! ## Renumbered pieces -/

/-- A piece that is another placeholder if it is one. -/
def Piece.renumber : Piece → Piece
  | .placeholder index => .placeholder (f index)
  | piece => piece

/-- Separators stay where texts are renumbered. -/
theorem Pieces.join_map_renumber (separator : String) (texts : List Pieces) :
    (Pieces.join separator texts).map (Piece.renumber f) =
      Pieces.join separator (texts.map (List.map (Piece.renumber f))) := by
  fun_induction Pieces.join separator texts with
  | case1 => rfl
  | case2 text => rfl
  | case3 text next rest ih =>
    simp only [List.map_append, List.map_cons, ih, Pieces.join, Piece.renumber]

mutual

/-- A renumbered expression is printed to renumbered pieces. -/
theorem Scalar.pieces_renumber :
    ∀ scalar : Scalar, (scalar.renumber f).pieces = scalar.pieces.map (Piece.renumber f)
  | .column _ | .null | .parameter _ | .number _ | .text _ => rfl
  | .call _ arguments => by
    simp [Scalar.renumber, Scalar.pieces, Piece.renumber, argumentPieces_renumber arguments]
  | .cast operand _ | .flag operand => by
    simp [Scalar.renumber, Scalar.pieces, Piece.renumber, operand.pieces_renumber]
  | .plus left right | .minus left right => by
    simp [Scalar.renumber, Scalar.pieces, Piece.renumber, left.pieces_renumber,
      right.pieces_renumber]

/-- Arguments are numbered one by one. -/
theorem argumentPieces_renumber : ∀ scalars : List Scalar,
    argumentPieces (renumberArguments f scalars) =
      (argumentPieces scalars).map (Piece.renumber f)
  | [] => rfl
  | scalar :: rest => by
    simp [renumberArguments, argumentPieces, scalar.pieces_renumber,
      moreArgumentPieces_renumber rest]

theorem moreArgumentPieces_renumber : ∀ scalars : List Scalar,
    moreArgumentPieces (renumberArguments f scalars) =
      (moreArgumentPieces scalars).map (Piece.renumber f)
  | [] => rfl
  | scalar :: rest => by
    simp [renumberArguments, moreArgumentPieces, Piece.renumber, scalar.pieces_renumber,
      moreArgumentPieces_renumber rest]

/-- A renumbered condition is printed to renumbered pieces. -/
theorem Predicate.pieces_renumber : ∀ predicate : Predicate,
    (predicate.renumber f).pieces = predicate.pieces.map (Piece.renumber f)
  | .compare _ left right | .like left right | .and left right | .or left right => by
    simp [Predicate.renumber, Predicate.pieces, Piece.renumber, left.pieces_renumber,
      right.pieces_renumber]
  | .isNull operand | .isNotNull operand | .not operand => by
    simp [Predicate.renumber, Predicate.pieces, Piece.renumber, operand.pieces_renumber]
  | .among operand values => by
    simp [Predicate.renumber, Predicate.pieces, Piece.renumber, operand.pieces_renumber,
      argumentPieces_renumber values]

end

theorem itemPieces_renumber (item : Scalar × Option String) :
    itemPieces (renumberFirst f item) = (itemPieces item).map (Piece.renumber f) := by
  obtain ⟨scalar, _ | label⟩ := item
  · exact scalar.pieces_renumber f
  · simp [renumberFirst, itemPieces, Piece.renumber, scalar.pieces_renumber f]

theorem keyPieces_renumber (key : Scalar × Direction) :
    keyPieces (renumberFirst f key) = (keyPieces key).map (Piece.renumber f) := by
  simp [renumberFirst, keyPieces, Piece.renumber, key.1.pieces_renumber f]

/-- Parts with commas between them are renumbered one by one. -/
theorem commas_renumber {α : Type} {text : α → Pieces} {renumbered : α → α}
    (htext : ∀ part, text (renumbered part) = (text part).map (Piece.renumber f))
    (parts : List α) :
    Pieces.join ", " ((parts.map renumbered).map text) =
      (Pieces.join ", " (parts.map text)).map (Piece.renumber f) := by
  rw [Pieces.join_map_renumber, List.map_map, List.map_map]
  exact congrArg (Pieces.join ", ") (List.map_congr_left fun part _ => htext part)

theorem SelectList.pieces_renumber (columns : SelectList) :
    (columns.renumber f).pieces = columns.pieces.map (Piece.renumber f) := by
  cases columns with
  | all => rfl
  | count => rfl
  | items list => exact commas_renumber f (itemPieces_renumber f) list

theorem Ordering.pieces_renumber (ordering : Ordering) :
    (ordering.renumber f).pieces = ordering.pieces.map (Piece.renumber f) := by
  cases ordering with
  | none => rfl
  | random => rfl
  | keys list =>
    exact congrArg (.fixed " ORDER BY " :: ·) (commas_renumber f (keyPieces_renumber f) list)

theorem wherePieces_renumber (condition : Option Predicate) :
    wherePieces (condition.map (Predicate.renumber f)) =
      (wherePieces condition).map (Piece.renumber f) := by
  cases condition with
  | none => rfl
  | some predicate => exact congrArg (.fixed " WHERE " :: ·) (predicate.pieces_renumber f)

theorem topPieces_renumber (top : Option RowLimit) :
    (topPieces top).map (Piece.renumber f) = topPieces top := by
  cases top with
  | none => rfl
  | some limit =>
    have hunit : (if limit.unit = .percent then fixed "PERCENT " else []).map (Piece.renumber f) =
        if limit.unit = .percent then fixed "PERCENT " else [] := by
      split <;> rfl
    simp only [topPieces, List.map_append, hunit, List.map_cons, List.map_nil, Piece.renumber]

theorem pagingPieces_renumber (paging : Option Paging) :
    (pagingPieces paging).map (Piece.renumber f) = pagingPieces paging := by
  rcases paging with _ | ⟨skip, _ | count⟩ <;> rfl

theorem tablePieces_renumber (table : Table) :
    (tablePieces table).map (Piece.renumber f) = tablePieces table := by
  obtain ⟨name, _ | schema⟩ := table <;> rfl

mutual

/-- A renumbered SELECT is printed to renumbered pieces. -/
theorem Select.pieces_renumber : ∀ select : Select,
    (select.renumber f).pieces = select.pieces.map (Piece.renumber f)
  | ⟨distinct, top, columns, relation, condition, ordering, paging⟩ => by
    have hdistinct : (if distinct then fixed "DISTINCT " else []).map (Piece.renumber f) =
        if distinct then fixed "DISTINCT " else [] := by
      split <;> rfl
    simp only [Select.renumber, Select.pieces, List.map_append, hdistinct, topPieces_renumber,
      columns.pieces_renumber f, relationPieces_renumber relation, wherePieces_renumber,
      ordering.pieces_renumber f, pagingPieces_renumber, List.map_cons, List.map_nil,
      Piece.renumber]

/-- What a SELECT reads is numbered with the SELECTs in it. -/
theorem relationPieces_renumber : ∀ relation : Relation Select,
    relationPieces (renumberRelation f relation) =
      (relationPieces relation).map (Piece.renumber f)
  | .table table => (tablePieces_renumber f table).symm
  | .derived ⟨first, links⟩ => by
    simp [renumberRelation, relationPieces, derivedPieces, Piece.renumber, first.pieces_renumber,
      linkPieces_renumber links]

theorem linkPieces_renumber : ∀ links : List (Link Select),
    linkPieces (renumberLinks f links) = (linkPieces links).map (Piece.renumber f)
  | [] => rfl
  | ⟨operator, select⟩ :: rest => by
    simp [renumberLinks, linkPieces, Piece.renumber, select.pieces_renumber,
      linkPieces_renumber rest]

end

/-! ## Renumbered texts -/

/-- The text of a lexeme, with another number if it is a placeholder. -/
def Lexeme.renumber (lexeme : Lexeme) : List Char :=
  match lexeme.mode, lexeme.text with
  | .placeholder, '@' :: 'p' :: digits => '@' :: 'p' :: Nat.toDigits 10 (f (digitsValue digits))
  | _, text => text

/-- A text whose placeholders have other numbers.  What is quoted has none. -/
def renumberText (text : String) : String :=
  String.ofList ((lexemes text.toList).flatMap (Lexeme.renumber f))

/-- A calm piece has a placeholder only if it is one. -/
theorem Piece.eq_placeholder {piece : Piece} (hcalm : piece.calm = true) {lexeme : Lexeme}
    (hmem : lexeme ∈ lexemes piece.chars) (hmode : lexeme.mode = .placeholder) :
    ∃ index, piece = .placeholder index := by
  have htoken : lexeme.token? = some (.placeholder (String.ofList lexeme.text)) := by
    simp [Lexeme.token?, hmode]
  have hfound : String.ofList lexeme.text ∈ piece.tokens.filterMap Token.placeholder? :=
    List.mem_filterMap.mpr ⟨_, List.mem_filterMap.mpr ⟨lexeme, hmem, htoken⟩, rfl⟩
  rw [placeholders_tokens hcalm] at hfound
  cases piece with
  | placeholder index => exact ⟨index, rfl⟩
  | _ => cases hfound

/-- A lexeme that is no placeholder stays. -/
theorem Lexeme.renumber_of_ne {lexeme : Lexeme} (hmode : lexeme.mode ≠ .placeholder) :
    lexeme.renumber f = lexeme.text := by
  unfold renumber
  split
  · exact absurd ‹_› hmode
  · rfl

/-- The lexemes of a calm piece are renumbered with it. -/
theorem Piece.chars_renumber {piece : Piece} (hcalm : piece.calm = true) :
    (lexemes piece.chars).flatMap (Lexeme.renumber f) = (piece.renumber f).chars := by
  by_cases hplaceholder : ∃ index, piece = .placeholder index
  · obtain ⟨index, rfl⟩ := hplaceholder
    have hread : digitsValue (Nat.toDigits 10 index) = index := by
      rw [digitsValue_eq, Nat.ofDigitChars_ten_toDigits]
    rw [(lexemes_placeholder index).1, renumber, chars_placeholder, chars_placeholder]
    simp [Lexeme.renumber, hread]
  · -- Any other calm piece has no placeholder among its lexemes, whatever is quoted in it.
    have hsame : piece.renumber f = piece := by
      cases piece with
      | placeholder index => exact absurd ⟨index, rfl⟩ hplaceholder
      | _ => rfl
    have hstays : ∀ lexeme ∈ lexemes piece.chars, lexeme.renumber f = lexeme.text :=
      fun lexeme hmem => Lexeme.renumber_of_ne f fun hmode =>
        hplaceholder (eq_placeholder hcalm hmem hmode)
    rw [List.flatMap_congr hstays, flatMap_text_lexemes, hsame]

/-- The characters of pieces are those of each piece. -/
theorem Pieces.toList_spell (pieces : Pieces) :
    (pieces.spell .sqlServer).toList = pieces.flatMap Piece.chars := by
  induction pieces with
  | nil => rfl
  | cons piece rest ih => rw [spell_cons, String.toList_append, ih, List.flatMap_cons, Piece.chars]

/-- Calm pieces are spelled as the renumbered text. -/
theorem Pieces.spell_renumber {goesOn : Bool} {pieces : Pieces}
    (hcalm : Pieces.Calm goesOn pieces) :
    Pieces.spell .sqlServer (pieces.map (Piece.renumber f)) =
      renumberText f (pieces.spell .sqlServer) := by
  have hchars : (lexemes (pieces.spell .sqlServer).toList).flatMap (Lexeme.renumber f) =
      (Pieces.spell .sqlServer (pieces.map (Piece.renumber f))).toList := by
    rw [lexemes_spell (fun _ => Piece.whole_of_calm) hcalm, toList_spell, List.flatMap_assoc,
      List.flatMap_map]
    exact List.flatMap_congr fun piece hpiece =>
      Piece.chars_renumber f (hcalm.fits_of_mem hpiece)
  rw [renumberText, hchars, String.ofList_toList]

/-- Names and literals with a mark in them stay. -/
example : renumberText (· + 9) "[a@p0] = @p0 OR [b] = '@p1' OR [c] = @p12" =
    "[a@p0] = @p9 OR [b] = '@p1' OR [c] = @p21" := by
  decide +kernel

end SqlScribe.Sql
