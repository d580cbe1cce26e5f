import SqlScribe.Proofs.Reading.Groups

/-!
# Trees of expressions and conditions

Parentheses in the text of an expression or a condition belong to it alone: its tokens
make up trees, whatever names and values it has.

Main definitions:

- `Sql.Scalar.trees` and `Sql.Predicate.trees` are the trees of an expression and of a
  condition.
- `Sql.Quiet` holds of trees without a word that begins a clause or joins SELECTs, at any
  depth.

Main results:

- `Sql.Scalar.groups_pieces` and `Sql.Predicate.groups_pieces`: the tokens of an expression
  and of a condition make up these trees.
- `Sql.Scalar.within_trees` says which words and signs stand outside of groups.
- `Sql.Scalar.quiet_trees` and `Sql.Predicate.quiet_trees`: no clause begins in an expression
  or a condition.
-/

namespace SqlScribe

/-! ## Trees -/

namespace Sql

/-- Sequences of trees with commas between them. -/
def commas : List (List Tree) → List Tree
  | [] => []
  | [trees] => trees
  | trees :: next :: rest => trees ++ .sign "," :: commas (next :: rest)

end Sql

open Sql

/-- The trees of a size clause. -/
def SizeClause.trees : SizeClause → List Tree
  | .greatest => [.word "MAX"]
  | .length value => [.number value.toNat]
  | .precision value => [.number value.toNat]
  | .precisionAndScale p s => [.number p.toNat, .sign ",", .number s.toNat]

/-- The trees of a type. -/
def PhysicalType.trees : PhysicalType → List Tree
  | ⟨type, none⟩ => [.word type.name]
  | ⟨type, some size⟩ => [.word type.name, .group size.trees]

/-- The trees of the sign of a comparison; a sign of two characters is two tokens. -/
def Comparison.trees : Comparison → List Tree
  | .equal => [.sign "="]
  | .notEqual => [.sign "<", .sign ">"]
  | .greater => [.sign ">"]
  | .greaterOrEqual => [.sign ">", .sign "="]
  | .less => [.sign "<"]
  | .lessOrEqual => [.sign "<", .sign "="]

namespace Sql

mutual

/-- The trees of an expression. -/
def Scalar.trees : Scalar → List Tree
  | .column name => [.name name]
  | .null => [.word "NULL"]
  | .parameter index => [.token (.placeholder (Dialect.sqlServer.placeholder index))]
  | .number value => [.number value]
  | .text value => [.token (.literal false value)]
  | .call function arguments => [.word function.name, .group (argumentTrees arguments)]
  | .cast operand type => [.word "CAST", .group (operand.trees ++ .word "AS" :: type.trees)]
  | .plus left right => left.trees ++ .sign "+" :: right.trees
  | .minus left right => [.group (left.trees ++ .sign "-" :: right.trees)]
  | .flag predicate =>
    [.word "CAST", .group (.word "CASE" :: .word "WHEN" :: (predicate.trees ++
      [.word "THEN", .token (.number "1"), .word "ELSE", .token (.number "0"), .word "END",
        .word "AS", .word "bit"]))]

/-- The trees of arguments. -/
def argumentTrees : List Scalar → List Tree
  | [] => []
  | scalar :: rest => scalar.trees ++ moreArgumentTrees rest

/-- The trees of the arguments after the first. -/
def moreArgumentTrees : List Scalar → List Tree
  | [] => []
  | scalar :: rest => .sign "," :: (scalar.trees ++ moreArgumentTrees rest)

/-- The trees of a condition. -/
def Predicate.trees : Predicate → List Tree
  | .compare comparison left right => left.trees ++ (comparison.trees ++ right.trees)
  | .isNull operand => operand.trees ++ [.word "IS", .word "NULL"]
  | .isNotNull operand => operand.trees ++ [.word "IS", .word "NOT", .word "NULL"]
  | .like text pattern => text.trees ++ .word "LIKE" :: pattern.trees
  | .among operand values => operand.trees ++ [.word "IN", .group (argumentTrees values)]
  | .and left right => [.group left.trees, .word "AND", .group right.trees]
  | .or left right => [.group left.trees, .word "OR", .group right.trees]
  | .not operand => [.word "NOT", .group operand.trees]

end

/-! ## Types -/

/-- The text of a type in pieces. -/
def typePieces : PhysicalType → Pieces
  | ⟨type, none⟩ => fixed type.name
  | ⟨type, some .greatest⟩ => [.fixed type.name, .fixed " (MAX)"]
  | ⟨type, some (.length value)⟩ =>
    [.fixed type.name, .fixed " (", .number value.toNat, .fixed ")"]
  | ⟨type, some (.precision value)⟩ =>
    [.fixed type.name, .fixed " (", .number value.toNat, .fixed ")"]
  | ⟨type, some (.precisionAndScale precision scale)⟩ =>
    [.fixed type.name, .fixed " (", .number precision.toNat, .fixed ", ", .number scale.toNat,
      .fixed ")"]

/-- The pieces of a type spell its text. -/
theorem spell_typePieces (type : PhysicalType) :
    (typePieces type).spell .sqlServer = type.text := by
  obtain ⟨type, size⟩ := type
  cases size with
  | none => exact String.append_empty
  | some size =>
    change _ = type.name ++ " (" ++ size.text ++ ")"
    cases size with
    | greatest => rw [String.append_assoc, String.append_assoc]; rfl
    | length value | precision value =>
      rw [String.append_assoc, String.append_assoc]
      rfl
    | precisionAndScale precision scale =>
      change _ = type.name ++ " (" ++
        (toString precision.toNat ++ ", " ++ toString scale.toNat) ++ ")"
      simp only [String.append_assoc]
      rfl

/-- The pieces of a type are calm. -/
theorem calm_typePieces (type : PhysicalType) : Pieces.Calm false (typePieces type) := by
  have hname : (Piece.fixed type.type.name).calm = true := calm_typeText ⟨type.type, none⟩
  obtain ⟨type, size⟩ := type
  cases size with
  | none => exact .single hname
  | some size =>
    cases size with
    | greatest => exact (Pieces.Calm.single hname).append (.trail (by decide) Pieces.calm_nil)
    | length value | precision value =>
      apply (Pieces.Calm.single hname).append
      apply Pieces.Calm.joint (by decide) (by decide)
      apply (Pieces.Calm.single (by simp [Piece.calm])).append
      exact .trail (by decide) Pieces.calm_nil
    | precisionAndScale precision scale =>
      apply (Pieces.Calm.single hname).append
      apply Pieces.Calm.joint (by decide) (by decide)
      apply (Pieces.Calm.single (by simp [Piece.calm])).append
      apply Pieces.Calm.joint (by decide) (by decide)
      apply (Pieces.Calm.single (by simp [Piece.calm])).append
      exact .trail (by decide) Pieces.calm_nil

/-- The name of a type is a single word. -/
theorem tokens_typeName (type : SqlType) :
    (Piece.fixed type.name).tokens = [.word type.name] := by
  cases type <;> decide

/-- A number is a single token. -/
theorem tokens_number (value : Nat) :
    (Piece.number value).tokens = [.number (toString value)] := by
  have hspell : (Piece.number value).spell .sqlServer = toString value := rfl
  rw [Piece.tokens, (Piece.lexemes_number value).1]
  simp only [Lexeme.token?, Piece.chars, hspell, String.ofList_toList, List.filterMap_cons,
    List.filterMap_nil]

theorem tokens_fixed_opening : (Piece.fixed "(").tokens = [.opening] := by decide

theorem tokens_fixed_closing : (Piece.fixed ")").tokens = [.closing] := by decide

theorem tokens_fixed_comma : (Piece.fixed ", ").tokens = [.sign ","] := by decide

/-- The tokens of a type make up its trees. -/
theorem groups_typeText (type : PhysicalType) :
    Groups (Piece.fixed type.text).tokens type.trees := by
  have htokens : (Piece.fixed type.text).tokens = (typePieces type).tokens := by
    rw [← (calm_typePieces type).tokens_spell, spell_typePieces]
    rfl
  have hspace : (Piece.fixed " (").tokens = [.opening] := by decide
  have hgreatest : (Piece.fixed " (MAX)").tokens = [.opening, .word "MAX", .closing] := by decide
  rw [htokens]
  obtain ⟨type, size⟩ := type
  cases size with
  | none => simpa [typePieces, PhysicalType.trees, tokens_typeName] using Groups.nil.word type.name
  | some size =>
    cases size with
    | greatest =>
      have hinside := (Groups.nil.word "MAX").enclosed
      simpa [typePieces, PhysicalType.trees, SizeClause.trees, tokens_typeName, hgreatest] using
        hinside.word type.name
    | length value | precision value =>
      have hinside := (Groups.single (.number (toString value.toNat)) rfl).enclosed
      simpa [typePieces, PhysicalType.trees, SizeClause.trees, Tree.number, tokens_typeName, hspace,
        tokens_number, tokens_fixed_closing] using hinside.word type.name
    | precisionAndScale precision scale =>
      have hinside : Groups [.number (toString precision.toNat), .sign ",",
          .number (toString scale.toNat)] (SizeClause.precisionAndScale precision scale).trees :=
        .token _ rfl (.token _ rfl (.single _ rfl))
      simpa [typePieces, PhysicalType.trees, tokens_typeName, hspace, tokens_number,
        tokens_fixed_comma, tokens_fixed_closing] using hinside.enclosed.word type.name

/-! ## Expressions and conditions -/

/-- The tokens of the sign of a comparison make up its trees. -/
theorem groups_comparison (comparison : Comparison) :
    Groups (Piece.fixed (" " ++ comparison.sql ++ " ")).tokens comparison.trees := by
  cases comparison <;> exact .plain _ (by decide)

mutual

/-- The tokens of an expression make up its trees. -/
theorem Scalar.groups_pieces : ∀ scalar : Scalar, Groups scalar.pieces.tokens scalar.trees
  | .column name => by
    simpa [Scalar.pieces, Scalar.trees, Piece.tokens_name] using Groups.single (.name name) rfl
  | .null => .single _ rfl
  | .parameter index => by
    have hsingle := Groups.single (.placeholder (Dialect.sqlServer.placeholder index)) rfl
    simpa [Scalar.pieces, Scalar.trees, Piece.tokens_placeholder] using hsingle
  | .number value => by
    have hsingle := Groups.single (.number (toString value)) rfl
    simpa [Scalar.pieces, Scalar.trees, tokens_number, Tree.number] using hsingle
  | .text value => by
    simpa [Scalar.pieces, Scalar.trees, Piece.tokens_literal] using
      Groups.single (.literal false value) rfl
  | .call function arguments => by
    have hopening : (Piece.fixed (function.name ++ "(")).tokens =
        [.word function.name, .opening] := by
      cases function <;> decide
    have hinside := (groups_argumentPieces arguments).enclosed
    simpa [Scalar.pieces, Scalar.trees, hopening, tokens_fixed_closing] using
      hinside.word function.name
  | .cast operand type => by
    have hopening : (Piece.fixed "CAST(").tokens = [.word "CAST", .opening] := by decide
    have has : (Piece.fixed " AS ").tokens = [.word "AS"] := by decide
    have hinside := operand.groups_pieces.append ((groups_typeText type).word "AS")
    simpa [Scalar.pieces, Scalar.trees, hopening, has, tokens_fixed_closing] using
      hinside.enclosed.word "CAST"
  | .plus left right => by
    have hplus : (Piece.fixed " + ").tokens = [.sign "+"] := by decide
    have hright := Groups.token (.sign "+") rfl right.groups_pieces
    simpa [Scalar.pieces, Scalar.trees, hplus] using left.groups_pieces.append hright
  | .minus left right => by
    have hminus : (Piece.fixed " - ").tokens = [.sign "-"] := by decide
    have hright := Groups.token (.sign "-") rfl right.groups_pieces
    simpa [Scalar.pieces, Scalar.trees, hminus, tokens_fixed_opening, tokens_fixed_closing] using
      (left.groups_pieces.append hright).enclosed
  | .flag predicate => by
    have hopening : (Piece.fixed "CAST(CASE WHEN ").tokens =
        [.word "CAST", .opening, .word "CASE", .word "WHEN"] := by decide
    have hclosing : (Piece.fixed " THEN 1 ELSE 0 END AS bit)").tokens =
        [.word "THEN", .number "1", .word "ELSE", .number "0", .word "END", .word "AS",
          .word "bit", .closing] := by decide
    have hend := Groups.plain [.word "THEN", .number "1", .word "ELSE", .number "0",
      .word "END", .word "AS", .word "bit"] (by decide)
    have hinside := ((predicate.groups_pieces.append hend).word "WHEN").word "CASE"
    simpa [Scalar.pieces, Scalar.trees, hopening, hclosing] using hinside.enclosed.word "CAST"

/-- The tokens of arguments make up their trees. -/
theorem groups_argumentPieces :
    ∀ scalars : List Scalar, Groups (argumentPieces scalars).tokens (argumentTrees scalars)
  | [] => .nil
  | scalar :: rest => by
    have hrest := groups_moreArgumentPieces rest
    simpa [argumentPieces, argumentTrees] using scalar.groups_pieces.append hrest

/-- The tokens of further arguments make up their trees. -/
theorem groups_moreArgumentPieces :
    ∀ scalars : List Scalar, Groups (moreArgumentPieces scalars).tokens (moreArgumentTrees scalars)
  | [] => .nil
  | scalar :: rest => by
    have hrest := scalar.groups_pieces.append (groups_moreArgumentPieces rest)
    simpa [moreArgumentPieces, moreArgumentTrees, tokens_fixed_comma] using
      Groups.token (.sign ",") rfl hrest

/-- The tokens of a condition make up its trees. -/
theorem Predicate.groups_pieces :
    ∀ predicate : Predicate, Groups predicate.pieces.tokens predicate.trees
  | .compare comparison left right => by
    have hright := (groups_comparison comparison).append right.groups_pieces
    simpa [Predicate.pieces, Predicate.trees] using left.groups_pieces.append hright
  | .isNull operand => by
    have hend : (Piece.fixed " IS NULL").tokens = [.word "IS", .word "NULL"] := by decide
    simpa [Predicate.pieces, Predicate.trees, hend] using
      operand.groups_pieces.append ((Groups.nil.word "NULL").word "IS")
  | .isNotNull operand => by
    have hend : (Piece.fixed " IS NOT NULL").tokens =
        [.word "IS", .word "NOT", .word "NULL"] := by decide
    simpa [Predicate.pieces, Predicate.trees, hend] using
      operand.groups_pieces.append (((Groups.nil.word "NULL").word "NOT").word "IS")
  | .like text pattern => by
    have hlike : (Piece.fixed " LIKE ").tokens = [.word "LIKE"] := by decide
    simpa [Predicate.pieces, Predicate.trees, hlike] using
      text.groups_pieces.append (pattern.groups_pieces.word "LIKE")
  | .among operand values => by
    have hin : (Piece.fixed " IN (").tokens = [.word "IN", .opening] := by decide
    have hinside := (groups_argumentPieces values).enclosed
    simpa [Predicate.pieces, Predicate.trees, hin, tokens_fixed_closing] using
      operand.groups_pieces.append (hinside.word "IN")
  | .and left right => by
    have hand : (Piece.fixed ") AND (").tokens = [.closing, .word "AND", .opening] := by decide
    have hright := right.groups_pieces.enclosed.word "AND"
    simpa [Predicate.pieces, Predicate.trees, hand, tokens_fixed_opening, tokens_fixed_closing]
      using left.groups_pieces.enclosed.append hright
  | .or left right => by
    have hor : (Piece.fixed ") OR (").tokens = [.closing, .word "OR", .opening] := by decide
    have hright := right.groups_pieces.enclosed.word "OR"
    simpa [Predicate.pieces, Predicate.trees, hor, tokens_fixed_opening, tokens_fixed_closing] using
      left.groups_pieces.enclosed.append hright
  | .not operand => by
    have hnot : (Piece.fixed "NOT (").tokens = [.word "NOT", .opening] := by decide
    simpa [Predicate.pieces, Predicate.trees, hnot, tokens_fixed_closing] using
      operand.groups_pieces.enclosed.word "NOT"

end

/-! ## Outside of groups -/

/-- Whether a tree is no word and no sign but one of these. -/
def Tree.within (words signs : List String) : Tree → Bool
  | .token (.word text) => text ∈ words
  | .token (.sign text) => text ∈ signs
  | _ => true

/-- The words of an expression outside of groups. -/
def scalarWords : List String :=
  ["NULL", "CAST", "UPPER", "LOWER", "LTRIM", "RTRIM", "LEN", "SUBSTRING", "REPLACE", "CHARINDEX",
    "CONCAT", "COALESCE"]

/-- The words outside of groups in what compares or tests expressions. -/
def sideWords : List String := scalarWords ++ ["NOT", "LIKE", "IN", "IS"]

/-- The signs outside of groups in what compares or tests expressions. -/
def sideSigns : List String := ["+", "=", "<", ">"]

/-- What has some words and signs only has no others than more of them. -/
theorem Tree.within_mono {words moreWords signs moreSigns : List String}
    (hwords : words ⊆ moreWords) (hsigns : signs ⊆ moreSigns) {tree : Tree}
    (hwithin : tree.within words signs = true) : tree.within moreWords moreSigns = true := by
  cases tree with
  | group inside => rfl
  | token token =>
    cases token <;> simp_all [within]
    · exact hwords hwithin
    · exact hsigns hwithin

/-- A word or sign that is not among those outside of groups does not stand there. -/
theorem Tree.isToken_of_within {words signs : List String} {tree : Tree} {token : Token}
    (hwithin : tree.within words signs = true)
    (htoken : (Tree.token token).within words signs = false) : tree.isToken token = false := by
  cases tree with
  | group inside => rfl
  | token other =>
    rw [isToken_token, decide_eq_false_iff_not]
    rintro rfl
    exact absurd hwithin (by simp [htoken])

/-- The words and signs of an expression outside of groups. -/
theorem Scalar.within_trees (scalar : Scalar) :
    ∀ tree ∈ scalar.trees, tree.within scalarWords ["+"] = true := by
  cases scalar with
  | plus left right =>
    have hleft := left.within_trees
    have hright := right.within_trees
    simp only [Scalar.trees, List.forall_mem_append, List.forall_mem_cons]
    exact ⟨hleft, rfl, hright⟩
  | call function arguments =>
    have hname : function.name ∈ scalarWords := by cases function <;> decide
    simpa [Scalar.trees, Tree.within] using hname
  | null => simp [Scalar.trees, Tree.within, scalarWords]
  | cast operand type => simp [Scalar.trees, Tree.within, scalarWords]
  | flag predicate => simp [Scalar.trees, Tree.within, scalarWords]
  | _ => simp [Scalar.trees, Tree.within]

/-- An expression has a tree. -/
theorem Scalar.trees_ne_nil (scalar : Scalar) : scalar.trees ≠ [] := by
  cases scalar <;> simp [Scalar.trees]

/-! ## Quiet trees -/

/-- The words that begin clauses of a SELECT, its limit among them. -/
def clauseWords : List String := ["SELECT", "TOP", "FROM", "WHERE", "ORDER", "OFFSET", "FETCH"]

/-- The words that stand between SELECTs. -/
def setWords : List String := ["UNION", "INTERSECT", "EXCEPT"]

/-- Whether a token is a word that begins a clause or joins SELECTs. -/
def Token.isKeyword : Token → Bool
  | .word text => text ∈ clauseWords || text ∈ setWords
  | _ => false

/-- No clause begins in trees, and no SELECTs are joined in them, at any depth. -/
def Quiet (trees : List Tree) : Prop := ∀ token ∈ treeTokens trees, token.isKeyword = false

@[simp] theorem quiet_nil : Quiet [] := nofun

@[simp] theorem quiet_token {token : Token} {rest : List Tree} :
    Quiet (.token token :: rest) ↔ token.isKeyword = false ∧ Quiet rest := by
  simp [Quiet, treeTokens, Tree.tokens]

@[simp] theorem quiet_group {inside rest : List Tree} :
    Quiet (.group inside :: rest) ↔ Quiet inside ∧ Quiet rest := by
  simp [Quiet, treeTokens, Tree.tokens, Token.isKeyword, forall_and, or_imp]

/-- No clause begins in two parts of trees if none begins in either. -/
@[simp] theorem quiet_append {a b : List Tree} : Quiet (a ++ b) ↔ Quiet a ∧ Quiet b := by
  simp [Quiet, forall_and, or_imp]

/-- The name of a type begins no clause. -/
theorem quiet_typeName (type : SqlType) : (Token.word type.name).isKeyword = false := by
  cases type <;> decide

/-- No clause begins in a size clause. -/
theorem SizeClause.quiet_trees (size : SizeClause) : Quiet size.trees := by
  cases size <;> simp [SizeClause.trees, Token.isKeyword, clauseWords, setWords]

/-- No clause begins in a type. -/
theorem PhysicalType.quiet_trees (type : PhysicalType) : Quiet type.trees := by
  obtain ⟨type, size⟩ := type
  have hname := quiet_typeName type
  cases size with
  | none => simpa [PhysicalType.trees] using hname
  | some size => simpa [PhysicalType.trees, SizeClause.quiet_trees size] using hname

mutual

/-- No clause begins in an expression. -/
theorem Scalar.quiet_trees : ∀ scalar : Scalar, Quiet scalar.trees
  | .column name => by simp [Scalar.trees, Token.isKeyword]
  | .null => by simp [Scalar.trees, Token.isKeyword, clauseWords, setWords]
  | .parameter index => by simp [Scalar.trees, Token.isKeyword]
  | .number value => by simp [Scalar.trees, Token.isKeyword]
  | .text value => by simp [Scalar.trees, Token.isKeyword]
  | .call function arguments => by
    have hname : (Token.word function.name).isKeyword = false := by cases function <;> decide
    simp [Scalar.trees, hname, quiet_argumentTrees arguments]
  | .cast operand type => by
    simp [Scalar.trees, Token.isKeyword, clauseWords, setWords, operand.quiet_trees,
      PhysicalType.quiet_trees type]
  | .plus left right => by
    simp [Scalar.trees, Token.isKeyword, left.quiet_trees, right.quiet_trees]
  | .minus left right => by
    simp [Scalar.trees, Token.isKeyword, left.quiet_trees, right.quiet_trees]
  | .flag predicate => by
    simp [Scalar.trees, Token.isKeyword, clauseWords, setWords, predicate.quiet_trees]

/-- No clause begins in arguments. -/
theorem quiet_argumentTrees : ∀ scalars : List Scalar, Quiet (argumentTrees scalars)
  | [] => by simp [argumentTrees]
  | scalar :: rest => by simp [argumentTrees, scalar.quiet_trees, quiet_moreArgumentTrees rest]

/-- No clause begins in further arguments. -/
theorem quiet_moreArgumentTrees : ∀ scalars : List Scalar, Quiet (moreArgumentTrees scalars)
  | [] => by simp [moreArgumentTrees]
  | scalar :: rest => by
    simp [moreArgumentTrees, Token.isKeyword, scalar.quiet_trees, quiet_moreArgumentTrees rest]

/-- No clause begins in a condition. -/
theorem Predicate.quiet_trees : ∀ predicate : Predicate, Quiet predicate.trees
  | .compare comparison left right => by
    have hsign : Quiet comparison.trees := by
      cases comparison <;> simp [Comparison.trees, Token.isKeyword]
    simp [Predicate.trees, hsign, left.quiet_trees, right.quiet_trees]
  | .isNull operand => by
    simp [Predicate.trees, Token.isKeyword, clauseWords, setWords, operand.quiet_trees]
  | .isNotNull operand => by
    simp [Predicate.trees, Token.isKeyword, clauseWords, setWords, operand.quiet_trees]
  | .like text pattern => by
    simp [Predicate.trees, Token.isKeyword, clauseWords, setWords, text.quiet_trees,
      pattern.quiet_trees]
  | .among operand values => by
    simp [Predicate.trees, Token.isKeyword, clauseWords, setWords, operand.quiet_trees,
      quiet_argumentTrees values]
  | .and left right => by
    simp [Predicate.trees, Token.isKeyword, clauseWords, setWords, left.quiet_trees,
      right.quiet_trees]
  | .or left right => by
    simp [Predicate.trees, Token.isKeyword, clauseWords, setWords, left.quiet_trees,
      right.quiet_trees]
  | .not operand => by
    simp [Predicate.trees, Token.isKeyword, clauseWords, setWords, operand.quiet_trees]

end

end Sql

end SqlScribe
