import SqlScribe.Proofs.Lexing.Token

/-!
# Groups of tokens

The tokens of a text are read into trees: what stands between two parentheses is a group,
and groups may stand in groups.  Everything else that is read from a text, conditions and
SELECTs, is read from its trees.

Main definitions:

- `Sql.Tree` is a token or a group; `Sql.Groups` relates tokens to the trees they make up.
- `Sql.readGroups` reads tokens into trees.
- `Sql.bodies` are the insides of all groups, at every depth.

Main results:

- `Sql.readGroups_eq_some_iff`: tokens are read into exactly the trees that they make up.
- `Sql.Pieces.Calm.tokens_spell`: the tokens of calm pieces are those of each piece.
-/

namespace SqlScribe.Sql

/-! ## Trees -/

/-- A token, or a group in parentheses. -/
inductive Tree where
  | token (token : Token)
  | group (inside : List Tree)

/-- The parenthesis that opens a group. -/
abbrev Token.opening : Token := .sign "("

/-- The parenthesis that closes a group. -/
abbrev Token.closing : Token := .sign ")"

open Token (opening closing)

/-- Whether a token is a parenthesis. -/
def Token.isParenthesis (token : Token) : Bool := token = opening || token = closing

/-- A word as a tree. -/
abbrev Tree.word (text : String) : Tree := .token (.word text)

/-- A sign as a tree. -/
abbrev Tree.sign (text : String) : Tree := .token (.sign text)

/-- A quoted identifier as a tree. -/
abbrev Tree.name (text : String) : Tree := .token (.name text)

/-- A number as a tree. -/
abbrev Tree.number (value : Nat) : Tree := .token (.number (toString value))

/-- Whether a tree is this token. -/
def Tree.isToken (token : Token) : Tree → Bool
  | .token other => other = token
  | .group _ => false

/-- Whether a tree is this word. -/
abbrev Tree.isWord (text : String) (tree : Tree) : Bool := tree.isToken (.word text)

/-- Whether a tree is this sign. -/
abbrev Tree.isSign (text : String) (tree : Tree) : Bool := tree.isToken (.sign text)

@[simp] theorem Tree.isToken_token (token other : Token) :
    (Tree.token other).isToken token = decide (other = token) := rfl

@[simp] theorem Tree.isToken_group (token : Token) (inside : List Tree) :
    (Tree.group inside).isToken token = false := rfl

/-- Tokens make up trees. -/
inductive Groups : List Token → List Tree → Prop where
  | nil : Groups [] []
  | token (token : Token) {tokens : List Token} {trees : List Tree}
    (hplain : token.isParenthesis = false) (hrest : Groups tokens trees) :
    Groups (token :: tokens) (.token token :: trees)
  | group {inner tokens : List Token} {inside trees : List Tree} (hinside : Groups inner inside)
    (hrest : Groups tokens trees) :
    Groups (opening :: (inner ++ closing :: tokens)) (.group inside :: trees)

namespace Groups

variable {a b : List Token} {x y : List Tree}

/-- Tokens behind others make up trees behind theirs. -/
theorem append (ha : Groups a x) (hb : Groups b y) : Groups (a ++ b) (x ++ y) := by
  induction ha with
  | nil => exact hb
  | token token hplain _ ih => exact .token token hplain ih
  | group hinside _ _ ih =>
    rw [List.cons_append, List.append_assoc, List.cons_append, List.cons_append]
    exact .group hinside ih

/-- A token that is no parenthesis is a tree. -/
theorem single (token : Token) (hplain : token.isParenthesis = false) :
    Groups [token] [.token token] :=
  .token token hplain .nil

/-- A word in front is one more tree. -/
theorem word (text : String) (ha : Groups a x) : Groups (.word text :: a) (.word text :: x) :=
  .token _ rfl ha

/-- Tokens that are no parentheses make up as many trees. -/
theorem plain (tokens : List Token) (hplain : tokens.all (!·.isParenthesis) = true) :
    Groups tokens (tokens.map .token) := by
  induction tokens with
  | nil => exact .nil
  | cons token rest ih =>
    simp only [List.all_cons, Bool.and_eq_true, Bool.not_eq_true'] at hplain
    exact .token token hplain.1 (ih hplain.2)

/-- Tokens in parentheses make up a group. -/
theorem enclosed (ha : Groups a x) : Groups (opening :: (a ++ [closing])) [.group x] :=
  .group ha .nil

end Groups

/-! ## Reading -/

/-- Reads tokens behind the trees of the innermost open group.  Of each group around it
the trees in front of that are kept, from the inside out. -/
def readGroupsFrom : List (List Tree) → List Tree → List Token → Option (List Tree)
  | [], read, [] => some read
  | _ :: _, _, [] => none
  | around, read, token :: rest =>
    if token = opening then readGroupsFrom (read :: around) [] rest
    else if token = closing then
      match around with
      | [] => none
      | before :: around => readGroupsFrom around (before ++ [.group read]) rest
    else readGroupsFrom around (read ++ [.token token]) rest

/-- Reads tokens into trees, if every parenthesis has its counterpart. -/
def readGroups (tokens : List Token) : Option (List Tree) := readGroupsFrom [] [] tokens

/-- Tokens that make up trees are read into them wherever they stand. -/
theorem readGroupsFrom_append {tokens : List Token} {trees : List Tree}
    (hgroups : Groups tokens trees) (around : List (List Tree)) (read : List Tree)
    (rest : List Token) :
    readGroupsFrom around read (tokens ++ rest) = readGroupsFrom around (read ++ trees) rest := by
  induction hgroups generalizing around read rest with
  | nil => simp
  | token token hplain _ ih =>
    simp only [Token.isParenthesis, Bool.or_eq_false_iff, decide_eq_false_iff_not] at hplain
    rw [List.cons_append, readGroupsFrom.eq_def]
    simp only [hplain.1, hplain.2, if_false]
    rw [ih, List.append_assoc, List.singleton_append]
  | @group inner tokens inside trees _ _ ihinside ihrest =>
    rw [List.cons_append, List.append_assoc, List.cons_append, readGroupsFrom.eq_def]
    simp only [if_true]
    rw [ihinside, List.nil_append, readGroupsFrom.eq_def]
    simp only [Token.sign.injEq, String.reduceEq, if_false, if_true]
    rw [ihrest, List.append_assoc, List.singleton_append]

/-- The groups that are open in front of a token, with the tokens read so far. -/
inductive Opened : List (List Tree) → List Token → Prop where
  | nil : Opened [] []
  | cons {around : List (List Tree)} {front tokens : List Token} {before : List Tree}
    (haround : Opened around front) (hbefore : Groups tokens before) :
    Opened (before :: around) (front ++ (tokens ++ [opening]))

/-- All that has been read makes up the trees in the end. -/
theorem groups_of_readGroupsFrom {around : List (List Tree)} {read trees : List Tree}
    {front tokens rest : List Token} (hopened : Opened around front) (hread : Groups tokens read)
    (hresult : readGroupsFrom around read rest = some trees) :
    Groups (front ++ (tokens ++ rest)) trees := by
  induction rest generalizing around read front tokens with
  | nil =>
    cases hopened with
    | nil =>
      simp only [readGroupsFrom, Option.some.injEq] at hresult
      subst hresult
      simpa using hread
    | cons haround hbefore => simp [readGroupsFrom] at hresult
  | cons token rest ih =>
    rw [readGroupsFrom.eq_def] at hresult
    by_cases hopens : token = opening
    · subst hopens
      simp only [if_true] at hresult
      simpa using ih (.cons hopened hread) .nil hresult
    · simp only [hopens, if_false] at hresult
      by_cases hcloses : token = closing
      · subst hcloses
        simp only [if_true] at hresult
        cases hopened with
        | nil => simp at hresult
        | cons haround hbefore => simpa using ih haround (hbefore.append hread.enclosed) hresult
      · simp only [hcloses, if_false] at hresult
        have hplain : token.isParenthesis = false := by
          simp [Token.isParenthesis, hopens, hcloses]
        simpa using ih hopened (hread.append (.single token hplain)) hresult

/-- Tokens are read into exactly the trees that they make up. -/
theorem readGroups_eq_some_iff {tokens : List Token} {trees : List Tree} :
    readGroups tokens = some trees ↔ Groups tokens trees := by
  constructor
  · intro hread
    simpa using groups_of_readGroupsFrom .nil .nil hread
  · intro hgroups
    have hread := readGroupsFrom_append hgroups [] [] []
    rw [List.append_nil, List.nil_append] at hread
    exact hread

/-! ## Trees as tokens -/

mutual

/-- The tokens of a tree. -/
def Tree.tokens : Tree → List Token
  | .token token => [token]
  | .group inside => opening :: (treeTokens inside ++ [closing])

/-- The tokens of several trees. -/
def treeTokens : List Tree → List Token
  | [] => []
  | tree :: rest => tree.tokens ++ treeTokens rest

end

/-- The tokens of trees behind others stand behind theirs. -/
@[simp] theorem treeTokens_append (a b : List Tree) :
    treeTokens (a ++ b) = treeTokens a ++ treeTokens b := by
  induction a with
  | nil => rfl
  | cons tree rest ih => rw [List.cons_append, treeTokens, treeTokens, ih, List.append_assoc]

/-- Trees have the tokens that make them up. -/
theorem Groups.treeTokens_eq {tokens : List Token} {trees : List Tree}
    (hgroups : Groups tokens trees) : treeTokens trees = tokens := by
  induction hgroups with
  | nil => rfl
  | token _ _ _ ih => rw [treeTokens, Tree.tokens, ih, List.singleton_append]
  | group _ _ ihinside ihrest =>
    rw [treeTokens, Tree.tokens, ihinside, ihrest, List.cons_append, List.append_assoc,
      List.singleton_append]

/-! ## Insides of groups -/

mutual

/-- The insides of the groups in a tree. -/
def Tree.bodies : Tree → List (List Tree)
  | .token _ => []
  | .group inside => inside :: bodies inside

/-- The insides of all groups in trees, at every depth. -/
def bodies : List Tree → List (List Tree)
  | [] => []
  | tree :: rest => tree.bodies ++ bodies rest

end

@[simp] theorem bodies_nil : bodies [] = [] := by rw [bodies]

@[simp] theorem bodies_token (token : Token) (rest : List Tree) :
    bodies (.token token :: rest) = bodies rest := by
  rw [bodies, Tree.bodies, List.nil_append]

@[simp] theorem bodies_group (inside rest : List Tree) :
    bodies (.group inside :: rest) = inside :: (bodies inside ++ bodies rest) := by
  rw [bodies, Tree.bodies, List.cons_append]

/-- The groups of trees behind others stand behind theirs. -/
@[simp] theorem bodies_append (a b : List Tree) : bodies (a ++ b) = bodies a ++ bodies b := by
  induction a with
  | nil => simp
  | cons tree rest ih => rw [List.cons_append, bodies, bodies, ih, List.append_assoc]

/-! ## Tokens of pieces -/

namespace Pieces

/-- The tokens of pieces, one piece after the other. -/
def tokens (pieces : Pieces) : List Token := pieces.flatMap Piece.tokens

@[simp] theorem tokens_nil : tokens [] = [] := rfl

@[simp] theorem tokens_cons (piece : Piece) (rest : Pieces) :
    tokens (piece :: rest) = piece.tokens ++ tokens rest := rfl

@[simp] theorem tokens_append (a b : Pieces) : tokens (a ++ b) = tokens a ++ tokens b :=
  List.flatMap_append

/-- The tokens of calm pieces are those of each piece by itself. -/
theorem Calm.tokens_spell {goesOn : Bool} {pieces : Pieces} (hcalm : Calm goesOn pieces) :
    Sql.tokens (pieces.spell .sqlServer) = pieces.tokens :=
  Pieces.tokens_spell (fun _ => Piece.whole_of_calm) hcalm

end Pieces

end SqlScribe.Sql
