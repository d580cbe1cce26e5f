import SqlScribe.Proofs.Lexing.Token
import SqlScribe.Proofs.Rendering.QuerySimulation

/-!
# What names and constants can do to query text

Names reach the text of a query as quoted identifiers and nowhere else.  Constants
do not reach it at all: they are bound, and the text has only their placeholders.

Main definitions:

- `Sql.Slot` is a place in a sequence of tokens, with a token of the library or with
  one for a name of the query.

Main results:

- `Query.tokens_of_other_names`: under other names the tokens for names change with
  them, and nothing else does.
- `Query.text_of_other_constants`: with other constants the text stays as it is.
-/

namespace SqlScribe

open Sql

/-! ## Places for names -/

namespace Sql

/-- A place in a sequence of tokens. -/
inductive Slot where
  | own (token : Token)
  | name (text : String)
deriving DecidableEq, Repr

/-- The token in a place under other names. -/
def Slot.fill (rename : String → String) : Slot → Token
  | .own token => token
  | .name text => .name (rename text)

/-- The places of a piece. -/
def Piece.slots : Piece → List Slot
  | .name text => [.name text]
  | piece => piece.tokens.map .own

/-- The only quoted identifier of the library in a calm piece is the alias of derived
tables. -/
theorem Piece.name_of_mem_slots {piece : Piece} {text : String} (hcalm : piece.calm = true)
    (hmem : .own (.name text) ∈ piece.slots) : text = derivedAlias := by
  cases piece with
  | name other => simp [slots] at hmem
  | _ =>
    simp only [slots, List.mem_map, Slot.own.injEq, exists_eq_right] at hmem
    rcases name_of_mem_tokens hcalm hmem with heq | halias
    · simp at heq
    · exact halias

end Sql

/-- A piece under other names has the same places. -/
theorem Substitution.tokens_piece (σ : Substitution) (piece : Piece) :
    (σ.piece piece).tokens = piece.slots.map (Slot.fill σ.name) := by
  cases piece with
  | name text => exact Piece.tokens_name (σ.name text)
  | _ =>
    simp only [Substitution.piece, Piece.slots, List.map_map]
    exact (List.map_id _).symm

/-- Other constants do not change a piece. -/
theorem Substitution.piece_ofValues (replace : Value → Value) (piece : Piece) :
    (ofValues replace).piece piece = piece := by
  cases piece <;> rfl

namespace Query

/-! ## Rendering under a substitution -/

/-- A query that renders still does so under a lawful substitution: the text differs
in names and the bound values correspond. -/
theorem statement_substitute {query : Query} {σ : Substitution} (hσ : σ.Lawful)
    {pieces : Pieces} {values : List Value} (hpieces : query.pieces [] = .ok (pieces, values))
    (dialect : Dialect) :
    ∃ others, List.Forall₂ σ.Carries values others ∧
      (query.substitute σ).pieces [] = .ok (pieces.map σ.piece, others) ∧
      (query.substitute σ).statement dialect = .ok
        { text := Pieces.spell dialect (pieces.map σ.piece)
          parameters := namedParameters dialect others
          result := query.resultShape } := by
  obtain ⟨other, others, hother, hcarries, rfl⟩ := simulates_pieces hσ query .nil hpieces
  refine ⟨others, hcarries, hother, ?_⟩
  rw [statement_eq_ok_iff]
  exact ⟨_, others, hother, by rw [resultShape_substitute]⟩

/-- Under the same constants the same values are bound. -/
theorem eq_of_carries_ofNames {rename : String → String} {values others : List Value}
    (hcarries : List.Forall₂ (Substitution.ofNames rename).Carries values others) :
    others = values := by
  induction hcarries with
  | nil => rfl
  | cons hvalue _ ih =>
    rw [ih]
    cases hvalue with
    | constant => rfl
    | escaped htext =>
      have heq : (_ : Value) = _ := htext
      cases heq
      rfl

/-- No name changes the structure of a query: under other names the query renders
as well, to the same places with the other names in them and with the same bound
values.  The only quoted identifier of the library itself is the alias of derived
tables. -/
theorem tokens_of_other_names {query : Query} {statement : Statement}
    (hstatement : query.statement = .ok statement) :
    ∃ slots : List Slot,
      tokens statement.text = slots.map (Slot.fill id) ∧
      (∀ text, .own (.name text) ∈ slots → text = derivedAlias) ∧
      ∀ rename : String → String, ∃ other : Statement,
        (query.substitute (.ofNames rename)).statement = .ok other ∧
        tokens other.text = slots.map (Slot.fill rename) ∧
        other.parameters = statement.parameters ∧ other.result = statement.result := by
  obtain ⟨pieces, values, hpieces, rfl⟩ := statement_eq_ok_iff.mp hstatement
  refine ⟨pieces.flatMap Piece.slots, ?_, ?_, ?_⟩
  · rw [tokens_spell_pieces hpieces, List.map_flatMap]
    congr 1
    funext piece
    have htokens := Substitution.tokens_piece (.ofValues id) piece
    rw [Substitution.piece_ofValues] at htokens
    exact htokens
  · intro text hmem
    obtain ⟨piece, hpiece, hslot⟩ := List.mem_flatMap.mp hmem
    have hcalm := (calm_pieces hpieces).fits_of_mem hpiece
    exact Piece.name_of_mem_slots hcalm hslot
  · intro rename
    obtain ⟨others, hcarries, hother, hresult⟩ :=
      statement_substitute (Substitution.lawful_ofNames rename) hpieces .sqlServer
    refine ⟨_, hresult, ?_, ?_, rfl⟩
    · rw [tokens_spell_pieces hother, List.flatMap_map, List.map_flatMap]
      congr 1
      funext piece
      exact Substitution.tokens_piece _ piece
    · rw [eq_of_carries_ofNames hcarries]

/-- A search in a table whose name contains the end of a quoted identifier. -/
def bracketSearch : Query :=
  (ofTable ⟨"t]", some "dbo"⟩).filtered (.holds (.search .start (.field "f") (.value (.text "a%"))))

/-- Other names in a search, the one with a bracket included. -/
theorem tokens_of_other_names_bracketSearch :
    ∃ slots : List Slot,
      tokens "SELECT * FROM [dbo].[t]]] WHERE [f] LIKE @p0 + '%'" = slots.map (Slot.fill id) ∧
      (∀ text, .own (.name text) ∈ slots → text = derivedAlias) ∧
      ∀ rename : String → String, ∃ other : Statement,
        (bracketSearch.substitute (.ofNames rename)).statement = .ok other ∧
        tokens other.text = slots.map (Slot.fill rename) ∧
        other.parameters = [⟨"@p0", .text "a[%]"⟩] ∧ other.result = .multiple := by
  have hstatement : bracketSearch.statement = .ok
      { text := "SELECT * FROM [dbo].[t]]] WHERE [f] LIKE @p0 + '%'"
        parameters := [⟨"@p0", .text "a[%]"⟩]
        result := .multiple } := rfl
  exact tokens_of_other_names hstatement

/-- No constant reaches the text of a query: with other constants of the same kinds
the query renders as well, to the same text, with the same names for the bound values
and with the same result.  Truth values stay as they are, and equal constants have to
stay equal. -/
theorem text_of_other_constants {query : Query} {dialect : Dialect} {statement : Statement}
    {replace : Value → Value} (hkind : ∀ value, (replace value).kind = value.kind)
    (hbool : ∀ holds, replace (.bool holds) = .bool holds)
    (hsame : ∀ a b : Value, a.same b = true → (replace a).same (replace b) = true)
    (hstatement : query.statement dialect = .ok statement) :
    ∃ other : Statement,
      (query.substitute (.ofValues replace)).statement dialect = .ok other ∧
      other.text = statement.text ∧
      other.parameters.map (·.name) = statement.parameters.map (·.name) ∧
      other.result = statement.result := by
  obtain ⟨pieces, values, hpieces, rfl⟩ := statement_eq_ok_iff.mp hstatement
  have hσ : (Substitution.ofValues replace).Lawful := ⟨hkind, hbool, hsame⟩
  obtain ⟨others, hcarries, -, hresult⟩ := statement_substitute hσ hpieces dialect
  refine ⟨_, hresult, ?_, ?_, rfl⟩
  · have hmap : pieces.map (Substitution.ofValues replace).piece = pieces := by
      rw [funext (Substitution.piece_ofValues replace)]
      exact List.map_id pieces
    simp only [hmap]
  · rw [names_namedParameters, names_namedParameters, hcarries.length_eq]

/-- Another text for every text. -/
def otherText : Value → Value
  | .text text => .text (text ++ "'] --")
  | value => value

/-- Another text in a search, with the ends of quoted parts and a comment in it. -/
theorem text_of_other_constants_bracketSearch :
    ∃ other : Statement,
      (bracketSearch.substitute (.ofValues otherText)).statement = .ok other ∧
      other.text = "SELECT * FROM [dbo].[t]]] WHERE [f] LIKE @p0 + '%'" ∧
      other.parameters.map (·.name) = ["@p0"] ∧ other.result = .multiple := by
  have hkind : ∀ value, (otherText value).kind = value.kind := by
    intro value
    cases value <;> rfl
  have hsame : ∀ a b : Value, a.same b = true → (otherText a).same (otherText b) = true := by
    intro a b hab
    cases a <;> cases b <;> simp_all [Value.same, otherText]
  have hstatement : bracketSearch.statement = .ok
      { text := "SELECT * FROM [dbo].[t]]] WHERE [f] LIKE @p0 + '%'"
        parameters := [⟨"@p0", .text "a[%]"⟩]
        result := .multiple } := rfl
  exact text_of_other_constants hkind (fun _ => rfl) hsame hstatement

end Query

end SqlScribe
