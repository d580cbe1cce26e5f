import SqlScribe.Query.Select
import SqlScribe.Sql.Printer
import SqlScribe.Statement

/-!
# Statements of queries

Main definitions:

- `Query.statement` renders a query as a statement in a dialect.
- `Query.resultShape` is the shape of what the statement returns.

Main results:

- `Query.pieces_eq_ok` and `Query.statement_eq_ok_iff` say what a rendered text and a
  rendered statement consist of.
-/

namespace SqlScribe.Query

/-- The shape of what a query returns. -/
def resultShape (query : Query) : ResultShape :=
  match query.target with
  | .table _ => .none
  | .caller =>
    if query.count then .scalar
    else if query.first then .single false
    else if query.firstOrNone then .single true
    else .multiple

/-- The text in front of a query whose rows go into a table. -/
def insertPieces (table : Table) (columns : List String) : Sql.Pieces :=
  Sql.fixed "INSERT INTO " ++ Sql.tablePieces table ++
    (if columns.isEmpty then []
      else Sql.fixed " (" ++ Sql.Pieces.join ", " (columns.map fun name => [.name name]) ++
        Sql.fixed ")") ++
    Sql.fixed " "

/-- Renders the text of a query with its target. -/
def pieces (query : Query) : Binding Sql.Pieces :=
  match query.target with
  | .caller => do
    let select ← query.outer
    pure select.pieces
  | .table table =>
    if query.count then Binding.fail .copiedCount
    else
      match query.copiedColumns with
      | .error reason => Binding.fail reason
      | .ok columns => do
        let select ← query.outer
        pure (insertPieces table columns ++ select.pieces)

/-- The pieces of a query come from a SELECT of it, behind a target if it copies. -/
theorem pieces_eq_ok {query : Query} {values values' : List Value} {pieces : Sql.Pieces}
    (hpieces : query.pieces values = .ok (pieces, values')) :
    ∃ select, query.outer values = .ok (select, values') ∧
      (query.target = .caller ∧ pieces = select.pieces ∨
        ∃ table columns, query.target = .table table ∧
          pieces = insertPieces table columns ++ select.pieces) := by
  cases htarget : query.target with
  | caller =>
    simp only [Query.pieces, htarget] at hpieces
    obtain ⟨select, between, hselect, hpure⟩ := Binding.run_seq_eq_ok.mp hpieces
    simp only [Binding.run_pure, Except.ok.injEq, Prod.mk.injEq] at hpure
    obtain ⟨rfl, rfl⟩ := hpure
    exact ⟨select, hselect, .inl ⟨rfl, rfl⟩⟩
  | table table =>
    simp only [Query.pieces, htarget] at hpieces
    cases hcount : query.count with
    | true => simp [hcount] at hpieces
    | false =>
      cases hcolumns : query.copiedColumns with
      | error reason => simp [hcount, hcolumns] at hpieces
      | ok columns =>
        simp only [hcount, hcolumns, Bool.false_eq_true, if_false] at hpieces
        obtain ⟨select, between, hselect, hpure⟩ := Binding.run_seq_eq_ok.mp hpieces
        simp only [Binding.run_pure, Except.ok.injEq, Prod.mk.injEq] at hpure
        obtain ⟨rfl, rfl⟩ := hpure
        exact ⟨select, hselect, .inr ⟨table, columns, rfl, rfl⟩⟩

/-- Bound values under the names that their placeholders have. -/
def namedParameters (dialect : Dialect) (values : List Value) : List Parameter :=
  values.zipIdx.map fun (value, index) => ⟨dialect.placeholder index, value⟩

/-- The names of bound values depend on their number only. -/
theorem names_namedParameters (dialect : Dialect) (values : List Value) :
    (namedParameters dialect values).map (·.name) =
      (List.range values.length).map dialect.placeholder := by
  have hindices : values.zipIdx.map (·.2) = List.range values.length := by
    rw [List.zipIdx_map_snd, List.range_eq_range']
  rw [← hindices, namedParameters, List.map_map, List.map_map]
  rfl

/-- Renders a query as a statement. -/
def statement (query : Query) (dialect : Dialect := .sqlServer) : Except RenderError Statement := do
  let (pieces, values) ← query.pieces []
  pure
    { text := pieces.spell dialect
      parameters := namedParameters dialect values
      result := query.resultShape }

/-- A statement consists of the text of a query and the values bound in it. -/
theorem statement_eq_ok_iff {query : Query} {dialect : Dialect} {statement : Statement} :
    query.statement dialect = .ok statement ↔
      ∃ pieces values, query.pieces [] = .ok (pieces, values) ∧
        statement =
          { text := pieces.spell dialect
            parameters := namedParameters dialect values
            result := query.resultShape } := by
  unfold Query.statement
  cases query.pieces [] with
  | error reason => simp [bind, Except.bind]
  | ok rendered =>
    obtain ⟨pieces, values⟩ := rendered
    simp only [bind, Except.bind, pure, Except.pure, Except.ok.injEq, Prod.mk.injEq]
    constructor
    · rintro rfl
      exact ⟨pieces, values, ⟨rfl, rfl⟩, rfl⟩
    · rintro ⟨_, _, ⟨rfl, rfl⟩, rfl⟩
      rfl

end SqlScribe.Query
