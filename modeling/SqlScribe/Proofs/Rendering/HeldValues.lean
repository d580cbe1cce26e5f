import SqlScribe.Proofs.Rendering.Renumbering

/-!
# Rendering behind values that are already bound

Queries are rendered into other queries, behind the values that are bound by then.  What is
rendered there is what would be rendered alone: it stops with the same reason or binds the same
values, and only the numbers of its placeholders are greater, by the number of values in front.

Main definitions:

- `Binding.Behind` compares a step behind held values with one that runs alone.
- `Fragment` is what can be rendered by itself: a query, a condition, an expression, a list of
  expressions or an ordering.

Main results:

- `Binding.Behind.seq`: steps behind held values are compared one by one.
- `Expr.behind_scalar`, `Condition.behind_predicate` and `Query.behind_outer`: the trees of
  expressions, conditions and queries.
- `Fragment.text_behind`: the text and the values of a fragment behind held values.
-/

namespace SqlScribe

open Sql

/-! ## Steps behind held values -/

namespace Binding

/-- Behind held values the second step does what the first one does alone, with its result
shifted. -/
def Behind {α β : Type} (held : List Value) (shift : α → β) (alone : Binding α)
    (behind : Binding β) : Prop :=
  ∀ values, behind (held ++ values) =
    (alone values).map fun done => (shift done.1, held ++ done.2)

namespace Behind

variable {α β γ δ : Type} {held : List Value} {shift : α → β}

theorem pure {a : α} {b : β} (hshift : b = shift a) :
    Behind held shift (Pure.pure a) (Pure.pure b) := by
  intro values
  subst hshift
  rfl

/-- A step that never succeeds does not succeed behind held values. -/
theorem fail {reason : RenderError} :
    Behind held shift (Binding.fail reason) (Binding.fail reason) :=
  fun _ => rfl

/-- A check is the same behind held values. -/
theorem check (result : Except RenderError Unit) :
    Behind held id (Binding.check result) (Binding.check result) := by
  intro values
  cases result <;> rfl

/-- Two steps are compared one by one. -/
theorem seq {after : γ → δ} {first : Binding α} {second : Binding β} {next : α → Binding γ}
    {other : β → Binding δ} (hfirst : Behind held shift first second)
    (hnext : ∀ a, Behind held after (next a) (other (shift a))) :
    Behind held after (first >>= next) (second >>= other) := by
  intro values
  have hbehind := hfirst values
  cases hdone : first values with
  | error reason =>
    rw [hdone] at hbehind
    rw [run_seq_of_error hdone, run_seq_of_error hbehind]
    rfl
  | ok done =>
    obtain ⟨a, between⟩ := done
    rw [hdone] at hbehind
    rw [run_seq_of_ok hdone, run_seq_of_ok hbehind]
    exact hnext a between

/-- The result of a step is taken further. -/
theorem map {after : γ → δ} {first : Binding α} {second : Binding β} {result : α → γ}
    {other : β → δ} (hfirst : Behind held shift first second)
    (hresult : ∀ a, other (shift a) = after (result a)) :
    Behind held after (first >>= fun a => Pure.pure (result a))
      (second >>= fun b => Pure.pure (other b)) :=
  hfirst.seq fun a => .pure (hresult a)

variable {part : γ → Binding α} {part' : γ → Binding β}

/-- An optional part is rendered behind held values if the part is. -/
theorem optional (hpart : ∀ c, Behind held shift (part c) (part' c)) (c : Option γ) :
    Behind held (Option.map shift) (Binding.optional part c) (Binding.optional part' c) := by
  cases c with
  | none => exact .pure rfl
  | some c => exact (hpart c).map fun _ => rfl

/-- Parts are rendered behind held values one by one. -/
theorem mapM (hpart : ∀ c, Behind held shift (part c) (part' c)) (parts : List γ) :
    Behind held (List.map shift) (parts.mapM part) (parts.mapM part') := by
  induction parts with
  | nil =>
    simp only [List.mapM_nil]
    exact .pure rfl
  | cons c rest ih =>
    simp only [List.mapM_cons]
    exact (hpart c).seq fun a => ih.map fun as => rfl

end Behind

end Binding

open Binding

/-! ## Expressions -/

variable (held : List Value)

/-- The number of a value behind held ones. -/
abbrev Binding.shifted (index : Nat) : Nat := index + held.length

/-- A value is bound under a greater number. -/
theorem Binding.behind_bind (value : Value) :
    Behind held (Scalar.renumber (shifted held)) (bind value) (bind value) := by
  intro values
  simp [Except.map, Scalar.renumber, shifted, Nat.add_comm]

namespace Expr

/-- Escaping goes with another numbering of what is escaped. -/
theorem escapeScalar_renumber (term : Scalar) :
    Pattern.escapeScalar (term.renumber (shifted held)) =
      (Pattern.escapeScalar term).renumber (shifted held) :=
  rfl

/-- A pattern goes with another numbering of its term. -/
theorem inPlace_renumber (place : SearchPlace) (term : Scalar) :
    Pattern.inPlace place (term.renumber (shifted held)) =
      (Pattern.inPlace place term).renumber (shifted held) := by
  cases place <;> rfl

variable {held}

/-- An expression step behind held values. -/
abbrev BehindScalar (held : List Value) (step : Binding Scalar) : Prop :=
  Behind held (Scalar.renumber (shifted held)) step step

/-- A condition step behind held values. -/
abbrev BehindPredicate (held : List Value) (step : Binding Predicate) : Prop :=
  Behind held (Predicate.renumber (shifted held)) step step

/-- A pattern is rendered behind held values if its term is. -/
theorem behind_pattern (term : Expr) {scalar : Binding Scalar} (hterm : BehindScalar held scalar) :
    BehindScalar held (pattern term scalar) := by
  unfold pattern
  split
  · exact behind_bind held _
  · exact hterm.map (escapeScalar_renumber held)

/-- A search is rendered behind held values if its text and its pattern are. -/
theorem behind_searchPredicate (place : SearchPlace) {text pattern : Binding Scalar}
    (htext : BehindScalar held text) (hpattern : BehindScalar held pattern) :
    BehindPredicate held (searchPredicate place text pattern) :=
  htext.seq fun text => hpattern.map fun pattern => by
    rw [inPlace_renumber]
    rfl

/-- A membership is rendered behind held values if its operand and its values are. -/
theorem behind_amongPredicate {operand : Binding Scalar} {values : Binding (List Scalar)}
    (hoperand : BehindScalar held operand)
    (hvalues : Behind held (renumberArguments (shifted held)) values values) (noValues : Bool) :
    BehindPredicate held (amongPredicate operand values noValues) := by
  unfold amongPredicate
  split
  · exact .pure rfl
  · exact hoperand.seq fun operand => hvalues.map fun values => rfl

/-- A function of any number of arguments is rendered behind held values with these. -/
theorem behind_variadic (function : Function) (scalars : List Scalar) :
    Behind held (Scalar.renumber (shifted held)) (variadic function scalars)
      (variadic function (renumberArguments (shifted held) scalars)) := by
  match scalars with
  | [] => exact .fail
  | [scalar] => exact .pure rfl
  | scalar :: next :: rest => exact .pure rfl

mutual

/-- An expression behind held values. -/
theorem behind_scalar : ∀ expr : Expr, BehindScalar held expr.scalar
  | .field name => .pure rfl
  | .value .null => .pure rfl
  | .value (.bool _) | .value (.int _) | .value (.float _) | .value (.text _) | .value (.blob _)
  | .value (.guid _) | .value (.dateTime _) => behind_bind held _
  | .upper text | .lower text | .trim text | .length text =>
    (behind_scalar text).map fun _ => rfl
  | .substring text start count =>
    (behind_scalar text).seq fun text => (behind_scalar start).seq fun start =>
      (behind_scalarOption count).map fun count => by cases count <;> rfl
  | .replace text term replacement =>
    (behind_scalar text).seq fun _ => (behind_scalar term).seq fun _ =>
      (behind_scalar replacement).map fun _ => rfl
  | .indexOf text term => (behind_scalar text).seq fun _ => (behind_scalar term).map fun _ => rfl
  | .concat parts => (behind_scalars parts).seq (behind_variadic .concat)
  | .coalesce parts => (behind_scalars parts).seq (behind_variadic .coalesce)
  | .convert operand type => (behind_scalar operand).map fun _ => rfl
  | .search place text term =>
    (behind_searchPredicate place (behind_scalar text)
      (behind_pattern term (behind_scalar term))).map fun _ => rfl
  | .among operand values =>
    (behind_amongPredicate (behind_scalar operand) (behind_scalars values) _).map fun _ => rfl

/-- An optional expression is rendered behind held values. -/
theorem behind_scalarOption : ∀ expr : Option Expr,
    Behind held (Option.map (Scalar.renumber (shifted held))) (scalarOption expr)
      (scalarOption expr)
  | none => .pure rfl
  | some expr => (behind_scalar expr).map fun _ => rfl

/-- Expressions behind held values, one after the other. -/
theorem behind_scalars : ∀ exprs : List Expr,
    Behind held (renumberArguments (shifted held)) (scalars exprs) (scalars exprs)
  | [] => .pure rfl
  | expr :: rest => (behind_scalar expr).seq fun _ => (behind_scalars rest).map fun _ => rfl

end

/-- An expression that is a condition behind held values. -/
theorem behind_predicate (expr : Expr) : BehindPredicate held expr.predicate := by
  cases expr with
  | field name => exact .pure rfl
  | value constant => cases constant <;> first | exact .fail | exact .pure rfl
  | search place text term =>
    exact behind_searchPredicate place (behind_scalar text)
      (behind_pattern term (behind_scalar term))
  | among operand values =>
    exact behind_amongPredicate (behind_scalar operand) (behind_scalars values) _
  | _ => exact .fail

end Expr

/-! ## Conditions -/

namespace Condition

variable {held : List Value}

/-- A comparison with the missing value is rendered behind held values. -/
theorem behind_nullPredicate (comparison : Comparison) (operand : Expr) :
    Expr.BehindPredicate held (nullPredicate comparison operand) := by
  cases comparison with
  | equal | notEqual => exact operand.behind_scalar.map fun _ => rfl
  | _ => exact .fail

/-- A condition behind held values. -/
theorem behind_predicate : ∀ condition : Condition, Expr.BehindPredicate held condition.predicate
  | .compare comparison left right => by
    unfold predicate
    split
    · exact behind_nullPredicate comparison _
    · exact left.behind_scalar.seq fun _ => right.behind_scalar.map fun _ => rfl
  | .and left right | .or left right =>
    (behind_predicate left).seq fun _ => (behind_predicate right).map fun _ => rfl
  | .not operand => (behind_predicate operand).map fun _ => rfl
  | .holds expr => expr.behind_predicate

end Condition

/-! ## Queries over a given source -/

namespace Query

variable {held : List Value}

/-- A step behind held values that renders a SELECT. -/
abbrev BehindSelect (held : List Value) (step : Binding Select) : Prop :=
  Behind held (Select.renumber (shifted held)) step step

/-- A step behind held values that renders what a SELECT reads. -/
abbrev BehindRelation (held : List Value) (step : Binding (Relation Select)) : Prop :=
  Behind held (renumberRelation (shifted held)) step step

/-- A returned expression is rendered behind held values. -/
theorem behind_renderItem (item : SelectItem) :
    Behind held (renumberFirst (shifted held)) (renderItem item) (renderItem item) :=
  item.expr.behind_scalar.map fun _ => rfl

/-- An ordering expression is rendered behind held values. -/
theorem behind_renderKey (key : SortKey) :
    Behind held (renumberFirst (shifted held)) (renderKey key) (renderKey key) :=
  key.expr.behind_scalar.map fun _ => rfl

/-- What a query returns is rendered behind held values. -/
theorem behind_selectList (query : Query) :
    Behind held (SelectList.renumber (shifted held)) query.selectList query.selectList := by
  unfold selectList
  split
  · exact (Behind.mapM behind_renderItem query.items).map fun _ => rfl
  · split
    · exact (Behind.mapM (fun expr => behind_renderItem ⟨expr, none⟩) query.distinct).map
        fun _ => rfl
    · exact .pure rfl

/-- The condition of a query is rendered behind held values. -/
theorem behind_condition (query : Query) :
    Behind held (Option.map (Predicate.renumber (shifted held))) query.condition
      query.condition :=
  .optional Condition.behind_predicate query.filter

/-- The ordering of a query is rendered behind held values. -/
theorem behind_ordering (query : Query) :
    Behind held (Ordering.renumber (shifted held)) query.ordering query.ordering := by
  unfold ordering
  split
  · exact .pure rfl
  · split
    · exact (Behind.mapM behind_renderKey query.order).map fun _ => rfl
    · exact .pure rfl

section Source

variable (query : Query) {relation : Binding (Relation Select)}

/-- The listed rows of a query are rendered behind held values if what it reads is. -/
theorem behind_rows (hrelation : BehindRelation held relation) :
    BehindSelect held (query.rows relation) :=
  (Behind.check query.distinctOrder).seq fun _ => query.behind_selectList.seq fun _ =>
    hrelation.seq fun _ => query.behind_condition.seq fun _ => query.behind_ordering.map fun _ =>
      rfl

/-- The number of rows of a query is rendered behind held values if what it reads is. -/
theorem behind_number (hrelation : BehindRelation held relation) :
    BehindSelect held (query.number relation) := by
  unfold number
  split
  · exact (query.counted.derivable.behind_rows hrelation).map fun _ => rfl
  · exact hrelation.seq fun _ => query.behind_condition.map fun _ => rfl

theorem behind_selectOver (hrelation : BehindRelation held relation) :
    BehindSelect held (query.selectOver relation) := by
  unfold selectOver
  split
  · exact query.behind_number hrelation
  · exact query.behind_rows hrelation

theorem behind_outerOver (hrelation : BehindRelation held relation) :
    BehindSelect held (query.outerOver relation) :=
  (Behind.check query.consistent).seq fun _ => query.behind_selectOver hrelation

theorem behind_innerOver (hrelation : BehindRelation held relation) :
    BehindSelect held (query.innerOver relation) :=
  (Behind.check query.consistent).seq fun _ => query.derivable.behind_selectOver hrelation

theorem behind_operandOver (hrelation : BehindRelation held relation) :
    BehindSelect held (query.operandOver relation) :=
  (query.behind_innerOver hrelation).map fun _ => by split <;> rfl

end Source

/-! ## Sources -/

/-- A chain goes with another numbering of its parts. -/
theorem chained_renumber (f : Nat → Nat) (base : Relation Select) (links : List (Link Select)) :
    chained (renumberRelation f base) (renumberLinks f links) =
      renumberRelation f (chained base links) := by
  cases links <;> rfl

/-- United SELECTs go with another numbering of each. -/
theorem unionAll_renumber (f : Nat → Nat) (first : Select) (rest : List Select) :
    unionAll (first.renumber f) (rest.map (Select.renumber f)) =
      renumberRelation f (unionAll first rest) := by
  have hlinks : renumberLinks f (rest.map fun select => ⟨.unionAll, select⟩) =
      (rest.map (Select.renumber f)).map fun select => ⟨.unionAll, select⟩ := by
    induction rest with
    | nil => rfl
    | cons select more ih => simp only [List.map_cons, renumberLinks, ih]
  rw [unionAll, unionAll, renumberRelation, hlinks]

mutual

/-- What a query reads behind held values. -/
theorem behind_relation : ∀ query : Query, BehindRelation held query.relation
  | ⟨source, _, _, _, _, _, _, _, _, _, _, _, operations⟩ =>
    (behind_sourceRelation source).seq fun base =>
      (behind_operationLinks operations).map fun links => chained_renumber _ base links

/-- A source is rendered behind held values. -/
theorem behind_sourceRelation : ∀ source : Source Query,
    BehindRelation held (sourceRelation source)
  | .table _ => .pure rfl
  | .queries [] => .fail
  | .queries [query] => (query.behind_innerOver (behind_relation query)).map fun _ => rfl
  | .queries (query :: next :: rest) =>
    (query.behind_operandOver (behind_relation query)).seq fun select =>
      (behind_operands (next :: rest)).map fun rest => unionAll_renumber _ select rest

/-- The queries of a source are rendered behind held values. -/
theorem behind_operands : ∀ queries : List Query,
    Behind held (List.map (Select.renumber (shifted held))) (operands queries) (operands queries)
  | [] => .pure rfl
  | query :: rest =>
    (query.behind_operandOver (behind_relation query)).seq fun _ =>
      (behind_operands rest).map fun _ => rfl

/-- Set operations are rendered behind held values. -/
theorem behind_operationLinks : ∀ operations : List (SetOperation Query),
    Behind held (renumberLinks (shifted held)) (operationLinks operations)
      (operationLinks operations)
  | [] => .pure rfl
  | ⟨_, query⟩ :: rest =>
    (query.behind_operandOver (behind_relation query)).seq fun _ =>
      (behind_operationLinks rest).map fun _ => rfl

end

/-- A whole query behind held values. -/
theorem behind_outer (query : Query) : BehindSelect held query.outer :=
  query.behind_outerOver query.behind_relation

end Query

/-! ## Fragments -/

/-- What can be rendered by itself. -/
inductive Fragment where
  | query (whole : Query)
  | condition (tree : Condition)
  | expr (tree : Expr)
  | exprs (trees : List Expr)
  | ordering (keys : List SortKey)

namespace Fragment

/-- The pieces of a fragment. -/
def pieces : Fragment → Binding Pieces
  | .query whole => do
    let select ← whole.outer
    pure select.pieces
  | .condition tree => do
    let predicate ← tree.predicate
    pure predicate.pieces
  | .expr tree => do
    let scalar ← tree.scalar
    pure scalar.pieces
  | .exprs trees => do
    let scalars ← Expr.scalars trees
    pure (argumentPieces scalars)
  | .ordering keys => do
    let keys ← keys.mapM Query.renderKey
    pure (Pieces.join ", " (keys.map keyPieces))

/-- The text of a fragment behind the values that are bound so far, and the values that are bound
then. -/
def text (fragment : Fragment) (values : List Value) : Except RenderError (String × List Value) :=
  (fragment.pieces values).map fun done => (done.1.spell .sqlServer, done.2)

variable (held : List Value) (fragment : Fragment)

/-- A fragment is rendered behind held values, with its placeholders moved up behind them. -/
theorem behind_pieces :
    Behind held (List.map (Piece.renumber (shifted held))) fragment.pieces fragment.pieces := by
  cases fragment with
  | query whole => exact whole.behind_outer.map fun select => select.pieces_renumber _
  | condition tree => exact tree.behind_predicate.map fun predicate => predicate.pieces_renumber _
  | expr tree => exact tree.behind_scalar.map fun scalar => scalar.pieces_renumber _
  | exprs trees =>
    exact (Expr.behind_scalars trees).map fun scalars => argumentPieces_renumber _ scalars
  | ordering keys =>
    exact (Behind.mapM Query.behind_renderKey keys).map fun keys =>
      commas_renumber _ (keyPieces_renumber _) keys

variable {fragment}

/-- What is printed of a rendered tree is printed of some tree. -/
theorem exists_of_printed {α : Type} {step : Binding α} {print : α → Pieces}
    {values values' : List Value} {pieces : Pieces}
    (hpieces : (step >>= fun result => pure (print result)) values = .ok (pieces, values')) :
    ∃ result, pieces = print result := by
  obtain ⟨result, between, -, hprinted⟩ := run_seq_eq_ok.mp hpieces
  cases hprinted
  exact ⟨result, rfl⟩

/-- The pieces of a fragment are calm. -/
theorem calm_pieces {values values' : List Value} {pieces : Pieces}
    (hpieces : fragment.pieces values = .ok (pieces, values')) : Pieces.Calm false pieces := by
  cases fragment with
  | query whole =>
    obtain ⟨select, rfl⟩ := exists_of_printed hpieces
    exact select.calm_pieces
  | condition tree =>
    obtain ⟨predicate, rfl⟩ := exists_of_printed hpieces
    exact predicate.calm_pieces
  | expr tree =>
    obtain ⟨scalar, rfl⟩ := exists_of_printed hpieces
    exact scalar.calm_pieces
  | exprs trees =>
    obtain ⟨scalars, rfl⟩ := exists_of_printed hpieces
    exact calm_argumentPieces scalars
  | ordering keys =>
    obtain ⟨keys, rfl⟩ := exists_of_printed hpieces
    apply calm_commas
    intro text htext
    obtain ⟨key, -, rfl⟩ := List.mem_map.mp htext
    exact calm_keyPieces key

/-- Behind held values a fragment stops with the same reason as alone, or its text is the one it
has alone, with greater numbers of placeholders, and the values that it binds alone stand behind
the held ones. -/
theorem text_behind (held : List Value) (fragment : Fragment) :
    fragment.text held =
      (fragment.text []).map fun done =>
        (renumberText (· + held.length) done.1, held ++ done.2) := by
  have hbehind := fragment.behind_pieces held []
  rw [List.append_nil] at hbehind
  unfold text
  rw [hbehind]
  cases halone : fragment.pieces [] with
  | error reason => rfl
  | ok done =>
    obtain ⟨pieces, values⟩ := done
    have hspell := Pieces.spell_renumber (shifted held) (calm_pieces halone)
    simp only [Except.map, hspell]

end Fragment

end SqlScribe
