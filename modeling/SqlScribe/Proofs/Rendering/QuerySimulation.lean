import SqlScribe.Proofs.Rendering.Simulation
import SqlScribe.Query.Statement

/-!
# Rendering queries under other names and constants

Main results:

- `Query.simulates_relation`: what a query reads is rendered in the place of what
  the query with other names and constants reads, at every depth.
- `Query.simulates_pieces`: so is the text of the query with its target.
-/

namespace SqlScribe

open Binding Sql

/-! ## Texts of queries -/

namespace Substitution

variable {σ : Substitution}

/-- The parts of a SELECT without names stand for themselves. -/
theorem spells_topPieces (top : Option RowLimit) : σ.Spells (topPieces top) (topPieces top) := by
  cases top with
  | none => rfl
  | some limit =>
    have hunit : σ.Spells (if limit.unit = .percent then fixed "PERCENT " else [])
        (if limit.unit = .percent then fixed "PERCENT " else []) := by
      split <;> rfl
    exact Spells.append rfl hunit

theorem spells_pagingPieces (paging : Option Paging) :
    σ.Spells (pagingPieces paging) (pagingPieces paging) := by
  rcases paging with - | ⟨skip, - | count⟩ <;> rfl

/-- Conditions in the place of others stand there behind WHERE too. -/
theorem spells_wherePieces {condition other : Option Predicate}
    (hcondition : Option.Rel σ.SpellsPredicate condition other) :
    σ.Spells (wherePieces condition) (wherePieces other) := by
  cases hcondition with
  | none => rfl
  | some hpredicate => exact Spells.append rfl hpredicate

/-- A SELECT stands in the place of another one part by part. -/
theorem spells_select {distinct : Bool} {top : Option RowLimit} {columns columns' : SelectList}
    {relation relation' : Relation Select} {condition condition' : Option Predicate}
    {ordering ordering' : Sql.Ordering} {paging : Option Paging}
    (hcolumns : σ.Spells columns.pieces columns'.pieces)
    (hrelation : σ.SpellsRelation relation relation')
    (hcondition : Option.Rel σ.SpellsPredicate condition condition')
    (hordering : σ.Spells ordering.pieces ordering'.pieces) :
    σ.SpellsSelect ⟨distinct, top, columns, relation, condition, ordering, paging⟩
      ⟨distinct, top, columns', relation', condition', ordering', paging⟩ := by
  have hdistinct : σ.Spells (if distinct then fixed "DISTINCT " else [])
      (if distinct then fixed "DISTINCT " else []) := by
    split <;> rfl
  have hhead := ((spells_fixed "SELECT ").append hdistinct).append (spells_topPieces top)
  have hbody := ((hhead.append hcolumns).append (spells_fixed " FROM ")).append hrelation
  exact ((hbody.append (spells_wherePieces hcondition)).append hordering).append
    (spells_pagingPieces paging)

theorem spells_linkPieces {links others : List (Link Select)}
    (hlinks : List.Forall₂ σ.SpellsLink links others) :
    σ.Spells (linkPieces links) (linkPieces others) := by
  induction hlinks with
  | nil => rfl
  | @cons a b _ _ hlink _ ih =>
    obtain ⟨operator, select⟩ := a
    obtain ⟨operator', select'⟩ := b
    obtain ⟨rfl, hselect⟩ := hlink
    exact (Spells.append rfl hselect).append ih

/-- SELECTs in the place of others stand there in a derived table too. -/
theorem spells_derived {first other : Select} {links others : List (Link Select)}
    (hfirst : σ.SpellsSelect first other) (hlinks : List.Forall₂ σ.SpellsLink links others) :
    σ.SpellsRelation (.derived ⟨first, links⟩) (.derived ⟨other, others⟩) :=
  (Spells.append rfl (hfirst.append (spells_linkPieces hlinks))).append rfl

/-- The name of a table is that of the substituted table. -/
theorem spells_table (table : Table) :
    σ.Spells (tablePieces table) (tablePieces (table.substitute σ)) := by
  obtain ⟨name, - | schema⟩ := table <;> rfl

theorem spells_wrap {select other : Select} (hselect : σ.SpellsSelect select other) :
    σ.SpellsSelect select.wrap other.wrap :=
  spells_select rfl (spells_derived hselect .nil) .none rfl

end Substitution

/-! ## Queries over a given source -/

namespace Query

open Substitution

variable {σ : Substitution}

/-- A returned expression is rendered with other names and constants. -/
theorem simulates_renderItem (hσ : σ.Lawful) (item : SelectItem) :
    Simulates σ (fun a b => σ.Spells (itemPieces a) (itemPieces b)) (renderItem item)
      (renderItem (item.substitute σ)) := by
  obtain ⟨expr, label⟩ := item
  apply (Expr.simulates_scalar hσ expr).seq
  intro a b hab
  cases label with
  | none => exact .pure hab
  | some label => exact .pure (hab.append rfl)

/-- An ordering expression is rendered with other names and constants. -/
theorem simulates_renderKey (hσ : σ.Lawful) (key : SortKey) :
    Simulates σ (fun a b => σ.Spells (keyPieces a) (keyPieces b)) (renderKey key)
      (renderKey (key.substitute σ)) := by
  obtain ⟨expr, direction⟩ := key
  apply (Expr.simulates_scalar hσ expr).seq
  intro a b hab
  exact .pure (hab.append rfl)

/-- Texts stand in the place of others with commas between them. -/
theorem spells_commas {α : Type} {text : α → Pieces} {parts others : List α}
    (hparts : List.Forall₂ (fun a b => σ.Spells (text a) (text b)) parts others) :
    σ.Spells (Pieces.join ", " (parts.map text)) (Pieces.join ", " (others.map text)) :=
  .join (List.forall₂_map_left_iff.mpr (List.forall₂_map_right_iff.mpr hparts))

/-- What a query returns is rendered with other names and constants. -/
theorem simulates_selectList (hσ : σ.Lawful) (query : Query) :
    Simulates σ (fun a b => σ.Spells a.pieces b.pieces) query.selectList
      (query.substitute σ).selectList := by
  unfold selectList
  rw [hasItems_substitute, hasDistinct_substitute, substitute_eq]
  split
  · apply (Simulates.mapM (simulates_renderItem hσ) query.items).seq
    intro as bs hitems
    exact .pure (spells_commas hitems)
  · split
    · have hkeys : Simulates σ (List.Forall₂ fun a b => σ.Spells (itemPieces a) (itemPieces b))
          (query.distinct.mapM fun expr => renderItem ⟨expr, none⟩)
          ((query.distinct.map (·.substitute σ)).mapM fun expr => renderItem ⟨expr, none⟩) := by
        refine Simulates.mapM ?_ query.distinct
        intro expr
        exact simulates_renderItem hσ ⟨expr, none⟩
      apply hkeys.seq
      intro as bs hitems
      exact .pure (spells_commas hitems)
    · exact .pure rfl

theorem simulates_condition (hσ : σ.Lawful) (query : Query) :
    Simulates σ (Option.Rel σ.SpellsPredicate) query.condition
      (query.substitute σ).condition := by
  rw [condition, condition, substitute_eq]
  exact Simulates.optional (Condition.simulates_predicate hσ) query.filter

/-- An ordering is rendered with other names and constants. -/
theorem simulates_ordering (hσ : σ.Lawful) (query : Query) :
    Simulates σ (fun a b => σ.Spells a.pieces b.pieces) query.ordering
      (query.substitute σ).ordering := by
  have hshuffle : (query.substitute σ).shuffle = query.shuffle := by rw [substitute_eq]
  have horder : (query.substitute σ).order = query.order.map (·.substitute σ) := by
    rw [substitute_eq]
  unfold ordering
  rw [hshuffle, hasOrder_substitute, horder]
  split
  · exact .pure rfl
  · split
    · apply (Simulates.mapM (simulates_renderKey hσ) query.order).seq
      intro as bs hkeys
      exact .pure (Spells.append rfl (spells_commas hkeys))
    · exact .pure rfl

@[simp] theorem effectiveLimit_substitute (query : Query) :
    (query.substitute σ).effectiveLimit = query.effectiveLimit := by
  simp [effectiveLimit, wantsOne, substitute_eq]

@[simp] theorem paging_substitute (query : Query) :
    (query.substitute σ).paging = query.paging := by
  unfold paging
  rw [hasSkip_substitute, effectiveLimit_substitute, substitute_eq]

/-- The listed rows are rendered with other names and constants if what is read is. -/
theorem simulates_rows (hσ : σ.Lawful) (query : Query)
    {relation relation' : Binding (Relation Select)}
    (hrelation : Simulates σ σ.SpellsRelation relation relation') :
    Simulates σ σ.SpellsSelect (query.rows relation) ((query.substitute σ).rows relation') := by
  unfold rows
  rw [effectiveLimit_substitute, paging_substitute, hasDistinct_substitute, hasSkip_substitute]
  apply (Simulates.check (distinctOrder_substitute hσ)).seq
  intro _ _ _
  apply (simulates_selectList hσ query).seq
  intro a b hcolumns
  apply hrelation.seq
  intro c d hcd
  apply (simulates_condition hσ query).seq
  intro e f hcondition
  apply (simulates_ordering hσ query).seq
  intro g h hordering
  exact .pure (spells_select hcolumns hcd hcondition hordering)

/-- The number of rows is rendered with other names and constants if what is read is. -/
theorem simulates_number (hσ : σ.Lawful) (query : Query)
    {relation relation' : Binding (Relation Select)}
    (hrelation : Simulates σ σ.SpellsRelation relation relation') :
    Simulates σ σ.SpellsSelect (query.number relation)
      ((query.substitute σ).number relation') := by
  unfold number
  rw [hasLimit_substitute, hasSkip_substitute, hasDistinct_substitute, counted_substitute,
    derivable_substitute]
  split
  · apply (simulates_rows hσ query.counted.derivable hrelation).seq
    intro a b hab
    exact .pure (spells_select rfl (spells_derived hab .nil) .none rfl)
  · apply hrelation.seq
    intro a b hab
    apply (simulates_condition hσ query).seq
    intro c d hcondition
    exact .pure (spells_select rfl hab hcondition rfl)

theorem simulates_selectOver (hσ : σ.Lawful) (query : Query)
    {relation relation' : Binding (Relation Select)}
    (hrelation : Simulates σ σ.SpellsRelation relation relation') :
    Simulates σ σ.SpellsSelect (query.selectOver relation)
      ((query.substitute σ).selectOver relation') := by
  have hcount : (query.substitute σ).count = query.count := by rw [substitute_eq]
  unfold selectOver
  rw [hcount]
  split
  · exact simulates_number hσ query hrelation
  · exact simulates_rows hσ query hrelation

theorem simulates_outerOver (hσ : σ.Lawful) (query : Query)
    {relation relation' : Binding (Relation Select)}
    (hrelation : Simulates σ σ.SpellsRelation relation relation') :
    Simulates σ σ.SpellsSelect (query.outerOver relation)
      ((query.substitute σ).outerOver relation') := by
  apply (Simulates.check (consistent_substitute hσ)).seq
  intro _ _ _
  exact simulates_selectOver hσ query hrelation

theorem simulates_innerOver (hσ : σ.Lawful) (query : Query)
    {relation relation' : Binding (Relation Select)}
    (hrelation : Simulates σ σ.SpellsRelation relation relation') :
    Simulates σ σ.SpellsSelect (query.innerOver relation)
      ((query.substitute σ).innerOver relation') := by
  apply (Simulates.check (consistent_substitute hσ)).seq
  intro _ _ _
  rw [derivable_substitute]
  exact simulates_selectOver hσ query.derivable hrelation

theorem simulates_operandOver (hσ : σ.Lawful) (query : Query)
    {relation relation' : Binding (Relation Select)}
    (hrelation : Simulates σ σ.SpellsRelation relation relation') :
    Simulates σ σ.SpellsSelect (query.operandOver relation)
      ((query.substitute σ).operandOver relation') := by
  apply (simulates_innerOver hσ query hrelation).seq
  intro a b hab
  rw [derivable_substitute, isOrdered_substitute]
  apply Simulates.pure
  split
  · exact spells_wrap hab
  · exact hab

/-! ## Sources -/

mutual

/-- What a query reads is rendered in the place of what the other one reads. -/
theorem simulates_relation (hσ : σ.Lawful) : ∀ query : Query,
    Simulates σ σ.SpellsRelation query.relation (query.substitute σ).relation
  | ⟨source, _, _, _, _, _, _, _, _, _, _, _, operations⟩ => by
    apply (simulates_sourceRelation hσ source).seq
    intro a b hbase
    apply (simulates_operationLinks hσ operations).seq
    intro as bs hlinks
    apply Simulates.pure
    cases hlinks with
    | nil => exact hbase
    | cons hlink hmore =>
      exact spells_derived (spells_select rfl hbase .none rfl) (.cons hlink hmore)

/-- A source is rendered with other names and constants. -/
theorem simulates_sourceRelation (hσ : σ.Lawful) : ∀ source : Source Query,
    Simulates σ σ.SpellsRelation (sourceRelation source)
      (sourceRelation (substituteSource σ source))
  | .table table => .pure (spells_table table)
  | .queries [] => .fail
  | .queries [query] => by
    apply (simulates_innerOver hσ query (simulates_relation hσ query)).seq
    intro a b hab
    exact .pure (spells_derived hab .nil)
  | .queries (query :: next :: rest) => by
    apply (simulates_operandOver hσ query (simulates_relation hσ query)).seq
    intro a b hab
    apply (simulates_operands hσ (next :: rest)).seq
    intro as bs hrest
    apply Simulates.pure
    apply spells_derived hab
    rw [List.forall₂_map_left_iff, List.forall₂_map_right_iff]
    exact hrest.imp fun _ _ hselect => ⟨rfl, hselect⟩

theorem simulates_operands (hσ : σ.Lawful) : ∀ queries : List Query,
    Simulates σ (List.Forall₂ σ.SpellsSelect) (operands queries)
      (operands (substituteQueries σ queries))
  | [] => .pure .nil
  | query :: rest => by
    apply (simulates_operandOver hσ query (simulates_relation hσ query)).seq
    intro a b hab
    apply (simulates_operands hσ rest).seq
    intro as bs hrest
    exact .pure (.cons hab hrest)

/-- Set operations are rendered with other names and constants. -/
theorem simulates_operationLinks (hσ : σ.Lawful) : ∀ operations : List (SetOperation Query),
    Simulates σ (List.Forall₂ σ.SpellsLink) (operationLinks operations)
      (operationLinks (substituteOperations σ operations))
  | [] => .pure .nil
  | ⟨operator, query⟩ :: rest => by
    apply (simulates_operandOver hσ query (simulates_relation hσ query)).seq
    intro a b hab
    apply (simulates_operationLinks hσ rest).seq
    intro as bs hrest
    exact .pure (.cons ⟨rfl, hab⟩ hrest)

end

/-- A whole query is rendered in the place of the other one. -/
theorem simulates_outer (hσ : σ.Lawful) (query : Query) :
    Simulates σ σ.SpellsSelect query.outer (query.substitute σ).outer :=
  simulates_outerOver hσ query (simulates_relation hσ query)

/-! ## Targets -/

/-- What stands in front of a copied query is renamed with the table and the columns. -/
theorem spells_insertPieces (table : Table) (columns : List String) :
    σ.Spells (insertPieces table columns)
      (insertPieces (table.substitute σ) (columns.map σ.name)) := by
  have hcolumns : σ.Spells (if columns.isEmpty then []
      else fixed " (" ++ Pieces.join ", " (columns.map fun name => [.name name]) ++ fixed ")")
      (if (columns.map σ.name).isEmpty then []
      else fixed " (" ++ Pieces.join ", " ((columns.map σ.name).map fun name => [.name name]) ++
        fixed ")") := by
    rw [List.isEmpty_map]
    split
    · rfl
    · have hnames : List.Forall₂ (fun a b : String => σ.Spells [.name a] [.name b]) columns
          (columns.map σ.name) := by
        rw [List.forall₂_map_right_iff]
        exact List.forall₂_same.mpr fun _ _ => rfl
      exact ((spells_fixed " (").append (spells_commas hnames)).append (spells_fixed ")")
  exact ((Spells.append (spells_fixed "INSERT INTO ") (spells_table table)).append
    hcolumns).append (spells_fixed " ")

/-- The text of a query with its target is rendered in the place of the other one. -/
theorem simulates_pieces (hσ : σ.Lawful) (query : Query) :
    Simulates σ σ.Spells query.pieces (query.substitute σ).pieces := by
  have hcount : (query.substitute σ).count = query.count := by rw [substitute_eq]
  have htarget : (query.substitute σ).target = query.target.substitute σ := by rw [substitute_eq]
  unfold Query.pieces
  rw [hcount, htarget]
  cases query.target with
  | caller =>
    apply (simulates_outer hσ query).seq
    intro a b hab
    exact .pure hab
  | table table =>
    cases query.count with
    | true => exact .fail
    | false =>
      cases hcolumns : query.copiedColumns with
      | error reason => exact .fail
      | ok columns =>
        rw [copiedColumns_substitute hcolumns]
        apply (simulates_outer hσ query).seq
        intro a b hab
        exact .pure ((spells_insertPieces table columns).append hab)

@[simp] theorem resultShape_substitute (query : Query) :
    (query.substitute σ).resultShape = query.resultShape := by
  cases htarget : query.target <;> simp [resultShape, substitute_eq, htarget, Target.substitute]

end Query

end SqlScribe
