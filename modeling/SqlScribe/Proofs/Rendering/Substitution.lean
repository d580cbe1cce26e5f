import SqlScribe.Query.Select

/-!
# Queries with other names and other constants

A substitution gives every name and every constant of a query another one.  The
checks that a query has to pass compare expressions with each other, so a query
that passes them still does so afterwards, as long as equal constants stay equal.

Main definitions:

- `Substitution` gives the other names and constants; `Substitution.Lawful` says
  that it keeps what rendering looks at.
- `Expr.substitute`, `Condition.substitute` and `Query.substitute` apply one at
  every depth.

Main results:

- `Expr.same_substitute`: equal expressions stay equal.
- `Query.consistent_substitute`, `Query.distinctOrder_substitute` and
  `Query.copiedColumns_substitute`: the checks are still passed.
-/

namespace SqlScribe

/-! ## Substitutions -/

/-- The kind of a value. -/
inductive Value.Kind where
  | null | bool | int | float | text | blob | guid | dateTime
deriving DecidableEq, Repr

/-- The kind that a value is of. -/
def Value.kind : Value → Kind
  | .null => .null
  | .bool _ => .bool
  | .int _ => .int
  | .float _ => .float
  | .text _ => .text
  | .blob _ => .blob
  | .guid _ => .guid
  | .dateTime _ => .dateTime

/-- Another name for every name and another constant for every constant. -/
structure Substitution where
  name : String → String := id
  value : Value → Value := id

/-- A substitution that keeps what rendering looks at in a constant. -/
structure Substitution.Lawful (σ : Substitution) : Prop where
  kind : ∀ value, (σ.value value).kind = value.kind
  bool : ∀ holds, σ.value (.bool holds) = .bool holds
  same : ∀ a b : Value, a.same b = true → (σ.value a).same (σ.value b) = true

namespace Substitution

/-- Other names for the same constants. -/
def ofNames (rename : String → String) : Substitution := { name := rename }

/-- Other constants under the same names. -/
def ofValues (replace : Value → Value) : Substitution := { value := replace }

/-- Other names alone keep whatever rendering looks at in a constant. -/
theorem lawful_ofNames (rename : String → String) : (ofNames rename).Lawful :=
  ⟨fun _ => rfl, fun _ => rfl, fun _ _ hsame => hsame⟩

variable {σ : Substitution}

/-- The missing value stays missing. -/
theorem Lawful.null (hσ : σ.Lawful) : σ.value .null = .null := by
  have hkind := hσ.kind .null
  cases hvalue : σ.value .null <;> simp_all [Value.kind]

/-- A text becomes a text. -/
theorem Lawful.text (hσ : σ.Lawful) (text : String) :
    ∃ other, σ.value (.text text) = .text other := by
  have hkind := hσ.kind (.text text)
  cases hvalue : σ.value (.text text) <;> simp_all [Value.kind]

/-- Every other constant is none of the constants that rendering looks at. -/
theorem Lawful.ne_null (hσ : σ.Lawful) {value : Value} (hvalue : value ≠ .null) :
    σ.value value ≠ .null := by
  intro hnull
  have hkind := hσ.kind value
  rw [hnull] at hkind
  cases value <;> simp_all [Value.kind]

/-- Nothing but a text becomes one. -/
theorem Lawful.ne_text (hσ : σ.Lawful) {value : Value} (hvalue : ∀ text, value ≠ .text text)
    (other : String) : σ.value value ≠ .text other := by
  intro htext
  have hkind := hσ.kind value
  rw [htext] at hkind
  cases value <;> simp_all [Value.kind]

end Substitution

/-! ## Application -/

variable (σ : Substitution)

/-- A table under another name. -/
def Table.substitute (table : Table) : Table := ⟨σ.name table.name, table.schema.map σ.name⟩

namespace Expr

mutual

/-- An expression with other names and constants. -/
def substitute : Expr → Expr
  | .field name => .field (σ.name name)
  | .value constant => .value (σ.value constant)
  | .upper text => .upper text.substitute
  | .lower text => .lower text.substitute
  | .trim text => .trim text.substitute
  | .length text => .length text.substitute
  | .substring text start count =>
    .substring text.substitute start.substitute (substituteOption count)
  | .replace text term replacement =>
    .replace text.substitute term.substitute replacement.substitute
  | .indexOf text term => .indexOf text.substitute term.substitute
  | .concat parts => .concat (substituteList parts)
  | .coalesce parts => .coalesce (substituteList parts)
  | .convert operand type => .convert operand.substitute type
  | .search place text term => .search place text.substitute term.substitute
  | .among operand values => .among operand.substitute (substituteList values)

/-- The same for an expression that may be absent. -/
def substituteOption : Option Expr → Option Expr
  | none => none
  | some expr => some expr.substitute

/-- The same for a list of expressions. -/
def substituteList : List Expr → List Expr
  | [] => []
  | expr :: rest => expr.substitute :: substituteList rest

end

end Expr

/-- A condition with other names and constants. -/
def Condition.substitute : Condition → Condition
  | .compare comparison left right =>
    .compare comparison (left.substitute σ) (right.substitute σ)
  | .and left right => .and left.substitute right.substitute
  | .or left right => .or left.substitute right.substitute
  | .not operand => .not operand.substitute
  | .holds expr => .holds (expr.substitute σ)

/-- A returned expression with other names and constants. -/
def SelectItem.substitute (item : SelectItem) : SelectItem :=
  ⟨item.expr.substitute σ, item.label.map σ.name⟩

/-- An ordering expression with other names and constants. -/
def SortKey.substitute (key : SortKey) : SortKey := ⟨key.expr.substitute σ, key.direction⟩

/-- A target under another name. -/
def Target.substitute : Target → Target
  | .caller => .caller
  | .table copied => .table (copied.substitute σ)

namespace Query

mutual

/-- A query with other names and constants at every depth. -/
def substitute : Query → Query
  | ⟨source, target, limit, skip, first, firstOrNone, count, shuffle, items, filter, distinct,
      order, operations⟩ =>
    ⟨substituteSource source, target.substitute σ, limit, skip, first, firstOrNone, count, shuffle,
      items.map (·.substitute σ), filter.map (·.substitute σ), distinct.map (·.substitute σ),
      order.map (·.substitute σ), substituteOperations operations⟩

/-- The same for a source. -/
def substituteSource : Source Query → Source Query
  | .table table => .table (table.substitute σ)
  | .queries queries => .queries (substituteQueries queries)

/-- The same for a list of queries. -/
def substituteQueries : List Query → List Query
  | [] => []
  | query :: rest => query.substitute :: substituteQueries rest

/-- The same for set operations. -/
def substituteOperations : List (SetOperation Query) → List (SetOperation Query)
  | [] => []
  | ⟨operator, query⟩ :: rest => ⟨operator, query.substitute⟩ :: substituteOperations rest

end

end Query

/-! ## Lists -/

variable {σ}

theorem Expr.substituteList_eq_map (exprs : List Expr) :
    substituteList σ exprs = exprs.map (·.substitute σ) := by
  induction exprs with
  | nil => rfl
  | cons expr rest ih => simp only [substituteList, List.map_cons, ih]

@[simp] theorem Expr.isEmpty_substituteList (exprs : List Expr) :
    (substituteList σ exprs).isEmpty = exprs.isEmpty := by
  cases exprs <;> rfl

namespace Query

theorem substituteQueries_eq_map (queries : List Query) :
    substituteQueries σ queries = queries.map (·.substitute σ) := by
  induction queries with
  | nil => rfl
  | cons query rest ih => simp only [substituteQueries, List.map_cons, ih]

end Query

/-! ## Equality of expressions -/

namespace Expr

mutual

/-- Equal expressions stay equal. -/
theorem same_substitute (hσ : σ.Lawful) :
    ∀ a b : Expr, a.same b = true → (a.substitute σ).same (b.substitute σ) = true
  | .field a, b, h => by
    cases b <;> simp_all [same, substitute]
  | .value a, b, h => by
    cases b <;> simp_all [same, substitute, hσ.same]
  | .upper a, b, h | .lower a, b, h | .trim a, b, h | .length a, b, h => by
    cases b <;> simp_all [same, substitute, same_substitute hσ a]
  | .substring a s l, b, h => by
    cases b <;> simp_all [same, substitute, same_substitute hσ a, same_substitute hσ s,
      sameOption_substitute hσ l]
  | .replace a s r, b, h => by
    cases b <;> simp_all [same, substitute, same_substitute hσ a, same_substitute hσ s,
      same_substitute hσ r]
  | .indexOf a s, b, h => by
    cases b <;> simp_all [same, substitute, same_substitute hσ a, same_substitute hσ s]
  | .concat a, b, h | .coalesce a, b, h => by
    cases b <;> simp_all [same, substitute, sameList_substitute hσ a]
  | .convert a t, b, h => by
    cases b <;> simp_all [same, substitute, same_substitute hσ a]
  | .search p a s, b, h => by
    cases b <;> simp_all [same, substitute, same_substitute hσ a, same_substitute hσ s]
  | .among a s, b, h => by
    cases b <;> simp_all [same, substitute, same_substitute hσ a, sameList_substitute hσ s]

theorem sameOption_substitute (hσ : σ.Lawful) :
    ∀ a b : Option Expr, sameOption a b = true →
      sameOption (substituteOption σ a) (substituteOption σ b) = true
  | none, none, _ => rfl
  | some a, some b, h => same_substitute hσ a b h
  | none, some _, h | some _, none, h => by simp [sameOption] at h

theorem sameList_substitute (hσ : σ.Lawful) :
    ∀ a b : List Expr, sameList a b = true →
      sameList (substituteList σ a) (substituteList σ b) = true
  | [], [], _ => rfl
  | a :: as, b :: bs, h => by
    simp only [sameList, Bool.and_eq_true] at h
    simp only [substituteList, sameList, Bool.and_eq_true]
    exact ⟨same_substitute hσ a b h.1, sameList_substitute hσ as bs h.2⟩
  | [], _ :: _, h | _ :: _, [], h => by simp [sameList] at h

end

end Expr

/-! ## Parts of a query -/

namespace Query

variable (σ) (query : Query)

/-- A substitution changes the parts with names and constants in them. -/
theorem substitute_eq :
    query.substitute σ =
      { query with
        source := substituteSource σ query.source
        target := query.target.substitute σ
        items := query.items.map (·.substitute σ)
        filter := query.filter.map (·.substitute σ)
        distinct := query.distinct.map (·.substitute σ)
        order := query.order.map (·.substitute σ)
        operations := substituteOperations σ query.operations } := by
  cases query
  rfl

@[simp] theorem hasLimit_substitute : (query.substitute σ).hasLimit = query.hasLimit := by
  simp [substitute_eq, hasLimit]

@[simp] theorem hasSkip_substitute : (query.substitute σ).hasSkip = query.hasSkip := by
  simp [substitute_eq, hasSkip]

@[simp] theorem hasPercent_substitute :
    (query.substitute σ).hasPercent = query.hasPercent := by
  simp [substitute_eq, hasPercent]

@[simp] theorem hasItems_substitute : (query.substitute σ).hasItems = query.hasItems := by
  simp [substitute_eq, hasItems]

@[simp] theorem hasDistinct_substitute :
    (query.substitute σ).hasDistinct = query.hasDistinct := by
  simp [substitute_eq, hasDistinct]

@[simp] theorem hasOrder_substitute : (query.substitute σ).hasOrder = query.hasOrder := by
  simp [substitute_eq, hasOrder]

@[simp] theorem isLimited_substitute : (query.substitute σ).isLimited = query.isLimited := by
  simp [isLimited, wantsOne, substitute_eq, hasLimit, hasSkip]

@[simp] theorem isOrdered_substitute : (query.substitute σ).isOrdered = query.isOrdered := by
  simp [isOrdered, substitute_eq, hasOrder]

@[simp] theorem isCopy_substitute : (query.substitute σ).isCopy = query.isCopy := by
  cases htarget : query.target <;> simp [isCopy, substitute_eq, htarget, Target.substitute]

/-- Making a query derivable goes with other names and constants. -/
theorem derivable_substitute :
    (query.substitute σ).derivable = query.derivable.substitute σ := by
  unfold derivable
  rw [isLimited_substitute]
  split
  · rfl
  · simp [substitute_eq]

theorem counted_substitute : (query.substitute σ).counted = query.counted.substitute σ := by
  simp [counted, substitute_eq]

/-! ## Checks -/

variable {σ query}

/-- A consistent source stays consistent. -/
theorem consistentSource_substitute (hok : query.consistentSource = .ok ()) :
    (query.substitute σ).consistentSource = .ok () := by
  cases hsource : query.source with
  | table table => simp [consistentSource, substitute_eq, hsource, substituteSource]
  | queries queries =>
    have hcopy : (queries.map (·.substitute σ)).any isCopy = queries.any isCopy := by
      simp [List.any_map, Function.comp_def]
    have hother : (query.substitute σ).source = .queries (queries.map (·.substitute σ)) := by
      rw [substitute_eq, ← substituteQueries_eq_map, hsource, substituteSource]
    simp only [consistentSource, hsource] at hok
    simp only [consistentSource, hother, List.isEmpty_map, hcopy]
    exact hok

/-- A query that is consistent stays so. -/
theorem consistent_substitute (hσ : σ.Lawful) (hok : query.consistent = .ok ()) :
    (query.substitute σ).consistent = .ok () := by
  rw [consistent_eq_ok_iff] at hok ⊢
  obtain ⟨hskip, hlimit, hfirst, hshuffle, hdistinct, hsource⟩ := hok
  have hitems : (query.substitute σ).items.map (·.expr) =
      Expr.substituteList σ (query.items.map (·.expr)) := by
    simp [substitute_eq, Expr.substituteList_eq_map, Function.comp_def, SelectItem.substitute]
  have hkeys : (query.substitute σ).distinct = Expr.substituteList σ query.distinct := by
    simp [substitute_eq, Expr.substituteList_eq_map]
  refine ⟨by simpa using hskip, by simpa [substitute_eq] using hlimit,
    by simpa [substitute_eq] using hfirst, ?_, ?_, consistentSource_substitute hsource⟩
  · rw [hasOrder_substitute]
    simpa [substitute_eq] using hshuffle
  · rw [hasDistinct_substitute, hasItems_substitute, hitems, hkeys]
    intro hhasDistinct hhasItems
    exact Expr.sameList_substitute hσ _ _ (hdistinct hhasDistinct hhasItems)

/-- Rows ordered by what makes them distinct stay so. -/
theorem distinctOrder_substitute (hσ : σ.Lawful) (hok : query.distinctOrder = .ok ()) :
    (query.substitute σ).distinctOrder = .ok () := by
  rw [distinctOrder_eq_ok_iff] at hok ⊢
  rw [hasDistinct_substitute]
  intro hdistinct
  obtain ⟨hshuffle, horder⟩ := hok hdistinct
  refine ⟨by simpa [substitute_eq] using hshuffle, ?_⟩
  intro key hkey
  rw [substitute_eq] at hkey
  obtain ⟨former, hformer, rfl⟩ := List.mem_map.mp hkey
  obtain ⟨expr, hexpr, hsame⟩ := List.any_eq_true.mp (horder former hformer)
  rw [substitute_eq, List.any_eq_true]
  refine ⟨expr.substitute σ, List.mem_map_of_mem hexpr, ?_⟩
  exact Expr.same_substitute hσ expr former.expr hsame

/-- A list whose elements all have a result still has one for each of them. -/
theorem mapM_substitute {α β : Type} {check : α → Except RenderError β} {other : α → α}
    {result : β → β} (hcheck : ∀ a b, check a = .ok b → check (other a) = .ok (result b))
    {list : List α} {results : List β} (hok : list.mapM check = .ok results) :
    (list.map other).mapM check = .ok (results.map result) := by
  induction list generalizing results with
  | nil =>
    simp only [List.mapM_nil, pure, Except.pure, Except.ok.injEq] at hok
    subst hok
    rfl
  | cons a rest ih =>
    rw [List.mapM_cons] at hok
    cases ha : check a with
    | error reason => simp [ha, bind, Except.bind] at hok
    | ok b =>
      cases hrest : rest.mapM check with
      | error reason => simp [ha, hrest, bind, Except.bind] at hok
      | ok more =>
        simp only [ha, hrest, bind, Except.bind, pure, Except.pure, Except.ok.injEq] at hok
        subst hok
        simp [List.mapM_cons, hcheck a b ha, ih hrest, bind, Except.bind, pure, Except.pure]

/-- A copied item has its name renamed. -/
theorem copiedItem_substitute {item : SelectItem} {column : String}
    (hok : copiedItem item = .ok column) :
    copiedItem (item.substitute σ) = .ok (σ.name column) := by
  obtain ⟨expr, label⟩ := item
  cases label with
  | some label =>
    simp_all [copiedItem, SelectItem.substitute, SelectItem.outputName?]
  | none =>
    cases expr <;>
      simp_all [copiedItem, SelectItem.substitute, SelectItem.outputName?, Expr.substitute]

theorem copiedKey_substitute {key : Expr} {column : String} (hok : copiedKey key = .ok column) :
    copiedKey (key.substitute σ) = .ok (σ.name column) := by
  cases key <;> simp_all [copiedKey, Expr.substitute]

/-- A copy fills the columns of the other names. -/
theorem copiedColumns_substitute {columns : List String}
    (hok : query.copiedColumns = .ok columns) :
    (query.substitute σ).copiedColumns = .ok (columns.map σ.name) := by
  unfold copiedColumns at hok ⊢
  rw [hasItems_substitute, hasDistinct_substitute]
  split at hok
  · rename_i hitems
    rw [if_pos hitems, substitute_eq]
    have hitem : ∀ item column, copiedItem item = .ok column →
        copiedItem (item.substitute σ) = .ok (σ.name column) :=
      fun _ _ => copiedItem_substitute
    exact mapM_substitute hitem hok
  · rename_i hitems
    rw [if_neg hitems]
    split at hok
    · rename_i hdistinct
      rw [if_pos hdistinct, substitute_eq]
      have hkey : ∀ key column, copiedKey key = .ok column →
          copiedKey (key.substitute σ) = .ok (σ.name column) :=
        fun _ _ => copiedKey_substitute
      exact mapM_substitute hkey hok
    · rename_i hdistinct
      simp only [Except.ok.injEq] at hok
      rw [if_neg hdistinct, ← hok]
      rfl

end Query

end SqlScribe
