import Mathlib.Data.List.Induction
import SqlScribe.Catalog.Restore
import SqlScribe.Proofs.Evaluation.Server

/-!
# Indexes gathered from rows

The rows of an index are gathered wherever they stand.  What is gathered has an index for every
name, in order of first appearance; its columns are those of the rows with the name, in their
order, and the rest is what the first of these rows says.

Main definitions:

- `ExistingIndex.ofGroup` is the index of some rows.

Main results:

- `ExistingIndex.ofRows_eq_map`: the gathered indexes, name by name.
-/

namespace SqlScribe.ExistingIndex

/-! ## The index of some rows -/

/-- The index that rows of one name describe: their columns, and what the first one says. -/
def ofGroup (name : String) (rows : List CatalogIndexKey) : ExistingIndex where
  index :=
    { name := some name
      keys := rows.map keyOfRow
      clustered := rows.head?.any (·.indexType = clusteredType)
      unique := rows.head?.any (·.isUnique) }
  isPrimaryKey := rows.head?.any (·.isPrimaryKey)

/-- The rows with a name. -/
def rowsNamed (name : String) (rows : List CatalogIndexKey) : List CatalogIndexKey :=
  rows.filter (·.name = some name)

/-- The names of rows, in order of first appearance. -/
def namesOf (rows : List CatalogIndexKey) : List String := (rows.filterMap (·.name)).eraseDups

/-- A single row describes the index that it opens. -/
theorem ofGroup_singleton (name : String) (row : CatalogIndexKey) :
    ofGroup name [row] = ofRow name row := rfl

/-- A further row adds its column. -/
theorem ofGroup_concat (name : String) {rows : List CatalogIndexKey} (hrows : rows ≠ [])
    (row : CatalogIndexKey) :
    ofGroup name (rows ++ [row]) =
      { ofGroup name rows with
        index :=
          { (ofGroup name rows).index with
            keys := (ofGroup name rows).index.keys ++ [keyOfRow row] } } := by
  cases rows with
  | nil => contradiction
  | cons first rest => simp [ofGroup]

/-- The names of rows are those that some row has. -/
theorem mem_namesOf {name : String} {rows : List CatalogIndexKey} :
    name ∈ namesOf rows ↔ ∃ row ∈ rows, row.name = some name := by
  simp [namesOf]

/-- Each name of rows has a row. -/
theorem rowsNamed_ne_nil {name : String} {rows : List CatalogIndexKey}
    (hname : name ∈ namesOf rows) : rowsNamed name rows ≠ [] := by
  obtain ⟨row, hrow, hname⟩ := mem_namesOf.mp hname
  exact List.ne_nil_of_mem (List.mem_filter.mpr ⟨hrow, decide_eq_true hname⟩)

/-! ## Adding a row -/

/-- A row of a name that is there already goes to the index of this name. -/
theorem addRow_map_of_mem {group group' : String → ExistingIndex} {name : String}
    {row : CatalogIndexKey} (hgroup : ∀ other, (group other).index.name = some other)
    (hname : group' name =
      { group name with
        index := { (group name).index with keys := (group name).index.keys ++ [keyOfRow row] } })
    (hother : ∀ other, other ≠ name → group' other = group other) {names : List String}
    (hnames : names.Nodup) (hmem : name ∈ names) :
    addRow name row (names.map group) = names.map group' := by
  induction names with
  | nil => cases hmem
  | cons first rest ih =>
    obtain ⟨hfirst, hrest⟩ := List.nodup_cons.mp hnames
    by_cases hsame : first = name
    · subst hsame
      have hothers : rest.map group' = rest.map group :=
        List.map_congr_left fun other hmem => hother other fun heq => hfirst (heq ▸ hmem)
      simp [addRow, hgroup, hname, hothers]
    · have hmem : name ∈ rest := (List.mem_cons.mp hmem).resolve_left (Ne.symm hsame)
      simp [addRow, hgroup, hsame, hother first hsame, ih hrest hmem]

/-- A row of a new name begins an index at the end. -/
theorem addRow_map_of_notMem {group : String → ExistingIndex} {name : String}
    {row : CatalogIndexKey} (hgroup : ∀ other, (group other).index.name = some other)
    {names : List String} (hmem : name ∉ names) :
    addRow name row (names.map group) = names.map group ++ [ofRow name row] := by
  induction names with
  | nil => rfl
  | cons first rest ih =>
    have hfirst : first ≠ name := fun hsame => hmem (hsame ▸ List.mem_cons_self)
    have hrest : name ∉ rest := fun hrest => hmem (List.mem_cons_of_mem first hrest)
    simp [addRow, hgroup, hfirst, ih hrest]

/-! ## All rows -/

/-- A further row without a name changes nothing. -/
theorem ofRows_concat_of_none (rows : List CatalogIndexKey) {row : CatalogIndexKey}
    (hname : row.name = none) : ofRows (rows ++ [row]) = ofRows rows := by
  simp [ofRows, hname]

/-- A further row with a name is added to the indexes of the rows in front of it. -/
theorem ofRows_concat_of_some (rows : List CatalogIndexKey) {row : CatalogIndexKey}
    {name : String} (hname : row.name = some name) :
    ofRows (rows ++ [row]) = addRow name row (ofRows rows) := by
  simp [ofRows, hname]

/-- A further row is the last one of its name, and none of another name. -/
theorem rowsNamed_concat (name : String) (rows : List CatalogIndexKey) (row : CatalogIndexKey) :
    rowsNamed name (rows ++ [row]) =
      if row.name = some name then rowsNamed name rows ++ [row] else rowsNamed name rows := by
  by_cases hname : row.name = some name <;> simp [rowsNamed, hname]

/-- A further row without a name brings no name. -/
theorem namesOf_concat_of_none (rows : List CatalogIndexKey) {row : CatalogIndexKey}
    (hname : row.name = none) : namesOf (rows ++ [row]) = namesOf rows := by
  simp [namesOf, hname]

/-- A further row brings its name, unless a row in front of it has it. -/
theorem namesOf_concat_of_some (rows : List CatalogIndexKey) {row : CatalogIndexKey}
    {name : String} (hname : row.name = some name) :
    namesOf (rows ++ [row]) =
      if name ∈ namesOf rows then namesOf rows else namesOf rows ++ [name] := by
  have hconcat (names : List String) :
      (names ++ [name]).eraseDups =
        if name ∈ names.eraseDups then names.eraseDups else names.eraseDups ++ [name] := by
    by_cases hmem : name ∈ names <;> simp [List.eraseDups_append, List.removeAll,
      List.eraseDups_cons, hmem]
  have hnames : (rows ++ [row]).filterMap (·.name) = rows.filterMap (·.name) ++ [name] := by
    simp [hname]
  rw [namesOf, hnames, hconcat]
  rfl

/-- The indexes that rows describe are those of their names, each of the rows with its name. -/
theorem ofRows_eq_map (rows : List CatalogIndexKey) :
    ofRows rows = (namesOf rows).map fun name => ofGroup name (rowsNamed name rows) := by
  induction rows using List.reverseRecOn with
  | nil => rfl
  | append_singleton rows row ih =>
    have hgroup (other : String) :
        (ofGroup other (rowsNamed other rows)).index.name = some other := rfl
    cases hname : row.name with
    | none =>
      rw [ofRows_concat_of_none rows hname, namesOf_concat_of_none rows hname, ih]
      simp [rowsNamed_concat, hname]
    | some name =>
      have hother (other : String) (hne : other ≠ name) :
          rowsNamed other (rows ++ [row]) = rowsNamed other rows := by
        simp [rowsNamed_concat, hname, Ne.symm hne]
      have hsame : rowsNamed name (rows ++ [row]) = rowsNamed name rows ++ [row] := by
        simp [rowsNamed_concat, hname]
      rw [ofRows_concat_of_some rows hname, namesOf_concat_of_some rows hname, ih]
      split
      · rename_i hmem
        refine addRow_map_of_mem hgroup ?_ (fun other hne => ?_)
          (Sql.nodup_eraseDups _) hmem
        · rw [hsame, ofGroup_concat name (rowsNamed_ne_nil hmem)]
        · rw [hother other hne]
      · rename_i hmem
        have hnone : rowsNamed name rows = [] := by
          refine List.filter_eq_nil_iff.mpr fun other hrow hnamed => hmem ?_
          exact mem_namesOf.mpr ⟨other, hrow, of_decide_eq_true hnamed⟩
        have hothers : ((namesOf rows).map fun other =>
              ofGroup other (rowsNamed other (rows ++ [row]))) =
            (namesOf rows).map fun other => ofGroup other (rowsNamed other rows) :=
          List.map_congr_left fun other hmem' =>
            congrArg (ofGroup other) (hother other fun heq => hmem (heq ▸ hmem'))
        rw [addRow_map_of_notMem hgroup hmem, List.map_append, hothers, List.map_singleton,
          hsame, hnone, List.nil_append, ofGroup_singleton]

/-! ## Rows with a name -/

/-- Rows without a name describe no index. -/
theorem ofRows_filter_isSome (rows : List CatalogIndexKey) :
    ofRows (rows.filter (·.name.isSome)) = ofRows rows := by
  induction rows using List.reverseRecOn with
  | nil => rfl
  | append_singleton rows row ih =>
    cases hname : row.name with
    | none => simp [List.filter_append, hname, ih, ofRows_concat_of_none rows hname]
    | some name =>
      simp [List.filter_append, hname, ofRows_concat_of_some _ hname, ih]

/-- Of rows with a name there is an index with their columns. -/
theorem exists_mem_ofRows {rows : List CatalogIndexKey} {name : String}
    (hname : name ∈ namesOf rows) :
    ∃ existing ∈ ofRows rows, existing.index.name = some name ∧
      existing.index.keys = (rowsNamed name rows).map keyOfRow := by
  rw [ofRows_eq_map]
  exact ⟨_, List.mem_map.mpr ⟨name, hname, rfl⟩, rfl, rfl⟩

/-- Rows that describe the same indexes have the same columns under each name. -/
theorem map_keyOfRow_congr {rows rows' : List CatalogIndexKey} (hsame : ofRows rows = ofRows rows')
    {name : String} (hname : name ∈ namesOf rows) :
    (rowsNamed name rows).map keyOfRow = (rowsNamed name rows').map keyOfRow := by
  obtain ⟨existing, hexisting, hnamed, hkeys⟩ := exists_mem_ofRows hname
  rw [hsame, ofRows_eq_map] at hexisting
  obtain ⟨other, -, rfl⟩ := List.mem_map.mp hexisting
  obtain rfl : other = name := Option.some.inj hnamed
  exact hkeys.symm

end SqlScribe.ExistingIndex
