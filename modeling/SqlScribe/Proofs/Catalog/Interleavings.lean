import Mathlib.Data.List.Nodup
import SqlScribe.Proofs.Catalog.IndexGroups

/-!
# Interleaved rows of indexes

Rows of several indexes may come in any interleaving.  What is gathered from them is determined
by the rows of each name, in their order, and by which name appears first; nothing else in the
rows matters.

Main definitions:

- `ExistingIndex.Gathered` says what has to be gathered from rows.
- `ExistingIndex.SameRows` relates two interleavings of the same rows.

Main results:

- `ExistingIndex.gathered_iff`: `ofRows` gathers what has to be gathered, and nothing else is.
- `ExistingIndex.perm_ofRows`: another interleaving changes the order of the indexes only.
- `ExistingIndex.ofRows_gathers`: both, for all rows.
-/

namespace SqlScribe.ExistingIndex

/-! ## What has to be gathered -/

/-- The place of the first row with a name. -/
def firstPlace (rows : List CatalogIndexKey) (name : Option String) : Nat :=
  rows.findIdx (·.name = name)

/-- An index that has the columns of the rows with its name, in the order of the rows, and
otherwise is what the first of these rows says. -/
structure FitsRows (rows : List CatalogIndexKey) (existing : ExistingIndex) : Prop where
  named : existing.index.name.isSome
  keys : existing.index.keys = (rows.filter (·.name = existing.index.name)).map fun row =>
    ⟨row.columnName, if row.isDescending then .descending else .ascending⟩
  flags : ∃ first, rows.find? (·.name = existing.index.name) = some first ∧
    existing.index.clustered = decide (first.indexType = 1) ∧
    existing.index.unique = first.isUnique ∧ existing.isPrimaryKey = first.isPrimaryKey

/-- Indexes for all names of rows, in order of first appearance, each of the rows with its
name. -/
structure Gathered (rows : List CatalogIndexKey) (indexes : List ExistingIndex) : Prop where
  nodup : (indexes.map (·.index.name)).Nodup
  mem_names : ∀ name : String,
    some name ∈ indexes.map (·.index.name) ↔ ∃ row ∈ rows, row.name = some name
  ordered : (indexes.map (·.index.name)).Pairwise fun a b => firstPlace rows a < firstPlace rows b
  fits : ∀ existing ∈ indexes, FitsRows rows existing

/-! ## Order of first appearance -/

/-- Rows at the end leave the places of earlier names as they are. -/
theorem firstPlace_concat_of_mem {rows : List CatalogIndexKey} {name : String}
    (hname : name ∈ namesOf rows) (row : CatalogIndexKey) :
    firstPlace (rows ++ [row]) (some name) = firstPlace rows (some name) := by
  have hlt : firstPlace rows (some name) < rows.length := by
    rw [firstPlace, List.findIdx_lt_length]
    simpa using mem_namesOf.mp hname
  rw [firstPlace, List.findIdx_append, ← firstPlace, if_pos hlt]

/-- The names of rows come in the order in which they appear first. -/
theorem pairwise_namesOf (rows : List CatalogIndexKey) :
    (namesOf rows).Pairwise fun a b => firstPlace rows (some a) < firstPlace rows (some b) := by
  induction rows using List.reverseRecOn with
  | nil => exact List.Pairwise.nil
  | append_singleton rows row ih =>
    have hkept : (namesOf rows).Pairwise fun a b =>
        firstPlace (rows ++ [row]) (some a) < firstPlace (rows ++ [row]) (some b) := by
      refine ih.imp_of_mem fun ha hb hlt => ?_
      rwa [firstPlace_concat_of_mem ha, firstPlace_concat_of_mem hb]
    cases hname : row.name with
    | none => rwa [namesOf_concat_of_none rows hname]
    | some name =>
      rw [namesOf_concat_of_some rows hname]
      by_cases hmem : name ∈ namesOf rows
      · rwa [if_pos hmem]
      · rw [if_neg hmem, List.pairwise_append]
        refine ⟨hkept, List.pairwise_singleton _ _, fun earlier hearlier last hlast => ?_⟩
        obtain rfl := List.mem_singleton.mp hlast
        -- The new name is found in the last row only.
        have hearlierPlace : firstPlace rows (some earlier) < rows.length := by
          rw [firstPlace, List.findIdx_lt_length]
          simpa using mem_namesOf.mp hearlier
        have hlastPlace : ¬ firstPlace rows (some last) < rows.length := by
          rw [firstPlace, List.findIdx_lt_length]
          simpa using fun row hrow hrowName => hmem (mem_namesOf.mpr ⟨row, hrow, hrowName⟩)
        rw [firstPlace_concat_of_mem hearlier, firstPlace.eq_1 (rows ++ [row]),
          List.findIdx_append, ← firstPlace, if_neg hlastPlace]
        omega

/-! ## What is gathered -/

/-- The index of the rows with a name is the only one of this name that fits them. -/
theorem FitsRows.eq_ofGroup {rows : List CatalogIndexKey} {existing : ExistingIndex}
    {name : String} (hfits : FitsRows rows existing) (hname : existing.index.name = some name) :
    existing = ofGroup name (rowsNamed name rows) := by
  obtain ⟨first, hfirst, hclustered, hunique, hprimary⟩ := hfits.flags
  have hkeys := hfits.keys
  rw [hname] at hfirst hkeys
  have hhead : (rowsNamed name rows).head? = some first := by
    rw [rowsNamed, List.head?_filter, hfirst]
  obtain ⟨⟨_, keys, clustered, unique⟩, isPrimaryKey⟩ := existing
  simp only at hname hkeys hclustered hunique hprimary
  subst hname hkeys hclustered hunique hprimary
  simp only [ofGroup, hhead, Option.any_some]
  rfl

/-- The index of the rows of a name fits the rows. -/
theorem fitsRows_ofGroup {rows : List CatalogIndexKey} {name : String}
    (hname : name ∈ namesOf rows) : FitsRows rows (ofGroup name (rowsNamed name rows)) where
  named := rfl
  keys := rfl
  flags := by
    rcases hrows : rowsNamed name rows with _ | ⟨first, rest⟩
    · exact absurd hrows (rowsNamed_ne_nil hname)
    · have hfirst : rows.find? (·.name = some name) = some first := by
        rw [← List.head?_filter, ← rowsNamed, hrows, List.head?_cons]
      exact ⟨first, hfirst, rfl, rfl, rfl⟩

/-- The gathered indexes have the names of the rows, in order of first appearance. -/
theorem map_name_ofRows (rows : List CatalogIndexKey) :
    (ofRows rows).map (·.index.name) = (namesOf rows).map some := by
  rw [ofRows_eq_map, List.map_map]
  rfl

/-- What is gathered of rows is an index for each of their names. -/
theorem gathered_ofRows (rows : List CatalogIndexKey) : Gathered rows (ofRows rows) where
  nodup := by
    rw [map_name_ofRows]
    exact (Sql.nodup_eraseDups _).map fun _ _ hsame => Option.some.inj hsame
  mem_names := by
    intro name
    rw [map_name_ofRows, ← mem_namesOf]
    simp
  ordered := by
    rw [map_name_ofRows, List.pairwise_map]
    exact pairwise_namesOf rows
  fits := by
    rw [ofRows_eq_map, List.forall_mem_map]
    exact fun name hname => fitsRows_ofGroup hname

/-- Indexes are gathered from rows exactly if they are those of `ofRows`. -/
theorem gathered_iff {rows : List CatalogIndexKey} {indexes : List ExistingIndex} :
    Gathered rows indexes ↔ indexes = ofRows rows := by
  constructor
  · intro hgathered
    have hother := gathered_ofRows rows
    have hsome (all : List ExistingIndex) (hall : Gathered rows all) :
        ∀ name ∈ all.map (·.index.name), ∃ text, name = some text := by
      rw [List.forall_mem_map]
      exact fun existing hmem => Option.isSome_iff_exists.mp (hall.fits existing hmem).named
    have hmem : ∀ name, name ∈ indexes.map (·.index.name) ↔
        name ∈ (ofRows rows).map (·.index.name) := by
      intro name
      constructor
      · intro hname
        obtain ⟨text, rfl⟩ := hsome indexes hgathered name hname
        exact (hother.mem_names text).mpr ((hgathered.mem_names text).mp hname)
      · intro hname
        obtain ⟨text, rfl⟩ := hsome _ hother name hname
        exact (hgathered.mem_names text).mpr ((hother.mem_names text).mp hname)
    have hnames : indexes.map (·.index.name) = (ofRows rows).map (·.index.name) := by
      have hperm := (List.perm_ext_iff_of_nodup hgathered.nodup hother.nodup).mpr hmem
      exact hperm.eq_of_pairwise (fun _ _ _ _ hab hba => absurd hba (Nat.lt_asymm hab))
        hgathered.ordered hother.ordered
    -- An index is determined by its name.
    have hbuilt (all : List ExistingIndex) (hall : Gathered rows all) :
        all = (all.map (·.index.name)).map fun name =>
          ofGroup (name.getD "") (rowsNamed (name.getD "") rows) := by
      rw [List.map_map]
      refine (List.map_id all).symm.trans (List.map_congr_left fun existing hmem => ?_)
      obtain ⟨name, hname⟩ := Option.isSome_iff_exists.mp (hall.fits existing hmem).named
      simpa [hname] using (hall.fits existing hmem).eq_ofGroup hname
    rw [hbuilt indexes hgathered, hnames, ← hbuilt _ hother]
  · rintro rfl
    exact gathered_ofRows rows

/-! ## Other interleavings -/

/-- Rows in which those of each name are the same, in the same order. -/
def SameRows (rows rows' : List CatalogIndexKey) : Prop :=
  ∀ name : String, rows'.filter (·.name = some name) = rows.filter (·.name = some name)

/-- Another interleaving of the rows changes the order of the indexes only. -/
theorem perm_ofRows {rows rows' : List CatalogIndexKey} (hsame : SameRows rows rows') :
    (ofRows rows').Perm (ofRows rows) := by
  have hnamed : ∀ name, rowsNamed name rows' = rowsNamed name rows := hsame
  have hmem : ∀ name, name ∈ namesOf rows' ↔ name ∈ namesOf rows := by
    intro name
    have hnonempty (all : List CatalogIndexKey) :
        name ∈ namesOf all ↔ rowsNamed name all ≠ [] := by
      rw [mem_namesOf, rowsNamed, Ne, List.filter_eq_nil_iff]
      simp
    rw [hnonempty, hnonempty, hnamed]
  have hnames : (namesOf rows').Perm (namesOf rows) :=
    (List.perm_ext_iff_of_nodup (Sql.nodup_eraseDups _) (Sql.nodup_eraseDups _)).mpr hmem
  simp only [ofRows_eq_map, hnamed]
  exact hnames.map _

/-- Nothing is lost and nothing invented: `ofRows` gathers just what has to be gathered from
rows, rows without a name do not matter, and another interleaving changes the order of the
indexes only. -/
theorem ofRows_gathers (rows : List CatalogIndexKey) :
    (∀ indexes, Gathered rows indexes ↔ indexes = ofRows rows) ∧
      ofRows (rows.filter (·.name.isSome)) = ofRows rows ∧
      ∀ rows', SameRows rows rows' → (ofRows rows').Perm (ofRows rows) :=
  ⟨fun _ => gathered_iff, ofRows_filter_isSome rows, fun _ => perm_ofRows⟩

/-- A row of an index that is neither unique nor clustered. -/
def plainRow (name column : String) (isDescending : Bool) : CatalogIndexKey :=
  ⟨some name, 2, false, false, column, isDescending⟩

/-- The rows of two indexes in turn, with a row that has no name between them. -/
def turnedRows : List CatalogIndexKey :=
  [plainRow "IX_a" "A" false, plainRow "IX_b" "C" true, ⟨none, 0, false, false, "H", false⟩,
    plainRow "IX_a" "B" true]

/-- The rows of one index behind those of the other. -/
def groupedRows : List CatalogIndexKey :=
  [plainRow "IX_b" "C" true, plainRow "IX_a" "A" false, plainRow "IX_a" "B" true]

/-- The two indexes are gathered from both, in either order. -/
theorem ofRows_gathers_turnedRows :
    SameRows turnedRows groupedRows ∧ (ofRows groupedRows).Perm (ofRows turnedRows) ∧
      ofRows turnedRows =
        [⟨⟨some "IX_a", [⟨"A", .ascending⟩, ⟨"B", .descending⟩], false, false⟩, false⟩,
          ⟨⟨some "IX_b", [⟨"C", .descending⟩], false, false⟩, false⟩] := by
  have hsame : SameRows turnedRows groupedRows := by
    intro name
    by_cases ha : name = "IX_a"
    · subst ha
      decide +kernel
    · by_cases hb : name = "IX_b"
      · subst hb
        decide +kernel
      · simp [turnedRows, groupedRows, plainRow, Ne.symm ha, Ne.symm hb]
  exact ⟨hsame, (ofRows_gathers turnedRows).2.2 groupedRows hsame, by decide +kernel⟩

end SqlScribe.ExistingIndex
