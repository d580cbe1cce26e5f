import SqlScribe.Proofs.Migration.StoredTable
import SqlScribe.Proofs.Text.Recasing

/-!
# Existing names in other cases

The server may report the names of what exists in other cases than those in which it is desired.
The case of ASCII letters in existing names decides nothing in a migration; it is only seen in the
names of what is dropped.

Main definitions:

- `Column.Recased`, `Index.Recased` and `ExistingIndex.Recased` relate columns and indexes whose
  names differ in the case of ASCII letters.
- `Migration.Recased` relates migrations that differ only in the case of dropped names.

Main results:

- `Index.Recased.nameFor`: the name of an index changes with those of its columns.
- `Migration.isNamed_recased` and the lemmas beside it: no comparison sees the change.
- `Migration.between_recased`: what a migration does if existing names change their case.
-/

namespace SqlScribe

open List (Forall₂)

/-! ## Columns and indexes -/

/-- A column with its name in another case. -/
structure Column.Recased (column other : Column) : Prop where
  name : Text.Recased column.name other.name
  rest : other = { column with name := other.name }

/-- A column of an index with its name in another case. -/
structure IndexKey.Recased (key other : IndexKey) : Prop where
  name : Text.Recased key.name other.name
  direction : other.direction = key.direction

/-- An index with its name and those of its columns in other cases. -/
structure Index.Recased (index other : Index) : Prop where
  name : Option.Rel Text.Recased index.name other.name
  keys : Forall₂ IndexKey.Recased index.keys other.keys
  clustered : other.clustered = index.clustered
  unique : other.unique = index.unique

/-- An existing index with its names in other cases. -/
structure ExistingIndex.Recased (existing other : ExistingIndex) : Prop where
  index : Index.Recased existing.index other.index
  isPrimaryKey : other.isPrimaryKey = existing.isPrimaryKey

/-- The name of an index on a table changes with its own name or those of its columns. -/
theorem Index.Recased.nameFor {index other : Index} (hindex : index.Recased other)
    (table : String) : Text.Recased (index.nameFor table) (other.nameFor table) := by
  have hderived : Text.Recased
      (index.keys.foldl (fun name key => name ++ "_" ++ key.name) ("IX_" ++ table))
      (other.keys.foldl (fun name key => name ++ "_" ++ key.name) ("IX_" ++ table)) := by
    refine List.rel_foldl ?_ (Text.Recased.refl _) hindex.keys
    intro name name' hname key key' hkey
    exact (hname.append (.refl "_")).append hkey.name
  have hname := hindex.name
  rw [Index.nameFor, Index.nameFor]
  generalize index.name = name, other.name = name' at hname ⊢
  cases hname with
  | none => exact hderived
  | some hname => exact hname

namespace Migration

/-! ## Comparisons -/

/-- The first element that meets a condition is found at the same place in related lists. -/
theorem rel_find? {α β : Type} {related : α → β → Prop} {p : α → Bool} {q : β → Bool}
    {xs : List α} {ys : List β} (hlists : Forall₂ related xs ys)
    (hconditions : ∀ x y, related x y → q y = p x) :
    Option.Rel related (xs.find? p) (ys.find? q) := by
  induction hlists with
  | nil => exact .none
  | @cons x y xs ys hxy _ ih =>
    rw [List.find?_cons, List.find?_cons, hconditions x y hxy]
    cases p x with
    | true => exact .some hxy
    | false => exact ih

/-- A column is found under the same name if the case of names changes. -/
theorem findColumn?_recased {columns columns' : List Column}
    (hcolumns : Forall₂ Column.Recased columns columns') (name : String) :
    Option.Rel Column.Recased (findColumn? columns name) (findColumn? columns' name) :=
  rel_find? hcolumns fun _ _ hcolumn => hcolumn.name.equals_left name

/-- The name of an existing column is not compared further. -/
theorem columnChanges_recased {existing other : Column} (hcolumn : existing.Recased other)
    (desired : Column) : columnChanges other desired = columnChanges existing desired := by
  rw [hcolumn.rest]
  rfl

/-- A name denotes an index whose name changes its case. -/
theorem isNamed_recased {index other : Index} (hindex : index.Recased other) (table : Table)
    (name : String) : isNamed table name other = isNamed table name index :=
  (hindex.nameFor table.name).equals_left name

/-- An index whose name changes its case denotes what it denoted before. -/
theorem isNamed_nameFor_recased {index other : Index} (hindex : index.Recased other)
    (table : Table) (desired : Index) :
    isNamed table (other.nameFor table.name) desired =
      isNamed table (index.nameFor table.name) desired :=
  (hindex.nameFor table.name).equals_right _

/-- Related entries beside the same ones pass conditions that do not tell them apart. -/
theorem all_zip_eq {α β : Type} {related : α → α → Prop} {same : α × β → Bool}
    {list list' : List α} (hlist : Forall₂ related list list')
    (hsame : ∀ a a', related a a' → ∀ b, same (a', b) = same (a, b)) (others : List β) :
    (list'.zip others).all same = (list.zip others).all same := by
  induction hlist generalizing others with
  | nil => rfl
  | cons hfirst _ ih =>
    cases others with
    | nil => rfl
    | cons next rest =>
      rw [List.zip_cons_cons, List.zip_cons_cons, List.all_cons, List.all_cons, ih,
        hsame _ _ hfirst]

/-- The definition of an index is the same in another case. -/
theorem sameDefinition_recased {index other : Index} (hindex : index.Recased other)
    (desired : Index) : sameDefinition other desired = sameDefinition index desired := by
  have hkey (key key' : IndexKey) (hkey : key.Recased key') (wanted : IndexKey) :
      sameKey key' wanted = sameKey key wanted := by
    rw [sameKey, sameKey, hkey.name.equals_left, hkey.direction]
  rw [sameDefinition, sameDefinition, hindex.clustered, hindex.unique, hindex.keys.length_eq,
    all_zip_eq hindex.keys hkey]

section Indexes

variable {indexes indexes' : List Index}

/-- An index is found under a name in whatever case it exists. -/
theorem findIndex_recased (hindexes : Forall₂ Index.Recased indexes indexes') (table : Table)
    (name : String) :
    Option.Rel Index.Recased (indexes.find? (isNamed table name))
      (indexes'.find? (isNamed table name)) :=
  rel_find? hindexes fun _ _ hindex => isNamed_recased hindex table name

/-- An index is missing among others or not, whatever the case of their names is. -/
theorem isMissing_recased (hindexes : Forall₂ Index.Recased indexes indexes') (table : Table)
    (desired : Index) : isMissing table indexes' desired = isMissing table indexes desired := by
  have hfound := findIndex_recased hindexes table (desired.nameFor table.name)
  unfold isMissing
  generalize indexes.find? _ = found, indexes'.find? _ = found' at hfound ⊢
  cases hfound with
  | none => rfl
  | some hindex => exact congrArg not (sameDefinition_recased hindex desired)

/-- An index stands in the way among others or not, whatever the case of their names is. -/
theorem isInTheWay_recased (hindexes : Forall₂ Index.Recased indexes indexes') (table : Table)
    (desired : Index) : isInTheWay table indexes' desired = isInTheWay table indexes desired := by
  have hfound := findIndex_recased hindexes table (desired.nameFor table.name)
  unfold isInTheWay
  generalize indexes.find? _ = found, indexes'.find? _ = found' at hfound ⊢
  cases hfound with
  | none => rfl
  | some hindex => exact congrArg not (sameDefinition_recased hindex desired)

end Indexes

/-! ## Migrations -/

/-- A migration with the names of what it drops in other cases. -/
structure Recased (migration other : Migration) : Prop where
  addColumns : other.addColumns = migration.addColumns
  dropColumns : Forall₂ Text.Recased migration.dropColumns other.dropColumns
  addIndexes : other.addIndexes = migration.addIndexes
  dropIndexes : Forall₂ Text.Recased migration.dropIndexes other.dropIndexes
  warnings : other.warnings = migration.warnings

/-- Lists that are related item by item are both empty or both not. -/
theorem isEmpty_of_forall₂ {α β : Type} {related : α → β → Prop} {xs : List α} {ys : List β}
    (hlists : Forall₂ related xs ys) : ys.isEmpty = xs.isEmpty := by
  cases hlists <;> rfl

/-- A migration is as empty as the one with names in other cases. -/
theorem Recased.isEmpty_eq {migration other : Migration} (hsame : migration.Recased other) :
    other.isEmpty = migration.isEmpty := by
  rw [isEmpty, isEmpty, hsame.addColumns, hsame.addIndexes, hsame.warnings,
    isEmpty_of_forall₂ hsame.dropColumns, isEmpty_of_forall₂ hsame.dropIndexes]

section Between

variable {columns columns' : List Column} {indexes indexes' : List ExistingIndex}

/-- The indexes besides those of the primary key change their names alike. -/
theorem otherIndexes_recased (hindexes : Forall₂ ExistingIndex.Recased indexes indexes') :
    Forall₂ Index.Recased ((indexes.filter (!·.isPrimaryKey)).map (·.index))
      ((indexes'.filter (!·.isPrimaryKey)).map (·.index)) := by
  refine List.rel_map (fun _ _ hexisting => hexisting.index) (List.rel_filter ?_ hindexes)
  intro existing other hexisting
  simp only [hexisting.isPrimaryKey]

/-- The names of columns that are not desired change their case with the columns. -/
theorem dropColumns_recased (hcolumns : Forall₂ Column.Recased columns columns')
    (desired : List Column) :
    Forall₂ Text.Recased
      ((columns.filter fun existing => (findColumn? desired existing.name).isNone).map (·.name))
      ((columns'.filter fun existing =>
        (findColumn? desired existing.name).isNone).map (·.name)) := by
  refine List.rel_map (fun _ _ hcolumn => hcolumn.name) (List.rel_filter ?_ hcolumns)
  intro existing other hcolumn
  have hsame : findColumn? desired other.name = findColumn? desired existing.name := by
    simp only [findColumn?, hcolumn.name.equals_right]
  simp only [hsame]

/-- Existing names in other cases make no other migration than one in which dropped names have
these cases. -/
theorem recased_between (table : Table) (desiredColumns : List Column)
    (desiredIndexes : List Index) (hcolumns : Forall₂ Column.Recased columns columns')
    (hindexes : Forall₂ ExistingIndex.Recased indexes indexes') :
    (between table columns indexes desiredColumns desiredIndexes).Recased
      (between table columns' indexes' desiredColumns desiredIndexes) where
  addColumns := by
    refine List.filter_congr fun desired _ => ?_
    have hfound := findColumn?_recased hcolumns desired.name
    generalize findColumn? columns _ = found, findColumn? columns' _ = found' at hfound ⊢
    cases hfound <;> rfl
  dropColumns := dropColumns_recased hcolumns desiredColumns
  addIndexes := List.filter_congr fun desired _ =>
    isMissing_recased (otherIndexes_recased hindexes) table desired
  dropIndexes := by
    have hway : desiredIndexes.filter (isInTheWay table _) =
        desiredIndexes.filter (isInTheWay table _) := List.filter_congr fun desired _ =>
      isInTheWay_recased (otherIndexes_recased hindexes) table desired
    refine List.rel_append ?_ (List.rel_map (fun _ _ hindex => hindex.nameFor table.name)
      (List.rel_filter ?_ (otherIndexes_recased hindexes)))
    · rw [hway]
      exact List.forall₂_same.mpr fun name _ => .refl name
    · intro index other hindex
      simp only [funext (isNamed_nameFor_recased hindex table)]
  warnings := by
    refine List.flatMap_congr fun desired _ => ?_
    have hfound := findColumn?_recased hcolumns desired.name
    generalize findColumn? columns _ = found, findColumn? columns' _ = found' at hfound ⊢
    cases hfound with
    | none => rfl
    | some hcolumn => exact columnChanges_recased hcolumn desired

/-- A migration does not see the case of ASCII letters in existing names: in other cases it adds
the same columns and indexes, reports the same changes and drops the same under names in these
cases.  So there is nothing to do in one case exactly if there is nothing to do in the other. -/
theorem between_recased (table : Table) (desiredColumns : List Column)
    (desiredIndexes : List Index) (hcolumns : Forall₂ Column.Recased columns columns')
    (hindexes : Forall₂ ExistingIndex.Recased indexes indexes') :
    (between table columns indexes desiredColumns desiredIndexes).Recased
        (between table columns' indexes' desiredColumns desiredIndexes) ∧
      (between table columns' indexes' desiredColumns desiredIndexes).isEmpty =
        (between table columns indexes desiredColumns desiredIndexes).isEmpty := by
  have hsame := recased_between table desiredColumns desiredIndexes hcolumns hindexes
  exact ⟨hsame, hsame.isEmpty_eq⟩

/-- A stored column that holds whole numbers. -/
def numberColumn (name : String) : Column := { name, kind := .stored (.sql .int) }

/-- An index of one column. -/
def singleIndex (name : Option String) (column : String) : ExistingIndex :=
  ⟨⟨name, [⟨column, .ascending⟩], false, false⟩, false⟩

/-- A column and an index of a desired name are known in other cases; others are dropped, an index
without a name of its own under that of its column. -/
theorem between_recased_capitals :
    (Forall₂ Column.Recased [numberColumn "Id", numberColumn "old"]
        [numberColumn "iD", numberColumn "OLD"] ∧
      Forall₂ ExistingIndex.Recased [singleIndex (some "IX_a") "Id", singleIndex none "oldé"]
        [singleIndex (some "ix_A") "ID", singleIndex none "Oldé"]) ∧
      (between ⟨"t", none⟩ [numberColumn "Id", numberColumn "old"]
        [singleIndex (some "IX_a") "Id", singleIndex none "oldé"] [numberColumn "ID"]
        [(singleIndex (some "IX_A") "id").index]).Recased
        (between ⟨"t", none⟩ [numberColumn "iD", numberColumn "OLD"]
          [singleIndex (some "ix_A") "ID", singleIndex none "Oldé"] [numberColumn "ID"]
          [(singleIndex (some "IX_A") "id").index]) ∧
      (between ⟨"t", none⟩ [numberColumn "iD", numberColumn "OLD"]
        [singleIndex (some "ix_A") "ID", singleIndex none "Oldé"] [numberColumn "ID"]
        [(singleIndex (some "IX_A") "id").index]).dropIndexes = ["IX_t_Oldé"] := by
  have hcolumns : Forall₂ Column.Recased [numberColumn "Id", numberColumn "old"]
      [numberColumn "iD", numberColumn "OLD"] :=
    .cons ⟨by decide +kernel, rfl⟩ (.cons ⟨by decide +kernel, rfl⟩ .nil)
  have hindexes : Forall₂ ExistingIndex.Recased
      [singleIndex (some "IX_a") "Id", singleIndex none "oldé"]
      [singleIndex (some "ix_A") "ID", singleIndex none "Oldé"] :=
    .cons ⟨⟨.some (by decide +kernel), .cons ⟨by decide +kernel, rfl⟩ .nil, rfl, rfl⟩, rfl⟩
      (.cons ⟨⟨.none, .cons ⟨by decide +kernel, rfl⟩ .nil, rfl, rfl⟩, rfl⟩ .nil)
  exact ⟨⟨hcolumns, hindexes⟩, (between_recased _ _ _ hcolumns hindexes).1, by decide +kernel⟩

end Between

end Migration

end SqlScribe
