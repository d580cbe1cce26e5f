import SqlScribe.CommandLine.Output
import SqlScribe.Proofs.Text.Recasing

/-!
# Names in the arguments of a task

An argument that names a table is split at its first dot, one that names a column of an index
at its last colon.  A name may have the separator in it, so not every table has an argument of
its own, whereas every column has one.

Main definitions:

- `Table.HasUndottedFront` says that the first dot of a table's spelling ends its schema.

Main results:

- `Table.ofQualified_objectName_iff`: which tables are found again by their spellings.
- `IndexKey.ofSpelling_eq_ok_iff` and `IndexKey.ofSpelling_eq_error_iff`: which column of an
  index an argument names, and which arguments name none.
- `Task.nameArguments_decode` puts both kinds of arguments together.
-/

namespace SqlScribe

/-! ## Splitting at a separator -/

/-- The first separator is the one with none in front of it. -/
theorem Table.splitFirst?_eq_some_iff {mark : Char} {text before after : List Char} :
    splitFirst? mark text = some (before, after) ↔
      text = before ++ mark :: after ∧ mark ∉ before := by
  constructor
  · intro hsplit
    refine ⟨(append_of_splitFirst? hsplit).symm, ?_⟩
    induction text generalizing before with
    | nil => simp [splitFirst?] at hsplit
    | cons c rest ih =>
      by_cases hc : c = mark
      · simp only [splitFirst?, hc, if_true, Option.some.injEq, Prod.mk.injEq] at hsplit
        simp [← hsplit.1]
      · simp only [splitFirst?, hc, if_false, Option.map_eq_some_iff] at hsplit
        obtain ⟨⟨inner, tail⟩, hinner, hparts⟩ := hsplit
        cases hparts
        simp [ih hinner, Ne.symm hc]
  · rintro ⟨rfl, hbefore⟩
    induction before with
    | nil => simp [splitFirst?]
    | cons c rest ih =>
      simp only [List.mem_cons, not_or] at hbefore
      simp [splitFirst?, Ne.symm hbefore.1, ih hbefore.2]

/-- A text without the separator is not split. -/
theorem Table.splitFirst?_eq_none_iff {mark : Char} {text : List Char} :
    splitFirst? mark text = none ↔ mark ∉ text := by
  induction text with
  | nil => simp [splitFirst?]
  | cons c rest ih =>
    by_cases hc : c = mark
    · simp [splitFirst?, hc]
    · simp [splitFirst?, hc, ih, Ne.symm hc]

/-- The last separator is the one with none behind it. -/
theorem splitLast?_eq_some_iff {mark : Char} {text before after : List Char} :
    splitLast? mark text = some (before, after) ↔
      text = before ++ mark :: after ∧ mark ∉ after := by
  have hreverse : splitLast? mark text = some (before, after) ↔
      Table.splitFirst? mark text.reverse = some (after.reverse, before.reverse) := by
    simp only [splitLast?, Option.map_eq_some_iff, Prod.exists, Prod.mk.injEq]
    constructor
    · rintro ⟨behind, front, hsplit, rfl, rfl⟩
      simpa using hsplit
    · intro hsplit
      exact ⟨after.reverse, before.reverse, hsplit, by simp, by simp⟩
  rw [hreverse, Table.splitFirst?_eq_some_iff, List.reverse_eq_iff]
  simp

/-- A text is not split exactly if it does not have the mark. -/
theorem splitLast?_eq_none_iff {mark : Char} {text : List Char} :
    splitLast? mark text = none ↔ mark ∉ text := by
  simp [splitLast?, Table.splitFirst?_eq_none_iff]

/-! ## Tables -/

namespace Table

/-- No dot stands in the schema of a table or, if there is none, in its name. -/
def HasUndottedFront (table : Table) : Prop :=
  match table.schema with
  | some schema => '.' ∉ schema.toList
  | none => '.' ∉ table.name.toList

/-- Whatever a spelling is, its first dot ends the schema of the table that it refers to. -/
theorem hasUndottedFront_ofQualified (spelling : String) :
    (ofQualified spelling).HasUndottedFront := by
  unfold ofQualified
  split
  · next schema name hsplit =>
    simpa [HasUndottedFront] using (splitFirst?_eq_some_iff.mp hsplit).2
  · next hsplit => exact splitFirst?_eq_none_iff.mp hsplit

/-- A table is found again by its spelling if the first dot there ends the schema. -/
theorem ofQualified_objectName {table : Table} (hfront : table.HasUndottedFront) :
    ofQualified table.objectName = table := by
  obtain ⟨name, schema⟩ := table
  cases schema with
  | none =>
    have hsplit : splitFirst? '.' name.toList = none := splitFirst?_eq_none_iff.mpr hfront
    simp [objectName, ofQualified, hsplit]
  | some schema =>
    have hsplit : splitFirst? '.' (schema ++ "." ++ name).toList =
        some (schema.toList, name.toList) :=
      splitFirst?_eq_some_iff.mpr ⟨by simp, hfront⟩
    simp only [objectName, ofQualified, hsplit, String.ofList_toList]

/-- Exactly the tables without a dot in the first part of their spelling are found again by
it. -/
theorem ofQualified_objectName_iff {table : Table} :
    ofQualified table.objectName = table ↔ table.HasUndottedFront := by
  constructor
  · intro hsame
    rw [← hsame]
    exact hasUndottedFront_ofQualified table.objectName
  · exact ofQualified_objectName

end Table

/-! ## Directions -/

namespace Direction

/-- The word for a direction in an argument. -/
def word : Direction → String
  | .ascending => "asc"
  | .descending => "desc"

/-- No case of the word for a direction has a colon in it. -/
theorem colon_notMem_of_recased {direction : Direction} {spelled : String}
    (hspelled : Text.Recased direction.word spelled) : ':' ∉ spelled.toList := by
  intro hcolon
  have hfolded : ':' ∈ Text.foldAsciiCase direction.word := by
    rw [Text.recased_iff.mp hspelled]
    exact List.mem_map_of_mem (f := Char.toLower) hcolon
  cases direction <;> simp [word, Text.foldAsciiCase] at hfolded

/-- A word stands for one direction at most. -/
theorem eq_of_recased {direction other : Direction} {spelled : String}
    (hspelled : Text.Recased direction.word spelled) (hother : Text.Recased other.word spelled) :
    direction = other := by
  have hwords : Text.foldAsciiCase direction.word = Text.foldAsciiCase other.word :=
    (Text.recased_iff.mp hspelled).trans (Text.recased_iff.mp hother).symm
  revert hwords
  cases direction <;> cases other <;> decide

end Direction

/-! ## Columns of an index -/

namespace IndexKey

/-- An argument has no colon, or the last one stands between a name and a word, which is one
for a direction or not. -/
theorem spelling_cases (spelling : String) :
    ':' ∉ spelling.toList ∨
      (∃ (name word : String) (direction : Direction),
        spelling = name ++ ":" ++ word ∧ Text.Recased direction.word word) ∨
      ∃ name word : String, spelling = name ++ ":" ++ word ∧ ':' ∉ word.toList ∧
        ∀ direction : Direction, ¬ Text.Recased direction.word word := by
  cases hsplit : splitLast? ':' spelling.toList with
  | none => exact .inl (splitLast?_eq_none_iff.mp hsplit)
  | some parts =>
    obtain ⟨name, word⟩ := parts
    obtain ⟨htext, hcolon⟩ := splitLast?_eq_some_iff.mp hsplit
    have hspelling : spelling = String.ofList name ++ ":" ++ String.ofList word := by
      rw [← String.toList_inj, htext]
      simp
    by_cases hword : ∃ direction : Direction, Text.Recased direction.word (String.ofList word)
    · obtain ⟨direction, hword⟩ := hword
      exact .inr (.inl ⟨_, _, direction, hspelling, hword⟩)
    · exact .inr (.inr ⟨_, _, hspelling, by simpa using hcolon, not_exists.mp hword⟩)

/-- An argument without a colon is a name. -/
theorem ofSpelling_of_notMem {spelling : String} (hcolon : ':' ∉ spelling.toList) :
    ofSpelling spelling = .ok ⟨spelling, .ascending⟩ := by
  rw [ofSpelling, splitLast?_eq_none_iff.mpr hcolon]

/-- What stands behind the last colon decides, and what stands in front of it is the name. -/
theorem ofSpelling_append {name word : String} (hword : ':' ∉ word.toList) :
    ofSpelling (name ++ ":" ++ word) =
      if Text.Recased Direction.ascending.word word then .ok ⟨name, .ascending⟩
      else if Text.Recased Direction.descending.word word then .ok ⟨name, .descending⟩
      else .error (.unknownOrder word (name ++ ":" ++ word)) := by
  have hsplit : splitLast? ':' (name ++ ":" ++ word).toList = some (name.toList, word.toList) :=
    splitLast?_eq_some_iff.mpr ⟨by simp, hword⟩
  have hrecased (direction : Direction) : Text.Recased direction.word word ↔
      Text.equalsIgnoringAsciiCase word direction.word = true := by
    rw [Text.equalsIgnoringAsciiCase_iff, Text.recased_iff, eq_comm]
  simp only [ofSpelling, hsplit, String.ofList_toList, hrecased]
  rfl

/-- The word for a direction, in whatever case, gives the column that direction. -/
theorem ofSpelling_append_of_recased (name : String) {direction : Direction} {word : String}
    (hword : Text.Recased direction.word word) :
    ofSpelling (name ++ ":" ++ word) = .ok ⟨name, direction⟩ := by
  rw [ofSpelling_append (Direction.colon_notMem_of_recased hword)]
  cases direction with
  | ascending => rw [if_pos hword]
  | descending =>
    have hother : ¬ Text.Recased Direction.ascending.word word := fun hascending =>
      nomatch Direction.eq_of_recased hascending hword
    rw [if_neg hother, if_pos hword]

/-- Any other word behind the last colon is refused. -/
theorem ofSpelling_append_of_unknown (name : String) {word : String} (hcolon : ':' ∉ word.toList)
    (hword : ∀ direction : Direction, ¬ Text.Recased direction.word word) :
    ofSpelling (name ++ ":" ++ word) = .error (.unknownOrder word (name ++ ":" ++ word)) := by
  rw [ofSpelling_append hcolon, if_neg (hword .ascending), if_neg (hword .descending)]

/-- An argument names a column of an index if it is the name of one, or the name with the word
for a direction behind it. -/
theorem ofSpelling_eq_ok_iff {spelling : String} {key : IndexKey} :
    ofSpelling spelling = .ok key ↔
      (':' ∉ spelling.toList ∧ key = ⟨spelling, .ascending⟩) ∨
        ∃ word, spelling = key.name ++ ":" ++ word ∧ Text.Recased key.direction.word word := by
  constructor
  · intro hok
    rcases spelling_cases spelling with
      hcolon | ⟨name, word, direction, rfl, hword⟩ | ⟨name, word, rfl, hcolon, hword⟩
    · rw [ofSpelling_of_notMem hcolon, Except.ok.injEq] at hok
      exact .inl ⟨hcolon, hok.symm⟩
    · rw [ofSpelling_append_of_recased name hword, Except.ok.injEq] at hok
      subst hok
      exact .inr ⟨word, rfl, hword⟩
    · rw [ofSpelling_append_of_unknown name hcolon hword] at hok
      nomatch hok
  · rintro (⟨hcolon, rfl⟩ | ⟨word, rfl, hword⟩)
    · exact ofSpelling_of_notMem hcolon
    · exact ofSpelling_append_of_recased key.name hword

/-- An argument is refused if it has a colon and what stands behind the last one is no word for
a direction; the reason quotes both. -/
theorem ofSpelling_eq_error_iff {spelling : String} {reason : InvocationError} :
    ofSpelling spelling = .error reason ↔
      ∃ name word : String, spelling = name ++ ":" ++ word ∧ ':' ∉ word.toList ∧
        (∀ direction : Direction, ¬ Text.Recased direction.word word) ∧
        reason = .unknownOrder word spelling := by
  constructor
  · intro herror
    rcases spelling_cases spelling with
      hcolon | ⟨name, word, direction, rfl, hword⟩ | ⟨name, word, rfl, hcolon, hword⟩
    · rw [ofSpelling_of_notMem hcolon] at herror
      nomatch herror
    · rw [ofSpelling_append_of_recased name hword] at herror
      nomatch herror
    · rw [ofSpelling_append_of_unknown name hcolon hword, Except.error.injEq] at herror
      exact ⟨name, word, rfl, hcolon, hword, herror.symm⟩
  · rintro ⟨name, word, rfl, hcolon, hword, rfl⟩
    exact ofSpelling_append_of_unknown name hcolon hword

end IndexKey

/-! ## Both kinds of arguments -/

/-- Arguments are taken apart faithfully.  A table that an argument names is spelled as the
argument is; it is the table that was spelled exactly if no dot stands in its schema or, without
a schema, in its name.  A column of an index is found again whatever its name is, with the word
for its direction in any case; an argument is refused exactly if it has a colon and there is
no such word behind the last one. -/
theorem Task.nameArguments_decode :
    (∀ spelling : String, (Table.ofQualified spelling).objectName = spelling) ∧
      (∀ table : Table, Table.ofQualified table.objectName = table ↔
        (∃ schema, table.schema = some schema ∧ '.' ∉ schema.toList) ∨
          (table.schema = none ∧ '.' ∉ table.name.toList)) ∧
      (∀ (name word : String) (direction : Direction), Text.Recased direction.word word →
        IndexKey.ofSpelling (name ++ ":" ++ word) = .ok ⟨name, direction⟩) ∧
      (∀ (spelling : String) (reason : InvocationError),
        IndexKey.ofSpelling spelling = .error reason ↔
          ∃ name word : String, spelling = name ++ ":" ++ word ∧ ':' ∉ word.toList ∧
            (∀ direction : Direction, ¬ Text.Recased direction.word word) ∧
            reason = .unknownOrder word spelling) := by
  refine ⟨Table.objectName_ofQualified, fun table => ?_, fun name word direction hword => ?_,
    fun _ _ => IndexKey.ofSpelling_eq_error_iff⟩
  · rw [Table.ofQualified_objectName_iff]
    obtain ⟨name, schema⟩ := table
    cases schema <;> simp [Table.HasUndottedFront]
  · exact IndexKey.ofSpelling_eq_ok_iff.mpr (.inr ⟨word, rfl, hword⟩)

/-- A column name with a colon in it and a word in mixed case. -/
theorem Task.nameArguments_decode_mixedCase :
    Text.Recased Direction.descending.word "DeSc" ∧
      IndexKey.ofSpelling ("a:b" ++ ":" ++ "DeSc") = .ok ⟨"a:b", .descending⟩ := by
  have hword : Text.Recased Direction.descending.word "DeSc" := by decide
  exact ⟨hword, Task.nameArguments_decode.2.2.1 "a:b" "DeSc" .descending hword⟩

end SqlScribe
