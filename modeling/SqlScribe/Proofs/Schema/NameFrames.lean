import SqlScribe.Proofs.Lexing.ListingText
import SqlScribe.Proofs.Rendering.Substitution
import SqlScribe.Schema.Existence

/-!
# What the name of a table can do to a statement

The name of a table reaches the text of a schema statement in three ways: its parts as quoted
identifiers, its parts as text literals, and both parts together as a national literal that the
server takes for an object.  Each of them fills one gap in a frame of tokens, whatever characters
the name has.

Main definitions:

- `Table.erased` is a table without its names.
- `Table.nameQuotes`, `Table.objectQuote` and `Table.searchQuotes` are the quoted tokens that say
  its names.

Main results:

- `Schema.uniform_tablePieces` and `Schema.uniform_objectId`: the name of a table has one frame.
- `Schema.uniform_tableCheck` and `Schema.uniform_objectCheck`: so have the checks.
- `Schema.uniform_dropTable`, `Schema.uniform_dropColumn` and `Schema.uniform_dropIndex`: so have
  the guarded drops.
-/

namespace SqlScribe

open Sql (Pieces Token)

/-! ## Names of tables -/

/-- Every name replaced by the empty one. -/
def Substitution.erasing : Substitution := .ofNames fun _ => ""

namespace Table

/-- A table without its names. -/
def erased (table : Table) : Table := table.substitute .erasing

/-- The quoted parts of the name of a table. -/
def nameQuotes (table : Table) : List Token :=
  (table.schema.map Token.name).toList ++ [.name table.name]

/-- The text by which the server identifies a table. -/
def objectQuote (table : Table) : Token := .literal true table.objectName

/-- The texts by which a table is looked for. -/
def searchQuotes (table : Table) : List Token :=
  .literal false table.name :: (table.schema.map (Token.literal false)).toList

end Table

namespace Schema

open Sql.Pieces (Uniform leadsWhole leadsWhole_around)
open Catalog (View)

variable {α : Type} {family : α → Prop} {quotes quotes' : α → List Token}
  {pieces pieces' : α → Pieces}

/-- The quoted name of a table has one frame with a schema and one without. -/
theorem uniform_tablePieces (table : Table) :
    Uniform false (fun other : Table => other.erased = table.erased) Table.nameQuotes
      Sql.tablePieces := by
  obtain ⟨name, _ | schema⟩ := table
  · refine (Uniform.name Table.name).congr ?_ ?_
    all_goals
      rintro ⟨name, _ | schema⟩ halike
      · rfl
      · cases halike
  · refine ((Uniform.name fun other : Table => other.schema.getD "").append
      (.joint "." (by decide) (.name Table.name))).congr ?_ ?_
    all_goals
      rintro ⟨name, _ | schema⟩ halike
      · cases halike
      · rfl

/-- The server's identifier of a table has one frame for all tables. -/
theorem uniform_objectId (table : α → Table) :
    Uniform false family (fun input => [(table input).objectQuote])
      (fun input => Catalog.objectId (table input)) :=
  .lead "OBJECT_ID(" (by decide) (.behind ")" (by decide) (.literal true _))

/-! ## Checks and drops -/

theorem uniform_tableCheck (table : Table) :
    Uniform false (fun other : Table => other.erased = table.erased) Table.searchQuotes
      tableCheck := by
  have hleads : leadsWhole ("SELECT * FROM " ++ View.tables.path ++ " WHERE [name] = ") = true :=
    leadsWhole_around rfl View.tables.after_path rfl
  obtain ⟨name, _ | schema⟩ := table
  · refine (Uniform.lead ("SELECT * FROM " ++ View.tables.path ++ " WHERE [name] = ") hleads
      (.literal false Table.name)).congr ?_ ?_
    all_goals
      rintro ⟨name, _ | schema⟩ halike
      · rfl
      · cases halike
  · refine (Uniform.lead ("SELECT * FROM " ++ View.tables.path ++ " WHERE [name] = ") hleads
      ((Uniform.literal false Table.name).append (.joint " AND [schema_id] = SCHEMA_ID(" (by decide)
        (.behind ")" (by decide) (.literal false fun other => other.schema.getD ""))))).congr ?_ ?_
    all_goals
      rintro ⟨name, _ | schema⟩ halike
      · cases halike
      · rfl

/-- A check for an object of a table has one frame. -/
theorem uniform_objectCheck (view : View) (table : α → Table) (name : α → String) :
    Uniform false family (fun input => [(table input).objectQuote, .literal false (name input)])
      (fun input => objectCheck view (table input) (name input)) := by
  have hparts : Uniform false family _ _ := (uniform_objectId table).append
    (.joint " AND [name] = " (by decide) (.literal false name))
  exact hparts.lead ("SELECT * FROM " ++ view.path ++ " WHERE [object_id] = ")
    (leadsWhole_around rfl view.after_path rfl)

/-- A question has one frame if its check has. -/
theorem uniform_existence (hcheck : Uniform false family quotes pieces) :
    Uniform false family quotes (fun input => existence (pieces input)) :=
  .lead "SELECT CAST(CASE WHEN EXISTS (" (by decide)
    (hcheck.behind ") THEN 1 ELSE 0 END AS bit)" (by decide))

/-- A check for a column or an index says its table and its name. -/
theorem uniform_objectExists (view : View) (table : Table) :
    Uniform false (fun named : Table × String => named.1.erased = table.erased)
      (fun named => [named.1.objectQuote, .literal false named.2])
      (fun named => existence (objectCheck view named.1 named.2)) :=
  uniform_existence (uniform_objectCheck view Prod.fst Prod.snd)

/-- A guarded action has one frame if its check and its action have. -/
theorem uniform_guarded (hcheck : Uniform false family quotes pieces)
    (haction : Uniform false family quotes' pieces') :
    Uniform false family (fun input => quotes input ++ quotes' input)
      (fun input => guarded (pieces input) (pieces' input)) := by
  have hparts := (hcheck.append (.joint ") " (by decide) haction)).lead "IF EXISTS (" (by decide)
  refine hparts.congr (fun _ _ => rfl) fun input _ => ?_
  simp [guarded]

theorem uniform_dropTable (table : Table) :
    Uniform false (fun other : Table => other.erased = table.erased)
      (fun other => other.searchQuotes ++ other.nameQuotes) dropTable :=
  uniform_guarded (uniform_tableCheck table)
    (.lead "DROP TABLE " (by decide) (uniform_tablePieces table))

theorem uniform_dropColumn (table : Table) :
    Uniform false (fun named : Table × String => named.1.erased = table.erased)
      (fun named => [named.1.objectQuote, .literal false named.2] ++
        (named.1.nameQuotes ++ [.name named.2]))
      (fun named => dropColumn named.1 named.2) := by
  have htable := (uniform_tablePieces table).on Prod.fst fun (named : Table × String) h => h
  have haction := (htable.append (.joint " DROP COLUMN " (by decide) (.name Prod.snd))).lead
    "ALTER TABLE " (by decide)
  refine (uniform_guarded (uniform_objectCheck .columns Prod.fst Prod.snd) haction).congr
    (fun _ _ => rfl) fun named _ => ?_
  simp [dropColumn, columnCheck]

theorem uniform_dropIndex (table : Table) :
    Uniform false (fun named : Table × String => named.1.erased = table.erased)
      (fun named => [named.1.objectQuote, .literal false named.2] ++
        ([.name named.2] ++ named.1.nameQuotes))
      (fun named => dropIndex named.1 named.2) := by
  have htable := (uniform_tablePieces table).on Prod.fst fun (named : Table × String) h => h
  have haction := ((Uniform.name Prod.snd).append (.joint " ON " (by decide) htable)).lead
    "DROP INDEX " (by decide)
  exact uniform_guarded (uniform_objectCheck .indexes Prod.fst Prod.snd) haction

end Schema

end SqlScribe
