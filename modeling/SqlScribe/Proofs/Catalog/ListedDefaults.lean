import SqlScribe.Catalog.Restore
import SqlScribe.Column.Clause
import SqlScribe.Proofs.Catalog.Joins
import SqlScribe.Schema.Operation

/-!
# Defaults in the listing of columns

The catalog keeps the definition of a default in a pair of parentheses.  The listing of columns
takes every parenthesis out of a definition that is not that of a generator, and what it returns
is the default of the column that is read back.  So a text is read back as default just if it has
no parenthesis in it.

Main definitions:

- `Text.withoutParentheses` is a text without any parenthesis.

Main results:

- `Schema.value_defaultValue`: what the listing returns of a definition.
- `Column.defaultClause_listed_iff`: which texts are read back as defaults.
-/

namespace SqlScribe

/-! ## Texts without parentheses -/

/-- A text without any parenthesis. -/
def Text.withoutParentheses (text : String) : String :=
  String.ofList (text.toList.filter fun c => c ≠ '(' ∧ c ≠ ')')

namespace Text

/-- Replacing both parentheses by nothing takes all of them out. -/
theorem replaceAll_parentheses (text : String) :
    Sql.replaceAll (Sql.replaceAll text "(" "") ")" "" = withoutParentheses text := by
  have hfilter (c : Char) (chars : List Char) :
      (chars.flatMap fun d => if d = c then [] else [d]) = chars.filter (· ≠ c) := by
    induction chars with
    | nil => rfl
    | cons d rest ih => by_cases hsame : d = c <;> simp [hsame, ih]
  have hreplace (text : String) (c : Char) :
      Sql.replaceAll text (String.ofList [c]) "" =
        String.ofList (text.toList.filter (· ≠ c)) := by
    rw [← hfilter]
    exact Sql.replaceAll_singleton text c []
  have hopening : "(" = String.ofList ['('] := rfl
  have hclosing : ")" = String.ofList [')'] := rfl
  rw [hopening, hclosing, hreplace, hreplace, String.toList_ofList, List.filter_filter]
  simp [withoutParentheses, Bool.and_comm]

/-- Parentheses around a text do not outlast the removal of all parentheses. -/
theorem withoutParentheses_parenthesized (text : String) :
    withoutParentheses ("(" ++ text ++ ")") = withoutParentheses text := by
  simp [withoutParentheses]

/-- Only a text without parentheses is kept as it is. -/
theorem withoutParentheses_eq_self_iff {text : String} :
    withoutParentheses text = text ↔ '(' ∉ text.toList ∧ ')' ∉ text.toList := by
  rw [← String.toList_inj, withoutParentheses, String.toList_ofList, List.filter_eq_self]
  simp only [decide_eq_true_eq]
  constructor
  · intro hkept
    exact ⟨fun hmem => (hkept _ hmem).1 rfl, fun hmem => (hkept _ hmem).2 rfl⟩
  · rintro ⟨hopening, hclosing⟩ c hmem
    exact ⟨ne_of_mem_of_not_mem hmem hopening, ne_of_mem_of_not_mem hmem hclosing⟩

end Text

/-- Doubling adds no character that a text does not have. -/
theorem Quoted.mem_double {close c : Char} {text : List Char} :
    c ∈ double close text ↔ c ∈ text := by
  induction text with
  | nil => rfl
  | cons d rest ih => by_cases hclose : d = close <;> simp [double, hclose, ih]

/-- Apart from its ends a literal has the characters of its text. -/
theorem mem_nationalLiteral {c : Char} {text : String} (hmark : c ≠ 'N') (hquote : c ≠ '\'') :
    c ∈ (nationalLiteral text).toList ↔ c ∈ text.toList := by
  simp [nationalLiteral, textLiteral, Quoted.quote, Quoted.mem_double, hmark, hquote]

/-- The definition of a text is that of no generator. -/
theorem Generator.catalogDefinition_ne (generator : Generator) (text : String) :
    "(" ++ nationalLiteral text ++ ")" ≠ generator.catalogDefinition := by
  intro hsame
  have hfront := congrArg (fun text => text.toList.take 3) hsame
  have hliteral : ("(" ++ nationalLiteral text ++ ")").toList.take 3 = ['(', 'N', '\''] := by
    simp [nationalLiteral, textLiteral, Quoted.quote]
  rw [hliteral] at hfront
  revert hfront
  cases generator <;> decide

/-! ## Listed definitions -/

namespace Schema

open Catalog (Constant Environment Field)

section Listed

variable {environment : Environment} {field : Field → Constant} {definition : String}

/-- A definition that is not that of a generator is returned without its parentheses. -/
theorem value_defaultValue
    (hstored : environment.definition (field (columnField "default_object_id")) =
      .text definition)
    (hother : ∀ generator : Generator, definition ≠ generator.catalogDefinition) :
    columnListing.value environment field "is_auto_generated" = .number 0 ∧
      columnListing.value environment field "default_value" =
        .text (Text.withoutParentheses definition) := by
  have hchosen (result otherwise : Constant) :
      Catalog.chosen (.text definition) otherwise (generatorBranches result) = otherwise := by
    simp [generatorBranches, Generator.all, Catalog.chosen, hother]
  have hgenerated : columnListing.value environment field "is_auto_generated" =
      environment.cast .bit
        (Catalog.chosen (environment.definition (field (columnField "default_object_id")))
          (.number 0) (generatorBranches (.number 1))) := rfl
  have hdefault : columnListing.value environment field "default_value" =
      Catalog.chosen (environment.definition (field (columnField "default_object_id")))
        (((environment.definition (field (columnField "default_object_id"))).replace "(" "").replace
          ")" "") (generatorBranches .null) := rfl
  rw [hgenerated, hdefault, hstored, hchosen, hchosen]
  exact ⟨rfl, congrArg Constant.text (Text.replaceAll_parentheses definition)⟩

end Listed

end Schema

/-! ## Texts as defaults -/

namespace Column

open Catalog (Constant Environment Field)
open Schema (columnField columnListing)

/-- The default of a column with a text is declared by its literal. -/
theorem spell_defaultClause_text {column : Column} {text : String}
    (hdefault : column.default = some (.value (.text text))) (type : SqlType)
    (dialect : Dialect) :
    (column.defaultClause type).map (·.spell dialect) =
      .ok (" DEFAULT " ++ nationalLiteral text) := by
  simp [defaultClause, hdefault, defaultPieces, Value.hasLiteral, Value.literal, Except.map,
    Sql.Piece.spell]

/-- The default of a column with an expression is declared by that. -/
theorem spell_defaultClause_expression {column : Column} {text : String}
    (hdefault : column.default = some (.expression text)) (type : SqlType) (dialect : Dialect) :
    (column.defaultClause type).map (·.spell dialect) = .ok (" DEFAULT " ++ text) := by
  simp [defaultClause, hdefault, defaultPieces, Except.map, Sql.Piece.spell]

/-- The definition that the catalog keeps of a default with a text is listed as an expression.
The column that is read back with it declares the same default just if there is no parenthesis in
the text. -/
theorem defaultClause_listed_iff {environment : Environment} {field : Field → Constant}
    {column : Column} {type : ColumnType} {text : String}
    (hdefault : column.default = some (.value (.text text)))
    (hstored : environment.definition (field (columnField "default_object_id")) =
      .text ("(" ++ (Value.text text).inline ++ ")")) :
    columnListing.value environment field "is_auto_generated" = .number 0 ∧
    ∃ listed, columnListing.value environment field "default_value" = .text listed ∧
      ∀ row : CatalogColumn, row.typeCode.toInt = type.stored.code → row.computation = none →
        row.isAutoGenerated = false → row.defaultValue = some listed →
        ∃ restored, row.column = .ok restored ∧ restored.kind = .stored (.sql type.stored) ∧
          ∀ dialect : Dialect,
            (restored.defaultClause type.stored).map (·.spell dialect) =
                (column.defaultClause type.stored).map (·.spell dialect) ↔
              '(' ∉ text.toList ∧ ')' ∉ text.toList := by
  obtain ⟨hgenerated, hlisted⟩ := Schema.value_defaultValue hstored
    fun generator => generator.catalogDefinition_ne text
  refine ⟨hgenerated, _, hlisted, ?_⟩
  intro row htype hcomputation hauto hvalue
  refine ⟨row.storedColumn type.stored, ?_, rfl, fun dialect => ?_⟩
  · simp only [CatalogColumn.column, hcomputation, htype, SqlType.ofCode?_code]
  · have hread : (row.storedColumn type.stored).default = some (.expression
        (Text.withoutParentheses (nationalLiteral text))) := by
      rw [← Text.withoutParentheses_parenthesized]
      simp [CatalogColumn.storedColumn, CatalogColumn.default, hauto, hvalue, Value.inline,
        Value.literal, Sql.Piece.spell]
    rw [spell_defaultClause_expression hread, spell_defaultClause_text hdefault,
      Except.ok.injEq, String.append_right_inj, Text.withoutParentheses_eq_self_iff,
      mem_nationalLiteral (by decide) (by decide), mem_nationalLiteral (by decide) (by decide)]

/-! ## Texts with and without parentheses -/

/-- A column with a text as its default. -/
def withDefault (text : String) : Column :=
  { Column.stored "State" (.host .string) with default := some (.value (.text text)) }

/-- A server that keeps one definition. -/
def storing (definition : String) : Environment :=
  { Environment.oneTable with definition := fun _ => .text definition }

/-- The row of such a column with what is listed of its default. -/
def defaultRow (listed : String) : CatalogColumn where
  name := "State"
  typeCode := Int32.ofInt SqlType.nVarChar.code
  maxLength := -1
  isNullable := false
  isIdentity := false
  isAutoGenerated := false
  defaultValue := some listed
  isPrimaryKey := false
  isPrimaryKeyClustered := false
  precision := 0
  scale := 0

/-- A text with quotes and brackets is read back. -/
theorem defaultClause_listed_iff_quotedText :
    ∃ listed,
      columnListing.value (storing "(N'[it''s]')") (fun _ => .null) "default_value" =
        .text listed ∧
      ∃ restored, (defaultRow listed).column = .ok restored ∧
        (restored.defaultClause .nVarChar).map (·.spell .sqlServer) =
          ((withDefault "[it's]").defaultClause .nVarChar).map (·.spell .sqlServer) := by
  have hstored : (storing "(N'[it''s]')").definition .null =
      .text ("(" ++ (Value.text "[it's]").inline ++ ")") := by decide +kernel
  obtain ⟨-, listed, hlisted, hrows⟩ :=
    @defaultClause_listed_iff _ (fun _ => .null) (withDefault "[it's]") (.host .string) _ rfl
      hstored
  have htype : (Int32.ofInt SqlType.nVarChar.code).toInt = HostType.string.stored.code := by
    decide
  obtain ⟨restored, hrestored, -, hread⟩ := hrows (defaultRow listed) htype rfl rfl rfl
  exact ⟨listed, hlisted, restored, hrestored, (hread .sqlServer).mpr (by decide)⟩

/-- A text with parentheses loses them. -/
theorem not_defaultClause_listed_parentheses :
    (storing "(N'a(b)')").definition .null =
        .text ("(" ++ (Value.text "a(b)").inline ++ ")") ∧
      columnListing.value (storing "(N'a(b)')") (fun _ => .null) "default_value" =
          .text "N'ab'" ∧
      (SchemaOperation.addColumn ⟨"t", none⟩ (withDefault "a(b)")).statement =
        .ok
          { text := "ALTER TABLE [t] ADD [State] nvarchar (MAX) NOT NULL DEFAULT N'a(b)'"
            result := .none } ∧
      ∃ restored, (defaultRow "N'ab'").column = .ok restored ∧
        (SchemaOperation.addColumn ⟨"t", none⟩ restored).statement =
          .ok
            { text := "ALTER TABLE [t] ADD [State] nvarchar (MAX) NOT NULL DEFAULT N'ab'"
              result := .none } :=
  ⟨by decide +kernel, by decide +kernel, rfl, _, rfl, rfl⟩

end Column

end SqlScribe
