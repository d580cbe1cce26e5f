import SqlScribe.Proofs.Schema.DefinitionFrames
import SqlScribe.Schema.Operation

/-!
# What names and texts can do to schema statements

Every schema statement has a frame of tokens that depends on nothing but the shape of what it
defines, drops or lists.  The names of tables, columns and indexes and the texts of defaults only
fill the gaps of the frame, each as one quoted token, so none of them, whatever characters it has,
changes what the statement does.

Main definitions:

- `SchemaOperation.erased` is an operation without any name or text default.
- `SchemaOperation.quotes` are the quoted tokens that say the names and text defaults of an
  operation, in the order in which its text has them.

Main results:

- `Query.sourceTables_substitute`: the source tables of a renamed query are the renamed ones.
- `Schema.uniform_sharedColumns` and the lemmas beside it: listings of columns have one frame.
- `SchemaOperation.tokens_of_alike`: operations that differ in names and text defaults only have
  the same tokens but for what these quote.
-/

namespace SqlScribe

open Sql (Pieces Piece Token fixed)
open Sql.Pieces (Tidy Uniform joinsWhole_around leadsWhole_around)

/-! ## Source tables -/

namespace Query

/-- A query without any name. -/
def erased (query : Query) : Query := query.substitute .erasing

mutual

/-- The source tables of a renamed query are the renamed ones. -/
theorem sourceTables_substitute (σ : Substitution) :
    ∀ query : Query,
      (query.substitute σ).sourceTables = query.sourceTables.map (Table.substitute σ)
  | ⟨source, _, _, _, _, _, _, _, _, _, _, _, _⟩ => tablesOfSource_substitute σ source

theorem tablesOfSource_substitute (σ : Substitution) :
    ∀ source : Source Query,
      tablesOfSource (substituteSource σ source) = (tablesOfSource source).map (Table.substitute σ)
  | .table _ => rfl
  | .queries queries => tablesOfQueries_substitute σ queries

theorem tablesOfQueries_substitute (σ : Substitution) :
    ∀ queries : List Query,
      tablesOfQueries (substituteQueries σ queries) =
        (tablesOfQueries queries).map (Table.substitute σ)
  | [] => rfl
  | query :: rest => by
    simp only [substituteQueries, tablesOfQueries, List.map_append,
      sourceTables_substitute σ query, tablesOfQueries_substitute σ rest]

end

/-- Alike queries read alike tables. -/
theorem sourceTables_alike {other query : Query} (halike : other.erased = query.erased) :
    other.sourceTables.map Table.erased = query.sourceTables.map Table.erased := by
  have htables := congrArg sourceTables halike
  rwa [erased, erased, sourceTables_substitute, sourceTables_substitute] at htables

end Query

/-! ## Listings -/

namespace Schema

open Catalog (View Field Term Listing)

variable {α : Type} {family : α → Prop} {quotes quotes' : α → List Token}
  {pieces pieces' : α → Pieces}

/-- A tidy listing of a table says the table once. -/
theorem uniform_ofTable {listing : Listing} (htidy : listing.tidy = true) (table : Table) :
    Uniform false (fun other : Table => other.erased = table.erased)
      (fun other => [other.objectQuote]) listing.ofTable := by
  have hparts : Uniform false (fun other : Table => other.erased = table.erased) _ _ :=
    (Uniform.own (Listing.tidy_pieces htidy)).append (.joint " WHERE " (by decide)
      ((Uniform.own (Listing.tidy_owner htidy)).append (.joint " = " (by decide)
        ((uniform_objectId fun other => other).append
          (.own (Listing.tidy_orderPieces htidy))))))
  refine hparts.congr (fun _ _ => rfl) fun other _ => ?_
  simp [Listing.ofTable]

/-- A listing of codes says its table. -/
theorem uniform_codeListing {family : Table → Prop} :
    Uniform false family (fun table => [table.objectQuote]) codeListing := by
  have htidy : codeOutputs.all Catalog.Output.tidy = true := by decide +kernel
  have houtputs : Tidy false (Pieces.join ", " (codeOutputs.map (·.pieces))) := by
    refine .join _ (by decide) fun text htext => ?_
    obtain ⟨output, houtput, rfl⟩ := List.mem_map.mp htext
    exact Catalog.Output.tidy_pieces (List.all_eq_true.mp htidy output houtput)
  have hparts : Uniform false family _ _ := (Uniform.own houtputs).append
    (.joint (" FROM " ++ View.columns.path ++ " WHERE [object_id] = ")
      (joinsWhole_around rfl rfl View.columns.after_path rfl) (uniform_objectId fun table => table))
  refine (hparts.lead "SELECT " (by decide)).congr (fun _ _ => rfl) fun table _ => ?_
  simp [codeListing]

/-- The columns that tables share are listed by a text that says each table. -/
theorem uniform_intersection (tables : List Table) :
    Uniform false (fun others : List Table => others.map Table.erased = tables.map Table.erased)
      (fun others => others.map Table.objectQuote) intersection :=
  (Uniform.join_of_shape " INTERSECT " (by decide) tables fun _ => uniform_codeListing).congr
    (fun _ _ => List.map_eq_flatMap) fun _ _ => rfl

/-- A derived table has the frame of its query, and an alias. -/
theorem uniform_derivedPieces (hquery : Uniform false family quotes pieces) :
    Uniform false family quotes (fun input => Sql.derivedPieces (pieces input)) := by
  have halias : Tidy true [.fixed ") ", .ownName Sql.derivedAlias] :=
    .joint ") " (by decide) (.single (Piece.whole_of_isWhole (by decide)))
  have hparts := (hquery.append (.own halias)).lead "(" (by decide)
  exact hparts.congr (fun _ _ => by simp) fun _ _ => by simp [Sql.derivedPieces]

/-- What is described in a table has the frames of both sides and says the table. -/
theorem uniform_describedIn (table : α → Table) (hfirst : Uniform false family quotes pieces)
    (hsecond : Uniform false family quotes' pieces') :
    Uniform false family
      (fun input => quotes input ++ (quotes' input ++ [(table input).objectQuote]))
      (fun input => describedIn (table input) (pieces input) (pieces' input)) := by
  have hmatch : Tidy false (Catalog.matchPieces [(.ofDerived "name", columnField "name")]) :=
    Catalog.tidy_matchPieces (by decide)
  have howner : Tidy false (columnField "object_id").pieces := Field.tidy_pieces (by decide)
  have hcondition : Uniform true family _ _ := .joint " ON " (by decide)
    ((Uniform.own hmatch).append (.joint " AND " (by decide)
      ((Uniform.own howner).append (.joint " = " (by decide) (uniform_objectId table)))))
  refine (hfirst.append (.joint " JOIN " (by decide) (hsecond.append hcondition))).congr ?_ ?_
  · exact fun _ _ => by simp
  · exact fun _ _ => by simp [describedIn]

/-! ## Shared columns -/

/-- A bound says the tables that it is taken over. -/
theorem uniform_bound {codes : List Int} (hcodes : codes.all (0 ≤ ·) = true)
    (tables : List Table) :
    Uniform false (fun others : List Table => others.map Table.erased = tables.map Table.erased)
      (fun others => others.map Table.objectQuote)
      (fun others => Catalog.CodeBound.pieces ⟨codes, others⟩) := by
  have hname : Tidy false (Field.ofDerived "name").pieces := Field.tidy_pieces (by decide)
  have hids : Uniform false
      (fun others : List Table => others.map Table.erased = tables.map Table.erased) _ _ :=
    .join_of_shape ", " (by decide) tables fun _ => uniform_objectId fun other => other
  have hparts := (Uniform.own hname).append (.joint " AND [system_type_id] IN (" (by decide)
    ((Uniform.own (Catalog.tidy_numberList hcodes)).append
      (.joint ") AND [object_id] IN (" (by decide) (hids.behind "))" (by decide)))))
  refine (hparts.lead ("(SELECT MAX([system_type_id]) FROM " ++ View.columns.path ++
    " WHERE [name] = ") (leadsWhole_around rfl View.columns.after_path rfl)).congr ?_ ?_
  · exact fun _ _ => by simp [List.map_eq_flatMap]
  · exact fun _ _ => by simp [Catalog.CodeBound.pieces]

theorem uniform_narrowingTerm (tables : List Table) :
    Uniform false (fun others : List Table => others.map Table.erased = tables.map Table.erased)
      (fun others => others.map Table.objectQuote)
      (fun others => (narrowingTerm others).pieces) := by
  have hcode : Tidy false (columnField "system_type_id").pieces := Field.tidy_pieces (by decide)
  have hresults : Tidy true (.fixed " THEN " :: (Term.one.pieces ++ .fixed " ELSE " ::
      (Term.zero.pieces ++ [.fixed " END"]))) :=
    .joint _ (by decide) ((Catalog.Term.tidy_pieces (by decide)).append
      (.joint _ (by decide) ((Catalog.Term.tidy_pieces (by decide)).behind _ (by decide))))
  have hname : Tidy false [.fixed SqlType.bit.name] :=
    .single (Piece.whole_of_isWhole (by decide))
  have htype : Tidy true [.fixed " AS ", .fixed SqlType.bit.name, .fixed ")"] :=
    .joint " AS " (by decide) (hname.behind ")" (by decide))
  have hcodes : TypeCode.textFamily.all (0 ≤ ·) = true := by decide
  have hbound := uniform_bound hcodes tables
  have hcase := ((Uniform.own hcode).append (.joint " < " (by decide)
    (hbound.append (.own (hresults.append htype))))).lead "CASE WHEN " (by decide)
  refine (hcase.lead "CAST(" (by decide)).congr ?_ ?_
  · exact fun _ _ => by simp
  · exact fun _ _ => by simp [narrowingTerm, Term.pieces]

theorem sources_eq_of_ok {query : Query} {tables : List Table}
    (hsources : sources query = .ok tables) : tables = query.sourceTables := by
  unfold sources at hsources
  cases htables : query.sourceTables with
  | nil => simp [htables] at hsources
  | cons first rest => simpa [htables] using hsources.symm

/-- The listings of alike queries have one frame. -/
theorem uniform_unionColumns (query : Query) :
    Uniform false
      (fun listed : Query × Pieces =>
        listed.1.erased = query.erased ∧ unionColumns listed.1 = .ok listed.2)
      (fun listed => listed.1.sourceTables.map Table.objectQuote) Prod.snd := by
  refine (uniform_intersection query.sourceTables).along ?_
  rintro ⟨other, pieces⟩ ⟨halike, hlisted : unionColumns other = .ok pieces⟩
  obtain ⟨tables, htables, rfl⟩ := Except.map_eq_ok_iff.mp hlisted
  obtain rfl := sources_eq_of_ok htables
  exact ⟨other.sourceTables, Query.sourceTables_alike halike, rfl, rfl⟩

/-- Whether tables and a destination differ from others in names only. -/
def AlikeTables (tables : List Table) (into : Table) (others : List Table × Table) : Prop :=
  others.1.map Table.erased = tables.map Table.erased ∧ others.2.erased = into.erased

/-- The listing of columns shared with a destination says the source tables in the bound and in
the intersection, and the destination behind them and in the description. -/
theorem uniform_sharedColumns (query : Query) (into : Table) :
    Uniform false
      (fun listed : (Query × Table) × Pieces => listed.1.1.erased = query.erased ∧
        listed.1.2.erased = into.erased ∧ sharedColumns listed.1.1 listed.1.2 = .ok listed.2)
      (fun listed => listed.1.1.sourceTables.map Table.objectQuote ++
        ((listed.1.1.sourceTables ++ [listed.1.2]).map Table.objectQuote ++
          [listed.1.2.objectQuote])) Prod.snd := by
  have hname : Tidy false (Field.ofDerived "name").pieces := Field.tidy_pieces (by decide)
  have hflag : Uniform false (AlikeTables query.sourceTables into) _ _ :=
    ((uniform_narrowingTerm query.sourceTables).on Prod.fst fun _ h => h.1).behind
      " AS [NarrowingConversion]" (by decide)
  have hshared : Uniform false (AlikeTables query.sourceTables into) _ _ :=
    uniform_derivedPieces ((uniform_intersection (query.sourceTables ++ [into])).on
      (fun named => named.1 ++ [named.2]) fun _ h => by simp [h.1, h.2])
  have hview : Tidy false (fixed View.columns.reference) :=
    .single (Piece.whole_of_isWhole (by decide))
  have hdescribed := uniform_describedIn (fun named => named.2) hshared (.own hview)
  have houtputs := (Uniform.own hname).append (.joint ", " (by decide) hflag)
  have hparts := (houtputs.append (.joint " FROM " (by decide) hdescribed)).lead
    "SELECT " (by decide)
  refine hparts.along ?_
  rintro ⟨⟨other, otherInto⟩, pieces⟩
    ⟨hquery, hinto, hlisted : sharedColumns other otherInto = .ok pieces⟩
  obtain ⟨tables, htables, ⟨⟩⟩ := Except.bind_eq_ok_iff.mp hlisted
  obtain rfl := sources_eq_of_ok htables
  refine ⟨(other.sourceTables, otherInto), ⟨Query.sourceTables_alike hquery, hinto⟩, ?_, ?_⟩
  · simp
  · simp [sharedOutputs, Catalog.Output.pieces, Catalog.Output.ofField, Pieces.join, Term.pieces]

/-- The description of shared columns says the source tables, and the first of them again. -/
theorem uniform_definingColumns (query : Query) :
    Uniform false
      (fun listed : Query × Pieces =>
        listed.1.erased = query.erased ∧ definingColumns listed.1 = .ok listed.2)
      (fun listed => listed.1.sourceTables.map Table.objectQuote ++
        (listed.1.sourceTables.head?.map Table.objectQuote).toList) Prod.snd := by
  have hshared := uniform_derivedPieces ((uniform_intersection query.sourceTables).on
    (fun named : Table × List Table => named.1 :: named.2) fun _ h => h)
  refine (uniform_describedIn Prod.fst (.own (Listing.tidy_pieces tidy_columnListing))
    hshared).along ?_
  rintro ⟨other, pieces⟩ ⟨halike, hlisted : definingColumns other = .ok pieces⟩
  have htables := Query.sourceTables_alike halike
  unfold definingColumns at hlisted
  cases hother : other.sourceTables with
  | nil => simp [hother] at hlisted
  | cons first rest =>
    rw [hother] at htables hlisted
    cases hlisted
    exact ⟨(first, rest), htables, by simp, rfl⟩

end Schema

/-! ## Statements -/

namespace SchemaOperation

/-- An operation without any name or text default. -/
def erased : SchemaOperation → SchemaOperation
  | .createTable table columns => .createTable table.erased (columns.map Column.erased)
  | .tableExists table => .tableExists table.erased
  | .dropTable table => .dropTable table.erased
  | .columnExists table _ => .columnExists table.erased ""
  | .addColumn table column => .addColumn table.erased column.erased
  | .dropColumn table _ => .dropColumn table.erased ""
  | .indexExists table _ => .indexExists table.erased ""
  | .addIndex table index => .addIndex table.erased index.erased
  | .dropIndex table _ => .dropIndex table.erased ""
  | .tableColumns table => .tableColumns table.erased
  | .tableIndexes table => .tableIndexes table.erased
  | .definingColumns query => .definingColumns query.erased
  | .unionColumns query => .unionColumns query.erased
  | .sharedColumns query into => .sharedColumns query.erased into.erased

/-- The columns that an operation defines. -/
def columns : SchemaOperation → List Column
  | .createTable _ columns => columns
  | .addColumn _ column => [column]
  | _ => []

/-- The quoted tokens that say the names and text defaults of an operation, in the order in which
its text has them. -/
def quotes : SchemaOperation → List Token
  | .createTable table columns =>
    table.nameQuotes ++ (columns.flatMap Column.quotes ++ Schema.keyQuotes table columns)
  | .tableExists table => table.searchQuotes
  | .dropTable table => table.searchQuotes ++ table.nameQuotes
  | .columnExists table name | .indexExists table name => [table.objectQuote, .literal false name]
  | .addColumn table column => table.nameQuotes ++ column.quotes
  | .dropColumn table name =>
    [table.objectQuote, .literal false name] ++ (table.nameQuotes ++ [.name name])
  | .addIndex table index =>
    [.name (index.nameFor table.name)] ++
      (table.nameQuotes ++ index.keys.map fun key => .name key.name)
  | .dropIndex table name =>
    [table.objectQuote, .literal false name] ++ ([.name name] ++ table.nameQuotes)
  | .tableColumns table | .tableIndexes table => [table.objectQuote]
  | .definingColumns query =>
    query.sourceTables.map Table.objectQuote ++
      (query.sourceTables.head?.map Table.objectQuote).toList
  | .unionColumns query => query.sourceTables.map Table.objectQuote
  | .sharedColumns query into =>
    query.sourceTables.map Table.objectQuote ++
      ((query.sourceTables ++ [into]).map Table.objectQuote ++ [into.objectQuote])

/-- The texts of alike operations have one frame. -/
theorem uniform_pieces {operation : SchemaOperation}
    (hwritten : ∀ column ∈ operation.columns, column.copiesText = false) :
    Uniform false
      (fun rendered : SchemaOperation × Pieces =>
        rendered.1.erased = operation.erased ∧ rendered.1.pieces = .ok rendered.2)
      (fun rendered => rendered.1.quotes) Prod.snd := by
  -- An operation that is alike is of the same kind, so the frame of that kind serves it.
  cases operation with
  | createTable table columns =>
    refine (Schema.uniform_createTable table hwritten).along ?_
    rintro ⟨other, pieces⟩ ⟨halike, hpieces⟩
    cases other with
    | createTable otherTable others =>
      obtain ⟨hfirst, hsecond⟩ := createTable.inj halike
      exact ⟨((otherTable, others), pieces), ⟨hfirst, hsecond, hpieces⟩, rfl, rfl⟩
    | _ => cases halike
  | tableExists table =>
    refine (Schema.uniform_existence (Schema.uniform_tableCheck table)).along ?_
    rintro ⟨other, pieces⟩ ⟨halike, hpieces⟩
    cases other with
    | tableExists otherTable =>
      exact ⟨otherTable, tableExists.inj halike, rfl, (Except.ok.inj hpieces).symm⟩
    | _ => cases halike
  | dropTable table =>
    refine (Schema.uniform_dropTable table).along ?_
    rintro ⟨other, pieces⟩ ⟨halike, hpieces⟩
    cases other with
    | dropTable otherTable =>
      exact ⟨otherTable, dropTable.inj halike, rfl, (Except.ok.inj hpieces).symm⟩
    | _ => cases halike
  | columnExists table name =>
    refine (Schema.uniform_objectExists .columns table).along ?_
    rintro ⟨other, pieces⟩ ⟨halike, hpieces⟩
    cases other with
    | columnExists otherTable otherName =>
      obtain ⟨htable, -⟩ := columnExists.inj halike
      exact ⟨(otherTable, otherName), htable, rfl, (Except.ok.inj hpieces).symm⟩
    | _ => cases halike
  | addColumn table column =>
    refine (Schema.uniform_addColumn table (hwritten column List.mem_cons_self)).along ?_
    rintro ⟨other, pieces⟩ ⟨halike, hpieces⟩
    cases other with
    | addColumn otherTable otherColumn =>
      obtain ⟨hfirst, hsecond⟩ := addColumn.inj halike
      exact ⟨((otherTable, otherColumn), pieces), ⟨hfirst, hsecond, hpieces⟩, rfl, rfl⟩
    | _ => cases halike
  | dropColumn table name =>
    refine (Schema.uniform_dropColumn table).along ?_
    rintro ⟨other, pieces⟩ ⟨halike, hpieces⟩
    cases other with
    | dropColumn otherTable otherName =>
      obtain ⟨htable, -⟩ := dropColumn.inj halike
      exact ⟨(otherTable, otherName), htable, rfl, (Except.ok.inj hpieces).symm⟩
    | _ => cases halike
  | indexExists table name =>
    refine (Schema.uniform_objectExists .indexes table).along ?_
    rintro ⟨other, pieces⟩ ⟨halike, hpieces⟩
    cases other with
    | indexExists otherTable otherName =>
      obtain ⟨htable, -⟩ := indexExists.inj halike
      exact ⟨(otherTable, otherName), htable, rfl, (Except.ok.inj hpieces).symm⟩
    | _ => cases halike
  | addIndex table index =>
    refine (Schema.uniform_addIndex table index).along ?_
    rintro ⟨other, pieces⟩ ⟨halike, hpieces⟩
    cases other with
    | addIndex otherTable otherIndex =>
      obtain ⟨hfirst, hsecond⟩ := addIndex.inj halike
      exact ⟨((otherTable, otherIndex), pieces), ⟨hfirst, hsecond, hpieces⟩, rfl, rfl⟩
    | _ => cases halike
  | dropIndex table name =>
    refine (Schema.uniform_dropIndex table).along ?_
    rintro ⟨other, pieces⟩ ⟨halike, hpieces⟩
    cases other with
    | dropIndex otherTable otherName =>
      obtain ⟨htable, -⟩ := dropIndex.inj halike
      exact ⟨(otherTable, otherName), htable, rfl, (Except.ok.inj hpieces).symm⟩
    | _ => cases halike
  | tableColumns table =>
    refine (Schema.uniform_ofTable Schema.tidy_columnListing table).along ?_
    rintro ⟨other, pieces⟩ ⟨halike, hpieces⟩
    cases other with
    | tableColumns otherTable =>
      exact ⟨otherTable, tableColumns.inj halike, rfl, (Except.ok.inj hpieces).symm⟩
    | _ => cases halike
  | tableIndexes table =>
    refine (Schema.uniform_ofTable Schema.tidy_indexListing table).along ?_
    rintro ⟨other, pieces⟩ ⟨halike, hpieces⟩
    cases other with
    | tableIndexes otherTable =>
      exact ⟨otherTable, tableIndexes.inj halike, rfl, (Except.ok.inj hpieces).symm⟩
    | _ => cases halike
  | definingColumns query =>
    refine (Schema.uniform_definingColumns query).along ?_
    rintro ⟨other, pieces⟩ ⟨halike, hpieces⟩
    cases other with
    | definingColumns otherQuery =>
      exact ⟨(otherQuery, pieces), ⟨definingColumns.inj halike, hpieces⟩, rfl, rfl⟩
    | _ => cases halike
  | unionColumns query =>
    refine (Schema.uniform_unionColumns query).along ?_
    rintro ⟨other, pieces⟩ ⟨halike, hpieces⟩
    cases other with
    | unionColumns otherQuery =>
      exact ⟨(otherQuery, pieces), ⟨unionColumns.inj halike, hpieces⟩, rfl, rfl⟩
    | _ => cases halike
  | sharedColumns query into =>
    refine (Schema.uniform_sharedColumns query into).along ?_
    rintro ⟨other, pieces⟩ ⟨halike, hpieces⟩
    cases other with
    | sharedColumns otherQuery otherInto =>
      obtain ⟨hfirst, hsecond⟩ := sharedColumns.inj halike
      exact ⟨((otherQuery, otherInto), pieces), ⟨hfirst, hsecond, hpieces⟩, rfl, rfl⟩
    | _ => cases halike

/-- Operations that differ in names and text defaults only have the same tokens but for what these
quote: there is one frame whose gaps the names and texts of each operation fill. -/
theorem tokens_of_alike {operation : SchemaOperation} {statement : Statement}
    (hwritten : ∀ column ∈ operation.columns, column.copiesText = false)
    (hstatement : operation.statement = .ok statement) :
    ∃ frame,
      Sql.fill frame operation.quotes = some (Sql.tokens statement.text) ∧
      ∀ (other : SchemaOperation) (otherStatement : Statement),
        other.erased = operation.erased →
        other.statement = .ok otherStatement →
          Sql.fill frame other.quotes = some (Sql.tokens otherStatement.text) ∧
          (Sql.tokens otherStatement.text).map Token.erased =
            (Sql.tokens statement.text).map Token.erased := by
  obtain ⟨frame, hframe⟩ := uniform_pieces hwritten
  have hfilled {other : SchemaOperation} {otherStatement : Statement}
      (halike : other.erased = operation.erased)
      (hother : other.statement = .ok otherStatement) :
      Sql.fill frame other.quotes = some (Sql.tokens otherStatement.text) := by
    obtain ⟨pieces, hpieces, rfl⟩ := Except.map_eq_ok_iff.mp hother
    exact (hframe (other, pieces) ⟨halike, hpieces⟩).fill_spell
  have hown := hfilled rfl hstatement
  refine ⟨frame, hown, fun other otherStatement halike hother => ?_⟩
  have hothers := hfilled halike hother
  refine ⟨hothers, ?_⟩
  rw [Sql.map_erased_of_fill hothers, Sql.map_erased_of_fill hown]

/-- The creation of a table with a key and a text default. -/
def creation (schema table key column text : String) : SchemaOperation :=
  .createTable ⟨table, some schema⟩
    [{ Column.stored key (.host .int32) with key := .primary },
     { Column.stored column (.sql .nVarChar) with
        length := some 40, default := some (.value (.text text)) }]

/-- Names and a text that would end their quotes, as they stand. -/
def hostileCreation : SchemaOperation :=
  creation "d].[bo" "a](x int); SELECT [" "]]" "b' OR 'a" "'); DROP TABLE [Person]; SELECT ('"

/-- Such names and texts change no tokens but those that say them. -/
theorem tokens_of_alike_creation :
    ∃ frame plain hostile,
      (creation "dbo" "Person" "Id" "Name" "none").statement = .ok plain ∧
      hostileCreation.statement = .ok hostile ∧
      Sql.fill frame hostileCreation.quotes = some (Sql.tokens hostile.text) ∧
      (Sql.tokens hostile.text).map Token.erased = (Sql.tokens plain.text).map Token.erased := by
  obtain ⟨plain, hplain⟩ : ∃ plain,
      (creation "dbo" "Person" "Id" "Name" "none").statement = .ok plain := ⟨_, rfl⟩
  obtain ⟨hostile, hhostile⟩ : ∃ hostile, hostileCreation.statement = .ok hostile := ⟨_, rfl⟩
  obtain ⟨frame, -, hframe⟩ := tokens_of_alike (by decide) hplain
  obtain ⟨hfilled, herased⟩ := hframe hostileCreation hostile rfl hhostile
  exact ⟨frame, plain, hostile, hplain, hhostile, hfilled, herased⟩

end SchemaOperation

end SqlScribe
