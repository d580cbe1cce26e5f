import SqlScribe.CommandLine.Output
import SqlScribe.Proofs.Lexing.Lines
import SqlScribe.Proofs.Lexing.QueryText

/-!
# Comments of a script

A script states the bound values of a statement as comments in front of it.  A
value may have more than one line, and a comment ends with its line, so the further
lines of a value are hidden only if they are blank or comments themselves.

Main definitions:

- `Sql.Remains` says what of a script should remain without its comments.

Main results:

- `Sql.visibleLines_comment_iff`: a comment in front of a script leaves nothing if and
  only if all its lines are hidden.
- `OutputFormat.visibleLines_script_iff`: a script consists of its statements if and
  only if no bound value has a line that leaves its comment.
-/

namespace SqlScribe

namespace Sql

/-! ## Comments in front of a script -/

/-- What should remain of a script: all its lines stand in the script, and it begins
with a word. -/
structure Remains (script expected : List Char) : Prop where
  marks : (marks false expected).Sublist (marks false script)
  begins : ∀ c ∈ expected.head?, isBlank c = false ∧ c ≠ '-'

variable {script expected : List Char}

/-- The same should remain of a script with a further line in front. -/
theorem Remains.cons (hremains : Remains script expected) (front : List Char) {ending : Char}
    (hending : isLineEnd ending = true) : Remains (front ++ ending :: script) expected := by
  refine ⟨?_, hremains.begins⟩
  rw [marks_append_cons _ _ _ hending]
  exact hremains.marks.trans (List.sublist_append_right _ _)

/-- A line that is not hidden changes what remains.  It is the first line that does, so
it would have to begin like the first line of a statement, and then there is one such
line too many. -/
theorem visibleLines_ne_of_not_isHidden {line : List Char}
    (hline : ∀ c ∈ line, isLineEnd c = false) (hshown : isHidden line = false) {ending : Char}
    (hending : isLineEnd ending = true) (hremains : Remains script expected) :
    visibleLines (liveText (line ++ ending :: script)) ≠ visibleLines expected := by
  intro heq
  obtain ⟨blanks, c, rest, more, rfl, hblanks, hc, hlive⟩ :=
    exists_liveText_eq_append hshown hending script
  have hsame : marks false (liveText (blanks ++ c :: rest ++ ending :: script)) =
      marks false expected := by
    rw [marks_eq_filterMap_visibleLines, heq, ← marks_eq_filterMap_visibleLines]
  have hmarks : marks false expected = c :: marks true more := by
    rw [← hsame, hlive, marks_blanks_append hblanks, marks_false_cons hc]
  have hdash : c ≠ '-' := by
    cases expected with
    | nil => simp [marks] at hmarks
    | cons d tail =>
      obtain ⟨hblank, hdash⟩ := hremains.begins d rfl
      rw [marks_false_cons hblank, List.cons.injEq] at hmarks
      rw [← hmarks.1]
      exact hdash
  have hscript : marks false (blanks ++ c :: rest ++ ending :: script) =
      c :: (marks true rest ++ marks false script) := by
    rw [marks_append_cons _ _ _ hending, marks_blanks_append hblanks, marks_false_cons hc,
      List.cons_append]
  have hkept := (sublist_marks_liveText (blanks ++ c :: rest ++ ending :: script)).count_le c
  rw [List.count_filter (by simpa using hdash), hscript, List.count_cons_self,
    List.count_append, hsame] at hkept
  have hcount := hremains.marks.count_le c
  omega

/-- A comment in front of a script leaves nothing if and only if all its lines are
hidden. -/
theorem visibleLines_comment_iff (comment : List Char) {ending : Char}
    (hending : isLineEnd ending = true) (hremains : Remains script expected) :
    visibleLines (liveText (comment ++ ending :: script)) = visibleLines expected ↔
      (∀ line ∈ lines comment, isHidden line = true) ∧
        visibleLines (liveText script) = visibleLines expected := by
  have hfirst : ∀ {line : List Char} {ending : Char} {script : List Char},
      (∀ c ∈ line, isLineEnd c = false) → isLineEnd ending = true → Remains script expected →
      (visibleLines (liveText (line ++ ending :: script)) = visibleLines expected ↔
        isHidden line = true ∧ visibleLines (liveText script) = visibleLines expected) := by
    intro line ending script hline hending hremains
    cases hhidden : isHidden line with
    | true => simp [visibleLines_liveText_of_isHidden hline hhidden hending]
    | false => simp [visibleLines_ne_of_not_isHidden hline hhidden hending hremains]
  induction comment using lines_induction with
  | hline line hline =>
    rw [hfirst hline hending hremains, lines_eq_singleton hline]
    simp
  | hcons line inner rest hline hinner ih =>
    have hrest : visibleLines (liveText (rest ++ ending :: script)) = visibleLines expected ↔
        (∀ line ∈ lines rest, isHidden line = true) ∧
          visibleLines (liveText script) = visibleLines expected := ih
    rw [List.append_assoc, List.cons_append, hfirst hline hinner (hremains.cons rest hending),
      hrest, lines_append_cons _ _ hinner, lines_eq_singleton hline]
    simp [and_assoc]

/-! ## Texts that stand by themselves -/

/-- A text that stands by itself: it has no comment, begins with a word and ends with
its line. -/
structure Standing (text : List Char) : Prop where
  closed : (Mode.blank.after text).closed = true
  live : liveText text = text
  begins : ∃ c rest, text = c :: rest ∧ isBlank c = false ∧ c ≠ '-'
  ends : ∃ front ending, text = front ++ [ending] ∧ isLineEnd ending = true

variable {text : List Char}

/-- The same should remain behind a text that stands by itself. -/
theorem Remains.append (hremains : Remains script expected) (htext : Standing text) :
    Remains (text ++ script) (text ++ expected) := by
  obtain ⟨front, ending, hends, hending⟩ := htext.ends
  obtain ⟨c, rest, hbegins, hc⟩ := htext.begins
  refine ⟨?_, ?_⟩
  · rw [hends, List.append_assoc, List.append_assoc, List.singleton_append,
      List.singleton_append, marks_append_cons _ _ _ hending, marks_append_cons _ _ _ hending]
    exact List.Sublist.append (List.Sublist.refl _) hremains.marks
  · intro d hd
    rw [hbegins, List.cons_append, List.head?_cons, Option.mem_some_iff] at hd
    rw [← hd]
    exact hc

/-- Behind a text that stands by itself nothing changes what remains. -/
theorem visibleLines_append_iff (htext : Standing text) (script expected : List Char) :
    visibleLines (liveText (text ++ script)) = visibleLines (text ++ expected) ↔
      visibleLines (liveText script) = visibleLines expected := by
  obtain ⟨front, ending, hends, hending⟩ := htext.ends
  rw [liveText_append_of_closed htext.closed, htext.live, hends, List.append_assoc,
    List.append_assoc, List.singleton_append, List.singleton_append,
    visibleLines_append_cons _ _ hending, visibleLines_append_cons _ _ hending]
  exact List.append_right_inj _

end Sql

/-! ## Bound values -/

open Sql

/-- A bound value as a comment, without the end of its line. -/
def Parameter.comment (parameter : Parameter) : List Char :=
  ("-- " ++ parameter.name ++ " = " ++ parameter.value.inline).toList

/-- The first line of the comment is one whatever the value is, so its further lines
decide whether all of it is hidden. -/
theorem Parameter.isHidden_comment_iff {parameter : Parameter}
    (hname : ∀ c ∈ parameter.name.toList, isLineEnd c = false) :
    (∀ line ∈ lines parameter.comment, isHidden line = true) ↔
      ∀ line ∈ (lines parameter.value.inline.toList).tail, isHidden line = true := by
  have hfront : ∀ c ∈ '-' :: '-' :: ' ' :: (parameter.name.toList ++ " = ".toList),
      isLineEnd c = false := by
    intro c hc
    simp only [List.mem_cons, List.mem_append] at hc
    rcases hc with rfl | rfl | rfl | hc | hc
    · rfl
    · rfl
    · rfl
    · exact hname c hc
    · have hplain : " = ".toList.all (!isLineEnd ·) = true := rfl
      simpa using List.all_eq_true.mp hplain c hc
  have hcomment : parameter.comment =
      ('-' :: '-' :: ' ' :: (parameter.name.toList ++ " = ".toList)) ++
        parameter.value.inline.toList := by
    simp [Parameter.comment]
  obtain ⟨first, more, hlines⟩ :=
    List.exists_cons_of_ne_nil (List.splitOnP_ne_nil isLineEnd parameter.value.inline.toList)
  have hinline : lines parameter.value.inline.toList = first :: more := hlines
  rw [hcomment, lines_append hfront, hinline, List.modifyHead_cons, List.forall_mem_cons]
  simp only [List.tail_cons, and_iff_right_iff_imp]
  intro _
  rfl

/-- The comments of bound values in front of a script leave nothing if and only if all
their lines are hidden. -/
theorem Sql.visibleLines_comments_iff {parameters : List Parameter} {script expected : List Char}
    (hnames : ∀ parameter ∈ parameters, ∀ c ∈ parameter.name.toList, isLineEnd c = false)
    (hremains : Remains script expected) :
    Remains (parameters.flatMap (fun p => (Statement.parameterComment p).toList) ++ script)
        expected ∧
      (visibleLines (liveText (parameters.flatMap
          (fun p => (Statement.parameterComment p).toList) ++ script)) = visibleLines expected ↔
        (∀ parameter ∈ parameters, ∀ line ∈ (lines parameter.value.inline.toList).tail,
          isHidden line = true) ∧
          visibleLines (liveText script) = visibleLines expected) := by
  induction parameters with
  | nil => simp [hremains]
  | cons parameter rest ih =>
    obtain ⟨hfollows, hvisible⟩ := ih fun p hp => hnames p (List.mem_cons_of_mem parameter hp)
    have hcomment : (Statement.parameterComment parameter).toList =
        parameter.comment ++ ['\n'] := by
      simp [Statement.parameterComment, Parameter.comment]
    have hname := hnames parameter List.mem_cons_self
    have hend : isLineEnd '\n' = true := rfl
    rw [List.flatMap_cons, hcomment, List.append_assoc, List.append_assoc,
      List.singleton_append]
    refine ⟨hfollows.cons parameter.comment hend, ?_⟩
    rw [visibleLines_comment_iff _ hend hfollows, hvisible, parameter.isHidden_comment_iff hname,
      List.forall_mem_cons, and_assoc]

/-! ## Statements -/

namespace Query

/-- The statement of a query stands by itself. -/
theorem standing_statement {query : Query} {statement : Statement}
    (hstatement : query.statement = .ok statement) :
    Standing (statement.text ++ ";\n").toList := by
  obtain ⟨pieces, values, hpieces, rfl⟩ := statement_eq_ok_iff.mp hstatement
  obtain ⟨c, hhead, hc⟩ := exists_head?_spell_pieces hpieces
  have hsettled := settled_spell_pieces hpieces
  have hcomment := fun lexeme => @mode_ne_comment query [] values pieces hpieces lexeme
  simp only [String.toList_append]
  generalize (pieces.spell .sqlServer).toList = text at hhead hsettled hcomment
  have hcut : (Mode.blank.after text).next? ';' = none :=
    Mode.next?_of_isSeparator hsettled rfl
  refine ⟨?_, ?_, ?_, ⟨text ++ [';'], '\n', by simp, rfl⟩⟩
  · rw [Mode.after_append]
    change ((Mode.blank.after text).after [';', '\n']).closed = true
    rw [Mode.after, hcut]
    rfl
  · have hends : ∀ d ∈ ";\n".toList.head?, (Mode.blank.after text).next? d = none := by
      intro d hd
      have hd : ';' = d := by simpa using hd
      rw [← hd]
      exact hcut
    rw [liveText_append hends, liveText_eq_self hcomment]
    rfl
  · obtain ⟨rest, rfl⟩ : ∃ rest, text = c :: rest := by
      cases text with
      | nil => simp at hhead
      | cons d rest =>
        have hd : d = c := by simpa using hhead
        exact ⟨rest, by rw [hd]⟩
    have hblank : isBlank c = false := by
      cases hblank : isBlank c with
      | false => rfl
      | true =>
        simp only [isBlank, isLineEnd, Bool.or_eq_true, decide_eq_true_eq] at hblank
        rcases hblank with (rfl | rfl) | rfl | rfl <;> simp at hc
    refine ⟨c, rest ++ ";\n".toList, rfl, hblank, ?_⟩
    rintro rfl
    simp at hc

/-- No name of a parameter has the end of a line in it. -/
theorem isLineEnd_eq_false_of_mem_name {query : Query} {statement : Statement}
    (hstatement : query.statement = .ok statement) :
    ∀ parameter ∈ statement.parameters, ∀ c ∈ parameter.name.toList, isLineEnd c = false := by
  obtain ⟨pieces, values, hpieces, rfl⟩ := statement_eq_ok_iff.mp hstatement
  intro parameter hparameter c hc
  have hname := List.mem_map_of_mem (f := (·.name)) hparameter
  rw [names_namedParameters] at hname
  obtain ⟨index, -, hindex⟩ := List.mem_map.mp hname
  have hchars : c ∈ '@' :: 'p' :: Nat.toDigits 10 index := by
    rw [← Piece.chars_placeholder]
    change c ∈ (Dialect.sqlServer.placeholder index).toList
    rw [hindex]
    exact hc
  simp only [List.mem_cons] at hchars
  rcases hchars with rfl | rfl | hdigit
  · rfl
  · rfl
  · have hdigit := Nat.isDigit_of_mem_toDigits (by decide) (by decide) hdigit
    simp only [isLineEnd, Bool.or_eq_false_iff, decide_eq_false_iff_not]
    constructor <;> rintro rfl <;> simp at hdigit

end Query

namespace Statement

/-- The same holds statement by statement. -/
theorem visibleLines_scripts_iff {statements : List Statement}
    (hrendered : ∀ statement ∈ statements, ∃ query : Query, query.statement = .ok statement) :
    Remains (statements.flatMap (·.script.toList))
        (statements.flatMap fun statement => (statement.text ++ ";\n").toList) ∧
      (visibleLines (liveText (statements.flatMap (·.script.toList))) =
          visibleLines (statements.flatMap fun statement => (statement.text ++ ";\n").toList) ↔
        ∀ statement ∈ statements, ∀ parameter ∈ statement.parameters,
          ∀ line ∈ (lines parameter.value.inline.toList).tail, isHidden line = true) := by
  induction statements with
  | nil => exact ⟨⟨.slnil, by simp⟩, by simp [liveText]⟩
  | cons statement rest ih =>
    obtain ⟨hfollows, hvisible⟩ := ih fun other hother =>
      hrendered other (List.mem_cons_of_mem statement hother)
    obtain ⟨query, hquery⟩ := hrendered statement List.mem_cons_self
    have hstanding := Query.standing_statement hquery
    have hscript : statement.script.toList =
        statement.parameters.flatMap (fun p => (parameterComment p).toList) ++
          (statement.text ++ ";\n").toList := by
      simp [script, String.toList_join, List.flatMap_map]
    obtain ⟨hremains, hcomments⟩ := visibleLines_comments_iff
      (Query.isLineEnd_eq_false_of_mem_name hquery) (hfollows.append hstanding)
    rw [List.flatMap_cons, List.flatMap_cons, hscript, List.append_assoc]
    refine ⟨hremains, ?_⟩
    rw [hcomments, visibleLines_append_iff hstanding, hvisible, List.forall_mem_cons]

/-- The statements of a script, each with its end. -/
def texts (statements : List Statement) : String :=
  String.join (statements.map fun statement => statement.text ++ ";\n")

end Statement

/-- Without its comments a script consists of its statements if and only if no bound
value has a line that leaves its comment: every line of its literal but the first one is
blank or a comment by itself. -/
theorem OutputFormat.visibleLines_script_iff {statements : List Statement}
    (hrendered : ∀ statement ∈ statements, ∃ query : Query, query.statement = .ok statement) :
    visibleLines (liveText (OutputFormat.sql.write statements).toList) =
        visibleLines (Statement.texts statements).toList ↔
      ∀ statement ∈ statements, ∀ parameter ∈ statement.parameters,
        ∀ line ∈ (lines parameter.value.inline.toList).tail, isHidden line = true := by
  have hscripts : (OutputFormat.sql.write statements).toList =
      statements.flatMap (·.script.toList) := by
    simp [OutputFormat.write, String.toList_join, List.flatMap_map]
  have htexts : (Statement.texts statements).toList =
      statements.flatMap fun statement => (statement.text ++ ";\n").toList := by
    simp [Statement.texts, String.toList_join, List.flatMap_map]
  rw [hscripts, htexts]
  exact (Statement.visibleLines_scripts_iff hrendered).2

/-- A comparison with a text. -/
def Query.comparing (text : String) : Query :=
  (Query.ofTable ⟨"t", none⟩).filtered ((Expr.field "f").compare .equal (.text text))

/-- The statement of a comparison with a text. -/
def Statement.comparing (text : String) : Statement :=
  { text := "SELECT * FROM [t] WHERE [f] = @p0"
    parameters := [⟨"@p0", .text text⟩]
    result := .multiple }

/-- A text whose second line is a comment stays hidden. -/
theorem OutputFormat.visibleLines_script_comparing :
    visibleLines (liveText (OutputFormat.sql.write [.comparing "a\n -- b"]).toList) =
      visibleLines (Statement.texts [.comparing "a\n -- b"]).toList := by
  have hrendered : ∀ statement ∈ [Statement.comparing "a\n -- b"],
      ∃ query : Query, query.statement = .ok statement := by
    intro statement hstatement
    rw [List.mem_singleton.mp hstatement]
    exact ⟨.comparing "a\n -- b", rfl⟩
  exact (OutputFormat.visibleLines_script_iff hrendered).mpr (by decide)

/-- A text whose second line is a statement adds that statement to the script. -/
theorem OutputFormat.visibleLines_script_ne :
    (Query.comparing "a\nDROP TABLE [t] --").statement = .ok (.comparing "a\nDROP TABLE [t] --") ∧
      visibleLines (liveText
          (OutputFormat.sql.write [.comparing "a\nDROP TABLE [t] --"]).toList) =
        ["DROP TABLE [t] ".toList, "SELECT * FROM [t] WHERE [f] = @p0;".toList] ∧
      visibleLines (liveText
          (OutputFormat.sql.write [.comparing "a\nDROP TABLE [t] --"]).toList) ≠
        visibleLines (Statement.texts [.comparing "a\nDROP TABLE [t] --"]).toList := by
  refine ⟨rfl, ?_, ?_⟩
  · decide
  · decide

end SqlScribe
