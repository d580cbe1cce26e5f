import Mathlib.Data.List.TakeWhile
import SqlScribe.Proofs.Lexing.Spacing

/-!
# Lines and comments of server text

A comment hides the rest of its line.  What it leaves of a text is compared line by
line, with blank lines left out.

Main definitions:

- `Sql.liveText` is a text without its comments.
- `Sql.visibleLines` are the lines that are not blank; `Sql.marks` are their first
  characters that are not blank.
- `Sql.isHidden` holds of the lines that are blank or comments.

Main results:

- `Sql.visibleLines_liveText_of_isHidden`: a hidden line leaves nothing.
- `Sql.exists_liveText_eq_append`: every other line keeps its mark.
- `Sql.sublist_marks_liveText`: whatever stands around it, a line that does not begin
  with a dash keeps its mark.
-/

namespace SqlScribe.Sql

/-! ## Lines -/

/-- The lines of a text. -/
def lines (text : List Char) : List (List Char) := text.splitOnP isLineEnd

/-- The first character of a line that is not blank. -/
def mark? (line : List Char) : Option Char := line.find? (!isBlank ·)

/-- The lines that are not blank. -/
def visibleLines (text : List Char) : List (List Char) :=
  (lines text).filter fun line => (mark? line).isSome

/-- The marks of the lines that have one; the flag says whether that of the first line
has been read. -/
def marks (seen : Bool) : List Char → List Char
  | [] => []
  | c :: rest =>
    if isLineEnd c then marks false rest
    else if isBlank c || seen then marks seen rest
    else c :: marks true rest

/-- Whether a line is blank or has nothing but a comment in it. -/
def isHidden (line : List Char) : Bool :=
  match line.dropWhile isBlank with
  | [] => true
  | '-' :: '-' :: _ => true
  | _ => false

/-- A text without its comments. -/
def liveText (text : List Char) : List Char :=
  ((lexemes text).filter (·.mode ≠ .comment)).flatMap (·.text)

/-- The end of a line parts the lines of two texts. -/
theorem lines_append_cons (a b : List Char) {ending : Char} (hending : isLineEnd ending = true) :
    lines (a ++ ending :: b) = lines a ++ lines b :=
  List.splitOnP_append_cons a b hending

/-- A text without the end of a line is a single line. -/
theorem lines_eq_singleton {line : List Char} (hline : ∀ c ∈ line, isLineEnd c = false) :
    lines line = [line] :=
  List.splitOnP_eq_singleton hline

/-- The end of a line parts the visible lines of two texts. -/
theorem visibleLines_append_cons (a b : List Char) {ending : Char}
    (hending : isLineEnd ending = true) :
    visibleLines (a ++ ending :: b) = visibleLines a ++ visibleLines b := by
  simp [visibleLines, lines_append_cons a b hending]

/-- What holds of a single line and is kept by a further line in front holds of every
text. -/
theorem lines_induction {holds : List Char → Prop}
    (hline : ∀ line, (∀ c ∈ line, isLineEnd c = false) → holds line)
    (hcons : ∀ line ending rest, (∀ c ∈ line, isLineEnd c = false) → isLineEnd ending = true →
      holds rest → holds (line ++ ending :: rest))
    (text : List Char) : holds text := by
  have hfront : ∀ line, (∀ c ∈ line, isLineEnd c = false) → holds (line ++ text) := by
    induction text with
    | nil => simpa using hline
    | cons c rest ih =>
      intro line hclean
      cases hc : isLineEnd c with
      | true => exact hcons line c rest hclean hc (ih [] (by simp))
      | false =>
        have hmore := ih (line ++ [c]) fun d hd => by
          rcases List.mem_append.mp hd with hd | hd
          · exact hclean d hd
          · rw [List.mem_singleton.mp hd]
            exact hc
        simpa using hmore
  exact hfront [] (by simp)

/-- A text without the end of a line in front of another one is part of its first line. -/
theorem lines_append {front : List Char} (hfront : ∀ c ∈ front, isLineEnd c = false)
    (text : List Char) : lines (front ++ text) = (lines text).modifyHead (front ++ ·) := by
  induction front with
  | nil => cases hlines : lines text <;> simp [hlines]
  | cons c rest ih =>
    have hc := hfront c List.mem_cons_self
    have hrest := ih fun d hd => hfront d (List.mem_cons_of_mem c hd)
    rw [lines] at hrest
    rw [List.cons_append, lines, List.splitOnP_cons_eq_if_modifyHead, hrest]
    simp [hc, lines, Function.comp_def]

/-- Every line is blank or has a mark behind blanks. -/
theorem exists_mark (line : List Char) :
    (∀ c ∈ line, isBlank c = true) ∨
      ∃ blanks c rest, line = blanks ++ c :: rest ∧ (∀ d ∈ blanks, isBlank d = true) ∧
        isBlank c = false := by
  induction line with
  | nil => exact .inl (by simp)
  | cons c rest ih =>
    by_cases hc : isBlank c = true
    · rcases ih with hblank | ⟨blanks, d, more, rfl, hblanks, hd⟩
      · left
        simpa [hc] using hblank
      · refine .inr ⟨c :: blanks, d, more, rfl, ?_, hd⟩
        simpa [hc] using hblanks
    · exact .inr ⟨[], c, rest, rfl, by simp, by simpa using hc⟩

/-- The end of a line is a blank. -/
theorem isBlank_of_isLineEnd {c : Char} (hc : isLineEnd c = true) : isBlank c = true := by
  simp [isBlank, hc]

/-- What is not blank does not end a line. -/
theorem isLineEnd_of_not_isBlank {c : Char} (hc : isBlank c = false) : isLineEnd c = false := by
  simp only [isBlank, Bool.or_eq_false_iff] at hc
  exact hc.2

/-! ## Marks -/

/-- The end of a line parts the marks of two texts. -/
theorem marks_append_cons (seen : Bool) (a b : List Char) {ending : Char}
    (hending : isLineEnd ending = true) :
    marks seen (a ++ ending :: b) = marks seen a ++ marks false b := by
  induction a generalizing seen with
  | nil => simp [marks, hending]
  | cons c rest ih =>
    simp only [List.cons_append, marks]
    repeat' split
    all_goals simp [ih]

/-- The rest of a line behind its mark has none. -/
theorem marks_true_append {line : List Char} (hline : ∀ c ∈ line, isLineEnd c = false)
    (text : List Char) : marks true (line ++ text) = marks true text := by
  induction line with
  | nil => rfl
  | cons c rest ih =>
    have hc := hline c List.mem_cons_self
    simp [marks, hc, ih fun d hd => hline d (List.mem_cons_of_mem c hd)]

/-- A line has its mark and no other. -/
theorem marks_false_line {line : List Char} (hline : ∀ c ∈ line, isLineEnd c = false) :
    marks false line = (mark? line).toList := by
  induction line with
  | nil => rfl
  | cons c rest ih =>
    have hc := hline c List.mem_cons_self
    have hrest := fun d hd => hline d (List.mem_cons_of_mem c hd)
    cases hblank : isBlank c with
    | true => simpa [marks, mark?, hc, hblank] using ih hrest
    | false =>
      have hnone : marks true rest = [] := by simpa [marks] using marks_true_append hrest []
      simp [marks, mark?, hc, hblank, hnone]

/-- The marks of a text are those of its visible lines. -/
theorem marks_eq_filterMap_visibleLines (text : List Char) :
    marks false text = (visibleLines text).filterMap mark? := by
  have hsingle : ∀ line : List Char,
      (mark? line).toList = ([line].filter fun line => (mark? line).isSome).filterMap mark? := by
    intro line
    cases hmark : mark? line <;> simp [hmark]
  induction text using lines_induction with
  | hline line hline =>
    rw [marks_false_line hline, visibleLines, lines_eq_singleton hline]
    exact hsingle line
  | hcons line ending rest hline hending ih =>
    rw [marks_append_cons _ _ _ hending, visibleLines_append_cons _ _ hending,
      List.filterMap_append, marks_false_line hline, ih, hsingle line]
    rw [visibleLines, visibleLines, lines_eq_singleton hline]

/-- Blanks in front leave the marks as they are. -/
theorem marks_blanks_append {blanks : List Char} (hblanks : ∀ c ∈ blanks, isBlank c = true)
    (text : List Char) : marks false (blanks ++ text) = marks false text := by
  induction blanks with
  | nil => rfl
  | cons c rest ih =>
    have hc := hblanks c List.mem_cons_self
    simp [marks, hc, ih fun d hd => hblanks d (List.mem_cons_of_mem c hd)]

/-- A character that is not blank is the mark of the line that it begins. -/
theorem marks_false_cons {c : Char} (hc : isBlank c = false) (rest : List Char) :
    marks false (c :: rest) = c :: marks true rest := by
  simp [marks, hc, isLineEnd_of_not_isBlank hc]

/-! ## What comments leave -/

/-- Texts lose their comments independently where the second one does not go on with
the last lexeme of the first one. -/
theorem liveText_append {a b : List Char}
    (hends : ∀ c ∈ b.head?, (Mode.blank.after a).next? c = none) :
    liveText (a ++ b) = liveText a ++ liveText b := by
  simp [liveText, lexemes_append hends]

/-- Texts lose their comments independently where nothing goes on behind the first one. -/
theorem liveText_append_of_closed {a : List Char} (hclosed : (Mode.blank.after a).closed = true)
    (b : List Char) : liveText (a ++ b) = liveText a ++ liveText b :=
  liveText_append fun c _ => Mode.next?_of_closed hclosed c

/-- A text without comments stays as it is. -/
theorem liveText_eq_self {text : List Char}
    (hcomment : ∀ lexeme ∈ lexemes text, lexeme.mode ≠ .comment) : liveText text = text := by
  have hkept : (lexemes text).filter (·.mode ≠ .comment) = lexemes text :=
    List.filter_eq_self.mpr fun lexeme hmem => by simpa using hcomment lexeme hmem
  rw [liveText, hkept, flatMap_text_lexemes]

/-- Blanks in front of a text stay when its comments go. -/
theorem liveText_blanks_append {blanks : List Char} (hblanks : ∀ c ∈ blanks, isBlank c = true)
    (text : List Char) : liveText (blanks ++ text) = blanks ++ liveText text := by
  induction blanks with
  | nil => rfl
  | cons c rest ih =>
    have hstart : Mode.start c = .blank := by simp [Mode.start, hblanks c List.mem_cons_self]
    have hafter : (Mode.blank.after [c]).closed = true := by
      simp [Mode.after, Mode.next?, hstart, Mode.closed]
    have hlive : liveText [c] = [c] := by
      simp [liveText, lexemes_cons, scan, pending, hstart]
    have hrest := ih fun d hd => hblanks d (List.mem_cons_of_mem c hd)
    rw [List.cons_append, ← List.singleton_append, liveText_append_of_closed hafter, hlive, hrest]
    rfl

/-- A comment goes on to the end of its line. -/
theorem liveText_comment {rest : List Char} (hrest : ∀ c ∈ rest, isLineEnd c = false)
    {ending : Char} (hending : isLineEnd ending = true) (text : List Char) :
    liveText ('-' :: '-' :: rest ++ ending :: text) = ending :: liveText text := by
  have hnext : ∀ c ∈ rest, Mode.comment.next? c = some .comment := fun c hc => by
    simp [Mode.next?, hrest c hc]
  obtain ⟨hscan, hafter⟩ := scan_of_next? hnext ['-', '-']
  have hlexemes : lexemes ('-' :: '-' :: rest) = [⟨.comment, '-' :: '-' :: rest⟩] := hscan
  have hcut : ∀ c ∈ (ending :: text).head?,
      (Mode.blank.after ('-' :: '-' :: rest)).next? c = none := by
    intro c hc
    have hc : ending = c := by simpa using hc
    change (Mode.comment.after rest).next? c = none
    rw [hafter, ← hc]
    simp [Mode.next?, hending]
  have hblank : ∀ c ∈ [ending], isBlank c = true := by
    simpa using isBlank_of_isLineEnd hending
  have hline := liveText_blanks_append hblank text
  rw [liveText, lexemes_append hcut, hlexemes]
  simpa [liveText] using hline

/-- Behind blanks only a comment is hidden. -/
theorem isHidden_iff {blanks : List Char} (hblanks : ∀ c ∈ blanks, isBlank c = true) {c : Char}
    (hc : isBlank c = false) (rest : List Char) :
    isHidden (blanks ++ c :: rest) = true ↔ c = '-' ∧ ∃ more, rest = '-' :: more := by
  have hdrop : (blanks ++ c :: rest).dropWhile isBlank = c :: rest := by
    rw [List.dropWhile_append_of_pos hblanks, List.dropWhile_cons_of_neg (by simp [hc])]
  rw [isHidden, hdrop]
  constructor
  · intro hhidden
    split at hhidden
    · simp at *
    · rename_i more heq
      rw [List.cons.injEq] at heq
      exact ⟨heq.1, more, heq.2⟩
    · simp at hhidden
  · rintro ⟨rfl, more, rfl⟩
    rfl

/-- A hidden line leaves nothing that is visible. -/
theorem visibleLines_liveText_of_isHidden {line : List Char}
    (hline : ∀ c ∈ line, isLineEnd c = false) (hhidden : isHidden line = true) {ending : Char}
    (hending : isLineEnd ending = true) (text : List Char) :
    visibleLines (liveText (line ++ ending :: text)) = visibleLines (liveText text) := by
  have hblankLine : ∀ blanks : List Char, (∀ c ∈ blanks, isLineEnd c = false) →
      (∀ c ∈ blanks, isBlank c = true) →
      visibleLines (blanks ++ ending :: liveText text) = visibleLines (liveText text) := by
    intro blanks hclean hblanks
    have hmark : mark? blanks = none := by simpa [mark?] using hblanks
    rw [visibleLines_append_cons _ _ hending]
    simp [visibleLines, lines_eq_singleton hclean, hmark]
  have hend : ∀ c ∈ [ending], isBlank c = true := by
    simpa using isBlank_of_isLineEnd hending
  rcases exists_mark line with hblank | ⟨blanks, c, rest, rfl, hblanks, hc⟩
  · rw [liveText_blanks_append hblank, ← List.singleton_append, liveText_blanks_append hend]
    exact hblankLine line hline hblank
  · obtain ⟨rfl, more, rfl⟩ := (isHidden_iff hblanks hc rest).mp hhidden
    have hclean : ∀ c ∈ blanks, isLineEnd c = false :=
      fun c hc => hline c (List.mem_append_left _ hc)
    have hmore : ∀ c ∈ more, isLineEnd c = false :=
      fun c hc => hline c (by simp [hc])
    rw [List.append_assoc, liveText_blanks_append hblanks, liveText_comment hmore hending]
    exact hblankLine blanks hclean hblanks

/-- A lexeme that has begun without a dash is no comment. -/
theorem exists_scan_eq_cons {mode : Mode} (hdash : mode ≠ .dash) (hcomment : mode ≠ .comment)
    (c : Char) (read text : List Char) :
    ∃ next tail more, scan mode (c :: read) text = ⟨next, c :: tail⟩ :: more ∧
      next ≠ .comment := by
  induction text generalizing mode read with
  | nil => exact ⟨mode, read, [], by simp [scan, pending], hcomment⟩
  | cons d rest ih =>
    cases hnext : mode.next? d with
    | none => exact ⟨mode, read, scan (Mode.start d) [d] rest, by simp [scan, pending, hnext],
        hcomment⟩
    | some next =>
      have hkeeps : next ≠ .dash ∧ next ≠ .comment := by
        cases mode <;> simp only [Mode.next?] at hnext <;> grind
      obtain ⟨final, tail, more, hscan, hfinal⟩ := ih hkeeps.1 hkeeps.2 (read ++ [d])
      exact ⟨final, tail, more, by simpa [scan, hnext] using hscan, hfinal⟩

/-- Only a dash begins as one. -/
theorem eq_of_start_eq_dash {c : Char} (hstart : Mode.start c = .dash) : c = '-' := by
  unfold Mode.start at hstart
  repeat' split at hstart
  all_goals simp_all

/-- No single character begins a comment. -/
theorem start_ne_comment (c : Char) : Mode.start c ≠ .comment := by
  unfold Mode.start
  repeat' split
  all_goals simp

/-- Unless two dashes begin a text, its first lexeme is no comment. -/
theorem exists_lexemes_eq_cons {c : Char} (rest : List Char)
    (hcomment : c = '-' → rest.head? ≠ some '-') :
    ∃ mode tail more, lexemes (c :: rest) = ⟨mode, c :: tail⟩ :: more ∧ mode ≠ .comment := by
  rw [lexemes_cons]
  by_cases hc : c = '-'
  · subst hc
    cases rest with
    | nil => exact ⟨.dash, [], [], rfl, by decide⟩
    | cons d more =>
      have hd : d ≠ '-' := by simpa using hcomment rfl
      refine ⟨.dash, [], scan (Mode.start d) [d] more, ?_, by decide⟩
      change scan .dash ['-'] (d :: more) = _
      simp [scan, Mode.next?, hd, pending]
  · have hdash : Mode.start c ≠ .dash := fun hstart => hc (eq_of_start_eq_dash hstart)
    exact exists_scan_eq_cons hdash (start_ne_comment c) c [] rest

/-- A line that is not hidden keeps its mark. -/
theorem exists_liveText_eq_append {line : List Char} (hshown : isHidden line = false)
    {ending : Char} (hending : isLineEnd ending = true) (text : List Char) :
    ∃ blanks c rest more, line = blanks ++ c :: rest ∧ (∀ d ∈ blanks, isBlank d = true) ∧
      isBlank c = false ∧ liveText (line ++ ending :: text) = blanks ++ c :: more := by
  rcases exists_mark line with hblank | ⟨blanks, c, rest, rfl, hblanks, hc⟩
  · rw [isHidden, List.dropWhile_eq_nil_iff.mpr hblank] at hshown
    simp at hshown
  · have hcomment : c = '-' → (rest ++ ending :: text).head? ≠ some '-' := by
      intro hdash hhead
      have hnot : ¬ isHidden (blanks ++ c :: rest) = true := by simp [hshown]
      rw [isHidden_iff hblanks hc] at hnot
      cases rest with
      | nil =>
        have hending' : ending = '-' := by simpa using hhead
        rw [hending'] at hending
        simp [isLineEnd] at hending
      | cons d more =>
        have hd : d = '-' := by simpa using hhead
        exact hnot ⟨hdash, more, by rw [hd]⟩
    obtain ⟨mode, tail, more, hlexemes, hmode⟩ :=
      exists_lexemes_eq_cons (rest ++ ending :: text) hcomment
    refine ⟨blanks, c, rest, tail ++ (more.filter (·.mode ≠ .comment)).flatMap (·.text), rfl,
      hblanks, hc, ?_⟩
    rw [List.append_assoc, liveText_blanks_append hblanks, List.cons_append, liveText, hlexemes,
      List.filter_cons_of_pos (by simpa using hmode), List.flatMap_cons, List.cons_append]

/-! ## Marks that stay -/

/-- What a dash and a comment look like. -/
def Lexeme.Dashed (lexeme : Lexeme) : Prop :=
  (lexeme.mode = .dash → lexeme.text = ['-']) ∧
    (lexeme.mode = .comment →
      ∃ rest, lexeme.text = '-' :: rest ∧ ∀ c ∈ rest, isLineEnd c = false)

/-- The first character of a lexeme may be that of a dash or a comment. -/
theorem Lexeme.dashed_start (c : Char) : Dashed ⟨Mode.start c, [c]⟩ := by
  refine ⟨fun hdash => ?_, fun hcomment => absurd hcomment (start_ne_comment c)⟩
  rw [eq_of_start_eq_dash hdash]

/-- Only a second dash continues a dash, and then a comment has begun. -/
theorem Mode.of_next?_dash {next : Mode} {c : Char} (hnext : Mode.dash.next? c = some next) :
    c = '-' ∧ next = .comment := by
  simp only [Mode.next?] at hnext
  grind

/-- A comment goes on as one up to the end of its line. -/
theorem Mode.of_next?_comment {next : Mode} {c : Char}
    (hnext : Mode.comment.next? c = some next) : isLineEnd c = false ∧ next = .comment := by
  simp only [Mode.next?] at hnext
  grind

/-- A further character makes of a dash or a comment what it may become. -/
theorem Lexeme.Dashed.next {lexeme : Lexeme} (hdashed : lexeme.Dashed) {next : Mode} {c : Char}
    (hnext : lexeme.mode.next? c = some next) : Dashed ⟨next, lexeme.text ++ [c]⟩ := by
  obtain ⟨mode, read⟩ := lexeme
  obtain ⟨hdash, hcomment⟩ := hdashed
  simp only at hdash hcomment hnext
  cases mode with
  | dash =>
    obtain ⟨rfl, rfl⟩ := Mode.of_next?_dash hnext
    refine ⟨by simp, fun _ => ⟨['-'], ?_, by simp [isLineEnd]⟩⟩
    rw [hdash rfl]
    rfl
  | comment =>
    obtain ⟨hc, rfl⟩ := Mode.of_next?_comment hnext
    obtain ⟨rest, hread, hrest⟩ := hcomment rfl
    refine ⟨by simp, fun _ => ⟨rest ++ [c], by rw [hread, List.cons_append], ?_⟩⟩
    intro d hd
    rcases List.mem_append.mp hd with hd | hd
    · exact hrest d hd
    · rw [List.mem_singleton.mp hd]
      exact hc
  | blank | sign | national | word | number | placeholder | name | nameEnd | literal
  | literalEnd =>
    have hother : next ≠ .dash ∧ next ≠ .comment := by
      simp only [Mode.next?] at hnext
      grind
    exact ⟨fun hdash => absurd hdash hother.1, fun hcomment => absurd hcomment hother.2⟩

/-- A comment begins with a dash and does not reach beyond its line. -/
theorem comment_of_mem_lexemes {text : List Char} {lexeme : Lexeme}
    (hmem : lexeme ∈ lexemes text) (hmode : lexeme.mode = .comment) :
    ∃ rest, lexeme.text = '-' :: rest ∧ ∀ c ∈ rest, isLineEnd c = false := by
  have hdashed : lexeme.Dashed :=
    keeps_of_mem_lexemes Lexeme.Dashed (fun c _ => Lexeme.dashed_start c)
      (fun _ _ hdashed _ _ hnext => hdashed.next hnext) hmem
  exact hdashed.2 hmode

/-- A part that stays keeps its marks but for those read before. -/
theorem sublist_marks_append {live : List Char} {text : List Char}
    (hrest : ∀ {seen seen' : Bool}, (seen' = true → seen = true) →
      ((marks seen text).filter (· ≠ '-')).Sublist (marks seen' live))
    (part : List Char) {seen seen' : Bool} (hseen : seen' = true → seen = true) :
    ((marks seen (part ++ text)).filter (· ≠ '-')).Sublist (marks seen' (part ++ live)) := by
  induction part generalizing seen seen' with
  | nil => exact hrest hseen
  | cons c part ih =>
    simp only [List.cons_append, marks]
    cases hend : isLineEnd c with
    | true => simpa using ih id
    | false =>
      cases hblank : isBlank c with
      | true => simpa using ih hseen
      | false =>
        cases seen' with
        | true => simpa [hseen rfl] using ih id
        | false =>
          have hmore := @ih true true id
          cases seen with
          | true => simpa using hmore.cons c
          | false =>
            by_cases hc : c = '-'
            · simpa [hc] using hmore.cons c
            · simpa [hc] using hmore

/-- Of parts in a row those that are no comments keep their marks, dashes aside. -/
theorem sublist_marks_parts {parts : List Lexeme}
    (hcomment : ∀ part ∈ parts, part.mode = .comment →
      ∃ rest, part.text = '-' :: rest ∧ ∀ c ∈ rest, isLineEnd c = false)
    {seen seen' : Bool} (hseen : seen' = true → seen = true) :
    ((marks seen (parts.flatMap (·.text))).filter (· ≠ '-')).Sublist
      (marks seen' ((parts.filter (·.mode ≠ .comment)).flatMap (·.text))) := by
  induction parts generalizing seen seen' with
  | nil => exact .slnil
  | cons part rest ih =>
    have hrest := fun other hother => hcomment other (List.mem_cons_of_mem part hother)
    by_cases hmode : part.mode = .comment
    · obtain ⟨characters, htext, hclean⟩ := hcomment part List.mem_cons_self hmode
      have hmarks : (marks seen ('-' :: characters ++ rest.flatMap (·.text))).filter (· ≠ '-') =
          (marks true (rest.flatMap (·.text))).filter (· ≠ '-') := by
        have hdash : isLineEnd '-' = false ∧ isBlank '-' = false := by decide
        cases seen <;> simp [marks, hdash, marks_true_append hclean]
      rw [List.flatMap_cons, htext, hmarks, List.filter_cons_of_neg (by simpa using hmode)]
      exact ih hrest fun _ => rfl
    · rw [List.flatMap_cons, List.filter_cons_of_pos (by simpa using hmode), List.flatMap_cons]
      exact sublist_marks_append (ih hrest) part.text hseen

/-- Without its comments a text keeps all marks that are no dashes. -/
theorem sublist_marks_liveText (text : List Char) :
    ((marks false text).filter (· ≠ '-')).Sublist (marks false (liveText text)) := by
  have hcomment : ∀ part ∈ lexemes text, part.mode = .comment →
      ∃ rest, part.text = '-' :: rest ∧ ∀ c ∈ rest, isLineEnd c = false :=
    fun _ => comment_of_mem_lexemes
  have hparts := sublist_marks_parts hcomment (@id (false = true))
  rwa [flatMap_text_lexemes] at hparts

end SqlScribe.Sql
