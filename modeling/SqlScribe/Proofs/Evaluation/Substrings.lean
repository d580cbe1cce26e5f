import Mathlib.Algebra.Group.Nat.Defs
import Mathlib.Data.List.DropRight
import SqlScribe.Proofs.Evaluation.Membership

/-!
# Ends of texts

A substring without a length is meant to run to the end of the text.  The server wants a
length, so the length of the text is asked for, and that one does not count the blanks at the
end: where the substring leaves out fewer characters in front than the text has blanks behind,
the last of these blanks are lost.

Main definitions:

- `Sql.visibleLength` and `Sql.charactersAt` are what the server takes for the length of a text
  and for a part of it.
- `Sql.Environment.ReadsTexts` says that an environment goes by them.

Main results:

- `Expr.worth_substring_toEnd`: what a substring without a length is worth.
- `Expr.worth_substring_toEnd_iff`: it is the text without the characters in front if and only
  if at least as many of them are left out as the text has blanks at its end.
-/

namespace SqlScribe

open Binding Sql

namespace Sql

/-! ## Lengths and parts of texts -/

/-- The number of characters of a text up to its last one that is not blank. -/
def visibleLength (text : String) : Nat :=
  (text.toList.rdropWhile (· = ' ')).length

/-- The number of blanks at the end of a text. -/
def trailingBlanks (text : String) : Nat :=
  (text.toList.rtakeWhile (· = ' ')).length

/-- The characters of a text whose places, counted from one, are among so many places from the
first one on. -/
def charactersAt (text : String) (first count : Int) : String :=
  String.ofList (((text.toList.zipIdx 1).filter fun (_, place) =>
    first ≤ place ∧ place < first + count).map Prod.fst)

/-- A text without some characters in front. -/
def charactersFrom (text : String) (skipped : Nat) : String :=
  String.ofList (text.toList.drop skipped)

/-- Blanks in front and inside count, those behind do not. -/
example : visibleLength " a b  " = 4 ∧ trailingBlanks " a b  " = 2 := by decide +kernel

/-- A part may begin before the text and end behind it. -/
example : charactersAt "abcd" 0 3 = "ab" ∧ charactersAt "abcd" 3 9 = "cd" := by decide +kernel

/-- A text is made up of what is counted and of the blanks at its end. -/
theorem visibleLength_add_trailingBlanks (text : String) :
    visibleLength text + trailingBlanks text = text.length := by
  rw [visibleLength, trailingBlanks, ← List.length_append, List.rdropWhile_append_rtakeWhile,
    String.length_toList]

/-- Choosing characters by their places cuts the text twice. -/
theorem map_filter_zipIdx {α : Type} (first last : Nat) : ∀ (characters : List α) (offset : Nat),
    ((characters.zipIdx offset).filter fun (_, place) => first ≤ place ∧ place < last).map Prod.fst =
      (characters.take (last - offset)).drop (first - offset)
  | [], _ => by simp
  | character :: rest, offset => by
    have ih := map_filter_zipIdx first last rest (offset + 1)
    rw [List.zipIdx_cons]
    by_cases hlast : offset < last
    · obtain ⟨taken, htaken⟩ : ∃ taken, last - offset = taken + 1 := ⟨last - offset - 1, by omega⟩
      rw [show last - (offset + 1) = taken by omega] at ih
      rw [htaken, List.take_succ_cons]
      by_cases hfirst : first ≤ offset
      · rw [show first - (offset + 1) = 0 by omega] at ih
        rw [List.filter_cons_of_pos (by simpa using ⟨hfirst, hlast⟩), List.map_cons, ih,
          show first - offset = 0 by omega]
        rfl
      · rw [List.filter_cons_of_neg (by simp [hfirst]), ih,
          show first - offset = first - (offset + 1) + 1 by omega, List.drop_succ_cons]
    · -- behind the last place nothing is chosen any more
      rw [show last - (offset + 1) = 0 by omega] at ih
      rw [List.filter_cons_of_neg (by simp [hlast]), ih, show last - offset = 0 by omega]
      simp

/-- The characters from the place behind some skipped ones are those that follow them. -/
theorem charactersAt_succ (text : String) (skipped count : Nat) :
    charactersAt text (skipped + 1) count =
      String.ofList ((text.toList.drop skipped).take count) := by
  have hplaces := map_filter_zipIdx (skipped + 1) (skipped + 1 + count) text.toList 1
  rw [List.drop_take] at hplaces
  simp only [charactersAt]
  congr 1
  calc ((text.toList.zipIdx 1).filter fun (_, place) =>
          ((skipped + 1 : Nat) : Int) ≤ place ∧ (place : Int) < (skipped + 1 : Nat) + count).map
        Prod.fst
      = ((text.toList.zipIdx 1).filter fun (_, place) =>
          skipped + 1 ≤ place ∧ place < skipped + 1 + count).map Prod.fst := by
        congr 2
        funext place
        rw [decide_eq_decide]
        omega
    _ = (text.toList.drop (skipped + 1 - 1)).take (skipped + 1 + count - 1 - (skipped + 1 - 1)) :=
        hplaces
    _ = (text.toList.drop skipped).take count := by
        rw [show skipped + 1 + count - 1 - (skipped + 1 - 1) = count by omega,
          Nat.add_sub_cancel]

/-- As many characters as the text has without the blanks at its end reach its end if and only
if enough are left out in front. -/
theorem take_visibleLength_eq_iff (text : String) (skipped : Nat) :
    String.ofList ((text.toList.drop skipped).take (visibleLength text)) =
        charactersFrom text skipped ↔
      trailingBlanks text ≤ skipped := by
  have hlength := visibleLength_add_trailingBlanks text
  rw [charactersFrom, String.ofList_inj, List.take_eq_self_iff, List.length_drop,
    String.length_toList]
  omega

/-! ## What the server does -/

/-- The server adds whole numbers, does not count the blanks at the end of a text, and takes
parts of texts by the places of their characters. -/
structure Environment.ReadsTexts (environment : Environment) : Prop where
  /-- A sum that does not overflow. -/
  sum : ∀ a b c : Int64, c.toInt = a.toInt + b.toInt →
    environment.sum (.int a) (.int b) = .int c
  length : ∀ (text : String) (count : Int64), count.toInt = visibleLength text →
    environment.call .length [.text text] = .int count
  substring : ∀ (text : String) (first count : Int64), 0 ≤ count.toInt →
    environment.call .substring [.text text, .int first, .int count] =
      .text (charactersAt text first.toInt count.toInt)

variable {environment : Environment}

/-- Bound values have no part in how the server reads texts. -/
theorem Environment.ReadsTexts.binding (hserver : environment.ReadsTexts) (bound : List Value) :
    (environment.binding bound).ReadsTexts :=
  ⟨hserver.sum, hserver.length, hserver.substring⟩

/-- The part that is asked for, if the server goes by the places of characters. -/
theorem value_substring_toEnd {text start : Scalar} {s : String} {k : Nat}
    (hserver : environment.ReadsTexts) (htext : text.value environment = .text s)
    (hstart : start.value environment = .int (Int64.ofNat k)) (hk : k + 1 < 2 ^ 63)
    (hs : s.length < 2 ^ 63) :
    (Scalar.call .substring
        [text, .plus start (.number 1), .call .length [text]]).value environment =
      .text (String.ofList ((s.toList.drop k).take (visibleLength s))) := by
  have hvisible : visibleLength s < 2 ^ 63 := by
    have := visibleLength_add_trailingBlanks s
    omega
  have hcount : (Int64.ofNat (visibleLength s)).toInt = visibleLength s :=
    Int64.toInt_ofNat_of_lt hvisible
  have hfirst : (Int64.ofNat (k + 1)).toInt = k + 1 := Int64.toInt_ofNat_of_lt hk
  have hsum : environment.sum (.int (Int64.ofNat k)) (.int (Int64.ofNat 1)) =
      .int (Int64.ofNat (k + 1)) := by
    apply hserver.sum
    rw [hfirst, Int64.toInt_ofNat_of_lt (by omega), Int64.toInt_ofNat_of_lt (by omega)]
    rfl
  simp only [Scalar.value, argumentValues, htext, hstart, Environment.plus, Environment.apply,
    hsum, hserver.length s _ hcount]
  rw [hserver.substring s _ _ (by omega), hfirst, hcount, charactersAt_succ]

end Sql

/-! ## Substrings without a length -/

namespace Expr

variable {environment : Environment} {text start : Expr} {s : String} {k : Nat}

/-- A substring without a length has so many characters behind those left out in front, as the
text has up to its last one that is not blank. -/
theorem worth_substring_toEnd (hserver : environment.ReadsTexts)
    (htext : text.Worth environment (.text s))
    (hstart : start.Worth environment (.int (Int64.ofNat k))) (hk : k + 1 < 2 ^ 63)
    (hs : s.length < 2 ^ 63) :
    (Expr.substring text start none).Worth environment
      (.text (String.ofList ((s.toList.drop k).take (visibleLength s)))) := by
  obtain ⟨before, textScalar, between, htextScalar, -⟩ := id htext
  obtain ⟨elsewhere, _, _, hstartElsewhere, -⟩ := id hstart
  -- what renders somewhere renders behind the text too
  have hrenders := (start.accepts_scalar elsewhere).mp ⟨_, _, hstartElsewhere⟩
  obtain ⟨startScalar, after, hstartScalar⟩ := (start.accepts_scalar between).mpr hrenders
  have hbetween := ((agree_scalar _) hstartScalar hstartScalar).1
  have hrendered : (Expr.substring text start none).scalar before =
      .ok (.call .substring [textScalar, .plus startScalar (.number 1),
        .call .length [textScalar]], after) :=
    run_seq_eq_ok.mpr ⟨textScalar, between, htextScalar,
      run_seq_eq_ok.mpr ⟨startScalar, after, hstartScalar, rfl⟩⟩
  have htextValue := (worth_iff_of_scalar htextScalar hbetween).mp htext
  have hstartValue := (worth_iff_of_scalar hstartScalar List.prefix_rfl).mp hstart
  exact ⟨before, _, after, hrendered,
    value_substring_toEnd (hserver.binding after) htextValue hstartValue hk hs⟩

/-- A substring without a length runs to the end of the text if and only if at least as many
characters are left out in front as the text has blanks at its end. -/
theorem worth_substring_toEnd_iff (hserver : environment.ReadsTexts)
    (htext : text.Worth environment (.text s))
    (hstart : start.Worth environment (.int (Int64.ofNat k))) (hk : k + 1 < 2 ^ 63)
    (hs : s.length < 2 ^ 63) :
    (Expr.substring text start none).Worth environment (.text (charactersFrom s k)) ↔
      trailingBlanks s ≤ k := by
  have hworth := worth_substring_toEnd hserver htext hstart hk hs
  rw [← take_visibleLength_eq_iff]
  constructor
  · intro hend
    exact Value.text.inj (hworth.unique hend)
  · intro hend
    rw [← hend]
    exact hworth

/-- A row with a name that has two blanks at its end, on a server that goes by the places of
characters. -/
def blankRow : Environment where
  column := fun _ => .text "ab  "
  bound := []
  call := fun function arguments =>
    match function, arguments with
    | .length, [.text text] => .int (Int64.ofNat (visibleLength text))
    | .substring, [.text text, .int first, .int count] =>
      .text (charactersAt text first.toInt count.toInt)
    | _, _ => .null
  cast := fun _ value => value
  sum := fun left right =>
    match left, right with
    | .int a, .int b => .int (a + b)
    | _, _ => .null
  difference := fun _ _ => .null
  compares := fun _ left right => left = right
  matching := fun _ _ => false

theorem readsTexts_blankRow : blankRow.ReadsTexts where
  sum := by
    intro a b c hsum
    have hc : a + b = c := by
      rw [← Int64.toInt_inj, Int64.toInt_add, ← hsum]
      exact Int64.toInt_bmod c
    rw [← hc]
    rfl
  length := by
    intro text count hcount
    have hc : Int64.ofNat (visibleLength text) = count := by
      rw [← Int64.ofInt_toInt count, hcount]
      rfl
    rw [← hc]
    rfl
  substring _ _ _ _ := rfl

/-- From its third character on the name is read to its end, although there are only blanks. -/
theorem worth_substring_toEnd_blankRow :
    blankRow.ReadsTexts ∧ (Expr.field "Name").Worth blankRow (.text "ab  ") ∧
      (Expr.value (.int 2)).Worth blankRow (.int 2) ∧
      (Expr.substring (.field "Name") (.value (.int 2)) none).Worth blankRow (.text "  ") := by
  have htext : (Expr.field "Name").Worth blankRow (.text "ab  ") := ⟨[], _, [], rfl, rfl⟩
  have hstart : (Expr.value (.int 2)).Worth blankRow (.int (Int64.ofNat 2)) := worth_value _
  have hend := (worth_substring_toEnd_iff readsTexts_blankRow htext hstart (by decide)
    (by decide)).mpr (by decide +kernel)
  exact ⟨readsTexts_blankRow, htext, hstart, hend⟩

/-- From its first character on the name is not read to its end: the blanks are lost. -/
theorem not_worth_substring_toEnd_blankRow :
    (Expr.field "Name").Worth blankRow (.text "ab  ") ∧
      (Expr.substring (.field "Name") (.value (.int 0)) none).Worth blankRow (.text "ab") ∧
      ¬(Expr.substring (.field "Name") (.value (.int 0)) none).Worth blankRow (.text "ab  ") ∧
      ((Query.ofTable ⟨"t", none⟩).selecting
          ⟨.substring (.field "Name") (.value (.int 0)) none, none⟩).statement =
        .ok
          { text := "SELECT SUBSTRING([Name], @p0 + 1, LEN([Name])) FROM [t]"
            parameters := [⟨"@p0", .int 0⟩]
            result := .multiple } := by
  have htext : (Expr.field "Name").Worth blankRow (.text "ab  ") := ⟨[], _, [], rfl, rfl⟩
  have hstart : (Expr.value (.int 0)).Worth blankRow (.int (Int64.ofNat 0)) := worth_value _
  have hworth := worth_substring_toEnd readsTexts_blankRow htext hstart (by decide) (by decide)
  have hvisible : String.ofList (("ab  ".toList.drop 0).take (visibleLength "ab  ")) = "ab" := by
    decide +kernel
  rw [hvisible] at hworth
  refine ⟨htext, hworth, ?_, rfl⟩
  intro hend
  have hsame := Value.text.inj (hworth.unique hend)
  exact absurd hsame (by decide)

end Expr

end SqlScribe
