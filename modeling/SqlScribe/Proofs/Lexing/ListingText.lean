import SqlScribe.Proofs.Lexing.Frames
import SqlScribe.Schema.Listing

/-!
# The text of catalog listings

A listing copies the names of fields and labels into its text as they are.  They are the
library's own, and as long as none of them leaves its brackets, the whole listing keeps its
tokens to itself.

Main definitions:

- `Catalog.Term.tidy`, `Catalog.Relation.tidy` and `Catalog.Listing.tidy` check the names that
  are copied.

Main results:

- `Catalog.Term.tidy_pieces`: the text of a tidy expression keeps its tokens to itself.
- `Catalog.Listing.tidy_pieces`: so does that of a tidy listing.
-/

namespace SqlScribe.Catalog

open Sql (Mode Piece Pieces fixed)
open Sql.Pieces (Tidy joinsWhole_around)

/-! ## Views -/

namespace View

/-- The path of a view ends with a quoted name. -/
theorem after_path (view : View) : Mode.blank.after view.path.toList = .nameEnd := by
  cases view <;> decide +kernel

/-- A view under its short name ends with that name. -/
theorem after_reference (view : View) : Mode.blank.after view.reference.toList = .nameEnd := by
  have hshort : Mode.nameEnd.after (" [" ++ view.shortName ++ "]").toList = .nameEnd := by
    cases view <;> decide +kernel
  rw [reference, String.append_assoc, String.append_assoc, String.toList_append,
    Mode.after_append, after_path, ← String.append_assoc, hshort]

/-- A view under its short name leaves nothing open. -/
theorem whole_reference (view : View) : (Piece.fixed view.reference).Whole := by
  have hafter : Mode.blank.after (Piece.fixed view.reference).chars = .nameEnd :=
    view.after_reference
  constructor
  case nonempty =>
    intro hempty
    rw [hempty] at hafter
    cases hafter
  case settled => rw [hafter]; rfl

end View

/-! ## Fields and constants -/

/-- Whether the name of a field stays between its brackets. -/
def Field.tidy (field : Field) : Bool := (Piece.fixed field.text).isWhole

/-- Whether a constant is not a negative number. -/
def Constant.tidy : Constant → Bool
  | .number value => 0 ≤ value
  | _ => true

/-- A tidy field keeps its tokens to itself. -/
theorem Field.tidy_pieces {field : Field} (htidy : field.tidy = true) :
    Tidy false field.pieces :=
  .single (Piece.whole_of_isWhole htidy)

/-- A number that is not negative leaves nothing open. -/
theorem whole_number {value : Int} (hvalue : 0 ≤ value) : (Piece.number value).Whole :=
  Piece.whole_of_calm (decide_eq_true hvalue)

/-- A tidy constant keeps its tokens to itself. -/
theorem Constant.tidy_pieces {constant : Constant} (htidy : constant.tidy = true) :
    Tidy false constant.pieces := by
  cases constant with
  | null => exact .single (Piece.whole_of_isWhole (by decide))
  | number value => exact .single (whole_number (of_decide_eq_true htidy))
  | text value => exact .single (Piece.whole_of_keyless rfl)

/-- Numbers that are not negative keep their tokens to themselves. -/
theorem tidy_numberList {numbers : List Int} (hnumbers : numbers.all (0 ≤ ·) = true) :
    Tidy false (numberList numbers) := by
  refine .join _ (by decide) fun text htext => ?_
  obtain ⟨number, hnumber, rfl⟩ := List.mem_map.mp htext
  exact .single (whole_number (of_decide_eq_true (List.all_eq_true.mp hnumbers number hnumber)))

/-! ## Terms -/

namespace Term

/-- Whether the fields and constants of an expression are tidy.  A bound names tables and is
left out. -/
def tidy : Term → Bool
  | .field source => source.tidy
  | .constant value => value.tidy
  | .definition object => object.tidy
  | .half operand | .replace operand _ _ | .cast operand _ | .grouped operand => operand.tidy
  | .orNumber operand number => operand.tidy && 0 ≤ number
  | .choose subject branches otherwise =>
    subject.tidy && branches.all (fun branch => branch.1.tidy && branch.2.tidy) && otherwise.tidy
  | .ifAmong subject numbers yes no =>
    subject.tidy && numbers.all (0 ≤ ·) && yes.tidy && no.tidy
  | .ifBelow .. => false

/-- Tidy branches keep their tokens to themselves. -/
theorem tidy_branchPieces {branches : List (Constant × Constant)}
    (hbranches : branches.all (fun branch => branch.1.tidy && branch.2.tidy) = true) :
    Tidy false (branchPieces branches) := by
  refine .join _ (by decide) fun text htext => ?_
  obtain ⟨⟨key, result⟩, hbranch, rfl⟩ := List.mem_map.mp htext
  obtain ⟨hkey, hresult⟩ := Bool.and_eq_true_iff.mp (List.all_eq_true.mp hbranches _ hbranch)
  have hparts := (Constant.tidy_pieces hkey).append
    (.joint " THEN " (by decide) (Constant.tidy_pieces hresult))
  simpa using hparts.lead "WHEN " (by decide)

/-- The text of a tidy expression keeps its tokens to itself. -/
theorem tidy_pieces {term : Term} (htidy : term.tidy = true) : Tidy false term.pieces := by
  induction term with
  | field source => exact Field.tidy_pieces htidy
  | constant value => exact Constant.tidy_pieces htidy
  | definition object =>
    exact .lead "OBJECT_DEFINITION(" (by decide) ((Field.tidy_pieces htidy).behind ")" (by decide))
  | half operand ih => exact (ih htidy).behind " / 2" (by decide)
  | replace operand term replacement ih =>
    have hquoted (text : String) : Tidy false [.literal false text] :=
      .single (Piece.whole_of_keyless rfl)
    have hrest := (hquoted term).append
      (.joint ", " (by decide) ((hquoted replacement).behind ")" (by decide)))
    have hparts := (ih htidy).append (.joint ", " (by decide) hrest)
    simpa [pieces] using hparts.lead "REPLACE(" (by decide)
  | orNumber operand number ih =>
    obtain ⟨hoperand, hnumber⟩ := Bool.and_eq_true_iff.mp htidy
    have hwhole := Tidy.single (whole_number (of_decide_eq_true hnumber))
    have hparts := (ih hoperand).append (.joint ", " (by decide) (hwhole.behind ")" (by decide)))
    simpa [pieces] using hparts.lead "ISNULL(" (by decide)
  | choose subject branches otherwise ihsubject ihotherwise =>
    simp only [tidy, Bool.and_eq_true] at htidy
    obtain ⟨⟨hsubject, hbranches⟩, hotherwise⟩ := htidy
    have hrest := (tidy_branchPieces hbranches).append
      (.joint " ELSE " (by decide) ((ihotherwise hotherwise).behind " END" (by decide)))
    have hparts := (ihsubject hsubject).append (.joint " " (by decide) hrest)
    simpa [pieces] using hparts.lead "CASE " (by decide)
  | ifAmong subject numbers yes no ihsubject ihyes ihno =>
    simp only [tidy, Bool.and_eq_true] at htidy
    obtain ⟨⟨⟨hsubject, hnumbers⟩, hyes⟩, hno⟩ := htidy
    have hresults := (ihyes hyes).append
      (.joint " ELSE " (by decide) ((ihno hno).behind " END" (by decide)))
    have hrest := (tidy_numberList hnumbers).append (.joint ") THEN " (by decide) hresults)
    have hparts := (ihsubject hsubject).append (.joint " IN (" (by decide) hrest)
    simpa [pieces] using hparts.lead "CASE WHEN " (by decide)
  | ifBelow => cases htidy
  | cast operand type ih =>
    have htype : Tidy false [.fixed type.name] :=
      .single (Piece.whole_of_calm (Sql.calm_typeText ⟨type, none⟩))
    have hparts := (ih htidy).append (.joint " AS " (by decide) (htype.behind ")" (by decide)))
    simpa [pieces] using hparts.lead "CAST(" (by decide)
  | grouped operand ih => exact .lead "(" (by decide) ((ih htidy).behind ")" (by decide))

end Term

/-! ## Listings -/

/-- Whether the fields of equalities are tidy. -/
def tidyMatch (on : Match) : Bool := on.all fun (a, b) => a.tidy && b.tidy

/-- Tidy equalities keep their tokens to themselves. -/
theorem tidy_matchPieces {on : Match} (htidy : tidyMatch on = true) :
    Tidy false (matchPieces on) := by
  refine .join _ (by decide) fun text htext => ?_
  obtain ⟨⟨a, b⟩, hpair, rfl⟩ := List.mem_map.mp htext
  obtain ⟨ha, hb⟩ := Bool.and_eq_true_iff.mp (List.all_eq_true.mp htidy _ hpair)
  simpa using (Field.tidy_pieces ha).append (.joint " = " (by decide) (Field.tidy_pieces hb))

namespace Relation

/-- Whether the fields by which views are joined are tidy. -/
def tidy : Relation → Bool
  | .view _ => true
  | .join left _ on | .leftJoin left _ on => left.tidy && tidyMatch on

/-- The text of a tidy relation keeps its tokens to itself. -/
theorem tidy_pieces {relation : Relation} (htidy : relation.tidy = true) :
    Tidy false relation.pieces := by
  induction relation with
  | view source => exact .single source.whole_reference
  | join left right on ih =>
    obtain ⟨hleft, hon⟩ := Bool.and_eq_true_iff.mp htidy
    have hparts := (ih hleft).append (.joint (" JOIN " ++ right.reference ++ " ON ")
      (joinsWhole_around rfl rfl right.after_reference rfl) (tidy_matchPieces hon))
    simpa [pieces] using hparts
  | leftJoin left right on ih =>
    obtain ⟨hleft, hon⟩ := Bool.and_eq_true_iff.mp htidy
    have hparts := (ih hleft).append (.joint (" LEFT JOIN " ++ right.reference ++ " ON ")
      (joinsWhole_around rfl rfl right.after_reference rfl)
      ((tidy_matchPieces hon).behind " )" (by decide)))
    simpa [pieces] using hparts.lead "( " (by decide)

end Relation

namespace Output

/-- Whether a returned expression is tidy and its label stays between its brackets. -/
def tidy (output : Output) : Bool :=
  output.term.tidy &&
    match output.label with
    | some label => Pieces.trailsWhole (" AS [" ++ label ++ "]")
    | none => true

/-- The text of a tidy output keeps its tokens to itself. -/
theorem tidy_pieces {output : Output} (htidy : output.tidy = true) :
    Tidy false output.pieces := by
  obtain ⟨term, label⟩ := output
  obtain ⟨hterm, hlabel⟩ := Bool.and_eq_true_iff.mp htidy
  cases label with
  | none => exact (Term.tidy_pieces hterm).append Pieces.tidy_nil
  | some label => exact (Term.tidy_pieces hterm).behind _ hlabel

end Output

namespace Listing

/-- Whether everything that a listing names is tidy. -/
def tidy (listing : Listing) : Bool :=
  listing.outputs.all Output.tidy && Pieces.joinsWhole listing.separator &&
    listing.relation.tidy && listing.owner.tidy && listing.order.all Field.tidy

variable {listing : Listing}

/-- The text of a tidy listing keeps its tokens to itself. -/
theorem tidy_pieces (htidy : listing.tidy = true) : Tidy false listing.pieces := by
  simp only [tidy, Bool.and_eq_true] at htidy
  obtain ⟨⟨⟨⟨houtputs, hseparator⟩, hrelation⟩, -⟩, -⟩ := htidy
  have hreturned : Tidy false
      (Pieces.join listing.separator (listing.outputs.map Output.pieces)) := by
    refine .join _ hseparator fun text htext => ?_
    obtain ⟨output, houtput, rfl⟩ := List.mem_map.mp htext
    exact Output.tidy_pieces (List.all_eq_true.mp houtputs output houtput)
  have hparts := hreturned.append
    (.joint " FROM " (by decide) (Relation.tidy_pieces hrelation))
  simpa [pieces] using hparts.lead "SELECT " (by decide)

/-- The field that identifies the table of a tidy listing keeps its tokens to itself. -/
theorem tidy_owner (htidy : listing.tidy = true) : Tidy false listing.owner.pieces := by
  simp only [tidy, Bool.and_eq_true] at htidy
  exact Field.tidy_pieces htidy.1.2

/-- The ordering of a tidy listing keeps its tokens to itself. -/
theorem tidy_orderPieces (htidy : listing.tidy = true) : Tidy true listing.orderPieces := by
  simp only [tidy, Bool.and_eq_true] at htidy
  unfold orderPieces
  split
  · exact Pieces.tidy_nil
  · refine .joint _ (by decide) (.join _ (by decide) fun text htext => ?_)
    obtain ⟨field, hfield, rfl⟩ := List.mem_map.mp htext
    exact Field.tidy_pieces (List.all_eq_true.mp htidy.2 field hfield)

end Listing

end SqlScribe.Catalog

namespace SqlScribe.Schema

theorem tidy_columnListing : columnListing.tidy = true := by decide +kernel

theorem tidy_indexListing : indexListing.tidy = true := by decide +kernel

end SqlScribe.Schema
