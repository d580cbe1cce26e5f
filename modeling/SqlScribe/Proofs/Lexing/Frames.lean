import SqlScribe.Proofs.Lexing.ColumnText

/-!
# Frames of tokens

The text of a family of inputs has a frame if its tokens are the same for all of them, up to
certain quoted identifiers and text literals.  A frame has a place for each token: its own ones
stand there as they are, and the others are gaps that quoted tokens of an input fill in order.

Main definitions:

- `Sql.Place` is a place, and `Sql.fill` puts quoted tokens into the gaps of a frame.
- `Sql.Token.erased` is a token without what it quotes.
- `Sql.Pieces.Framed` says that the tokens of pieces are a frame with its gaps filled.
- `Sql.Pieces.Uniform` says that one frame serves a family of inputs.

Main results:

- `Sql.map_erased_of_fill`: what fills a frame does not show once it is erased.
- `Sql.Pieces.Framed.fill_spell`: the text of framed pieces has the tokens of the filled frame.
- `Sql.Pieces.Uniform.append`, `Sql.Pieces.Uniform.join` and `Sql.Pieces.Uniform.join_of_shape`:
  frames of parts make up the frame of the whole.
-/

namespace SqlScribe.Sql

/-! ## Places -/

/-- A place in a sequence of tokens. -/
inductive Place where
  | own (token : Token)
  | name
  | literal (national : Bool)
deriving DecidableEq, Repr

/-- A token without what stands between its ends. -/
def Token.erased : Token → Token
  | .name _ => .name ""
  | .literal national _ => .literal national ""
  | token => token

/-- A place without what stands between the ends of its token. -/
def Place.erased : Place → Token
  | .own token => token.erased
  | .name => .name ""
  | .literal national => .literal national ""

/-- A frame with quoted tokens in its gaps: each gap takes the next one, which must be of its
kind, and none is left over. -/
def fill : List Place → List Token → Option (List Token)
  | [], [] => some []
  | .own token :: frame, quotes => (fill frame quotes).map (token :: ·)
  | .name :: frame, .name text :: quotes => (fill frame quotes).map (.name text :: ·)
  | .literal national :: frame, .literal kind text :: quotes =>
    if kind = national then (fill frame quotes).map (.literal national text :: ·) else none
  | _, _ => none

/-- Frames are filled one after the other. -/
theorem fill_append {first second : List Place} {quotes more found others : List Token}
    (hfirst : fill first quotes = some found) (hsecond : fill second more = some others) :
    fill (first ++ second) (quotes ++ more) = some (found ++ others) := by
  fun_induction fill first quotes generalizing found with
  | case1 =>
    cases hfirst
    exact hsecond
  | case2 token frame quotes ih =>
    obtain ⟨rest, hrest, rfl⟩ := Option.map_eq_some_iff.mp hfirst
    simp [fill, ih hrest]
  | case3 frame text quotes ih =>
    obtain ⟨rest, hrest, rfl⟩ := Option.map_eq_some_iff.mp hfirst
    simp [fill, ih hrest]
  | case4 frame kind text quotes ih =>
    obtain ⟨rest, hrest, rfl⟩ := Option.map_eq_some_iff.mp hfirst
    simp [fill, ih hrest]
  | case5 => cases hfirst
  | case6 => cases hfirst

/-- A frame without gaps. -/
theorem fill_map_own (found : List Token) : fill (found.map .own) [] = some found := by
  induction found with
  | nil => rfl
  | cons token rest ih => simp [fill, ih]

/-- What fills a frame does not show once it is erased. -/
theorem map_erased_of_fill {frame : List Place} {quotes found : List Token}
    (hfilled : fill frame quotes = some found) :
    found.map Token.erased = frame.map Place.erased := by
  fun_induction fill frame quotes generalizing found with
  | case1 =>
    cases hfilled
    rfl
  | case2 token frame quotes ih =>
    obtain ⟨rest, hrest, rfl⟩ := Option.map_eq_some_iff.mp hfilled
    simp [Place.erased, ih hrest]
  | case3 frame text quotes ih =>
    obtain ⟨rest, hrest, rfl⟩ := Option.map_eq_some_iff.mp hfilled
    simp [Place.erased, Token.erased, ih hrest]
  | case4 frame kind text quotes ih =>
    obtain ⟨rest, hrest, rfl⟩ := Option.map_eq_some_iff.mp hfilled
    simp [Place.erased, Token.erased, ih hrest]
  | case5 => cases hfilled
  | case6 => cases hfilled

/-! ## Tidy pieces -/

/-- Whether a piece has a text and leaves nothing open in it. -/
def Piece.isWhole (piece : Piece) : Bool :=
  !piece.chars.isEmpty && (Mode.blank.after piece.chars).settled

/-- The check for whole pieces is right. -/
theorem Piece.whole_of_isWhole {piece : Piece} (hwhole : piece.isWhole = true) : piece.Whole := by
  simp only [isWhole, Bool.and_eq_true, Bool.not_eq_true', List.isEmpty_eq_false_iff] at hwhole
  exact ⟨hwhole.1, hwhole.2⟩

namespace Pieces

/-- Pieces that leave nothing open, every two neighbours kept apart. -/
def Tidy (goesOn : Bool) (pieces : Pieces) : Prop := Spaced Piece.Whole goesOn pieces

/-- Whether a fixed text leaves nothing open and ends where nothing goes on. -/
def leadsWhole (text : String) : Bool := (Piece.fixed text).isWhole && (Piece.fixed text).closes

/-- Whether a fixed text begins with a separator and leaves nothing open. -/
def trailsWhole (text : String) : Bool := (Piece.fixed text).opens && (Piece.fixed text).isWhole

/-- Whether a fixed text begins with a separator and ends where nothing goes on. -/
def joinsWhole (text : String) : Bool := trailsWhole text && (Piece.fixed text).closes

section Around

variable {first : Char} {more behind : List Char} {text : String}

/-- The characters of a text made up of three parts are those of the parts. -/
theorem chars_around (before behind : List Char) (text : String) :
    (Piece.fixed (String.ofList before ++ text ++ String.ofList behind)).chars =
      before ++ (text.toList ++ behind) := by
  simp [Piece.chars, Piece.spell]

/-- A fixed text with a quoted name in it is checked up to the name and behind it. -/
theorem leadsWhole_around (hblank : Mode.blank.after (first :: more) = .blank)
    (hname : Mode.blank.after text.toList = .nameEnd)
    (hcloses : (Mode.nameEnd.after behind).closed = true) :
    leadsWhole (String.ofList (first :: more) ++ text ++ String.ofList behind) = true := by
  have hafter : Mode.blank.after (first :: more ++ (text.toList ++ behind)) =
      Mode.nameEnd.after behind := by
    rw [Mode.after_append, Mode.after_append, hblank, hname]
  simp only [leadsWhole, Piece.isWhole, Piece.closes, chars_around, hafter,
    Mode.settled_of_closed hcloses, hcloses]
  rfl

/-- Between a separator and a text that nothing goes on with, a quoted name keeps neighbours
apart. -/
theorem joinsWhole_around (hopens : isSeparator first = true)
    (hblank : Mode.blank.after (first :: more) = .blank)
    (hname : Mode.blank.after text.toList = .nameEnd)
    (hcloses : (Mode.nameEnd.after behind).closed = true) :
    joinsWhole (String.ofList (first :: more) ++ text ++ String.ofList behind) = true := by
  obtain ⟨hwhole, hends⟩ := Bool.and_eq_true_iff.mp (leadsWhole_around hblank hname hcloses)
  rw [joinsWhole, trailsWhole, hwhole, hends, Piece.opens, chars_around, List.cons_append,
    List.head?_cons, Option.any_some, hopens]
  rfl

end Around

section Tidy

variable {goesOn : Bool} {rest : Pieces}

theorem tidy_nil : Tidy goesOn [] := trivial

theorem Tidy.single {piece : Piece} (hwhole : piece.Whole) : Tidy false [piece] :=
  ⟨nofun, hwhole, trivial⟩

/-- Tidy pieces that may follow every text may follow tidy pieces. -/
theorem Tidy.append {a b : Pieces} (ha : Tidy goesOn a) (hb : Tidy true b) :
    Tidy goesOn (a ++ b) :=
  Spaced.append ha hb

/-- A fixed text that nothing goes on with may stand in front of tidy pieces. -/
theorem Tidy.lead (text : String) (hleads : leadsWhole text = true) (hrest : Tidy false rest) :
    Tidy false (.fixed text :: rest) := by
  obtain ⟨hwhole, hcloses⟩ := Bool.and_eq_true_iff.mp hleads
  exact Spaced.lead (Piece.whole_of_isWhole hwhole) hcloses hrest

/-- A fixed text that begins with a separator may stand behind whatever text there is. -/
theorem Tidy.trail (text : String) (htrails : trailsWhole text = true) (hrest : Tidy true rest) :
    Tidy goesOn (.fixed text :: rest) := by
  obtain ⟨hopens, hwhole⟩ := Bool.and_eq_true_iff.mp htrails
  exact Spaced.trail hopens (Piece.whole_of_isWhole hwhole) hrest

/-- A fixed text that does both keeps its two neighbours apart. -/
theorem Tidy.joint (text : String) (hjoins : joinsWhole text = true) (hrest : Tidy false rest) :
    Tidy goesOn (.fixed text :: rest) := by
  obtain ⟨htrails, hcloses⟩ := Bool.and_eq_true_iff.mp hjoins
  obtain ⟨hopens, hwhole⟩ := Bool.and_eq_true_iff.mp htrails
  exact Spaced.joint hopens (Piece.whole_of_isWhole hwhole) hcloses hrest

/-- A fixed text that begins with a separator may stand behind tidy pieces. -/
theorem Tidy.behind (text : String) (htrails : trailsWhole text = true)
    (hrest : Tidy goesOn rest) : Tidy goesOn (rest ++ [.fixed text]) :=
  hrest.append (.trail text htrails tidy_nil)

/-- Tidy texts stay tidy with such a separator between each two. -/
theorem Tidy.join (separator : String) (hjoins : joinsWhole separator = true)
    {texts : List Pieces} (htexts : ∀ text ∈ texts, Tidy false text) :
    Tidy false (Pieces.join separator texts) := by
  obtain ⟨htrails, hcloses⟩ := Bool.and_eq_true_iff.mp hjoins
  obtain ⟨hopens, hwhole⟩ := Bool.and_eq_true_iff.mp htrails
  exact Spaced.join hopens hcloses (Piece.whole_of_isWhole hwhole) htexts

end Tidy

/-! ## Pieces in a frame -/

/-- The pieces are kept apart, and their tokens are a frame with its gaps filled. -/
structure Framed (goesOn : Bool) (frame : List Place) (quotes : List Token) (pieces : Pieces) :
    Prop where
  tidy : Tidy goesOn pieces
  filled : fill frame quotes = some (pieces.flatMap Piece.tokens)

/-- The text of framed pieces has the tokens of the filled frame. -/
theorem Framed.fill_spell {goesOn : Bool} {frame : List Place} {quotes : List Token}
    {pieces : Pieces} (hframed : Framed goesOn frame quotes pieces) :
    fill frame quotes = some (Sql.tokens (pieces.spell .sqlServer)) := by
  rw [tokens_spell (fun _ hwhole => hwhole) hframed.tidy]
  exact hframed.filled

/-- Framed pieces stand in one frame behind the other. -/
theorem Framed.append {goesOn : Bool} {frame frame' : List Place} {quotes quotes' : List Token}
    {a b : Pieces} (ha : Framed goesOn frame quotes a) (hb : Framed true frame' quotes' b) :
    Framed goesOn (frame ++ frame') (quotes ++ quotes') (a ++ b) where
  tidy := ha.tidy.append hb.tidy
  filled := by
    rw [List.flatMap_append]
    exact fill_append ha.filled hb.filled

/-! ## Families -/

/-- Lists with the same images correspond item by item. -/
theorem forall₂_of_map_eq {α β γ : Type} {shape : α → γ} {shape' : β → γ} {others : List α}
    {items : List β} (halike : others.map shape = items.map shape') :
    List.Forall₂ (fun other item => shape other = shape' item) others items := by
  rw [← List.forall₂_eq_eq_eq, List.forall₂_map_left_iff, List.forall₂_map_right_iff] at halike
  exact halike

/-- Whether one frame serves all inputs of a family. -/
def Uniform {α : Type} (goesOn : Bool) (family : α → Prop) (quotes : α → List Token)
    (pieces : α → Pieces) : Prop :=
  ∃ frame, ∀ input, family input → Framed goesOn frame (quotes input) (pieces input)

namespace Uniform

variable {α β : Type} {goesOn : Bool} {family : α → Prop} {quotes quotes' : α → List Token}
  {pieces pieces' : α → Pieces}

/-- Uniform parts make up a uniform whole. -/
theorem append (hfirst : Uniform goesOn family quotes pieces)
    (hsecond : Uniform true family quotes' pieces') :
    Uniform goesOn family (fun input => quotes input ++ quotes' input)
      (fun input => pieces input ++ pieces' input) := by
  obtain ⟨frame, hframe⟩ := hfirst
  obtain ⟨frame', hframe'⟩ := hsecond
  exact ⟨frame ++ frame', fun input hinput => (hframe input hinput).append (hframe' input hinput)⟩

/-- Pieces that are the same for all inputs are their own frame. -/
theorem own {shared : Pieces} (htidy : Tidy goesOn shared) :
    Uniform goesOn family (fun _ => []) (fun _ => shared) :=
  ⟨(shared.flatMap Piece.tokens).map .own, fun _ _ => ⟨htidy, fill_map_own _⟩⟩

/-- A fixed text comes in front of uniform pieces that may follow it. -/
theorem cons {before : Bool} {text : String}
    (htidy : ∀ rest, Tidy before rest → Tidy goesOn (.fixed text :: rest))
    (hrest : Uniform before family quotes pieces) :
    Uniform goesOn family quotes (fun input => .fixed text :: pieces input) := by
  obtain ⟨frame, hframe⟩ := hrest
  refine ⟨(Piece.fixed text).tokens.map .own ++ frame, fun input hinput => ⟨?_, ?_⟩⟩
  · exact htidy _ (hframe input hinput).tidy
  · rw [List.flatMap_cons]
    exact fill_append (fill_map_own _) (hframe input hinput).filled

/-- A fixed text that nothing goes on with may stand in front of uniform pieces. -/
theorem lead (text : String) (hleads : leadsWhole text = true)
    (hrest : Uniform false family quotes pieces) :
    Uniform false family quotes (fun input => .fixed text :: pieces input) :=
  hrest.cons fun _ htidy => htidy.lead text hleads

/-- A fixed text that begins with a separator may stand in front of uniform pieces that may follow
every text. -/
theorem trail (text : String) (htrails : trailsWhole text = true)
    (hrest : Uniform true family quotes pieces) :
    Uniform goesOn family quotes (fun input => .fixed text :: pieces input) :=
  hrest.cons fun _ htidy => htidy.trail text htrails

/-- A fixed text that does both may stand in front of all uniform pieces. -/
theorem joint (text : String) (hjoins : joinsWhole text = true)
    (hrest : Uniform false family quotes pieces) :
    Uniform goesOn family quotes (fun input => .fixed text :: pieces input) :=
  hrest.cons fun _ htidy => htidy.joint text hjoins

/-- Without inputs there is nothing to frame. -/
theorem of_empty (hempty : ∀ input, ¬ family input) : Uniform goesOn family quotes pieces :=
  ⟨[], fun input hinput => absurd hinput (hempty input)⟩

theorem nil : Uniform goesOn family (fun _ => []) (fun _ => []) := own tidy_nil

/-- A fixed text that begins with a separator may stand behind uniform pieces. -/
theorem behind (text : String) (htrails : trailsWhole text = true)
    (huniform : Uniform goesOn family quotes pieces) :
    Uniform goesOn family quotes (fun input => pieces input ++ [.fixed text]) := by
  obtain ⟨frame, hframe⟩ : Uniform goesOn family (fun input => quotes input ++ []) _ :=
    huniform.append (.trail text htrails .nil)
  exact ⟨frame, fun input hinput => by simpa using hframe input hinput⟩

/-- A quoted identifier fills a gap, whatever characters the name has. -/
theorem name (text : α → String) :
    Uniform false family (fun input => [.name (text input)]) (fun input => [.name (text input)]) :=
  ⟨[.name], fun input _ =>
    ⟨⟨nofun, Piece.whole_of_keyless rfl, trivial⟩, by simp [fill, Piece.tokens_name]⟩⟩

/-- A text literal fills a gap, whatever characters the text has. -/
theorem literal (national : Bool) (text : α → String) :
    Uniform false family (fun input => [.literal national (text input)])
      (fun input => [.literal national (text input)]) := by
  refine ⟨[.literal national], fun input _ =>
    ⟨⟨nofun, Piece.whole_of_keyless rfl, trivial⟩, ?_⟩⟩
  cases national <;> simp [fill, Piece.tokens_literal, Piece.tokens_nationalLiteral]

/-- What is uniform in parts of inputs is uniform in the inputs. -/
theorem along {family' : β → Prop} {quotes' : β → List Token} {pieces' : β → Pieces}
    (huniform : Uniform goesOn family' quotes' pieces')
    (hpart : ∀ input, family input →
      ∃ part, family' part ∧ quotes input = quotes' part ∧ pieces input = pieces' part) :
    Uniform goesOn family quotes pieces := by
  obtain ⟨frame, hframe⟩ := huniform
  refine ⟨frame, fun input hinput => ?_⟩
  obtain ⟨part, hfamily, hquotes, hpieces⟩ := hpart input hinput
  rw [hquotes, hpieces]
  exact hframe part hfamily

/-- What is uniform in a part of each input is uniform in the inputs. -/
theorem on {family' : β → Prop} (part : α → β) {quotes : β → List Token} {pieces : β → Pieces}
    (huniform : Uniform goesOn family' quotes pieces)
    (hfamily : ∀ input, family input → family' (part input)) :
    Uniform goesOn family (fun input => quotes (part input)) (fun input => pieces (part input)) :=
  huniform.along fun input hinput => ⟨part input, hfamily input hinput, rfl, rfl⟩

/-- Uniform pieces may be replaced by equal ones. -/
theorem congr (huniform : Uniform goesOn family quotes pieces)
    (hquotes : ∀ input, family input → quotes' input = quotes input)
    (hpieces : ∀ input, family input → pieces' input = pieces input) :
    Uniform goesOn family quotes' pieces' :=
  huniform.along fun input hinput => ⟨input, hinput, hquotes input hinput, hpieces input hinput⟩

/-- Uniform items stay uniform with a separator between each two. -/
theorem join {alike : α → β → Prop} (separator : String) (hjoins : joinsWhole separator = true)
    {items : List β}
    (hitems : ∀ item ∈ items, Uniform false (alike · item) quotes pieces) :
    Uniform false (List.Forall₂ alike · items) (fun others => others.flatMap quotes)
      (fun others => Pieces.join separator (others.map pieces)) := by
  induction items with
  | nil =>
    refine nil.congr ?_ ?_
    all_goals rintro _ ⟨⟩; rfl
  | cons item rest ih =>
    obtain ⟨frame, hframe⟩ := hitems item List.mem_cons_self
    have hrest := ih fun next hnext => hitems next (List.mem_cons_of_mem item hnext)
    cases rest with
    | nil =>
      refine ⟨frame, ?_⟩
      rintro _ (_ | ⟨hother, ⟨⟩⟩)
      simpa [Pieces.join] using hframe _ hother
    | cons next more =>
      obtain ⟨frame', hframe'⟩ : Uniform true _ _ _ := hrest.joint separator hjoins
      refine ⟨frame ++ frame', ?_⟩
      rintro _ (_ | ⟨hother, hothers⟩)
      have hframed := (hframe _ hother).append (hframe' _ hothers)
      cases hothers
      exact hframed

/-- Lists of items of the same shapes have one frame if items of a shape have one. -/
theorem join_of_shape {shape : α → β} (separator : String)
    (hjoins : joinsWhole separator = true) (items : List α)
    (hitems : ∀ item, Uniform false (fun other => shape other = shape item) quotes pieces) :
    Uniform false (fun others : List α => others.map shape = items.map shape)
      (fun others => others.flatMap quotes)
      (fun others => Pieces.join separator (others.map pieces)) := by
  have hjoined : Uniform false
      (List.Forall₂ (fun other item => shape other = shape item) · items) _ _ :=
    .join separator hjoins fun item _ => hitems item
  exact hjoined.along fun others halike => ⟨others, forall₂_of_map_eq halike, rfl, rfl⟩

end Uniform

end Pieces

end SqlScribe.Sql
