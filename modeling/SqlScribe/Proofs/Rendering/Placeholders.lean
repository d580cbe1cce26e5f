import Mathlib.Data.List.Sort
import SqlScribe.Sql.Binding
import SqlScribe.Sql.Printer

/-!
# Placeholders

Rendering binds values one after the other and refers to each of them in the text.  So
the placeholders that a step of rendering writes are those of consecutive values, and the
placeholders of two steps glue.

Main definitions:

- `Sql.Pieces.indices` are the placeholders of a text, from left to right.
- `Sql.Span` says that placeholders are those of consecutive values, and whether they
  first occur in order.
- `Binding.Spans` says so of the result of a step.

Main results:

- `Sql.Span.append` and `Sql.Span.swap`: texts are put together in the order of binding or
  in the other one.
- `Binding.Spans.seq`: a step and the next one.
-/

namespace SqlScribe

/-! ## Placeholders in a text -/

namespace Sql

/-- The number of the value that a piece stands for. -/
def Piece.index? : Piece → Option Nat
  | .placeholder index => some index
  | _ => none

namespace Pieces

/-- The placeholders of a text, from left to right. -/
def indices (pieces : Pieces) : List Nat := pieces.filterMap Piece.index?

@[simp] theorem indices_nil : indices [] = [] := rfl

@[simp] theorem indices_append (a b : Pieces) : indices (a ++ b) = indices a ++ indices b :=
  List.filterMap_append

@[simp] theorem indices_placeholder (index : Nat) (rest : Pieces) :
    indices (.placeholder index :: rest) = index :: indices rest := rfl

@[simp] theorem indices_fixed (text : String) (rest : Pieces) :
    indices (.fixed text :: rest) = indices rest := rfl

@[simp] theorem indices_name (text : String) (rest : Pieces) :
    indices (.name text :: rest) = indices rest := rfl

@[simp] theorem indices_ownName (text : String) (rest : Pieces) :
    indices (.ownName text :: rest) = indices rest := rfl

@[simp] theorem indices_literal (national : Bool) (text : String) (rest : Pieces) :
    indices (.literal national text :: rest) = indices rest := rfl

@[simp] theorem indices_number (value : Int) (rest : Pieces) :
    indices (.number value :: rest) = indices rest := rfl

/-- Separators have no placeholders. -/
@[simp] theorem indices_join (separator : String) (texts : List Pieces) :
    indices (join separator texts) = texts.flatMap indices := by
  induction texts with
  | nil => rfl
  | cons text rest ih =>
    cases rest with
    | nil => simp [join]
    | cons next more => simp [join, ih]

end Pieces

/-- The placeholders of an expression. -/
abbrev Scalar.indices (scalar : Scalar) : List Nat := scalar.pieces.indices

/-- The placeholders of a condition. -/
abbrev Predicate.indices (predicate : Predicate) : List Nat := predicate.pieces.indices

/-- Further arguments have the placeholders of all of them. -/
theorem indices_moreArgumentPieces (scalars : List Scalar) :
    (moreArgumentPieces scalars).indices = scalars.flatMap Scalar.indices := by
  induction scalars with
  | nil => rfl
  | cons scalar rest ih => simp [moreArgumentPieces, ih]

/-- Arguments have the placeholders of all of them. -/
@[simp] theorem indices_argumentPieces (scalars : List Scalar) :
    (argumentPieces scalars).indices = scalars.flatMap Scalar.indices := by
  cases scalars with
  | nil => rfl
  | cons scalar rest => simp [argumentPieces, indices_moreArgumentPieces]

@[simp] theorem Scalar.indices_call (function : Function) (arguments : List Scalar) :
    (Scalar.call function arguments).indices = arguments.flatMap Scalar.indices := by
  simp [Scalar.indices, Scalar.pieces]

/-! ## Consecutive placeholders -/

/-- Placeholders are those of a number of consecutive values, and they first occur in
order exactly under a condition. -/
structure Span (first count : Nat) (inOrder : Prop) (indices : List Nat) : Prop where
  mem_iff : ∀ index, index ∈ indices ↔ first ≤ index ∧ index < first + count
  inOrder_iff : indices.eraseDups.Pairwise (· < ·) ↔ inOrder

namespace Span

variable {first m n : Nat} {p q : Prop} {xs ys : List Nat}

/-- Without values there are no placeholders. -/
theorem nil (first : Nat) : Span first 0 True [] where
  mem_iff := by
    intro index
    simp only [List.not_mem_nil, false_iff]
    omega
  inOrder_iff := by simp

/-- A single value has one placeholder. -/
theorem single (first : Nat) : Span first 1 True [first] where
  mem_iff := by
    intro index
    rw [List.mem_singleton]
    omega
  inOrder_iff := by simp [List.eraseDups_cons]

theorem congr (hspan : Span first m p xs) (hiff : p ↔ q) : Span first m q xs :=
  ⟨hspan.mem_iff, hspan.inOrder_iff.trans hiff⟩

/-- First occurrences in two texts without a common placeholder are those in the one and
then those in the other. -/
theorem eraseDups_append_of_disjoint (hdisjoint : ∀ x ∈ xs, x ∉ ys) :
    (xs ++ ys).eraseDups = xs.eraseDups ++ ys.eraseDups := by
  have hkeep : ys.removeAll xs = ys := by
    rw [List.removeAll, List.filter_eq_self]
    intro y hy
    simpa using fun hx => hdisjoint y hx hy
  rw [List.eraseDups_append, hkeep]

/-- What has occurred does not occur for the first time again. -/
theorem eraseDups_append_of_subset (hsubset : ∀ y ∈ ys, y ∈ xs) :
    (xs ++ ys).eraseDups = xs.eraseDups := by
  have hdrop : ys.removeAll xs = [] := by
    rw [List.removeAll, List.filter_eq_nil_iff]
    intro y hy
    simpa using hsubset y hy
  rw [List.eraseDups_append, hdrop]
  simp

/-- Placeholders of values behind others are none of theirs. -/
theorem disjoint (hxs : Span first m p xs) (hys : Span (first + m) n q ys) :
    ∀ x ∈ xs, x ∉ ys := by
  intro x hx hy
  have hlow := (hxs.mem_iff x).mp hx
  have hhigh := (hys.mem_iff x).mp hy
  omega

/-- The placeholders of two texts, one behind the other, are those of the values of both.
They are in order if those of each text are. -/
theorem append (hxs : Span first m p xs) (hys : Span (first + m) n q ys) :
    Span first (m + n) (p ∧ q) (xs ++ ys) where
  mem_iff := by
    intro index
    rw [List.mem_append, hxs.mem_iff, hys.mem_iff]
    omega
  inOrder_iff := by
    have hless : ∀ x ∈ xs.eraseDups, ∀ y ∈ ys.eraseDups, x < y := by
      intro x hx y hy
      have hlow := (hxs.mem_iff x).mp (List.mem_eraseDups.mp hx)
      have hhigh := (hys.mem_iff y).mp (List.mem_eraseDups.mp hy)
      omega
    rw [eraseDups_append_of_disjoint (hxs.disjoint hys), List.pairwise_append, hxs.inOrder_iff,
      hys.inOrder_iff]
    constructor
    · rintro ⟨hp, hq, -⟩
      exact ⟨hp, hq⟩
    · rintro ⟨hp, hq⟩
      exact ⟨hp, hq, hless⟩

/-- If the text that binds first is written last, placeholders are in order only if one
of the texts has none. -/
theorem swap (hxs : Span first m p xs) (hys : Span (first + m) n q ys) :
    Span first (m + n) (p ∧ q ∧ (m = 0 ∨ n = 0)) (ys ++ xs) where
  mem_iff := by
    intro index
    rw [List.mem_append, hxs.mem_iff, hys.mem_iff]
    omega
  inOrder_iff := by
    have hdisjoint : ∀ y ∈ ys, y ∉ xs := fun y hy hx => hxs.disjoint hys y hx hy
    rw [eraseDups_append_of_disjoint hdisjoint, List.pairwise_append, hxs.inOrder_iff,
      hys.inOrder_iff]
    constructor
    · rintro ⟨hq, hp, hless⟩
      refine ⟨hp, hq, ?_⟩
      by_contra hboth
      -- The first value of the later text would have to come before that of the earlier one.
      have hlow : first ∈ xs := (hxs.mem_iff first).mpr (by omega)
      have hhigh : first + m ∈ ys := (hys.mem_iff (first + m)).mpr (by omega)
      have hlt := hless _ (List.mem_eraseDups.mpr hhigh) _ (List.mem_eraseDups.mpr hlow)
      omega
    · rintro ⟨hp, hq, hnone⟩
      refine ⟨hq, hp, ?_⟩
      intro y hy x hx
      have hlow := (hxs.mem_iff x).mp (List.mem_eraseDups.mp hx)
      have hhigh := (hys.mem_iff y).mp (List.mem_eraseDups.mp hy)
      omega

/-- Placeholders that have occurred may be repeated. -/
theorem again (hxs : Span first m p xs) (hsubset : ∀ y ∈ ys, y ∈ xs) :
    Span first m p (xs ++ ys) where
  mem_iff := by
    intro index
    rw [List.mem_append, ← hxs.mem_iff]
    exact ⟨fun hor => hor.elim id (hsubset index), .inl⟩
  inOrder_iff := by rw [eraseDups_append_of_subset hsubset, hxs.inOrder_iff]

/-- First occurrences in order are all the values in order. -/
theorem eraseDups_eq_range'_iff (hspan : Span first m p xs) :
    xs.eraseDups = List.range' first m ↔ p := by
  rw [← hspan.inOrder_iff]
  constructor
  · intro heq
    rw [heq]
    exact List.pairwise_lt_range' 1
  · intro hpairwise
    apply hpairwise.eq_of_mem_iff (List.pairwise_lt_range' 1)
    intro index
    rw [List.mem_eraseDups, hspan.mem_iff, List.mem_range'_1]

end Span

end Sql

/-! ## Steps that bind -/

namespace Binding

open Sql (Span)

variable {α β γ : Type} {p q : Prop} {before : List Nat} {constants more : List Value}
  {indices : α → List Nat} {others : β → List Nat}

/-- A step binds the given values, and behind what stands before them the placeholders
of its result are those of these values. -/
def Spans (before : List Nat) (indices : α → List Nat) (constants : List Value) (inOrder : Prop)
    (step : Binding α) : Prop :=
  ∀ ⦃values result values'⦄, step values = .ok (result, values') →
    values' = values ++ constants ∧
      ∃ own, indices result = before ++ own ∧ Span values.length constants.length inOrder own

theorem Spans.congr {step : Binding α} (hstep : Spans before indices constants p step)
    (hconstants : constants = more) (hiff : p ↔ q) : Spans before indices more q step := by
  intro values result values' hrun
  obtain ⟨hvalues, own, hown, hspan⟩ := hstep hrun
  subst hconstants
  exact ⟨hvalues, own, hown, hspan.congr hiff⟩

theorem spans_pure {result : α} (hresult : indices result = before) :
    Spans before indices [] True (pure result) := by
  intro values other values' hrun
  simp only [run_pure, Except.ok.injEq, Prod.mk.injEq] at hrun
  obtain ⟨rfl, rfl⟩ := hrun
  exact ⟨by simp, [], by simp [hresult], .nil _⟩

/-- A step that never succeeds binds whatever is said of it. -/
theorem spans_fail (reason : RenderError) : Spans before indices constants p (fail reason) := by
  intro values result values' hrun
  simp at hrun

/-- A bound value is referred to once. -/
theorem spans_bind (value : Value) : Spans [] Sql.Scalar.indices [value] True (bind value) := by
  intro values result values' hrun
  simp only [run_bind, Except.ok.injEq, Prod.mk.injEq] at hrun
  obtain ⟨rfl, rfl⟩ := hrun
  exact ⟨rfl, [values.length], rfl, .single _⟩

/-- A check binds nothing. -/
theorem spans_check (result : Except RenderError Unit) :
    Spans [] (fun _ => []) [] True (check result) := by
  intro values done values' hrun
  obtain ⟨-, rfl⟩ := run_check_eq_ok.mp hrun
  exact ⟨by simp, [], rfl, .nil _⟩

/-- A step and the next one, whose placeholders stand behind those of the first one. -/
theorem Spans.seq {first : Binding α} {next : α → Binding β}
    (hfirst : Spans [] indices constants p first)
    (hnext : ∀ part, Spans (before ++ indices part) others more q (next part)) :
    Spans before others (constants ++ more) (p ∧ q) (first >>= next) := by
  intro values result values' hrun
  obtain ⟨part, between, hpart, hrest⟩ := run_seq_eq_ok.mp hrun
  obtain ⟨rfl, own, hown, hspan⟩ := hfirst hpart
  obtain ⟨rfl, rest, hresult, hrestSpan⟩ := hnext part hrest
  rw [List.nil_append] at hown
  rw [List.length_append] at hrestSpan
  refine ⟨List.append_assoc .., own ++ rest, ?_, ?_⟩
  · rw [hresult, hown, List.append_assoc]
  · rw [List.length_append]
    exact hspan.append hrestSpan

/-- A step whose result is only put together. -/
theorem Spans.map {first : Binding α} {result : α → β}
    (hfirst : Spans [] indices constants p first)
    (hresult : ∀ part, others (result part) = before ++ indices part) :
    Spans before others constants p (first >>= fun part => pure (result part)) :=
  (hfirst.seq fun part => spans_pure (hresult part)).congr (List.append_nil _)
    (and_iff_left trivial)

/-- An optional part binds its values, if it is there. -/
theorem spans_optional {render : α → Binding β} {values : α → List Value} {inOrder : α → Prop}
    (hrender : ∀ part, Spans [] others (values part) (inOrder part) (render part))
    (part : Option α) :
    Spans [] (fun result => result.toList.flatMap others) (part.toList.flatMap values)
      (∀ x ∈ part, inOrder x) (optional render part) := by
  cases part with
  | none => exact (spans_pure rfl).congr rfl (by simp)
  | some part => exact ((hrender part).map (by simp)).congr (by simp) (by simp)

/-- Parts bind their values one after the other. -/
theorem spans_mapM {render : α → Binding β} {values : α → List Value} {inOrder : α → Prop}
    (hrender : ∀ part, Spans [] others (values part) (inOrder part) (render part))
    (parts : List α) :
    Spans [] (fun results => results.flatMap others) (parts.flatMap values)
      (∀ x ∈ parts, inOrder x) (parts.mapM render) := by
  induction parts with
  | nil => exact (spans_pure rfl).congr rfl (by simp)
  | cons part rest ih =>
    rw [List.mapM_cons]
    have hrest : ∀ result : β, Spans ([] ++ others result) (fun results => results.flatMap others)
        (rest.flatMap values) (∀ x ∈ rest, inOrder x)
        (rest.mapM render >>= fun results => pure (result :: results)) :=
      fun result => ih.map fun results => by simp
    exact ((hrender part).seq hrest).congr (by simp) (by simp)

end Binding

end SqlScribe
