import SqlScribe.Proofs.Evaluation.Expressions

/-!
# Searches in texts

A search is rendered as a pattern match.  The term is escaped where it is a constant and
otherwise by the server, wildcard by wildcard, and both ways lead to the same pattern.

Main definitions:

- `Expr.SearchedAs` says which text a search term stands for.

Main results:

- `Sql.value_escapeScalar`: the server escapes a term as a constant is escaped.
- `Expr.truth_search`: a search is true exactly of the texts that have the term in the place.
-/

namespace SqlScribe

namespace Sql

variable {environment : Environment}

/-! ## Escaping by the server -/

/-- A character once a single wildcard is escaped. -/
def escapeWildcard (wildcard c : Char) : List Char :=
  if c = wildcard then Pattern.escapeChar wildcard else [c]

/-- Each replacement of the server escapes one wildcard. -/
theorem value_replace_wildcard {scalar : Scalar} {text : List Char} (wildcard : Char)
    (hscalar : scalar.value environment = .text (String.ofList text)) :
    (Scalar.call .replace [scalar, .text (String.ofList [wildcard]),
        .text (String.ofList (Pattern.escapeChar wildcard))]).value environment =
      .text (String.ofList (text.flatMap (escapeWildcard wildcard))) := by
  have hreplaced := replaceAll_singleton (String.ofList text) wildcard
    (Pattern.escapeChar wildcard)
  rw [String.toList_ofList] at hreplaced
  simp only [Scalar.value, argumentValues, hscalar, Environment.apply]
  exact congrArg Value.text hreplaced

/-- What is put in for one wildcard holds none of the later ones, so in their order all of them
are escaped once. -/
theorem flatMap_escapeWildcard (c : Char) :
    ((escapeWildcard '[' c).flatMap fun d => (escapeWildcard '%' d).flatMap (escapeWildcard '_')) =
      Pattern.escapeChar c := by
  by_cases hwildcard : c ∈ Pattern.wildcards
  · rcases (show c = '[' ∨ c = '%' ∨ c = '_' by simpa [Pattern.wildcards] using hwildcard) with
      rfl | rfl | rfl
    all_goals rfl
  · obtain ⟨hbracket, hpercent, hunderscore⟩ : c ≠ '[' ∧ c ≠ '%' ∧ c ≠ '_' := by
      simpa [Pattern.wildcards] using hwildcard
    simp [escapeWildcard, Pattern.escapeChar, hwildcard, hbracket, hpercent, hunderscore]

/-- The server escapes a term as a constant is escaped. -/
theorem value_escapeScalar {scalar : Scalar} {term : String}
    (hscalar : scalar.value environment = .text term) :
    (Pattern.escapeScalar scalar).value environment = .text (Pattern.escape term) := by
  rw [← String.ofList_toList (s := term)] at hscalar
  have hbracket := value_replace_wildcard '[' hscalar
  have hescaped := value_replace_wildcard '_' (value_replace_wildcard '%' hbracket)
  simp only [List.flatMap_assoc, flatMap_escapeWildcard] at hescaped
  exact hescaped

/-- The pattern that finds a term in a place has percent signs around it. -/
theorem value_inPlace {scalar : Scalar} {pattern : String} (place : SearchPlace)
    (hscalar : scalar.value environment = .text pattern) :
    (Pattern.inPlace place scalar).value environment = .text (Pattern.around place pattern) := by
  cases place <;> simp [Pattern.inPlace, Pattern.around, Scalar.value, Environment.plus, hscalar]

/-- A match with an escaped term finds the term itself. -/
theorem truth_like_inPlace {text pattern : Scalar} {x term : String} (place : SearchPlace)
    (htext : text.value environment = .text x)
    (hpattern : pattern.value environment = .text (Pattern.escape term)) :
    (Predicate.like text (Pattern.inPlace place pattern)).truth environment =
      some (decide (place.Finds term x)) := by
  rw [Predicate.truth, htext, value_inPlace place hpattern, Environment.like, Option.some.injEq,
    Bool.eq_iff_iff, Pattern.accepts_around_escape_iff, decide_eq_true_iff]

end Sql

namespace Expr

open Sql

/-- The text that a search term stands for where it is rendered behind bound values: a constant
text stands for itself, every other term for the value that its rendering has. -/
inductive SearchedAs (environment : Environment) (values : List Value) : Expr → String → Prop where
  | constant (text : String) : SearchedAs environment values (.value (.text text)) text
  | rendered {term : Expr} {scalar : Scalar} {values' : List Value} {text : String}
      (hother : ∀ constant, term ≠ .value (.text constant))
      (hrendered : term.scalar values = .ok (scalar, values'))
      (hvalue : scalar.value environment = .text text) : SearchedAs environment values term text

/-- The pattern of a term, bound or escaped by the server, is the escaped term. -/
theorem value_pattern {environment : Environment} {term : Expr} {values values' : List Value}
    {pattern : Scalar} {text : String}
    (hpattern : Expr.pattern term term.scalar values = .ok (pattern, values'))
    (hbound : values' <+: environment.bound) (hterm : term.SearchedAs environment values text) :
    pattern.value environment = .text (Pattern.escape text) := by
  cases hterm with
  | constant =>
    cases hpattern
    have hlast := List.prefix_iff_getElem?.mp hbound values.length (by simp)
    simp [Scalar.value, hlast]
  | rendered hother hrendered hvalue =>
    rw [Expr.pattern.eq_2 _ _ hother] at hpattern
    obtain ⟨scalar, between, hscalar, hpattern⟩ := Binding.run_seq_eq_ok.mp hpattern
    rw [hrendered] at hscalar
    cases hscalar
    cases hpattern
    exact value_escapeScalar hvalue

/-- A search is rendered as a match with a pattern, which for every term is the escaped term.
It is true exactly of the texts that have the term in the place, and never unknown of a text. -/
theorem truth_search {environment : Environment} {place : SearchPlace} {text term : Expr}
    {values between values' : List Value} {textScalar : Scalar} {predicate : Predicate}
    {x s : String}
    (hpredicate : (Expr.search place text term).predicate values = .ok (predicate, values'))
    (hbound : values' <+: environment.bound)
    (htext : text.scalar values = .ok (textScalar, between))
    (hx : textScalar.value environment = .text x)
    (hs : term.SearchedAs environment between s) :
    ∃ pattern, predicate = .like textScalar (Pattern.inPlace place pattern) ∧
      pattern.value environment = .text (Pattern.escape s) ∧
      predicate.truth environment = some (decide (place.Finds s x)) := by
  obtain ⟨rendered, behind, hrendered, hpredicate⟩ := Binding.run_seq_eq_ok.mp hpredicate
  rw [htext] at hrendered
  cases hrendered
  obtain ⟨pattern, _, hpattern, hpredicate⟩ := Binding.run_seq_eq_ok.mp hpredicate
  cases hpredicate
  have hescaped := value_pattern hpattern hbound hs
  exact ⟨pattern, rfl, hescaped, truth_like_inPlace place hx hescaped⟩

/-- A row with a name and a prefix that is full of wildcards. -/
def wildcardRow (bound : List Value) : Environment where
  column := fun name => .text (if name = "Name" then "a[50%_] ^b" else "a[5_")
  bound := bound
  call := fun _ _ => .null
  cast := fun _ value => value
  sum := fun _ _ => .null
  difference := fun _ _ => .null
  compares := fun _ _ _ => false
  matching := fun _ _ => false

/-- The name has a constant in it, and does not begin with the prefix. -/
theorem truth_search_wildcardRow :
    (∃ predicate,
      (Expr.search .anywhere (.field "Name") (.value (.text "[50%_]"))).predicate [] =
          .ok (predicate, [.text "[[]50[%][_]]"]) ∧
        predicate.truth (wildcardRow [.text "[[]50[%][_]]"]) = some true) ∧
      ∃ predicate,
        (Expr.search .start (.field "Name") (.field "Prefix")).predicate [] =
            .ok (predicate, []) ∧
          predicate.truth (wildcardRow []) = some false := by
  have hconstant : (Expr.search .anywhere (.field "Name") (.value (.text "[50%_]"))).predicate [] =
      .ok (.like (.column "Name") (Pattern.inPlace .anywhere (.parameter 0)),
        [.text "[[]50[%][_]]"]) := by
    have hescape : Pattern.escape "[50%_]" = "[[]50[%][_]]" := by decide +kernel
    rw [← hescape]
    rfl
  have hfield : (Expr.search .start (.field "Name") (.field "Prefix")).predicate [] =
      .ok (.like (.column "Name")
        (Pattern.inPlace .start (Pattern.escapeScalar (.column "Prefix"))), []) :=
    rfl
  have hbound : [.text "[[]50[%][_]]"] <+: (wildcardRow [.text "[[]50[%][_]]"]).bound :=
    List.prefix_refl _
  have hname : (Expr.field "Name").scalar [] = .ok (.column "Name", []) := rfl
  have hvalue : ∀ bound,
      (Scalar.column "Name").value (wildcardRow bound) = .text "a[50%_] ^b" := fun _ => rfl
  have hprefix : (Expr.field "Prefix").SearchedAs (wildcardRow []) [] "a[5_" :=
    .rendered nofun rfl rfl
  obtain ⟨_, -, -, hfound⟩ := truth_search hconstant hbound hname (hvalue _) (.constant _)
  obtain ⟨_, -, -, hmissed⟩ :=
    truth_search hfield List.nil_prefix hname (hvalue _) hprefix
  refine ⟨⟨_, hconstant, ?_⟩, _, hfield, ?_⟩
  · rw [hfound]
    decide +kernel
  · rw [hmissed]
    decide +kernel

end Expr

end SqlScribe
