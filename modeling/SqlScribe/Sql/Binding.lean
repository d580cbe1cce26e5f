import SqlScribe.RenderError
import SqlScribe.Sql.Syntax

/-!
# Binding values

While a query is rendered its values are bound one after the other; a bound value
is referred to by its position.  Rendering may stop with a reason.

Main definitions:

- `Binding` is a rendering step that may bind values.
- `Binding.bind` binds one value.

Main results:

- `Binding.run_seq_eq_ok` takes apart two steps that succeed.
-/

namespace SqlScribe

/-- A rendering step: it takes the values bound so far and, unless it stops with a
reason, returns a result and the values bound then. -/
abbrev Binding (α : Type) := StateT (List Value) (Except RenderError) α

namespace Binding

/-- Binds a value and refers to it. -/
def bind (value : Value) : Binding Sql.Scalar := fun values =>
  .ok (.parameter values.length, values ++ [value])

/-- Stops with a reason. -/
def fail {α : Type} (reason : RenderError) : Binding α := fun _ => .error reason

/-- Stops with the reason that a check found, if it found one. -/
def check (result : Except RenderError Unit) : Binding Unit := fun values =>
  result.map fun _ => ((), values)

/-- Renders a part that may be absent. -/
def optional {α β : Type} (render : α → Binding β) : Option α → Binding (Option β)
  | none => pure none
  | some part => do
    let result ← render part
    pure (some result)

@[simp] theorem run_bind (value : Value) (values : List Value) :
    bind value values = .ok (.parameter values.length, values ++ [value]) := rfl

@[simp] theorem run_fail {α : Type} (reason : RenderError) (values : List Value) :
    (fail reason : Binding α) values = .error reason := rfl

@[simp] theorem run_pure {α : Type} (result : α) (values : List Value) :
    (pure result : Binding α) values = .ok (result, values) := rfl

/-! ## Two steps -/

variable {α β : Type} {values values' : List Value}

/-- Two steps succeed together where the second one succeeds after the first one. -/
theorem run_seq_eq_ok {first : Binding α} {next : α → Binding β} {result : β} :
    (first >>= next) values = .ok (result, values') ↔
      ∃ part between, first values = .ok (part, between) ∧
        next part between = .ok (result, values') := by
  change (first values >>= fun (part, between) => next part between) = _ ↔ _
  cases hfirst : first values with
  | error reason => simp [Bind.bind, Except.bind]
  | ok done =>
    obtain ⟨part, between⟩ := done
    simp only [Bind.bind, Except.bind, Except.ok.injEq, Prod.mk.injEq]
    constructor
    · intro hnext
      exact ⟨part, between, ⟨rfl, rfl⟩, hnext⟩
    · rintro ⟨_, _, ⟨rfl, rfl⟩, hnext⟩
      exact hnext

/-- Behind a step that succeeds the next one decides. -/
theorem run_seq_of_ok {first : Binding α} {next : α → Binding β} {part : α}
    (hfirst : first values = .ok (part, values')) :
    (first >>= next) values = next part values' := by
  change (first values >>= fun done => next done.1 done.2) = _
  rw [hfirst]
  rfl

/-- Behind a step that stops nothing is done. -/
theorem run_seq_of_error {first : Binding α} {next : α → Binding β} {reason : RenderError}
    (hfirst : first values = .error reason) : (first >>= next) values = .error reason := by
  change (first values >>= fun done => next done.1 done.2) = _
  rw [hfirst]
  rfl

/-- A check is passed without a change of what is bound. -/
theorem run_check_eq_ok {result : Except RenderError Unit} {done : Unit} :
    check result values = .ok (done, values') ↔ result = .ok () ∧ values' = values := by
  cases result with
  | error reason => simp [check, Except.map]
  | ok _ => simp [check, Except.map, eq_comm]

end Binding

end SqlScribe
