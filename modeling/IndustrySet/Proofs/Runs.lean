import IndustrySet.Update

set_option autoImplicit false

/-! # Runs of updates

A run makes one call after the other and goes on after a refused one (`runAll`). What each call
preserves holds after every run, of the calls that were accepted and the state they led to
(`runAll_invariant`). -/

namespace IndustrySet.Update

variable {α σ τ : Type}

/-- What becomes of some calls. -/
structure Run (α σ : Type) where
  /-- The calls that were not refused, in order. -/
  accepted : List α
  /-- The state at the end. -/
  state : σ

/-- The run of some calls, each on the state that the one before it left. -/
def runAll (update : α → Update σ Unit) : σ → List α → Run α σ
  | state, [] => ⟨[], state⟩
  | state, call :: rest =>
    match (update call).run state with
    | .ok () next =>
      let run := runAll update next rest
      { run with accepted := call :: run.accepted }
    | .error _ after => runAll update after rest

/-- The update is refused just under a condition, and then leaves the state as it was. -/
def RefusedIff (update : Update σ Unit) (state : σ) (condition : Prop) : Prop :=
  match update.run state with
  | .ok () _ => ¬condition
  | .error _ after => condition ∧ after = state

theorem refusedIff_of_ok {update : Update σ Unit} {state next : σ} {condition : Prop}
    (run : update.run state = .ok () next) (fine : ¬condition) :
    update.RefusedIff state condition := by
  rw [RefusedIff, run]
  exact fine

theorem refusedIff_of_error {update : Update σ Unit} {state : σ} {condition : Prop} {e : Error}
    (run : update.run state = .error e state) (cause : condition) :
    update.RefusedIff state condition := by
  rw [RefusedIff, run]
  exact ⟨cause, rfl⟩

theorem RefusedIff.not_of_ok {update : Update σ Unit} {state next : σ} {condition : Prop}
    (h : update.RefusedIff state condition) (run : update.run state = .ok () next) :
    ¬condition := by
  rw [RefusedIff, run] at h
  exact h

theorem RefusedIff.eq_of_error {update : Update σ Unit} {state after : σ} {condition : Prop}
    {e : Error} (h : update.RefusedIff state condition) (run : update.run state = .error e after) :
    after = state := by
  rw [RefusedIff, run] at h
  exact h.2

@[simp]
theorem run_liftExcept_ok (a : α) (state : σ) :
    (liftExcept (.ok a : Except Error α) : Update σ α).run state = .ok a state := rfl

section

variable {ε β : Type}

/-- A step that does not look at the state comes first. -/
theorem run_liftExcept_bind (x : Except ε α) (next : α → EStateM ε σ β) (state : σ) :
    (liftExcept x >>= next).run state =
      match x with
      | .ok a => (next a).run state
      | .error e => .error e state := by
  cases x <;> rfl

/-- What was done before a refusal is not undone when the refusal is dealt with. -/
theorem run_tryCatch (update : EStateM ε σ α) (handle : ε → EStateM ε σ α) (state : σ) :
    (tryCatch update handle).run state =
      match update.run state with
      | .ok a after => .ok a after
      | .error e after => (handle e).run after := by
  show EStateM.tryCatch update handle state = _
  unfold EStateM.tryCatch EStateM.run
  cases update state <;> rfl

end

/-! ## Invariants -/

section

variable {update : α → Update σ Unit}

/-- What accepted and refused calls preserve holds after a run. -/
theorem runAll_invariant (holds : List α → σ → Prop)
    (accepts : ∀ before state call next, holds before state →
      (update call).run state = .ok () next → holds (before ++ [call]) next)
    (refuses : ∀ before state call e after, holds before state →
      (update call).run state = .error e after → holds before after)
    {before : List α} {state : σ} (start : holds before state) (calls : List α) :
    holds (before ++ (runAll update state calls).accepted) (runAll update state calls).state := by
  -- The accepted calls add up, so the ones before are a parameter of the induction.
  induction calls generalizing before state with
  | nil => simpa [runAll] using start
  | cons call rest ih =>
    unfold runAll
    cases run : (update call).run state with
    | ok _ next =>
      have later := ih (accepts before state call next start run)
      simpa using later
    | error e after => exact ih (refuses before state call e after start run)

end

/-- What is accepted are some of the calls, in order. -/
theorem accepted_runAll_sublist (update : α → Update σ Unit) (state : σ) (calls : List α) :
    (runAll update state calls).accepted.Sublist calls := by
  induction calls generalizing state with
  | nil => exact .slnil
  | cons call rest ih =>
    unfold runAll
    cases (update call).run state with
    | ok _ next => exact (ih next).cons_cons call
    | error e after => exact (ih after).cons call

/-! ## Updates of a part -/

section

variable {get : τ → σ} {put : τ → σ → τ} {update : Update σ Unit} {whole : τ}

theorem run_onPart :
    (onPart get put update).run whole =
      match update.run (get whole) with
      | .ok () part => .ok () (put whole part)
      | .error e part => .error e (put whole part) := rfl

/-- An update of a part is refused when the update is. -/
theorem RefusedIff.onPart {condition : Prop} (h : update.RefusedIff (get whole) condition)
    (putBack : put whole (get whole) = whole) :
    (Update.onPart get put update).RefusedIff whole condition := by
  rw [RefusedIff, run_onPart]
  rw [RefusedIff] at h
  cases run : update.run (get whole) with
  | ok _ part =>
    rw [run] at h
    exact h
  | error e part =>
    rw [run] at h
    exact ⟨h.1, by rw [h.2, putBack]⟩

end

end IndustrySet.Update
