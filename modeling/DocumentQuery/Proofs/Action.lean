import DocumentQuery.Backend.Observed

/-! Runs of actions. An action carries a state to a result and a state; a chain of
actions succeeds when each link does, and fails with the first link that fails. The
laws here take a run apart link by link, so that no proof opens the monad again.
-/

set_option autoImplicit false

namespace DocumentQuery

theorem ok_of_bind {α β : Type} {result : Except AccessError α} {next : α → Except AccessError β}
    {b : β} (h : (result >>= next) = .ok b) : ∃ a, result = .ok a ∧ next a = .ok b := by
  cases result with
  | error error => cases h
  | ok a => exact ⟨a, rfl, h⟩

theorem ok_of_toOption {α : Type} {result : Except AccessError α} {a : α}
    (shown : result.toOption = some a) : result = .ok a := by
  cases result with
  | error error => cases shown
  | ok b =>
    cases shown
    rfl

namespace Action

variable {σ α β : Type}

/-- What an action gives from a state, with the state after it. -/
def on (action : Action σ α) (state : σ) : Except AccessError α × σ :=
  action.run state

@[simp] theorem on_pure (a : α) (state : σ) : (pure a : Action σ α).on state = (.ok a, state) := rfl

@[simp] theorem on_lift (result : Except AccessError α) (state : σ) :
    (lift result : Action σ α).on state = (result, state) := rfl

@[simp] theorem on_throw (error : AccessError) (state : σ) :
    (throw error : Action σ α).on state = (.error error, state) := rfl

theorem on_bind (action : Action σ α) (next : α → Action σ β) (state : σ) :
    (action >>= next).on state =
      match action.on state with
      | (.ok a, after) => (next a).on after
      | (.error error, after) => (.error error, after) := by
  change (ExceptT.bindCont next (action.on state).1 : StateM σ _) (action.on state).2 = _
  rcases action.on state with ⟨_ | _, _⟩ <;> rfl

theorem on_bind_ok {action : Action σ α} {next : α → Action σ β} {state after : σ} {b : β} :
    (action >>= next).on state = (.ok b, after) ↔
      ∃ a between, action.on state = (.ok a, between) ∧ (next a).on between = (.ok b, after) := by
  rw [on_bind]
  rcases action.on state with ⟨error | a, between⟩
  · simp
  · constructor
    · intro h
      exact ⟨a, between, rfl, h⟩
    · rintro ⟨_, _, same, h⟩
      cases same
      exact h

theorem on_map (action : Action σ α) (make : α → β) (state : σ) :
    (do return make (← action) : Action σ β).on state =
      ((action.on state).1.map make, (action.on state).2) := by
  rw [on_bind]
  rcases action.on state with ⟨_ | _, _⟩ <;> rfl

theorem on_bind_error {action : Action σ α} {next : α → Action σ β} {state after : σ}
    {error : AccessError} :
    (action >>= next).on state = (.error error, after) ↔
      action.on state = (.error error, after) ∨
        ∃ a between, action.on state = (.ok a, between) ∧
          (next a).on between = (.error error, after) := by
  rw [on_bind]
  rcases action.on state with ⟨first | a, between⟩
  · simp
  · constructor
    · intro h
      exact .inr ⟨a, between, rfl, h⟩
    · rintro (same | ⟨_, _, same, h⟩)
      · cases same
      · cases same
        exact h

theorem on_tryCatch (action : Action σ α) (handle : AccessError → Action σ α) (state : σ) :
    (tryCatch action handle).on state =
      match action.on state with
      | (.ok a, after) => (.ok a, after)
      | (.error error, after) => (handle error).on after := by
  simp only [on, tryCatch, tryCatchThe, MonadExceptOf.tryCatch, ExceptT.tryCatch, ExceptT.mk,
    ExceptT.run, bind, StateT.bind]
  rcases action state with ⟨_ | _, _⟩ <;> rfl

theorem on_judged (step : StateM σ β) (judge : β → Except AccessError α) (state : σ) :
    on (ExceptT.mk do return judge (← step)) state =
      (judge (step.run state).1, (step.run state).2) := rfl

end Action

theorem Observed.on_call {σ α : Type} (refuses : List Call → Call → Bool) (call : Call)
    (action : Action σ α) (state : Observed σ) :
    (Observed.call refuses call action).on state =
      if refuses state.calls call then
        (.error (.backend (call.collection ++ " is unavailable")),
          ⟨state.inner, call :: state.calls⟩)
      else ((action.on state.inner).1, ⟨(action.on state.inner).2, call :: state.calls⟩) := rfl

end DocumentQuery
