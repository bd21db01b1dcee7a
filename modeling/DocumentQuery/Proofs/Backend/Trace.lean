import DocumentQuery.Proofs.Action

/-! Traces of calls. A run on an observed backend makes its calls one after the other, up to the
first that is refused.
-/

set_option autoImplicit false

namespace DocumentQuery

/-- The store in memory, where every call is noted, and made unless it is refused. -/
abbrev Store.observed (refuses : List Call → Call → Bool) : Backend (Observed Store) :=
  Observed.backend Store.backend refuses

namespace Observed

/-- Calls one after the other, that follow the calls already made, which stand with the last first.
A call that is refused is the last one; the trace is complete if there is none. -/
inductive Trace (refuses : List Call → Call → Bool) : List Call → List Call → Bool → Prop
  | nil {made : List Call} : Trace refuses made [] true
  | refused {made : List Call} {call : Call} :
      refuses made call = true → Trace refuses made [call] false
  | cons {made rest : List Call} {call : Call} {complete : Bool} :
      refuses made call = false → Trace refuses (call :: made) rest complete →
      Trace refuses made (call :: rest) complete

variable {refuses : List Call → Call → Bool} {made calls more : List Call} {complete : Bool}

/-- A trace goes on only from one that is complete. -/
theorem Trace.append (first : Trace refuses made calls true)
    (second : Trace refuses (calls.reverse ++ made) more complete) :
    Trace refuses made (calls ++ more) complete := by
  generalize whole : true = ended at first
  induction first with
  | nil => exact second
  | refused => cases whole
  | cons accepted _ ih =>
    refine .cons accepted (ih ?_ whole)
    rwa [List.reverse_cons, List.append_assoc] at second

/-- The calls that a run makes. It succeeds when none of them is refused. -/
structure Makes {α : Type} (refuses : List Call → Call → Bool) (before : Observed Store)
    (calls : List Call) (run : Except AccessError α × Observed Store) : Prop where
  noted : run.2.calls = calls.reverse ++ before.calls
  traced : Trace refuses before.calls calls run.1.isOk

/-- The trace of a run, which leaves the documents as they are and succeeds when it is complete. -/
structure Ran {α : Type} (refuses : List Call → Call → Bool) (before : Observed Store)
    (calls : List Call) (run : Except AccessError α × Observed Store) : Prop where
  noted : run.2 = ⟨before.inner, calls.reverse ++ before.calls⟩
  traced : Trace refuses before.calls calls run.1.isOk

section Runs

variable {α β : Type} {before between : Observed Store}

theorem Makes.cons {call : Call} {inner : Store} {run : Except AccessError α × Observed Store}
    (accepted : refuses before.calls call = false)
    (rest : Makes refuses ⟨inner, call :: before.calls⟩ calls run) :
    Makes refuses before (call :: calls) run where
  noted := by rw [rest.noted, List.reverse_cons, List.append_assoc, List.singleton_append]
  traced := .cons accepted rest.traced

theorem Makes.trans {a : α} {run : Except AccessError β × Observed Store}
    (first : Makes refuses before calls (.ok a, between))
    (second : Makes refuses between more run) :
    Makes refuses before (calls ++ more) run where
  noted := by
    have noted : between.calls = calls.reverse ++ before.calls := first.noted
    rw [second.noted, noted, List.reverse_append, List.append_assoc]
  traced := first.traced.append (first.noted ▸ second.traced)

theorem ran_pure (a : α) : Ran refuses before [] ((pure a : Action (Observed Store) α).on before) :=
  ⟨rfl, .nil⟩

theorem on_call_answered (refuses : List Call → Call → Bool) (call : Call) {action : Action Store α}
    {a : α} (answered : action.on before.inner = (.ok a, before.inner)) :
    (Observed.call refuses call action).on before =
      (if refuses before.calls call then .error (.backend (call.collection ++ " is unavailable"))
        else .ok a, ⟨before.inner, call :: before.calls⟩) := by
  rw [on_call, answered]
  split <;> rfl

theorem ran_call (call : Call) {action : Action Store α} {a : α}
    (answered : action.on before.inner = (.ok a, before.inner)) :
    Ran refuses before [call] ((Observed.call refuses call action).on before) := by
  rw [on_call_answered refuses call answered]
  cases refused : refuses before.calls call with
  | true => exact ⟨rfl, .refused refused⟩
  | false => exact ⟨rfl, .cons refused .nil⟩

theorem Ran.trans {a : α} {run : Except AccessError β × Observed Store}
    (first : Ran refuses before calls (.ok a, between)) (second : Ran refuses between more run) :
    Ran refuses before (calls ++ more) run := by
  obtain rfl : between = ⟨before.inner, calls.reverse ++ before.calls⟩ := first.noted
  refine ⟨?_, first.traced.append second.traced⟩
  rw [second.noted, List.reverse_append, List.append_assoc]

theorem Ran.bind {action : Action (Observed Store) α} {next : α → Action (Observed Store) β} {a : α}
    (first : Ran refuses before calls (action.on before))
    (given : action.on before = (.ok a, between))
    (second : Ran refuses between more ((next a).on between)) :
    Ran refuses before (calls ++ more) ((action >>= next).on before) := by
  rw [Action.on_bind, given]
  exact (given ▸ first).trans second

theorem Ran.stop {action : Action (Observed Store) α} {next : α → Action (Observed Store) β}
    {error : AccessError} (first : Ran refuses before calls (action.on before))
    (failed : action.on before = (.error error, between)) :
    Ran refuses before calls ((action >>= next).on before) := by
  rw [Action.on_bind, failed]
  rw [failed] at first
  exact ⟨first.noted, first.traced⟩

theorem Ran.map {action : Action (Observed Store) α}
    (ran : Ran refuses before calls (action.on before)) (make : α → β) :
    Ran refuses before calls ((do return make (← action)).on before) := by
  rw [Action.on_map]
  have traced := ran.traced
  refine ⟨ran.noted, ?_⟩
  generalize (action.on before).1 = result at traced ⊢
  cases result <;> exact traced

end Runs

end Observed

end DocumentQuery
