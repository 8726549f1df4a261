import Mathlib

/-!
# Transition systems with events

A system has initial states and a step function that says, for a state and an
event, what the next state is, or `none` where the event cannot happen.  A
condition on the steps of a run restricts what its surroundings do.
-/

namespace WbMqttDali

/-- A transition system with states in `σ` and events in `ε`. -/
structure Transition (σ ε : Type*) where
  init : σ → Prop
  step : σ → ε → Option σ

namespace Transition

variable {σ ε : Type*} {T : Transition σ ε} {ok ok' : σ → ε → Prop} {s s' : σ}

/-- The states of the runs whose steps all meet the condition `ok`. -/
inductive Reach (T : Transition σ ε) (ok : σ → ε → Prop) : σ → Prop
  | init {s : σ} (h : T.init s) : Reach T ok s
  | step {s : σ} {e : ε} {s' : σ} (h : Reach T ok s) (hok : ok s e)
      (hstep : T.step s e = some s') : Reach T ok s'

/-- The states of all runs. -/
abbrev Reachable (T : Transition σ ε) : σ → Prop := T.Reach fun _ _ => True

/-- What holds initially and is kept by every step holds in every state of a run. -/
theorem Reach.invariant {I : σ → Prop} (hinit : ∀ s, T.init s → I s)
    (hkeep : ∀ s e s', I s → ok s e → T.step s e = some s' → I s') (h : T.Reach ok s) : I s := by
  induction h with
  | init h => exact hinit _ h
  | step _ hok hstep ih => exact hkeep _ _ _ ih hok hstep

theorem Reach.mono (hok : ∀ s e, ok s e → ok' s e) (h : T.Reach ok s) : T.Reach ok' s := by
  induction h with
  | init h => exact .init h
  | step _ hstep hnext ih => exact .step ih (hok _ _ hstep) hnext

lemma Reach.reachable (h : T.Reach ok s) : T.Reachable s :=
  h.mono fun _ _ _ => trivial

/-- An invariant may be used to keep another one. -/
theorem Reach.invariant_of {I J : σ → Prop} (hI : ∀ s, T.Reach ok s → I s)
    (hinit : ∀ s, T.init s → J s)
    (hkeep : ∀ s e s', I s → J s → ok s e → T.step s e = some s' → J s')
    (h : T.Reach ok s) : J s := by
  induction h with
  | init h => exact hinit _ h
  | step hreach hok hstep ih => exact hkeep _ _ _ (hI _ hreach) ih hok hstep

/-! ### Runs of given events -/

/-- The state after the given events, if each of them can happen and meets the condition. -/
def run (T : Transition σ ε) (ok : σ → ε → Prop) [∀ s e, Decidable (ok s e)] :
    σ → List ε → Option σ
  | s, [] => some s
  | s, e :: es => if ok s e then (T.step s e).bind fun s' => T.run ok s' es else none

theorem Reach.run [∀ s e, Decidable (ok s e)] {es : List ε} (h : T.Reach ok s)
    (hrun : T.run ok s es = some s') : T.Reach ok s' := by
  induction es generalizing s with
  | nil => exact Option.some.inj hrun ▸ h
  | cons e es ih =>
    rw [Transition.run] at hrun
    split at hrun
    case isTrue hok =>
      obtain ⟨t, hstep, hrest⟩ := Option.bind_eq_some_iff.1 hrun
      exact ih (h.step hok hstep) hrest
    case isFalse => cases hrun

end Transition

end WbMqttDali
