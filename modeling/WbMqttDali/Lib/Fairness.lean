import Mathlib
import WbMqttDali.Lib.Transition

/-!
# Fair runs

An infinite run in which events of a given kind keep occurring, and the rule for
proving that something ends in it: a measure that no step raises and that an event
of the kind lowers.
-/

namespace WbMqttDali.Transition

variable {σ ε : Type*}

/-- An infinite run in which events that meet `fair` keep occurring. -/
structure FairRun (T : Transition σ ε) (fair : ε → Prop) where
  state : ℕ → σ
  event : ℕ → ε
  init : T.init (state 0)
  step : ∀ n, T.step (state n) (event n) = some (state (n + 1))
  fair : ∀ n, ∃ m, n ≤ m ∧ fair (event m)

namespace FairRun

variable {T : Transition σ ε} {fair : ε → Prop} (run : T.FairRun fair)

lemma reachable (n : ℕ) : T.Reachable (run.state n) := by
  induction n with
  | zero => exact .init run.init
  | succ n ih => exact ih.step trivial (run.step n)

variable {P : σ → Prop} {μ : σ → ℕ}

/-- As long as `P` holds, the measure does not rise. -/
lemma measure_le (hkeep : ∀ s e s', T.Reachable s → P s → T.step s e = some s' →
      P s' → μ s' ≤ μ s)
    {n : ℕ} (k : ℕ) (hP : ∀ i ≤ k, P (run.state (n + i))) :
    μ (run.state (n + k)) ≤ μ (run.state n) := by
  induction k with
  | zero => exact le_rfl
  | succ k ih =>
    have hstep := hkeep _ _ _ (run.reachable (n + k)) (hP k (by omega)) (run.step (n + k))
      (hP (k + 1) le_rfl)
    exact hstep.trans (ih fun i hi => hP i (by omega))

/-- What costs measure at every fair event ends. -/
theorem eventually_not (hkeep : ∀ s e s', T.Reachable s → P s → T.step s e = some s' →
      P s' → μ s' ≤ μ s)
    (hlower : ∀ s e s', T.Reachable s → P s → fair e → T.step s e = some s' →
      P s' → μ s' < μ s)
    (n : ℕ) : ∃ m, n ≤ m ∧ ¬ P (run.state m) := by
  induction hk : μ (run.state n) using Nat.strong_induction_on generalizing n with
  | _ k ih =>
    by_contra hall
    push Not at hall
    obtain ⟨m, hm, hfair⟩ := run.fair n
    obtain ⟨d, rfl⟩ := Nat.exists_eq_add_of_le hm
    have hle := run.measure_le hkeep d fun i _ => hall (n + i) (by omega)
    have hlt := hlower _ _ _ (run.reachable _) (hall _ hm) hfair (run.step (n + d))
      (hall _ (by omega))
    obtain ⟨m', hm', hnot⟩ := ih _ (by omega) (n + d + 1) rfl
    exact hnot (hall m' (by omega))

end FairRun

end WbMqttDali.Transition
