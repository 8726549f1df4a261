import Mathlib
import WbMqttDali.Lib.Transition

/-!
# The overheat rate limiter

`wait_before_send` computes its delay once and then sleeps, while the handlers
of the replies go on calling `on_overheat`.  A sender that returns without a
sleep respects the cooldown; one that slept respects it iff no OVERHEAT reply
came during its sleep less than the cooldown before it woke up.
-/

namespace WbMqttDali

/-- `OverheatRateLimiter`, with its times as rationals. -/
structure OverheatRateLimiter where
  cooldownS : ℚ := 10
  firstIntervalS : ℚ := 1
  recoverySteps : ℤ := 6
  cooldownUntil : ℚ := 0
  recoveryStep : ℤ := -1
  nextSendAllowed : ℚ := 0

namespace OverheatRateLimiter

variable (limiter : OverheatRateLimiter)

/-- `on_overheat` -/
def onOverheat (current : ℚ) : OverheatRateLimiter :=
  let cooldownUntil := max limiter.cooldownUntil (current + limiter.cooldownS)
  { limiter with
    cooldownUntil
    recoveryStep := 0
    nextSendAllowed := max limiter.nextSendAllowed cooldownUntil }

/-- `on_non_overheat_response` -/
def onNonOverheatResponse : OverheatRateLimiter :=
  if limiter.recoveryStep < 0 then limiter
  else if limiter.recoveryStep < limiter.recoverySteps then
    { limiter with recoveryStep := limiter.recoveryStep + 1 }
  else limiter

/-- `current_interval_s` -/
def currentIntervalS : ℚ :=
  if limiter.recoveryStep ≤ 0 then 0
  else if limiter.recoveryStep ≥ limiter.recoverySteps then 0
  else
    let ratio : ℚ := (limiter.recoverySteps - limiter.recoveryStep) / (limiter.recoverySteps - 1)
    limiter.firstIntervalS * ratio

/-- `required_delay_s` -/
def requiredDelayS (current : ℚ) : ℚ :=
  let earliestAllowed := max limiter.nextSendAllowed limiter.cooldownUntil
  if current ≥ earliestAllowed then 0 else earliestAllowed - current

/-- The last lines of `wait_before_send`, behind the sleep. -/
def finishWait (current : ℚ) : OverheatRateLimiter :=
  { limiter with nextSendAllowed := current + limiter.currentIntervalS }

@[simp] lemma onOverheat_cooldownS (current : ℚ) :
    (limiter.onOverheat current).cooldownS = limiter.cooldownS := rfl

@[simp] lemma onOverheat_cooldownUntil (current : ℚ) :
    (limiter.onOverheat current).cooldownUntil =
      max limiter.cooldownUntil (current + limiter.cooldownS) := rfl

@[simp] lemma onNonOverheatResponse_cooldownS :
    limiter.onNonOverheatResponse.cooldownS = limiter.cooldownS := by
  rw [onNonOverheatResponse]
  split_ifs <;> rfl

@[simp] lemma onNonOverheatResponse_cooldownUntil :
    limiter.onNonOverheatResponse.cooldownUntil = limiter.cooldownUntil := by
  rw [onNonOverheatResponse]
  split_ifs <;> rfl

@[simp] lemma finishWait_cooldownS (current : ℚ) :
    (limiter.finishWait current).cooldownS = limiter.cooldownS := rfl

@[simp] lemma finishWait_cooldownUntil (current : ℚ) :
    (limiter.finishWait current).cooldownUntil = limiter.cooldownUntil := rfl

/-- A sender that need not sleep is past the cooldown. -/
lemma cooldownUntil_le {current : ℚ} (h : ¬ 0 < limiter.requiredDelayS current) :
    limiter.cooldownUntil ≤ current := by
  rw [requiredDelayS] at h
  split at h
  case isTrue hge => exact (le_max_right _ _).trans hge
  case isFalse hlt => exact absurd (sub_pos.2 (not_le.1 hlt)) h

/-- One that sleeps through its delay is past the cooldown of the moment it fell asleep. -/
lemma cooldownUntil_le_add (current : ℚ) :
    limiter.cooldownUntil ≤ current + limiter.requiredDelayS current := by
  have hle := le_max_right limiter.nextSendAllowed limiter.cooldownUntil
  rw [requiredDelayS]
  split <;> linarith

/-! ### Senders and replies -/

/-- A sender in the sleep of `wait_before_send`. -/
structure Sleeper where
  /-- The earliest end of the sleep. -/
  wakeAt : ℚ
  /-- When `on_overheat` was called since it fell asleep. -/
  overheats : List ℚ := []

/-- A return of `wait_before_send`. -/
structure Return where
  time : ℚ
  /-- When `on_overheat` had been called. -/
  overheats : List ℚ
  deriving DecidableEq

structure State where
  limiter : OverheatRateLimiter
  now : ℚ
  sleeping : ℕ → Option Sleeper := fun _ => none
  /-- When `on_overheat` was called. -/
  overheats : List ℚ := []
  returns : List Return := []

inductive Event
  /-- The clock goes on. -/
  | tick (now : ℚ)
  | onOverheat
  | onNonOverheatResponse
  /-- The sender calls `wait_before_send`. -/
  | waitBeforeSend (sender : ℕ)
  /-- The sleep of the sender ends. -/
  | wake (sender : ℕ)
  /-- The sender is cancelled in its sleep. -/
  | cancel (sender : ℕ)

namespace State

variable (s : State)

/-- `wait_before_send` returns. -/
def finish (s : State) : State :=
  { s with
    limiter := s.limiter.finishWait s.now
    returns := s.returns ++ [⟨s.now, s.overheats⟩] }

/-- The sender starts to sleep for `delay`. -/
def sleep (s : State) (sender : ℕ) (delay : ℚ) : State :=
  { s with sleeping := Function.update s.sleeping sender (some { wakeAt := s.now + delay }) }

/-- The sender sleeps no more. -/
def rouse (s : State) (sender : ℕ) : State :=
  { s with sleeping := Function.update s.sleeping sender none }

lemma mem_sleeping_of_mem_rouse {s : State} {sender other : ℕ} {sleeper : Sleeper}
    (h : sleeper ∈ (s.rouse sender).sleeping other) : sleeper ∈ s.sleeping other := by
  change Function.update s.sleeping sender none other = some sleeper at h
  rw [Function.update_apply] at h
  split at h
  · cases h
  · exact h

lemma mem_sleeping_of_mem_sleep {s : State} {sender other : ℕ} {delay : ℚ} {sleeper : Sleeper}
    (h : sleeper ∈ (s.sleep sender delay).sleeping other) :
    sleeper = { wakeAt := s.now + delay } ∨ sleeper ∈ s.sleeping other := by
  change Function.update s.sleeping sender _ other = some sleeper at h
  rw [Function.update_apply] at h
  split at h
  · exact .inl (Option.some.inj h).symm
  · exact .inr h

def onOverheat (s : State) : State :=
  { s with
    limiter := s.limiter.onOverheat s.now
    sleeping := fun sender => (s.sleeping sender).map fun sleeper =>
      { sleeper with overheats := sleeper.overheats ++ [s.now] }
    overheats := s.overheats ++ [s.now] }

end State

/-- The limiter between any number of senders and the handlers of the replies. -/
def transition : Transition State Event where
  init s := ∃ cooldownS firstIntervalS recoverySteps now,
    s = { limiter := { cooldownS, firstIntervalS, recoverySteps }, now }
  step s
    | .tick now => if s.now ≤ now then some { s with now } else none
    | .onOverheat => some s.onOverheat
    | .onNonOverheatResponse => some { s with limiter := s.limiter.onNonOverheatResponse }
    | .waitBeforeSend sender =>
      match s.sleeping sender with
      | some _ => none
      | none =>
        let delay := s.limiter.requiredDelayS s.now
        if delay > 0 then some (s.sleep sender delay) else some s.finish
    | .wake sender =>
      match s.sleeping sender with
      | none => none
      | some sleeper =>
        -- `asyncio.sleep` does not return early.
        if sleeper.wakeAt ≤ s.now then some (s.rouse sender).finish else none
    | .cancel sender =>
      match s.sleeping sender with
      | none => none
      | some _ => some (s.rouse sender)

/-- Whenever `wait_before_send` returned, no OVERHEAT reply had been reported during the
cooldown before it. -/
def NoSendInCooldown (s : State) : Prop :=
  ∀ r ∈ s.returns, ∀ t ∈ r.overheats, t ∉ Set.Ioc (r.time - s.limiter.cooldownS) r.time

/-- A sender does not wake up within the cooldown of an OVERHEAT reply that was reported
while it slept. -/
def Undisturbed (s : State) : Event → Prop
  | .wake sender => ∀ sleeper ∈ s.sleeping sender, ∀ t ∈ sleeper.overheats,
      t + s.limiter.cooldownS ≤ s.now
  | _ => True

/-- What every step keeps: the cooldown covers all replies, and a sleeping sender knows the
end of the cooldown of those before its sleep. -/
structure Invariant (s : State) : Prop where
  covered : ∀ t ∈ s.overheats, t + s.limiter.cooldownS ≤ s.limiter.cooldownUntil
  past : ∀ t ∈ s.overheats, t ≤ s.now
  subset : ∀ sender, ∀ sleeper ∈ s.sleeping sender, sleeper.overheats ⊆ s.overheats
  asleep : ∀ sender, ∀ sleeper ∈ s.sleeping sender, ∀ t ∈ s.overheats,
    t ∈ sleeper.overheats ∨ t + s.limiter.cooldownS ≤ sleeper.wakeAt

section Steps

variable {s s' : State}

lemma Invariant.finish (h : Invariant s) : Invariant s.finish :=
  ⟨h.covered, h.past, h.subset, h.asleep⟩

lemma Invariant.rouse (h : Invariant s) (sender : ℕ) : Invariant (s.rouse sender) where
  covered := h.covered
  past := h.past
  subset other sleeper hsleeper :=
    h.subset other sleeper (State.mem_sleeping_of_mem_rouse hsleeper)
  asleep other sleeper hsleeper :=
    h.asleep other sleeper (State.mem_sleeping_of_mem_rouse hsleeper)

lemma Invariant.sleep (h : Invariant s) (sender : ℕ) :
    Invariant (s.sleep sender (s.limiter.requiredDelayS s.now)) where
  covered := h.covered
  past := h.past
  subset other sleeper hsleeper := by
    rcases State.mem_sleeping_of_mem_sleep hsleeper with rfl | hsleeper
    · exact List.nil_subset _
    · exact h.subset other sleeper hsleeper
  asleep other sleeper hsleeper t ht := by
    rcases State.mem_sleeping_of_mem_sleep hsleeper with rfl | hsleeper
    · exact .inr ((h.covered t ht).trans (s.limiter.cooldownUntil_le_add s.now))
    · exact h.asleep other sleeper hsleeper t ht

/-- A reply extends the cooldown, and the sleeping senders are not told. -/
lemma Invariant.onOverheat (h : Invariant s) : Invariant s.onOverheat where
  covered t ht := by
    show t + s.limiter.cooldownS ≤ max s.limiter.cooldownUntil (s.now + s.limiter.cooldownS)
    rcases List.mem_append.1 ht with ht | ht
    · exact (h.covered t ht).trans (le_max_left _ _)
    · rw [List.mem_singleton.1 ht]
      exact le_max_right _ _
  past t ht := by
    rcases List.mem_append.1 ht with ht | ht
    · exact h.past t ht
    · exact (List.mem_singleton.1 ht).le
  subset sender sleeper hsleeper := by
    obtain ⟨before, hbefore, rfl⟩ := Option.map_eq_some_iff.1 hsleeper
    refine List.append_subset.2 ⟨fun t ht => ?_, List.subset_append_right _ _⟩
    exact List.mem_append_left _ (h.subset sender before hbefore ht)
  asleep sender sleeper hsleeper t ht := by
    obtain ⟨before, hbefore, rfl⟩ := Option.map_eq_some_iff.1 hsleeper
    rcases List.mem_append.1 ht with ht | ht
    · exact (h.asleep sender before hbefore t ht).imp_left (List.mem_append_left _)
    · exact .inl (List.mem_append_right _ ht)

lemma noSendInCooldown_finish_iff (h : Invariant s) :
    NoSendInCooldown s.finish ↔ NoSendInCooldown s ∧
      ∀ t ∈ s.overheats, t + s.limiter.cooldownS ≤ s.now := by
  have hlast : (∀ t ∈ s.overheats, t ∉ Set.Ioc (s.now - s.limiter.cooldownS) s.now) ↔
      ∀ t ∈ s.overheats, t + s.limiter.cooldownS ≤ s.now := by
    refine forall₂_congr fun t ht => ?_
    rw [Set.mem_Ioc, not_and_or, not_lt, or_iff_left (not_not.2 (h.past t ht)), le_sub_iff_add_le]
  rw [← hlast]
  constructor
  · intro hreturns
    exact ⟨fun r hr => hreturns r (List.mem_append_left _ hr),
      hreturns ⟨s.now, s.overheats⟩ (List.mem_append_right _ (by simp))⟩
  · rintro ⟨hreturns, hquiet⟩ r hr
    rcases List.mem_append.1 hr with hr | hr
    · exact hreturns r hr
    · rw [List.mem_singleton.1 hr]
      exact hquiet

/-- A step keeps the cooldown iff it is not one in which a disturbed sender wakes up. -/
lemma Invariant.step (h : Invariant s) {e : Event} (hstep : transition.step s e = some s') :
    Invariant s' ∧ (NoSendInCooldown s' ↔ NoSendInCooldown s ∧ Undisturbed s e) := by
  cases e with
  | tick now =>
    simp only [transition, Option.ite_none_right_eq_some, Option.some.injEq] at hstep
    obtain ⟨hle, rfl⟩ := hstep
    exact ⟨⟨h.covered, fun t ht => (h.past t ht).trans hle, h.subset, h.asleep⟩,
      (and_iff_left trivial).symm⟩
  | onOverheat =>
    obtain rfl := Option.some.inj hstep
    exact ⟨h.onOverheat, (and_iff_left trivial).symm⟩
  | onNonOverheatResponse =>
    obtain rfl := Option.some.inj hstep
    refine ⟨⟨?_, h.past, h.subset, ?_⟩, ?_⟩
    · simpa using h.covered
    · simpa using h.asleep
    · simp [NoSendInCooldown, Undisturbed]
  | waitBeforeSend sender =>
    simp only [transition] at hstep
    split at hstep
    case h_1 => cases hstep
    case h_2 =>
      split at hstep
      case isTrue =>
        obtain rfl := Option.some.inj hstep
        exact ⟨h.sleep sender, (and_iff_left trivial).symm⟩
      case isFalse hdelay =>
        obtain rfl := Option.some.inj hstep
        refine ⟨h.finish, (noSendInCooldown_finish_iff h).trans (and_congr_right fun _ => ?_)⟩
        refine iff_of_true (fun t ht => ?_) trivial
        -- no delay is left, so that every cooldown is over
        exact (h.covered t ht).trans (s.limiter.cooldownUntil_le hdelay)
  | wake sender =>
    simp only [transition] at hstep
    split at hstep
    case h_1 => cases hstep
    case h_2 sleeper hsleeper =>
      split at hstep
      case isFalse => cases hstep
      case isTrue hwake =>
        obtain rfl := Option.some.inj hstep
        refine ⟨(h.rouse sender).finish,
          (noSendInCooldown_finish_iff (h.rouse sender)).trans (and_congr_right fun _ => ?_)⟩
        constructor
        · intro hquiet other hother t ht
          obtain rfl : sleeper = other := Option.some.inj (hsleeper.symm.trans hother)
          exact hquiet t (h.subset sender sleeper hsleeper ht)
        · intro hundisturbed t ht
          -- a sender sleeps over the cooldowns that it knew of when it fell asleep
          rcases h.asleep sender sleeper hsleeper t ht with hheard | hbefore
          · exact hundisturbed sleeper hsleeper t hheard
          · exact hbefore.trans hwake
  | cancel sender =>
    simp only [transition] at hstep
    split at hstep
    case h_1 => cases hstep
    case h_2 =>
      obtain rfl := Option.some.inj hstep
      exact ⟨h.rouse sender, (and_iff_left trivial).symm⟩

end Steps

lemma invariant_of_reachable {s : State} (h : transition.Reachable s) : Invariant s := by
  refine h.invariant ?_ fun s e s' hs _ hstep => (hs.step hstep).1
  rintro s ⟨cooldownS, firstIntervalS, recoverySteps, now, rfl⟩
  exact ⟨by simp, by simp, by simp, by simp⟩

/-- In a run in which no sender wakes up within the cooldown of an OVERHEAT reply that came
while it slept, no frame is sent during a cooldown. -/
theorem noSendInCooldown_of_undisturbed {s : State} (h : transition.Reach Undisturbed s) :
    NoSendInCooldown s := by
  refine h.invariant_of (fun s hs => invariant_of_reachable hs.reachable) ?_ ?_
  · rintro s ⟨cooldownS, firstIntervalS, recoverySteps, now, rfl⟩
    simp [NoSendInCooldown]
  · exact fun s e s' hs hquiet hok hstep => ((hs.step hstep).2).2 ⟨hquiet, hok⟩

instance (s : State) (e : Event) : Decidable (Undisturbed s e) :=
  match e with
  | .wake sender => inferInstanceAs (Decidable (∀ sleeper ∈ s.sleeping sender,
      ∀ t ∈ sleeper.overheats, t + s.limiter.cooldownS ≤ s.now))
  | .tick _ | .onOverheat | .onNonOverheatResponse | .waitBeforeSend _ | .cancel _ =>
    .isTrue trivial

/-- The limiter with its default settings. -/
def defaultStart : State := { limiter := {}, now := 0 }

lemma init_defaultStart : transition.init defaultStart := ⟨10, 1, 6, 0, rfl⟩

/-- A sender that sleeps out the cooldown and wakes up undisturbed. -/
theorem noSendInCooldown_sleptOut :
    ∃ s, transition.Reach Undisturbed s ∧ s.returns.map (·.time) = [10] ∧ NoSendInCooldown s := by
  have hrun : (transition.run Undisturbed defaultStart
      [.onOverheat, .waitBeforeSend 0, .tick 10, .wake 0]).any
        (fun s => s.returns.map (·.time) = [10]) = true := by decide +kernel
  obtain ⟨s, hs, hreturns⟩ := (Option.any_eq_true _ _).1 hrun
  have hreach : transition.Reach Undisturbed s :=
    (Transition.Reach.init init_defaultStart).run hs
  exact ⟨s, hreach, of_decide_eq_true hreturns, noSendInCooldown_of_undisturbed hreach⟩

/-- The second reply comes while the sender sleeps out the first, and does not wake it up
any later. -/
theorem not_noSendInCooldown_extended :
    ¬ ∀ s, transition.Reachable s → NoSendInCooldown s := by
  intro h
  have hrun : (transition.run (fun _ _ => True) defaultStart
      [.onOverheat, .waitBeforeSend 0, .tick 5, .onOverheat, .tick 10, .wake 0]).any
        (fun s => ⟨10, [0, 5]⟩ ∈ s.returns ∧ s.limiter.cooldownS = 10) = true := by decide +kernel
  obtain ⟨s, hs, hreturns⟩ := (Option.any_eq_true _ _).1 hrun
  have hreach : transition.Reachable s := (Transition.Reach.init init_defaultStart).run hs
  obtain ⟨hmem, hcooldown⟩ := of_decide_eq_true hreturns
  refine h s hreach _ hmem 5 (by simp) ?_
  rw [hcooldown]
  norm_num

/-- A disturbed sender that wakes up sends during the cooldown. -/
theorem not_noSendInCooldown_of_disturbed {s s' : State} {e : Event} (h : transition.Reachable s)
    (hstep : transition.step s e = some s') (hdisturbed : ¬ Undisturbed s e) :
    ¬ NoSendInCooldown s' :=
  fun hquiet => hdisturbed (((invariant_of_reachable h).step hstep).2.1 hquiet).2

end OverheatRateLimiter

end WbMqttDali
