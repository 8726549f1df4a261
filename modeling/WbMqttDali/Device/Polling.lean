import Mathlib
import WbMqttDali.Lib.Transition

/-!
# Polling the controls of a device

Each readable control carries its own schedule.  The polling loop gives the
device a number of commands per tick; the device takes a snapshot of the controls
that are due and reads them in order, over as many ticks as the commands require.
An event that makes a value uncertain asks for a confirming poll at the moment
the value has settled.
-/

namespace WbMqttDali.Device

/-- Event controls jitter their re-sync interval by this fraction. -/
def pollJitterFraction : ℚ := 3 / 10

/-- Poll schedule mixed into pollables. -/
structure EventPollSchedule where
  /-- `none` means never polled: such a pollable is due immediately. -/
  nextDueAt : Option ℚ := none
  randomizePollInterval : Bool := false
  basePollInterval : ℚ := 300
  deriving DecidableEq, Repr

namespace EventPollSchedule

def isPollDue (schedule : EventPollSchedule) (now : ℚ) : Bool :=
  match schedule.nextDueAt with
  | none => true
  | some nextDueAt => decide (nextDueAt ≤ now)

def timeUntilNextPoll (schedule : EventPollSchedule) (now : ℚ) : ℚ :=
  match schedule.nextDueAt with
  | none => 0
  | some nextDueAt => max 0 (nextDueAt - now)

def jitter (schedule : EventPollSchedule) : ℚ :=
  schedule.basePollInterval * pollJitterFraction

/-- `uniform` is what `random.uniform(-jitter, jitter)` returns. -/
def nextInterval (schedule : EventPollSchedule) (uniform : ℚ) : ℚ :=
  if schedule.randomizePollInterval then schedule.basePollInterval + uniform
  else schedule.basePollInterval

/-- Account a poll made at `polledAt` and move the schedule on by one interval. -/
def scheduleNextPeriodicPoll (schedule : EventPollSchedule) (polledAt uniform : ℚ) :
    EventPollSchedule :=
  { schedule with nextDueAt := some (polledAt + schedule.nextInterval uniform) }

/-- Poll at `at'` instead of on the periodic schedule; the most recent call wins. -/
def schedulePollAt (schedule : EventPollSchedule) (at' : ℚ) : EventPollSchedule :=
  match schedule.nextDueAt with
  | none => schedule
  | some _ => { schedule with nextDueAt := some at' }

variable {schedule : EventPollSchedule} {now at' uniform : ℚ}

lemma schedulePollAt_nextDueAt :
    (schedule.schedulePollAt at').nextDueAt = schedule.nextDueAt.map fun _ => at' := by
  rw [schedulePollAt]
  split <;> rename_i heq <;> simp only [heq, Option.map_none, Option.map_some]

lemma isPollDue_iff : schedule.isPollDue now = true ↔
    ∀ due, schedule.nextDueAt = some due → due ≤ now := by
  rw [isPollDue]
  split <;> rename_i heq
  · simp [heq]
  · rw [decide_eq_true_iff]
    exact ⟨fun h due hdue => Option.some.inj (heq ▸ hdue) ▸ h, fun h => h _ heq⟩

/-- A pollable is due exactly when nothing is left to wait for. -/
theorem isPollDue_iff_timeUntilNextPoll :
    schedule.isPollDue now = true ↔ schedule.timeUntilNextPoll now = 0 := by
  rw [isPollDue_iff, timeUntilNextPoll]
  split <;> rename_i heq
  · simp [heq]
  · rw [max_eq_left_iff, sub_nonpos]
    exact ⟨fun h => h _ heq, fun h due hdue => Option.some.inj (heq ▸ hdue) ▸ h⟩

end EventPollSchedule

/-- A control of the device, by its position among them. -/
abbrev Control := ℕ

structure ControlsPollRequestResult where
  hasMore : Bool
  /-- The controls that the poll coroutine queries. -/
  pollCoroutine : Option (List Control) := none
  commandsCount : ℕ := 0
  deriving DecidableEq, Repr

/-- `SingleQueryControl.next_poll_step`: one query, if a command is left for it. -/
def nextPollStep (schedule : EventPollSchedule) (control : Control) (maxCommands : ℤ)
    (now uniform : ℚ) : ControlsPollRequestResult × EventPollSchedule :=
  if maxCommands < 1 then ({ hasMore := true }, schedule)
  else
    ({ hasMore := false
       pollCoroutine := some [control]
       commandsCount := 1 },
      schedule.scheduleNextPeriodicPoll now uniform)

/-- A device as far as its polling goes: its pollables are single-query controls. -/
structure DaliDeviceBase where
  isInitialized : Bool := true
  pollables : List Control
  schedule : Control → EventPollSchedule
  currentRound : List Control := []

/-- What the loop of `poll_controls` leaves. -/
structure PollLoop where
  coroutines : List Control
  consumedCommands : ℤ
  currentRound : List Control
  schedule : Control → EventPollSchedule

namespace DaliDeviceBase

/-- The pollables that `_refresh_round_snapshot` appends to the round. -/
def duePollables (device : DaliDeviceBase) (now : ℚ) : List Control :=
  device.pollables.filter fun control => (device.schedule control).isPollDue now

def refreshRoundSnapshot (device : DaliDeviceBase) (now : ℚ) : DaliDeviceBase :=
  { device with currentRound := device.currentRound ++ device.duePollables now }

/-- The loop of `poll_controls` over the round. -/
def pollLoop (maxCommands : ℤ) (now : ℚ) (uniform : Control → ℚ) :
    List Control → PollLoop → PollLoop
  | [], loop => { loop with currentRound := [] }
  | head :: rest, loop =>
    let (step, schedule) := nextPollStep (loop.schedule head) head
      (maxCommands - loop.consumedCommands) now (uniform head)
    let loop :=
      { coroutines := loop.coroutines ++ step.pollCoroutine.getD []
        consumedCommands := loop.consumedCommands + step.commandsCount
        currentRound := head :: rest
        schedule := Function.update loop.schedule head schedule }
    if step.hasMore then loop else pollLoop maxCommands now uniform rest loop

/-- `poll_controls`; `none` where it raises. -/
def pollControls (device : DaliDeviceBase) (now : ℚ) (maxCommands : ℤ) (uniform : Control → ℚ) :
    Option (ControlsPollRequestResult × DaliDeviceBase) :=
  if device.isInitialized then
    let device := if device.currentRound.isEmpty then device.refreshRoundSnapshot now else device
    let loop := pollLoop maxCommands now uniform device.currentRound
      { coroutines := []
        consumedCommands := 0
        currentRound := device.currentRound
        schedule := device.schedule }
    let device := { device with currentRound := loop.currentRound, schedule := loop.schedule }
    if loop.coroutines.isEmpty then some ({ hasMore := !device.currentRound.isEmpty }, device)
    else
      some
        ({ hasMore := !device.currentRound.isEmpty
           pollCoroutine := some loop.coroutines
           commandsCount := loop.consumedCommands.toNat }, device)
  else none

/-- `reset_polling_state`; a single-query control has no pending poll to cancel. -/
def resetPollingState (device : DaliDeviceBase) : DaliDeviceBase :=
  { device with currentRound := [] }

/-- `schedule_poll_at` on one control of the device. -/
def schedulePollAt (device : DaliDeviceBase) (control : Control) (at' : ℚ) : DaliDeviceBase :=
  { device with
    schedule := Function.update device.schedule control
      ((device.schedule control).schedulePollAt at') }

/-! ### What one tick polls -/

/-- The round that a tick at `now` works on: what is left of the last one, or a new one. -/
def roundAt (device : DaliDeviceBase) (now : ℚ) : List Control :=
  if device.currentRound.isEmpty then device.duePollables now else device.currentRound

/-- The controls at the head of the round that the commands of the tick suffice for. -/
def reached (device : DaliDeviceBase) (now : ℚ) (maxCommands : ℤ) : List Control :=
  (device.roundAt now).take maxCommands.toNat

/-- The schedules after the given controls have been polled. -/
def polled (schedule : Control → EventPollSchedule) (now : ℚ) (uniform : Control → ℚ)
    (controls : List Control) : Control → EventPollSchedule :=
  fun control =>
    if control ∈ controls then (schedule control).scheduleNextPeriodicPoll now (uniform control)
    else schedule control

section Tick

variable {device device' : DaliDeviceBase} {now : ℚ} {maxCommands : ℤ} {uniform : Control → ℚ}
  {result : ControlsPollRequestResult}

@[simp] lemma polled_nil (schedule : Control → EventPollSchedule) :
    polled schedule now uniform [] = schedule := by
  ext control
  simp [polled]

lemma polled_cons (schedule : Control → EventPollSchedule) (head : Control)
    (rest : List Control) :
    polled (Function.update schedule head
      ((schedule head).scheduleNextPeriodicPoll now (uniform head))) now uniform rest =
      polled schedule now uniform (head :: rest) := by
  funext control
  by_cases heq : control = head
  · subst heq
    simp only [polled, Function.update_self, List.mem_cons, true_or, if_true]
    split <;> rfl
  · simp only [polled, Function.update_of_ne heq, List.mem_cons, heq, false_or]

/-- The loop polls the head of the round, one command each, and keeps the rest. -/
lemma pollLoop_eq (round : List Control) (loop : PollLoop) :
    pollLoop maxCommands now uniform round loop =
      { coroutines :=
          loop.coroutines ++ round.take (maxCommands - loop.consumedCommands).toNat
        consumedCommands := loop.consumedCommands +
          (round.take (maxCommands - loop.consumedCommands).toNat).length
        currentRound := round.drop (maxCommands - loop.consumedCommands).toNat
        schedule := polled loop.schedule now uniform
          (round.take (maxCommands - loop.consumedCommands).toNat) } := by
  induction round generalizing loop with
  | nil => simp [pollLoop]
  | cons head rest ih =>
    by_cases hleft : maxCommands - loop.consumedCommands < 1
    · have hzero : (maxCommands - loop.consumedCommands).toNat = 0 := by omega
      simp [pollLoop, nextPollStep, hleft, hzero]
    · have hsucc : (maxCommands - loop.consumedCommands).toNat =
          (maxCommands - (loop.consumedCommands + 1)).toNat + 1 := by omega
      simp only [pollLoop, nextPollStep, if_neg hleft, Bool.false_eq_true, if_false, ih,
        Option.getD_some, Nat.cast_one, hsucc, List.take_succ_cons, List.drop_succ_cons,
        polled_cons, List.length_cons, List.append_assoc, List.singleton_append]
      congr 1
      push_cast
      ring

/-- A tick polls the controls it reaches, each at `now`, and leaves the rest of the round. -/
theorem pollControls_eq (h : device.pollControls now maxCommands uniform = some (result, device')) :
    result.pollCoroutine.getD [] = device.reached now maxCommands ∧
      device' =
        { device with
          currentRound := (device.roundAt now).drop maxCommands.toNat
          schedule := polled device.schedule now uniform (device.reached now maxCommands) } := by
  rw [pollControls] at h
  split at h
  case isFalse => cases h
  case isTrue =>
    have hround : (if device.currentRound.isEmpty then device.refreshRoundSnapshot now
        else device) = { device with currentRound := device.roundAt now } := by
      rw [roundAt, refreshRoundSnapshot]
      split
      case isTrue hempty => rw [List.isEmpty_iff.1 hempty, List.nil_append]
      case isFalse => rfl
    simp only [hround, pollLoop_eq, sub_zero, List.nil_append, ← reached.eq_1] at h
    split at h
    case isTrue hnone =>
      obtain ⟨rfl, rfl⟩ := Prod.mk.inj (Option.some.inj h)
      exact ⟨(List.isEmpty_iff.1 hnone).symm, rfl⟩
    case isFalse =>
      obtain ⟨rfl, rfl⟩ := Prod.mk.inj (Option.some.inj h)
      exact ⟨rfl, rfl⟩

end Tick

end DaliDeviceBase

/-! ### Ticks and events -/

inductive Event where
  /-- The polling loop gives the device up to `maxCommands` commands. -/
  | tick (now : ℚ) (maxCommands : ℤ) (uniform : Control → ℚ)
  /-- An event asks for a confirming poll of a control at `settleAt`. -/
  | schedulePollAt (control : Control) (settleAt : ℚ)
  /-- The polling of the device is reset. -/
  | reset

/-- A device with the confirming polls that are still to be started. -/
structure Polling where
  device : DaliDeviceBase
  /-- The moment of the last `schedule_poll_at`, until a poll starts at or after it. -/
  awaits : Control → Option ℚ := fun _ => none

namespace Polling

/-- The draws of `random.uniform` lie in the interval it was asked for. -/
def UniformDraws (device : DaliDeviceBase) (uniform : Control → ℚ) : Prop :=
  ∀ control ∈ device.pollables, |uniform control| ≤ (device.schedule control).jitter

instance (device : DaliDeviceBase) (uniform : Control → ℚ) :
    Decidable (UniformDraws device uniform) :=
  inferInstanceAs (Decidable (∀ _ ∈ _, _))

/-- The confirmations that the polls started at `now` leave open. -/
def confirm (awaits : Control → Option ℚ) (now : ℚ) (started : List Control) :
    Control → Option ℚ :=
  fun control =>
    if control ∈ started then (awaits control).filter fun settleAt => decide (now < settleAt)
    else awaits control

def step (polling : Polling) : Event → Option Polling
  | .tick now maxCommands uniform =>
    if UniformDraws polling.device uniform then
      match polling.device.pollControls now maxCommands uniform with
      | some (result, device) =>
        some
          { device
            awaits := confirm polling.awaits now (result.pollCoroutine.getD []) }
      | none => some polling
    else none
  | .schedulePollAt control settleAt =>
    some
      { device := polling.device.schedulePollAt control settleAt
        awaits :=
          -- before the first poll nothing is scheduled
          if (polling.device.schedule control).nextDueAt.isSome then
            Function.update polling.awaits control (some settleAt)
          else polling.awaits }
  | .reset => some { polling with device := polling.device.resetPollingState }

/-- Devices before their first poll. -/
def transition : Transition Polling Event where
  init := fun polling =>
    polling.device.currentRound = [] ∧
      (∀ control, (polling.device.schedule control).nextDueAt = none) ∧
      polling.awaits = fun _ => none
  step := step

/-- A control whose confirmation is still to be polled is due by then. -/
def ConfirmationKept (polling : Polling) : Prop :=
  ∀ control settleAt, polling.awaits control = some settleAt →
    ∃ due, (polling.device.schedule control).nextDueAt = some due ∧ due ≤ settleAt

/-- No tick reaches a control before the moment of its confirmation, unless the control's
next interval is over by that moment. -/
def PollsInTime (polling : Polling) : Event → Prop
  | .tick now maxCommands uniform =>
    ∀ control ∈ polling.device.reached now maxCommands,
      ∀ settleAt ∈ polling.awaits control,
        settleAt ≤ now ∨
          now + (polling.device.schedule control).nextInterval (uniform control) ≤ settleAt
  | .schedulePollAt _ _ => True
  | .reset => True

variable {polling polling' : Polling} {event : Event}

/-- What a tick does to the device and to the confirmations. -/
lemma step_tick {now : ℚ} {maxCommands : ℤ} {uniform : Control → ℚ}
    (h : polling.step (.tick now maxCommands uniform) = some polling') :
    polling' = polling ∨
      polling' =
        { device :=
            { polling.device with
              currentRound := (polling.device.roundAt now).drop maxCommands.toNat
              schedule := DaliDeviceBase.polled polling.device.schedule now uniform
                (polling.device.reached now maxCommands) }
          awaits := confirm polling.awaits now (polling.device.reached now maxCommands) } := by
  simp only [step] at h
  split at h
  case isFalse => cases h
  case isTrue =>
    split at h
    case h_1 result device heq =>
      obtain ⟨hstarted, rfl⟩ := DaliDeviceBase.pollControls_eq heq
      rw [hstarted] at h
      exact .inr (Option.some.inj h).symm
    case h_2 => exact .inl (Option.some.inj h).symm

lemma confirm_eq_some {awaits : Control → Option ℚ} {now settleAt : ℚ} {started : List Control}
    {control : Control} (h : confirm awaits now started control = some settleAt) :
    awaits control = some settleAt ∧ (control ∈ started → now < settleAt) := by
  rw [confirm] at h
  split at h
  case isTrue =>
    rw [Option.filter_eq_some_iff, decide_eq_true_iff] at h
    exact ⟨h.1, fun _ => h.2⟩
  case isFalse hnot => exact ⟨h, fun hmem => absurd hmem hnot⟩

/-- A request moves the schedule of the requested control, once that has been polled. -/
lemma step_schedulePollAt {control other : Control} {settleAt settleAt' : ℚ}
    (h : polling.step (.schedulePollAt control settleAt) = some polling')
    (hawaits : polling'.awaits other = some settleAt') :
    (polling'.device.schedule other).nextDueAt = some settleAt' ∨
      polling.awaits other = some settleAt' ∧
        polling'.device.schedule other = polling.device.schedule other := by
  obtain rfl := Option.some.inj h
  by_cases heq : other = control
  · subst heq
    simp only [DaliDeviceBase.schedulePollAt, Function.update_self,
      EventPollSchedule.schedulePollAt_nextDueAt]
    cases hdue : (polling.device.schedule other).nextDueAt with
    | none =>
      refine .inr ⟨by simpa [hdue] using hawaits, ?_⟩
      rw [EventPollSchedule.schedulePollAt, hdue]
    | some due =>
      refine .inl ?_
      simp only [hdue, Option.isSome_some, if_true, Function.update_self] at hawaits
      rw [Option.map_some, hawaits]
  · refine .inr ⟨?_, Function.update_of_ne heq _ _⟩
    show polling.awaits other = some settleAt'
    simp only at hawaits
    split at hawaits
    · rwa [Function.update_of_ne heq] at hawaits
    · exact hawaits

lemma confirmationKept_step (h : ConfirmationKept polling) (hok : PollsInTime polling event)
    (hstep : polling.step event = some polling') : ConfirmationKept polling' := by
  intro control settleAt hawaits
  cases event with
  | tick now maxCommands uniform =>
    rcases step_tick hstep with rfl | rfl
    · exact h _ _ hawaits
    · obtain ⟨hbefore, hlate⟩ := confirm_eq_some hawaits
      by_cases hreached : control ∈ polling.device.reached now maxCommands
      · -- the poll starts before its confirmation, so the next interval is over in time
        have hnow : now < settleAt := hlate hreached
        have hnext := (hok control hreached settleAt hbefore).resolve_left (not_le.2 hnow)
        refine ⟨_, ?_, hnext⟩
        simp only [DaliDeviceBase.polled, if_pos hreached]
        rfl
      · simp only [DaliDeviceBase.polled, if_neg hreached]
        exact h _ _ hbefore
  | schedulePollAt requested requestedAt =>
    rcases step_schedulePollAt hstep hawaits with hdue | ⟨hbefore, hsame⟩
    · exact ⟨_, hdue, le_rfl⟩
    · rw [hsame]
      exact h _ _ hbefore
  | reset =>
    obtain rfl := Option.some.inj hstep
    exact h _ _ hawaits

/-- A confirming poll is not lost in a run whose ticks poll in time. -/
theorem confirmationKept_of_pollsInTime (h : transition.Reach PollsInTime polling) :
    ConfirmationKept polling :=
  h.invariant
    (fun _ hinit control settleAt hawaits => by rw [hinit.2.2] at hawaits; cases hawaits)
    fun _ _ _ hkept hok hstep => confirmationKept_step hkept hok hstep

/-- Two controls that have been read once, the second of which is read late in the next
round, and is asked for a confirmation while it waits. -/
def lateSecond : List Event :=
  [.tick 0 2 fun _ => 0, .tick 300 1 fun _ => 0, .schedulePollAt 1 302]

/-- A device with two controls that has not polled them yet. -/
def twoControls : Polling where
  device := { pollables := [0, 1], schedule := fun _ => {} }

lemma twoControls_init : transition.init twoControls := ⟨rfl, fun _ => rfl, rfl⟩

instance : DecidablePred (PollsInTime polling) := fun event =>
  match event with
  | .tick _ _ _ => inferInstanceAs (Decidable (∀ _ ∈ _, ∀ _ ∈ _, _))
  | .schedulePollAt _ _ => inferInstanceAs (Decidable True)
  | .reset => inferInstanceAs (Decidable True)

/-- The tick at the requested moment polls the second control.  Then the first one is asked for a
confirmation, and a tick that is too early for it polls nothing. -/
def confirmedSecond : List Event :=
  lateSecond ++ [.tick 302 2 fun _ => 0, .schedulePollAt 0 310, .tick 305 2 fun _ => 0]

theorem confirmationKept_confirmedSecond :
    ∃ polling, transition.run PollsInTime twoControls confirmedSecond = some polling ∧
      ConfirmationKept polling ∧
      polling.awaits 1 = none ∧ (polling.device.schedule 1).nextDueAt = some 602 ∧
      polling.awaits 0 = some 310 ∧ (polling.device.schedule 0).nextDueAt = some 310 := by
  have hrun : (transition.run PollsInTime twoControls confirmedSecond).any (fun polling =>
      polling.awaits 1 = none ∧ (polling.device.schedule 1).nextDueAt = some 602 ∧
        polling.awaits 0 = some 310 ∧
        (polling.device.schedule 0).nextDueAt = some 310) = true := by decide +kernel
  obtain ⟨polling, hpolling, hany⟩ := (Option.any_eq_true _ _).1 hrun
  exact ⟨polling, hpolling, confirmationKept_of_pollsInTime
    ((Transition.Reach.init twoControls_init).run hpolling), of_decide_eq_true hany⟩

/-- A tick one second before the requested moment reads the waiting control, and its next
poll moves from 302 to 601. -/
theorem exists_confirmation_lost :
    ∃ polling, transition.Reachable polling ∧ ¬ConfirmationKept polling := by
  have hrun : (transition.run (fun _ _ => True) twoControls
      (lateSecond ++ [.tick 301 1 fun _ => 0])).any (fun polling =>
      polling.awaits 1 = some 302 ∧
        (polling.device.schedule 1).nextDueAt = some 601) = true := by decide +kernel
  obtain ⟨polling, hpolling, hany⟩ := (Option.any_eq_true _ _).1 hrun
  obtain ⟨hawaits, hdue⟩ := of_decide_eq_true hany
  refine ⟨polling, (Transition.Reach.init twoControls_init).run hpolling, fun hkept => ?_⟩
  obtain ⟨due, hdue', hle⟩ := hkept 1 302 hawaits
  rw [hdue] at hdue'
  obtain rfl := Option.some.inj hdue'
  norm_num at hle

/-! ### Rounds that stay due -/

/-- What a tick reaches of a round left over from earlier ticks is still due. -/
def CarriedDue (polling : Polling) : Event → Prop
  | .tick now maxCommands _ =>
    ∀ control ∈ polling.device.currentRound.take maxCommands.toNat,
      (polling.device.schedule control).isPollDue now = true
  | .schedulePollAt _ _ => True
  | .reset => True

/-- A confirmation still to be polled is what the schedule waits for. -/
def Punctual (polling : Polling) : Prop :=
  ∀ control settleAt, polling.awaits control = some settleAt →
    (polling.device.schedule control).nextDueAt = some settleAt

/-- Everything a tick reaches is due, so its confirmations are due as well. -/
lemma settled_of_reached (h : Punctual polling) {now settleAt : ℚ} {maxCommands : ℤ}
    {uniform : Control → ℚ} {control : Control}
    (hok : CarriedDue polling (.tick now maxCommands uniform))
    (hreached : control ∈ polling.device.reached now maxCommands)
    (hawaits : polling.awaits control = some settleAt) : settleAt ≤ now := by
  have hdue : (polling.device.schedule control).isPollDue now = true := by
    rw [DaliDeviceBase.reached, DaliDeviceBase.roundAt] at hreached
    split at hreached
    case isTrue => exact (List.mem_filter.1 (List.mem_of_mem_take hreached)).2
    case isFalse => exact hok control hreached
  exact EventPollSchedule.isPollDue_iff.1 hdue _ (h _ _ hawaits)

lemma punctual_step (h : Punctual polling) (hok : CarriedDue polling event)
    (hstep : polling.step event = some polling') : Punctual polling' := by
  intro control settleAt hawaits
  cases event with
  | tick now maxCommands uniform =>
    rcases step_tick hstep with rfl | rfl
    · exact h _ _ hawaits
    · obtain ⟨hbefore, hlate⟩ := confirm_eq_some hawaits
      have hreached : control ∉ polling.device.reached now maxCommands := fun hreached =>
        absurd (settled_of_reached h hok hreached hbefore) (not_le.2 (hlate hreached))
      simp only [DaliDeviceBase.polled, if_neg hreached]
      exact h _ _ hbefore
  | schedulePollAt requested requestedAt =>
    rcases step_schedulePollAt hstep hawaits with hdue | ⟨hbefore, hsame⟩
    · exact hdue
    · rw [hsame]
      exact h _ _ hbefore
  | reset =>
    obtain rfl := Option.some.inj hstep
    exact h _ _ hawaits

/-- Only a control that is moved out of its round's reach while it waits there can be
polled too early: new rounds take what is due. -/
theorem reach_pollsInTime (h : transition.Reach CarriedDue polling) :
    transition.Reach PollsInTime polling := by
  induction h with
  | init hinit => exact .init hinit
  | @step polling event _ hreach hok hstep ih =>
    refine ih.step ?_ hstep
    have hpunctual : Punctual polling := @Transition.Reach.invariant _ _ _ _ _ Punctual
      (fun _ hinit control settleAt hawaits => by rw [hinit.2.2] at hawaits; cases hawaits)
      (fun _ _ _ hpunctual hok hstep => punctual_step hpunctual hok hstep) hreach
    cases event with
    | tick now maxCommands uniform =>
      exact fun control hreached settleAt hawaits =>
        .inl (settled_of_reached hpunctual hok hreached hawaits)
    | schedulePollAt => trivial
    | reset => trivial

end Polling

end WbMqttDali.Device
