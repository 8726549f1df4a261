import WbMqttDali.Device.Pollables
import WbMqttDali.Lib.Transition

/-!
# The poll round

The scheduler visits the devices of a round in order.  A visit begins with a snapshot of the
pollables that are due and lasts for as many ticks as these take; the devices that a tick visits
share its budget of commands.
-/

namespace WbMqttDali.PollRound

/-- An initialized device, with the pollables by their numbers. -/
structure DaliDevice where
  pollables : List ℕ
  nodup : pollables.Nodup
  pollable : ℕ → Pollable
  currentRound : List ℕ := []

/-- A coroutine that a tick has planned. -/
structure Planned where
  device : ℕ
  pollable : ℕ
  pollCoroutine : PollCoroutine
  commandsCount : ℕ
  deriving DecidableEq, Repr

/-- The coroutine of a step, if it has planned one. -/
def ControlsPollRequestResult.planned (result : ControlsPollRequestResult) (device pollable : ℕ) :
    List Planned :=
  (result.pollCoroutine.map fun coroutine =>
    Planned.mk device pollable coroutine result.commandsCount).toList

/-- The commands of all the coroutines. -/
def commands (plan : List Planned) : ℕ := (plan.map (·.commandsCount)).sum

/-- The coroutines, by the pollables that they are of. -/
def keys (plan : List Planned) : List (ℕ × ℕ) := plan.map fun item => (item.device, item.pollable)

/-- The budget of a tick. -/
def defaultMaxCommands : ℤ := 3

namespace DaliDevice

variable (device : DaliDevice)

def setPollable (number : ℕ) (pollable : Pollable) : DaliDevice :=
  { device with pollable := Function.update device.pollable number pollable }

def setRound (round : List ℕ) : DaliDevice := { device with currentRound := round }

/-- The pollables of the snapshot. -/
def duePollables (now : ℚ) : List ℕ :=
  device.pollables.filter fun number => (device.pollable number).isPollDue now

def refreshRoundSnapshot (now : ℚ) : DaliDevice :=
  device.setRound (device.currentRound ++ device.duePollables now)

/-- The device with a round, a new one if it has none. -/
def atRound (now : ℚ) : DaliDevice :=
  if device.currentRound = [] then device.refreshRoundSnapshot now else device

/-- The loop of `poll_controls` over the current round, with the budget that remains. -/
def pollLoop (id : ℕ) (defaultMaxCommands : ℤ) (now : ℚ) (uniform : ℕ → ℚ) :
    ℤ → List ℕ → DaliDevice → DaliDevice × List Planned
  | _, [], device => (device.setRound [], [])
  | remainingBudget, head :: rest, device =>
    let step := (device.pollable head).nextPollStep remainingBudget defaultMaxCommands now
      (uniform head)
    let device := device.setPollable head step.2
    let planned := step.1.planned id head
    if step.1.hasMore then (device.setRound (head :: rest), planned)
    else
      let loop := pollLoop id defaultMaxCommands now uniform (remainingBudget - commands planned)
        rest device
      (loop.1, planned ++ loop.2)

/-- `poll_controls`, with the coroutines that its result runs. -/
def pollControls (id : ℕ) (now : ℚ) (maxCommands defaultMaxCommands : ℤ) (uniform : ℕ → ℚ) :
    DaliDevice × List Planned :=
  let device := device.atRound now
  pollLoop id defaultMaxCommands now uniform maxCommands device.currentRound device

end DaliDevice

/-- The scheduler with its devices, and what has happened in the round. -/
structure State where
  /-- The devices that the next round is of. -/
  daliDevices : List ℕ
  /-- `_devices` -/
  devices : List ℕ
  currentDeviceIndex : ℕ
  device : ℕ → DaliDevice
  now : ℚ
  /-- The devices that the round began with. -/
  round : List ℕ
  removed : List ℕ
  /-- The devices whose visits have begun, in order, and those whose visits have ended. -/
  visited : List ℕ
  ended : List ℕ
  /-- The pollables that were due when the visit of the device began. -/
  due : ℕ → List ℕ
  /-- The pollables that have been brought to completion or cancelled since. -/
  resolved : ℕ → List ℕ

namespace State

variable (s : State)

def isEmpty : Bool := decide (s.currentDeviceIndex ≥ s.devices.length)

/-- `set_devices`, with nothing done in the new round. -/
def setDevices : State :=
  { s with
    devices := s.daliDevices
    currentDeviceIndex := 0
    round := s.daliDevices
    removed := []
    visited := []
    ended := []
    due := fun _ => []
    resolved := fun _ => [] }

def setDevice (id : ℕ) (device : DaliDevice) : State :=
  { s with device := Function.update s.device id device }

/-- A visit begins where the device takes a snapshot. -/
def beginVisit (id : ℕ) : State :=
  let begins := (s.device id).currentRound = []
  { s with
    visited := if begins then s.visited ++ [id] else s.visited
    due := if begins then Function.update s.due id ((s.device id).duePollables s.now) else s.due
    resolved := if begins then Function.update s.resolved id [] else s.resolved }

/-- The visit ends, and the scheduler goes on to the next device. -/
def endVisit (id : ℕ) : State :=
  { s with currentDeviceIndex := s.currentDeviceIndex + 1, ended := s.ended ++ [id] }

/-- The loop of `poll` over the devices from the current one. -/
def pollLoop (uniform : ℕ → ℕ → ℚ) : List ℕ → ℤ → State → State × List Planned
  | [], _, s => (s, [])
  | id :: rest, maxCommandsCount, s =>
    if maxCommandsCount ≤ 0 then (s, [])
    else
      let result := (s.device id).pollControls id s.now maxCommandsCount defaultMaxCommands
        (uniform id)
      let s := (s.beginVisit id).setDevice id result.1
      -- `has_more`
      if result.1.currentRound ≠ [] then (s, result.2)
      else
        let loop := pollLoop uniform rest (maxCommandsCount - commands result.2) (s.endVisit id)
        (loop.1, result.2 ++ loop.2)

/-- What one `poll` plans, the given time after what came before it. -/
def plan (elapsed : ℚ≥0) (uniform : ℕ → ℕ → ℚ) : State × List Planned :=
  let s := { s with now := s.now + elapsed }
  pollLoop uniform (s.devices.drop s.currentDeviceIndex) defaultMaxCommands s

/-- A pollable without a read in progress has been brought to completion. -/
def resolve (id number : ℕ) : State :=
  { s with resolved := Function.update s.resolved id (number :: s.resolved id) }

/-- A coroutine goes on with its responses. -/
def finish (outcome : ℕ → ℕ → ReadOutcome) (item : Planned) : State :=
  let pollable := ((s.device item.device).pollable item.pollable).finish
    (outcome item.device item.pollable) item.pollCoroutine
  let s := s.setDevice item.device ((s.device item.device).setPollable item.pollable pollable)
  if pollable.hasInProgressRead then s else s.resolve item.device item.pollable

/-- `poll`: the coroutines are gathered, and each works on its own pollable. -/
def poll (elapsed : ℚ≥0) (uniform : ℕ → ℕ → ℚ) (outcome : ℕ → ℕ → ReadOutcome) : State :=
  (s.plan elapsed uniform).2.foldl (fun s item => s.finish outcome item) (s.plan elapsed uniform).1

/-- `cancel_pending_poll` of a pollable. -/
def cancelPendingPoll (id number : ℕ) : State :=
  let pollable := (s.device id).pollable number
  let cancelled := s.setDevice id ((s.device id).setPollable number pollable.cancelPendingPoll)
  if pollable.hasInProgressRead then cancelled.resolve id number else cancelled

/-- `remove_device`, of a device that is not polled again. -/
def removeDevice (id : ℕ) : State :=
  let s := { s with daliDevices := s.daliDevices.erase id, removed := s.removed ++ [id] }
  if id ∈ s.devices then
    let index := s.devices.idxOf id
    { s with
      devices := s.devices.eraseIdx index
      currentDeviceIndex :=
        if index < s.currentDeviceIndex then s.currentDeviceIndex - 1 else s.currentDeviceIndex }
  else s

end State

inductive Event
  | setDevices
  | poll (elapsed : ℚ≥0) (uniform : ℕ → ℕ → ℚ) (outcome : ℕ → ℕ → ReadOutcome)
  | cancelPendingPoll (id number : ℕ)
  | removeDevice (id : ℕ)

/-- A scheduler without devices, before the first round of the given ones. -/
def State.start (daliDevices : List ℕ) (device : ℕ → DaliDevice) (now : ℚ) : State where
  daliDevices := daliDevices
  devices := []
  currentDeviceIndex := 0
  device := fun id => (device id).setRound []
  now := now
  round := []
  removed := []
  visited := []
  ended := []
  due := fun _ => []
  resolved := fun _ => []

/-- The steps of the scheduler.  `_poll_step` sets the devices where no round is going on. -/
def transition : Transition State Event where
  init s := ∃ daliDevices device now, daliDevices.Nodup ∧ s = State.start daliDevices device now
  step
    | s, .setDevices => if s.isEmpty then some s.setDevices else none
    | s, .poll elapsed uniform outcome => some (s.poll elapsed uniform outcome)
    | s, .cancelPendingPoll id number => some (s.cancelPendingPoll id number)
    | s, .removeDevice id => some (s.removeDevice id)

/-! ### The budget -/

section Budget

variable {plan plan' : List Planned} {budget : ℤ}

@[simp] lemma commands_nil : commands [] = 0 := rfl

@[simp] lemma commands_append : commands (plan ++ plan') = commands plan + commands plan' := by
  simp [commands]

@[simp] lemma keys_nil : keys [] = [] := rfl

@[simp] lemma keys_append : keys (plan ++ plan') = keys plan ++ keys plan' := by
  simp [keys]

lemma mem_keys {id number : ℕ} :
    (id, number) ∈ keys plan ↔ ∃ item ∈ plan, item.device = id ∧ item.pollable = number := by
  simp [keys]

/-- Nothing but one chunk of a DT51 gear. -/
def IsLoneChunk (plan : List Planned) : Prop :=
  ∃ item, plan = [item] ∧ item.commandsCount = 4 ∧ item.pollCoroutine.IsEnergyChunk

/-- What may be planned with the given budget left. -/
structure Fits (budget : ℤ) (plan : List Planned) : Prop where
  pos : ∀ item ∈ plan, 0 < item.commandsCount
  le : plan = [] ∨ (commands plan : ℤ) ≤ budget ∨ budget = defaultMaxCommands ∧ IsLoneChunk plan

lemma Fits.nil : Fits budget [] := ⟨nofun, .inl rfl⟩

lemma IsLoneChunk.commands_eq (h : IsLoneChunk plan) : commands plan = 4 := by
  obtain ⟨item, rfl, hcount, -⟩ := h
  simpa [commands] using hcount

lemma Fits.eq_nil (h : Fits budget plan) (hzero : commands plan = 0) : plan = [] := by
  rw [List.eq_nil_iff_forall_not_mem]
  intro item hitem
  have hpos := h.pos item hitem
  have hle := List.le_sum_of_mem (List.mem_map_of_mem (f := (·.commandsCount)) hitem)
  rw [← commands] at hle
  omega

/-- A chunk overshoots the full budget only, and then nothing is left of it. -/
lemma Fits.append (h : Fits budget plan) (h' : Fits (budget - commands plan) plan')
    (hbudget : budget ≤ defaultMaxCommands) : Fits budget (plan ++ plan') := by
  refine ⟨fun item hitem => (List.mem_append.1 hitem).elim (h.pos item) (h'.pos item), ?_⟩
  have hzero := h.eq_nil
  simp only [defaultMaxCommands] at hbudget
  rcases h'.le with rfl | hle' | ⟨hfull, hchunk⟩
  · simpa using h.le
  · rcases h.le with rfl | hle | ⟨hfull, hchunk⟩
    · simp only [commands_nil, Nat.cast_zero, sub_zero] at hle'
      exact .inr (.inl (by simpa using hle'))
    · refine .inr (.inl ?_)
      rw [commands_append]
      push_cast
      omega
    · have hfour := hchunk.commands_eq
      simp only [defaultMaxCommands] at hfull
      omega
  · have hnone : commands plan = 0 := by
      rcases h.le with rfl | hle | ⟨hfull', hchunk'⟩
      · rfl
      · simp only [defaultMaxCommands] at hfull
        omega
      · have hfour := hchunk'.commands_eq
        simp only [defaultMaxCommands] at hfull hfull'
        omega
    rw [hzero hnone, List.nil_append]
    refine .inr (.inr ⟨?_, hchunk⟩)
    rw [← hfull, hnone]
    simp

end Budget

/-! ### What a device plans -/

namespace DaliDevice

variable {device : DaliDevice} {id : ℕ} {now : ℚ} {uniform : ℕ → ℚ} {budget : ℤ} {round : List ℕ}

@[simp] lemma pollable_setRound : (device.setRound round).pollable = device.pollable := rfl

@[simp] lemma currentRound_setRound : (device.setRound round).currentRound = round := rfl

@[simp] lemma currentRound_setPollable {number : ℕ} {pollable : Pollable} :
    (device.setPollable number pollable).currentRound = device.currentRound := rfl

@[simp] lemma pollable_setPollable_self {number : ℕ} {pollable : Pollable} :
    (device.setPollable number pollable).pollable number = pollable := by
  simp [setPollable]

lemma pollable_setPollable_of_ne {number other : ℕ} {pollable : Pollable} (h : other ≠ number) :
    (device.setPollable number pollable).pollable other = device.pollable other := by
  simp [setPollable, h]

/-- A coroutine completes its pollable, or the pollable waits for its next step. -/
def GoesOn (device : DaliDevice) (item : Planned) : Prop :=
  ∀ outcome, ((device.pollable item.pollable).finish outcome item.pollCoroutine).hasInProgressRead
      = true → item.pollable ∈ device.currentRound ∧
    ∀ later,
      ((device.pollable item.pollable).finish outcome item.pollCoroutine).isPollDue later = true

/-- All that the loop over a round does to a device. -/
structure Loops (id : ℕ) (now : ℚ) (budget : ℤ) (round : List ℕ) (before after : DaliDevice)
    (plan : List Planned) : Prop where
  suffix : after.currentRound <:+ round
  others : ∀ number, number ∉ round → after.pollable number = before.pollable number
  passed : ∀ number ∈ round, number ∉ after.currentRound →
    (id, number) ∈ keys plan ∨ (before.pollable number).isPollDue now = false
  waits : ∀ number ∈ after.currentRound,
    (id, number) ∈ keys plan ∨ after.pollable number = before.pollable number
  goesOn : ∀ item ∈ plan, after.GoesOn item
  own : ∀ item ∈ plan, item.device = id ∧ item.pollable ∈ round
  nodup : (keys plan).Nodup
  fits : Fits budget plan
  progresses : budget = defaultMaxCommands → after.currentRound ≠ [] → plan ≠ []

section Step

variable {head : ℕ} {before after : Pollable} {result : ControlsPollRequestResult}

lemma eq_of_mem_planned {item : Planned} (h : item ∈ result.planned id head) :
    result.pollCoroutine = some item.pollCoroutine ∧ item.commandsCount = result.commandsCount ∧
      item.device = id ∧ item.pollable = head := by
  cases hcoroutine : result.pollCoroutine with
  | none => simp [ControlsPollRequestResult.planned, hcoroutine] at h
  | some coroutine =>
    obtain rfl : item = _ := by simpa [ControlsPollRequestResult.planned, hcoroutine] using h
    exact ⟨rfl, rfl, rfl, rfl⟩

lemma planned_eq_nil (h : result.pollCoroutine = none) : result.planned id head = [] := by
  simp [ControlsPollRequestResult.planned, h]

lemma planned_ne_nil {coroutine : PollCoroutine} (h : result.pollCoroutine = some coroutine) :
    result.planned id head ≠ [] := by
  simp [ControlsPollRequestResult.planned, h]

lemma mem_keys_planned {coroutine : PollCoroutine} (h : result.pollCoroutine = some coroutine) :
    (id, head) ∈ keys (result.planned id head) := by
  simp [ControlsPollRequestResult.planned, keys, h]

lemma nodup_keys_planned : (keys (result.planned id head)).Nodup := by
  cases h : result.pollCoroutine <;> simp [ControlsPollRequestResult.planned, keys, h]

lemma fits_planned (h : Steps budget defaultMaxCommands now before result after) :
    Fits budget (result.planned id head) := by
  cases hcoroutine : result.pollCoroutine with
  | none =>
    rw [planned_eq_nil hcoroutine]
    exact .nil
  | some coroutine =>
    have hplanned : result.planned id head = [⟨id, head, coroutine, result.commandsCount⟩] := by
      simp [ControlsPollRequestResult.planned, hcoroutine]
    obtain ⟨hpos, hfits⟩ := h.fits coroutine hcoroutine
    rw [hplanned]
    refine ⟨fun item hitem => List.mem_singleton.1 hitem ▸ hpos, .inr ?_⟩
    rcases hfits with hle | ⟨hfull, hfour, hchunk⟩
    · exact .inl (by simpa [commands] using hle)
    · exact .inr ⟨hfull, _, rfl, hfour, hchunk⟩

/-- The loop ends at a head that has more to do. -/
lemma Loops.stop {rest : List ℕ}
    (h : Steps budget defaultMaxCommands now (device.pollable head) result after)
    (hmore : result.hasMore = true) :
    Loops id now budget (head :: rest) device
      ((device.setPollable head after).setRound (head :: rest)) (result.planned id head) where
  suffix := List.suffix_rfl
  others number hnumber := pollable_setPollable_of_ne (List.ne_of_not_mem_cons hnumber)
  passed number hnumber hnot := absurd hnumber hnot
  waits number hnumber := by
    by_cases heq : number = head
    · subst heq
      cases hcoroutine : result.pollCoroutine with
      | none => exact .inr (by simp [h.unchanged hcoroutine])
      | some coroutine => exact .inl (mem_keys_planned hcoroutine)
    · exact .inr (pollable_setPollable_of_ne heq)
  goesOn item hitem outcome hread := by
    obtain ⟨hcoroutine, -, -, hpollable⟩ := eq_of_mem_planned hitem
    rw [hpollable, pollable_setRound, pollable_setPollable_self] at hread ⊢
    exact ⟨List.mem_cons_self, (h.goesOn _ hcoroutine outcome hread).2⟩
  own item hitem := by
    obtain ⟨-, -, hdevice, hpollable⟩ := eq_of_mem_planned hitem
    exact ⟨hdevice, hpollable ▸ List.mem_cons_self⟩
  nodup := nodup_keys_planned
  fits := fits_planned h
  progresses hfull _ := by
    cases hcoroutine : result.pollCoroutine with
    | none =>
      have hblocked := h.blocked hcoroutine hmore
      omega
    | some coroutine => exact planned_ne_nil hcoroutine

/-- The loop goes on after a head that has no more to do. -/
lemma Loops.pass {rest : List ℕ} {device' : DaliDevice} {plan : List Planned}
    (hbudget : budget ≤ defaultMaxCommands) (hhead : head ∉ rest)
    (h : Steps budget defaultMaxCommands now (device.pollable head) result after)
    (hmore : result.hasMore = false)
    (hrest : Loops id now (budget - commands (result.planned id head)) rest
      (device.setPollable head after) device' plan) :
    Loops id now budget (head :: rest) device device' (result.planned id head ++ plan) where
  suffix := hrest.suffix.trans (List.suffix_cons head rest)
  others number hnumber := by
    rw [List.mem_cons, not_or] at hnumber
    rw [hrest.others number hnumber.2, pollable_setPollable_of_ne hnumber.1]
  passed number hnumber hnot := by
    rw [keys_append, List.mem_append]
    rcases List.mem_cons.1 hnumber with rfl | hnumber
    · cases hcoroutine : result.pollCoroutine with
      | none => exact .inr (h.skipped hcoroutine hmore)
      | some coroutine => exact .inl (.inl (mem_keys_planned hcoroutine))
    · have hne : number ≠ head := fun heq => hhead (heq ▸ hnumber)
      have hpassed := hrest.passed number hnumber hnot
      rw [pollable_setPollable_of_ne hne] at hpassed
      exact hpassed.imp_left .inr
  waits number hnumber := by
    have hne : number ≠ head := fun heq => hhead (heq ▸ hrest.suffix.subset hnumber)
    have hwaits := hrest.waits number hnumber
    rw [pollable_setPollable_of_ne hne] at hwaits
    rw [keys_append, List.mem_append]
    exact hwaits.imp_left .inr
  goesOn item hitem := by
    rcases List.mem_append.1 hitem with hitem | hitem
    -- the head has no more to do, whatever is read
    · intro outcome hread
      obtain ⟨hcoroutine, -, -, hpollable⟩ := eq_of_mem_planned hitem
      rw [hpollable, hrest.others head hhead, pollable_setPollable_self] at hread
      have htrue := (h.goesOn _ hcoroutine outcome hread).1
      rw [hmore] at htrue
      cases htrue
    · exact hrest.goesOn item hitem
  own item hitem := by
    rcases List.mem_append.1 hitem with hitem | hitem
    · obtain ⟨-, -, hdevice, hpollable⟩ := eq_of_mem_planned hitem
      exact ⟨hdevice, hpollable ▸ List.mem_cons_self⟩
    · exact (hrest.own item hitem).imp_right (List.mem_cons_of_mem head)
  nodup := by
    rw [keys_append]
    refine nodup_keys_planned.append hrest.nodup ?_
    rintro ⟨device, number⟩ hplanned hkeys
    obtain ⟨item, hitem, -, rfl⟩ := mem_keys.1 hplanned
    obtain ⟨item', hitem', -, heq⟩ := mem_keys.1 hkeys
    obtain ⟨-, -, -, hpollable⟩ := eq_of_mem_planned hitem
    exact hhead (hpollable ▸ heq ▸ (hrest.own item' hitem').2)
  fits := (fits_planned h).append hrest.fits hbudget
  progresses hfull hround := by
    cases hcoroutine : result.pollCoroutine with
    | none =>
      have hnil : result.planned id head = [] := planned_eq_nil hcoroutine
      simp only [hnil, commands_nil, Nat.cast_zero, sub_zero] at hrest
      rw [hnil, List.nil_append]
      exact hrest.progresses hfull hround
    | some coroutine =>
      intro hnil
      exact planned_ne_nil hcoroutine (List.append_eq_nil_iff.1 hnil).1

end Step

theorem loops (hround : round.Nodup) (hbudget : budget ≤ defaultMaxCommands) :
    Loops id now budget round device
      (pollLoop id defaultMaxCommands now uniform budget round device).1
      (pollLoop id defaultMaxCommands now uniform budget round device).2 := by
  induction round generalizing device budget with
  | nil =>
    exact ⟨List.suffix_rfl, fun _ _ => rfl, nofun, nofun, nofun, nofun, List.nodup_nil, .nil,
      fun _ h => absurd rfl h⟩
  | cons head rest ih =>
    obtain ⟨hhead, hrest⟩ := List.nodup_cons.1 hround
    have hsteps : Steps budget defaultMaxCommands now (device.pollable head) _ _ :=
      @Pollable.steps budget defaultMaxCommands now (uniform head) (device.pollable head)
        (by decide) hbudget
    rw [pollLoop]
    by_cases hmore : ((device.pollable head).nextPollStep budget defaultMaxCommands now
        (uniform head)).1.hasMore = true
    · simp only [hmore, if_true]
      exact .stop hsteps hmore
    · simp only [hmore]
      exact .pass hbudget hhead hsteps (by simpa using hmore) (ih hrest (by omega))

end DaliDevice

/-! ### What a visit does -/

section Visit

variable {s : State} {id : ℕ} {budget : ℤ} {uniform : ℕ → ℕ → ℚ} {plan : List Planned}
  {done todo rest : List ℕ}

/-- The pollables of the device are settled or wait for their turn, once the coroutines of the plan
have gone on. -/
structure Kept (s : State) (plan : List Planned) (id : ℕ) : Prop where
  nodup : (s.device id).currentRound.Nodup
  settled : ∀ number ∈ s.due id, number ∈ s.resolved id ∨
    number ∈ (s.device id).currentRound ∨ (id, number) ∈ keys plan
  ready : ∀ number ∈ (s.device id).currentRound, number ∈ s.resolved id ∨
    ((s.device id).pollable number).isPollDue s.now = true ∨ (id, number) ∈ keys plan

/-- Where the round is: these devices are done, and those are still to be visited. -/
structure Position (s : State) (done todo : List ℕ) : Prop where
  devices : s.devices = done ++ todo
  index : s.currentDeviceIndex = done.length
  nodup : s.daliDevices.Nodup
  devicesNodup : (done ++ todo).Nodup
  outside : ∀ id ∈ s.daliDevices, id ∉ done ++ todo → (s.device id).currentRound = []
  finished : ∀ id ∈ done, id ∈ s.visited ∧ id ∈ s.ended ∧ (s.device id).currentRound = []
  waiting : ∀ id ∈ todo.tail, id ∉ s.visited ∧ (s.device id).currentRound = []
  current : ∀ id ∈ todo.head?, (id ∈ s.visited ↔ (s.device id).currentRound ≠ [])
  notEnded : ∀ id ∈ todo, id ∉ s.ended
  visitedNodup : s.visited.Nodup
  covers : ∀ id ∈ s.round, id ∈ done ++ todo ∨ id ∈ s.removed

@[simp] lemma device_setDevice_self {device : DaliDevice} :
    (s.setDevice id device).device id = device := by
  simp [State.setDevice]

lemma device_setDevice_of_ne {other : ℕ} {device : DaliDevice} (h : other ≠ id) :
    (s.setDevice id device).device other = s.device other := by
  simp [State.setDevice, h]

lemma mem_visited_beginVisit {other : ℕ} (h : id ∈ s.visited ↔ (s.device id).currentRound ≠ []) :
    other ∈ (s.beginVisit id).visited ↔ other = id ∨ other ∈ s.visited := by
  by_cases hround : (s.device id).currentRound = []
  · simp [State.beginVisit, hround, or_comm]
  · simp only [State.beginVisit, hround, if_false]
    exact ⟨.inr, fun hor => hor.elim (fun heq => heq ▸ h.2 hround) fun hmem => hmem⟩

lemma nodup_visited_beginVisit (h : id ∈ s.visited ↔ (s.device id).currentRound ≠ [])
    (hnodup : s.visited.Nodup) : (s.beginVisit id).visited.Nodup := by
  by_cases hround : (s.device id).currentRound = []
  · have hnot : id ∉ s.visited := fun hmem => h.1 hmem hround
    simp only [State.beginVisit, hround, if_true]
    exact List.nodup_append'.2 ⟨hnodup, List.nodup_singleton id, by simpa using hnot⟩
  · simpa only [State.beginVisit, hround, if_false] using hnodup

lemma Position.ne_current {other : ℕ} (h : Position s done (id :: rest))
    (hother : other ∈ done ∨ other ∈ rest) : other ≠ id := by
  have hnodup := h.devicesNodup
  rintro rfl
  rw [List.nodup_middle, List.nodup_cons, List.mem_append] at hnodup
  exact hnodup.1 hother

/-- A visit that leaves something in the round goes on. -/
lemma Position.visit {device : DaliDevice} (h : Position s done (id :: rest))
    (hround : device.currentRound ≠ []) :
    Position ((s.beginVisit id).setDevice id device) done (id :: rest) := by
  have hid : id ∈ s.visited ↔ (s.device id).currentRound ≠ [] := h.current id rfl
  exact
    { devices := h.devices
      index := h.index
      nodup := h.nodup
      devicesNodup := h.devicesNodup
      outside := by
        intro other hother hnot
        have hother' : other ≠ id := fun heq => hnot (by simp [heq])
        rw [device_setDevice_of_ne hother']
        exact h.outside other hother hnot
      finished := by
        intro other hother
        obtain ⟨hvisited, hended, hnone⟩ := h.finished other hother
        rw [device_setDevice_of_ne (h.ne_current (.inl hother))]
        exact ⟨(mem_visited_beginVisit hid).2 (.inr hvisited), hended, hnone⟩
      waiting := by
        intro other hother
        obtain ⟨hnot, hnone⟩ := h.waiting other hother
        rw [device_setDevice_of_ne (h.ne_current (.inr hother))]
        refine ⟨fun hmem => ?_, hnone⟩
        exact ((mem_visited_beginVisit hid).1 hmem).elim (h.ne_current (.inr hother)) hnot
      current := by
        rintro _ ⟨⟩
        rw [device_setDevice_self]
        exact iff_of_true ((mem_visited_beginVisit hid).2 (.inl rfl)) hround
      notEnded := h.notEnded
      visitedNodup := nodup_visited_beginVisit hid h.visitedNodup
      covers := h.covers }

/-- A visit that leaves nothing in the round is over. -/
lemma Position.visit_over {device : DaliDevice} (h : Position s done (id :: rest))
    (hround : device.currentRound = []) :
    Position (((s.beginVisit id).setDevice id device).endVisit id) (done ++ [id]) rest := by
  have hid : id ∈ s.visited ↔ (s.device id).currentRound ≠ [] := h.current id rfl
  have hsplit : done ++ [id] ++ rest = done ++ id :: rest := by simp
  have hdevice : ∀ other, other ≠ id →
      ((((s.beginVisit id).setDevice id device).endVisit id).device other) = s.device other :=
    fun other hother => device_setDevice_of_ne hother
  -- the devices behind are still to be visited
  have hrest : ∀ other ∈ rest, other ∉ (s.beginVisit id).visited ∧
      ((((s.beginVisit id).setDevice id device).endVisit id).device other).currentRound = [] := by
    intro other hother
    obtain ⟨hnot, hnone⟩ := h.waiting other hother
    rw [hdevice other (h.ne_current (.inr hother))]
    refine ⟨fun hmem => ?_, hnone⟩
    exact ((mem_visited_beginVisit hid).1 hmem).elim (h.ne_current (.inr hother)) hnot
  exact
    { devices := by rw [hsplit]; exact h.devices
      index := by
        have hindex : s.currentDeviceIndex + 1 = (done ++ [id]).length := by simp [h.index]
        exact hindex
      nodup := h.nodup
      devicesNodup := by rw [hsplit]; exact h.devicesNodup
      outside := by
        intro other hother hnot
        rw [hsplit] at hnot
        rw [hdevice other fun heq => hnot (by simp [heq])]
        exact h.outside other hother hnot
      finished := by
        intro other hother
        rcases List.mem_append.1 hother with hother | hother
        · obtain ⟨hvisited, hended, hnone⟩ := h.finished other hother
          rw [hdevice other (h.ne_current (.inl hother))]
          exact ⟨(mem_visited_beginVisit hid).2 (.inr hvisited), List.mem_append_left _ hended,
            hnone⟩
        · obtain rfl := List.mem_singleton.1 hother
          refine ⟨(mem_visited_beginVisit hid).2 (.inl rfl), List.mem_append_right _ hother, ?_⟩
          change (((s.beginVisit other).setDevice other device).device other).currentRound = []
          rw [device_setDevice_self, hround]
      waiting := fun other hother => hrest other (List.mem_of_mem_tail hother)
      current := by
        intro other hother
        obtain ⟨hnot, hnone⟩ := hrest other (List.mem_of_mem_head? hother)
        exact iff_of_false hnot fun hsome => hsome hnone
      notEnded := by
        intro other hother hmem
        rcases List.mem_append.1 hmem with hmem | hmem
        · exact h.notEnded other (List.mem_cons_of_mem id hother) hmem
        · exact h.ne_current (.inr hother) (List.mem_singleton.1 hmem)
      visitedNodup := nodup_visited_beginVisit hid h.visitedNodup
      covers := by rw [hsplit]; exact h.covers }

lemma Kept.mono {plan' : List Planned} (h : Kept s plan id) (hplan : keys plan ⊆ keys plan') :
    Kept s plan' id :=
  ⟨h.nodup, fun number hnumber => (h.settled number hnumber).imp_right (Or.imp_right (hplan ·)),
    fun number hnumber => (h.ready number hnumber).imp_right (Or.imp_right (hplan ·))⟩

/-- What is kept of a device depends on the device alone. -/
lemma Kept.congr {s' : State} (h : Kept s plan id) (hdevice : s'.device id = s.device id)
    (hdue : s'.due id = s.due id) (hresolved : s'.resolved id = s.resolved id)
    (hnow : s'.now = s.now) : Kept s' plan id := by
  refine ⟨?_, ?_, ?_⟩
  · rw [hdevice]
    exact h.nodup
  · rw [hdevice, hdue, hresolved]
    exact h.settled
  · rw [hdevice, hresolved, hnow]
    exact h.ready

/-- The device that a visit goes on with has its pollables in order. -/
lemma Kept.atRound (h : Kept s [] id) :
    ((s.device id).atRound s.now).currentRound.Nodup ∧
    (∀ number ∈ (s.beginVisit id).due id, number ∈ (s.beginVisit id).resolved id ∨
      number ∈ ((s.device id).atRound s.now).currentRound) ∧
    ∀ number ∈ ((s.device id).atRound s.now).currentRound,
      number ∈ (s.beginVisit id).resolved id ∨
        (((s.device id).atRound s.now).pollable number).isPollDue s.now = true := by
  by_cases hround : (s.device id).currentRound = []
  · have hnew : ((s.device id).atRound s.now).currentRound = (s.device id).duePollables s.now := by
      simp [DaliDevice.atRound, DaliDevice.refreshRoundSnapshot, hround]
    have hpollable : ((s.device id).atRound s.now).pollable = (s.device id).pollable := by
      simp [DaliDevice.atRound, DaliDevice.refreshRoundSnapshot, hround]
    rw [hnew, hpollable]
    refine ⟨(s.device id).nodup.filter _, ?_, ?_⟩
    · intro number hnumber
      exact .inr (by simpa [State.beginVisit, hround] using hnumber)
    · intro number hnumber
      exact .inr (List.mem_filter.1 hnumber).2
  · have hold : (s.device id).atRound s.now = s.device id := by
      simp [DaliDevice.atRound, hround]
    have hsettled := h.settled
    have hready := h.ready
    simp only [keys_nil, List.not_mem_nil, or_false] at hsettled hready
    rw [hold]
    simp only [State.beginVisit, hround, if_false]
    exact ⟨h.nodup, hsettled, hready⟩

/-- What the loop leaves of the round is still to be polled. -/
lemma Kept.visit {device : DaliDevice} (h : Kept s [] id)
    (hloops : DaliDevice.Loops id s.now budget ((s.device id).atRound s.now).currentRound
      ((s.device id).atRound s.now) device plan) :
    Kept ((s.beginVisit id).setDevice id device) plan id := by
  obtain ⟨hnodup, hsettled, hready⟩ := h.atRound
  refine ⟨?_, ?_, ?_⟩
  · rw [device_setDevice_self]
    exact hloops.suffix.sublist.nodup hnodup
  · intro number hnumber
    rw [device_setDevice_self]
    rcases hsettled number hnumber with hresolved | hround
    · exact .inl hresolved
    by_cases hleft : number ∈ device.currentRound
    · exact .inr (.inl hleft)
    rcases hloops.passed number hround hleft with hkey | hnot
    · exact .inr (.inr hkey)
    · refine .inl ((hready number hround).resolve_right fun hdue => ?_)
      rw [hnot] at hdue
      cases hdue
  · intro number hnumber
    rw [device_setDevice_self] at hnumber ⊢
    rcases hloops.waits number hnumber with hkey | hsame
    · exact .inr (.inr hkey)
    · rw [hsame]
      exact (hready number (hloops.suffix.subset hnumber)).imp_right .inl

/-- All that the loop over the devices to visit does. -/
structure Plans (budget : ℤ) (todo : List ℕ) (before after : State) (plan : List Planned) :
    Prop where
  position : ∃ done todo, Position after done todo
  devices : after.devices = before.devices
  round : after.round = before.round ∧ after.removed = before.removed
  now : after.now = before.now
  others : ∀ id, id ∉ todo → after.device id = before.device id ∧
    after.due id = before.due id ∧ after.resolved id = before.resolved id
  kept : ∀ id ∈ todo, Kept after plan id
  goesOn : ∀ item ∈ plan, (after.device item.device).GoesOn item
  own : ∀ item ∈ plan, item.device ∈ todo
  nodup : (keys plan).Nodup
  fits : Fits budget plan
  ended : before.ended ⊆ after.ended
  progresses : budget = defaultMaxCommands → todo ≠ [] →
    plan ≠ [] ∨ ∃ id ∈ todo, id ∉ before.ended ∧ id ∈ after.ended

lemma Plans.refl (hposition : Position s done todo) (hkept : ∀ id ∈ todo, Kept s [] id)
    (hnone : budget = defaultMaxCommands → todo = []) : Plans budget todo s s [] :=
  ⟨⟨done, todo, hposition⟩, rfl, ⟨rfl, rfl⟩, rfl, fun _ _ => ⟨rfl, rfl, rfl⟩, hkept, nofun, nofun,
    List.nodup_nil, .nil, List.Subset.refl _, fun hfull hsome => absurd (hnone hfull) hsome⟩

lemma due_beginVisit_of_ne {other : ℕ} (h : other ≠ id) :
    (s.beginVisit id).due other = s.due other := by
  by_cases hround : (s.device id).currentRound = [] <;> simp [State.beginVisit, hround, h]

lemma resolved_beginVisit_of_ne {other : ℕ} (h : other ≠ id) :
    (s.beginVisit id).resolved other = s.resolved other := by
  by_cases hround : (s.device id).currentRound = [] <;> simp [State.beginVisit, hround, h]

/-- The visit of one device leaves the others as they were. -/
lemma others_visit {device : DaliDevice} {other : ℕ} (h : other ≠ id) :
    ((s.beginVisit id).setDevice id device).device other = s.device other ∧
      ((s.beginVisit id).setDevice id device).due other = s.due other ∧
      ((s.beginVisit id).setDevice id device).resolved other = s.resolved other :=
  ⟨device_setDevice_of_ne h, due_beginVisit_of_ne h, resolved_beginVisit_of_ne h⟩

lemma Kept.others_visit {device : DaliDevice} {other : ℕ} (h : Kept s plan other)
    (hne : other ≠ id) : Kept ((s.beginVisit id).setDevice id device) plan other :=
  h.congr (PollRound.others_visit hne).1 (PollRound.others_visit hne).2.1
    (PollRound.others_visit hne).2.2 rfl

/-- The tick ends at a device that has more to poll. -/
lemma Plans.stop {device : DaliDevice} (hposition : Position s done (id :: rest))
    (hkept : ∀ id' ∈ id :: rest, Kept s [] id')
    (hloops : DaliDevice.Loops id s.now budget ((s.device id).atRound s.now).currentRound
      ((s.device id).atRound s.now) device plan)
    (hmore : device.currentRound ≠ []) :
    Plans budget (id :: rest) s ((s.beginVisit id).setDevice id device) plan where
  position := ⟨done, id :: rest, hposition.visit hmore⟩
  devices := rfl
  round := ⟨rfl, rfl⟩
  now := rfl
  others other hother := others_visit (List.ne_of_not_mem_cons hother)
  kept other hother := by
    rcases List.mem_cons.1 hother with rfl | hrest
    · exact (hkept other hother).visit hloops
    · exact ((hkept other hother).others_visit (hposition.ne_current (.inr hrest))).mono
        (List.nil_subset _)
  goesOn item hitem := by
    rw [(hloops.own item hitem).1, device_setDevice_self]
    exact hloops.goesOn item hitem
  own item hitem := (hloops.own item hitem).1 ▸ List.mem_cons_self
  nodup := hloops.nodup
  fits := hloops.fits
  ended := List.Subset.refl _
  progresses hfull _ := .inl (hloops.progresses hfull hmore)

/-- The tick goes on after a device that has nothing more to poll. -/
lemma Plans.pass {device : DaliDevice} {s' : State} {plan' : List Planned}
    (hbudget : budget ≤ defaultMaxCommands)
    (hposition : Position s done (id :: rest)) (hkept : ∀ id' ∈ id :: rest, Kept s [] id')
    (hloops : DaliDevice.Loops id s.now budget ((s.device id).atRound s.now).currentRound
      ((s.device id).atRound s.now) device plan)
    (hplans : Plans (budget - commands plan) rest
      (((s.beginVisit id).setDevice id device).endVisit id) s' plan') :
    Plans budget (id :: rest) s s' (plan ++ plan') := by
  have hid : id ∉ rest := fun hmem => hposition.ne_current (.inr hmem) rfl
  obtain ⟨hdevice, hdue, hresolved⟩ := hplans.others id hid
  have hself : s'.device id = device := hdevice.trans device_setDevice_self
  exact
    { position := hplans.position
      devices := hplans.devices
      round := hplans.round
      now := hplans.now
      others := by
        intro other hother
        rw [List.mem_cons, not_or] at hother
        obtain ⟨hdevice', hdue', hresolved'⟩ := hplans.others other hother.2
        obtain ⟨hdevice, hdue, hresolved⟩ := @others_visit s id device other hother.1
        exact ⟨hdevice'.trans hdevice, hdue'.trans hdue, hresolved'.trans hresolved⟩
      kept := by
        intro other hother
        rcases List.mem_cons.1 hother with rfl | hrest
        · have hvisit := (hkept other hother).visit hloops
          exact (hvisit.congr hdevice hdue hresolved hplans.now).mono (by simp)
        · exact (hplans.kept other hrest).mono (by simp)
      goesOn := by
        intro item hitem
        rcases List.mem_append.1 hitem with hitem | hitem
        · rw [(hloops.own item hitem).1, hself]
          exact hloops.goesOn item hitem
        · exact hplans.goesOn item hitem
      own := by
        intro item hitem
        rcases List.mem_append.1 hitem with hitem | hitem
        · exact (hloops.own item hitem).1 ▸ List.mem_cons_self
        · exact List.mem_cons_of_mem id (hplans.own item hitem)
      nodup := by
        rw [keys_append]
        -- the devices behind are other ones
        refine hloops.nodup.append hplans.nodup ?_
        rintro ⟨other, number⟩ hkey hkey'
        obtain ⟨item, hitem, rfl, -⟩ := mem_keys.1 hkey
        obtain ⟨item', hitem', heq, -⟩ := mem_keys.1 hkey'
        exact hid ((hloops.own item hitem).1 ▸ heq ▸ hplans.own item' hitem')
      fits := hloops.fits.append hplans.fits hbudget
      ended := fun other hother => hplans.ended (List.mem_append_left _ hother)
      progresses := fun _ _ =>
        .inr ⟨id, List.mem_cons_self, hposition.notEnded id List.mem_cons_self,
        hplans.ended (List.mem_append_right _ (List.mem_singleton.2 rfl))⟩ }

theorem plans (hbudget : budget ≤ defaultMaxCommands) (hposition : Position s done todo)
    (hkept : ∀ id ∈ todo, Kept s [] id) :
    Plans budget todo s (State.pollLoop uniform todo budget s).1
      (State.pollLoop uniform todo budget s).2 := by
  induction todo generalizing s done budget with
  | nil => exact .refl hposition hkept fun _ => rfl
  | cons id rest ih =>
    rw [State.pollLoop]
    by_cases hzero : budget ≤ 0
    · rw [if_pos hzero]
      exact .refl hposition hkept fun hfull => absurd hzero (by rw [hfull]; decide)
    rw [if_neg hzero]
    have hloops : DaliDevice.Loops id s.now budget ((s.device id).atRound s.now).currentRound
        ((s.device id).atRound s.now)
        ((s.device id).pollControls id s.now budget defaultMaxCommands (uniform id)).1
        ((s.device id).pollControls id s.now budget defaultMaxCommands (uniform id)).2 :=
      DaliDevice.loops (hkept id List.mem_cons_self).atRound.1 hbudget
    by_cases hmore : ((s.device id).pollControls id s.now budget defaultMaxCommands
        (uniform id)).1.currentRound = []
    · simp only [hmore, ne_eq, not_true_eq_false, if_false]
      refine .pass hbudget hposition hkept hloops (ih (by omega) (hposition.visit_over hmore) ?_)
      intro other hother
      exact ((hkept other (List.mem_cons_of_mem id hother)).others_visit
        (hposition.ne_current (.inr hother))).congr rfl rfl rfl rfl
    · simp only [hmore, ne_eq, not_false_eq_true, if_true]
      exact .stop hposition hkept hloops hmore

end Visit

/-! ### Runs of the scheduler -/

section Runs

variable {s s' : State} {id number : ℕ} {plan : List Planned} {done todo : List ℕ}

/-- What holds of the scheduler while these coroutines are still to go on. -/
structure Inv (s : State) (plan : List Planned) : Prop where
  position : ∃ done todo, Position s done todo
  kept : ∀ id ∈ s.devices, Kept s plan id
  goesOn : ∀ item ∈ plan, (s.device item.device).GoesOn item
  nodup : (keys plan).Nodup

/-- A step on the pollables of a device leaves the round where it is. -/
lemma Position.congr (h : Position s done todo)
    (hround : ∀ id, (s'.device id).currentRound = (s.device id).currentRound)
    (hdali : s'.daliDevices = s.daliDevices) (hdevices : s'.devices = s.devices)
    (hindex : s'.currentDeviceIndex = s.currentDeviceIndex) (hstart : s'.round = s.round)
    (hremoved : s'.removed = s.removed) (hvisited : s'.visited = s.visited)
    (hended : s'.ended = s.ended) : Position s' done todo where
  devices := hdevices.trans h.devices
  index := hindex.trans h.index
  nodup := hdali ▸ h.nodup
  devicesNodup := h.devicesNodup
  outside := by simpa only [hdali, hround] using h.outside
  finished := by simpa only [hvisited, hended, hround] using h.finished
  waiting := by simpa only [hvisited, hround] using h.waiting
  current := by simpa only [hvisited, hround] using h.current
  notEnded := by simpa only [hended] using h.notEnded
  visitedNodup := hvisited ▸ h.visitedNodup
  covers := by simpa only [hstart, hremoved] using h.covers

lemma currentRound_setPollable {pollable : Pollable} (other : ℕ) :
    ((s.setDevice id ((s.device id).setPollable number pollable)).device other).currentRound =
      (s.device other).currentRound := by
  by_cases h : other = id
  · subst h
    simp
  · rw [device_setDevice_of_ne h]

lemma Position.setPollable {pollable : Pollable} (h : Position s done todo) :
    Position (s.setDevice id ((s.device id).setPollable number pollable)) done todo :=
  h.congr currentRound_setPollable rfl rfl rfl rfl rfl rfl rfl

@[simp] lemma resolved_resolve_self :
    (s.resolve id number).resolved id = number :: s.resolved id := by
  simp [State.resolve]

lemma resolved_resolve_of_ne {other : ℕ} (h : other ≠ id) :
    (s.resolve id number).resolved other = s.resolved other := by
  simp [State.resolve, h]

lemma Position.resolve (h : Position s done todo) : Position (s.resolve id number) done todo :=
  h.congr (fun _ => rfl) rfl rfl rfl rfl rfl rfl rfl

lemma Kept.others_setPollable {other : ℕ} {pollable : Pollable} (h : Kept s plan other)
    (hne : other ≠ id) :
    Kept (s.setDevice id ((s.device id).setPollable number pollable)) plan other :=
  h.congr (device_setDevice_of_ne hne) rfl rfl rfl

lemma Kept.others_resolve {other : ℕ} (h : Kept s plan other) (hne : other ≠ id) :
    Kept (s.resolve id number) plan other :=
  h.congr rfl rfl (resolved_resolve_of_ne hne) rfl

/-- A pollable that is resolved needs no more coroutines. -/
lemma Kept.resolve {pollable : Pollable} (h : Kept s plan id)
    {plan' : List Planned} (hplan : ∀ other, (id, other) ∈ keys plan → other = number ∨
      (id, other) ∈ keys plan') :
    Kept ((s.setDevice id ((s.device id).setPollable number pollable)).resolve id number) plan'
      id := by
  have hdevice : ((s.setDevice id ((s.device id).setPollable number pollable)).resolve id
      number).device id = (s.device id).setPollable number pollable := device_setDevice_self
  have hresolved : ((s.setDevice id ((s.device id).setPollable number pollable)).resolve id
      number).resolved id = number :: s.resolved id := resolved_resolve_self
  refine ⟨?_, ?_, ?_⟩
  · rw [hdevice]
    exact h.nodup
  · intro other hother
    rw [hdevice, hresolved, List.mem_cons]
    rcases h.settled other hother with hdone | hround | hkey
    · exact .inl (.inr hdone)
    · exact .inr (.inl hround)
    · exact (hplan other hkey).elim (fun heq => .inl (.inl heq)) fun hkey => .inr (.inr hkey)
  · intro other hother
    rw [hdevice] at hother ⊢
    rw [hresolved, List.mem_cons]
    by_cases heq : other = number
    · exact .inl (.inl heq)
    rw [DaliDevice.pollable_setPollable_of_ne heq]
    rcases h.ready other hother with hdone | hdue | hkey
    · exact .inl (.inr hdone)
    · exact .inr (.inl hdue)
    · exact (hplan other hkey).elim (fun heq => .inl (.inl heq)) fun hkey => .inr (.inr hkey)

/-- A pollable with a read in progress stays in the round. -/
lemma Kept.goOn {pollable : Pollable} (h : Kept s plan id) {plan' : List Planned}
    (hplan : ∀ other, (id, other) ∈ keys plan → other = number ∨ (id, other) ∈ keys plan')
    (hround : number ∈ (s.device id).currentRound) (hdue : pollable.isPollDue s.now = true) :
    Kept (s.setDevice id ((s.device id).setPollable number pollable)) plan' id := by
  refine ⟨?_, ?_, ?_⟩
  · rw [device_setDevice_self]
    exact h.nodup
  · intro other hother
    rw [device_setDevice_self]
    rcases h.settled other hother with hdone | hround | hkey
    · exact .inl hdone
    · exact .inr (.inl hround)
    · rcases hplan other hkey with rfl | hkey
      · exact .inr (.inl hround)
      · exact .inr (.inr hkey)
  · intro other hother
    rw [device_setDevice_self] at hother ⊢
    by_cases heq : other = number
    · subst heq
      exact .inr (.inl (by rwa [DaliDevice.pollable_setPollable_self]))
    rw [DaliDevice.pollable_setPollable_of_ne heq]
    rcases h.ready other hother with hdone | hdue | hkey
    · exact .inl hdone
    · exact .inr (.inl hdue)
    · exact .inr (.inr ((hplan other hkey).resolve_left heq))

/-- A coroutine of another pollable leaves this one to go on. -/
lemma goesOn_setPollable {pollable : Pollable} {item : Planned}
    (h : (s.device item.device).GoesOn item) (hne : (item.device, item.pollable) ≠ (id, number)) :
    ((s.setDevice id ((s.device id).setPollable number pollable)).device item.device).GoesOn
      item := by
  by_cases hdevice : item.device = id
  · have hpollable : item.pollable ≠ number := fun heq => hne (by rw [hdevice, heq])
    rw [hdevice, device_setDevice_self]
    rw [hdevice] at h
    intro outcome
    rw [DaliDevice.pollable_setPollable_of_ne hpollable]
    exact h outcome
  · rwa [device_setDevice_of_ne hdevice]

/-- One coroutine goes on with its responses. -/
theorem Inv.finish {item : Planned} {outcome : ℕ → ℕ → ReadOutcome} (h : Inv s (item :: plan)) :
    Inv (s.finish outcome item) plan := by
  obtain ⟨done, todo, hposition⟩ := h.position
  obtain ⟨hkey, hnodup⟩ : (item.device, item.pollable) ∉ keys plan ∧ (keys plan).Nodup :=
    List.nodup_cons.1 h.nodup
  have hgoes := h.goesOn item List.mem_cons_self
  have hplan : ∀ other, (item.device, other) ∈ keys (item :: plan) →
      other = item.pollable ∨ (item.device, other) ∈ keys plan := by
    intro other hother
    simpa [keys] using hother
  have hothers : ∀ id, id ≠ item.device → Kept s (item :: plan) id → Kept s plan id := by
    intro id hne hid
    refine ⟨hid.nodup, fun other hother => ?_, fun other hother => ?_⟩
    · have hsettled := hid.settled other hother
      simpa [keys, hne] using hsettled
    · have hready := hid.ready other hother
      simpa [keys, hne] using hready
  have hrest : ∀ item' ∈ plan, (item'.device, item'.pollable) ≠ (item.device, item.pollable) := by
    intro item' hitem' heq
    exact hkey (heq ▸ List.mem_map_of_mem (f := fun item => (item.device, item.pollable)) hitem')
  rw [State.finish]
  set pollable := ((s.device item.device).pollable item.pollable).finish
    (outcome item.device item.pollable) item.pollCoroutine with hpollable
  by_cases hread : pollable.hasInProgressRead = true
  · obtain ⟨hround, hdue⟩ := hgoes _ hread
    simp only [hread, if_true]
    refine ⟨⟨done, todo, hposition.setPollable⟩, fun id hid => ?_, fun item' hitem' => ?_, hnodup⟩
    · by_cases hne : id = item.device
      · subst hne
        exact (h.kept _ hid).goOn hplan hround (hdue _)
      · exact (hothers id hne (h.kept id hid)).others_setPollable hne
    · exact goesOn_setPollable (h.goesOn item' (List.mem_cons_of_mem _ hitem'))
        (hrest item' hitem')
  · simp only [hread]
    refine ⟨⟨done, todo, hposition.setPollable.resolve⟩, fun id hid => ?_, fun item' hitem' => ?_,
      hnodup⟩
    · by_cases hne : id = item.device
      · subst hne
        exact (h.kept _ hid).resolve hplan
      · exact ((hothers id hne (h.kept id hid)).others_setPollable hne).others_resolve hne
    · exact goesOn_setPollable (h.goesOn item' (List.mem_cons_of_mem _ hitem'))
        (hrest item' hitem')

/-- All the coroutines of a tick go on. -/
lemma Inv.finish_all {outcome : ℕ → ℕ → ReadOutcome} (h : Inv s plan) :
    Inv (plan.foldl (fun s item => s.finish outcome item) s) [] := by
  induction plan generalizing s with
  | nil => exact h
  | cons item plan ih => exact ih h.finish

/-- A tick plans within the budget, and then its coroutines are to go on. -/
theorem Inv.tick (h : Inv s []) (elapsed : ℚ≥0) (uniform : ℕ → ℕ → ℚ) :
    Inv (s.plan elapsed uniform).1 (s.plan elapsed uniform).2 ∧
      ∃ done todo, Position s done todo ∧ Plans defaultMaxCommands todo
        { s with now := s.now + elapsed } (s.plan elapsed uniform).1
        (s.plan elapsed uniform).2 := by
  obtain ⟨done, todo, hposition⟩ := h.position
  set later : State := { s with now := s.now + elapsed } with hlater
  have hposition' : Position later done todo :=
    hposition.congr (fun _ => rfl) rfl rfl rfl rfl rfl rfl rfl
  have hkept : ∀ id ∈ done ++ todo, Kept later [] id := by
    intro id hid
    have hid' := h.kept id (hposition.devices ▸ hid)
    refine ⟨hid'.nodup, hid'.settled, fun number hnumber => ?_⟩
    have hnow : s.now ≤ later.now := le_add_of_nonneg_right elapsed.2
    exact (hid'.ready number hnumber).imp_right (Or.imp_left (Pollable.isPollDue_mono hnow))
  have htodo : later.devices.drop later.currentDeviceIndex = todo := by
    rw [hposition'.devices, hposition'.index, List.drop_left]
  have hplans : Plans defaultMaxCommands todo later (s.plan elapsed uniform).1
      (s.plan elapsed uniform).2 := by
    have hloop : Plans defaultMaxCommands todo later
        (State.pollLoop uniform todo defaultMaxCommands later).1
        (State.pollLoop uniform todo defaultMaxCommands later).2 :=
      plans le_rfl hposition' fun id hid => hkept id (List.mem_append_right _ hid)
    rwa [← htodo] at hloop ⊢
  refine ⟨⟨hplans.position, fun id hid => ?_, hplans.goesOn, hplans.nodup⟩, done, todo, hposition,
    hplans⟩
  rw [hplans.devices, hposition'.devices] at hid
  by_cases hmem : id ∈ todo
  · exact hplans.kept id hmem
  · obtain ⟨hdevice, hdue, hresolved⟩ := hplans.others id hmem
    exact ((hkept id hid).congr hdevice hdue hresolved hplans.now).mono (List.nil_subset _)

lemma Inv.poll (h : Inv s []) (elapsed : ℚ≥0) (uniform : ℕ → ℕ → ℚ)
    (outcome : ℕ → ℕ → ReadOutcome) : Inv (s.poll elapsed uniform outcome) [] :=
  (h.tick elapsed uniform).1.finish_all

lemma Inv.cancelPendingPoll (h : Inv s []) (id number : ℕ) :
    Inv (s.cancelPendingPoll id number) [] := by
  obtain ⟨done, todo, hposition⟩ := h.position
  rw [State.cancelPendingPoll]
  by_cases hread : ((s.device id).pollable number).hasInProgressRead = true
  · simp only [hread, if_true]
    refine ⟨⟨done, todo, hposition.setPollable.resolve⟩, fun other hother => ?_, nofun,
      List.nodup_nil⟩
    by_cases hne : other = id
    · subst hne
      exact (h.kept _ hother).resolve fun _ hkey => .inr hkey
    · exact ((h.kept other hother).others_setPollable hne).others_resolve hne
  · rw [Bool.not_eq_true] at hread
    have hsame : s.setDevice id ((s.device id).setPollable number
        ((s.device id).pollable number)) = s := by
      simp [State.setDevice, DaliDevice.setPollable]
    simp only [hread, Pollable.cancelPendingPoll_of_not_inProgress hread, hsame]
    exact h

lemma tail_erase_subset (id : ℕ) (todo : List ℕ) : (todo.erase id).tail ⊆ todo.tail := by
  cases todo with
  | nil => exact List.Subset.refl _
  | cons head rest =>
    by_cases heq : head = id
    · subst heq
      rw [List.erase_cons_head]
      exact List.tail_subset rest
    · rw [List.erase_cons_tail (by simpa using heq)]
      exact List.erase_subset

lemma head?_erase {other : ℕ} (h : other ∈ (todo.erase id).head?) :
    other ∈ todo.head? ∨ other ∈ todo.tail := by
  cases todo with
  | nil => exact .inl h
  | cons head rest =>
    by_cases heq : head = id
    · subst heq
      rw [List.erase_cons_head] at h
      exact .inr (List.mem_of_mem_head? h)
    · rw [List.erase_cons_tail (by simpa using heq)] at h
      exact .inl h

/-- The index stays with its device where one before it is removed. -/
lemma devices_removeDevice (h : Position s done todo) (id : ℕ) :
    (s.removeDevice id).devices = done.erase id ++ todo.erase id ∧
      (s.removeDevice id).currentDeviceIndex = (done.erase id).length := by
  have hnodup := h.devicesNodup
  rw [List.nodup_append'] at hnodup
  by_cases hmem : id ∈ s.devices
  · have hdevices : s.devices.eraseIdx (s.devices.idxOf id) = (done ++ todo).erase id := by
      rw [h.devices, List.erase_eq_eraseIdx_of_idxOf rfl]
    simp only [State.removeDevice, hmem, if_true, hdevices]
    rw [h.devices, h.index]
    by_cases hdone : id ∈ done
    · have hidx : (done ++ todo).idxOf id < done.length := by
        rw [List.idxOf_append_of_mem hdone]
        exact List.idxOf_lt_length_of_mem hdone
      rw [List.erase_append_left _ hdone, List.erase_of_not_mem (hnodup.2.2 hdone), if_pos hidx,
        List.length_erase_of_mem hdone]
      exact ⟨rfl, rfl⟩
    · have hidx : ¬ (done ++ todo).idxOf id < done.length := by
        rw [List.idxOf_append_of_notMem hdone]
        omega
      rw [List.erase_append_right _ hdone, List.erase_of_not_mem hdone, if_neg hidx]
      exact ⟨rfl, rfl⟩
  · simp only [State.removeDevice, hmem, if_false]
    rw [h.devices, List.mem_append, not_or] at hmem
    rw [List.erase_of_not_mem hmem.1, List.erase_of_not_mem hmem.2]
    exact ⟨h.devices, h.index⟩

lemma Position.removeDevice (h : Position s done todo) (id : ℕ) :
    Position (s.removeDevice id) (done.erase id) (todo.erase id) := by
  -- the lists lose the device; the others and their rounds stay
  have hframe : (s.removeDevice id).daliDevices = s.daliDevices.erase id ∧
      (s.removeDevice id).device = s.device ∧ (s.removeDevice id).round = s.round ∧
      (s.removeDevice id).removed = s.removed ++ [id] ∧
      (s.removeDevice id).visited = s.visited ∧ (s.removeDevice id).ended = s.ended := by
    by_cases hmem : id ∈ s.devices <;> simp [State.removeDevice, hmem]
  obtain ⟨hdali, hdevice, hround, hremoved, hvisited, hended⟩ := hframe
  have hleft : ∀ other, other ≠ id → other ∈ done ++ todo →
      other ∈ done.erase id ++ todo.erase id := by
    intro other hne hother
    rw [List.mem_append] at hother ⊢
    exact hother.imp (List.mem_erase_of_ne hne).2 (List.mem_erase_of_ne hne).2
  exact
    { devices := (devices_removeDevice h id).1
      index := (devices_removeDevice h id).2
      nodup := hdali ▸ h.nodup.erase id
      devicesNodup := h.devicesNodup.sublist (List.erase_sublist.append List.erase_sublist)
      outside := by
        intro other hother hnot
        rw [hdali, h.nodup.mem_erase_iff] at hother
        rw [hdevice]
        exact h.outside other hother.2 fun hmem => hnot (hleft other hother.1 hmem)
      finished := by
        rw [hdevice, hvisited, hended]
        exact fun other hother => h.finished other (List.mem_of_mem_erase hother)
      waiting := by
        rw [hdevice, hvisited]
        exact fun other hother => h.waiting other (tail_erase_subset id todo hother)
      current := by
        rw [hdevice, hvisited]
        intro other hother
        rcases head?_erase hother with hhead | htail
        · exact h.current other hhead
        · obtain ⟨hnot, hnone⟩ := h.waiting other htail
          exact iff_of_false hnot fun hsome => hsome hnone
      notEnded := by
        rw [hended]
        exact fun other hother => h.notEnded other (List.mem_of_mem_erase hother)
      visitedNodup := hvisited ▸ h.visitedNodup
      covers := by
        intro other hother
        rw [hremoved]
        rw [hround] at hother
        by_cases heq : other = id
        -- a device that is removed in its round counts as gone
        · exact .inr (List.mem_append_right _ (List.mem_singleton.2 heq))
        · exact (h.covers other hother).imp (hleft other heq) (List.mem_append_left _) }

lemma Inv.removeDevice (h : Inv s []) (id : ℕ) : Inv (s.removeDevice id) [] := by
  obtain ⟨done, todo, hposition⟩ := h.position
  refine ⟨⟨_, _, hposition.removeDevice id⟩, fun other hother => ?_, nofun, List.nodup_nil⟩
  have hmem : other ∈ s.devices := by
    rw [(devices_removeDevice hposition id).1] at hother
    rw [hposition.devices]
    exact (List.erase_sublist.append List.erase_sublist).subset hother
  by_cases hid : id ∈ s.devices
  · refine (h.kept other hmem).congr ?_ ?_ ?_ ?_ <;> simp [State.removeDevice, hid]
  · refine (h.kept other hmem).congr ?_ ?_ ?_ ?_ <;> simp [State.removeDevice, hid]

lemma Position.todo_eq_nil (h : Position s done todo) (hempty : s.isEmpty = true) : todo = [] := by
  rw [State.isEmpty, decide_eq_true_iff, h.devices, h.index, List.length_append] at hempty
  exact List.length_eq_zero_iff.1 (by omega)

/-- The devices of the next round have nothing left from this one. -/
lemma Inv.setDevices (h : Inv s []) (hempty : s.isEmpty = true) : Inv s.setDevices [] := by
  obtain ⟨done, todo, hposition⟩ := h.position
  obtain rfl := hposition.todo_eq_nil hempty
  have hnone : ∀ id ∈ s.daliDevices, (s.device id).currentRound = [] := by
    intro id hid
    by_cases hdone : id ∈ done
    · exact (hposition.finished id hdone).2.2
    · exact hposition.outside id hid (by simpa using hdone)
  refine ⟨⟨[], s.daliDevices, ?_⟩, fun id hid => ?_, nofun, List.nodup_nil⟩
  · exact
      { devices := rfl
        index := rfl
        nodup := hposition.nodup
        devicesNodup := hposition.nodup
        outside := fun id hid hnot => absurd hid hnot
        finished := nofun
        waiting := fun id hid => ⟨nofun, hnone id (List.mem_of_mem_tail hid)⟩
        current := fun id hid => iff_of_false nofun fun hsome =>
          hsome (hnone id (List.mem_of_mem_head? hid))
        notEnded := fun _ _ => nofun
        visitedNodup := List.nodup_nil
        covers := fun id hid => .inl hid }
  · have hround : (s.setDevices.device id).currentRound = [] := hnone id hid
    exact ⟨hround ▸ List.nodup_nil, nofun, fun number hnumber => absurd hnumber (by simp [hround])⟩

lemma Inv.start {daliDevices : List ℕ} (h : daliDevices.Nodup) (device : ℕ → DaliDevice) (now : ℚ) :
    Inv (State.start daliDevices device now) [] where
  position := ⟨[], [],
    { devices := rfl
      index := rfl
      nodup := h
      devicesNodup := List.nodup_nil
      outside := fun _ _ _ => rfl
      finished := nofun
      waiting := nofun
      current := nofun
      notEnded := nofun
      visitedNodup := List.nodup_nil
      covers := nofun }⟩
  kept := nofun
  goesOn := nofun
  nodup := List.nodup_nil

theorem inv_of_reachable (h : transition.Reachable s) : Inv s [] := by
  refine Transition.Reach.invariant (I := fun s => Inv s []) ?_ ?_ h
  · rintro _ ⟨daliDevices, device, now, hnodup, rfl⟩
    exact .start hnodup device now
  · rintro s event s' hinv - hstep
    cases event with
    | setDevices =>
      obtain ⟨hempty, rfl⟩ : s.isEmpty = true ∧ s.setDevices = s' := by
        simpa [transition] using hstep
      exact hinv.setDevices hempty
    | poll elapsed uniform outcome =>
      obtain rfl := Option.some.inj hstep
      exact hinv.poll elapsed uniform outcome
    | cancelPendingPoll id number =>
      obtain rfl := Option.some.inj hstep
      exact hinv.cancelPendingPoll id number
    | removeDevice id =>
      obtain rfl := Option.some.inj hstep
      exact hinv.removeDevice id

/-- At most three commands, or one chunk of a DT51 gear and nothing else. -/
def KeepsBudget (plan : List Planned) : Prop := commands plan ≤ 3 ∨ IsLoneChunk plan

lemma Fits.keepsBudget (h : Fits defaultMaxCommands plan) : KeepsBudget plan := by
  rcases h.le with rfl | hle | ⟨-, hchunk⟩
  · exact .inl (by simp)
  · simp only [defaultMaxCommands] at hle
    exact .inl (by omega)
  · exact .inr hchunk

/-- A tick plans something or ends the visit of a device. -/
def State.Progresses (s s' : State) (plan : List Planned) : Prop :=
  plan ≠ [] ∨ ∃ id ∈ s.devices, id ∉ s.ended ∧ id ∈ s'.ended

/-- The device is visited once, and all that was due when the visit began is completed or
cancelled. -/
def State.VisitedOnce (s : State) (id : ℕ) : Prop :=
  s.visited.count id = 1 ∧ ∀ number ∈ s.due id, number ∈ s.resolved id

/-- The visits whose end the scheduler has reached are all that they should be. -/
lemma Inv.visitedOnce (h : Inv s []) (hround : id ∈ s.round) (hremoved : id ∉ s.removed)
    (hended : id ∈ s.ended) : s.VisitedOnce id := by
  obtain ⟨done, todo, hposition⟩ := h.position
  have hmem := (hposition.covers id hround).resolve_right hremoved
  have hdone : id ∈ done := by
    rcases List.mem_append.1 hmem with hdone | htodo
    · exact hdone
    · exact absurd hended (hposition.notEnded id htodo)
  obtain ⟨hvisited, -, hnone⟩ := hposition.finished id hdone
  refine ⟨List.count_eq_one_of_mem hposition.visitedNodup hvisited, fun number hnumber => ?_⟩
  have hsettled := (h.kept id (hposition.devices ▸ hmem)).settled number hnumber
  simpa [hnone] using hsettled

/-- Whatever the devices of a round are and whatever happens between the ticks, a tick keeps to its
budget and makes progress, no device is visited twice, and when the round is over each of its
devices that is not removed has had its visit. -/
theorem pollRound (h : transition.Reachable s) :
    (∀ elapsed uniform, KeepsBudget (s.plan elapsed uniform).2 ∧
      (s.isEmpty = false →
        s.Progresses (s.plan elapsed uniform).1 (s.plan elapsed uniform).2)) ∧
    (∀ id ∈ s.round, id ∉ s.removed → s.visited.count id ≤ 1 ∧
      (id ∈ s.ended → s.VisitedOnce id) ∧ (s.isEmpty = true → id ∈ s.ended)) := by
  have hinv := inv_of_reachable h
  refine ⟨fun elapsed uniform => ?_, fun id hround hremoved => ⟨?_, ?_, ?_⟩⟩
  · obtain ⟨-, done, todo, hposition, hplans⟩ := hinv.tick elapsed uniform
    refine ⟨hplans.fits.keepsBudget, fun hempty => ?_⟩
    have htodo : todo ≠ [] := by
      rintro rfl
      simp [State.isEmpty, hposition.devices, hposition.index] at hempty
    refine (hplans.progresses rfl htodo).imp_right ?_
    rintro ⟨id, hid, hnot, hended⟩
    exact ⟨id, hposition.devices ▸ List.mem_append_right _ hid, hnot, hended⟩
  · obtain ⟨done, todo, hposition⟩ := hinv.position
    exact List.nodup_iff_count_le_one.1 hposition.visitedNodup id
  · exact hinv.visitedOnce hround hremoved
  · intro hempty
    obtain ⟨done, todo, hposition⟩ := hinv.position
    obtain rfl := hposition.todo_eq_nil hempty
    have hmem := (hposition.covers id hround).resolve_right hremoved
    exact (hposition.finished id (by simpa using hmem)).2.1

/-- A DT8 gear that is read by its coordinates. -/
def colourGear : DaliDevice where
  pollables := [0, 1]
  nodup := by decide
  pollable number :=
    if number = 0 then .singleQueryControl {} else .type8Parameters ⟨{}, some .xy, none⟩

/-- A DT51 gear, whose controls come after its energy. -/
def energyGear : DaliDevice where
  pollables := [0, 1]
  nodup := by decide
  pollable number :=
    if number = 0 then .type51Parameters ⟨{}, none, none⟩ else .singleQueryControl {}

/-- A gear with one control. -/
def plainGear : DaliDevice where
  pollables := [0]
  nodup := by decide
  pollable _ := .singleQueryControl {}

/-- A scheduler with four gear. -/
def fourGear : State :=
  State.start [0, 1, 2, 3] (fun id =>
    if id = 0 then colourGear else if id = 1 then energyGear else plainGear) 0

lemma fourGear_init : transition.init fourGear := ⟨_, _, _, by decide, rfl⟩

/-- A tick a second after the one before it.  The gear answers each query with the colour type
of coordinates, or all coroutines of the tick fail. -/
def tick (isAnswered : Bool) : Event :=
  .poll 1 (fun _ _ => 0) fun _ _ => if isAnswered then some fun _ => 16 else none

/-- The colour takes four ticks; then the last gear is removed, and the energy is on its way. -/
def readsEnergy : List Event :=
  .setDevices :: List.replicate 4 (tick true) ++ [.removeDevice 3, tick true]

/-- The first chunk of the energy is lost, and the round is finished without it. -/
def losesEnergy : List Event := readsEnergy ++ [tick false, tick true]

theorem pollRound_fourGear :
    (∃ s, transition.Reachable s ∧ (s.plan 1 fun _ _ => 0).2 = [⟨1, 0, .chunk, 4⟩] ∧
      KeepsBudget (s.plan 1 fun _ _ => 0).2 ∧
      s.Progresses (s.plan 1 fun _ _ => 0).1 (s.plan 1 fun _ _ => 0).2) ∧
    ∃ s, transition.Reachable s ∧ s.isEmpty = true ∧ s.round = [0, 1, 2, 3] ∧
      s.due 0 = [0, 1] ∧ s.due 1 = [0, 1] ∧ ∀ id ∈ [0, 1, 2], s.VisitedOnce id := by
  constructor
  · have hrun : (transition.run (fun _ _ => True) fourGear readsEnergy).any (fun s =>
        s.isEmpty = false ∧ (s.plan 1 fun _ _ => 0).2 = [⟨1, 0, .chunk, 4⟩]) = true := by
      decide +kernel
    obtain ⟨s, hs, hany⟩ := (Option.any_eq_true _ _).1 hrun
    obtain ⟨hempty, hplan⟩ := of_decide_eq_true hany
    have hreach := (Transition.Reach.init fourGear_init).run hs
    obtain ⟨hbudget, hprogress⟩ := (pollRound hreach).1 1 fun _ _ => 0
    exact ⟨s, hreach, hplan, hbudget, hprogress hempty⟩
  · have hrun : (transition.run (fun _ _ => True) fourGear losesEnergy).any (fun s =>
        s.isEmpty = true ∧ s.round = [0, 1, 2, 3] ∧ s.removed = [3] ∧
          s.due 0 = [0, 1] ∧ s.due 1 = [0, 1]) = true := by
      decide +kernel
    obtain ⟨s, hs, hany⟩ := (Option.any_eq_true _ _).1 hrun
    obtain ⟨hempty, hround, hremoved, hcolour, henergy⟩ := of_decide_eq_true hany
    have hreach := (Transition.Reach.init fourGear_init).run hs
    refine ⟨s, hreach, hempty, hround, hcolour, henergy, fun id hid => ?_⟩
    have hmem : id ∈ s.round ∧ id ∉ s.removed := by
      rw [hround, hremoved]
      revert id
      decide
    obtain ⟨-, hvisited, hended⟩ := (pollRound hreach).2 id hmem.1 hmem.2
    exact hvisited (hended hempty)

end Runs

end WbMqttDali.PollRound
