import Mathlib
import WbMqttDali.Controller.FetchScheduler
import WbMqttDali.Controller.InitScheduler

/-!
# The steps of the polling loop

In a step the loop tries the devices that are new, or polls, or tries one device again, or
fetches a setting.  Polls and further attempts take turns, so that neither a busy bus nor devices
that do not answer hold the other ones up.  Between the steps the loop executes tasks, among them
the take-over of the devices that commissioning has found, and callers publish devices anew.
-/

namespace WbMqttDali.PollStep

open WbMqttDali.InitScheduler WbMqttDali.InitScheduler.DeviceInitScheduler

/-- The settings of a device, which are different objects. -/
structure Handlers where
  params : List FetchScheduler.Param
  nodup : (params.map FetchScheduler.Param.number).Nodup

/-- What comes of an attempt to initialize a device and to publish it. -/
inductive InitOutcome where
  | success
  | initializeFails
  /-- The device is initialized all the same. -/
  | publishFails
  /-- The task is cancelled, before the device is initialized or behind it. -/
  | cancelled (isInitialized : Bool)
  deriving DecidableEq, Repr

/-- An attempt, and how long it takes. -/
structure Attempt where
  outcome : InitOutcome
  duration : ℚ≥0
  /-- Publishing the error, or refreshing the virtual devices, raises. -/
  raises : Bool := false

structure PollScheduler where
  devices : List ℕ := []
  currentDeviceIndex : ℕ := 0
  pollTurn : Bool := false
  /-- How often the devices have been polled. -/
  polls : ℕ := 0

namespace PollScheduler

variable (s : PollScheduler)

def isEmpty : Bool := s.devices.length ≤ s.currentDeviceIndex

def clear : PollScheduler := { s with devices := [], currentDeviceIndex := 0 }

/-- `remove_device` -/
def removeDevice (device : ℕ) : PollScheduler :=
  let index := s.devices.idxOf device
  if device ∈ s.devices then
    { s with
      devices := s.devices.eraseIdx index
      currentDeviceIndex :=
        if index < s.currentDeviceIndex then s.currentDeviceIndex - 1 else s.currentDeviceIndex }
  else s

end PollScheduler

/-- `_polling_task`; an exception of a step ends it. -/
inductive PollingTask where
  | none
  | running
  | failed
  deriving DecidableEq, Repr

/-- The take-over of the devices of one kind, behind the removal of those that are gone. -/
structure TakeOver where
  isDali : Bool
  /-- `unchanged_devices` -/
  unchanged : List ℕ
  /-- The devices of `created_devices` that have been tried. -/
  created : List ℕ := []

/-- The polling loop with the devices of the bus, which are objects by their numbers. -/
structure State (Id : Type) where
  daliDevices : List ℕ
  dali2Devices : List ℕ
  mqttId : ℕ → Id
  handlers : ℕ → Handlers
  /-- A virtual device counts as initialized: it is not tried either. -/
  isInitialized : ℕ → Bool
  devicesByMqttId : Dict Id ℕ := ∅
  initScheduler : DeviceInitScheduler Id := {}
  pollScheduler : PollScheduler := {}
  fetchScheduler : FetchScheduler.State := {}
  pollingTask : PollingTask := .none
  takeOver : Option TakeOver := none
  /-- The clock, which goes on with every attempt. -/
  now : ℚ

/-- What a step meets with. -/
structure Tick where
  /-- The moment at which the step begins. -/
  now : ℚ
  attempt : ℕ → Attempt
  /-- How many devices `poll` gets done with, and whether `_poll_devices` raises then. -/
  polled : ℕ
  pollRaises : Bool := false
  /-- `time_until_next_poll` of the devices -/
  timeUntilNextPoll : ℚ
  fetchOutcome : FetchScheduler.FetchOutcome

namespace State

variable {Id : Type} [DecidableEq Id] (s : State Id)

/-- The devices of the bus. -/
def devices : List ℕ := s.daliDevices ++ s.dali2Devices

/-- The list of the devices of a kind. -/
def list (isDali : Bool) : List ℕ := if isDali then s.daliDevices else s.dali2Devices

/-- The devices that the bus has when a take-over goes through. -/
def live : List ℕ :=
  match s.takeOver with
  | none => s.devices
  | some takeOver =>
    s.list (!takeOver.isDali) ++ (takeOver.unchanged ++ takeOver.created)

/-- The loop is between two steps or tasks. -/
def isIdle : Bool := s.pollingTask = .running && s.takeOver.isNone

def setInitialized (device : ℕ) (isInitialized : Bool) : State Id :=
  { s with isInitialized := Function.update s.isInitialized device isInitialized }

/-- `try_initialize_device`, with what `_do_init_device` does behind a success, and whether it
raises; `start` is the moment that failures are recorded with. -/
def tryInitializeDevice (device : ℕ) (start : ℚ) (attempt : Attempt) : State Id × Bool :=
  let s := { s with now := s.now + attempt.duration }
  let mqttId := s.mqttId device
  match attempt.outcome with
  | .success =>
    ({ s.setInitialized device true with
        initScheduler := s.initScheduler.remove mqttId
        fetchScheduler := s.fetchScheduler.addDevice device (s.handlers device).params },
      attempt.raises)
  | .initializeFails =>
    ({ s with initScheduler := s.initScheduler.recordFailure mqttId start }, attempt.raises)
  | .publishFails =>
    ({ s.setInitialized device true with
        initScheduler := s.initScheduler.recordFailure mqttId start }, attempt.raises)
  | .cancelled isInitialized => (s.setInitialized device isInitialized, true)

/-- `_do_init_device`, and whether it raises -/
def doInitDevice (mqttId : Id) (start : ℚ) (attempt : ℕ → Attempt) : State Id × Bool :=
  match s.devicesByMqttId.get? mqttId with
  | none => ({ s with initScheduler := s.initScheduler.remove mqttId }, false)
  | some device =>
    if s.isInitialized device then
      ({ s with initScheduler := s.initScheduler.remove mqttId }, false)
    else s.tryInitializeDevice device start (attempt device)

/-- The attempt that the scheduler has offered. -/
def tryDevice (tick : Tick) (mqttId : Id) : State Id × Bool :=
  let s := { s with initScheduler := s.initScheduler.begin mqttId s.now }
  s.doInitDevice mqttId tick.now tick.attempt

/-- The devices of a batch, one after the other. -/
def tryDevices (tick : Tick) : List Id → State Id → State Id × Bool
  | [], s => (s, false)
  | mqttId :: mqttIds, s =>
    if (s.tryDevice tick mqttId).2 then s.tryDevice tick mqttId
    else tryDevices tick mqttIds (s.tryDevice tick mqttId).1

/-- An exception ends the polling task. -/
def fail : State Id := { s with pollingTask := .failed }

/-- `set_devices` of the poll scheduler, where its round is over -/
def setDevices : State Id :=
  if s.pollScheduler.isEmpty then
    { s with
      pollScheduler :=
        { s.pollScheduler with
          devices := s.daliDevices.filter fun device => s.isInitialized device
          currentDeviceIndex := 0 } }
  else s

/-- `_poll_devices` -/
def pollDevices (polled : ℕ) : State Id :=
  { s with
    pollScheduler :=
      { s.pollScheduler with
        currentDeviceIndex :=
          min (s.pollScheduler.currentDeviceIndex + polled) s.pollScheduler.devices.length
        polls := s.pollScheduler.polls + 1 } }

def setPollTurn (pollTurn : Bool) : State Id :=
  { s with pollScheduler := { s.pollScheduler with pollTurn } }

/-- The wait behind a step that has done something. -/
def stepWait : ℚ := 1 / 1000

/-- The wait of an idle loop; without devices there is no next poll. -/
def idleWait (tick : Tick) : ℚ :=
  if s.pollScheduler.devices = [] then 1 else min 1 tick.timeUntilNextPoll

/-- The end of `_poll_step`, with nothing to try and nothing to poll -/
def idleStep (tick : Tick) : State Id × ℚ :=
  let s := s.setPollTurn true
  if !s.pollScheduler.isEmpty then (s, stepWait)
  else if 0 < s.idleWait tick then
    let fetch := s.fetchScheduler.fetchStep tick.fetchOutcome
    ({ s with fetchScheduler := fetch.1 }, if fetch.2 then stepWait else s.idleWait tick)
  else (s, s.idleWait tick)

/-- The part of `_poll_step` behind the poll -/
def retryStep (tick : Tick) : State Id × ℚ :=
  match s.initScheduler.getOneRetryReady tick.now with
  | some mqttId =>
    if (s.tryDevice tick mqttId).2 then ((s.tryDevice tick mqttId).1.fail, stepWait)
    else ((s.tryDevice tick mqttId).1.setPollTurn true, stepWait)
  | none => s.idleStep tick

/-- `_poll_step`, with the wait until the next one -/
def pollStep (tick : Tick) : State Id × ℚ :=
  let s := { s with now := tick.now }
  match s.initScheduler.getFirstAttemptReady tick.now with
  | mqttId :: mqttIds =>
    let batch := s.tryDevices tick (mqttId :: mqttIds)
    (if batch.2 then batch.1.fail else batch.1, stepWait)
  | [] =>
    if s.pollScheduler.pollTurn then
      let s := s.setDevices
      if !s.pollScheduler.isEmpty then
        if tick.pollRaises then ((s.pollDevices tick.polled).fail, stepWait)
        else ((s.pollDevices tick.polled).setPollTurn false, stepWait)
      -- the turn is not used up
      else s.retryStep tick
    else s.retryStep tick

/-! ### The tasks of the loop -/

/-- `_load_device_info_task` -/
def loadDeviceInfo (device : ℕ) (now : ℚ) (attempt : Attempt) : State Id :=
  let s := { s with now }
  if s.isInitialized device then s
  else (s.doInitDevice (s.mqttId device) now fun _ => attempt).1

/-- `_try_init_new_device`, and whether it raises -/
def tryInitNewDevice (device : ℕ) (now : ℚ) (attempt : Attempt) : State Id × Bool :=
  let s :=
    { s with
      now
      devicesByMqttId := s.devicesByMqttId.set (s.mqttId device) device
      initScheduler := s.initScheduler.schedule (s.mqttId device) now }
  s.doInitDevice (s.mqttId device) now fun _ => attempt

def setList (isDali : Bool) (devices : List ℕ) : State Id :=
  { s with
    daliDevices := if isDali then devices else s.daliDevices
    dali2Devices := if isDali then s.dali2Devices else devices }

/-- A new device is put into the list of its kind, which is sorted anew, and tried. -/
def addDevice (device : ℕ) (isDali : Bool) (sorted : List ℕ) (now : ℚ) (attempt : Attempt) :
    State Id :=
  ((s.setList isDali sorted).tryInitNewDevice device now attempt).1

/-- `_remove_device`; the poll scheduler has no DALI-2 devices. -/
def removeDevice (device : ℕ) : State Id :=
  { s with
    daliDevices := s.daliDevices.filter fun other => other ≠ device
    dali2Devices := s.dali2Devices.filter fun other => other ≠ device
    devicesByMqttId := s.devicesByMqttId.erase (s.mqttId device)
    initScheduler := s.initScheduler.remove (s.mqttId device)
    pollScheduler := s.pollScheduler.removeDevice device
    fetchScheduler := s.fetchScheduler.removeDevice device }

/-! ### The take-over -/

/-- What `_update_dali_devices` does with the id of a device that is gone. -/
def popDevice (mqttId : Id) : State Id :=
  { s with
    devicesByMqttId := s.devicesByMqttId.erase mqttId
    fetchScheduler :=
      match s.devicesByMqttId.get? mqttId with
      | some device => s.fetchScheduler.removeDevice device
      | none => s.fetchScheduler
    initScheduler := s.initScheduler.remove mqttId }

/-- `_update_dali_devices` or `_update_dali2_devices`, up to the first device that is created -/
def beginTakeOver (isDali : Bool) (removed unchanged : List ℕ) : State Id :=
  { (removed.map s.mqttId).foldl popDevice s with takeOver := some { isDali, unchanged } }

/-- The loop goes on behind commissioning with another round of polls. -/
def endCommissioning : State Id :=
  { s with takeOver := none, pollScheduler := s.pollScheduler.clear }

/-- The next one of `created_devices`; an exception leaves the rest out. -/
def tryCreated (takeOver : TakeOver) (device : ℕ) (now : ℚ) (attempt : Attempt) : State Id :=
  let result := s.tryInitNewDevice device now attempt
  if result.2 then result.1.endCommissioning
  else
    { result.1 with takeOver := some { takeOver with created := takeOver.created ++ [device] } }

/-- The list of the kind is replaced. -/
def replaceDevices (takeOver : TakeOver) (sorted : List ℕ) : State Id :=
  let index :=
    if takeOver.isDali then s.devicesByMqttId
    else
      takeOver.created.foldl (fun index device => index.set (s.mqttId device) device)
        s.devicesByMqttId
  { s.setList takeOver.isDali sorted with devicesByMqttId := index }.endCommissioning

/-! ### The start and the stop -/

/-- A device comes into the index and is scheduled at the start. -/
def startDevice (device : ℕ) : State Id :=
  { s with
    devicesByMqttId := s.devicesByMqttId.set (s.mqttId device) device
    initScheduler := s.initScheduler.schedule (s.mqttId device) s.now }

/-- `start` -/
def start (now : ℚ) : State Id :=
  s.devices.foldl startDevice { s with now, pollingTask := .running }

/-- `stop`; commissioning is cancelled first. -/
def stop : State Id :=
  let s := if s.takeOver.isSome then s.endCommissioning else s
  { s with pollingTask := .none, initScheduler := s.initScheduler.clear }

end State

inductive Event (Id : Type) where
  | start (now : ℚ)
  | stop
  | pollStep (tick : Tick)
  | loadDeviceInfo (device : ℕ) (now : ℚ) (attempt : Attempt)
  | addDevice (device : ℕ) (isDali : Bool) (sorted : List ℕ) (now : ℚ) (attempt : Attempt)
  | removeDevice (device : ℕ)
  /-- A task gives a device another MQTT id. -/
  | setMqttId (device : ℕ) (mqttId : Id)
  /-- A task has read a setting in full. -/
  | loaded (device number : ℕ)
  | beginTakeOver (isDali : Bool) (removed unchanged : List ℕ)
  | tryCreated (device : ℕ) (now : ℚ) (attempt : Attempt)
  | replaceDevices (sorted : List ℕ)
  /-- Commissioning is over, or cancelled, or has failed. -/
  | endCommissioning
  /-- A caller that publishes a device anew takes an id out of the index. -/
  | popIndex (mqttId : Id)
  /-- A caller puts a device that it has published into the index. -/
  | setIndex (device : ℕ)

variable {Id : Type} [DecidableEq Id]

/-- A device object is a new one. -/
def State.IsNew (s : State Id) (device : ℕ) : Prop :=
  device ∉ s.devices ∧ device ∉ s.live ∧ s.isInitialized device = false

instance (s : State Id) (device : ℕ) : Decidable (s.IsNew device) :=
  inferInstanceAs (Decidable (_ ∧ _ ∧ _))

/-- The steps and the tasks of the polling loop, one after the other, and what callers do
meanwhile. -/
def transition : Transition (State Id) (Event Id) where
  init s := ∃ daliDevices dali2Devices mqttId handlers isInitialized now,
    (daliDevices ++ dali2Devices).Nodup ∧
      (∀ device ∈ daliDevices ++ dali2Devices, isInitialized device = false) ∧
        s = { daliDevices, dali2Devices, mqttId, handlers, isInitialized, now }
  step
    | s, .start now => if s.pollingTask = .none ∧ s.now ≤ now then some (s.start now) else none
    | s, .stop => some s.stop
    | s, .pollStep tick => if s.isIdle ∧ s.now ≤ tick.now then some (s.pollStep tick).1 else none
    | s, .loadDeviceInfo device now attempt =>
      if s.isIdle ∧ s.now ≤ now then some (s.loadDeviceInfo device now attempt) else none
    | s, .addDevice device isDali sorted now attempt =>
      if s.isIdle ∧ s.now ≤ now ∧ s.IsNew device ∧ sorted.Perm (device :: s.list isDali) then
        some (s.addDevice device isDali sorted now attempt)
      else none
    | s, .removeDevice device => if s.isIdle then some (s.removeDevice device) else none
    | s, .setMqttId device mqttId =>
      if s.isIdle ∧ s.isInitialized device = true then
        some { s with mqttId := Function.update s.mqttId device mqttId }
      else none
    | s, .loaded device number =>
      some { s with fetchScheduler := s.fetchScheduler.loaded device number }
    | s, .beginTakeOver isDali removed unchanged =>
      if s.isIdle ∧ removed ⊆ s.list isDali ∧ unchanged.Sublist (s.list isDali) then
        some (s.beginTakeOver isDali removed unchanged)
      else none
    | s, .tryCreated device now attempt =>
      s.takeOver.bind fun takeOver =>
        if s.now ≤ now ∧ s.IsNew device then some (s.tryCreated takeOver device now attempt)
        else none
    | s, .replaceDevices sorted =>
      s.takeOver.bind fun takeOver =>
        if sorted.Perm (takeOver.unchanged ++ takeOver.created) then
          some (s.replaceDevices takeOver sorted)
        else none
    | s, .endCommissioning =>
      if s.pollingTask = .running then some s.endCommissioning else none
    | s, .popIndex mqttId => some { s with devicesByMqttId := s.devicesByMqttId.erase mqttId }
    | s, .setIndex device =>
      if s.isInitialized device = true then
        some { s with devicesByMqttId := s.devicesByMqttId.set (s.mqttId device) device }
      else none

namespace State

variable {s s' : State Id} {device : ℕ} {mqttId : Id} {now start : ℚ} {tick : Tick} {raises : Bool}

/-! ### What an attempt does -/

/-- The index has a device that is not initialized under its MQTT id. -/
def IsKeyed (s : State Id) : Prop :=
  ∀ mqttId device, s.devicesByMqttId.get? mqttId = some device → s.isInitialized device = false →
    s.mqttId device = mqttId

/-- All that an attempt may do with the device of an id; the step or task of the attempt began at
`start`. -/
inductive Attempts (s : State Id) (mqttId : Id) (start : ℚ) : State Id → Bool → Prop
  | skips
      (hdone : ∀ device, s.devicesByMqttId.get? mqttId = some device →
        s.isInitialized device = true) :
      Attempts s mqttId start { s with initScheduler := s.initScheduler.remove mqttId } false
  | succeeds {device : ℕ} (hget : s.devicesByMqttId.get? mqttId = some device)
      (hinit : s.isInitialized device = false) (duration : ℚ≥0) (raises : Bool) :
      Attempts s mqttId start
        { s.setInitialized device true with
          now := s.now + duration
          initScheduler := s.initScheduler.remove mqttId
          fetchScheduler := s.fetchScheduler.addDevice device (s.handlers device).params }
        raises
  | fails {device : ℕ} (hget : s.devicesByMqttId.get? mqttId = some device)
      (hinit : s.isInitialized device = false) (isInitialized : Bool) (duration : ℚ≥0)
      (raises : Bool) :
      Attempts s mqttId start
        { s.setInitialized device isInitialized with
          now := s.now + duration
          initScheduler := s.initScheduler.recordFailure mqttId start }
        raises
  | isCancelled {device : ℕ} (hget : s.devicesByMqttId.get? mqttId = some device)
      (hinit : s.isInitialized device = false) (isInitialized : Bool) (duration : ℚ≥0) :
      Attempts s mqttId start
        { s.setInitialized device isInitialized with now := s.now + duration } true

omit [DecidableEq Id] in
lemma setInitialized_false (h : s.isInitialized device = false) :
    s.setInitialized device false = s := by
  have hsame : Function.update s.isInitialized device false = s.isInitialized := by
    rw [Function.update_eq_self_iff, h]
  rw [setInitialized, hsame]

omit [DecidableEq Id] in
lemma isInitialized_setInitialized {isInitialized : Bool} {other : ℕ}
    (h : (s.setInitialized device isInitialized).isInitialized other = false)
    (hinit : s.isInitialized device = false) : s.isInitialized other = false := by
  by_cases heq : other = device
  · rw [heq, hinit]
  · exact (Function.update_of_ne heq _ _).symm.trans h

lemma attempts_doInitDevice (h : s.IsKeyed) (mqttId : Id) (start : ℚ) (attempt : ℕ → Attempt) :
    s.Attempts mqttId start (s.doInitDevice mqttId start attempt).1
      (s.doInitDevice mqttId start attempt).2 := by
  rw [doInitDevice]
  cases hget : s.devicesByMqttId.get? mqttId with
  | none =>
    refine .skips fun device hsome => ?_
    rw [hget] at hsome
    cases hsome
  | some device =>
    simp only
    split
    case isTrue hinit =>
      refine .skips fun other hsome => ?_
      rw [hget] at hsome
      rwa [← Option.some.inj hsome]
    case isFalse hinit =>
      rw [Bool.not_eq_true] at hinit
      have hid := h mqttId device hget hinit
      rw [tryInitializeDevice]
      cases (attempt device).outcome with
      | success =>
        simp only [hid]
        exact .succeeds hget hinit (attempt device).duration (attempt device).raises
      | initializeFails =>
        simp only [hid]
        have hfails : s.Attempts mqttId start _ _ :=
          .fails hget hinit false (attempt device).duration (attempt device).raises
        rw [setInitialized_false hinit] at hfails
        exact hfails
      | publishFails =>
        simp only [hid]
        exact .fails hget hinit true (attempt device).duration (attempt device).raises
      | cancelled isInitialized =>
        exact .isCancelled hget hinit isInitialized (attempt device).duration

/-- What the steps of the loop leave alone: the devices, their ids and the index. -/
structure SameBus (s s' : State Id) : Prop where
  daliDevices : s'.daliDevices = s.daliDevices
  dali2Devices : s'.dali2Devices = s.dali2Devices
  mqttId : s'.mqttId = s.mqttId
  devicesByMqttId : s'.devicesByMqttId = s.devicesByMqttId
  takeOver : s'.takeOver = s.takeOver
  le : s.now ≤ s'.now
  isInitialized : ∀ device, s.isInitialized device = true → s'.isInitialized device = true

namespace SameBus

omit [DecidableEq Id] in
lemma refl : s.SameBus s := ⟨rfl, rfl, rfl, rfl, rfl, le_rfl, fun _ => id⟩

omit [DecidableEq Id] in
lemma trans {s'' : State Id} (h : s.SameBus s') (h' : s'.SameBus s'') : s.SameBus s'' where
  daliDevices := h'.daliDevices.trans h.daliDevices
  dali2Devices := h'.dali2Devices.trans h.dali2Devices
  mqttId := h'.mqttId.trans h.mqttId
  devicesByMqttId := h'.devicesByMqttId.trans h.devicesByMqttId
  takeOver := h'.takeOver.trans h.takeOver
  le := h.le.trans h'.le
  isInitialized device hinit := h'.isInitialized device (h.isInitialized device hinit)

omit [DecidableEq Id] in
lemma devices (h : s.SameBus s') : s'.devices = s.devices := by
  rw [State.devices, h.daliDevices, h.dali2Devices, State.devices]

omit [DecidableEq Id] in
lemma live (h : s.SameBus s') : s'.live = s.live := by
  simp only [State.live, list, h.takeOver, h.devices, h.daliDevices, h.dali2Devices]

omit [DecidableEq Id] in
/-- What is not initialized yet was not before. -/
lemma of_false (h : s.SameBus s') (hinit : s'.isInitialized device = false) :
    s.isInitialized device = false := by
  by_contra hnot
  rw [Bool.not_eq_false] at hnot
  rw [h.isInitialized device hnot] at hinit
  cases hinit

end SameBus

namespace Attempts

lemma sameBus (h : s.Attempts mqttId start s' raises) : s.SameBus s' := by
  have hduration (duration : ℚ≥0) : s.now ≤ s.now + duration :=
    le_add_of_nonneg_right duration.coe_nonneg
  cases h with
  | skips hdone => exact ⟨rfl, rfl, rfl, rfl, rfl, le_rfl, fun _ => id⟩
  | succeeds hget hinit duration raises =>
    refine ⟨rfl, rfl, rfl, rfl, rfl, hduration duration, fun other hother => ?_⟩
    by_contra hnot
    rw [Bool.not_eq_true] at hnot
    rw [isInitialized_setInitialized hnot hinit] at hother
    cases hother
  | fails hget hinit isInitialized duration raises =>
    refine ⟨rfl, rfl, rfl, rfl, rfl, hduration duration, fun other hother => ?_⟩
    by_contra hnot
    rw [Bool.not_eq_true] at hnot
    rw [isInitialized_setInitialized hnot hinit] at hother
    cases hother
  | isCancelled hget hinit isInitialized duration =>
    refine ⟨rfl, rfl, rfl, rfl, rfl, hduration duration, fun other hother => ?_⟩
    by_contra hnot
    rw [Bool.not_eq_true] at hnot
    rw [isInitialized_setInitialized hnot hinit] at hother
    cases hother

lemma pollScheduler (h : s.Attempts mqttId start s' raises) :
    s'.pollScheduler = s.pollScheduler := by
  cases h <;> rfl

lemma pollingTask (h : s.Attempts mqttId start s' raises) : s'.pollingTask = s.pollingTask := by
  cases h <;> rfl

/-- The other ids stay as pending as they are. -/
lemma get?_of_ne (h : s.Attempts mqttId start s' raises) {other : Id} (hne : other ≠ mqttId) :
    s'.initScheduler.pending.get? other = s.initScheduler.pending.get? other := by
  cases h with
  | skips hdone => exact get?_remove_of_ne hne
  | succeeds hget hinit duration raises => exact get?_remove_of_ne hne
  | fails hget hinit isInitialized duration raises => exact get?_recordFailure_of_ne hne
  | isCancelled hget hinit isInitialized duration => rfl

lemma mem_keys_of_ne (h : s.Attempts mqttId start s' raises) {other : Id} (hne : other ≠ mqttId)
    (hmem : other ∈ s.initScheduler.pending.keys) : other ∈ s'.initScheduler.pending.keys := by
  rw [Dict.mem_keys_iff] at hmem ⊢
  rwa [h.get?_of_ne hne]

/-- The device of the id stays pending unless it is initialized then. -/
lemma mem_keys (h : s.Attempts mqttId start s' raises)
    (hget : s.devicesByMqttId.get? mqttId = some device) (hinit : s'.isInitialized device = false)
    (hmem : mqttId ∈ s.initScheduler.pending.keys) : mqttId ∈ s'.initScheduler.pending.keys := by
  cases h with
  | skips hdone =>
    have htrue := hdone device hget
    rw [show s.isInitialized device = false from hinit] at htrue
    cases htrue
  | @succeeds other hget' hinit' duration raises =>
    rw [hget] at hget'
    cases Option.some.inj hget'
    simp [setInitialized] at hinit
  | fails hget' hinit' isInitialized duration raises =>
    show mqttId ∈ (s.initScheduler.recordFailure mqttId start).pending.keys
    rw [recordFailure]
    split
    · exact hmem
    · exact Dict.mem_keys_set.2 (.inl rfl)
  | isCancelled hget' hinit' isInitialized duration => exact hmem

lemma punctual (h : s.Attempts mqttId start s' raises) (hs : s.initScheduler.Punctual start) :
    s'.initScheduler.Punctual start := by
  cases h with
  | skips hdone => exact hs.remove
  | succeeds hget hinit duration raises => exact hs.remove
  | fails hget hinit isInitialized duration raises => exact hs.recordFailure
  | isCancelled hget hinit isInitialized duration => exact hs

end Attempts

/-! ### The invariant -/

/-- Every device of the bus that is not initialized is to be tried, if the index has it. -/
structure Tracked (s : State Id) : Prop where
  nodup : s.devices.Nodup
  live_nodup : s.live.Nodup
  isKeyed : s.IsKeyed
  pending : s.pollingTask ≠ .none → ∀ device, device ∈ s.devices ∨ device ∈ s.live →
    s.devicesByMqttId.get? (s.mqttId device) = some device → s.isInitialized device = false →
      s.mqttId device ∈ s.initScheduler.pending.keys

/-- The device that was created last with an id is to be tried, whatever the index has. -/
def CreatedPending (s : State Id) : Prop :=
  ∀ takeOver ∈ s.takeOver, ∀ mqttId device,
    (takeOver.created.reverse.find? fun other => s.mqttId other = mqttId) = some device →
      s.isInitialized device = false → mqttId ∈ s.initScheduler.pending.keys

/-- Initialized gear of the bus is polled, and settings of initialized devices are fetched. -/
structure Served (s : State Id) : Prop where
  fetchScheduler : s.fetchScheduler.Inv
  fetches : ∀ entry ∈ s.fetchScheduler.entries, s.isInitialized entry.device = true
  polls : ∀ device ∈ s.pollScheduler.devices,
    device ∈ s.daliDevices ∧ s.isInitialized device = true
  nodup_polls : s.pollScheduler.devices.Nodup

/-- What holds of the polling loop in a step or task that began at `start`. -/
structure Inv (s : State Id) (start : ℚ) : Prop where
  isRunning : s.takeOver ≠ none → s.pollingTask = .running
  tracked : s.Tracked
  createdPending : s.CreatedPending
  served : s.Served
  punctual : s.initScheduler.Punctual start
  start_le : start ≤ s.now

lemma Tracked.attempts (h : s.Tracked) (hattempts : s.Attempts mqttId start s' raises) :
    s'.Tracked := by
  have hsame := hattempts.sameBus
  refine ⟨hsame.devices ▸ h.nodup, hsame.live ▸ h.live_nodup, fun key device hget hinit => ?_,
    fun htask device hdevice hget hinit => ?_⟩
  · rw [hsame.devicesByMqttId] at hget
    rw [hsame.mqttId]
    exact h.isKeyed key device hget (hsame.of_false hinit)
  · rw [hsame.devicesByMqttId, hsame.mqttId] at hget
    rw [hsame.devices, hsame.live] at hdevice
    have hmem :=
      h.pending (hattempts.pollingTask ▸ htask) device hdevice hget (hsame.of_false hinit)
    rw [hsame.mqttId]
    by_cases heq : s.mqttId device = mqttId
    · rw [heq] at hget hmem ⊢
      exact hattempts.mem_keys hget hinit hmem
    · exact hattempts.mem_keys_of_ne heq hmem

/-- A device of the bus keeps its entries when its settings are registered anew. -/
lemma mem_entries_addDevice {fetch : FetchScheduler.State} {params : List FetchScheduler.Param}
    {entry : FetchScheduler.FetchEntry} (h : entry ∈ (fetch.addDevice device params).entries) :
    entry.device = device ∨ entry ∈ fetch.entries := by
  simp only [FetchScheduler.State.addDevice, FetchScheduler.State.removeDevice, List.mem_append,
    List.mem_filter, List.mem_map] at h
  rcases h with ⟨hentry, -⟩ | ⟨param, -, rfl⟩
  · exact .inr hentry
  · exact .inl rfl

/-- Settings are registered of a device only that the index had and that is initialized then. -/
lemma Attempts.mem_entries (h : s.Attempts mqttId start s' raises)
    {entry : FetchScheduler.FetchEntry}
    (hentry : entry ∈ s'.fetchScheduler.entries) :
    entry ∈ s.fetchScheduler.entries ∨
      s.devicesByMqttId.get? mqttId = some entry.device ∧ s.isInitialized entry.device = false ∧
        s'.isInitialized entry.device = true := by
  cases h with
  | skips hdone => exact .inl hentry
  | succeeds hget hinit duration raises =>
    rcases mem_entries_addDevice hentry with heq | hmem
    · rw [heq]
      exact .inr ⟨hget, hinit, Function.update_self _ _ _⟩
    · exact .inl hmem
  | fails hget hinit isInitialized duration raises => exact .inl hentry
  | isCancelled hget hinit isInitialized duration => exact .inl hentry

lemma Attempts.fetchScheduler (h : s.Attempts mqttId start s' raises)
    (hs : s.fetchScheduler.Inv) : s'.fetchScheduler.Inv := by
  cases h with
  | skips hdone => exact hs
  | @succeeds device hget hinit duration raises =>
    exact hs.addDevice device (s.handlers device).nodup
  | fails hget hinit isInitialized duration raises => exact hs
  | isCancelled hget hinit isInitialized duration => exact hs

lemma Served.attempts (h : s.Served) (hattempts : s.Attempts mqttId start s' raises) :
    s'.Served := by
  have hsame := hattempts.sameBus
  refine ⟨hattempts.fetchScheduler h.fetchScheduler, fun entry hentry => ?_,
    fun device hdevice => ?_, hattempts.pollScheduler ▸ h.nodup_polls⟩
  · rcases hattempts.mem_entries hentry with hold | ⟨-, -, hinit⟩
    · exact hsame.isInitialized _ (h.fetches entry hold)
    · exact hinit
  · rw [hattempts.pollScheduler] at hdevice
    obtain ⟨hmem, hinit⟩ := h.polls device hdevice
    exact ⟨hsame.daliDevices ▸ hmem, hsame.isInitialized device hinit⟩

lemma Inv.attempts (h : s.Inv start) (htakeOver : s.takeOver = none)
    (hattempts : s.Attempts mqttId start s' raises) : s'.Inv start where
  isRunning hsome := absurd (hattempts.sameBus.takeOver.trans htakeOver) hsome
  tracked := h.tracked.attempts hattempts
  createdPending takeOver hsome := by
    rw [hattempts.sameBus.takeOver, htakeOver] at hsome
    cases hsome
  served := h.served.attempts hattempts
  punctual := hattempts.punctual h.punctual
  start_le := h.start_le.trans hattempts.sameBus.le

/-- The loop comes back later. -/
lemma Inv.mono {later : ℚ} (h : s.Inv start) (hle : s.now ≤ later) :
    Inv { s with now := later } later :=
  ⟨h.isRunning,
    ⟨h.tracked.nodup, h.tracked.live_nodup, h.tracked.isKeyed, h.tracked.pending⟩,
    h.createdPending,
    ⟨h.served.fetchScheduler, h.served.fetches, h.served.polls, h.served.nodup_polls⟩,
    h.punctual.mono (h.start_le.trans hle), le_rfl⟩

end State

end WbMqttDali.PollStep
