import Mathlib
import WbMqttDali.Constants
import WbMqttDali.Driver.Commands

/-!
# Writing a control

A message on a control's `on` topic becomes a task; the polling loop pulls the waiting
tasks, lets the devices send the commands of their controls, resolves the futures, and
the handlers of the messages then publish the errors.  What happens to the frames is
chosen by the gateway.
-/

namespace WbMqttDali.Controller.ControlWrites

open Driver (Response isTransmissionErrorResponse)

/-! ### Sending commands with retries -/

/-- An exception other than a cancellation. -/
inductive Exception where
  | runtimeError (text : String)
  | valueError (text : String)
  | other (text : String)
  deriving DecidableEq

/-- What the driver does with the frames of a call of `send_commands`, counted by attempts. -/
structure Gateway where
  raises : ℕ → Option Exception
  response : ℕ → ℕ → Response

/-- `has_transmission_error` -/
def hasTransmissionError (responses : List Response) : Bool :=
  responses.any fun response => isTransmissionErrorResponse (some response)

/-- What a coroutine that sends commands did: the calls of `send_commands` it made, the
last one first, and how it ended. -/
structure Execution where
  attempts : List (Except Exception (List Response)) := []
  result : Except Exception Unit
  deriving DecidableEq

section Send

variable {κ : Type*} (gateway : Gateway) (commands : List κ)

/-- `WBDALIDriver.send_commands`: the responses are aligned with the commands. -/
def sendCommands (attempt : ℕ) : Except Exception (List Response) :=
  match gateway.raises attempt with
  | some e => .error e
  | none => .ok ((List.range commands.length).map (gateway.response attempt))

/-- The loop of `send_commands_with_retry`, with the attempts made so far. -/
def sendCommandsLoop : ℕ → ℕ → List (Except Exception (List Response)) → Execution
  | 0, _, attempts => ⟨attempts, .ok ()⟩
  | remaining + 1, attempt, attempts =>
    match sendCommands gateway commands attempt with
    | .error e => ⟨.error e :: attempts, .error e⟩
    | .ok responses =>
      if hasTransmissionError responses then
        sendCommandsLoop remaining (attempt + 1) (.ok responses :: attempts)
      else ⟨.ok responses :: attempts, .ok ()⟩

/-- `send_commands_with_retry`; its callers here drop the responses. -/
def sendCommandsWithRetry : Execution :=
  sendCommandsLoop gateway commands maxCommandRetries 1 []

end Send

/-! ### The three classes of devices -/

/-- `GearShort` or `DeviceShort`, `GearGroup`, and `GearBroadcast`. -/
inductive Address where
  | short (address : ℕ)
  | group (number : ℕ)
  | broadcast
  deriving DecidableEq

inductive ControlError where
  | none
  | read
  | write
  deriving DecidableEq

/-- `control_info.state` -/
structure ControlState where
  value : Option String
  error : ControlError
  isPushbutton : Bool

structure MqttControl (κ : Type*) where
  isWritable : Bool
  state : ControlState
  /-- `get_setup_commands`, which also reads the state of the control -/
  getSetupCommands : ControlState → Address → String → Except Exception (List κ)

/-- The controls of a device by their ids. -/
abbrev Controls (κ : Type*) := String → Option (MqttControl κ)

/-- The branch of `execute_control` that the three classes have in common. -/
def writeControl {κ : Type*} (controls : Controls κ) (address : Address) (gateway : Gateway)
    (controlId value : String) : Execution :=
  match controls controlId with
  | none => ⟨[], .ok ()⟩
  | some control =>
    if control.isWritable then
      match control.getSetupCommands control.state address value with
      | .error e => ⟨[], .error e⟩
      | .ok commands => sendCommandsWithRetry gateway commands
    else ⟨[], .ok ()⟩

structure DaliDeviceBase (κ : Type*) where
  name : String
  isInitialized : Bool
  short : ℕ
  controls : Controls κ

structure GroupVirtualDevice (κ : Type*) where
  number : ℕ
  controls : Controls κ

structure BroadcastVirtualDevice (κ : Type*) where
  controls : Controls κ

/-- `DaliDeviceBase.execute_control` -/
def DaliDeviceBase.executeControl {κ : Type*} (device : DaliDeviceBase κ) (gateway : Gateway)
    (controlId value : String) : Execution :=
  if device.isInitialized then
    writeControl device.controls (.short device.short) gateway controlId value
  else
    ⟨[], .error (.runtimeError ("Device " ++ device.name ++
      " is not initialized. Call initialize() before executing control."))⟩

/-- `GroupVirtualDevice.execute_control` -/
def GroupVirtualDevice.executeControl {κ : Type*} (device : GroupVirtualDevice κ)
    (gateway : Gateway) (controlId value : String) : Execution :=
  writeControl device.controls (.group device.number) gateway controlId value

/-- `BroadcastVirtualDevice.execute_control` -/
def BroadcastVirtualDevice.executeControl {κ : Type*} (device : BroadcastVirtualDevice κ)
    (gateway : Gateway) (controlId value : String) : Execution :=
  writeControl device.controls .broadcast gateway controlId value

/-- What `_devices_by_mqtt_id` holds. -/
inductive Device (κ : Type*) where
  | dali (device : DaliDeviceBase κ)
  | group (device : GroupVirtualDevice κ)
  | broadcast (device : BroadcastVirtualDevice κ)

namespace Device

variable {κ : Type*}

def executeControl : Device κ → Gateway → String → String → Execution
  | .dali device => device.executeControl
  | .group device => device.executeControl
  | .broadcast device => device.executeControl

def isInitialized : Device κ → Bool
  | .dali device => device.isInitialized
  | .group _ | .broadcast _ => true

def controls : Device κ → Controls κ
  | .dali device => device.controls
  | .group device => device.controls
  | .broadcast device => device.controls

def address : Device κ → Address
  | .dali device => .short device.short
  | .group device => .group device.number
  | .broadcast _ => .broadcast

/-- The commands a write of the control consists of, where it comes to sending them. -/
def commandsOf (device : Device κ) (controlId value : String) : Option (List κ) :=
  if device.isInitialized then
    (device.controls controlId).bind fun control =>
      if control.isWritable then
        (control.getSetupCommands control.state device.address value).toOption
      else none
  else none

end Device

/-! ### The polling loop and the handlers -/

/-- A future that is done. -/
inductive Future where
  | result
  | exception (e : Exception)
  | cancelled
  deriving DecidableEq

/-- A task with the value that was taken off its control: `(control_task, value_to_set)`. -/
structure PulledControl (κ : Type*) where
  device : Device κ
  controlId : String
  /-- the state of the control object the task was made for -/
  state : ControlState
  /-- the future was cancelled with the handler that waits for it -/
  isCancelled : Bool
  valueToSet : String
  gateway : Gateway

/-- What is left of a task when the loop is done with it. -/
structure Outcome where
  execution : Execution
  future : Future
  value : Option String
  deriving DecidableEq

section Loop

variable {κ : Type*} (pulled : PulledControl κ)

/-- The task is dropped: `_in_quiescent_mode`. -/
def dropQuiescent : Outcome where
  execution := ⟨[], .ok ()⟩
  future :=
    if pulled.isCancelled then .cancelled
    else .exception (.runtimeError "Cannot execute tasks while in quiescent mode")
  value := pulled.state.value

/-- The task's part in the loop over the gathered results. -/
def resolve (execution : Execution) : Outcome :=
  if pulled.isCancelled then ⟨execution, .cancelled, pulled.state.value⟩
  else
    match execution.result with
    | .error e => ⟨execution, .exception e, pulled.state.value⟩
    | .ok () => ⟨execution, .result, some pulled.valueToSet⟩

/-- `execute_control` of the task's device, as `gather` runs it. -/
def execution : Execution :=
  pulled.device.executeControl pulled.gateway pulled.controlId pulled.valueToSet

/-- The pass of the polling loop over a batch of control tasks. -/
def processControls (inQuiescentMode : Bool) (batch : List (PulledControl κ)) : List Outcome :=
  if inQuiescentMode then batch.map dropQuiescent
  else (batch.zip (batch.map execution)).map fun (pulled, result) => resolve pulled result

inductive Publication where
  | setControlError (error : ControlError)
  | setControlValue (value : String)
  deriving DecidableEq

/-- What `_handle_on_topic` asks the publisher for after `await task.future`. -/
def afterFuture (outcome : Outcome) : List Publication :=
  match outcome.future with
  | .result =>
    .setControlError .none ::
      match outcome.value with
      | some value => if pulled.state.isPushbutton then [.setControlValue value] else []
      | none => []
  | .exception _ => [.setControlError .write]
  -- the handler itself is being cancelled
  | .cancelled => []

end Loop

/-! ### Lost commands -/

/-- The last attempt of the execution, where there was one, had a transmission error. -/
def Execution.LastAttemptFailed (execution : Execution) : Prop :=
  ∃ responses, execution.attempts.head? = some (.ok responses) ∧ hasTransmissionError responses

/-- Every frame of the last attempt was transmitted. -/
def Execution.Transmitted (execution : Execution) : Prop :=
  ∀ attempt, execution.attempts.head? = some attempt →
    ∃ responses, attempt = .ok responses ∧ hasTransmissionError responses = false

/-- A lost command is reported, and an error is taken back only for commands that were
transmitted. -/
structure ReportedTruthfully {κ : Type*} (pulled : PulledControl κ) (outcome : Outcome) :
    Prop where
  task_fails : outcome.execution.LastAttemptFailed → ∃ e, outcome.future = .exception e
  error_write : outcome.execution.LastAttemptFailed →
    .setControlError .write ∈ afterFuture pulled outcome
  value_unchanged : outcome.execution.LastAttemptFailed → outcome.value = pulled.state.value
  cleared_only : .setControlError .none ∈ afterFuture pulled outcome →
    outcome.execution.Transmitted

/-- One of the attempts with the commands raises or has no transmission error. -/
def Gateway.Delivers {κ : Type*} (gateway : Gateway) (commands : List κ) : Prop :=
  ∃ attempt < maxCommandRetries, ∀ responses,
    sendCommands gateway commands (attempt + 1) = .ok responses →
      hasTransmissionError responses = false

/-- Whatever commands the write consists of, the gateway delivers them. -/
def PulledControl.Delivered {κ : Type*} (pulled : PulledControl κ) : Prop :=
  ∀ commands, pulled.device.commandsOf pulled.controlId pulled.valueToSet = some commands →
    pulled.gateway.Delivers commands

/-! ### What the retries leave -/

section Retry

variable {κ : Type*} {gateway : Gateway} {commands : List κ}

/-- The driver returns from the attempt, and some frame of it was not transmitted. -/
def AttemptFails (gateway : Gateway) (commands : List κ) (attempt : ℕ) : Prop :=
  ∃ responses, sendCommands gateway commands attempt = .ok responses ∧
    hasTransmissionError responses = true

lemma not_delivers_iff :
    ¬ gateway.Delivers commands ↔
      ∀ attempt < maxCommandRetries, AttemptFails gateway commands (attempt + 1) := by
  simp [Gateway.Delivers, AttemptFails]

/-- The loop ends behind a failed attempt exactly when all its attempts fail. -/
lemma lastAttemptFailed_loop_iff (remaining attempt : ℕ)
    (attempts : List (Except Exception (List Response))) :
    (sendCommandsLoop gateway commands (remaining + 1) attempt attempts).LastAttemptFailed ↔
      ∀ k < remaining + 1, AttemptFails gateway commands (attempt + k) := by
  induction remaining generalizing attempt attempts with
  | zero =>
    cases h : sendCommands gateway commands attempt with
    | error e => simp [sendCommandsLoop, h, Execution.LastAttemptFailed, AttemptFails]
    | ok responses =>
      by_cases hfail : hasTransmissionError responses = true <;>
        simp [sendCommandsLoop, h, hfail, Execution.LastAttemptFailed, AttemptFails]
  | succ remaining ih =>
    cases h : sendCommands gateway commands attempt with
    | error e =>
      have hfirst : ¬ AttemptFails gateway commands (attempt + 0) := by simp [AttemptFails, h]
      rw [sendCommandsLoop, h]
      refine iff_of_false ?_ fun hall => hfirst (hall 0 (by omega))
      simp [Execution.LastAttemptFailed]
    | ok responses =>
      by_cases hfail : hasTransmissionError responses = true
      · have hfirst : AttemptFails gateway commands (attempt + 0) := ⟨responses, h, hfail⟩
        rw [sendCommandsLoop, h]
        simp only [hfail, if_true]
        rw [ih]
        constructor
        · rintro hrest (_ | k) hk
          · exact hfirst
          · have := hrest k (by omega)
            rwa [Nat.add_assoc, Nat.add_comm 1 k] at this
        · intro hall k hk
          have := hall (k + 1) (by omega)
          rwa [Nat.add_comm k 1, ← Nat.add_assoc] at this
      · have hfirst : ¬ AttemptFails gateway commands (attempt + 0) := by
          simp [AttemptFails, h, hfail]
        rw [sendCommandsLoop, h]
        refine iff_of_false ?_ fun hall => hfirst (hall 0 (by omega))
        simp [hfail, Execution.LastAttemptFailed]

/-- An exception comes from the last attempt. -/
lemma result_loop (remaining attempt : ℕ) (attempts : List (Except Exception (List Response)))
    {e : Exception}
    (h : (sendCommandsLoop gateway commands remaining attempt attempts).result = .error e) :
    (sendCommandsLoop gateway commands remaining attempt attempts).attempts.head? =
      some (.error e) := by
  induction remaining generalizing attempt attempts with
  | zero => cases h
  | succ remaining ih =>
    rw [sendCommandsLoop] at h ⊢
    cases hsend : sendCommands gateway commands attempt with
    | error e' =>
      simp only [hsend] at h ⊢
      cases h
      rfl
    | ok responses =>
      simp only [hsend] at h ⊢
      split at h
      case isTrue hfail => simpa [hfail] using ih _ _ h
      case isFalse => cases h

/-- Where the loop does not raise, its last attempt returned. -/
lemma head_loop (remaining attempt : ℕ) (attempts : List (Except Exception (List Response)))
    (h : (sendCommandsLoop gateway commands (remaining + 1) attempt attempts).result = .ok ()) :
    ∃ responses, (sendCommandsLoop gateway commands (remaining + 1) attempt
      attempts).attempts.head? = some (.ok responses) := by
  induction remaining generalizing attempt attempts with
  | zero =>
    cases hsend : sendCommands gateway commands attempt with
    | error e => simp [sendCommandsLoop, hsend] at h
    | ok responses =>
      by_cases hfail : hasTransmissionError responses = true <;>
        exact ⟨responses, by simp [sendCommandsLoop, hsend, hfail]⟩
  | succ remaining ih =>
    rw [sendCommandsLoop] at h ⊢
    cases hsend : sendCommands gateway commands attempt with
    | error e => simp [hsend] at h
    | ok responses =>
      simp only [hsend] at h ⊢
      split at h
      case isTrue hfail => simpa only [hfail, if_true] using ih _ _ h
      case isFalse hfail => exact ⟨responses, by simp [hfail]⟩

lemma lastAttemptFailed_retry_iff :
    (sendCommandsWithRetry gateway commands).LastAttemptFailed ↔
      ¬ gateway.Delivers commands := by
  rw [not_delivers_iff, sendCommandsWithRetry, maxCommandRetries, lastAttemptFailed_loop_iff]
  simp only [Nat.add_comm 1]

end Retry

section Execute

variable {κ : Type*} (device : Device κ) (gateway : Gateway) (controlId value : String)

/-- Where commands are sent, the execution is their sending. -/
lemma executeControl_of_commandsOf {commands : List κ}
    (h : device.commandsOf controlId value = some commands) :
    device.executeControl gateway controlId value = sendCommandsWithRetry gateway commands := by
  unfold Device.commandsOf at h
  split at h
  case isFalse => cases h
  case isTrue hinit =>
    obtain ⟨control, hcontrol, hsome⟩ := Option.bind_eq_some_iff.1 h
    split at hsome
    case isFalse => cases hsome
    case isTrue hwritable =>
      cases hcommands : control.getSetupCommands control.state device.address value with
      | error e => simp [hcommands, Except.toOption] at hsome
      | ok commands' =>
        obtain rfl : commands' = commands := by simpa [hcommands, Except.toOption] using hsome
        rcases device with device | device | device <;>
          simp_all [Device.executeControl, DaliDeviceBase.executeControl,
            GroupVirtualDevice.executeControl, BroadcastVirtualDevice.executeControl,
            Device.controls, Device.address, Device.isInitialized, writeControl]

/-- Where no commands are sent, there is no attempt. -/
lemma attempts_of_commandsOf (h : device.commandsOf controlId value = none) :
    (device.executeControl gateway controlId value).attempts = [] := by
  have hwrite (controls : Controls κ) (address : Address)
      (h : ((controls controlId).bind fun control =>
        if control.isWritable then
          (control.getSetupCommands control.state address value).toOption else none) = none) :
      (writeControl controls address gateway controlId value).attempts = [] := by
    unfold writeControl
    cases hcontrol : controls controlId with
    | none => rfl
    | some control =>
      by_cases hwritable : control.isWritable = true
      · cases hcommands : control.getSetupCommands control.state address value with
        | error e => simp [hwritable, hcommands]
        | ok commands => simp [hcontrol, hwritable, hcommands, Except.toOption] at h
      · simp [hwritable]
  unfold Device.commandsOf at h
  split at h
  case isTrue hinit =>
    rcases device with device | device | device
    · have hinit : device.isInitialized = true := hinit
      have hnone := hwrite device.controls (.short device.short) h
      simpa [Device.executeControl, DaliDeviceBase.executeControl, hinit] using hnone
    · exact hwrite _ _ h
    · exact hwrite _ _ h
  case isFalse hinit =>
    rcases device with device | device | device
    · have hinit : ¬ device.isInitialized = true := hinit
      simp [Device.executeControl, DaliDeviceBase.executeControl, hinit]
    · exact absurd rfl hinit
    · exact absurd rfl hinit

end Execute

section Report

variable {κ : Type*} (pulled : PulledControl κ)

lemma lastAttemptFailed_iff : (execution pulled).LastAttemptFailed ↔ ¬ pulled.Delivered := by
  cases hcommands : pulled.device.commandsOf pulled.controlId pulled.valueToSet with
  | none =>
    have hattempts := attempts_of_commandsOf _ pulled.gateway _ _ hcommands
    refine iff_of_false ?_ fun h => h fun commands hsome => ?_
    · rintro ⟨responses, hlast, -⟩
      rw [execution, hattempts] at hlast
      cases hlast
    · rw [hcommands] at hsome
      cases hsome
  | some commands =>
    rw [execution, executeControl_of_commandsOf _ _ _ _ hcommands, lastAttemptFailed_retry_iff]
    simp [PulledControl.Delivered, hcommands]

/-- The retries never raise for a lost command. -/
lemma result_of_lastAttemptFailed (h : (execution pulled).LastAttemptFailed) :
    (execution pulled).result = .ok () := by
  obtain ⟨responses, hlast, -⟩ := h
  cases hcommands : pulled.device.commandsOf pulled.controlId pulled.valueToSet with
  | none =>
    rw [execution, attempts_of_commandsOf _ pulled.gateway _ _ hcommands] at hlast
    cases hlast
  | some commands =>
    rw [execution, executeControl_of_commandsOf _ _ _ _ hcommands] at hlast ⊢
    cases hresult : (sendCommandsWithRetry pulled.gateway commands).result with
    | ok _ => rfl
    | error e =>
      rw [sendCommandsWithRetry, result_loop _ _ _ hresult] at hlast
      cases hlast

lemma transmitted_of_result (hresult : (execution pulled).result = .ok ())
    (h : ¬ (execution pulled).LastAttemptFailed) : (execution pulled).Transmitted := by
  intro attempt hlast
  cases hcommands : pulled.device.commandsOf pulled.controlId pulled.valueToSet with
  | none =>
    rw [execution, attempts_of_commandsOf _ pulled.gateway _ _ hcommands] at hlast
    cases hlast
  | some commands =>
    rw [execution, executeControl_of_commandsOf _ _ _ _ hcommands] at hlast hresult
    obtain ⟨responses, hhead⟩ := head_loop _ _ _ hresult
    obtain rfl : attempt = .ok responses := by
      rw [sendCommandsWithRetry, maxCommandRetries] at hlast
      exact Option.some.inj (hlast.symm.trans hhead)
    refine ⟨responses, rfl, by_contra fun hfail => h ⟨responses, ?_, by simpa using hfail⟩⟩
    rw [execution, executeControl_of_commandsOf _ _ _ _ hcommands]
    exact hlast

/-- A dropped task sends nothing and is not reported as executed. -/
lemma reportedTruthfully_dropQuiescent :
    ReportedTruthfully pulled (dropQuiescent pulled) := by
  have hlast : ¬ (dropQuiescent pulled).execution.LastAttemptFailed := by
    rintro ⟨responses, hlast, -⟩
    cases hlast
  refine ⟨fun h => absurd h hlast, fun h => absurd h hlast, fun h => absurd h hlast, ?_⟩
  intro _ attempt hattempt
  cases hattempt

/-- The loop resolves the task of a lost command as a success. -/
lemma reportedTruthfully_resolve_iff :
    ReportedTruthfully pulled (resolve pulled (execution pulled)) ↔ pulled.Delivered := by
  have hsame (ex : Execution) : (resolve pulled ex).execution = ex := by
    unfold resolve
    split
    case isTrue => rfl
    case isFalse => split <;> rfl
  constructor
  · intro h
    by_contra hlost
    have hlast := (lastAttemptFailed_iff pulled).2 hlost
    have hresult := result_of_lastAttemptFailed pulled hlast
    obtain ⟨e, he⟩ := h.task_fails (by rwa [hsame])
    cases hcancelled : pulled.isCancelled <;> simp [resolve, hcancelled, hresult] at he
  · intro hdelivered
    have hlast : ¬ (execution pulled).LastAttemptFailed := fun h =>
      (lastAttemptFailed_iff pulled).1 h hdelivered
    refine ⟨?_, ?_, ?_, ?_⟩
    all_goals rw [hsame]
    · exact fun h => absurd h hlast
    · exact fun h => absurd h hlast
    · exact fun h => absurd h hlast
    · intro hcleared
      refine transmitted_of_result pulled ?_ hlast
      cases hresult : (execution pulled).result with
      | ok _ => rfl
      | error e =>
        cases hcancelled : pulled.isCancelled <;>
          simp [resolve, hcancelled, hresult, afterFuture] at hcleared

/-- Each task of a batch is reported truthfully exactly when it was dropped or the gateway
delivers its commands within the retries. -/
theorem reportedTruthfully_iff (inQuiescentMode : Bool) (batch : List (PulledControl κ)) :
    List.Forall₂ (fun pulled outcome =>
        ReportedTruthfully pulled outcome ↔ inQuiescentMode = true ∨ pulled.Delivered)
      batch (processControls inQuiescentMode batch) := by
  cases inQuiescentMode with
  | true =>
    rw [processControls, if_pos rfl, List.forall₂_map_right_iff, List.forall₂_same]
    intro pulled _
    simpa using reportedTruthfully_dropQuiescent pulled
  | false =>
    have hbatch : processControls false batch =
        batch.map fun pulled => resolve pulled (execution pulled) := by
      simp [processControls, List.zip, List.zipWith_map_right, List.zipWith_self]
    rw [hbatch, List.forall₂_map_right_iff, List.forall₂_same]
    intro pulled _
    simpa using reportedTruthfully_resolve_iff pulled

end Report

/-! ### The pushbuttons of the broadcast device -/

/-- The commands of the pushbuttons, by the names they have in the standard. -/
inductive Pushbutton where
  | goToLastActiveLevel
  | off
  | up
  | down
  | stepUp
  | stepDown
  | recallMaxLevel
  | recallMinLevel
  | stepDownAndOff
  | onAndStepUp
  deriving DecidableEq

/-- The id of the control, where `make_controls` has a pushbutton. -/
def Pushbutton.ofId : String → Option Pushbutton
  | "go_to_last_active_level" => some .goToLastActiveLevel
  | "off" => some .off
  | "up" => some .up
  | "down" => some .down
  | "step_up" => some .stepUp
  | "step_down" => some .stepDown
  | "recall_max_level" => some .recallMaxLevel
  | "recall_min_level" => some .recallMinLevel
  | "step_down_and_off" => some .stepDownAndOff
  | "on_and_step_up" => some .onAndStepUp
  | _ => none

/-- An `MqttControl` of `make_controls`: whatever is written, its one command is sent. -/
def Pushbutton.control (button : Pushbutton) : MqttControl (Pushbutton × Address) where
  isWritable := true
  state := ⟨none, .none, true⟩
  getSetupCommands := fun _ address _ => .ok [(button, address)]

/-- `make_controls`, which `build_virtual_device_controls` gives the broadcast device, without
the controls that are no pushbuttons. -/
def makeControls : Controls (Pushbutton × Address) := fun controlId =>
  (Pushbutton.ofId controlId).map Pushbutton.control

/-- The bus has no power while the broadcast device is switched off. -/
theorem exists_not_reportedTruthfully :
    ∃ pulled : PulledControl (Pushbutton × Address),
      pulled.device = .broadcast ⟨makeControls⟩ ∧
      pulled.device.commandsOf pulled.controlId pulled.valueToSet = some [(.off, .broadcast)] ∧
      ¬ List.Forall₂ ReportedTruthfully [pulled] (processControls false [pulled]) := by
  refine ⟨⟨.broadcast ⟨makeControls⟩, "off", Pushbutton.off.control.state, false, "1",
    ⟨fun _ => none, fun _ _ => .noPowerOnBus⟩⟩, rfl, rfl, ?_⟩
  rintro (_ | ⟨h, -⟩)
  have hlast : Execution.LastAttemptFailed
      ⟨List.replicate 3 (.ok [Response.noPowerOnBus]), .ok ()⟩ :=
    ⟨[.noPowerOnBus], rfl, rfl⟩
  obtain ⟨e, he⟩ := h.task_fails hlast
  cases he

end WbMqttDali.Controller.ControlWrites
