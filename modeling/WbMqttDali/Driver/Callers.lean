import Mathlib
import WbMqttDali.Driver.Step
import WbMqttDali.Lib.Literals

/-!
# The callers of the driver

`send`, `send_commands` and `run_sequence` put their frames into the send queue
under one lock, and wait for the futures of these frames.  A caller goes on from one
`await` to the next in an event of its own, so a run is any interleaving of callers
with each other and with the driver.  Whichever caller waits for the free lock may
take it.
-/

namespace WbMqttDali.Callers

open Driver (Command Response SendQueueItem FramePriority BusTrafficSource FutureState
  WBDALIConfig)

/-! ### Commands -/

/-- The classes of python-dali that the priorities depend on. -/
inductive CommandClass where
  | enableDeviceType
  | gearDTR0
  | gearDTR1
  | gearDTR2
  | deviceDTR0
  | deviceDTR1
  | deviceDTR2
  | other
  deriving DecidableEq

/-- A command of a caller, with what `_send_commands_internal` reads of it. -/
structure DaliCommand extends Command where
  commandClass : CommandClass := .other
  devicetype : Fin 256 := 0
  usesDtr0 : Bool := false
  usesDtr1 : Bool := false
  usesDtr2 : Bool := false
  deriving DecidableEq

/-- `EnableDeviceType(devicetype)` -/
def enableDeviceType (devicetype : Fin 256) : DaliCommand where
  frame := ⟨false, 16, 0xC100 + devicetype, false⟩
  sendtwice := false
  hasResponseClass := false
  frame_length := .inl rfl
  commandClass := .enableDeviceType

/-- `_is_dtr_set` -/
def DaliCommand.isDtrSet (cmd : DaliCommand) : Bool :=
  match cmd.commandClass with
  | .gearDTR0 | .gearDTR1 | .gearDTR2 | .deviceDTR0 | .deviceDTR1 | .deviceDTR2 => true
  | .enableDeviceType | .other => false

/-- `_uses_dtr` -/
def DaliCommand.usesDtr (cmd : DaliCommand) : Bool := cmd.usesDtr0 || cmd.usesDtr1 || cmd.usesDtr2

/-- Whether `curr` continues the transaction of `prev`. -/
def continuesTransaction (prev curr : DaliCommand) : Bool :=
  prev.isDtrSet || prev.commandClass = .enableDeviceType || (curr.usesDtr && !curr.isDtrSet)

/-- `_compute_frame_priorities` -/
def computeFramePriorities (commands : List DaliCommand) (callerPriority : FramePriority) :
    List FramePriority :=
  match commands with
  | [] => []
  | first :: rest =>
    callerPriority :: List.zipWith (fun prev curr =>
      if continuesTransaction prev curr then .transactionContinuation else callerPriority)
      (first :: rest) rest

/-- What is put into the queue for one command. -/
def DaliCommand.expanded (cmd : DaliCommand) : List DaliCommand :=
  if cmd.devicetype ≠ 0 then [enableDeviceType cmd.devicetype, cmd] else [cmd]

/-- `commands_to_send` -/
def commandsToSend (commands : List DaliCommand) : List DaliCommand :=
  commands.flatMap DaliCommand.expanded

/-- The loop over `commands` that leaves out the responses of the inserted commands;
`none` where `responses[i]` raises `IndexError`. -/
def filterResponses {β : Type*} (responses : List β) : ℕ → List DaliCommand → Option (List β)
  | _, [] => some []
  | i, cmd :: commands =>
    let i := if cmd.devicetype ≠ 0 then i + 1 else i
    match responses[i]?, filterResponses responses (i + 1) commands with
    | some response, some filtered => some (response :: filtered)
    | _, _ => none

/-! ### Calls of `_send_commands_internal` -/

/-- Where a call of `_send_commands_internal` stands. -/
inductive SendPlace where
  /-- `await self._send_queue_lock.acquire()` -/
  | acquire
  /-- `await self._send_queue.put(..)` -/
  | put
  /-- `await asyncio.gather(..)` -/
  | gather
  | returned (responses : List Response)
  /-- it returned early, because the gateway was unavailable -/
  | refused
  | indexError
  deriving DecidableEq

/-- A call of `_send_commands_internal`. -/
structure SendCall where
  commands : List DaliCommand
  source : BusTrafficSource
  priority : FramePriority
  source_ne_bus : source ≠ .bus
  responseFutures : List ℕ := []
  place : SendPlace := .acquire

namespace SendCall

variable (call : SendCall)

/-- What the `put` loop runs over. -/
def frames : List (DaliCommand × FramePriority) :=
  (commandsToSend call.commands).zip
    (computeFramePriorities (commandsToSend call.commands) call.priority)

def queueItem (future : ℕ) (frame : DaliCommand × FramePriority) : SendQueueItem :=
  ⟨future, frame.1.toCommand, call.source, frame.2, call.source_ne_bus⟩

/-- The items that the call has put into the queue so far. -/
def items : List SendQueueItem := List.zipWith call.queueItem call.responseFutures call.frames

/-- The `put` loop goes on to its next frame, or is over. -/
def next : SendCall :=
  { call with
    place := if call.responseFutures.length < call.frames.length then .put else .gather }

/-- What `asyncio.gather` returns once all futures are done.  No future is cancelled here. -/
def gathered (futures : ℕ → FutureState) : Option (List Response) :=
  call.responseFutures.mapM fun future =>
    match futures future with
    | .result response => some response
    | .pending | .cancelled => none

/-- From the return of `asyncio.gather` on. -/
def finish (responses : List Response) : SendCall :=
  { call with
    place := match filterResponses responses 0 call.commands with
      | some filtered => .returned filtered
      | none => .indexError }

/-- The responses that the call returns while the gateway is unavailable. -/
def refusal : List Response := call.commands.map fun _ => .gatewayUnavailable

/-- What the call has returned. -/
def answer : Option (List Response) :=
  match call.place with
  | .returned responses => some responses
  | .refused => some call.refusal
  | .acquire | .put | .gather | .indexError => none

end SendCall

/-! ### Sequences -/

/-- What `seq.send` is given. -/
inductive Reply where
  | response (response : Response)
  | responses (responses : List Response)
  deriving DecidableEq

/-- `Response(None)` -/
def noResponse : Reply := .response (.plain none)

/-- What a generator does next. -/
inductive Yield (α : Type) where
  | sleep (delay : ℚ)
  | progress
  | commands (cmds : List DaliCommand)
  | command (cmd : DaliCommand)
  | stopIteration (value : α)
  | raises

/-- A generator: what it does next after it was sent the given replies. -/
abbrev Sequence (α : Type) := List Reply → Yield α

/-- Where a call of `run_sequence` stands. -/
inductive SequencePlace (α : Type) where
  /-- `async with self._send_queue_lock` -/
  | acquire
  /-- before the next call of `seq.send` -/
  | resume
  /-- `await asyncio.sleep(..)` -/
  | sleep (wakeAt : ℚ)
  /-- the call for a single command or for a list -/
  | sending (single : Bool) (call : SendCall)
  | returned (value : α)
  | raised

/-- A call of `run_sequence`; `finished` records the calls of `_send_commands_internal`
that have returned to it. -/
structure SequenceRun (α : Type) where
  seq : Sequence α
  priority : FramePriority
  replies : List Reply := []
  place : SequencePlace α := .acquire
  finished : List SendCall := []

namespace SequenceRun

variable {α : Type} (run : SequenceRun α)

/-- The next value for `seq.send`. -/
def reply (reply : Reply) : SequenceRun α :=
  { run with replies := run.replies ++ [reply], place := .resume }

/-- `_send_commands_internal` has returned `responses`; `[0]` is taken for a single command. -/
def onResponses (single : Bool) (responses : List Response) : SequenceRun α :=
  if single then
    match responses with
    | [] => { run with place := .raised }
    | response :: _ => run.reply (.response response)
  else run.reply (.responses responses)

/-- The call that the sequence waits for goes on to `call`, which has left the queue. -/
def onSent (single : Bool) (call : SendCall) : SequenceRun α :=
  match call.place with
  | .returned responses =>
    { run with finished := run.finished ++ [call] }.onResponses single responses
  | .refused => { run with finished := run.finished ++ [call] }.onResponses single call.refusal
  | .indexError => { run with finished := run.finished ++ [call], place := .raised }
  | .acquire | .put | .gather => { run with place := .sending single call }

/-- Whether the lock is released. -/
def isOver : Bool :=
  match run.place with
  | .returned _ | .raised => true
  | .acquire | .resume | .sleep _ | .sending _ _ => false

end SequenceRun

/-! ### The state -/

inductive Caller (α : Type) where
  /-- a call of `send` or `send_commands` -/
  | sendCommands (call : SendCall)
  | runSequence (run : SequenceRun α)

/-- An item of the queue, and who put it there. -/
structure Queued where
  caller : ℕ
  item : SendQueueItem
  deriving DecidableEq

/-- `lock` is the holder of `_send_queue_lock`; `queued` records what was ever put
into the queue. -/
structure State (α : Type) where
  driver : Driver.State
  callers : ℕ → Option (Caller α) := fun _ => none
  lock : Option ℕ := none
  queued : List Queued := []

inductive Event (α : Type) where
  /-- anything else that happens to the driver -/
  | driver (e : Driver.Event)
  /-- a new call of `send_commands`, or of `send` with a single command -/
  | sendCommands (id : ℕ) (commands : List DaliCommand) (source : BusTrafficSource)
    (priority : FramePriority)
  /-- a new call of `run_sequence` -/
  | runSequence (id : ℕ) (seq : Sequence α) (priority : FramePriority)
  /-- a caller gets the lock -/
  | acquire (id : ℕ)
  /-- a caller puts its next frame into the queue -/
  | put (id : ℕ)
  /-- the futures of a caller are all done -/
  | gather (id : ℕ)
  /-- the generator of a sequence goes on -/
  | resume (id : ℕ)
  /-- the sleep of a sequence is over -/
  | wake (id : ℕ)

/-- What the callers do to the driver, or would do if they were cancelled. -/
def ofCaller : Driver.Event → Bool
  | .put _ _ _ | .sendUnavailable _ _ | .cancel _ => true
  | _ => false

namespace State

variable {α : Type} (config : WBDALIConfig) (s : State α) (id : ℕ)

def setCaller (caller : Caller α) : State α :=
  { s with callers := Function.update s.callers id (some caller) }

/-- The bus traffic of a refused call. -/
def refuse (commands : List DaliCommand) (source : BusTrafficSource) : State α :=
  { s with driver := { s.driver with
      toInFlight := s.driver.refuseCommands (commands.map DaliCommand.toCommand) source } }

/-- `send_commands` up to its first `await`. -/
def sendCommands (commands : List DaliCommand) (source : BusTrafficSource)
    (priority : FramePriority) : Option (State α) :=
  if hsource : source ≠ .bus then
    match s.callers id with
    | some _ => none
    | none =>
      let call : SendCall := { commands, source, priority, source_ne_bus := hsource }
      if s.driver.GatewayUnavailable then
        some ((s.refuse commands source).setCaller id
          (.sendCommands { call with place := .refused }))
      else some (s.setCaller id (.sendCommands call))
  else none

/-- `run_sequence` up to its first `await`. -/
def runSequence (seq : Sequence α) (priority : FramePriority) : Option (State α) :=
  match s.callers id with
  | some _ => none
  | none => some (s.setCaller id (.runSequence { seq, priority }))

/-- A call with its own lock releases it after its last frame. -/
def setCall (call : SendCall) : State α :=
  { s.setCaller id (.sendCommands call) with
    lock := if call.place = .gather then none else s.lock }

/-- A sequence releases the lock when it is over. -/
def setRun (run : SequenceRun α) : State α :=
  { s.setCaller id (.runSequence run) with lock := if run.isOver then none else s.lock }

def acquire : Option (State α) :=
  if s.lock = none then
    match s.callers id with
    | some (.sendCommands call) =>
      if call.place = .acquire then some ({ s with lock := some id }.setCall id call.next) else none
    | some (.runSequence run) =>
      match run.place with
      | .acquire => some ({ s with lock := some id }.setRun id { run with place := .resume })
      | _ => none
    | none => none
  else none

/-- `put` of the next frame of a call, once the queue has room. -/
def putNext (call : SendCall) : Option (State α × SendCall) :=
  if call.place = .put then
    match call.frames[call.responseFutures.length]? with
    | none => none
    | some frame =>
      (s.driver.put config frame.1.toCommand call.source frame.2).map fun driver =>
        ({ s with
            driver
            queued := s.queued ++ [⟨id, call.queueItem s.driver.nextFuture frame⟩] },
          { call with responseFutures := call.responseFutures ++ [s.driver.nextFuture] }.next)
  else none

def put : Option (State α) :=
  match s.callers id with
  | some (.sendCommands call) =>
    (s.putNext config id call).map fun (s, call) => s.setCall id call
  | some (.runSequence run) =>
    match run.place with
    | .sending single call =>
      (s.putNext config id call).map fun (s, call) => s.setRun id (run.onSent single call)
    | _ => none
  | none => none

def gather : Option (State α) :=
  match s.callers id with
  | some (.sendCommands call) =>
    if call.place = .gather then
      (call.gathered s.driver.futures).map fun responses =>
        s.setCaller id (.sendCommands (call.finish responses))
    else none
  | some (.runSequence run) =>
    match run.place with
    | .sending single call =>
      if call.place = .gather then
        (call.gathered s.driver.futures).map fun responses =>
          s.setRun id (run.onSent single (call.finish responses))
      else none
    | _ => none
  | none => none

/-- `_send_commands_internal` for what a sequence yields, up to its first `await`. -/
def sendYielded (run : SequenceRun α) (single : Bool) (commands : List DaliCommand) : State α :=
  let call : SendCall := {
    commands, source := .wb, priority := run.priority, source_ne_bus := BusTrafficSource.wb_ne_bus }
  if s.driver.GatewayUnavailable then
    (s.refuse commands .wb).setRun id (run.onSent single { call with place := .refused })
  else s.setRun id (run.onSent single call.next)

/-- One round of the loop of `run_sequence`. -/
def onYield (run : SequenceRun α) : Yield α → State α
  | .stopIteration value => s.setRun id { run with place := .returned value }
  | .raises => s.setRun id { run with place := .raised }
  | .sleep delay => s.setRun id { run with place := .sleep (s.driver.now + delay) }
  | .progress => s.setRun id (run.reply noResponse)
  | .commands cmds => s.sendYielded id run false cmds
  | .command cmd => s.sendYielded id run true [cmd]

def resume : Option (State α) :=
  match s.callers id with
  | some (.runSequence run) =>
    match run.place with
    | .resume => some (s.onYield id run (run.seq run.replies))
    | _ => none
  | _ => none

def wake : Option (State α) :=
  match s.callers id with
  | some (.runSequence run) =>
    match run.place with
    | .sleep wakeAt =>
      if wakeAt ≤ s.driver.now then some (s.setRun id (run.reply noResponse)) else none
    | _ => none
  | _ => none

end State

section Steps

variable {α : Type}

def step (config : WBDALIConfig) (s : State α) : Event α → Option (State α)
  | .driver e =>
    if ofCaller e then none
    else (Driver.step config s.driver e).map fun driver => { s with driver }
  | .sendCommands id commands source priority => s.sendCommands id commands source priority
  | .runSequence id seq priority => s.runSequence id seq priority
  | .acquire id => s.acquire id
  | .put id => s.put config id
  | .gather id => s.gather id
  | .resume id => s.resume id
  | .wake id => s.wake id

/-- The driver with its callers as a transition system. -/
def callers (config : WBDALIConfig) : Transition (State α) (Event α) where
  init s := ∃ driver, (Driver.driver config).init driver ∧ s = { driver }
  step := step config

/-- What a step can do, case by case. -/
inductive Happens (config : WBDALIConfig) (s : State α) : Event α → State α → Prop
  | driver {e driver} (hcaller : ofCaller e = false)
      (hstep : Driver.step config s.driver e = some driver) :
      Happens config s (.driver e) { s with driver }
  | refused {id commands source priority} (hsource : source ≠ .bus) (hnone : s.callers id = none)
      (hunavailable : s.driver.GatewayUnavailable) :
      Happens config s (.sendCommands id commands source priority)
        ((s.refuse commands source).setCaller id (.sendCommands {
          commands, source, priority, source_ne_bus := hsource, place := .refused }))
  | sendCommands {id commands source priority} (hsource : source ≠ .bus)
      (hnone : s.callers id = none) :
      Happens config s (.sendCommands id commands source priority)
        (s.setCaller id (.sendCommands { commands, source, priority, source_ne_bus := hsource }))
  | runSequence {id seq priority} (hnone : s.callers id = none) :
      Happens config s (.runSequence id seq priority)
        (s.setCaller id (.runSequence { seq, priority }))
  | acquireCall {id call} (hfree : s.lock = none)
      (hcaller : s.callers id = some (.sendCommands call)) (hplace : call.place = .acquire) :
      Happens config s (.acquire id) ({ s with lock := some id }.setCall id call.next)
  | acquireRun {id run} (hfree : s.lock = none)
      (hcaller : s.callers id = some (.runSequence run)) (hplace : run.place = .acquire) :
      Happens config s (.acquire id)
        ({ s with lock := some id }.setRun id { run with place := .resume })
  | putCall {id call t call'} (hcaller : s.callers id = some (.sendCommands call))
      (hput : s.putNext config id call = some (t, call')) :
      Happens config s (.put id) (t.setCall id call')
  | putRun {id run single call t call'} (hcaller : s.callers id = some (.runSequence run))
      (hplace : run.place = .sending single call)
      (hput : s.putNext config id call = some (t, call')) :
      Happens config s (.put id) (t.setRun id (run.onSent single call'))
  | gatherCall {id call responses} (hcaller : s.callers id = some (.sendCommands call))
      (hplace : call.place = .gather)
      (hgathered : call.gathered s.driver.futures = some responses) :
      Happens config s (.gather id) (s.setCaller id (.sendCommands (call.finish responses)))
  | gatherRun {id run single call responses} (hcaller : s.callers id = some (.runSequence run))
      (hrun : run.place = .sending single call) (hplace : call.place = .gather)
      (hgathered : call.gathered s.driver.futures = some responses) :
      Happens config s (.gather id) (s.setRun id (run.onSent single (call.finish responses)))
  | resume {id run} (hcaller : s.callers id = some (.runSequence run))
      (hplace : run.place = .resume) :
      Happens config s (.resume id) (s.onYield id run (run.seq run.replies))
  | wake {id run wakeAt} (hcaller : s.callers id = some (.runSequence run))
      (hplace : run.place = .sleep wakeAt) (hdue : wakeAt ≤ s.driver.now) :
      Happens config s (.wake id) (s.setRun id (run.reply noResponse))

theorem happens_of_step {config : WBDALIConfig} {s s' : State α} {e : Event α}
    (h : step config s e = some s') : Happens config s e s' := by
  cases e with
  | driver e =>
    simp only [step] at h
    split at h
    case isTrue => cases h
    case isFalse hcaller =>
      obtain ⟨driver, hdriver, h⟩ := Option.map_eq_some_iff.1 h
      cases h
      exact .driver (by simpa using hcaller) hdriver
  | sendCommands id commands source priority =>
    simp only [step, State.sendCommands] at h
    split at h
    case isFalse => cases h
    case isTrue hsource =>
      split at h
      case h_1 => cases h
      case h_2 hnone =>
        split at h
        case isTrue hunavailable =>
          cases h
          exact .refused hsource hnone hunavailable
        case isFalse =>
          cases h
          exact .sendCommands hsource hnone
  | runSequence id seq priority =>
    simp only [step, State.runSequence] at h
    split at h
    case h_1 => cases h
    case h_2 hnone =>
      cases h
      exact .runSequence hnone
  | acquire id =>
    simp only [step, State.acquire] at h
    split at h
    case isFalse => cases h
    case isTrue hfree =>
      split at h
      case h_1 call hcaller =>
        split at h
        case isFalse => cases h
        case isTrue hplace =>
          cases h
          exact .acquireCall hfree hcaller hplace
      case h_2 run hcaller =>
        split at h
        case h_1 hplace =>
          cases h
          exact .acquireRun hfree hcaller hplace
        case h_2 => cases h
      case h_3 => cases h
  | put id =>
    simp only [step, State.put] at h
    split at h
    case h_1 call hcaller =>
      obtain ⟨⟨t, call'⟩, hput, h⟩ := Option.map_eq_some_iff.1 h
      cases h
      exact .putCall hcaller hput
    case h_2 run hcaller =>
      split at h
      case h_1 single call hplace =>
        obtain ⟨⟨t, call'⟩, hput, h⟩ := Option.map_eq_some_iff.1 h
        cases h
        exact .putRun hcaller hplace hput
      case h_2 => cases h
    case h_3 => cases h
  | gather id =>
    simp only [step, State.gather] at h
    split at h
    case h_1 call hcaller =>
      split at h
      case isFalse => cases h
      case isTrue hplace =>
        obtain ⟨responses, hgathered, h⟩ := Option.map_eq_some_iff.1 h
        cases h
        exact .gatherCall hcaller hplace hgathered
    case h_2 run hcaller =>
      split at h
      case h_1 single call hrun =>
        split at h
        case isFalse => cases h
        case isTrue hplace =>
          obtain ⟨responses, hgathered, h⟩ := Option.map_eq_some_iff.1 h
          cases h
          exact .gatherRun hcaller hrun hplace hgathered
      case h_2 => cases h
    case h_3 => cases h
  | resume id =>
    simp only [step, State.resume] at h
    split at h
    case h_1 run hcaller =>
      split at h
      case h_1 hplace =>
        cases h
        exact .resume hcaller hplace
      case h_2 => cases h
    case h_2 => cases h
  | wake id =>
    simp only [step, State.wake] at h
    split at h
    case h_1 run hcaller =>
      split at h
      case h_1 wakeAt hplace =>
        split at h
        case isFalse => cases h
        case isTrue hdue =>
          cases h
          exact .wake hcaller hplace hdue
      case h_2 => cases h
    case h_2 => cases h

/-- What one frame of a call changes. -/
lemma putNext_eq_some {config : WBDALIConfig} {s s' : State α} {id : ℕ} {call call' : SendCall}
    (h : s.putNext config id call = some (s', call')) :
    call.place = .put ∧ ∃ frame driver, call.frames[call.responseFutures.length]? = some frame ∧
      s.driver.put config frame.1.toCommand call.source frame.2 = some driver ∧
      s' = { s with
        driver
        queued := s.queued ++ [⟨id, call.queueItem s.driver.nextFuture frame⟩] } ∧
      call' = { call with
        responseFutures := call.responseFutures ++ [s.driver.nextFuture] }.next := by
  rw [State.putNext] at h
  split at h
  case isFalse => cases h
  case isTrue hplace =>
    split at h
    case h_1 => cases h
    case h_2 frame hframe =>
      obtain ⟨driver, hdriver, h⟩ := Option.map_eq_some_iff.1 h
      cases h
      exact ⟨hplace, frame, driver, hframe, hdriver, rfl, rfl⟩

end Steps

end WbMqttDali.Callers
