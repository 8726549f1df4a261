import Mathlib
import WbMqttDali.BusTraffic
import WbMqttDali.Driver.OverheatRateLimiter
import WbMqttDali.Lib.Dict
import WbMqttDali.Lib.Transition

/-!
# The state of the driver

The fields of `WBDALIDriver`, the two local variables of its sender task and the
place where that task waits, together with what the driver sees of its
surroundings: the clock and the armed timers of the event loop, the futures, and
the link of the MQTT dispatcher.

Some fields only record what happened: the calls of `publish`, the commands
written to the gateway queue, what resolved a future, and which frames the
gateway still owes a reply.  No function of the driver reads them.
-/

namespace WbMqttDali.Driver

/-- `WBDALIConfig`, with what the constructor of the driver checks. -/
structure WBDALIConfig where
  bus : ℕ := 1
  queueSize : ℕ := 16
  queueStartModbusAddress : ℕ := 1400
  queueBulkSendPointerModbusAddress : ℕ := 1432
  queueModbusBusOffset : ℕ := 1000
  bus_mem : bus ∈ [1, 2, 3] := by decide
  queueSize_pos : 0 < queueSize := by decide

def waitDaliResponseTimeoutS : ℚ := 3 / 2

def waitCommandsForBatchTimeoutS : ℚ := 1 / 100

/-! ### Queued and waiting commands -/

inductive FutureState where
  | pending
  | result (response : Response)
  | cancelled
  deriving DecidableEq

/-- `SendQueueItem`; `future` is the number of its future. -/
structure SendQueueItem where
  future : ℕ
  command : Command
  source : BusTrafficSource
  priority : FramePriority
  source_ne_bus : source ≠ .bus
  deriving DecidableEq

/-- `WaitResponseItem`; `timeoutHandler` is the number of its timer. -/
structure WaitResponseItem where
  sendItem : SendQueueItem
  timeoutHandler : ℕ
  sequenceId : ℕ
  deriving DecidableEq

/-- An armed `call_later` of `_send_to_gateway`: its callback knows the slot only;
`owner` records for which future it was armed. -/
structure Timer where
  deadline : ℚ
  index : ℕ
  owner : ℕ
  deriving DecidableEq

/-- The sender calls `_send_to_gateway` because the next slot is still waited for,
because no more commands came in time, or because the end of the queue is reached. -/
inductive Flush where
  | slot (respWaiter : WaitResponseItem)
  | timeout
  | queueEnd
  deriving DecidableEq

/-- The `await` at which the sender task stands. -/
inductive SenderAt where
  /-- `asyncio.wait_for(self._send_queue.get(), timeout)` -/
  | get (deadline : Option ℚ)
  /-- `resp_waiter.send_item.future` -/
  | slot (respWaiter : WaitResponseItem)
  /-- the sleep of `wait_before_send` -/
  | sleep (flush : Flush) (wakeAt : ℚ)
  /-- the publish of the queue pointer reset -/
  | reset (flush : Flush)
  /-- the publish of the batch -/
  | write (flush : Flush)
  deriving DecidableEq

def SenderAt.isReset : SenderAt → Bool
  | .reset _ => true
  | _ => false

/-! ### What is recorded -/

/-- The parameters of a Modbus RPC. -/
structure Rpc where
  id : ℕ
  function : ℕ
  address : ℕ
  count : ℕ
  msg : String
  deriving DecidableEq

/-- A call of `publish`, and whether its message reached the broker. -/
structure SentRpc where
  rpc : Rpc
  delivered : Bool
  deriving DecidableEq

/-- A command written to the gateway queue: when, and with which response timeout. -/
structure Written where
  future : ℕ
  sentAt : ℚ
  responseTimeout : ℚ
  deriving DecidableEq

/-- What resolved a future: a reply that the gateway published for the frame of
`owner`, a timer armed for `owner`, the gateway being unavailable, or the shutdown. -/
inductive Cause where
  | reply (owner : Option ℕ)
  | timer (owner : ℕ)
  | unavailable
  | shutdown
  deriving DecidableEq

structure Resolution where
  future : ℕ
  response : Response
  cause : Cause
  resolvedAt : ℚ
  deriving DecidableEq

/-! ### Commands in flight -/

/-- The fields for the commands in flight: the waiters of the gateway queue, the
futures and timers they hold, and the bus traffic they are reported to. -/
structure InFlight where
  -- the event loop
  now : ℚ := 0
  futures : ℕ → FutureState := fun _ => .pending
  timers : Dict ℕ Timer := ∅
  nextTimer : ℕ := 0
  -- `WBDALIDriver`
  busTraffic : BusTrafficCallbacks
  waitingForResponses : Dict ℕ WaitResponseItem := ∅
  sendQueueItemIndex : ℕ := 0
  responseTimeout : ℚ := waitDaliResponseTimeoutS
  -- the record
  /-- the frames that were given the sequence ids `0, 1, …` -/
  numbered : List BusMonitor.Frame := []
  written : List Written := []
  /-- the futures whose waiter was replaced while they were pending -/
  displaced : List ℕ := []
  resolutions : List Resolution := []

namespace InFlight

variable (s : InFlight)

abbrev Pending (future : ℕ) : Prop := s.futures future = .pending

/-- `future.set_result` -/
def resolve (future : ℕ) (response : Response) (cause : Cause) : InFlight :=
  { s with
    futures := Function.update s.futures future (.result response)
    resolutions := ⟨future, response, cause, s.now⟩ :: s.resolutions }

/-- `future.cancel`, which changes nothing when the future is done. -/
def cancel (future : ℕ) : InFlight :=
  if s.Pending future then { s with futures := Function.update s.futures future .cancelled }
  else s

/-- `bus_traffic.notify_command` -/
def notify (frame : BusMonitor.Frame) (response : Response) (source : BusTrafficSource)
    (sequenceId : ℕ) : InFlight :=
  { s with busTraffic := s.busTraffic.notifyCommand frame response source sequenceId }

/-- A waiter gets its result, and its command is reported. -/
def settle (respWaiter : WaitResponseItem) (response : Response) (cause : Cause) : InFlight :=
  (s.resolve respWaiter.sendItem.future response cause).notify
    respWaiter.sendItem.command.frame response respWaiter.sendItem.source respWaiter.sequenceId

/-- `cancel_timeout` -/
def cancelTimeout (respWaiter : WaitResponseItem) : InFlight :=
  { s with timers := s.timers.erase respWaiter.timeoutHandler }

/-- The body of the loop of `_drain_pending_with_gateway_unavailable`. -/
def drainOne (respWaiter : WaitResponseItem) : InFlight :=
  if s.Pending respWaiter.sendItem.future then
    (s.cancelTimeout respWaiter).settle respWaiter .gatewayUnavailable .unavailable
  else s.cancelTimeout respWaiter

/-- `_drain_pending_with_gateway_unavailable` -/
def drainPending : InFlight :=
  { s.waitingForResponses.values.foldl drainOne s with waitingForResponses := ∅ }

/-- A command that was never written is reported with the next id. -/
def report (frame : BusMonitor.Frame) (source : BusTrafficSource) : InFlight :=
  { s.notify frame .gatewayUnavailable source s.sendQueueItemIndex with
    sendQueueItemIndex := s.sendQueueItemIndex + 1
    numbered := s.numbered ++ [frame] }

/-- The body of the loop of `_fail_batch_gateway_unavailable`. -/
def failOne (item : SendQueueItem) : InFlight :=
  if s.Pending item.future then
    (s.resolve item.future .gatewayUnavailable .unavailable).report item.command.frame item.source
  else s

/-- `_fail_batch_gateway_unavailable` -/
def failBatch (items : List SendQueueItem) : InFlight := items.foldl failOne s

/-- The loop of `_send_commands_internal` while the gateway is unavailable. -/
def refuseCommands (commands : List Command) (source : BusTrafficSource) : InFlight :=
  commands.foldl (fun s cmd => s.report cmd.frame source) s

/-- One round of the loop of `_send_to_gateway`: the timer, the waiter and the id of a command. -/
def registerOne (currentIndex : ℕ) (item : SendQueueItem) : InFlight :=
  { s with
    timers := s.timers.set s.nextTimer
      ⟨s.now + s.responseTimeout, currentIndex, item.future⟩
    nextTimer := s.nextTimer + 1
    waitingForResponses := s.waitingForResponses.set currentIndex
      ⟨item, s.nextTimer, s.sendQueueItemIndex⟩
    sendQueueItemIndex := s.sendQueueItemIndex + 1
    numbered := s.numbered ++ [item.command.frame]
    written := ⟨item.future, s.now, s.responseTimeout⟩ :: s.written
    displaced := match s.waitingForResponses.get? currentIndex with
      | none => s.displaced
      | some respWaiter =>
        if s.Pending respWaiter.sendItem.future then
          respWaiter.sendItem.future :: s.displaced
        else s.displaced }

/-- The loop of `_send_to_gateway` over the items of a batch. -/
def register (s : InFlight) : ℕ → List SendQueueItem → InFlight
  | _, [] => s
  | currentIndex, item :: items =>
    (s.registerOne currentIndex item).register (currentIndex + 1) items

/-- `timeout_callback` of `_send_to_gateway`. -/
def timeoutCallback (timer : Timer) : InFlight :=
  match s.waitingForResponses.get? timer.index with
  | none => s
  | some waiterToClear =>
    if s.Pending waiterToClear.sendItem.future then
      s.settle waiterToClear .noResponseFromGateway (.timer timer.owner)
    else s

/-- What `_handle_reply_message` does with a waiter; `owner` is whom the reply is for. -/
def onReply (respWaiter : WaitResponseItem) (payload : Option ℤ) (owner : Option ℕ) : InFlight :=
  if s.Pending respWaiter.sendItem.future then
    (s.cancelTimeout respWaiter).settle respWaiter
      (match payload with
        | none => .wbGatewayTransmissionError
        | some resp => respWaiter.sendItem.command.responseTo resp)
      (.reply owner)
  else s.cancelTimeout respWaiter

end InFlight

/-! ### The state -/

structure State extends InFlight where
  nextFuture : ℕ := 0
  -- the dispatcher
  connected : Bool := true
  session : ℕ := 0
  -- `WBDALIDriver`
  sendQueue : List SendQueueItem := []
  overheatRateLimiter : OverheatRateLimiter := {}
  rpcIdCounter : ℕ := 0
  batchStartIndex : ℕ := 0
  nextQueueIndex : ℕ := 0
  unreachableReportedInSession : Option ℕ := none
  syncedSession : ℕ := 0
  pendingResync : Bool := false
  -- `_queue_sender`
  batch : List SendQueueItem := []
  timeout : Option ℚ := none
  sender : SenderAt := .get none
  -- the record
  /-- the calls of `publish`, the last one first -/
  rpcs : List SentRpc := []
  /-- the futures for whose frame in a slot the gateway has not replied yet -/
  owed : ℕ → List ℕ := fun _ => []

namespace State

variable (s : State)

/-- `_gateway_reported_unreachable` -/
abbrev GatewayReportedUnreachable : Prop := s.unreachableReportedInSession = some s.session

/-- `gateway_unavailable` -/
abbrev GatewayUnavailable : Prop := s.GatewayReportedUnreachable ∨ s.connected = false

/-- `_drain_pending_with_gateway_unavailable` -/
def drainPending : State := { s with toInFlight := s.toInFlight.drainPending }

/-- `_fail_batch_gateway_unavailable` for the batch of the sender. -/
def failBatch : State := { s with toInFlight := s.toInFlight.failBatch s.batch }

/-- `_sync_with_broker_session` -/
def syncWithBrokerSession : State :=
  if s.session = s.syncedSession then s
  else { { s with syncedSession := s.session }.drainPending with pendingResync := true }

/-! ### Modbus RPCs -/

/-- `send_modbus_rpc_no_response`, up to its call of `publish`. -/
def sendModbusRpc (function address count : ℕ) (msg : String) : State :=
  { s with
    rpcIdCounter := s.rpcIdCounter + 1
    rpcs := ⟨⟨s.rpcIdCounter + 1, function, address, count, msg⟩, false⟩ :: s.rpcs }

/-- The message of the last call of `publish` reaches the broker. -/
def markDelivered : State :=
  match s.rpcs with
  | [] => s
  | last :: rpcs => { s with rpcs := { last with delivered := true } :: rpcs }

end State

/-- `f"\x7breg:08x\x7d"` -/
def hex08 (value : ℕ) : String := String.ofList (List.leftpad 8 '0' (Nat.toDigits 16 value))

/-- A register with its two words swapped, as the gateway reads it. -/
def swapWords (reg : ℕ) : ℕ := ((reg &&& 0xFFFF) <<< 16) ||| ((reg >>> 16) &&& 0xFFFF)

def writeFunction : ℕ := 16

def resetFunction : ℕ := 6

section Gateway

variable (config : WBDALIConfig) (s : State)

/-- The Modbus address of the first slot of the bus. -/
def WBDALIConfig.queueAddress : ℕ :=
  config.queueStartModbusAddress + (config.bus - 1) * config.queueModbusBusOffset

/-- `_reset_queue_in_gateway` -/
def State.resetQueueInGateway : State :=
  s.sendModbusRpc resetFunction
    (config.queueBulkSendPointerModbusAddress + (config.bus - 1) * config.queueModbusBusOffset)
    1 "0000"

/-- The RPC that writes the batch of the sender to the slots from `startIndex` on. -/
def State.writeBatchRpc (startIndex : ℕ) : State :=
  s.sendModbusRpc writeFunction (config.queueAddress + startIndex * 2) (s.batch.length * 2)
    (String.join (s.batch.map fun item =>
      hex08 (swapWords (item.command.encoded item.priority))))

end Gateway

/-! ### The sender task -/

namespace State

/-- The waiter at `_next_queue_index`, if it is still pending. -/
def nextSlotWaiter (s : State) : Option WaitResponseItem :=
  (s.waitingForResponses.get? s.nextQueueIndex).filter fun respWaiter =>
    s.Pending respWaiter.sendItem.future

/-- The sender waits for the next item. -/
def waitForItem (s : State) : State := { s with sender := .get (s.timeout.map (s.now + ·)) }

/-- The sender waits for the future of a slot; a done future does not suspend it. -/
def waitForSlot (s : State) (respWaiter : WaitResponseItem) : State :=
  if s.Pending respWaiter.sendItem.future then { s with sender := .slot respWaiter }
  else s.waitForItem

/-- The assignments of the `finally` after `_send_to_gateway`. -/
def dropBatch (s : State) : State := { s with batch := [], batchStartIndex := s.nextQueueIndex }

/-- The top of the loop with no batch: `_send_to_gateway` returns at once. -/
def startOver (s : State) : State :=
  match s.nextSlotWaiter with
  | none => s.waitForItem
  | some respWaiter => s.dropBatch.waitForSlot respWaiter

variable (config : WBDALIConfig)

/-- From the return of `_send_to_gateway` to the next `await`. -/
def afterFlush (s : State) : Flush → State
  | .slot respWaiter => s.dropBatch.waitForSlot respWaiter
  | .timeout => { s.dropBatch with timeout := none }.startOver
  | .queueEnd =>
    -- a batch renumbered from slot 0 by the resync may not have reached the end
    (if s.nextQueueIndex = config.queueSize then
      { s with nextQueueIndex := 0 }.dropBatch
    else s.dropBatch).startOver

/-- The `except aiomqtt.MqttError` of `_send_to_gateway`. -/
def onMqttError (s : State) (flush : Flush) : State :=
  s.drainPending.failBatch.afterFlush config flush

/-- `_send_to_gateway` from the loop over the items on. -/
def writeBatch (s : State) (flush : Flush) : State :=
  let sent := { s with
    toInFlight := s.toInFlight.register s.batchStartIndex s.batch
    }.writeBatchRpc config s.batchStartIndex
  if sent.connected then { sent with sender := .write flush } else sent.onMqttError config flush

/-- `_send_to_gateway` after the reset of the queue pointer. -/
def afterReset (s : State) (flush : Flush) : State :=
  { s with
    pendingResync := false
    batchStartIndex := 0
    nextQueueIndex := s.batch.length }.writeBatch config flush

/-- `_send_to_gateway` after `wait_before_send`. -/
def afterWait (s : State) (flush : Flush) : State :=
  let s := { s with overheatRateLimiter := s.overheatRateLimiter.finishWait s.now
    }.syncWithBrokerSession
  if s.GatewayUnavailable then s.failBatch.afterFlush config flush
  else if s.pendingResync then { s.resetQueueInGateway config with sender := .reset flush }
  else s.writeBatch config flush

/-- `_send_to_gateway` with the batch of the sender. -/
def sendToGateway (s : State) (flush : Flush) : State :=
  if s.batch = [] then s.afterFlush config flush
  else
    let delay := s.overheatRateLimiter.requiredDelayS s.now
    if delay > 0 then { s with sender := .sleep flush (s.now + delay) }
    else s.afterWait config flush

/-- The top of the loop of `_queue_sender`. -/
def loopTop (s : State) : State :=
  match s.nextSlotWaiter with
  | none => s.waitForItem
  | some respWaiter => s.sendToGateway config (.slot respWaiter)

/-- `_queue_sender` after `get` has returned an item. -/
def onItem (s : State) (item : SendQueueItem) : State :=
  let s := { s with timeout := some waitCommandsForBatchTimeoutS }
  if s.futures item.future = .cancelled then s.loopTop config
  else
    let s := { s with batch := s.batch ++ [item], nextQueueIndex := s.nextQueueIndex + 1 }
    if s.nextQueueIndex = config.queueSize then s.sendToGateway config .queueEnd
    else s.loopTop config

end State

end WbMqttDali.Driver
