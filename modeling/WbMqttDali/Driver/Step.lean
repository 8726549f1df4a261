import Mathlib
import WbMqttDali.Driver.State

/-!
# The runs of the driver

Everything that can happen to an initialised driver is an event: a caller queues
or cancels a command, a message or a timer arrives, the link goes down or comes
back, time passes, or the sender task goes on from its `await` to the next one.
Events come in any order, so a run is any interleaving of them.
-/

namespace WbMqttDali.Driver

open BusMonitor (Frame)

/-- The payloads of `/meta/error` that the driver reads, without surrounding blanks. -/
inductive GatewayMetaErrorPayload where
  | ok
  | unreachable
  | other
  deriving DecidableEq

def GatewayMetaErrorPayload.ofString : String → GatewayMetaErrorPayload
  | "" => ok
  | "r" => unreachable
  | _ => other

inductive Event where
  /-- a caller puts a command into the queue -/
  | put (command : Command) (source : BusTrafficSource) (priority : FramePriority)
  /-- a call of `_send_commands_internal` while the gateway is unavailable -/
  | sendUnavailable (commands : List Command) (source : BusTrafficSource)
  /-- a caller cancels the future of a command -/
  | cancel (future : ℕ)
  | setResponseTimeout (timeout : ℚ)
  /-- a message on a reply topic; the payload is `none` where it is no integer -/
  | reply (respPointer : ℕ) (retain : Bool) (payload : Option ℤ)
  /-- a message on `/meta/error`; the payload is `none` where it cannot be decoded -/
  | metaError (payload : Option String)
  | connectionLost
  | connectionRestored
  /-- time goes on up to `now` -/
  | tick (now : ℚ)
  /-- the callback of an armed timer runs -/
  | timer (handle : ℕ)
  | busFrame (frame : Frame) (frameCounter : ℤ)
  | register (func : ℕ)
  | cleanup (func : ℕ)
  /-- `get` returns the next item of the queue -/
  | itemReceived
  /-- `get` times out -/
  | itemTimeout
  /-- the awaited future of a slot is done -/
  | slotDone
  /-- the sleep of `wait_before_send` is over -/
  | sleepDone
  /-- the message of a running publish reaches the broker -/
  | deliver
  | publishReturns
  | publishRaises
  deriving DecidableEq

namespace State

variable (s : State)

/-! ### Callers -/

/-- A caller of `_send_commands_internal` creates a future and puts its item into the
queue, which has room for `queue_size` items. -/
def put (config : WBDALIConfig) (command : Command) (source : BusTrafficSource)
    (priority : FramePriority) : Option State :=
  if hsource : source ≠ .bus then
    if s.sendQueue.length < config.queueSize then
      some { s with
        nextFuture := s.nextFuture + 1
        sendQueue := s.sendQueue ++ [⟨s.nextFuture, command, source, priority, hsource⟩] }
    else none
  else none

/-! ### Messages and timers -/

/-- How a reply changes the rate limiter; an unparsable one does not. -/
def limitRate (payload : Option ℤ) : OverheatRateLimiter :=
  match payload with
  | none => s.overheatRateLimiter
  | some resp =>
    if statusOf resp = .overheat then s.overheatRateLimiter.onOverheat s.now
    else s.overheatRateLimiter.onNonOverheatResponse

/-- `_handle_reply_message` -/
def handleReplyMessage (respPointer : ℕ) (retain : Bool) (payload : Option ℤ) : State :=
  if retain then s
  else
    let owner := (s.owed respPointer).head?
    let s := { s with owed := Function.update s.owed respPointer (s.owed respPointer).tail }
    match s.waitingForResponses.get? respPointer with
    | none => s
    | some respWaiter =>
      { s with
        toInFlight := s.toInFlight.onReply respWaiter payload owner
        overheatRateLimiter :=
          if s.Pending respWaiter.sendItem.future then s.limitRate payload
          else s.overheatRateLimiter }

/-- `_handle_meta_error_message` -/
def handleMetaErrorMessage (payload : Option String) : State :=
  match payload.map GatewayMetaErrorPayload.ofString with
  | none | some .other => s
  | some .unreachable =>
    if s.GatewayReportedUnreachable then s
    else { s with unreachableReportedInSession := some s.session }.drainPending
  | some .ok =>
    if s.GatewayReportedUnreachable then
      { s with pendingResync := true, unreachableReportedInSession := none }
    else s

/-- A timer runs once it is due. -/
def runTimer (handle : ℕ) : Option State :=
  match s.timers.get? handle with
  | none => none
  | some timer =>
    if timer.deadline ≤ s.now then
      some { s with
        toInFlight := { s.toInFlight with timers := s.timers.erase handle }.timeoutCallback timer }
    else none

/-- The event loop runs every timer when it is due, so time stops at a deadline. -/
def tick (now : ℚ) : Option State :=
  if s.now ≤ now ∧ ∀ timer ∈ s.timers.values, now ≤ timer.deadline then
    some { s with now := now }
  else none

/-! ### The sender task -/

variable (config : WBDALIConfig)

def itemReceived : Option State :=
  match s.sender, s.sendQueue with
  | .get _, item :: sendQueue => some ({ s with sendQueue := sendQueue }.onItem config item)
  | _, _ => none

def itemTimeout : Option State :=
  match s.sender with
  | .get (some deadline) =>
    if deadline ≤ s.now then some (s.sendToGateway config .timeout) else none
  | _ => none

def slotDone : Option State :=
  match s.sender with
  | .slot respWaiter =>
    if s.Pending respWaiter.sendItem.future then none else some s.waitForItem
  | _ => none

def sleepDone : Option State :=
  match s.sender with
  | .sleep flush wakeAt => if wakeAt ≤ s.now then some (s.afterWait config flush) else none
  | _ => none

/-- The gateway will reply once to every frame of the batch. -/
def oweReplies : State :=
  { s with
    owed := fun index =>
      s.owed index ++
        (if s.batchStartIndex ≤ index then
          ((s.batch[index - s.batchStartIndex]?).map SendQueueItem.future).toList
        else []) }

/-- Whether the last call of `publish` has reached the broker. -/
abbrev LastDelivered : Prop := (s.rpcs.head?.map SentRpc.delivered) = some true

def deliver : Option State :=
  if s.LastDelivered then none
  else
    match s.sender with
    | .reset _ => some s.markDelivered
    | .write _ => some s.markDelivered.oweReplies
    | _ => none

/-- A publish that returns has delivered its message. -/
def publishReturns : Option State :=
  if s.LastDelivered then
    match s.sender with
    | .reset flush => some (s.afterReset config flush)
    | .write flush => some (s.afterFlush config flush)
    | _ => none
  else none

/-- A publish may raise `MqttError` before or after its message was delivered. -/
def publishRaises : Option State :=
  match s.sender with
  | .reset flush | .write flush => some (s.onMqttError config flush)
  | _ => none

end State

/-! ### Steps and runs -/

/-- What one event does. -/
def step (config : WBDALIConfig) (s : State) : Event → Option State
  | .put command source priority => s.put config command source priority
  | .sendUnavailable commands source =>
    if s.GatewayUnavailable ∧ source ≠ .bus then
      some { s with toInFlight := s.toInFlight.refuseCommands commands source }
    else none
  | .cancel future =>
    if future < s.nextFuture then some { s with toInFlight := s.toInFlight.cancel future }
    else none
  | .setResponseTimeout timeout =>
    if 0 ≤ timeout then some { s with responseTimeout := timeout } else none
  | .reply respPointer retain payload => some (s.handleReplyMessage respPointer retain payload)
  | .metaError payload => some (s.handleMetaErrorMessage payload)
  | .connectionLost => some { s with connected := false }
  | .connectionRestored => some { s with connected := true, session := s.session + 1 }
  | .tick now => s.tick now
  | .timer handle => s.runTimer handle
  | .busFrame frame frameCounter =>
    some { s with busTraffic := s.busTraffic.notifyBusFrame frame frameCounter }
  | .register func => some { s with busTraffic := s.busTraffic.register func }
  | .cleanup func => some { s with busTraffic := s.busTraffic.cleanup func }
  | .itemReceived => s.itemReceived config
  | .itemTimeout => s.itemTimeout config
  | .slotDone => s.slotDone
  | .sleepDone => s.sleepDone config
  | .deliver => s.deliver
  | .publishReturns => s.publishReturns config
  | .publishRaises => s.publishRaises config

/-- What a step can do, case by case. -/
inductive Happens (config : WBDALIConfig) (s : State) : Event → State → Prop
  | put {command source priority} (hsource : source ≠ .bus)
      (hroom : s.sendQueue.length < config.queueSize) :
      Happens config s (.put command source priority) { s with
        nextFuture := s.nextFuture + 1
        sendQueue := s.sendQueue ++ [⟨s.nextFuture, command, source, priority, hsource⟩] }
  | sendUnavailable {commands source} (hunavailable : s.GatewayUnavailable)
      (hsource : source ≠ .bus) :
      Happens config s (.sendUnavailable commands source)
        { s with toInFlight := s.toInFlight.refuseCommands commands source }
  | cancel {future} (hlt : future < s.nextFuture) :
      Happens config s (.cancel future) { s with toInFlight := s.toInFlight.cancel future }
  | setResponseTimeout {timeout} (htimeout : 0 ≤ timeout) :
      Happens config s (.setResponseTimeout timeout) { s with responseTimeout := timeout }
  | replyRetained {respPointer payload} : Happens config s (.reply respPointer true payload) s
  | replyUnknown {respPointer payload} (hnone : s.waitingForResponses.get? respPointer = none) :
      Happens config s (.reply respPointer false payload)
        { s with owed := Function.update s.owed respPointer (s.owed respPointer).tail }
  | reply {respPointer payload respWaiter overheatRateLimiter}
      (hwaiter : s.waitingForResponses.get? respPointer = some respWaiter) :
      Happens config s (.reply respPointer false payload) { s with
        owed := Function.update s.owed respPointer (s.owed respPointer).tail
        toInFlight := s.toInFlight.onReply respWaiter payload (s.owed respPointer).head?
        overheatRateLimiter }
  | metaIgnored {payload} : Happens config s (.metaError payload) s
  | unreachable {payload} (hreported : ¬ s.GatewayReportedUnreachable) :
      Happens config s (.metaError payload)
        { s with unreachableReportedInSession := some s.session }.drainPending
  | reachable {payload} (hreported : s.GatewayReportedUnreachable) :
      Happens config s (.metaError payload)
        { s with pendingResync := true, unreachableReportedInSession := none }
  | connectionLost : Happens config s .connectionLost { s with connected := false }
  | connectionRestored :
      Happens config s .connectionRestored { s with connected := true, session := s.session + 1 }
  | tick {now} (hle : s.now ≤ now) (hdue : ∀ timer ∈ s.timers.values, now ≤ timer.deadline) :
      Happens config s (.tick now) { s with now := now }
  | timer {handle timer} (htimer : s.timers.get? handle = some timer)
      (hdue : timer.deadline ≤ s.now) :
      Happens config s (.timer handle) { s with
        toInFlight := { s.toInFlight with timers := s.timers.erase handle }.timeoutCallback timer }
  | busFrame {frame frameCounter} : Happens config s (.busFrame frame frameCounter)
      { s with busTraffic := s.busTraffic.notifyBusFrame frame frameCounter }
  | register {func} : Happens config s (.register func)
      { s with busTraffic := s.busTraffic.register func }
  | cleanup {func} : Happens config s (.cleanup func)
      { s with busTraffic := s.busTraffic.cleanup func }
  | itemReceived {deadline item sendQueue} (hsender : s.sender = .get deadline)
      (hqueue : s.sendQueue = item :: sendQueue) :
      Happens config s .itemReceived ({ s with sendQueue := sendQueue }.onItem config item)
  | itemTimeout {deadline} (hsender : s.sender = .get (some deadline)) (hdue : deadline ≤ s.now) :
      Happens config s .itemTimeout (s.sendToGateway config .timeout)
  | slotDone {respWaiter} (hsender : s.sender = .slot respWaiter)
      (hdone : ¬ s.Pending respWaiter.sendItem.future) : Happens config s .slotDone s.waitForItem
  | sleepDone {flush wakeAt} (hsender : s.sender = .sleep flush wakeAt) (hdue : wakeAt ≤ s.now) :
      Happens config s .sleepDone (s.afterWait config flush)
  | deliverReset {flush} (hsender : s.sender = .reset flush) (hopen : ¬ s.LastDelivered) :
      Happens config s .deliver s.markDelivered
  | deliverWrite {flush} (hsender : s.sender = .write flush) (hopen : ¬ s.LastDelivered) :
      Happens config s .deliver s.markDelivered.oweReplies
  | resetReturns {flush} (hsender : s.sender = .reset flush) (hdelivered : s.LastDelivered) :
      Happens config s .publishReturns (s.afterReset config flush)
  | writeReturns {flush} (hsender : s.sender = .write flush) (hdelivered : s.LastDelivered) :
      Happens config s .publishReturns (s.afterFlush config flush)
  | resetRaises {flush} (hsender : s.sender = .reset flush) :
      Happens config s .publishRaises (s.onMqttError config flush)
  | writeRaises {flush} (hsender : s.sender = .write flush) :
      Happens config s .publishRaises (s.onMqttError config flush)

theorem happens_of_step {config : WBDALIConfig} {s s' : State} {e : Event}
    (h : step config s e = some s') : Happens config s e s' := by
  cases e with
  | put command source priority =>
    simp only [step, State.put] at h
    split at h
    case isFalse => cases h
    case isTrue hsource =>
      split at h
      case isFalse => cases h
      case isTrue hroom =>
        cases h
        exact .put hsource hroom
  | sendUnavailable commands source =>
    simp only [step] at h
    split at h
    case isFalse => cases h
    case isTrue hguard =>
      cases h
      exact .sendUnavailable hguard.1 hguard.2
  | cancel future =>
    simp only [step] at h
    split at h
    case isFalse => cases h
    case isTrue hlt =>
      cases h
      exact .cancel hlt
  | setResponseTimeout timeout =>
    simp only [step] at h
    split at h
    case isFalse => cases h
    case isTrue htimeout =>
      cases h
      exact .setResponseTimeout htimeout
  | reply respPointer retain payload =>
    simp only [step, State.handleReplyMessage] at h
    -- a retained reply belongs to no command that waits
    cases retain with
    | true =>
      cases h
      exact .replyRetained
    | false =>
      rw [if_neg (by simp)] at h
      split at h
      case h_1 hnone =>
        cases h
        exact .replyUnknown hnone
      case h_2 respWaiter hwaiter =>
        cases h
        exact .reply hwaiter
  | metaError payload =>
    simp only [step, State.handleMetaErrorMessage] at h
    split at h
    case h_1 | h_2 =>
      cases h
      exact .metaIgnored
    -- an error is reported once in a session, and its end where it was reported
    case h_3 =>
      split at h <;> cases h
      case isTrue => exact .metaIgnored
      case isFalse hreported => exact .unreachable hreported
    case h_4 =>
      split at h <;> cases h
      case isTrue hreported => exact .reachable hreported
      case isFalse => exact .metaIgnored
  | connectionLost =>
    cases h
    exact .connectionLost
  | connectionRestored =>
    cases h
    exact .connectionRestored
  | tick now =>
    simp only [step, State.tick] at h
    split at h
    case isFalse => cases h
    case isTrue hguard =>
      cases h
      exact .tick hguard.1 hguard.2
  | timer handle =>
    simp only [step, State.runTimer] at h
    split at h
    case h_1 => cases h
    case h_2 timer htimer =>
      split at h
      case isFalse => cases h
      case isTrue hdue =>
        cases h
        exact .timer htimer hdue
  | busFrame frame frameCounter =>
    cases h
    exact .busFrame
  | register func =>
    cases h
    exact .register
  | cleanup func =>
    cases h
    exact .cleanup
  | itemReceived =>
    simp only [step, State.itemReceived] at h
    split at h
    case h_1 deadline item sendQueue hsender hqueue =>
      cases h
      exact .itemReceived hsender hqueue
    case h_2 => cases h
  | itemTimeout =>
    simp only [step, State.itemTimeout] at h
    split at h
    case h_1 deadline hsender =>
      split at h
      case isFalse => cases h
      case isTrue hdue =>
        cases h
        exact .itemTimeout hsender hdue
    case h_2 => cases h
  | slotDone =>
    simp only [step, State.slotDone] at h
    split at h
    case h_1 respWaiter hsender =>
      split at h
      case isTrue => cases h
      case isFalse hdone =>
        cases h
        exact .slotDone hsender hdone
    case h_2 => cases h
  | sleepDone =>
    simp only [step, State.sleepDone] at h
    split at h
    case h_1 flush wakeAt hsender =>
      split at h
      case isFalse => cases h
      case isTrue hdue =>
        cases h
        exact .sleepDone hsender hdue
    case h_2 => cases h
  | deliver =>
    simp only [step, State.deliver] at h
    split at h
    case isTrue => cases h
    case isFalse hopen =>
      split at h <;> cases h
      case h_1 flush hsender => exact .deliverReset hsender hopen
      case h_2 flush hsender => exact .deliverWrite hsender hopen
  | publishReturns =>
    simp only [step, State.publishReturns] at h
    split at h
    case isFalse => cases h
    case isTrue hdelivered =>
      split at h <;> cases h
      case h_1 flush hsender => exact .resetReturns hsender hdelivered
      case h_2 flush hsender => exact .writeReturns hsender hdelivered
  | publishRaises =>
    simp only [step, State.publishRaises] at h
    split at h <;> cases h
    case h_1 flush hsender => exact .resetRaises hsender
    case h_2 flush hsender => exact .writeRaises hsender

/-- The driver after `initialize`: the sender waits for its first item.  Where the
reset of the queue pointer was not delivered, it is deferred to the first batch. -/
def initial (config : WBDALIConfig) (listeners : Finset ℕ) (connected : Bool) (session : ℕ)
    (resetDelivered : Bool) : State :=
  let s : State :=
    { busTraffic := { callbacks := listeners, gatewayQueueSize := config.queueSize }
      connected
      session
      syncedSession := session
      pendingResync := !resetDelivered }
  let s := s.resetQueueInGateway config
  if resetDelivered then s.markDelivered else s

/-- The driver as a transition system. -/
def driver (config : WBDALIConfig) : Transition State Event where
  init s := ∃ listeners connected session resetDelivered,
    s = initial config listeners connected session resetDelivered
  step := step config

lemma State.markDelivered_eq (s : State) : ∃ rpcs, s.markDelivered = { s with rpcs } := by
  rw [State.markDelivered]
  split
  · exact ⟨_, rfl⟩
  · exact ⟨_, rfl⟩

/-- `QueryStatus` to short address 0. -/
def queryStatus : Command := ⟨⟨false, 16, 0x0190, false⟩, false, true, by decide⟩

/-- A user's `queryStatus` arrives at the sender. -/
def queryStatusReceived : List Event := [.put queryStatus .wb .userAction, .itemReceived]

/-- The running publish succeeds. -/
def published : List Event := [.deliver, .publishReturns]

/-- The state after the given events, whatever they are. -/
def after (config : WBDALIConfig) (events : List Event) : Option State :=
  (driver config).run (fun _ _ => True) (initial config ∅ true 0 true) events

lemma reachable_of_after {config : WBDALIConfig} {events : List Event} {s : State}
    (h : after config events = some s) : (driver config).Reachable s :=
  Transition.Reach.run (.init ⟨_, _, _, _, rfl⟩) h

end WbMqttDali.Driver
