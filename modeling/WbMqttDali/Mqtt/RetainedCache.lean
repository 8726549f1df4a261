import WbMqttDali.Lib.Dict
import WbMqttDali.Lib.Transition

/-!
# Retained payloads for late subscribers

The dispatcher subscribes at the broker once for a topic and hands a callback that is added
later the retained message from its own cache.  The broker marks a message as retained only
when it delivers a stored one on a SUBSCRIBE: an update or a delete that is delivered live
leaves the cache as it is, and a later callback is handed what the cache still holds.

A client call of the dispatcher is handled by the broker and then acknowledged.  A call that
fails is followed by the loss of the connection, and the session ends with it.
-/

namespace WbMqttDali.MqttCache

/-- The levels of a topic or of a topic filter. -/
abbrev Topic := List String

/-- An empty payload deletes a retained one. -/
abbrev Payload := String

abbrev Callback := ℕ

def matchLevels : Topic → Topic → Bool
  | "#" :: _, _ => true
  | level :: filter, level' :: topic =>
    (level = "+" || level = level') && matchLevels filter topic
  | [], [] => true
  | _, _ => false

/-- The messages of the topic are delivered for the filter; a wildcard does not stand for a first
level that starts with a dollar sign. -/
def matchesTopic (filter topic : Topic) : Bool :=
  matchLevels filter topic &&
    !(filter.head?.any (fun level => level = "+" || level = "#") &&
      topic.head?.any fun level => level.toList.head? = some '$')

/-- There are no wildcards. -/
def IsTopic (topic : Topic) : Prop := ∀ level ∈ topic, level ≠ "+" ∧ level ≠ "#"

instance : DecidablePred IsTopic := fun topic =>
  inferInstanceAs (Decidable (∀ level ∈ topic, level ≠ "+" ∧ level ≠ "#"))

lemma matchLevels_iff {filter topic : Topic} (h : IsTopic filter) :
    matchLevels filter topic = true ↔ filter = topic := by
  induction filter generalizing topic with
  | nil => cases topic <;> simp [matchLevels]
  | cons level filter ih =>
    obtain ⟨⟨hplus, hhash⟩, hrest⟩ := List.forall_mem_cons.1 h
    cases topic with
    | nil => simp [matchLevels, hhash]
    | cons level' topic => simp [matchLevels, hplus, ih hrest]

lemma matchesTopic_iff {filter topic : Topic} (h : IsTopic filter) :
    matchesTopic filter topic = true ↔ filter = topic := by
  have hhead : (filter.head?.any fun level => level = "+" || level = "#") = false := by
    cases filter with
    | nil => rfl
    | cons level filter => simpa using (List.forall_mem_cons.1 h).1
  rw [matchesTopic, hhead, Bool.false_and, Bool.not_false, Bool.and_true, matchLevels_iff h]

structure Message where
  topic : Topic
  payload : Payload
  retain : Bool
  deriving DecidableEq, Repr

/-- Where a client call is. -/
inductive CallStatus
  | waiting | handled
  /-- The session that it was made in has ended, or there was none. -/
  | lost
  deriving DecidableEq, Repr

/-- What holds `_lock` across a client call. -/
inductive Holder
  | subscribe (filter : Topic) (status : CallStatus)
  | unsubscribe (filter : Topic) (status : CallStatus)
  /-- `connection_restored` with the filters that are left; the first one is being subscribed. -/
  | restore (rest : List Topic) (status : CallStatus)
  deriving DecidableEq, Repr

def Holder.lose : Holder → Holder
  | .subscribe filter _ => .subscribe filter .lost
  | .unsubscribe filter _ => .unsubscribe filter .lost
  | .restore rest _ => .restore rest .lost

/-- Where the reconnect loop is. -/
inductive Phase
  | disconnected
  /-- Connected, and before `connection_restored` has the lock. -/
  | connected
  | restoring | serving
  deriving DecidableEq, Repr

/-- The dispatcher and the broker.  `received` and `fresh` only record what happened: the payloads
that a callback was handed since it was registered for a filter, and whether it was registered
while the topic had no retained payload and nothing has been published there since. -/
structure State where
  subscriptions : Dict Topic (Finset Callback)
  retainedCache : Dict Topic Payload
  connected : Bool
  lock : Option Holder
  phase : Phase
  linkUp : Bool
  brokerSubscriptions : Finset Topic
  /-- The messages that are delivered and not dispatched yet. -/
  inFlight : List Message
  retained : Dict Topic Payload
  received : Topic → Callback → List Payload
  fresh : Topic → Callback → Bool

namespace State

variable (s : State)

/-- The status of a new client call. -/
def callStatus : CallStatus := if s.linkUp then .waiting else .lost

/-- A callback is registered for the filter, and handed `replay`. -/
def register (filter : Topic) (callback : Callback) (callbacks : Finset Callback)
    (replay : List Payload) : State :=
  { s with
    subscriptions := s.subscriptions.set filter (insert callback callbacks)
    received := Function.update s.received filter (Function.update (s.received filter) callback
      ((if callback ∈ callbacks then s.received filter callback else []) ++ replay))
    fresh := Function.update s.fresh filter (Function.update (s.fresh filter) callback
      (if callback ∈ callbacks then s.fresh filter callback
        else s.retained.get? filter = none)) }

/-- `subscribe`, once it has the lock. -/
def subscribe (filter : Topic) (callback : Callback) : State :=
  match s.subscriptions.get? filter with
  | none =>
    { s.register filter callback ∅ [] with
      lock := if s.connected then some (.subscribe filter s.callStatus) else none }
  | some callbacks => s.register filter callback callbacks (s.retainedCache.get? filter).toList

/-- The last callback of a filter goes. -/
def dropFilter (filter : Topic) : State :=
  { s with
    subscriptions := s.subscriptions.erase filter
    retainedCache := s.retainedCache.erase filter
    lock := if s.connected then some (.unsubscribe filter s.callStatus) else none }

/-- `unsubscribe`, once it has the lock. -/
def unsubscribe (filter : Topic) (callback : Option Callback) : State :=
  match s.subscriptions.get? filter with
  | none => s
  | some callbacks =>
    match callback with
    | none => s.dropFilter filter
    | some callback =>
      if callbacks.erase callback = ∅ then s.dropFilter filter
      else { s with subscriptions := s.subscriptions.set filter (callbacks.erase callback) }

/-- The stored messages that a SUBSCRIBE delivers. -/
def stored (filter : Topic) : List Message :=
  (s.retained.entries.filter fun e => matchesTopic filter e.1).map fun e => ⟨e.1, e.2, true⟩

/-- The broker handles a SUBSCRIBE. -/
def brokerSubscribe (filter : Topic) : State :=
  { s with
    brokerSubscriptions := insert filter s.brokerSubscriptions
    inFlight := s.inFlight ++ s.stored filter }

/-- A retained publish of another client, delivered in `copies + 1` copies where subscriptions
overlap. -/
def publish (topic : Topic) (payload : Payload) (copies : ℕ) : State :=
  { s with
    retained := if payload = "" then s.retained.erase topic else s.retained.set topic payload
    fresh := Function.update s.fresh topic fun _ => false
    inFlight :=
      if s.linkUp ∧ ∃ filter ∈ s.brokerSubscriptions, matchesTopic filter topic then
        s.inFlight ++ List.replicate (copies + 1) ⟨topic, payload, false⟩
      else s.inFlight }

/-- `_dispatch_message`. -/
def dispatch (message : Message) : State :=
  { s with
    retainedCache :=
      if message.retain then
        if message.payload ≠ "" then s.retainedCache.set message.topic message.payload
        else s.retainedCache.erase message.topic
      else s.retainedCache
    received := fun filter callback =>
      if matchesTopic filter message.topic ∧
          (s.subscriptions.get? filter).any (callback ∈ ·) then
        s.received filter callback ++ [message.payload]
      else s.received filter callback }

end State

inductive Event
  | subscribe (filter : Topic) (callback : Callback)
  | unsubscribe (filter : Topic) (callback : Option Callback)
  /-- The broker handles the call under the lock. -/
  | brokerHandles
  /-- The call under the lock returns. -/
  | acknowledged
  /-- The call under the lock raises an `MqttError`. -/
  | fails
  /-- The call under the lock raises something else. -/
  | raises
  | restoreBegins
  | connectionRestored
  | publish (topic : Topic) (payload : Payload) (copies : ℕ)
  | dispatch
  /-- The connection breaks; some of the messages that were delivered stay. -/
  | linkFails (remaining : List Message)
  | connects
  | connectionLost

/-- One event; a call of `subscribe` or `unsubscribe` waits for the lock. -/
def step (s : State) : Event → Option State
  | .subscribe filter callback => if s.lock = none then some (s.subscribe filter callback) else none
  | .unsubscribe filter callback =>
    if s.lock = none then some (s.unsubscribe filter callback) else none
  | .brokerHandles =>
    match s.lock with
    | some (.subscribe filter .waiting) =>
      some { s.brokerSubscribe filter with lock := some (.subscribe filter .handled) }
    | some (.unsubscribe filter .waiting) =>
      some { s with
        brokerSubscriptions := s.brokerSubscriptions.erase filter
        lock := some (.unsubscribe filter .handled) }
    | some (.restore (filter :: rest) .waiting) =>
      some { s.brokerSubscribe filter with lock := some (.restore (filter :: rest) .handled) }
    | _ => none
  | .acknowledged =>
    match s.lock with
    | some (.subscribe _ .handled) | some (.unsubscribe _ .handled) => some { s with lock := none }
    | some (.restore (_ :: rest) .handled) =>
      some { s with lock := some (.restore rest s.callStatus) }
    | _ => none
  | .fails =>
    match s.lock with
    | some (.subscribe _ .lost) | some (.unsubscribe _ .lost) => some { s with lock := none }
    | some (.restore [] _) | none => none
    | some _ => some { s with lock := none, linkUp := false }
  | .raises =>
    match s.lock with
    | some (.subscribe filter _) =>
      some { s with subscriptions := s.subscriptions.erase filter, lock := none }
    | some (.unsubscribe _ _) => some { s with lock := none }
    | _ => none
  | .restoreBegins =>
    if s.phase = .connected ∧ s.lock = none then
      some { s with phase := .restoring, lock := some (.restore s.subscriptions.keys s.callStatus) }
    else none
  | .connectionRestored =>
    match s.lock with
    | some (.restore [] _) => some { s with phase := .serving, connected := true, lock := none }
    | _ => none
  | .publish topic payload copies =>
    if IsTopic topic then some (s.publish topic payload copies) else none
  | .dispatch =>
    match s.inFlight with
    | [] => none
    | message :: rest =>
      if s.phase = .serving then some { s.dispatch message with inFlight := rest } else none
  | .linkFails remaining =>
    if remaining.isSublist s.inFlight then
      some { s with linkUp := false, inFlight := remaining, lock := s.lock.map Holder.lose }
    else none
  | .connects =>
    if s.phase = .disconnected then
      some { s with
        phase := .connected
        linkUp := true
        brokerSubscriptions := ∅ }
    else none
  | .connectionLost =>
    if s.linkUp then none
    else match s.phase, s.lock with
      | .restoring, some (.restore _ _) => none
      -- restoring the subscriptions failed
      | .restoring, _ => some { s with phase := .disconnected }
      | .serving, _ =>
        some { s with phase := .disconnected, connected := false, retainedCache := ∅ }
      | _, _ => none

/-- Other clients may have published before; the dispatcher has no subscription. -/
structure State.IsInit (s : State) : Prop where
  subscriptions : s.subscriptions = ∅
  retainedCache : s.retainedCache = ∅
  connected : s.connected = true
  lock : s.lock = none
  phase : s.phase = .disconnected
  linkUp : s.linkUp = false
  retained : ∀ topic, s.retained.get? topic ≠ some ""

def dispatcher : Transition State Event where
  init := State.IsInit
  step := step

/-! ### What a callback has seen -/

/-- The payload that was seen last, where an empty one says that there is none. -/
def lastPayload (payloads : List Payload) : Option Payload :=
  payloads.getLast?.filter (· ≠ "")

/-- Of copies of one payload the last one is it. -/
lemma lastPayload_append_of_forall_eq {payloads payloads' : List Payload} {payload : Payload}
    (hne : payloads' ≠ []) (h : ∀ payload' ∈ payloads', payload' = payload) :
    lastPayload (payloads ++ payloads') = if payload = "" then none else some payload := by
  have hlast : (payloads ++ payloads').getLast? = some payload := by
    rw [List.getLast?_append_of_ne_nil _ hne, List.getLast?_eq_some_getLast hne,
      h _ (List.getLast_mem hne)]
  rw [lastPayload, hlast]
  by_cases hempty : payload = "" <;> simp [hempty]

namespace State

variable (s : State)

/-- The payloads of a topic that are delivered and not dispatched yet. -/
def upcoming (topic : Topic) : List Payload :=
  (s.inFlight.filter (·.topic = topic)).map Message.payload

/-- What a callback has seen last, once all messages are dispatched. -/
def expected (topic : Topic) (callback : Callback) : Option Payload :=
  lastPayload (s.received topic callback ++ s.upcoming topic)

/-- The link is up, no call is under way and all deliveries have been dispatched. -/
def IsQuiet : Prop := s.phase = .serving ∧ s.linkUp = true ∧ s.lock = none ∧ s.inFlight = []

/-- Every callback of a topic has seen its retained payload last, and nothing when it came after
the payload was deleted. -/
def SeesRetained : Prop :=
  s.IsQuiet → ∀ topic, IsTopic topic → ∀ callbacks, s.subscriptions.get? topic = some callbacks →
    ∀ callback ∈ callbacks, lastPayload (s.received topic callback) = s.retained.get? topic ∧
      (s.fresh topic callback = true → s.received topic callback = [])

/-- The SUBSCRIBE under the lock that the broker has not handled yet. -/
def subscribing : Option Topic :=
  match s.lock with
  | some (.subscribe filter .waiting) | some (.restore (filter :: _) .waiting) => some filter
  | _ => none

/-- A callback that is added to a subscribed topic gets to see its retained payload last: in the
cache, or in a message that is under way. -/
def CatchesUp (topic : Topic) (callback : Callback) : Prop :=
  ∀ callbacks ∈ s.subscriptions.get? topic, s.linkUp = true → topic ∈ s.brokerSubscriptions →
    lastPayload ((if callback ∈ callbacks then s.received topic callback else []) ++
      (s.retainedCache.get? topic).toList ++ s.upcoming topic) = s.retained.get? topic

/-- The dispatcher holds nothing more of a topic whose payload was deleted. -/
def HasForgotten (topic : Topic) : Prop :=
  s.retained.get? topic = none →
    s.upcoming topic = [] ∧
      (s.subscriptions.get? topic ≠ none → s.retainedCache.get? topic = none)

/-- No callback holds a payload that was deleted while the topic was not subscribed. -/
def MissedNoDelete (topic : Topic) : Prop :=
  s.retained.get? topic = none → ∀ callbacks ∈ s.subscriptions.get? topic,
    ∀ callback ∈ callbacks, s.expected topic callback = none

end State

/-- The cache is right for the callbacks that are registered, and no callback is left with a
payload whose deletion it could not see. -/
def Follows (s : State) : Event → Prop
  | .subscribe topic callback =>
    IsTopic topic → s.CatchesUp topic callback ∧ s.HasForgotten topic
  | .brokerHandles => ∀ topic ∈ s.subscribing, IsTopic topic → s.MissedNoDelete topic
  | _ => True

instance (s : State) (topic : Topic) (callback : Callback) :
    Decidable (s.CatchesUp topic callback) :=
  inferInstanceAs (Decidable (∀ callbacks ∈ s.subscriptions.get? topic, _ → _ → _))

instance (s : State) (topic : Topic) : Decidable (s.HasForgotten topic) :=
  inferInstanceAs (Decidable (_ → _ ∧ (_ → _)))

instance (s : State) (topic : Topic) : Decidable (s.MissedNoDelete topic) :=
  inferInstanceAs (Decidable (_ → ∀ callbacks ∈ s.subscriptions.get? topic,
    ∀ callback ∈ callbacks, _))

instance (s : State) : (event : Event) → Decidable (Follows s event)
  | .subscribe topic callback =>
    inferInstanceAs (Decidable (IsTopic topic → s.CatchesUp topic callback ∧ s.HasForgotten topic))
  | .brokerHandles =>
    inferInstanceAs (Decidable (∀ topic ∈ s.subscribing, IsTopic topic → s.MissedNoDelete topic))
  | .unsubscribe .. | .acknowledged | .fails | .raises | .restoreBegins | .connectionRestored
  | .publish .. | .dispatch | .linkFails _ | .connects | .connectionLost => instDecidableTrue

/-! ### The invariant -/

namespace State

/-- The broker delivers the messages of every subscription of the session. -/
structure Subscribed (s : State) : Prop where
  serving : s.linkUp = true → s.phase = .serving → ∀ filter ∈ s.subscriptions.keys,
    filter ∈ s.brokerSubscriptions ∨ ∃ status, s.lock = some (.subscribe filter status)
  restoring : s.linkUp = true → s.phase = .restoring → ∃ rest status,
    s.lock = some (.restore rest status) ∧ ∀ filter ∈ s.subscriptions.keys,
      filter ∈ s.brokerSubscriptions ∨ filter ∈ rest
  handled : s.linkUp = true → ∀ filter,
    (s.lock = some (.subscribe filter .handled) ∨
      ∃ rest, s.lock = some (.restore (filter :: rest) .handled)) → filter ∈ s.brokerSubscriptions
  gone : ∀ filter status, s.lock = some (.unsubscribe filter status) →
    filter ∉ s.subscriptions.keys
  restore : ∀ rest status, s.lock = some (.restore rest status) → s.phase = .restoring
  current : s.linkUp = true → s.phase = .serving → ∀ holder ∈ s.lock, holder ≠ holder.lose
  lost : s.linkUp = false → ∀ holder ∈ s.lock, holder = holder.lose
  idle : s.connected = false → s.phase = .connected →
    s.brokerSubscriptions = ∅ ∧ ∀ holder ∈ s.lock, holder = holder.lose
  connected : s.phase = .serving → s.connected = true
  disconnected : s.phase = .disconnected → s.linkUp = false

/-- What a callback of a subscribed topic will have seen is its retained payload. -/
structure Synced (s : State) : Prop where
  nonempty : ∀ topic, s.retained.get? topic ≠ some ""
  expected : s.linkUp = true → ∀ topic, IsTopic topic → topic ∈ s.brokerSubscriptions →
    s.lock ≠ some (.subscribe topic .waiting) → ∀ callbacks ∈ s.subscriptions.get? topic,
      ∀ callback ∈ callbacks, s.expected topic callback = s.retained.get? topic
  fresh : ∀ topic, IsTopic topic → ∀ callbacks ∈ s.subscriptions.get? topic,
    ∀ callback ∈ callbacks, s.fresh topic callback = true →
      s.retained.get? topic = none ∧ s.received topic callback = [] ∧ s.upcoming topic = []

variable {s : State}

lemma seesRetained (h : s.Subscribed) (h' : s.Synced) : s.SeesRetained := by
  rintro ⟨hserving, hup, hlock, hdispatched⟩ topic htopic callbacks hcallbacks callback hcallback
  have hupcoming : s.upcoming topic = [] := by rw [upcoming, hdispatched]; rfl
  have hsubscribed : topic ∈ s.brokerSubscriptions := by
    refine (h.serving hup hserving topic
      (Dict.mem_keys_iff.2 ⟨callbacks, hcallbacks⟩)).resolve_right ?_
    rintro ⟨status, hstatus⟩
    cases hlock.symm.trans hstatus
  have hexpected := h'.expected hup topic htopic hsubscribed (by rw [hlock]; exact nofun) callbacks
    hcallbacks callback hcallback
  rw [expected, hupcoming, List.append_nil] at hexpected
  exact ⟨hexpected, fun hfresh =>
    (h'.fresh topic htopic callbacks hcallbacks callback hcallback hfresh).2.1⟩

lemma IsInit.subscribed (h : s.IsInit) : s.Subscribed where
  serving _ hserving := by cases h.phase.symm.trans hserving
  restoring _ hrestoring := by cases h.phase.symm.trans hrestoring
  handled hup := by cases h.linkUp.symm.trans hup
  gone filter status hlock := by cases h.lock.symm.trans hlock
  restore rest status hlock := by cases h.lock.symm.trans hlock
  current hup := by cases h.linkUp.symm.trans hup
  lost _ holder hholder := by cases h.lock.symm.trans hholder
  idle hconnected := by cases h.connected.symm.trans hconnected
  connected hserving := by cases h.phase.symm.trans hserving
  disconnected _ := h.linkUp

lemma IsInit.synced (h : s.IsInit) : s.Synced where
  nonempty := h.retained
  expected hup := by cases h.linkUp.symm.trans hup
  fresh topic _ callbacks hcallbacks := by
    rw [h.subscriptions] at hcallbacks
    cases hcallbacks

/-! ### The subscriptions at the broker -/

/-- While the link is up in `connection_restored`, it has the lock. -/
lemma Subscribed.not_restoring (h : s.Subscribed) (hup : s.linkUp = true) (hlock : s.lock = none) :
    s.phase ≠ .restoring := by
  intro hrestoring
  obtain ⟨rest, status, hrestore, -⟩ := h.restoring hup hrestoring
  cases hlock.symm.trans hrestore

lemma callStatus_of_up (h : s.linkUp = true) : s.callStatus = .waiting := by
  simp [callStatus, h]

lemma callStatus_of_down (h : s.linkUp = false) : s.callStatus = .lost := by
  simp [callStatus, h]

/-- A call of the dispatcher in the same session: a new filter is being subscribed. -/
lemma Subscribed.of_call {s' : State} (h : s.Subscribed) (hlock : s.lock = none)
    (hphase : s'.phase = s.phase) (hconnected : s'.connected = s.connected)
    (hup : s'.linkUp = s.linkUp) (hbroker : s'.brokerSubscriptions = s.brokerSubscriptions)
    (hlock' : s'.lock = none ∨ s.connected = true ∧ ∃ filter, s'.lock =
      some (.subscribe filter s.callStatus) ∨ s'.lock = some (.unsubscribe filter s.callStatus))
    (hkeys : ∀ filter ∈ s'.subscriptions.keys, filter ∈ s.subscriptions.keys ∨
      s.connected = false ∨ s'.lock = some (.subscribe filter s.callStatus))
    (hgone : ∀ filter status, s'.lock = some (.unsubscribe filter status) →
      filter ∉ s'.subscriptions.keys) :
    s'.Subscribed where
  gone := hgone
  restore rest status hheld := by
    rcases hlock' with hnone | ⟨-, filter', hcall | hcall⟩
    · cases hnone.symm.trans hheld
    · cases hcall.symm.trans hheld
    · cases hcall.symm.trans hheld
  serving hup' hserving filter hfilter := by
    rw [hup] at hup'
    rw [hphase] at hserving
    rw [hbroker]
    rcases hkeys filter hfilter with hold | hdown | hcall
    · rcases h.serving hup' hserving filter hold with hmem | ⟨status, hstatus⟩
      · exact .inl hmem
      · cases hlock.symm.trans hstatus
    · cases hdown.symm.trans (h.connected hserving)
    · exact .inr ⟨_, hcall⟩
  -- a restore holds the lock over its whole time
  restoring hup' hrestoring :=
    absurd (hphase ▸ hrestoring) (h.not_restoring (hup ▸ hup') hlock)
  handled hup' filter hhandled := by
    rw [hup] at hup'
    rcases hlock' with hnone | ⟨-, filter', hcall | hcall⟩
    · rw [hnone] at hhandled
      rcases hhandled with hhandled | ⟨rest, hhandled⟩ <;> cases hhandled
    · rw [hcall, callStatus_of_up hup'] at hhandled
      rcases hhandled with hhandled | ⟨rest, hhandled⟩ <;> cases hhandled
    · rw [hcall, callStatus_of_up hup'] at hhandled
      rcases hhandled with hhandled | ⟨rest, hhandled⟩ <;> cases hhandled
  current hup' _ holder hholder := by
    rw [hup] at hup'
    rcases hlock' with hnone | ⟨-, filter', hcall | hcall⟩
    · cases hnone.symm.trans hholder
    · rw [hcall, callStatus_of_up hup'] at hholder
      cases hholder
      exact nofun
    · rw [hcall, callStatus_of_up hup'] at hholder
      cases hholder
      exact nofun
  lost hdown holder hholder := by
    rw [hup] at hdown
    rcases hlock' with hnone | ⟨-, filter', hcall | hcall⟩
    · cases hnone.symm.trans hholder
    · rw [hcall, callStatus_of_down hdown] at hholder
      cases hholder
      rfl
    · rw [hcall, callStatus_of_down hdown] at hholder
      cases hholder
      rfl
  idle hdown hphase' := by
    rw [hconnected] at hdown
    rw [hbroker]
    refine ⟨(h.idle hdown (hphase ▸ hphase')).1, fun holder hholder => ?_⟩
    rcases hlock' with hnone | ⟨hup', -⟩
    · cases hnone.symm.trans hholder
    · cases hdown.symm.trans hup'
  connected hserving := hconnected.trans (h.connected (hphase ▸ hserving))
  disconnected hphase' := hup.trans (h.disconnected (hphase ▸ hphase'))

lemma Subscribed.subscribe (h : s.Subscribed) (hlock : s.lock = none) (filter : Topic)
    (callback : Callback) : (s.subscribe filter callback).Subscribed := by
  unfold State.subscribe
  split
  · refine h.of_call hlock rfl rfl rfl rfl ?_ (fun filter' hfilter' => ?_)
      fun filter' status hcall => ?_
    · cases hconnected : s.connected with
      | true => exact .inr ⟨rfl, filter, .inl rfl⟩
      | false => exact .inl rfl
    · rcases Dict.mem_keys_set.1 hfilter' with rfl | hold
      · cases hconnected : s.connected with
        | true => exact .inr (.inr rfl)
        | false => exact .inr (.inl rfl)
      · exact .inl hold
    · dsimp only at hcall
      split at hcall <;> cases hcall
  · next callbacks hcallbacks =>
    refine h.of_call hlock rfl rfl rfl rfl (.inl hlock) (fun filter' hfilter' => .inl ?_)
      fun filter' status hcall => nomatch hlock.symm.trans hcall
    rcases Dict.mem_keys_set.1 hfilter' with rfl | hold
    · exact Dict.mem_keys_iff.2 ⟨callbacks, hcallbacks⟩
    · exact hold

lemma mem_keys_of_erase {filter filter' : Topic}
    (h : filter' ∈ (s.subscriptions.erase filter).keys) : filter' ∈ s.subscriptions.keys := by
  obtain ⟨callbacks, hcallbacks⟩ := Dict.mem_keys_iff.1 h
  rw [Dict.get?_erase] at hcallbacks
  split at hcallbacks
  · cases hcallbacks
  · exact Dict.mem_keys_iff.2 ⟨callbacks, hcallbacks⟩

lemma not_mem_keys_erase {filter : Topic} : filter ∉ (s.subscriptions.erase filter).keys := by
  rw [Dict.mem_keys_iff, Dict.get?_erase_self]
  exact nofun

lemma Subscribed.dropFilter (h : s.Subscribed) (hlock : s.lock = none) (filter : Topic) :
    (s.dropFilter filter).Subscribed := by
  refine h.of_call hlock rfl rfl rfl rfl ?_
    (fun filter' hfilter' => .inl (mem_keys_of_erase hfilter')) fun filter' status hcall => ?_
  · unfold State.dropFilter
    cases hconnected : s.connected with
    | true => exact .inr ⟨rfl, filter, .inr rfl⟩
    | false => exact .inl rfl
  · unfold State.dropFilter at hcall
    dsimp only at hcall
    split at hcall
    · cases hcall
      exact not_mem_keys_erase
    · cases hcall

lemma Subscribed.unsubscribe (h : s.Subscribed) (hlock : s.lock = none) (filter : Topic)
    (callback : Option Callback) : (s.unsubscribe filter callback).Subscribed := by
  unfold State.unsubscribe
  split
  · exact h
  · next callbacks hcallbacks =>
    split
    · exact h.dropFilter hlock filter
    · split
      · exact h.dropFilter hlock filter
      · refine h.of_call hlock rfl rfl rfl rfl (.inl hlock) (fun filter' hfilter' => .inl ?_)
          fun filter' status hcall => nomatch hlock.symm.trans hcall
        rcases Dict.mem_keys_set.1 hfilter' with rfl | hold
        · exact Dict.mem_keys_iff.2 ⟨callbacks, hcallbacks⟩
        · exact hold

/-- The broker handles a SUBSCRIBE. -/
lemma Subscribed.brokerSubscribe {filter : Topic} {holder : Holder} (h : s.Subscribed)
    (hholder : ∃ waiting ∈ s.lock, waiting ≠ waiting.lose ∧
      ((∃ rest, waiting = .restore (filter :: rest) .waiting ∧
          holder = .restore (filter :: rest) .handled) ∨
        waiting = .subscribe filter .waiting ∧ holder = .subscribe filter .handled)) :
    ({ s.brokerSubscribe filter with lock := some holder } : State).Subscribed := by
  obtain ⟨waiting, hwaiting, hlose, hcases⟩ := hholder
  have hup : s.linkUp = true := by
    by_contra hdown
    exact hlose (h.lost (by simpa using hdown) waiting hwaiting)
  refine ⟨fun _ hserving filter' hfilter' => ?_, fun _ hrestoring => ?_,
    fun _ filter' hhandled => ?_,
    fun filter' status hheld => ?_, fun rest status hheld => ?_, fun _ _ holder' hholder' => ?_,
    fun hdown => ?_, fun hdown hphase => ?_, h.connected, h.disconnected⟩
  · rcases h.serving hup hserving filter' hfilter' with hmem | ⟨status, hstatus⟩
    · exact .inl (Finset.mem_insert_of_mem hmem)
    · refine .inl (Finset.mem_insert.2 (.inl ?_))
      rcases hcases with ⟨rest, rfl, -⟩ | ⟨rfl, -⟩
      · cases hwaiting.symm.trans hstatus
      · cases hwaiting.symm.trans hstatus
        rfl
  · obtain ⟨rest, status, hrestore, hkeys⟩ := h.restoring hup hrestoring
    rcases hcases with ⟨rest', rfl, rfl⟩ | ⟨rfl, -⟩
    · cases hwaiting.symm.trans hrestore
      exact ⟨_, _, rfl, fun filter' hfilter' =>
        (hkeys filter' hfilter').imp_left Finset.mem_insert_of_mem⟩
    · cases hwaiting.symm.trans hrestore
  · refine Finset.mem_insert.2 (.inl ?_)
    rcases hcases with ⟨rest, -, rfl⟩ | ⟨-, rfl⟩
    · rcases hhandled with hhandled | ⟨rest', hhandled⟩
      · cases hhandled
      · cases hhandled
        rfl
    · rcases hhandled with hhandled | ⟨rest', hhandled⟩
      · cases hhandled
        rfl
      · cases hhandled
  · cases hheld
    rcases hcases with ⟨rest, -, hheld⟩ | ⟨-, hheld⟩ <;> cases hheld
  · cases hheld
    rcases hcases with ⟨rest', rfl, -⟩ | ⟨-, hheld⟩
    · exact h.restore _ _ hwaiting
    · cases hheld
  · cases hholder'
    rcases hcases with ⟨rest, -, rfl⟩ | ⟨-, rfl⟩ <;> exact nofun
  · cases hup.symm.trans hdown
  · exact absurd ((h.idle hdown hphase).2 waiting hwaiting) hlose

/-- The call under the lock is over, and its filter is subscribed or gone. -/
lemma Subscribed.release {s' : State} {holder : Holder} (h : s.Subscribed)
    (hholder : s.lock = some holder) (hrestore : ∀ rest status, holder ≠ .restore rest status)
    (hphase : s'.phase = s.phase) (hconnected : s'.connected = s.connected)
    (hup : s'.linkUp = s.linkUp) (hbroker : s'.brokerSubscriptions = s.brokerSubscriptions)
    (hlock : s'.lock = none)
    (hkeys : ∀ filter ∈ s'.subscriptions.keys, filter ∈ s.subscriptions.keys ∧
      ∀ status, holder = .subscribe filter status →
        s.linkUp = true → s.phase = .serving → filter ∈ s.brokerSubscriptions) :
    s'.Subscribed where
  serving hup' hserving filter hfilter := by
    rw [hup] at hup'
    rw [hphase] at hserving
    rw [hbroker]
    obtain ⟨hold, hsubscribed⟩ := hkeys filter hfilter
    rcases h.serving hup' hserving filter hold with hmem | ⟨status, hstatus⟩
    · exact .inl hmem
    · exact .inl (hsubscribed status (Option.some.inj (hholder.symm.trans hstatus)) hup' hserving)
  restoring hup' hrestoring := by
    obtain ⟨rest, status, hheld, -⟩ := h.restoring (hup ▸ hup') (hphase ▸ hrestoring)
    exact absurd (Option.some.inj (hholder.symm.trans hheld)) (hrestore rest status)
  handled _ filter hhandled := by
    rw [hlock] at hhandled
    rcases hhandled with hhandled | ⟨rest, hhandled⟩ <;> cases hhandled
  gone filter status hheld := by cases hlock.symm.trans hheld
  restore rest status hheld := by cases hlock.symm.trans hheld
  current _ _ holder' hholder' := by cases hlock.symm.trans hholder'
  lost _ holder' hholder' := by cases hlock.symm.trans hholder'
  idle hdown hphase' := by
    rw [hbroker]
    refine ⟨(h.idle (hconnected ▸ hdown) (hphase ▸ hphase')).1, fun holder' hholder' => ?_⟩
    cases hlock.symm.trans hholder'
  connected hserving := hconnected.trans (h.connected (hphase ▸ hserving))
  disconnected hphase' := hup.trans (h.disconnected (hphase ▸ hphase'))

/-- With the link down the broker has nothing to deliver. -/
lemma subscribed_of_down {s' : State} (hup : s'.linkUp = false)
    (hlost : ∀ holder ∈ s'.lock, holder = holder.lose) (hconnected : s'.phase = .serving →
      s'.connected = true) (hidle : s'.connected = false → s'.phase = .connected →
        s'.brokerSubscriptions = ∅)
    (hgone : ∀ filter status, s'.lock = some (.unsubscribe filter status) →
      filter ∉ s'.subscriptions.keys)
    (hrestore : ∀ rest status, s'.lock = some (.restore rest status) → s'.phase = .restoring) :
    s'.Subscribed where
  gone := hgone
  restore := hrestore
  serving hup' := by cases hup.symm.trans hup'
  restoring hup' := by cases hup.symm.trans hup'
  handled hup' := by cases hup.symm.trans hup'
  current hup' := by cases hup.symm.trans hup'
  lost _ := hlost
  idle hdown hphase := ⟨hidle hdown hphase, hlost⟩
  connected := hconnected
  disconnected _ := hup

lemma lose_lose (holder : Holder) : holder.lose = holder.lose.lose := by
  cases holder <;> rfl

lemma Subscribed.brokerHandles {s' : State} (h : s.Subscribed)
    (hstep : step s .brokerHandles = some s') : s'.Subscribed := by
  simp only [step] at hstep
  split at hstep
  · next filter hlock =>
    obtain rfl := Option.some.inj hstep
    exact h.brokerSubscribe ⟨_, hlock, nofun, .inr ⟨rfl, rfl⟩⟩
  · next filter hlock =>
    obtain rfl := Option.some.inj hstep
    have hup : s.linkUp = true := by
      by_contra hdown
      cases h.lost (by simpa using hdown) _ hlock
    refine ⟨fun _ hserving filter' hfilter' => ?_, fun _ hrestoring => ?_,
      fun _ filter' hhandled => ?_, fun filter' status hheld => ?_, nofun,
      fun _ _ holder hholder => ?_, fun hdown => ?_, fun hdown hphase => ?_, h.connected,
      h.disconnected⟩
    · have hne : filter' ≠ filter := fun heq => h.gone filter _ hlock (heq ▸ hfilter')
      rcases h.serving hup hserving filter' hfilter' with hmem | ⟨status, hstatus⟩
      · exact .inl (Finset.mem_erase.2 ⟨hne, hmem⟩)
      · cases hlock.symm.trans hstatus
    · obtain ⟨rest, status, hheld, -⟩ := h.restoring hup hrestoring
      cases hlock.symm.trans hheld
    · rcases hhandled with hhandled | ⟨rest, hhandled⟩ <;> cases hhandled
    · cases hheld
      exact h.gone filter _ hlock
    · cases hholder
      exact nofun
    · cases hup.symm.trans hdown
    · cases (h.idle hdown hphase).2 _ hlock
  · next filter rest hlock =>
    obtain rfl := Option.some.inj hstep
    exact h.brokerSubscribe ⟨_, hlock, nofun, .inl ⟨rest, rfl, rfl⟩⟩
  · cases hstep

lemma Subscribed.acknowledged {s' : State} (h : s.Subscribed)
    (hstep : step s .acknowledged = some s') : s'.Subscribed := by
  simp only [step] at hstep
  split at hstep
  · next filter hlock =>
    obtain rfl := Option.some.inj hstep
    refine h.release hlock nofun rfl rfl rfl rfl rfl fun filter' hfilter' => ⟨hfilter', ?_⟩
    intro status hheld hup _
    obtain ⟨rfl, -⟩ := Holder.subscribe.inj hheld
    exact h.handled hup filter (.inl hlock)
  · next filter hlock =>
    obtain rfl := Option.some.inj hstep
    exact h.release hlock nofun rfl rfl rfl rfl rfl fun filter' hfilter' => ⟨hfilter', nofun⟩
  · next filter rest hlock =>
    obtain rfl := Option.some.inj hstep
    refine ⟨fun hup hserving filter' hfilter' => ?_, fun hup hrestoring => ?_,
      fun hup filter' hhandled => ?_, fun filter' status hheld => ?_,
      fun _ _ _ => h.restore _ _ hlock, fun hup _ holder hholder => ?_,
      fun hdown holder hholder => ?_, fun hdown hphase => ?_, h.connected, h.disconnected⟩
    · refine .inl ((h.serving hup hserving filter' hfilter').resolve_right ?_)
      rintro ⟨status, hstatus⟩
      cases hlock.symm.trans hstatus
    · obtain ⟨rest', status, hheld, hkeys⟩ := h.restoring hup hrestoring
      cases hlock.symm.trans hheld
      refine ⟨rest, _, rfl, fun filter' hfilter' => ?_⟩
      rcases hkeys filter' hfilter' with hmem | hrest
      · exact .inl hmem
      · rcases List.mem_cons.1 hrest with rfl | hrest
        · exact .inl (h.handled hup _ (.inr ⟨rest, hlock⟩))
        · exact .inr hrest
    · rw [@callStatus_of_up s hup] at hhandled
      rcases hhandled with hhandled | ⟨rest, hhandled⟩ <;> cases hhandled
    · cases hheld
    · cases hholder
      rw [@callStatus_of_up s hup]
      exact nofun
    · cases hholder
      rw [@callStatus_of_down s hdown]
      rfl
    · cases (h.idle hdown hphase).2 _ hlock
  · cases hstep

lemma Subscribed.fails {s' : State} (h : s.Subscribed) (hstep : step s .fails = some s') :
    s'.Subscribed := by
  simp only [step] at hstep
  split at hstep
  · next filter hlock =>
    obtain rfl := Option.some.inj hstep
    refine h.release hlock nofun rfl rfl rfl rfl rfl fun filter' hfilter' => ⟨hfilter', ?_⟩
    intro status _ hup hserving
    exact absurd rfl (h.current hup hserving _ hlock)
  · next filter hlock =>
    obtain rfl := Option.some.inj hstep
    exact h.release hlock nofun rfl rfl rfl rfl rfl fun filter' hfilter' => ⟨hfilter', nofun⟩
  · cases hstep
  · cases hstep
  · next holder _ _ _ hlock =>
    obtain rfl := Option.some.inj hstep
    exact subscribed_of_down rfl nofun h.connected
      (fun hdown hphase => (h.idle hdown hphase).1) nofun nofun

lemma Subscribed.raises {s' : State} (h : s.Subscribed) (hstep : step s .raises = some s') :
    s'.Subscribed := by
  simp only [step] at hstep
  split at hstep
  · next filter status hlock =>
    obtain rfl := Option.some.inj hstep
    refine h.release hlock nofun rfl rfl rfl rfl rfl fun filter' hfilter' =>
      ⟨mem_keys_of_erase hfilter', ?_⟩
    rintro status ⟨⟩
    exact absurd hfilter' not_mem_keys_erase
  · next filter status hlock =>
    obtain rfl := Option.some.inj hstep
    exact h.release hlock nofun rfl rfl rfl rfl rfl fun filter' hfilter' => ⟨hfilter', nofun⟩
  · cases hstep

lemma subscribed_of_restoreBegins {s' : State} (hstep : step s .restoreBegins = some s') :
    s'.Subscribed := by
  simp only [step, Option.ite_none_right_eq_some, Option.some.injEq] at hstep
  obtain ⟨⟨hphase, hlock⟩, rfl⟩ := hstep
  refine ⟨fun _ => nofun, fun hup _ => ⟨_, _, rfl, fun filter hfilter => .inr hfilter⟩,
    fun hup filter hhandled => ?_, fun filter status hheld => ?_, fun _ _ _ => rfl, fun _ => nofun,
    fun hdown holder hholder => ?_, fun _ => nofun, nofun, nofun⟩
  · rw [@callStatus_of_up s hup] at hhandled
    rcases hhandled with hhandled | ⟨rest, hhandled⟩
    · cases hhandled
    · cases (Holder.restore.inj (Option.some.inj hhandled)).2
  · cases hheld
  · cases hholder
    rw [@callStatus_of_down s hdown]
    rfl

lemma Subscribed.connectionRestored {s' : State} (h : s.Subscribed)
    (hstep : step s .connectionRestored = some s') : s'.Subscribed := by
  simp only [step] at hstep
  split at hstep
  · next status hlock =>
    obtain rfl := Option.some.inj hstep
    refine ⟨fun hup _ filter hfilter => ?_, fun _ => nofun, fun _ filter hhandled => ?_,
      nofun, nofun,
      fun _ _ => nofun, fun _ => nofun, nofun, fun _ => rfl, nofun⟩
    · obtain ⟨rest, status', hheld, hkeys⟩ := h.restoring hup (h.restore _ _ hlock)
      cases hlock.symm.trans hheld
      exact .inl ((hkeys filter hfilter).resolve_right List.not_mem_nil)
    · rcases hhandled with hhandled | ⟨rest, hhandled⟩ <;> cases hhandled
  · cases hstep

lemma Subscribed.linkFails {s' : State} {remaining : List Message} (h : s.Subscribed)
    (hstep : step s (.linkFails remaining) = some s') : s'.Subscribed := by
  simp only [step, Option.ite_none_right_eq_some, Option.some.injEq] at hstep
  obtain ⟨-, rfl⟩ := hstep
  refine subscribed_of_down rfl ?_ h.connected (fun hdown hphase => (h.idle hdown hphase).1) ?_ ?_
  · intro holder hholder
    obtain ⟨holder', -, rfl⟩ := Option.map_eq_some_iff.1 hholder
    exact lose_lose holder'
  · intro filter status hheld
    obtain ⟨holder, hlock, heq⟩ := Option.map_eq_some_iff.1 hheld
    cases holder with
    | subscribe filter' status' => cases heq
    | unsubscribe filter' status' =>
      cases heq
      exact h.gone filter status' hlock
    | restore rest status' => cases heq
  · intro rest status hheld
    obtain ⟨holder, hlock, heq⟩ := Option.map_eq_some_iff.1 hheld
    cases holder with
    | subscribe filter' status' => cases heq
    | unsubscribe filter' status' => cases heq
    | restore rest' status' => exact h.restore rest' status' hlock

lemma Subscribed.connects {s' : State} (h : s.Subscribed) (hstep : step s .connects = some s') :
    s'.Subscribed := by
  simp only [step, Option.ite_none_right_eq_some, Option.some.injEq] at hstep
  obtain ⟨hphase, rfl⟩ := hstep
  have hlost := h.lost (h.disconnected hphase)
  refine ⟨fun _ => nofun, fun _ => nofun, fun _ filter hhandled => ?_, h.gone,
    fun rest status hheld => ?_, fun _ => nofun, nofun, fun _ _ => ⟨rfl, hlost⟩, nofun, nofun⟩
  · rcases hhandled with hhandled | ⟨rest, hhandled⟩
    · cases hlost _ hhandled
    · cases hlost _ hhandled
  · cases hphase.symm.trans (h.restore rest status hheld)

lemma Subscribed.connectionLost {s' : State} (h : s.Subscribed)
    (hstep : step s .connectionLost = some s') : s'.Subscribed := by
  simp only [step, Option.ite_none_left_eq_some] at hstep
  obtain ⟨hdown, hstep⟩ := hstep
  have hup : s.linkUp = false := by simpa using hdown
  split at hstep
  · cases hstep
  · next hphase hother =>
    obtain rfl := Option.some.inj hstep
    exact subscribed_of_down hup (h.lost hup) nofun nofun h.gone fun rest status hheld =>
      (hother rest status hheld).elim
  · next hphase =>
    obtain rfl := Option.some.inj hstep
    refine subscribed_of_down hup (h.lost hup) nofun nofun h.gone fun rest status hheld => ?_
    cases hphase.symm.trans (h.restore rest status hheld)
  · cases hstep

/-- One event keeps the subscriptions. -/
lemma Subscribed.step {s' : State} {event : Event} (h : s.Subscribed)
    (hstep : step s event = some s') : s'.Subscribed := by
  cases event with
  | subscribe filter callback =>
    simp only [MqttCache.step, Option.ite_none_right_eq_some, Option.some.injEq] at hstep
    obtain ⟨hlock, rfl⟩ := hstep
    exact h.subscribe hlock filter callback
  | unsubscribe filter callback =>
    simp only [MqttCache.step, Option.ite_none_right_eq_some, Option.some.injEq] at hstep
    obtain ⟨hlock, rfl⟩ := hstep
    exact h.unsubscribe hlock filter callback
  | brokerHandles => exact h.brokerHandles hstep
  | acknowledged => exact h.acknowledged hstep
  | fails => exact h.fails hstep
  | raises => exact h.raises hstep
  | restoreBegins => exact subscribed_of_restoreBegins hstep
  | connectionRestored => exact h.connectionRestored hstep
  | publish topic payload copies =>
    simp only [MqttCache.step, Option.ite_none_right_eq_some, Option.some.injEq] at hstep
    obtain ⟨-, rfl⟩ := hstep
    exact ⟨h.serving, h.restoring, h.handled, h.gone, h.restore, h.current, h.lost, h.idle,
      h.connected, h.disconnected⟩
  | dispatch =>
    simp only [MqttCache.step] at hstep
    split at hstep
    · cases hstep
    · obtain ⟨-, hdispatch⟩ := Option.ite_none_right_eq_some.1 hstep
      obtain rfl := Option.some.inj hdispatch
      exact ⟨h.serving, h.restoring, h.handled, h.gone, h.restore, h.current, h.lost, h.idle,
        h.connected, h.disconnected⟩
  | linkFails remaining => exact h.linkFails hstep
  | connects => exact h.connects hstep
  | connectionLost => exact h.connectionLost hstep

/-! ### What the callbacks have seen -/

/-- Nothing is delivered and no callback is added. -/
lemma Synced.frame {s' : State} (h : s.Synced) (hretained : s'.retained = s.retained)
    (hreceived : s'.received = s.received) (hfresh : s'.fresh = s.fresh)
    (hinFlight : s'.inFlight = s.inFlight)
    (hsubscriptions : ∀ topic, ∀ callbacks' ∈ s'.subscriptions.get? topic,
      ∃ callbacks ∈ s.subscriptions.get? topic, callbacks' ⊆ callbacks)
    (hup : s'.linkUp = true → s.linkUp = true ∧ ∀ topic ∈ s'.subscriptions.keys,
      topic ∈ s'.brokerSubscriptions → s'.lock ≠ some (.subscribe topic .waiting) →
        topic ∈ s.brokerSubscriptions ∧ s.lock ≠ some (.subscribe topic .waiting)) :
    s'.Synced where
  nonempty := hretained ▸ h.nonempty
  expected hup' topic htopic hbroker hlock callbacks' hcallbacks' callback hcallback := by
    obtain ⟨callbacks, hcallbacks, hsubset⟩ := hsubscriptions topic callbacks' hcallbacks'
    obtain ⟨hup, hold⟩ := hup hup'
    obtain ⟨hbroker, hlock⟩ :=
      hold topic (Dict.mem_keys_iff.2 ⟨callbacks', hcallbacks'⟩) hbroker hlock
    rw [State.expected, State.upcoming, hreceived, hinFlight, hretained]
    exact h.expected hup topic htopic hbroker hlock callbacks hcallbacks callback
      (hsubset hcallback)
  fresh topic htopic callbacks' hcallbacks' callback hcallback hcallbackFresh := by
    obtain ⟨callbacks, hcallbacks, hsubset⟩ := hsubscriptions topic callbacks' hcallbacks'
    rw [hfresh] at hcallbackFresh
    rw [State.upcoming, hreceived, hinFlight, hretained]
    exact h.fresh topic htopic callbacks hcallbacks callback (hsubset hcallback) hcallbackFresh

lemma get?_erase_subset {filter topic : Topic} {callbacks : Finset Callback}
    (h : callbacks ∈ (s.subscriptions.erase filter).get? topic) :
    ∃ callbacks' ∈ s.subscriptions.get? topic, callbacks ⊆ callbacks' := by
  rw [Dict.get?_erase] at h
  split at h
  · cases h
  · exact ⟨callbacks, h, subset_rfl⟩

lemma Synced.dropFilter (h : s.Synced) (hlock : s.lock = none) (filter : Topic) :
    (s.dropFilter filter).Synced := by
  refine h.frame rfl rfl rfl rfl (fun topic callbacks => get?_erase_subset)
    fun hup => ⟨hup, fun topic _ hbroker _ => ⟨hbroker, ?_⟩⟩
  rw [hlock]
  exact nofun

lemma Synced.unsubscribe (h : s.Synced) (hlock : s.lock = none) (filter : Topic)
    (callback : Option Callback) : (s.unsubscribe filter callback).Synced := by
  unfold State.unsubscribe
  split
  · exact h
  · next callbacks hcallbacks =>
    split
    · exact h.dropFilter hlock filter
    · split
      · exact h.dropFilter hlock filter
      · refine h.frame rfl rfl rfl rfl (fun topic callbacks' hcallbacks' => ?_)
          fun hup => ⟨hup, fun topic _ hbroker hlock' => ⟨hbroker, hlock'⟩⟩
        dsimp only at hcallbacks'
        rw [Option.mem_def, Dict.get?_set] at hcallbacks'
        split at hcallbacks'
        · next heq =>
          obtain rfl := Option.some.inj hcallbacks'
          exact ⟨callbacks, heq ▸ hcallbacks, Finset.erase_subset _ _⟩
        · exact ⟨callbacks', hcallbacks', subset_rfl⟩

/-- Without a connection the broker delivers nothing. -/
lemma Subscribed.not_mem_of_not_connected (h : s.Subscribed) (hlock : s.lock = none)
    (hconnected : s.connected = false) (hup : s.linkUp = true) (topic : Topic) :
    topic ∉ s.brokerSubscriptions := by
  cases hphase : s.phase with
  | disconnected => cases hup.symm.trans (h.disconnected hphase)
  | connected =>
    rw [(h.idle hconnected hphase).1]
    exact Finset.notMem_empty topic
  | restoring => exact absurd hphase (h.not_restoring hup hlock)
  | serving => cases hconnected.symm.trans (h.connected hphase)

@[simp] lemma get?_register {filter topic : Topic} {callback : Callback}
    {callbacks : Finset Callback} {replay : List Payload} :
    (s.register filter callback callbacks replay).subscriptions.get? topic =
      if topic = filter then some (insert callback callbacks) else s.subscriptions.get? topic :=
  Dict.get?_set ..

lemma received_register {filter topic : Topic} {callback callback' : Callback}
    {callbacks : Finset Callback} {replay : List Payload} :
    (s.register filter callback callbacks replay).received topic callback' =
      if topic = filter ∧ callback' = callback then
        (if callback ∈ callbacks then s.received filter callback else []) ++ replay
      else s.received topic callback' := by
  unfold register
  dsimp only
  rw [Function.update_apply]
  by_cases htopic : topic = filter
  · subst htopic
    rw [if_pos rfl, Function.update_apply]
    simp
  · rw [if_neg htopic, if_neg fun h => htopic h.1]

lemma fresh_register {filter topic : Topic} {callback callback' : Callback}
    {callbacks : Finset Callback} {replay : List Payload} :
    (s.register filter callback callbacks replay).fresh topic callback' =
      if topic = filter ∧ callback' = callback then
        if callback ∈ callbacks then s.fresh filter callback
        else s.retained.get? filter = none
      else s.fresh topic callback' := by
  unfold register
  dsimp only
  rw [Function.update_apply]
  by_cases htopic : topic = filter
  · subst htopic
    rw [if_pos rfl, Function.update_apply]
    by_cases hcallback : callback' = callback <;> simp [hcallback]
  · rw [if_neg htopic, if_neg fun h => htopic h.1]

lemma Synced.register {filter : Topic} {callback : Callback} {callbacks : Finset Callback}
    {replay : List Payload} {lock' : Option Holder} (h : s.Synced) (hlock : s.lock = none)
    (hcallbacks : s.subscriptions.get? filter = some callbacks ∨ callbacks = ∅)
    (hforgotten : IsTopic filter → s.retained.get? filter = none →
      s.upcoming filter = [] ∧ replay = [])
    (hcatchesUp : IsTopic filter → s.linkUp = true → filter ∈ s.brokerSubscriptions →
      lock' ≠ some (.subscribe filter .waiting) →
        lastPayload ((if callback ∈ callbacks then s.received filter callback else []) ++ replay ++
          s.upcoming filter) = s.retained.get? filter) :
    ({ s.register filter callback callbacks replay with lock := lock' } : State).Synced := by
  have hold {callback' : Callback} (hmem : callback' ∈ callbacks) :
      s.subscriptions.get? filter = some callbacks := by
    refine hcallbacks.resolve_right ?_
    rintro rfl
    exact absurd hmem (Finset.notMem_empty _)
  have hfree (topic : Topic) : s.lock ≠ some (.subscribe topic .waiting) := by
    rw [hlock]
    exact nofun
  refine ⟨h.nonempty,
    fun hup topic htopic hbroker hlock' callbacks' hcallbacks' callback' hmem => ?_,
    fun topic htopic callbacks' hcallbacks' callback' hmem hfresh => ?_⟩
  · show lastPayload ((s.register filter callback callbacks replay).received topic callback' ++
      s.upcoming topic) = s.retained.get? topic
    change (s.register filter callback callbacks replay).subscriptions.get? topic = _ at hcallbacks'
    rw [get?_register] at hcallbacks'
    rw [received_register]
    by_cases heq : topic = filter
    · subst heq
      rw [if_pos rfl] at hcallbacks'
      obtain rfl := Option.some.inj hcallbacks'
      -- the callback of the call catches up, and the others have seen what there is
      by_cases hnew : callback' = callback
      · subst hnew
        rw [if_pos ⟨rfl, rfl⟩]
        exact hcatchesUp htopic hup hbroker hlock'
      · rw [if_neg fun heq => hnew heq.2]
        have hmem' := (Finset.mem_insert.1 hmem).resolve_left hnew
        exact h.expected hup topic htopic hbroker (hfree topic) callbacks
          (hold hmem') callback' hmem'
    · rw [if_neg fun h => heq h.1]
      rw [if_neg heq] at hcallbacks'
      exact h.expected hup topic htopic hbroker (hfree topic) callbacks' hcallbacks' callback' hmem
  · show s.retained.get? topic = none ∧
      (s.register filter callback callbacks replay).received topic callback' = [] ∧
        s.upcoming topic = []
    change (s.register filter callback callbacks replay).subscriptions.get? topic = _ at hcallbacks'
    change (s.register filter callback callbacks replay).fresh topic callback' = true at hfresh
    rw [get?_register] at hcallbacks'
    rw [fresh_register] at hfresh
    rw [received_register]
    by_cases heq : topic = filter
    · subst heq
      rw [if_pos rfl] at hcallbacks'
      obtain rfl := Option.some.inj hcallbacks'
      by_cases hnew : callback' = callback
      · subst hnew
        rw [if_pos ⟨rfl, rfl⟩] at hfresh ⊢
        -- a callback that is subscribed again may be fresh from before
        by_cases hmem' : callback' ∈ callbacks
        · rw [if_pos hmem'] at hfresh ⊢
          obtain ⟨hnone, hreceived, hupcoming⟩ :=
            h.fresh topic htopic callbacks (hold hmem') callback' hmem' hfresh
          exact ⟨hnone, by rw [hreceived, (hforgotten htopic hnone).2]; rfl, hupcoming⟩
        · rw [if_neg hmem'] at hfresh ⊢
          have hnone := of_decide_eq_true hfresh
          exact ⟨hnone, (hforgotten htopic hnone).2, (hforgotten htopic hnone).1⟩
      · rw [if_neg fun heq => hnew heq.2] at hfresh ⊢
        have hmem' := (Finset.mem_insert.1 hmem).resolve_left hnew
        exact h.fresh topic htopic callbacks (hold hmem') callback' hmem' hfresh
    · rw [if_neg fun h => heq h.1] at hfresh ⊢
      rw [if_neg heq] at hcallbacks'
      exact h.fresh topic htopic callbacks' hcallbacks' callback' hmem hfresh

lemma Synced.subscribe (h : s.Synced) (hsubscribed : s.Subscribed) (hlock : s.lock = none)
    {filter : Topic} {callback : Callback} (hfollows : Follows s (.subscribe filter callback)) :
    (s.subscribe filter callback).Synced := by
  unfold State.subscribe
  cases hget : s.subscriptions.get? filter with
  | none =>
    refine h.register hlock (.inr rfl) (fun htopic hnone =>
      ⟨((hfollows htopic).2 hnone).1, rfl⟩) fun htopic hup hbroker hlock' => ?_
    cases hconnected : s.connected with
    | true =>
      rw [hconnected, if_pos rfl, callStatus_of_up hup] at hlock'
      exact absurd rfl hlock'
    | false =>
      exact absurd hbroker (hsubscribed.not_mem_of_not_connected hlock hconnected hup filter)
  | some callbacks =>
    have hregister := @Synced.register s filter callback callbacks
      (s.retainedCache.get? filter).toList none h hlock (.inl hget) (fun htopic hnone => ?_)
      fun htopic hup hbroker _ => (hfollows htopic).1 callbacks hget hup hbroker
    · rw [← hlock] at hregister
      exact hregister
    · obtain ⟨hupcoming, hcache⟩ := (hfollows htopic).2 hnone
      rw [hcache (by rw [hget]; exact nofun)]
      exact ⟨hupcoming, rfl⟩

lemma upcoming_append {s' : State} {messages : List Message} {topic : Topic}
    (h : s'.inFlight = s.inFlight ++ messages) : s'.upcoming topic =
      s.upcoming topic ++ (messages.filter (·.topic = topic)).map Message.payload := by
  rw [upcoming, upcoming, h, List.filter_append, List.map_append]

/-- The stored message of a topic holds its retained payload. -/
lemma mem_stored_iff {filter topic : Topic} {payload : Payload} :
    payload ∈ ((s.stored filter).filter (·.topic = topic)).map Message.payload ↔
      matchesTopic filter topic = true ∧ s.retained.get? topic = some payload := by
  constructor
  · intro hmem
    obtain ⟨message, hmessage, rfl⟩ := List.mem_map.1 hmem
    obtain ⟨hstored, htopic⟩ := List.mem_filter.1 hmessage
    obtain ⟨e, he, rfl⟩ := List.mem_map.1 hstored
    obtain ⟨hentry, hmatches⟩ := List.mem_filter.1 he
    obtain rfl := of_decide_eq_true htopic
    exact ⟨hmatches, Dict.get?_eq_some_iff.2 hentry⟩
  · rintro ⟨hmatches, hget⟩
    refine List.mem_map.2 ⟨⟨topic, payload, true⟩, List.mem_filter.2 ⟨?_, by simp⟩, rfl⟩
    exact List.mem_map.2 ⟨(topic, payload),
      List.mem_filter.2 ⟨Dict.get?_eq_some_iff.1 hget, hmatches⟩, rfl⟩

lemma stored_eq_nil_iff {filter topic : Topic} :
    ((s.stored filter).filter (·.topic = topic)).map Message.payload = [] ↔
      matchesTopic filter topic = false ∨ s.retained.get? topic = none := by
  rw [List.eq_nil_iff_forall_not_mem]
  simp only [mem_stored_iff, not_and]
  constructor
  · intro h
    cases hmatches : matchesTopic filter topic with
    | false => exact .inl rfl
    | true => exact .inr (Option.eq_none_iff_forall_ne_some.2 fun payload => h payload hmatches)
  · rintro (hmatches | hnone) payload hmatches' hget
    · cases hmatches.symm.trans hmatches'
    · cases hnone.symm.trans hget

/-- The broker handles a SUBSCRIBE. -/
lemma Synced.brokerSubscribe {filter : Topic} {holder : Holder} (h : s.Synced)
    (hup : s.linkUp = true)
    (hlock : ∀ topic, s.lock = some (.subscribe topic .waiting) → topic = filter)
    (hmissed : IsTopic filter → s.MissedNoDelete filter) :
    ({ s.brokerSubscribe filter with lock := some holder } : State).Synced := by
  set s' : State := { s.brokerSubscribe filter with lock := some holder } with hs'
  have hupcoming (topic : Topic) : s'.upcoming topic = s.upcoming topic ++
      ((s.stored filter).filter (·.topic = topic)).map Message.payload :=
    upcoming_append rfl
  refine ⟨h.nonempty, fun _ topic htopic hbroker _ callbacks hcallbacks callback hcallback => ?_,
    fun topic htopic callbacks hcallbacks callback hcallback hfresh => ?_⟩
  · show lastPayload (s.received topic callback ++ s'.upcoming topic) = s.retained.get? topic
    rw [hupcoming, ← List.append_assoc]
    by_cases hstored : matchesTopic filter topic = false ∨ s.retained.get? topic = none
    · -- no stored message is delivered for the topic
      rw [stored_eq_nil_iff.2 hstored, List.append_nil]
      by_cases heq : topic = filter
      · subst heq
        have hnone := hstored.resolve_left (by rw [(matchesTopic_iff htopic).2 rfl]; exact nofun)
        exact (hmissed htopic hnone callbacks hcallbacks callback hcallback).trans hnone.symm
      · have hbroker' : topic ∈ s.brokerSubscriptions :=
          (Finset.mem_insert.1 hbroker).resolve_left heq
        exact h.expected hup topic htopic hbroker' (fun hheld => heq (hlock topic hheld)) callbacks
          hcallbacks callback hcallback
    · rw [not_or] at hstored
      obtain ⟨payload, hpayload⟩ := Option.ne_none_iff_exists'.1 hstored.2
      rw [lastPayload_append_of_forall_eq (mt stored_eq_nil_iff.1 (not_or.2 hstored))
        fun payload' hpayload' =>
          Option.some.inj ((mem_stored_iff.1 hpayload').2.symm.trans hpayload),
        hpayload, if_neg]
      rintro rfl
      exact h.nonempty topic hpayload
  · obtain ⟨hnone, hreceived, hnothing⟩ :=
      h.fresh topic htopic callbacks hcallbacks callback hcallback hfresh
    refine ⟨hnone, hreceived, ?_⟩
    rw [hupcoming, hnothing, stored_eq_nil_iff.2 (.inr hnone)]
    rfl

lemma get?_retained_publish {topic topic' : Topic} {payload : Payload} {copies : ℕ} :
    (s.publish topic payload copies).retained.get? topic' =
      if topic' = topic then if payload = "" then none else some payload
      else s.retained.get? topic' := by
  unfold State.publish
  dsimp only
  split
  · rw [Dict.get?_erase]
  · rw [Dict.get?_set]

lemma Synced.publish {topic : Topic} {payload : Payload} {copies : ℕ} (h : s.Synced)
    (htopic : IsTopic topic) : (s.publish topic payload copies).Synced := by
  have hother {topic' : Topic} (hne : topic' ≠ topic) :
      (s.publish topic payload copies).upcoming topic' = s.upcoming topic' := by
    by_cases hdelivered : s.linkUp = true ∧ ∃ filter ∈ s.brokerSubscriptions,
      matchesTopic filter topic
    · rw [@upcoming_append s _ (List.replicate (copies + 1) ⟨topic, payload, false⟩) topic'
        (if_pos hdelivered), List.filter_eq_nil_iff.2, List.map_nil, List.append_nil]
      intro message hmessage
      rw [List.eq_of_mem_replicate hmessage]
      simpa using Ne.symm hne
    · exact congrArg (fun messages => (List.filter (·.topic = topic') messages).map Message.payload)
        (if_neg hdelivered)
  refine ⟨fun topic' => ?_, fun hup topic' htopic' hbroker hlock callbacks hcallbacks callback
    hcallback => ?_, fun topic' htopic' callbacks hcallbacks callback hcallback hfresh => ?_⟩
  · rw [get?_retained_publish]
    split
    · split
      · simp
      · next hne => exact fun heq => hne (Option.some.inj heq)
    · exact h.nonempty topic'
  · rw [get?_retained_publish]
    show lastPayload
      (s.received topic' callback ++ (s.publish topic payload copies).upcoming topic') = _
    by_cases heq : topic' = topic
    · subst heq
      have hdelivered : s.linkUp = true ∧ ∃ filter ∈ s.brokerSubscriptions,
        matchesTopic filter topic' :=
        ⟨hup, topic', hbroker, (matchesTopic_iff htopic').2 rfl⟩
      rw [@upcoming_append s _ (List.replicate (copies + 1) ⟨topic', payload, false⟩) topic'
        (if_pos hdelivered), ← List.append_assoc, if_pos rfl]
      refine lastPayload_append_of_forall_eq (by simp) fun payload' hpayload' => ?_
      obtain ⟨message, hmessage, rfl⟩ := List.mem_map.1 hpayload'
      rw [List.eq_of_mem_replicate (List.mem_filter.1 hmessage).1]
    · rw [hother heq, if_neg heq]
      exact h.expected hup topic' htopic' hbroker hlock callbacks hcallbacks callback hcallback
  · by_cases heq : topic' = topic
    · subst heq
      change Function.update s.fresh topic' (fun _ => false) topic' callback = true at hfresh
      rw [Function.update_self] at hfresh
      cases hfresh
    · change Function.update s.fresh topic (fun _ => false) topic' callback = true at hfresh
      rw [Function.update_of_ne heq] at hfresh
      rw [get?_retained_publish, if_neg heq, hother heq]
      exact h.fresh topic' htopic' callbacks hcallbacks callback hcallback hfresh

lemma upcoming_cons {message : Message} {rest : List Message} {topic : Topic}
    (h : s.inFlight = message :: rest) : s.upcoming topic =
      if message.topic = topic then
        message.payload :: (rest.filter (·.topic = topic)).map Message.payload
      else (rest.filter (·.topic = topic)).map Message.payload := by
  rw [upcoming, h, List.filter_cons]
  by_cases heq : message.topic = topic <;> simp [heq]

lemma Synced.dispatch {message : Message} {rest : List Message} (h : s.Synced)
    (hinFlight : s.inFlight = message :: rest) :
    ({ s.dispatch message with inFlight := rest } : State).Synced := by
  -- a callback of a topic is handed the messages of this topic
  have hreceived {topic : Topic} (htopic : IsTopic topic) {callbacks : Finset Callback}
      (hcallbacks : s.subscriptions.get? topic = some callbacks) {callback : Callback}
      (hcallback : callback ∈ callbacks) : (s.dispatch message).received topic callback =
        if message.topic = topic then s.received topic callback ++ [message.payload]
        else s.received topic callback := by
    unfold State.dispatch
    dsimp only
    rw [hcallbacks]
    by_cases heq : message.topic = topic
    · subst heq
      rw [if_pos rfl, if_pos ⟨(matchesTopic_iff htopic).2 rfl, by simpa using hcallback⟩]
    · rw [if_neg heq, if_neg fun h => heq ((matchesTopic_iff htopic).1 h.1).symm]
  refine ⟨h.nonempty, fun hup topic htopic hbroker hlock callbacks hcallbacks callback
    hcallback => ?_, fun topic htopic callbacks hcallbacks callback hcallback hfresh => ?_⟩
  · show lastPayload ((s.dispatch message).received topic callback ++
      (rest.filter (·.topic = topic)).map Message.payload) = s.retained.get? topic
    rw [hreceived htopic hcallbacks hcallback,
      ← h.expected hup topic htopic hbroker hlock callbacks hcallbacks callback hcallback,
      State.expected, upcoming_cons hinFlight]
    split
    · rw [List.append_assoc, List.singleton_append]
    · rfl
  · obtain ⟨hnone, hnothing, hupcoming⟩ :=
      h.fresh topic htopic callbacks hcallbacks callback hcallback hfresh
    rw [upcoming_cons hinFlight] at hupcoming
    split at hupcoming
    · cases hupcoming
    · next hne =>
      refine ⟨hnone, ?_, hupcoming⟩
      exact (hreceived htopic hcallbacks hcallback).trans ((if_neg hne).trans hnothing)

/-- The lock and the session change, and no message and no callback. -/
lemma Synced.of_session {s' : State} (h : s.Synced) (hretained : s'.retained = s.retained)
    (hreceived : s'.received = s.received) (hfresh : s'.fresh = s.fresh)
    (hinFlight : s'.inFlight = s.inFlight) (hsubscriptions : s'.subscriptions = s.subscriptions)
    (hup : s'.linkUp = true → s.linkUp = true ∧
      ∀ topic ∈ s'.brokerSubscriptions, topic ∈ s.brokerSubscriptions ∧
        s.lock ≠ some (.subscribe topic .waiting)) : s'.Synced :=
  h.frame hretained hreceived hfresh hinFlight
    (fun _ callbacks hcallbacks => ⟨callbacks, hsubscriptions ▸ hcallbacks, subset_rfl⟩)
    fun hup' => ⟨(hup hup').1, fun _ _ hbroker _ => (hup hup').2 _ hbroker⟩

/-- The lock is not held by a SUBSCRIBE that the broker has not handled. -/
lemma ne_waiting {holder : Holder} (hlock : s.lock = some holder)
    (h : ∀ topic, holder ≠ .subscribe topic .waiting) (topic : Topic) :
    s.lock ≠ some (.subscribe topic .waiting) :=
  fun hheld => h topic (Option.some.inj (hlock.symm.trans hheld))

/-- One event keeps what the callbacks have seen. -/
lemma Synced.step {s' : State} {event : Event} (h : s.Synced) (hsubscribed : s.Subscribed)
    (hfollows : Follows s event) (hstep : step s event = some s') : s'.Synced := by
  cases event with
  | subscribe filter callback =>
    simp only [MqttCache.step, Option.ite_none_right_eq_some, Option.some.injEq] at hstep
    obtain ⟨hlock, rfl⟩ := hstep
    exact h.subscribe hsubscribed hlock hfollows
  | unsubscribe filter callback =>
    simp only [MqttCache.step, Option.ite_none_right_eq_some, Option.some.injEq] at hstep
    obtain ⟨hlock, rfl⟩ := hstep
    exact h.unsubscribe hlock filter callback
  | brokerHandles =>
    simp only [MqttCache.step] at hstep
    -- over a link that is down the broker handles nothing
    have hup (holder : Holder) (hlock : s.lock = some holder) (hlose : holder ≠ holder.lose) :
        s.linkUp = true := by
      by_contra hdown
      exact hlose (hsubscribed.lost (by simpa using hdown) holder hlock)
    split at hstep
    · next filter hlock =>
      obtain rfl := Option.some.inj hstep
      refine h.brokerSubscribe (hup _ hlock nofun) (fun topic hheld => ?_) fun htopic =>
        hfollows filter (by rw [subscribing, hlock]; rfl) htopic
      cases hlock.symm.trans hheld
      rfl
    · next filter hlock =>
      obtain rfl := Option.some.inj hstep
      exact h.of_session rfl rfl rfl rfl rfl fun hup' => ⟨hup', fun topic hbroker =>
        ⟨Finset.mem_of_mem_erase hbroker, ne_waiting hlock nofun topic⟩⟩
    · next filter rest hlock =>
      obtain rfl := Option.some.inj hstep
      refine h.brokerSubscribe (hup _ hlock nofun) (fun topic hheld => ?_) fun htopic =>
        hfollows filter (by rw [subscribing, hlock]; rfl) htopic
      cases hlock.symm.trans hheld
    · cases hstep
  | acknowledged =>
    simp only [MqttCache.step] at hstep
    split at hstep
    · next hlock =>
      obtain rfl := Option.some.inj hstep
      exact h.of_session rfl rfl rfl rfl rfl fun hup => ⟨hup, fun topic hbroker =>
        ⟨hbroker, ne_waiting hlock nofun topic⟩⟩
    · next hlock =>
      obtain rfl := Option.some.inj hstep
      exact h.of_session rfl rfl rfl rfl rfl fun hup => ⟨hup, fun topic hbroker =>
        ⟨hbroker, ne_waiting hlock nofun topic⟩⟩
    · next hlock =>
      obtain rfl := Option.some.inj hstep
      exact h.of_session rfl rfl rfl rfl rfl fun hup => ⟨hup, fun topic hbroker =>
        ⟨hbroker, ne_waiting hlock nofun topic⟩⟩
    · cases hstep
  | fails =>
    simp only [MqttCache.step] at hstep
    split at hstep
    · next hlock =>
      obtain rfl := Option.some.inj hstep
      exact h.of_session rfl rfl rfl rfl rfl fun hup => ⟨hup, fun topic hbroker =>
        ⟨hbroker, ne_waiting hlock nofun topic⟩⟩
    · next hlock =>
      obtain rfl := Option.some.inj hstep
      exact h.of_session rfl rfl rfl rfl rfl fun hup => ⟨hup, fun topic hbroker =>
        ⟨hbroker, ne_waiting hlock nofun topic⟩⟩
    · cases hstep
    · cases hstep
    · obtain rfl := Option.some.inj hstep
      exact h.of_session rfl rfl rfl rfl rfl nofun
  | raises =>
    simp only [MqttCache.step] at hstep
    split at hstep
    · next filter status hlock =>
      obtain rfl := Option.some.inj hstep
      -- the filter of a subscription that has failed is forgotten
      refine h.frame rfl rfl rfl rfl (fun topic callbacks => get?_erase_subset) fun hup =>
        ⟨hup, fun topic hkey hbroker _ => ⟨hbroker, fun hheld => ?_⟩⟩
      cases hlock.symm.trans hheld
      exact not_mem_keys_erase hkey
    · next filter status hlock =>
      obtain rfl := Option.some.inj hstep
      exact h.of_session rfl rfl rfl rfl rfl fun hup => ⟨hup, fun topic hbroker =>
        ⟨hbroker, ne_waiting hlock nofun topic⟩⟩
    · cases hstep
  | restoreBegins =>
    simp only [MqttCache.step, Option.ite_none_right_eq_some, Option.some.injEq] at hstep
    obtain ⟨⟨-, hlock⟩, rfl⟩ := hstep
    exact h.of_session rfl rfl rfl rfl rfl fun hup => ⟨hup, fun topic hbroker =>
      ⟨hbroker, by rw [hlock]; exact nofun⟩⟩
  | connectionRestored =>
    simp only [MqttCache.step] at hstep
    split at hstep
    · next status hlock =>
      obtain rfl := Option.some.inj hstep
      exact h.of_session rfl rfl rfl rfl rfl fun hup => ⟨hup, fun topic hbroker =>
        ⟨hbroker, ne_waiting hlock nofun topic⟩⟩
    · cases hstep
  | publish topic payload copies =>
    simp only [MqttCache.step, Option.ite_none_right_eq_some, Option.some.injEq] at hstep
    obtain ⟨htopic, rfl⟩ := hstep
    exact h.publish htopic
  | dispatch =>
    simp only [MqttCache.step] at hstep
    split at hstep
    · cases hstep
    · next message rest hinFlight =>
      obtain ⟨-, hdispatch⟩ := Option.ite_none_right_eq_some.1 hstep
      obtain rfl := Option.some.inj hdispatch
      exact h.dispatch hinFlight
  | linkFails remaining =>
    simp only [MqttCache.step, Option.ite_none_right_eq_some, Option.some.injEq] at hstep
    obtain ⟨hremaining, rfl⟩ := hstep
    -- what still arrives was on its way before
    refine ⟨h.nonempty, nofun,
      fun topic htopic callbacks hcallbacks callback hcallback hfresh => ?_⟩
    obtain ⟨hnone, hnothing, hupcoming⟩ :=
      h.fresh topic htopic callbacks hcallbacks callback hcallback hfresh
    refine ⟨hnone, hnothing, List.sublist_nil.1 ?_⟩
    rw [← hupcoming]
    exact ((List.isSublist_iff_sublist.1 hremaining).filter _).map _
  | connects =>
    simp only [MqttCache.step, Option.ite_none_right_eq_some, Option.some.injEq] at hstep
    obtain ⟨-, rfl⟩ := hstep
    refine ⟨h.nonempty, fun _ topic _ hbroker => absurd hbroker (Finset.notMem_empty topic),
      h.fresh⟩
  | connectionLost =>
    simp only [MqttCache.step, Option.ite_none_left_eq_some] at hstep
    obtain ⟨hdown, hstep⟩ := hstep
    split at hstep
    · cases hstep
    · obtain rfl := Option.some.inj hstep
      exact h.of_session rfl rfl rfl rfl rfl fun hup => absurd hup hdown
    · obtain rfl := Option.some.inj hstep
      exact h.of_session rfl rfl rfl rfl rfl fun hup => absurd hup hdown
    · cases hstep

end State

/-- In every run that follows the rules for callbacks that come late and for deletes that are
missed, all callbacks of a topic have seen its retained payload when nothing is under way. -/
theorem seesRetained_of_follows {s : State} (h : dispatcher.Reach Follows s) : s.SeesRetained := by
  have hsubscribed (s : State) (h : dispatcher.Reach Follows s) : s.Subscribed :=
    Transition.Reach.invariant (fun _ => State.IsInit.subscribed)
      (fun _ _ _ h _ hstep => h.step hstep) h
  have hsynced : s.Synced := Transition.Reach.invariant_of hsubscribed
    (fun _ => State.IsInit.synced)
    (fun _ _ _ hsubscribed h hfollows hstep => h.step hsubscribed hfollows hstep) h
  exact State.seesRetained (hsubscribed s h) hsynced

/-- The topic `a` holds `1`. -/
def initial : State where
  subscriptions := ∅
  retainedCache := ∅
  connected := true
  lock := none
  phase := .disconnected
  linkUp := false
  brokerSubscriptions := ∅
  inFlight := []
  retained := (∅ : Dict Topic Payload).set ["a"] "1"
  received _ _ := []
  fresh _ _ := false

lemma isInit_initial : initial.IsInit := by
  refine ⟨rfl, rfl, rfl, rfl, rfl, rfl, fun topic => ?_⟩
  show ((∅ : Dict Topic Payload).set ["a"] "1").get? topic ≠ some ""
  rw [Dict.get?_set]
  split
  · decide
  · simp

/-- A first callback of the topic has received its stored message. -/
def firstCallback : List Event :=
  [.connects, .restoreBegins, .connectionRestored, .subscribe ["a"] 1, .brokerHandles,
    .acknowledged, .dispatch]

/-- A second callback is handed the message from the cache, and then both see an update. -/
theorem seesRetained_secondCallback :
    ∃ s : State, s.received ["a"] 2 = ["1", "2"] ∧ s.retained.get? ["a"] = some "2" ∧
      s.SeesRetained := by
  have hrun : (dispatcher.run Follows initial (firstCallback ++
      [.subscribe ["a"] 2, .publish ["a"] "2" 0, .dispatch])).any (fun s =>
        s.received ["a"] 2 = ["1", "2"] ∧ s.retained.get? ["a"] = some "2") = true := by
    decide +kernel
  obtain ⟨s, hs, hstate⟩ := (Option.any_eq_true _ _).1 hrun
  obtain ⟨hreceived, hretained⟩ := of_decide_eq_true hstate
  exact ⟨s, hreceived, hretained,
    seesRetained_of_follows ((Transition.Reach.init isInit_initial).run hs)⟩

/-- The update comes before the second callback, which is handed the old payload. -/
theorem not_seesRetained_liveUpdate :
    ¬∀ s : State, dispatcher.Reachable s → s.SeesRetained := by
  intro h
  have hrun : (dispatcher.run (fun _ _ => True) initial (firstCallback ++
      [.publish ["a"] "2" 0, .dispatch, .subscribe ["a"] 2])).any (fun s =>
        (s.phase = .serving ∧ s.linkUp = true ∧ s.lock = none ∧ s.inFlight = []) ∧
          s.subscriptions.get? ["a"] = some {1, 2} ∧ s.received ["a"] 2 = ["1"] ∧
          s.retained.get? ["a"] = some "2") = true := by
    decide +kernel
  obtain ⟨s, hs, hstate⟩ := (Option.any_eq_true _ _).1 hrun
  obtain ⟨hquiet, hcallbacks, hreceived, hretained⟩ := of_decide_eq_true hstate
  have hsees := h s ((Transition.Reach.init isInit_initial).run hs) hquiet ["a"] (by decide) {1, 2}
    hcallbacks 2 (by decide)
  rw [hreceived, hretained] at hsees
  exact absurd hsees.1 (by decide)

end WbMqttDali.MqttCache
