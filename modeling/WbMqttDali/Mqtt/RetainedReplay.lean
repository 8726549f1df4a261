import WbMqttDali.Lib.Dict
import WbMqttDali.Lib.RetainedStore
import WbMqttDali.Lib.Transition

/-!
# Retained topics across broker sessions

The dispatcher mirrors the last payload of every topic it published retained.
While the link is down publishes only reach the mirror, and every new session
replays the mirror beside the live traffic.  A client publish is a call that
the broker applies later, in call order; a call that fails is followed by the
loss of the connection.  What the broker holds when a connection comes back is
arbitrary: it may have been restarted.
-/

namespace WbMqttDali.Mqtt

open RetainedStore (EmptyPayload retainedOf)
open RetainedStore.Store (applyAll_append applyAll_cons applyAll_of_ne apply_of_ne apply_self)

abbrev Topic := String

instance : EmptyPayload String := ⟨""⟩

structure MirroredMessage where
  payload : Option String
  qos : ℕ
  deriving DecidableEq, Repr

/-- A client publish with the retain flag. -/
abbrev Call := RetainedStore.Call Topic String

/-- The retained payloads of a broker. -/
abbrev Store := RetainedStore.Store Topic String

/-- `replay_retained` of the current session. -/
inductive Replay
  /-- There is none, or it was cancelled. -/
  | none
  | created
  | running (rest : List Topic)
  /-- It found the link down. -/
  | returned
  | failed
  | completed
  deriving DecidableEq, Repr

/-- Where the reconnect loop is. -/
inductive Phase
  | disconnected
  /-- Connected, in `connection_restored`. -/
  | restoring
  | serving
  deriving DecidableEq, Repr

/-- The dispatcher and the broker.  `calls` are the client publishes that the
broker has not applied yet, `linkUp` says that no call failed on this
connection, and `lastPublished` and `live` only record what happened: the last
payload passed to `publish`, and the topics published since the session began. -/
structure State where
  connected : Bool
  retainedMirror : Dict Topic MirroredMessage
  replay : Replay
  phase : Phase
  linkUp : Bool
  calls : List Call
  broker : Store
  lastPublished : Topic → Option (Option String)
  live : Finset Topic

namespace State

variable (s : State)

/-- `_mirror_retained`. -/
def mirrorRetained (topic : Topic) (payload : Option String) (qos : ℕ) : State :=
  let current := s.retainedMirror.get? topic
  -- a topic that appears again goes to the end
  let mirror :=
    if payload ≠ none ∧ (current.bind (·.payload)) = none then s.retainedMirror.erase topic
    else s.retainedMirror
  { s with retainedMirror := mirror.set topic ⟨payload, qos⟩ }

/-- `client.publish`.  On a failing link the call may still be queued. -/
def clientPublish (topic : Topic) (payload : Option String) (queued : Bool) : State :=
  if s.linkUp ∨ queued then { s with calls := s.calls ++ [{ topic, payload }] } else s

/-- `publish` with the retain flag. -/
def publish (topic : Topic) (payload : Option String) (qos : ℕ) (queued : Bool) : State :=
  let s := s.mirrorRetained topic payload qos
  let s := { s with
    lastPublished := Function.update s.lastPublished topic (some payload)
    live := insert topic s.live }
  if s.connected then s.clientPublish topic payload queued else s

/-- One turn of `replay_retained`: up to the next await. -/
def replayStep (queued : Bool) : State :=
  match s.replay with
  | .created => { s with replay := .running s.retainedMirror.keys }
  | .running [] => { s with replay := .completed }
  | .running (topic :: rest) =>
    if !s.connected then { s with replay := .returned }
    else match s.retainedMirror.get? topic with
      -- a missing key raises
      | none => { s with replay := .failed }
      | some message =>
        { s.clientPublish topic message.payload queued with
          replay := if s.linkUp then .running rest else .failed }
  | _ => s

/-- The retained payloads once the broker has applied all calls. -/
def settled : Store := s.broker.applyAll s.calls

end State

inductive Event
  | publish (topic : Topic) (payload : Option String) (qos : ℕ) (queued : Bool)
  | replayStep (queued : Bool)
  | brokerApplies
  /-- A client publish fails or the connection breaks; some of the calls get lost. -/
  | linkFails (remaining : List Call)
  /-- The client connects to a broker that holds `store`. -/
  | connects (store : Store)
  /-- `connection_restored` is done, and the replay task is created. -/
  | connectionRestored
  /-- The session tasks were cancelled, then `connection_lost`. -/
  | connectionLost

/-- One event; the reconnect loop decides which of its steps comes next. -/
def step (s : State) : Event → Option State
  | .publish topic payload qos queued => some (s.publish topic payload qos queued)
  | .replayStep queued => some (s.replayStep queued)
  | .brokerApplies =>
    match s.calls with
    | [] => none
    | call :: calls => some { s with calls := calls, broker := s.broker.apply call }
  | .linkFails remaining =>
    if remaining.isSublist s.calls then some { s with linkUp := false, calls := remaining }
    else none
  | .connects store =>
    if s.phase = .disconnected then
      some { s with phase := .restoring, linkUp := true, broker := store }
    else none
  | .connectionRestored =>
    if s.phase = .restoring then
      some { s with phase := .serving, connected := true, replay := .created, live := ∅ }
    else none
  | .connectionLost =>
    if s.linkUp then none
    else match s.phase with
      | .disconnected => none
      -- restoring the subscriptions failed
      | .restoring => some { s with phase := .disconnected }
      | .serving =>
        some { s with phase := .disconnected, connected := false, replay := .none }

/-- Before the first connection nothing was published. -/
def initial : State where
  connected := true
  retainedMirror := ∅
  replay := .none
  phase := .disconnected
  linkUp := false
  calls := []
  broker _ := none
  lastPublished _ := none
  live := ∅

def retained : Transition State Event where
  init s := s = initial
  step := step

/-! ### The mirror and the calls -/

namespace State

variable {s : State} {topic topic' : Topic} {payload : Option String} {qos : ℕ} {queued : Bool}

lemma get?_mirrorRetained :
    (s.mirrorRetained topic payload qos).retainedMirror.get? topic' =
      if topic' = topic then some ⟨payload, qos⟩ else s.retainedMirror.get? topic' := by
  rw [mirrorRetained]
  by_cases h : topic' = topic
  · subst h
    simp
  · simp only [Dict.get?_set_of_ne _ _ h, if_neg h]
    split
    · rw [Dict.get?_erase_of_ne _ h]
    · rfl

lemma mem_keys_mirrorRetained (h : topic' ∈ s.retainedMirror.keys) :
    topic' ∈ (s.mirrorRetained topic payload qos).retainedMirror.keys := by
  rw [Dict.mem_keys_iff] at h ⊢
  rw [get?_mirrorRetained]
  split
  · exact ⟨_, rfl⟩
  · exact h

lemma settled_append {s' : State} {call : Call} (hbroker : s'.broker = s.broker)
    (hcalls : s'.calls = s.calls ++ [call]) : s'.settled = s.settled.apply call := by
  rw [settled, settled, hbroker, hcalls, applyAll_append]
  rfl

/-! ### The invariant -/

/-- The topic is still ahead of the replay. -/
def Ahead (s : State) (topic : Topic) : Prop :=
  s.replay = .created ∨ ∃ rest, s.replay = .running rest ∧ topic ∈ rest

/-- The broker will hold the last payload published for the topic. -/
def UpToDate (s : State) (topic : Topic) : Prop :=
  ∀ payload, s.lastPublished topic = some payload → s.settled topic = retainedOf payload

/-- The mirror holds what was published last, and on a session whose link is up
every topic is up to date or ahead of the replay. -/
structure Mirrored (s : State) : Prop where
  mirror : ∀ topic, (s.retainedMirror.get? topic).map (·.payload) = s.lastPublished topic
  rest : ∀ rest, s.replay = .running rest → ∀ topic ∈ rest, topic ∈ s.retainedMirror.keys
  connected : s.phase = .serving → s.connected = true
  replayed : s.phase = .serving → s.linkUp → ∀ topic, s.UpToDate topic ∨ s.Ahead topic
  live : s.phase = .serving → s.linkUp → ∀ topic ∈ s.live, s.UpToDate topic

lemma Mirrored.init : initial.Mirrored where
  mirror _ := rfl
  rest := by simp [initial]
  connected := by simp [initial]
  replayed := by simp [initial]
  live := by simp [initial]

variable {s' : State}

/-- Calls may move to the broker. -/
lemma UpToDate.of_settled (h : s.UpToDate topic) (hsettled : s'.settled topic = s.settled topic)
    (hlast : s'.lastPublished topic = s.lastPublished topic) : s'.UpToDate topic := by
  intro payload hpayload
  rw [hsettled]
  exact h payload (hlast ▸ hpayload)

/-- A call with the payload published last brings its topic up to date, and leaves
the others as they are. -/
lemma UpToDate.of_apply (hsettled : s'.settled = s.settled.apply { topic, payload })
    (hlast : s'.lastPublished = Function.update s.lastPublished topic (some payload))
    (h : topic' = topic ∨ s.UpToDate topic') : s'.UpToDate topic' := by
  intro last hlast'
  rw [hsettled]
  rw [hlast] at hlast'
  by_cases heq : topic' = topic
  · subst heq
    rw [Function.update_self] at hlast'
    obtain rfl := Option.some.inj hlast'
    exact apply_self rfl
  · rw [Function.update_of_ne heq] at hlast'
    rw [apply_of_ne heq]
    exact h.resolve_left heq last hlast'

/-- What `publish` does to the fields besides the calls. -/
lemma publish_fields :
    (s.publish topic payload qos queued).retainedMirror =
        (s.mirrorRetained topic payload qos).retainedMirror ∧
      (s.publish topic payload qos queued).lastPublished =
        Function.update s.lastPublished topic (some payload) ∧
      (s.publish topic payload qos queued).replay = s.replay ∧
      (s.publish topic payload qos queued).phase = s.phase ∧
      (s.publish topic payload qos queued).linkUp = s.linkUp ∧
      (s.publish topic payload qos queued).connected = s.connected ∧
      (s.publish topic payload qos queued).live = insert topic s.live := by
  rw [publish]
  split
  · rw [clientPublish]
    split <;> exact ⟨rfl, rfl, rfl, rfl, rfl, rfl, rfl⟩
  · exact ⟨rfl, rfl, rfl, rfl, rfl, rfl, rfl⟩

/-- On a session with its link up the payload goes out at once. -/
lemma settled_publish (hconnected : s.connected = true) (hup : s.linkUp = true) :
    (s.publish topic payload qos queued).settled = s.settled.apply { topic, payload } := by
  refine settled_append ?_ ?_ <;> simp [publish, clientPublish, mirrorRetained, hconnected, hup]

lemma Mirrored.publish (h : s.Mirrored) (topic : Topic) (payload : Option String) (qos : ℕ)
    (queued : Bool) : (s.publish topic payload qos queued).Mirrored := by
  obtain ⟨hmirror, hlast, hreplay, hphase, hlink, hconnected, hlive⟩ :=
    @publish_fields s topic payload qos queued
  have huptodate : s.phase = .serving → s.linkUp → ∀ topic', (topic' = topic ∨ s.UpToDate topic') →
      (s.publish topic payload qos queued).UpToDate topic' := fun hserving hup topic' =>
    UpToDate.of_apply (settled_publish (h.connected hserving) hup) hlast
  constructor
  · intro topic'
    rw [hmirror, hlast, get?_mirrorRetained, Function.update_apply]
    split
    · rfl
    · exact h.mirror topic'
  · intro rest hrest topic' htopic'
    rw [hmirror]
    exact mem_keys_mirrorRetained (h.rest rest (hreplay ▸ hrest) topic' htopic')
  · intro hserving
    rw [hconnected]
    exact h.connected (hphase ▸ hserving)
  · intro hserving hup topic'
    rw [hphase] at hserving
    rw [hlink] at hup
    rcases h.replayed hserving hup topic' with hold | hahead
    · exact Or.inl (huptodate hserving hup topic' (Or.inr hold))
    · exact Or.inr (by rwa [Ahead, hreplay])
  · intro hserving hup topic' htopic'
    rw [hphase] at hserving
    rw [hlink] at hup
    rw [hlive, Finset.mem_insert] at htopic'
    exact huptodate hserving hup topic' (htopic'.imp_right (h.live hserving hup topic'))

lemma Mirrored.replayStep (h : s.Mirrored) (queued : Bool) : (s.replayStep queued).Mirrored := by
  rw [State.replayStep]
  split
  · next hcreated =>
    constructor
    · exact h.mirror
    · intro rest hrest topic htopic
      obtain rfl : s.retainedMirror.keys = rest := Replay.running.inj hrest
      exact htopic
    · exact h.connected
    · intro hserving hup topic
      by_cases hkey : topic ∈ s.retainedMirror.keys
      · exact Or.inr (Or.inr ⟨_, rfl, hkey⟩)
      · -- a topic without a mirror entry was never published
        refine Or.inl fun payload hpayload => ?_
        have hnone : s.lastPublished topic = none := by
          rw [← h.mirror, Dict.get?_eq_none_iff.2 hkey]
          rfl
        replace hpayload : s.lastPublished topic = some payload := hpayload
        rw [hnone] at hpayload
        cases hpayload
    · exact h.live
  · next hrunning =>
    refine ⟨h.mirror, by simp, h.connected, fun hserving hup topic => Or.inl ?_, h.live⟩
    rcases h.replayed hserving hup topic with hdone | hcreated | ⟨rest, hrest, hmem⟩
    · exact hdone
    · rw [hrunning] at hcreated
      cases hcreated
    · obtain rfl : [] = rest := Replay.running.inj (hrunning.symm.trans hrest)
      cases hmem
  · next topic rest hrunning =>
    have hkey := h.rest _ hrunning topic (List.mem_cons_self ..)
    split
    · next hlost =>
      refine ⟨h.mirror, by simp, h.connected, fun hserving => ?_, h.live⟩
      simp [h.connected hserving] at hlost
    · obtain ⟨message, hmessage⟩ := Dict.mem_keys_iff.1 hkey
      simp only [hmessage]
      have hlast : s.lastPublished topic = some message.payload := by
        rw [← h.mirror, hmessage]
        rfl
      set t := { s.clientPublish topic message.payload queued with
        replay := if s.linkUp then Replay.running rest else .failed } with ht
      have hframe : t.retainedMirror = s.retainedMirror ∧ t.lastPublished = s.lastPublished ∧
          t.phase = s.phase ∧ t.linkUp = s.linkUp ∧ t.connected = s.connected ∧
          t.live = s.live := by
        rw [ht]
        simp only [clientPublish]
        split <;> exact ⟨rfl, rfl, rfl, rfl, rfl, rfl⟩
      obtain ⟨hmirror, hpublished, hphase, hlink, hconnected, hlive⟩ := hframe
      have huptodate : s.linkUp → ∀ topic', (topic' = topic ∨ s.UpToDate topic') →
          t.UpToDate topic' := by
        intro hup topic'
        refine UpToDate.of_apply (settled_append ?_ ?_)
          (hpublished.trans (Function.update_eq_self_iff.2 hlast.symm).symm)
        · rw [ht]
          simp [clientPublish, hup]
        · rw [ht]
          simp [clientPublish, hup]
      constructor
      · intro topic'
        rw [hmirror, hpublished]
        exact h.mirror topic'
      · intro rest' hrest' topic' htopic'
        rw [hmirror]
        have hrest : rest' = rest := by
          rw [ht] at hrest'
          simp only at hrest'
          split at hrest'
          · exact (Replay.running.inj hrest').symm
          · cases hrest'
        exact h.rest _ hrunning topic' (List.mem_cons_of_mem _ (hrest ▸ htopic'))
      · intro hserving
        rw [hconnected]
        exact h.connected (hphase ▸ hserving)
      · intro hserving hup topic'
        rw [hphase] at hserving
        rw [hlink] at hup
        rcases h.replayed hserving hup topic' with hold | hcreated | ⟨rest', hrest', hmem⟩
        · exact Or.inl (huptodate hup topic' (Or.inr hold))
        · rw [hrunning] at hcreated
          cases hcreated
        · obtain rfl : topic :: rest = rest' := Replay.running.inj (hrunning.symm.trans hrest')
          rcases List.mem_cons.1 hmem with heq | hlater
          · exact Or.inl (huptodate hup topic' (Or.inl heq))
          · refine Or.inr (Or.inr ⟨rest, ?_, hlater⟩)
            rw [ht]
            exact if_pos hup
      · intro hserving hup topic' htopic'
        rw [hphase] at hserving
        rw [hlink] at hup
        rw [hlive] at htopic'
        exact huptodate hup topic' (Or.inr (h.live hserving hup topic' htopic'))
  · exact h

/-- The broker applying a call settles nothing new. -/
lemma Mirrored.brokerApplies {call : Call} {calls : List Call} (h : s.Mirrored)
    (hcalls : s.calls = call :: calls) :
    ({ s with calls := calls, broker := s.broker.apply call } : State).Mirrored := by
  have hsettled : ({ s with calls := calls, broker := s.broker.apply call } : State).settled =
      s.settled := by
    rw [settled, settled, hcalls, applyAll_cons]
  have huptodate : ∀ topic, s.UpToDate topic →
      ({ s with calls := calls, broker := s.broker.apply call } : State).UpToDate topic :=
    fun topic hold => hold.of_settled (congrFun hsettled topic) rfl
  refine ⟨h.mirror, h.rest, h.connected, fun hserving hup topic => ?_,
    fun hserving hup topic htopic => huptodate topic (h.live hserving hup topic htopic)⟩
  exact (h.replayed hserving hup topic).imp_left (huptodate topic)

/-- One event keeps the invariant. -/
lemma Mirrored.step {event : Event} (h : s.Mirrored) (hstep : Mqtt.step s event = some s') :
    s'.Mirrored := by
  cases event with
  | publish topic payload qos queued =>
    obtain rfl := Option.some.inj hstep
    exact h.publish topic payload qos queued
  | replayStep queued =>
    obtain rfl := Option.some.inj hstep
    exact h.replayStep queued
  | brokerApplies =>
    simp only [Mqtt.step] at hstep
    split at hstep
    · cases hstep
    · next call calls hcalls =>
      obtain rfl := Option.some.inj hstep
      exact h.brokerApplies hcalls
  | linkFails remaining =>
    simp only [Mqtt.step, Option.ite_none_right_eq_some, Option.some.injEq] at hstep
    obtain ⟨-, rfl⟩ := hstep
    exact ⟨h.mirror, h.rest, h.connected, by simp, by simp⟩
  | connects store =>
    simp only [Mqtt.step, Option.ite_none_right_eq_some, Option.some.injEq] at hstep
    obtain ⟨-, rfl⟩ := hstep
    exact ⟨h.mirror, h.rest, by simp, by simp, by simp⟩
  | connectionRestored =>
    simp only [Mqtt.step, Option.ite_none_right_eq_some, Option.some.injEq] at hstep
    obtain ⟨-, rfl⟩ := hstep
    exact ⟨h.mirror, by simp, by simp, fun _ _ _ => Or.inr (Or.inl rfl), by simp⟩
  | connectionLost =>
    simp only [Mqtt.step, Option.ite_none_left_eq_some] at hstep
    obtain ⟨-, hstep⟩ := hstep
    split at hstep
    · cases hstep
    · obtain rfl := Option.some.inj hstep
      exact ⟨h.mirror, h.rest, by simp, by simp, by simp⟩
    · obtain rfl := Option.some.inj hstep
      exact ⟨h.mirror, by simp, by simp, by simp, by simp⟩

/-- What the broker holds for a topic none of whose calls is under way. -/
lemma settled_of_no_call (h : ∀ call ∈ s.calls, call.topic ≠ topic) :
    s.settled topic = s.broker topic :=
  applyAll_of_ne h

/-- The broker holds the last payload published for the topic, as soon as it has
applied the calls made so far. -/
def Holds (s : State) (topic : Topic) : Prop :=
  ∀ payload, s.lastPublished topic = some payload →
    s.settled topic = retainedOf payload ∧
      ((∀ call ∈ s.calls, call.topic ≠ topic) → s.broker topic = retainedOf payload)

lemma UpToDate.holds (h : s.UpToDate topic) : s.Holds topic := by
  intro payload hpayload
  have hsettled := h payload hpayload
  refine ⟨hsettled, fun hcalls => ?_⟩
  rw [← settled_of_no_call hcalls, hsettled]

/-- While the link is up a completed replay has restored every topic, and a
payload published during the session is never overwritten by an older one. -/
def Restored (s : State) : Prop :=
  s.phase = .serving → s.linkUp = true →
    (s.replay = .completed → ∀ topic, s.Holds topic) ∧ ∀ topic ∈ s.live, s.Holds topic

lemma Mirrored.restored (h : s.Mirrored) : s.Restored := by
  intro hserving hup
  constructor
  · intro hcompleted topic
    rcases h.replayed hserving hup topic with huptodate | hcreated | ⟨rest, hrest, -⟩
    · exact huptodate.holds
    · rw [hcompleted] at hcreated
      cases hcreated
    · rw [hcompleted] at hrest
      cases hrest
  · intro topic htopic
    exact (h.live hserving hup topic htopic).holds

end State

end WbMqttDali.Mqtt
