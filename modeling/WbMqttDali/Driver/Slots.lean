import Mathlib
import WbMqttDali.Driver.InFlight

/-!
# Slot exclusivity

A waiter of the gateway queue is not replaced while its command is pending, as
long as no queue pointer reset completes while the gateway is reported
unreachable: then a batch would be registered behind the back of the report, and
its withdrawal asks for a resync with commands in flight.
-/

namespace WbMqttDali.Driver

open InFlight

/-! ### The invariant -/

/-- What a flush relies on for the slot that follows the batch. -/
def NextSlot (config : WBDALIConfig) (s : State) : Flush → Prop
  | .slot respWaiter => s.nextQueueIndex < config.queueSize ∧
      ∀ w, s.waitingForResponses.get? s.nextQueueIndex = some w → s.Pending w.sendItem.future →
        w.sendItem.future = respWaiter.sendItem.future
  | .timeout => s.nextQueueIndex < config.queueSize
  | .queueEnd => s.nextQueueIndex ≤ config.queueSize

/-- The slots of the batch are free, and the next slot follows them. -/
def Batched (s : State) : Prop :=
  s.batchStartIndex + s.batch.length = s.nextQueueIndex ∧
    ∀ i, s.batchStartIndex ≤ i → i < s.nextQueueIndex → s.Free i

/-- The slots as the sender knows them at its `await`. -/
def Placed (config : WBDALIConfig) (s : State) : SenderAt → Prop
  | .get _ => Batched s ∧ s.nextQueueIndex < config.queueSize ∧ s.Free s.nextQueueIndex
  | .slot respWaiter => s.batch = [] ∧ s.batchStartIndex = s.nextQueueIndex ∧
      NextSlot config s (.slot respWaiter)
  | .sleep flush _ => Batched s ∧ NextSlot config s flush
  | .reset flush => Batched s ∧ NextSlot config s flush ∧ s.pendingResync
  | .write flush => NextSlot config s flush

/-- The parts of the invariant that do not depend on the sender. -/
structure Synced (s : State) : Prop where
  timed : s.Timed
  session : ∀ n, s.unreachableReportedInSession = some n → n ≤ s.session
  resync : s.pendingResync ∨ s.GatewayReportedUnreachable → s.Idle

/-- The invariant behind slot exclusivity. -/
structure SlotsKept (config : WBDALIConfig) (s : State) : Prop extends Synced s where
  placed : Placed config s s.sender

section Calm

variable {config : WBDALIConfig} {s : State} {inFlight : InFlight}

lemma NextSlot.calm {flush : Flush} (h : NextSlot config s flush)
    (hcalm : Calm s.toInFlight inFlight) :
    NextSlot config { s with toInFlight := inFlight } flush := by
  cases flush with
  | slot respWaiter => exact ⟨h.1, fun w hw hp => h.2 w (hcalm.waiting hw) (hcalm.pending hp)⟩
  | timeout => exact h
  | queueEnd => exact h

lemma Batched.calm (h : Batched s) (hcalm : Calm s.toInFlight inFlight) :
    Batched { s with toInFlight := inFlight } :=
  ⟨h.1, fun i hi hlt => hcalm.free (h.2 i hi hlt)⟩

lemma Synced.calm (h : Synced s) (hcalm : Calm s.toInFlight inFlight) :
    Synced { s with toInFlight := inFlight } :=
  ⟨hcalm.timed h.timed, h.session, fun hr => hcalm.idle (h.resync hr)⟩

lemma Placed.calm {sender : SenderAt} (h : Placed config s sender)
    (hcalm : Calm s.toInFlight inFlight) :
    Placed config { s with toInFlight := inFlight } sender := by
  cases sender with
  | get => exact ⟨h.1.calm hcalm, h.2.1, hcalm.free h.2.2⟩
  | slot => exact ⟨h.1, h.2.1, h.2.2.calm hcalm⟩
  | sleep => exact ⟨h.1.calm hcalm, h.2.calm hcalm⟩
  | reset => exact ⟨h.1.calm hcalm, h.2.1.calm hcalm, h.2.2⟩
  | write => exact NextSlot.calm h hcalm

lemma SlotsKept.calm (h : SlotsKept config s) (hcalm : Calm s.toInFlight inFlight) :
    SlotsKept config { s with toInFlight := inFlight } :=
  ⟨h.toSynced.calm hcalm, h.placed.calm hcalm⟩

end Calm

/-! ### The sender task -/

section Sender

variable {config : WBDALIConfig} {s : State} {flush : Flush}

lemma Synced.waitForItem (h : Synced s) (hbatched : Batched s)
    (hlt : s.nextQueueIndex < config.queueSize) (hfree : s.Free s.nextQueueIndex) :
    SlotsKept config s.waitForItem :=
  ⟨⟨h.timed, h.session, h.resync⟩, hbatched, hlt, hfree⟩

lemma batched_dropBatch (s : State) : Batched s.dropBatch :=
  ⟨rfl, fun i (hi : s.nextQueueIndex ≤ i) (hlt : i < s.nextQueueIndex) => absurd hi (by omega)⟩

lemma Synced.dropBatch (h : Synced s) : Synced s.dropBatch := ⟨h.timed, h.session, h.resync⟩

lemma Synced.waitForSlot {w : WaitResponseItem} (h : Synced s)
    (hslot : NextSlot config s (.slot w)) : SlotsKept config (s.dropBatch.waitForSlot w) := by
  rw [State.waitForSlot]
  split
  case isTrue => exact ⟨⟨h.timed, h.session, h.resync⟩, rfl, rfl, hslot⟩
  case isFalse hdone =>
    refine h.dropBatch.waitForItem (batched_dropBatch s) hslot.1 fun w' hw' hp => ?_
    have hf := hslot.2 w' hw' hp
    exact hdone (hf ▸ hp)

lemma nextSlotWaiter_eq_some_iff {w : WaitResponseItem} : s.nextSlotWaiter = some w ↔
    s.waitingForResponses.get? s.nextQueueIndex = some w ∧ s.Pending w.sendItem.future := by
  simp [State.nextSlotWaiter, Option.filter_eq_some_iff]

lemma free_of_nextSlotWaiter (h : s.nextSlotWaiter = none) : s.Free s.nextQueueIndex := by
  intro w hw hp
  have hsome := nextSlotWaiter_eq_some_iff.2 ⟨hw, hp⟩
  rw [h] at hsome
  cases hsome

lemma nextSlot_of_nextSlotWaiter {w : WaitResponseItem} (h : s.nextSlotWaiter = some w)
    (hlt : s.nextQueueIndex < config.queueSize) : NextSlot config s (.slot w) := by
  refine ⟨hlt, fun w' hw' _ => ?_⟩
  obtain ⟨hw, -⟩ := nextSlotWaiter_eq_some_iff.1 h
  rw [Option.some.inj (hw.symm.trans hw')]

lemma Synced.startOver (h : Synced s) (hempty : s.batch = [])
    (hstart : s.batchStartIndex = s.nextQueueIndex) (hlt : s.nextQueueIndex < config.queueSize) :
    SlotsKept config s.startOver := by
  rw [State.startOver]
  split
  case h_1 hnone =>
    refine h.waitForItem ⟨by simp [hempty, hstart], fun i hi hi' => ?_⟩ hlt
      (free_of_nextSlotWaiter hnone)
    exact absurd hi (by omega)
  case h_2 w hw => exact h.waitForSlot (nextSlot_of_nextSlotWaiter hw hlt)

/-- After a flush the sender takes up its loop again. -/
lemma Synced.afterFlush (h : Synced s) (hnext : NextSlot config s flush) :
    SlotsKept config (s.afterFlush config flush) := by
  cases flush with
  | slot w => exact h.waitForSlot hnext
  | timeout => exact Synced.startOver ⟨h.timed, h.session, h.resync⟩ rfl rfl hnext
  | queueEnd =>
    simp only [State.afterFlush]
    split
    case isTrue =>
      exact Synced.startOver ⟨h.timed, h.session, h.resync⟩ rfl rfl config.queueSize_pos
    case isFalse hne =>
      exact Synced.startOver ⟨h.timed, h.session, h.resync⟩ rfl rfl (lt_of_le_of_ne hnext hne)

lemma Synced.drainPending (h : Synced s) : Synced s.drainPending :=
  h.calm h.timed.calm_drainPending

lemma Synced.onMqttError (h : Synced s) (hnext : NextSlot config s flush) :
    SlotsKept config (s.onMqttError config flush) :=
  Synced.afterFlush (h.drainPending.calm (calm_failBatch _))
    ((hnext.calm h.timed.calm_drainPending).calm (calm_failBatch _))

/-- A batch may be written while the gateway is in sync. -/
lemma Synced.writeBatch (h : Synced s) (hbatched : Batched s) (hnext : NextSlot config s flush)
    (hresync : ¬ s.pendingResync) (hreachable : ¬ s.GatewayReportedUnreachable) :
    SlotsKept config (s.writeBatch config flush) := by
  have htimed : (s.toInFlight.register s.batchStartIndex s.batch).Timed :=
    h.timed.register fun i hi hlt => hbatched.2 i hi (hbatched.1 ▸ hlt)
  have hsynced : Synced ({ s with
      toInFlight := s.toInFlight.register s.batchStartIndex s.batch
      }.writeBatchRpc config s.batchStartIndex) :=
    ⟨htimed, h.session, fun hr => (hr.elim hresync hreachable).elim⟩
  have hnext' : NextSlot config ({ s with
      toInFlight := s.toInFlight.register s.batchStartIndex s.batch
      }.writeBatchRpc config s.batchStartIndex) flush := by
    cases flush with
    | slot w =>
      refine ⟨hnext.1, fun w' hw' hp => hnext.2 w' ?_ ?_⟩
      · have hkept := @get?_register_of_le s.toInFlight s.batchStartIndex s.nextQueueIndex s.batch
          (.inr hbatched.1.le)
        exact hkept ▸ hw'
      · exact (congrFun (futures_register _ _) _).symm.trans hp
    | timeout => exact hnext
    | queueEnd => exact hnext
  rw [State.writeBatch]
  split
  · exact ⟨⟨hsynced.timed, hsynced.session, hsynced.resync⟩, hnext'⟩
  · exact hsynced.onMqttError hnext'

/-- The reset of the queue pointer finds no command in flight. -/
lemma Synced.afterReset (h : Synced s) (hbatched : Batched s) (hnext : NextSlot config s flush)
    (hresync : s.pendingResync) (hreachable : ¬ s.GatewayReportedUnreachable) :
    SlotsKept config (s.afterReset config flush) := by
  have hidle : s.Idle := h.resync (.inl hresync)
  have hle : s.batch.length ≤ s.nextQueueIndex := by
    have := hbatched.1
    omega
  refine Synced.writeBatch ⟨h.timed, h.session, fun hr => ?_⟩ ⟨Nat.zero_add _, fun i _ _ => hidle i⟩
    ?_ (by simp) hreachable
  · exact (hr.elim (by simp) hreachable).elim
  · cases flush with
    | slot w => exact ⟨hle.trans_lt hnext.1, fun w' hw' hp => absurd hp (hidle _ w' hw')⟩
    | timeout => exact hle.trans_lt hnext
    | queueEnd => exact hle.trans hnext

lemma Synced.syncWithBrokerSession (h : Synced s) : Synced s.syncWithBrokerSession := by
  rw [State.syncWithBrokerSession]
  split
  · exact h
  · have hdrained := h.drainPending
    exact ⟨hdrained.timed, hdrained.session, fun _ => idle_drainPending⟩

/-- The sync leaves the batch alone. -/
lemma syncWithBrokerSession_eq (s : State) (h : Synced s) :
    ∃ inFlight syncedSession pendingResync, Calm s.toInFlight inFlight ∧
      s.syncWithBrokerSession =
        { s with toInFlight := inFlight, syncedSession, pendingResync } := by
  rw [State.syncWithBrokerSession]
  split
  · exact ⟨_, _, _, Calm.refl _, rfl⟩
  · exact ⟨_, _, _, h.timed.calm_drainPending, rfl⟩

lemma Synced.afterWait (h : Synced s) (hbatched : Batched s) (hnext : NextSlot config s flush) :
    SlotsKept config (s.afterWait config flush) := by
  set s₀ : State :=
    { s with overheatRateLimiter := s.overheatRateLimiter.finishWait s.now } with hs₀
  have h₀ : Synced s₀ := ⟨h.timed, h.session, h.resync⟩
  have hsynced := h₀.syncWithBrokerSession
  obtain ⟨inFlight, syncedSession, pendingResync, hcalm, heq⟩ := syncWithBrokerSession_eq s₀ h₀
  have hbatched' : Batched s₀.syncWithBrokerSession := by
    rw [heq]
    exact hbatched.calm hcalm
  have hnext' : NextSlot config s₀.syncWithBrokerSession flush := by
    rw [heq]
    cases flush with
    | slot w => exact hnext.calm hcalm
    | timeout => exact hnext
    | queueEnd => exact hnext
  rw [State.afterWait, ← hs₀]
  simp only
  split
  case isTrue =>
    exact Synced.afterFlush (hsynced.calm (calm_failBatch _)) (hnext'.calm (calm_failBatch _))
  case isFalse havailable =>
    have hreachable := fun hu => havailable (.inl hu)
    split
    case isTrue hresync =>
      exact ⟨⟨hsynced.timed, hsynced.session, hsynced.resync⟩,
        hbatched', hnext', hresync⟩
    case isFalse hresync =>
      exact hsynced.writeBatch hbatched' hnext' hresync hreachable

lemma Synced.sendToGateway (h : Synced s) (hbatched : Batched s)
    (hnext : NextSlot config s flush) : SlotsKept config (s.sendToGateway config flush) := by
  rw [State.sendToGateway]
  split
  · exact h.afterFlush hnext
  · simp only
    split
    · exact ⟨⟨h.timed, h.session, h.resync⟩, hbatched, hnext⟩
    · exact h.afterWait hbatched hnext

lemma Synced.loopTop (h : Synced s) (hbatched : Batched s)
    (hlt : s.nextQueueIndex < config.queueSize) : SlotsKept config (s.loopTop config) := by
  rw [State.loopTop]
  split
  case h_1 hnone => exact h.waitForItem hbatched hlt (free_of_nextSlotWaiter hnone)
  case h_2 w hw => exact h.sendToGateway hbatched (nextSlot_of_nextSlotWaiter hw hlt)

lemma Synced.onItem (h : Synced s) (hbatched : Batched s)
    (hlt : s.nextQueueIndex < config.queueSize) (hfree : s.Free s.nextQueueIndex)
    (item : SendQueueItem) : SlotsKept config (s.onItem config item) := by
  rw [State.onItem]
  simp only
  split
  · exact Synced.loopTop ⟨h.timed, h.session, h.resync⟩ hbatched hlt
  · have hbatched' : Batched { s with
        timeout := some waitCommandsForBatchTimeoutS
        batch := s.batch ++ [item]
        nextQueueIndex := s.nextQueueIndex + 1 } := by
      refine ⟨?_, fun i hi hi' => ?_⟩
      · have := hbatched.1
        simp only [List.length_append, List.length_singleton]
        omega
      · rcases Nat.lt_succ_iff_lt_or_eq.1 hi' with hi' | rfl
        · exact hbatched.2 i hi hi'
        · exact hfree
    split
    case isTrue heq =>
      exact Synced.sendToGateway ⟨h.timed, h.session, h.resync⟩ hbatched' heq.le
    case isFalse hne =>
      exact Synced.loopTop ⟨h.timed, h.session, h.resync⟩ hbatched' (lt_of_le_of_ne hlt hne)

end Sender

/-! ### Steps -/

/-- A run in which every reset of the queue pointer that completes finds the gateway
not reported unreachable. -/
def ResetsWhileReachable (s : State) (e : Event) : Prop :=
  e = .publishReturns → s.sender.isReset → ¬ s.GatewayReportedUnreachable

instance (s : State) (e : Event) : Decidable (ResetsWhileReachable s e) :=
  inferInstanceAs (Decidable (_ → _ → _))

section Step

variable {config : WBDALIConfig} {s s' : State}

lemma SlotsKept.of_get {deadline : Option ℚ} (h : SlotsKept config s)
    (hsender : s.sender = .get deadline) :
    Batched s ∧ s.nextQueueIndex < config.queueSize ∧ s.Free s.nextQueueIndex := by
  have hplaced := h.placed
  rwa [hsender] at hplaced

lemma SlotsKept.of_slot {respWaiter : WaitResponseItem} (h : SlotsKept config s)
    (hsender : s.sender = .slot respWaiter) :
    s.batch = [] ∧ s.batchStartIndex = s.nextQueueIndex ∧ NextSlot config s (.slot respWaiter) := by
  have hplaced := h.placed
  rwa [hsender] at hplaced

lemma SlotsKept.of_sleep {flush : Flush} {wakeAt : ℚ} (h : SlotsKept config s)
    (hsender : s.sender = .sleep flush wakeAt) : Batched s ∧ NextSlot config s flush := by
  have hplaced := h.placed
  rwa [hsender] at hplaced

lemma SlotsKept.of_reset {flush : Flush} (h : SlotsKept config s)
    (hsender : s.sender = .reset flush) :
    Batched s ∧ NextSlot config s flush ∧ s.pendingResync := by
  have hplaced := h.placed
  rwa [hsender] at hplaced

lemma SlotsKept.of_write {flush : Flush} (h : SlotsKept config s)
    (hsender : s.sender = .write flush) : NextSlot config s flush := by
  have hplaced := h.placed
  rwa [hsender] at hplaced

/-- Every step keeps the invariant. -/
theorem SlotsKept.step {e : Event} (h : SlotsKept config s) (hok : ResetsWhileReachable s e)
    (hstep : step config s e = some s') : SlotsKept config s' := by
  cases happens_of_step hstep with
  | put => exact ⟨⟨h.timed, h.session, h.resync⟩, h.placed⟩
  | sendUnavailable => exact h.calm (calm_refuseCommands _ _)
  | cancel => exact h.calm (calm_cancel _)
  | setResponseTimeout htimeout =>
    exact ⟨⟨h.timed.setResponseTimeout htimeout, h.session, h.resync⟩, h.placed⟩
  | replyRetained => exact h
  | replyUnknown => exact ⟨⟨h.timed, h.session, h.resync⟩, h.placed⟩
  | @reply respPointer payload _ _ hwaiter =>
    have hreply := h.calm (h.timed.calm_onReply hwaiter payload (s.owed respPointer).head?)
    exact ⟨⟨hreply.timed, hreply.session, hreply.resync⟩, hreply.placed⟩
  | metaIgnored => exact h
  | unreachable =>
    -- the waiting commands are drained, and no slot is in use behind it
    have hcalm := h.timed.calm_drainPending
    refine ⟨⟨hcalm.timed h.timed, ?_, fun _ => idle_drainPending⟩, h.placed.calm hcalm⟩
    rintro n hn
    cases hn
    exact le_rfl
  | reachable hreported =>
    refine ⟨⟨h.timed, fun n hn => (by cases hn), fun _ => h.resync (.inr hreported)⟩, ?_⟩
    have hplaced := h.placed
    revert hplaced
    cases hsender : s.sender with
    | reset flush => exact fun hplaced => ⟨hplaced.1, hplaced.2.1, rfl⟩
    | _ => exact id
  | connectionLost => exact ⟨⟨h.timed, h.session, h.resync⟩, h.placed⟩
  | connectionRestored =>
    refine ⟨⟨h.timed, fun n hn => Nat.le_succ_of_le (h.session n hn), ?_⟩, h.placed⟩
    -- an error that was reported belongs to an older session
    rintro (hr | hr)
    · exact h.resync (.inl hr)
    · exact absurd (h.session _ hr) (by simp)
  | tick _ hdue => exact ⟨⟨h.timed.tick hdue, h.session, h.resync⟩, h.placed⟩
  | timer htimer => exact h.calm (calm_timer htimer)
  | busFrame => exact h.calm (Calm.traffic _)
  | register => exact h.calm (Calm.traffic _)
  | cleanup => exact h.calm (Calm.traffic _)
  | @itemReceived _ item sendQueue hsender =>
    obtain ⟨hbatched, hlt, hfree⟩ := h.of_get hsender
    exact Synced.onItem (s := { s with sendQueue }) ⟨h.timed, h.session, h.resync⟩ hbatched hlt
      hfree item
  | itemTimeout hsender =>
    obtain ⟨hbatched, hlt, -⟩ := h.of_get hsender
    exact h.sendToGateway hbatched hlt
  | slotDone hsender hdone =>
    obtain ⟨hempty, hstart, hlt, hsame⟩ := h.of_slot hsender
    refine h.waitForItem ⟨by simp [hempty, hstart], fun i hi hi' => absurd hi (by omega)⟩ hlt ?_
    exact fun w hw hp => hdone (hsame w hw hp ▸ hp)
  | sleepDone hsender =>
    obtain ⟨hbatched, hnext⟩ := h.of_sleep hsender
    exact h.afterWait hbatched hnext
  | deliverReset =>
    obtain ⟨rpcs, heq⟩ := s.markDelivered_eq
    rw [heq]
    exact ⟨⟨h.timed, h.session, h.resync⟩, h.placed⟩
  | deliverWrite =>
    obtain ⟨rpcs, heq⟩ := s.markDelivered_eq
    rw [heq]
    exact ⟨⟨h.timed, h.session, h.resync⟩, h.placed⟩
  | resetReturns hsender =>
    obtain ⟨hbatched, hnext, hresync⟩ := h.of_reset hsender
    exact h.afterReset hbatched hnext hresync (hok rfl (by rw [hsender, SenderAt.isReset]))
  | writeReturns hsender => exact h.afterFlush (h.of_write hsender)
  | resetRaises hsender => exact h.onMqttError (h.of_reset hsender).2.1
  | writeRaises hsender => exact h.onMqttError (h.of_write hsender)

lemma timed_start (busTraffic : BusTrafficCallbacks) : InFlight.Timed { busTraffic } where
  fresh := fun hget => by cases hget
  handler := fun hw => by cases hw
  index := fun hw => by cases hw
  armed := fun hw => by cases hw
  due := fun hget => by cases hget
  written := fun e he => by cases he
  displaced := rfl
  responseTimeout := by
    rw [waitDaliResponseTimeoutS]
    norm_num

lemma slotsKept_initial (listeners : Finset ℕ) (connected : Bool) (session : ℕ)
    (resetDelivered : Bool) :
    SlotsKept config (initial config listeners connected session resetDelivered) := by
  have hkept : SlotsKept config (initial config listeners connected session false) :=
    ⟨⟨timed_start _, fun n hn => (by cases hn), fun _ i w hw => (by cases hw)⟩,
      ⟨rfl, fun i _ hi => absurd hi (Nat.not_lt_zero i)⟩, config.queueSize_pos,
      fun w hw => (by cases hw)⟩
  cases resetDelivered with
  | false => exact hkept
  | true => exact ⟨⟨hkept.timed, hkept.session, fun _ => hkept.resync (.inl rfl)⟩, hkept.placed⟩

end Step

/-! ### Runs -/

/-- No waiter was replaced while its command was pending, and no written command
is pending past its own response timeout. -/
def SlotExclusive (s : State) : Prop :=
  s.displaced = [] ∧
    ∀ e ∈ s.written, s.Pending e.future → s.now ≤ e.sentAt + e.responseTimeout

lemma SlotsKept.slotExclusive {config : WBDALIConfig} {s : State} (h : SlotsKept config s) :
    SlotExclusive s := by
  refine ⟨h.timed.displaced, fun e he hp => ?_⟩
  obtain ⟨i, w, t, -, -, htimer, hdeadline⟩ := h.timed.written e he hp
  rw [← hdeadline]
  exact h.timed.due htimer

lemma slotsKept_of_reach {config : WBDALIConfig} {s : State}
    (h : (driver config).Reach ResetsWhileReachable s) : SlotsKept config s := by
  refine h.invariant ?_ fun s e s' hkept hok hstep => hkept.step hok hstep
  rintro s ⟨listeners, connected, session, resetDelivered, rfl⟩
  exact slotsKept_initial listeners connected session resetDelivered

/-- In a run whose resets complete while the gateway is not reported unreachable,
no pending waiter is replaced and every written command is resolved in time. -/
theorem slotExclusive_of_resetsWhileReachable (config : WBDALIConfig) (s : State)
    (h : (driver config).Reach ResetsWhileReachable s) : SlotExclusive s :=
  (slotsKept_of_reach h).slotExclusive

/-- The gateway is reported unreachable while a command is in flight.  After the withdrawal the
queue pointer is reset, and the second command takes the slot of the first and is resolved by
its reply; the third is in flight. -/
def resetBetween : List Event :=
  List.flatten [queryStatusReceived, [.tick (1 / 100), .itemTimeout], published,
    [.metaError (some "r"), .metaError (some "")], queryStatusReceived,
    [.tick (2 / 100), .itemTimeout], published, published, [.reply 0 false (some 0x1FF)],
    queryStatusReceived, [.tick (3 / 100), .itemTimeout], published]

theorem slotExclusive_resetBetween :
    ∃ s, (driver {}).run ResetsWhileReachable (initial {} ∅ true 0 true) resetBetween = some s ∧
      s.rpcs.map (fun sent => (sent.rpc.function, sent.rpc.address)) =
        [(writeFunction, 1402), (writeFunction, 1400), (resetFunction, 1432),
          (writeFunction, 1400), (resetFunction, 1432)] ∧
      s.futures 0 = .result .gatewayUnavailable ∧
      s.futures 1 = .result (queryStatus.responseTo 0x1FF) ∧ s.Pending 2 ∧ SlotExclusive s := by
  have hrun : ((driver {}).run ResetsWhileReachable (initial {} ∅ true 0 true) resetBetween).any
      fun s => s.rpcs.map (fun sent => (sent.rpc.function, sent.rpc.address)) =
          [(writeFunction, 1402), (writeFunction, 1400), (resetFunction, 1432),
            (writeFunction, 1400), (resetFunction, 1432)] ∧
        s.futures 0 = .result .gatewayUnavailable ∧
        s.futures 1 = .result (queryStatus.responseTo 0x1FF) ∧ s.Pending 2 := by
    decide +kernel
  obtain ⟨s, hs, hdecide⟩ := (Option.any_eq_true _ _).1 hrun
  obtain ⟨hrpcs, hfirst, hsecond, hthird⟩ := of_decide_eq_true hdecide
  exact ⟨s, hs, hrpcs, hfirst, hsecond, hthird,
    slotExclusive_of_resetsWhileReachable {} s (.run (.init ⟨_, _, _, _, rfl⟩) hs)⟩

/-- The report arrives while the reset is published, and is withdrawn with the first
command in flight; the second command then takes its slot. -/
def reportDuringReset : List Event :=
  List.flatten [[.metaError (some "r"), .metaError (some "")], queryStatusReceived,
    [.tick (1 / 100), .itemTimeout, .metaError (some "r")], published, published,
    [.metaError (some "")], queryStatusReceived, [.tick (2 / 100), .itemTimeout],
    published, published, [.tick (151 / 100), .timer 0, .tick (152 / 100)]]

theorem exists_not_slotExclusive :
    ∃ s, (driver {}).Reachable s ∧ s.displaced ≠ [] ∧
      ∃ e ∈ s.written, s.Pending e.future ∧ e.sentAt + e.responseTimeout < s.now := by
  have hrun : (after {} reportDuringReset).any (fun s => s.displaced = [0] ∧
      ⟨0, 1 / 100, 3 / 2⟩ ∈ s.written ∧ s.Pending 0 ∧ s.now = 152 / 100) := by
    decide +kernel
  obtain ⟨s, hafter, hs⟩ := (Option.any_eq_true _ _).1 hrun
  obtain ⟨hdisplaced, hwritten, hpending, hnow⟩ := of_decide_eq_true hs
  refine ⟨s, reachable_of_after hafter, by simp [hdisplaced], _, hwritten, hpending, ?_⟩
  rw [hnow]
  norm_num

end WbMqttDali.Driver
