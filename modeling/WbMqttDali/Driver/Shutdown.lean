import Mathlib
import WbMqttDali.Driver.InFlight

/-!
# Shutting the driver down

A pending command is held by the send queue, by the unsent batch of the sender
task or by a waiter of the gateway queue, or by nobody once its waiter was
replaced.  `deinitialize` resolves the commands of the waiters only.
-/

namespace WbMqttDali.Driver

namespace InFlight

/-! ### Who holds a command -/

variable {s s' : InFlight} {n : ℕ} {queued : List SendQueueItem}

/-- Every pending command of the first `n` is either in `queued`, or has a waiter, or
has lost it, and no command has two holders. -/
structure HeldBy (s : InFlight) (n : ℕ) (queued : List SendQueueItem) : Prop where
  nodup : (queued.map SendQueueItem.future).Nodup
  queuedLt : ∀ item ∈ queued, item.future < n
  waitingLt : ∀ {i w}, s.waitingForResponses.get? i = some w → w.sendItem.future < n
  displacedLt : ∀ f ∈ s.displaced, f < n
  apart : ∀ {i w}, s.waitingForResponses.get? i = some w →
    ∀ item ∈ queued, item.future ≠ w.sendItem.future
  single : ∀ {i j w w'}, s.waitingForResponses.get? i = some w →
    s.waitingForResponses.get? j = some w' → w.sendItem.future = w'.sendItem.future → i = j
  lost : ∀ f ∈ s.displaced, (∀ item ∈ queued, item.future ≠ f) ∧
    ∀ {i w}, s.waitingForResponses.get? i = some w → w.sendItem.future ≠ f
  held : ∀ f < n, s.Pending f → (∃ item ∈ queued, item.future = f) ∨
    (∃ i w, s.waitingForResponses.get? i = some w ∧ w.sendItem.future = f) ∨ f ∈ s.displaced

lemma HeldBy.quiet (h : HeldBy s n queued) (hquiet : Quiet s s') : HeldBy s' n queued where
  nodup := h.nodup
  queuedLt := h.queuedLt
  waitingLt := fun hw => h.waitingLt (hquiet.waiting hw)
  displacedLt := hquiet.displaced ▸ h.displacedLt
  apart := fun hw => h.apart (hquiet.waiting hw)
  single := fun hw hw' => h.single (hquiet.waiting hw) (hquiet.waiting hw')
  lost := fun f hf => by
    rw [hquiet.displaced] at hf
    exact ⟨(h.lost f hf).1, fun hw => (h.lost f hf).2 (hquiet.waiting hw)⟩
  held := fun f hf hp => by
    rw [hquiet.displaced]
    rcases h.held f hf (hquiet.pending hp) with hitem | ⟨i, w, hw, rfl⟩ | hlost
    · exact .inl hitem
    · exact .inr (.inl ⟨i, w, hquiet.kept hw hp, rfl⟩)
    · exact .inr (.inr hlost)

/-- Commands that are done need no holder. -/
lemma HeldBy.forget {queued' : List SendQueueItem} (h : HeldBy s n queued)
    (hsub : queued'.Sublist queued)
    (hdone : ∀ item ∈ queued, s.Pending item.future → item ∈ queued') : HeldBy s n queued' where
  nodup := h.nodup.sublist (hsub.map _)
  queuedLt := fun item hitem => h.queuedLt item (hsub.subset hitem)
  waitingLt := h.waitingLt
  displacedLt := h.displacedLt
  apart := fun hw item hitem => h.apart hw item (hsub.subset hitem)
  single := h.single
  lost := fun f hf =>
    ⟨fun item hitem => (h.lost f hf).1 item (hsub.subset hitem), (h.lost f hf).2⟩
  held := fun f hf hp => by
    rcases h.held f hf hp with ⟨item, hitem, rfl⟩ | hheld
    · exact .inl ⟨item, hdone item hitem hp, rfl⟩
    · exact .inr hheld

/-- A new command is put at the end of the queue. -/
lemma HeldBy.put {item : SendQueueItem} (h : HeldBy s n queued) (hitem : item.future = n) :
    HeldBy s (n + 1) (queued ++ [item]) where
  nodup := by
    rw [List.map_append, List.nodup_append]
    refine ⟨h.nodup, by simp, fun f hf f' hf' => ?_⟩
    obtain ⟨item', hitem', rfl⟩ := List.mem_map.1 hf
    obtain rfl : f' = n := by simpa [hitem] using hf'
    exact (h.queuedLt item' hitem').ne
  queuedLt := fun item' hitem' => by
    rcases List.mem_append.1 hitem' with hitem' | hitem'
    · exact Nat.lt_succ_of_lt (h.queuedLt item' hitem')
    · rw [List.mem_singleton.1 hitem', hitem]
      exact Nat.lt_succ_self n
  waitingLt := fun hw => Nat.lt_succ_of_lt (h.waitingLt hw)
  displacedLt := fun f hf => Nat.lt_succ_of_lt (h.displacedLt f hf)
  apart := fun hw item' hitem' => by
    rcases List.mem_append.1 hitem' with hitem' | hitem'
    · exact h.apart hw item' hitem'
    · rw [List.mem_singleton.1 hitem', hitem]
      exact (h.waitingLt hw).ne'
  single := h.single
  lost := fun f hf => by
    refine ⟨fun item' hitem' => ?_, (h.lost f hf).2⟩
    rcases List.mem_append.1 hitem' with hitem' | hitem'
    · exact (h.lost f hf).1 item' hitem'
    · rw [List.mem_singleton.1 hitem', hitem]
      exact (h.displacedLt f hf).ne'
  held := fun f hf hp => by
    rcases Nat.lt_succ_iff_lt_or_eq.1 hf with hf | rfl
    · rcases h.held f hf hp with ⟨item', hitem', rfl⟩ | hheld
      · exact .inl ⟨item', List.mem_append_left _ hitem', rfl⟩
      · exact .inr hheld
    · exact .inl ⟨item, by simp, hitem⟩

/-- A registered command passes from the batch to its waiter. -/
lemma HeldBy.registerOne {i : ℕ} {item : SendQueueItem} (h : HeldBy s n (item :: queued)) :
    HeldBy (s.registerOne i item) n queued := by
  have hnodup := h.nodup
  rw [List.map_cons, List.nodup_cons] at hnodup
  refine ⟨hnodup.2, fun item' hitem' => h.queuedLt item' (List.mem_cons_of_mem _ hitem'), ?_, ?_,
    ?_, ?_, ?_, ?_⟩
  · intro j w hw
    rcases get?_registerOne hw with ⟨-, rfl⟩ | ⟨-, hold⟩
    · exact h.queuedLt item (by simp)
    · exact h.waitingLt hold
  · intro f hf
    rcases mem_displaced_registerOne.1 hf with hf | ⟨w, hw, -, rfl⟩
    · exact h.displacedLt f hf
    · exact h.waitingLt hw
  · intro j w hw item' hitem'
    rcases get?_registerOne hw with ⟨-, rfl⟩ | ⟨-, hold⟩
    · exact fun hf => hnodup.1 (hf ▸ List.mem_map_of_mem hitem')
    · exact h.apart hold item' (List.mem_cons_of_mem _ hitem')
  -- no other waiter has the future of the command
  · intro j k w w' hw hw' hf
    rcases get?_registerOne hw with ⟨hj, heq⟩ | ⟨-, hold⟩ <;>
      rcases get?_registerOne hw' with ⟨hk, heq'⟩ | ⟨-, hold'⟩
    · rw [hj, hk]
    · subst heq
      exact absurd hf (h.apart hold' item (by simp))
    · subst heq'
      exact absurd hf.symm (h.apart hold item (by simp))
    · exact h.single hold hold' hf
  · intro f hf
    rcases mem_displaced_registerOne.1 hf with hf | ⟨w, hw, -, rfl⟩
    · refine ⟨fun item' hitem' => (h.lost f hf).1 item' (List.mem_cons_of_mem _ hitem'), ?_⟩
      intro j w hw
      rcases get?_registerOne hw with ⟨-, rfl⟩ | ⟨-, hold⟩
      · exact (h.lost f hf).1 item (by simp)
      · exact (h.lost f hf).2 hold
    · refine ⟨fun item' hitem' => h.apart hw item' (List.mem_cons_of_mem _ hitem'), ?_⟩
      intro j w' hw'
      rcases get?_registerOne hw' with ⟨-, rfl⟩ | ⟨hne, hold⟩
      · exact h.apart hw item (by simp)
      · exact fun hf => hne (h.single hold hw hf)
  · intro f hf hp
    rcases h.held f hf hp with ⟨item', hitem', rfl⟩ | ⟨j, w, hw, rfl⟩ | hlost
    · rcases List.mem_cons.1 hitem' with rfl | hitem'
      · exact .inr (.inl ⟨i, _, Dict.get?_set_self _ _ _, rfl⟩)
      · exact .inl ⟨item', hitem', rfl⟩
    -- a waiter that is still open loses its slot
    · by_cases hji : j = i
      · exact .inr (.inr (mem_displaced_registerOne.2 (.inr ⟨w, hji ▸ hw, hp, rfl⟩)))
      · exact .inr (.inl ⟨j, w, (Dict.get?_set_of_ne _ _ hji).trans hw, rfl⟩)
    · exact .inr (.inr (mem_displaced_registerOne.2 (.inl hlost)))

lemma HeldBy.register {i : ℕ} {items : List SendQueueItem} (h : HeldBy s n (items ++ queued)) :
    HeldBy (s.register i items) n queued := by
  induction items generalizing s i with
  | nil => exact h
  | cons item items ih => exact ih (HeldBy.registerOne h)

end InFlight

open InFlight

/-! ### The holders along a run -/

section Held

variable {config : WBDALIConfig} {s s' : State} {flush : Flush}

/-- The items that the sender has taken from the queue and not written yet. -/
def State.unsent (s : State) : List SendQueueItem :=
  match s.sender with
  | .write _ => []
  | _ => s.batch

/-- Every pending command has its holder. -/
def Held (s : State) : Prop := s.HeldBy s.nextFuture (s.unsent ++ s.sendQueue)

/-- The batch of the sender is still unsent. -/
def HeldUnsent (s : State) : Prop := s.HeldBy s.nextFuture (s.batch ++ s.sendQueue)

/-- The batch of the sender is written, or has failed. -/
def HeldSent (s : State) : Prop := s.HeldBy s.nextFuture s.sendQueue

lemma HeldUnsent.waitForItem (h : HeldUnsent s) : Held s.waitForItem := h

lemma HeldSent.waitForSlot (h : HeldSent s) (w : WaitResponseItem) :
    Held (s.dropBatch.waitForSlot w) := by
  rw [State.waitForSlot]
  split
  · exact h
  · exact h

lemma HeldSent.startOver (h : HeldSent s) (hempty : s.batch = []) : Held s.startOver := by
  rw [State.startOver]
  split
  · refine HeldUnsent.waitForItem ?_
    rw [HeldUnsent, hempty]
    exact h
  · exact h.waitForSlot _

lemma HeldSent.afterFlush (h : HeldSent s) : Held (s.afterFlush config flush) := by
  cases flush with
  | slot w => exact h.waitForSlot w
  | timeout => exact HeldSent.startOver (s := { s.dropBatch with timeout := none }) h rfl
  | queueEnd =>
    simp only [State.afterFlush]
    split
    · exact HeldSent.startOver (s := { s with nextQueueIndex := 0 }.dropBatch) h rfl
    · exact HeldSent.startOver (s := s.dropBatch) h rfl

/-- A batch that fails whole needs no holder. -/
lemma HeldUnsent.failBatch (h : HeldUnsent s) : HeldSent s.failBatch := by
  obtain ⟨hquiet, -, hdone⟩ := quiet_failBatch (s := s.toInFlight) s.batch
  refine (h.quiet hquiet).forget (List.sublist_append_right _ _) fun item hitem hp => ?_
  exact (List.mem_append.1 hitem).resolve_left fun hbatch => hdone item hbatch hp

lemma HeldUnsent.onMqttError (h : HeldUnsent s) : Held (s.onMqttError config flush) :=
  HeldSent.afterFlush (HeldUnsent.failBatch (s := s.drainPending) (h.quiet quiet_drainPending))

lemma HeldSent.onMqttError (h : HeldSent s) : Held (s.onMqttError config flush) :=
  HeldSent.afterFlush (s := s.drainPending.failBatch)
    ((h.quiet quiet_drainPending).quiet (quiet_failBatch _).1)

lemma HeldUnsent.writeBatch (h : HeldUnsent s) : Held (s.writeBatch config flush) := by
  have hsent : s.toInFlight.register s.batchStartIndex s.batch |>.HeldBy s.nextFuture s.sendQueue :=
    HeldBy.register h
  rw [State.writeBatch]
  split
  · exact hsent
  · exact HeldSent.onMqttError hsent

lemma HeldUnsent.syncWithBrokerSession (h : HeldUnsent s) :
    HeldUnsent s.syncWithBrokerSession := by
  rw [State.syncWithBrokerSession]
  split
  · exact h
  · exact h.quiet quiet_drainPending

lemma HeldUnsent.afterWait (h : HeldUnsent s) : Held (s.afterWait config flush) := by
  have hsynced := HeldUnsent.syncWithBrokerSession
    (s := { s with overheatRateLimiter := s.overheatRateLimiter.finishWait s.now }) h
  rw [State.afterWait]
  simp only
  split
  · exact hsynced.failBatch.afterFlush
  · split
    · exact hsynced
    · exact hsynced.writeBatch

lemma HeldUnsent.sendToGateway (h : HeldUnsent s) : Held (s.sendToGateway config flush) := by
  rw [State.sendToGateway]
  split
  case isTrue hempty =>
    rw [HeldUnsent, hempty] at h
    exact HeldSent.afterFlush h
  case isFalse =>
    simp only
    split
    · exact h
    · exact h.afterWait

lemma HeldUnsent.loopTop (h : HeldUnsent s) : Held (s.loopTop config) := by
  rw [State.loopTop]
  split
  · exact h.waitForItem
  · exact h.sendToGateway

lemma HeldBy.onItem {item : SendQueueItem}
    (h : s.HeldBy s.nextFuture (s.batch ++ item :: s.sendQueue)) : Held (s.onItem config item) := by
  rw [State.onItem]
  simp only
  split
  case isTrue hcancelled =>
    refine HeldUnsent.loopTop (s := { s with timeout := some waitCommandsForBatchTimeoutS })
      (h.forget (by simp) fun item' hitem' hp => ?_)
    have hne : item' ≠ item := by
      rintro rfl
      rw [InFlight.Pending, hcancelled] at hp
      cases hp
    simpa [hne] using hitem'
  case isFalse =>
    have hunsent : HeldUnsent { s with
        timeout := some waitCommandsForBatchTimeoutS
        batch := s.batch ++ [item]
        nextQueueIndex := s.nextQueueIndex + 1 } := by
      rw [HeldUnsent, List.append_assoc]
      exact h
    split
    · exact hunsent.sendToGateway
    · exact hunsent.loopTop

lemma Held.quiet (h : Held s) {inFlight : InFlight} (hquiet : Quiet s.toInFlight inFlight) :
    Held { s with toInFlight := inFlight } :=
  HeldBy.quiet h hquiet

/-- Every step keeps the holders. -/
theorem Held.step {e : Event} (h : Held s) (hstep : step config s e = some s') : Held s' := by
  -- up to the write of a batch its items are not sent, and from the write on they are
  have hunsent : (∀ flush, s.sender ≠ .write flush) → HeldUnsent s := by
    intro hne
    rw [Held, State.unsent] at h
    split at h
    case h_1 flush hsender => exact absurd hsender (hne flush)
    case h_2 => exact h
  have hsent : ∀ flush, s.sender = .write flush → HeldSent s := by
    intro flush hsender
    rw [Held, State.unsent, hsender] at h
    exact h
  cases happens_of_step hstep with
  | @put command source priority hsource hroom =>
    have hput := @HeldBy.put _ _ _ ⟨s.nextFuture, command, source, priority, hsource⟩ h rfl
    rw [List.append_assoc] at hput
    exact hput
  | sendUnavailable => exact h.quiet (calm_refuseCommands _ _).toQuiet
  | cancel => exact h.quiet (calm_cancel _).toQuiet
  | setResponseTimeout =>
    exact ⟨h.nodup, h.queuedLt, h.waitingLt, h.displacedLt, h.apart, h.single, h.lost, h.held⟩
  | replyRetained => exact h
  | replyUnknown => exact h
  | reply => exact h.quiet (quiet_onReply _ _ _)
  | metaIgnored => exact h
  | unreachable => exact h.quiet quiet_drainPending
  | reachable => exact h
  | connectionLost => exact h
  | connectionRestored => exact h
  | tick =>
    exact ⟨h.nodup, h.queuedLt, h.waitingLt, h.displacedLt, h.apart, h.single, h.lost, h.held⟩
  | timer => exact h.quiet (quiet_timer _)
  | busFrame => exact h.quiet (Calm.traffic _).toQuiet
  | register => exact h.quiet (Calm.traffic _).toQuiet
  | cleanup => exact h.quiet (Calm.traffic _).toQuiet
  | @itemReceived _ item sendQueue hsender hqueue =>
    have hheld := hunsent fun flush => by simp [hsender]
    rw [HeldUnsent, hqueue] at hheld
    exact HeldBy.onItem (s := { s with sendQueue }) hheld
  | itemTimeout hsender => exact (hunsent fun flush => by simp [hsender]).sendToGateway
  | slotDone hsender => exact (hunsent fun flush => by simp [hsender]).waitForItem
  | sleepDone hsender => exact (hunsent fun flush => by simp [hsender]).afterWait
  | deliverReset =>
    obtain ⟨rpcs, heq⟩ := s.markDelivered_eq
    rw [heq]
    exact h
  | deliverWrite =>
    obtain ⟨rpcs, heq⟩ := s.markDelivered_eq
    rw [heq]
    exact h
  | resetReturns hsender =>
    exact HeldUnsent.writeBatch (s := { s with
      pendingResync := false
      batchStartIndex := 0
      nextQueueIndex := s.batch.length }) (hunsent fun flush => by simp [hsender])
  | writeReturns hsender => exact (hsent _ hsender).afterFlush
  | resetRaises hsender => exact (hunsent fun flush => by simp [hsender]).onMqttError
  | writeRaises hsender => exact (hsent _ hsender).onMqttError

lemma held_initial (listeners : Finset ℕ) (connected : Bool) (session : ℕ)
    (resetDelivered : Bool) :
    Held (initial config listeners connected session resetDelivered) := by
  have hstart : ∀ busTraffic : BusTrafficCallbacks,
      InFlight.HeldBy { busTraffic } 0 [] := by
    intro busTraffic
    constructor <;> intros <;> first | exact List.nodup_nil | contradiction
  cases resetDelivered with
  | false => exact hstart _
  | true => exact hstart _

lemma held_of_reachable (h : (driver config).Reachable s) : Held s := by
  refine h.invariant ?_ fun s e s' hheld _ hstep => hheld.step hstep
  rintro s ⟨listeners, connected, session, resetDelivered, rfl⟩
  exact held_initial listeners connected session resetDelivered

end Held

/-! ### `deinitialize` -/

namespace InFlight

/-- The body of the loop of `deinitialize` over the waiters. -/
def cancelOne (s : InFlight) (respWaiter : WaitResponseItem) : InFlight :=
  if s.Pending respWaiter.sendItem.future then
    (s.cancelTimeout respWaiter).resolve respWaiter.sendItem.future .transmissionCancelled .shutdown
  else s.cancelTimeout respWaiter

/-- What `deinitialize` does with the waiters. -/
def cancelWaiters (s : InFlight) : InFlight :=
  { s.waitingForResponses.values.foldl cancelOne s with waitingForResponses := ∅ }

variable {s : InFlight}

lemma pending_cancelOne {w : WaitResponseItem} {f : ℕ} :
    (s.cancelOne w).Pending f ↔ s.Pending f ∧ w.sendItem.future ≠ f := by
  rw [cancelOne]
  by_cases hf : w.sendItem.future = f
  · subst hf
    split
    case isTrue => simp [resolve, cancelTimeout, Pending]
    case isFalse hdone => simpa [cancelTimeout] using hdone
  · split
    · simp [resolve, cancelTimeout, Pending, Function.update_of_ne (Ne.symm hf), hf]
    · simp [cancelTimeout, hf]

lemma pending_foldl_cancelOne {ws : List WaitResponseItem} {f : ℕ} :
    (ws.foldl cancelOne s).Pending f ↔ s.Pending f ∧ ∀ w ∈ ws, w.sendItem.future ≠ f := by
  induction ws generalizing s with
  | nil => simp
  | cons w ws ih => rw [List.foldl_cons, ih, pending_cancelOne, List.forall_mem_cons, and_assoc]

/-- The pending commands after the shutdown are those without a waiter. -/
lemma pending_cancelWaiters {f : ℕ} : s.cancelWaiters.Pending f ↔
    s.Pending f ∧ ∀ i w, s.waitingForResponses.get? i = some w → w.sendItem.future ≠ f := by
  refine pending_foldl_cancelOne.trans (and_congr_right fun _ => ?_)
  simp only [Dict.mem_values_iff]
  exact ⟨fun h i w hw => h w ⟨i, hw⟩, fun h w hw => hw.elim fun i hw => h i w hw⟩

end InFlight

/-- Whether the cancellation ends the sender task.  A task that awaits the future of a
slot passes the cancellation on to that future and takes it for a cancelled command,
and the `continue` in the `finally` of the timeout branch drops it; in both cases the
task goes on, and `deinitialize` waits for its end in vain. -/
def State.CancellationEndsSender (s : State) : Prop :=
  match s.sender with
  | .get _ => True
  | .slot respWaiter => s.futures respWaiter.sendItem.future ≠ .pending ∧
      s.futures respWaiter.sendItem.future ≠ .cancelled
  | .sleep flush _ | .reset flush | .write flush => flush ≠ .timeout

instance (s : State) : Decidable s.CancellationEndsSender := by
  unfold State.CancellationEndsSender
  split <;> infer_instance

/-- `deinitialize`: `none` where it does not return. -/
def State.deinitialize (s : State) : Option State :=
  if s.CancellationEndsSender then some { s with toInFlight := s.toInFlight.cancelWaiters }
  else none

/-- When `deinitialize` returns, every accepted command is done exactly if none was
pending in the send queue, in the unsent batch or without its waiter. -/
theorem deinitialize_resolves_iff (config : WBDALIConfig) (s s' : State)
    (h : (driver config).Reachable s) (hreturns : s.deinitialize = some s') :
    (∀ f < s.nextFuture, ¬ s'.Pending f) ↔
      (∀ item ∈ s.unsent ++ s.sendQueue, ¬ s.Pending item.future) ∧
        ∀ f ∈ s.displaced, ¬ s.Pending f := by
  have hheld := held_of_reachable h
  have hs' : s' = { s with toInFlight := s.toInFlight.cancelWaiters } := by
    rw [State.deinitialize] at hreturns
    split at hreturns
    · exact (Option.some.inj hreturns).symm
    · cases hreturns
  have hpending : ∀ f, s'.Pending f ↔ s.Pending f ∧
      ∀ i w, s.waitingForResponses.get? i = some w → w.sendItem.future ≠ f := by
    intro f
    rw [hs']
    exact pending_cancelWaiters
  constructor
  · intro hdone
    constructor
    · intro item hitem hp
      refine hdone _ (hheld.queuedLt item hitem) ((hpending _).2 ⟨hp, fun i w hw => ?_⟩)
      exact (hheld.apart hw item hitem).symm
    · intro f hf hp
      exact hdone f (hheld.displacedLt f hf) ((hpending f).2 ⟨hp, fun i w => (hheld.lost f hf).2⟩)
  · rintro ⟨hqueued, hdisplaced⟩ f hf hp
    obtain ⟨hp, hwaiting⟩ := (hpending f).1 hp
    rcases hheld.held f hf hp with ⟨item, hitem, rfl⟩ | ⟨i, w, hw, rfl⟩ | hlost
    · exact hqueued item hitem hp
    · exact hwaiting i w hw rfl
    · exact hdisplaced f hlost hp

/-- A command in flight when the driver is shut down. -/
def oneInFlight : List Event :=
  List.flatten [queryStatusReceived, [.tick (1 / 100), .itemTimeout], published]

theorem deinitialize_resolves_iff_oneInFlight :
    ∃ s s', after {} oneInFlight = some s ∧ s.deinitialize = some s' ∧
      s.Pending 0 ∧ s'.futures 0 = .result .transmissionCancelled ∧
      ((∀ f < s.nextFuture, ¬ s'.Pending f) ↔
        (∀ item ∈ s.unsent ++ s.sendQueue, ¬ s.Pending item.future) ∧
          ∀ f ∈ s.displaced, ¬ s.Pending f) := by
  have hrun : (after {} oneInFlight).any (fun s => s.Pending 0 ∧
      s.deinitialize.any (fun s' => s'.futures 0 = .result .transmissionCancelled)) := by
    decide +kernel
  obtain ⟨s, hs, hdecide⟩ := (Option.any_eq_true _ _).1 hrun
  obtain ⟨hpending, hany⟩ := of_decide_eq_true hdecide
  obtain ⟨s', hs', hresult⟩ := (Option.any_eq_true _ _).1 hany
  exact ⟨s, s', hs, hs', hpending, of_decide_eq_true hresult,
    deinitialize_resolves_iff {} s s' (reachable_of_after hs) hs'⟩

/-- A command that waits in the batch of the sender is left pending. -/
theorem exists_pending_after_deinitialize :
    ∃ s s', (driver {}).Reachable s ∧ s.deinitialize = some s' ∧
      ∃ f < s.nextFuture, s'.Pending f := by
  have hrun : (after {} queryStatusReceived).any (fun s => 0 < s.nextFuture ∧
      s.deinitialize.any (fun s' => s'.Pending 0)) := by
    decide +kernel
  obtain ⟨s, hs, hdecide⟩ := (Option.any_eq_true _ _).1 hrun
  obtain ⟨hlt, hany⟩ := of_decide_eq_true hdecide
  obtain ⟨s', hs', hpending⟩ := (Option.any_eq_true _ _).1 hany
  exact ⟨s, s', reachable_of_after hs, hs', 0, hlt, of_decide_eq_true hpending⟩

end WbMqttDali.Driver
