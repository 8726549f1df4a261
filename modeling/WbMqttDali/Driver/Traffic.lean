import Mathlib
import WbMqttDali.Driver.Reported
import WbMqttDali.Driver.Shutdown
import WbMqttDali.Driver.Slots

/-!
# The commands in the bus traffic

Every command that got a sequence id is reported to all listeners, in the order of
the ids.  That fails for a command that is cancelled after the sender took it,
which is never reported, and for a command in flight that so many others overtake,
while the link is down, that the callbacks give up waiting for it.
-/

namespace WbMqttDali.Driver

open InFlight

/-! ### The invariant -/

section Telling

variable {config : WBDALIConfig} {base : BusTrafficCallbacks} {s s' : State} {flush : Flush}
  {unsent : List SendQueueItem}

/-- Every command that is in flight or was reported has its id, and the commands that have
none yet, those of `unsent` and of the queue, are pending or cancelled.  The rest of the
batch of the sender is in flight or done. -/
structure Telling (base : BusTrafficCallbacks) (s : State)
    (unsent : List SendQueueItem) : Prop where
  held : s.HeldBy s.nextFuture (unsent ++ s.sendQueue)
  told : s.Unbroken → s.Told
  unresolved : ∀ item ∈ unsent ++ s.sendQueue,
    s.Pending item.future ∨ s.futures item.future = .cancelled
  fresh : ∀ f, s.nextFuture ≤ f → s.Pending f
  sent : ∀ item ∈ s.batch, item ∉ unsent → s.Pending item.future →
    ∃ i w, s.waitingForResponses.get? i = some w ∧ w.sendItem.future = item.future
  announced : s.Announced base

lemma Telling.single (h : Telling base s unsent) : s.Single :=
  fun _ _ _ _ hw hw' => h.held.single hw hw'

/-- A step on the commands in flight that spares the futures of the other commands. -/
lemma Telling.orderly (h : Telling base s unsent) {inFlight : InFlight}
    (horderly : Orderly s.toInFlight inFlight)
    (hspared : ∀ f, (∀ i w, s.waitingForResponses.get? i = some w → w.sendItem.future ≠ f) →
      inFlight.futures f = s.futures f) :
    Telling base { s with toInFlight := inFlight } unsent where
  held := h.held.quiet horderly.toQuiet
  told := horderly.told h.single h.told
  unresolved := fun item hitem => by
    have hsame := hspared item.future fun i w hw => (h.held.apart hw item hitem).symm
    exact (h.unresolved item hitem).imp hsame.trans hsame.trans
  fresh := fun f hf => by
    have hsame := hspared f fun i w hw => ((h.held.waitingLt hw).trans_le hf).ne
    exact hsame.trans (h.fresh f hf)
  sent := fun item hitem hunsent hp => by
    obtain ⟨i, w, hw, hf⟩ := h.sent item hitem hunsent (horderly.pending hp)
    exact ⟨i, w, horderly.kept hw (hf ▸ hp), hf⟩
  announced := horderly.announced h.announced

lemma Telling.drainPending (h : Telling base s unsent) : Telling base s.drainPending unsent :=
  h.orderly orderly_drainPending fun _ => futures_drainPending

/-- The commands of the unsent batch fail, and are reported. -/
lemma Telling.failBatch (h : Telling base s s.batch) : Telling base s.failBatch [] := by
  have horderly : Orderly s.toInFlight (s.toInFlight.failBatch s.batch) :=
    orderly_failBatch fun item hitem i w hw =>
      (h.held.apart hw item (List.mem_append_left _ hitem)).symm
  have hnodup := h.held.nodup
  rw [List.map_append, List.nodup_append] at hnodup
  refine ⟨HeldUnsent.failBatch h.held, horderly.told h.single h.told, ?_, ?_,
    fun item hitem _ hp => absurd hp ((quiet_failBatch s.batch).2.2 item hitem),
    horderly.announced h.announced⟩
  · intro item hitem
    have hsame := @futures_failBatch s.toInFlight s.batch item.future fun item' hitem' =>
      hnodup.2.2 _ (List.mem_map_of_mem hitem') _ (List.mem_map_of_mem hitem)
    exact (h.unresolved item (List.mem_append_right _ hitem)).imp hsame.trans hsame.trans
  · intro f hf
    have hsame := @futures_failBatch s.toInFlight s.batch f fun item hitem =>
      ((h.held.queuedLt item (List.mem_append_left _ hitem)).trans_le hf).ne
    exact hsame.trans (h.fresh f hf)

/-! ### The sender task -/

/-- The invariant at an `await` of the sender. -/
def Tells (base : BusTrafficCallbacks) (s : State) : Prop := Telling base s s.unsent

lemma Telling.waitForItem (h : Telling base s s.batch) : Tells base s.waitForItem :=
  ⟨h.held, h.told, h.unresolved, h.fresh, h.sent, h.announced⟩

lemma Telling.dropBatch (h : Telling base s []) : Telling base s.dropBatch [] :=
  ⟨h.held, h.told, h.unresolved, h.fresh, fun _ hitem => absurd hitem List.not_mem_nil,
    h.announced⟩

lemma Telling.waitForSlot (h : Telling base s []) (w : WaitResponseItem) :
    Tells base (s.dropBatch.waitForSlot w) := by
  have hd := h.dropBatch
  rw [State.waitForSlot]
  split
  · exact ⟨hd.held, hd.told, hd.unresolved, hd.fresh, hd.sent, hd.announced⟩
  · exact ⟨hd.held, hd.told, hd.unresolved, hd.fresh, hd.sent, hd.announced⟩

lemma Telling.startOver (h : Telling base s []) (hempty : s.batch = []) :
    Tells base s.startOver := by
  rw [State.startOver]
  split
  · exact Telling.waitForItem (hempty ▸ h)
  · exact h.waitForSlot _

lemma Telling.afterFlush (h : Telling base s []) : Tells base (s.afterFlush config flush) := by
  have hd := h.dropBatch
  cases flush with
  | slot w => exact h.waitForSlot w
  | timeout =>
    exact Telling.startOver (s := { s.dropBatch with timeout := none })
      ⟨hd.held, hd.told, hd.unresolved, hd.fresh, hd.sent, hd.announced⟩ rfl
  | queueEnd =>
    simp only [State.afterFlush]
    split
    · exact Telling.startOver (s := { s with nextQueueIndex := 0 }.dropBatch)
        ⟨hd.held, hd.told, hd.unresolved, hd.fresh, hd.sent, hd.announced⟩ rfl
    · exact hd.startOver rfl

/-- The reset or the batch was not delivered: an unsent batch fails. -/
lemma Telling.onMqttError_unsent (h : Telling base s s.batch) :
    Tells base (s.onMqttError config flush) :=
  Telling.afterFlush (Telling.failBatch (s := s.drainPending) h.drainPending)

/-- The batch was not delivered: its waiters are drained, so that it has failed already. -/
lemma Telling.onMqttError_sent (h : Telling base s []) :
    Tells base (s.onMqttError config flush) := by
  have hdone : ∀ item ∈ s.batch, ¬ s.drainPending.Pending item.future := by
    intro item hitem hp
    obtain ⟨i, w, hw, hf⟩ := h.sent item hitem (by simp) (quiet_drainPending.pending hp)
    have hkept := quiet_drainPending.kept hw (hf ▸ hp)
    cases hkept
  have heq : s.drainPending.failBatch = s.drainPending := by
    have hsame : s.toInFlight.drainPending.failBatch s.batch = s.toInFlight.drainPending :=
      failBatch_of_done hdone
    rw [State.failBatch]
    change { s with toInFlight := s.toInFlight.drainPending.failBatch s.batch } = s.drainPending
    rw [hsame]
    rfl
  rw [State.onMqttError, heq]
  exact h.drainPending.afterFlush

/-- A batch without cancelled commands is registered. -/
lemma Telling.register (h : Telling base s s.batch)
    (hlive : ∀ item ∈ s.batch, s.futures item.future ≠ .cancelled) :
    Telling base { s with toInFlight := s.toInFlight.register s.batchStartIndex s.batch } [] where
  held := HeldBy.register h.held
  told := told_register h.told fun item hitem =>
    (h.unresolved item (List.mem_append_left _ hitem)).resolve_right (hlive item hitem)
  unresolved := fun item hitem => by
    have hsame := congrFun (futures_register (s := s.toInFlight) s.batchStartIndex s.batch)
      item.future
    exact (h.unresolved item (List.mem_append_right _ hitem)).imp hsame.trans hsame.trans
  fresh := fun f hf => by
    have hsame := congrFun (futures_register (s := s.toInFlight) s.batchStartIndex s.batch) f
    exact hsame.trans (h.fresh f hf)
  sent := fun item hitem _ _ => by
    obtain ⟨j, w, hw, heq⟩ := exists_waiter_register hitem
    exact ⟨j, w, hw, congrArg SendQueueItem.future heq⟩
  announced := by
    rw [Announced, busTraffic_register]
    exact h.announced

/-- Writing a batch, none of whose commands is cancelled. -/
lemma Telling.writeBatch (h : Telling base s s.batch)
    (hlive : (s.writeBatch config flush).written ≠ s.written →
      ∀ item ∈ s.batch, s.futures item.future ≠ .cancelled) :
    Tells base (s.writeBatch config flush) := by
  have hwritten : (s.writeBatch config flush).written =
      (s.toInFlight.register s.batchStartIndex s.batch).written := by
    rw [State.writeBatch]
    split
    · rfl
    · exact written_onMqttError _ _
  have hregistered := h.register fun item hitem => by
    refine hlive (fun heq => ?_) item hitem
    have hlength := length_written_register (s := s.toInFlight) s.batchStartIndex s.batch
    rw [← hwritten, heq] at hlength
    have hpos := List.length_pos_of_mem hitem
    omega
  have hsent : Telling base ({ s with
      toInFlight := s.toInFlight.register s.batchStartIndex s.batch
      }.writeBatchRpc config s.batchStartIndex) [] :=
    ⟨hregistered.held, hregistered.told, hregistered.unresolved, hregistered.fresh,
      hregistered.sent, hregistered.announced⟩
  rw [State.writeBatch]
  split
  · exact ⟨hsent.held, hsent.told, hsent.unresolved, hsent.fresh, hsent.sent, hsent.announced⟩
  · exact hsent.onMqttError_sent

lemma Telling.afterReset (h : Telling base s s.batch)
    (hlive : (s.afterReset config flush).written ≠ s.written →
      ∀ item ∈ s.batch, s.futures item.future ≠ .cancelled) :
    Tells base (s.afterReset config flush) :=
  Telling.writeBatch (s := { s with
      pendingResync := false
      batchStartIndex := 0
      nextQueueIndex := s.batch.length })
    ⟨h.held, h.told, h.unresolved, h.fresh, h.sent, h.announced⟩ hlive

lemma Telling.syncWithBrokerSession (h : Telling base s unsent) :
    Telling base s.syncWithBrokerSession unsent := by
  rw [State.syncWithBrokerSession]
  split
  · exact h
  · have hdrained := Telling.drainPending (s := { s with syncedSession := s.session })
      ⟨h.held, h.told, h.unresolved, h.fresh, h.sent, h.announced⟩
    exact ⟨hdrained.held, hdrained.told, hdrained.unresolved, hdrained.fresh, hdrained.sent,
      hdrained.announced⟩

/-- The sync leaves the batch and the record of the writes alone. -/
lemma syncWithBrokerSession_keeps (s : State) : s.syncWithBrokerSession.batch = s.batch ∧
    s.syncWithBrokerSession.written = s.written ∧
    ∀ item ∈ s.batch, (∀ i w, s.waitingForResponses.get? i = some w →
        w.sendItem.future ≠ item.future) →
      s.syncWithBrokerSession.futures item.future = s.futures item.future := by
  rw [State.syncWithBrokerSession]
  split
  · exact ⟨rfl, rfl, fun _ _ _ => rfl⟩
  · exact ⟨rfl, quiet_drainPending.written, fun _ _ => futures_drainPending⟩

lemma Telling.afterWait (h : Telling base s s.batch)
    (hlive : (s.afterWait config flush).written ≠ s.written →
      ∀ item ∈ s.batch, s.futures item.future ≠ .cancelled) :
    Tells base (s.afterWait config flush) := by
  set s₀ : State :=
    { s with overheatRateLimiter := s.overheatRateLimiter.finishWait s.now } with hs₀
  have h₀ : Telling base s₀ s₀.batch := ⟨h.held, h.told, h.unresolved, h.fresh, h.sent, h.announced⟩
  obtain ⟨hbatch, hwritten, hfutures⟩ := syncWithBrokerSession_keeps s₀
  have hsynced : Telling base s₀.syncWithBrokerSession s₀.syncWithBrokerSession.batch := by
    rw [hbatch]
    exact h₀.syncWithBrokerSession
  rw [State.afterWait, ← hs₀] at hlive ⊢
  simp only at hlive ⊢
  split
  case isTrue => exact hsynced.failBatch.afterFlush
  case isFalse havailable =>
    rw [if_neg havailable] at hlive
    split
    case isTrue =>
      exact ⟨hsynced.held, hsynced.told, hsynced.unresolved, hsynced.fresh, hsynced.sent,
        hsynced.announced⟩
    case isFalse hresync =>
      rw [if_neg hresync] at hlive
      refine hsynced.writeBatch fun hne item hitem => ?_
      rw [hbatch] at hitem
      rw [hfutures item hitem fun i w hw =>
        (h₀.held.apart hw item (List.mem_append_left _ hitem)).symm]
      exact hlive (fun heq => hne (heq.trans hwritten.symm)) item hitem

lemma Telling.sendToGateway (h : Telling base s s.batch)
    (hlive : (s.sendToGateway config flush).written ≠ s.written →
      ∀ item ∈ s.batch, s.futures item.future ≠ .cancelled) :
    Tells base (s.sendToGateway config flush) := by
  rw [State.sendToGateway] at hlive ⊢
  split
  case isTrue hempty =>
    rw [hempty] at h
    exact h.afterFlush
  case isFalse hne =>
    rw [if_neg hne] at hlive
    simp only at hlive ⊢
    split
    · exact ⟨h.held, h.told, h.unresolved, h.fresh, h.sent, h.announced⟩
    case isFalse hdelay =>
      rw [if_neg hdelay] at hlive
      exact h.afterWait hlive

lemma Telling.loopTop (h : Telling base s s.batch)
    (hlive : (s.loopTop config).written ≠ s.written →
      ∀ item ∈ s.batch, s.futures item.future ≠ .cancelled) : Tells base (s.loopTop config) := by
  rw [State.loopTop] at hlive ⊢
  split
  · exact h.waitForItem
  case h_2 w hw =>
    rw [hw] at hlive
    exact h.sendToGateway hlive

/-- A received item joins the batch unless it was cancelled in the queue. -/
lemma Telling.onItem {item : SendQueueItem} (h : Telling base s (s.batch ++ [item]))
    (hlive : (s.onItem config item).written ≠ s.written →
      ∀ item ∈ s.batch, s.futures item.future ≠ .cancelled) :
    Tells base (s.onItem config item) := by
  rw [State.onItem] at hlive ⊢
  simp only at hlive ⊢
  split
  case isTrue hcancelled =>
    rw [if_pos hcancelled] at hlive
    refine Telling.loopTop (s := { s with timeout := some waitCommandsForBatchTimeoutS })
      ⟨h.held.forget (by simp) fun item' hitem' hp => ?_, h.told, fun item' hitem' => ?_, h.fresh,
        fun _ hitem hunsent => absurd hitem hunsent, h.announced⟩ hlive
    · have hne : item' ≠ item := by
        rintro rfl
        rw [InFlight.Pending, hcancelled] at hp
        cases hp
      simpa [hne] using hitem'
    · refine h.unresolved item' ?_
      rcases List.mem_append.1 hitem' with hitem' | hitem' <;> simp [hitem']
  case isFalse hne =>
    rw [if_neg hne] at hlive
    have hbatch : Telling base { s with
        timeout := some waitCommandsForBatchTimeoutS
        batch := s.batch ++ [item]
        nextQueueIndex := s.nextQueueIndex + 1 } (s.batch ++ [item]) :=
      ⟨h.held, h.told, h.unresolved, h.fresh, fun _ hitem hunsent => absurd hitem hunsent,
        h.announced⟩
    have hall : (∀ item ∈ s.batch, s.futures item.future ≠ .cancelled) →
        ∀ item' ∈ s.batch ++ [item], s.futures item'.future ≠ .cancelled := by
      intro hbatch item' hitem'
      rcases List.mem_append.1 hitem' with hitem' | hitem'
      · exact hbatch item' hitem'
      · rwa [List.mem_singleton.1 hitem']
    split
    case isTrue heq =>
      rw [if_pos heq] at hlive
      exact hbatch.sendToGateway fun hwritten => hall (hlive hwritten)
    case isFalse heq =>
      rw [if_neg heq] at hlive
      exact hbatch.loopTop fun hwritten => hall (hlive hwritten)

/-- Sniffed frames and the listeners do not matter for the commands. -/
lemma Telling.traffic (h : Telling base s unsent) {busTraffic : BusTrafficCallbacks}
    (hsize : busTraffic.gatewayQueueSize = s.busTraffic.gatewayQueueSize)
    (hgap : busTraffic.gapFlushes = s.busTraffic.gapFlushes)
    (hwaiting : busTraffic.waitingForPublish = s.busTraffic.waitingForPublish)
    (hdispatched : ∀ call ∈ busTraffic.dispatched,
      call ∈ s.busTraffic.dispatched ∨ call.2.requestSource = .bus)
    (horder : ∀ reported, InOrder reported s.busTraffic → InOrder reported busTraffic) :
    Telling busTraffic { s with busTraffic } unsent where
  held := h.held.quiet (Calm.traffic _).toQuiet
  told := fun hunbroken => by
    have ht := h.told ⟨hunbroken.1, hgap ▸ hunbroken.2⟩
    refine ⟨horder _ ht.inOrder, hsize ▸ ht.size, ht.sequenceIdLt, ht.sequenceIdInj, ht.numbered,
      ht.frames, fun call hcall => ?_, fun item hitem =>
        ht.waitingForPublish item (hwaiting ▸ hitem)⟩
    rcases hdispatched call hcall with hcall | hsource
    · exact ht.dispatched call hcall
    · exact fun hne => absurd hsource hne
  unresolved := h.unresolved
  fresh := h.fresh
  sent := h.sent
  announced := announced_refl _

lemma Telling.rebase (h : Telling base s unsent) : Telling s.busTraffic s unsent :=
  ⟨h.held, h.told, h.unresolved, h.fresh, h.sent, announced_refl _⟩

end Telling

/-! ### Steps -/

/-- No command is cancelled while it waits for its reply. -/
def SparesInFlight (s : State) : Event → Prop
  | .cancel future => s.Pending future →
      ∀ w ∈ s.waitingForResponses.values, w.sendItem.future ≠ future
  | _ => True

instance (s : State) (e : Event) : Decidable (SparesInFlight s e) := by
  unfold SparesInFlight
  split <;> infer_instance

/-- A run in which no command is cancelled once it has its sequence id, no batch with a
cancelled command is written, the bus traffic callbacks never give up on a gap, and no
waiter is replaced. -/
structure ReportsAll (config : WBDALIConfig) (s : State) (e : Event) : Prop where
  resets : ResetsWhileReachable s e
  cancels : SparesInFlight s e
  writes : ∀ s' ∈ step config s e, s'.written ≠ s.written →
    ∀ item ∈ s.batch, s.futures item.future ≠ .cancelled
  gaps : ∀ s' ∈ step config s e, s'.busTraffic.gapFlushes = s.busTraffic.gapFlushes

instance (config : WBDALIConfig) (s : State) (e : Event) : Decidable (ReportsAll config s e) :=
  decidable_of_iff (ResetsWhileReachable s e ∧ SparesInFlight s e ∧
    (∀ s' ∈ step config s e, s'.written ≠ s.written →
      ∀ item ∈ s.batch, s.futures item.future ≠ .cancelled) ∧
    ∀ s' ∈ step config s e, s'.busTraffic.gapFlushes = s.busTraffic.gapFlushes)
    ⟨fun h => ⟨h.1, h.2.1, h.2.2.1, h.2.2.2⟩, fun h => ⟨h.resets, h.cancels, h.writes, h.gaps⟩⟩

section Step

variable {config : WBDALIConfig} {s s' : State}

/-- A cancelled command that is not in flight has no id yet. -/
lemma Telling.cancel {base : BusTrafficCallbacks} {unsent : List SendQueueItem} {future : ℕ}
    (h : Telling base s unsent) (hlt : future < s.nextFuture)
    (hspares : SparesInFlight s (.cancel future)) :
    Telling base { s with toInFlight := s.toInFlight.cancel future } unsent := by
  rw [InFlight.cancel]
  split
  case isTrue hp =>
    have horderly := orderly_update (s := s.toInFlight) (f := future) (r := .cancelled) (by simp)
      s.resolutions fun i w hw => hspares hp w (Dict.mem_values_iff.2 ⟨i, hw⟩)
    refine ⟨h.held.quiet horderly.toQuiet, horderly.told h.single h.told, fun item hitem => ?_,
      fun f (hf : s.nextFuture ≤ f) => ?_, fun item hitem hunsent hp => ?_,
      horderly.announced h.announced⟩
    · by_cases hf : item.future = future
      · exact .inr (by simp [hf])
      · have hsame := Function.update_of_ne hf FutureState.cancelled s.futures
        exact (h.unresolved item hitem).imp hsame.trans hsame.trans
    · exact (Function.update_of_ne (by omega) _ _).trans (h.fresh f hf)
    · obtain ⟨i, w, hw, hf⟩ := h.sent item hitem hunsent (horderly.pending hp)
      exact ⟨i, w, horderly.kept hw (hf ▸ hp), hf⟩
  case isFalse => exact h

/-- Every step keeps the invariant, and calls all listeners with what it reports. -/
theorem Tells.step {e : Event} (h : Tells s.busTraffic s) (hok : ReportsAll config s e)
    (hstep : step config s e = some s') :
    Tells s'.busTraffic s' ∧ ∃ calls,
      s'.busTraffic.dispatched = s.busTraffic.dispatched ++ calls ∧
      ∀ call ∈ calls, call.1 = s.busTraffic.callbacks := by
  -- most steps report nothing, and leave the reports as they are
  have hkept : ∀ {s' : State}, Tells s.busTraffic s' →
      Tells s'.busTraffic s' ∧ ∃ calls,
        s'.busTraffic.dispatched = s.busTraffic.dispatched ++ calls ∧
        ∀ call ∈ calls, call.1 = s.busTraffic.callbacks :=
    fun h => ⟨h.rebase, h.announced.2⟩
  -- up to the write of a batch its items are not sent, and from the write on they are
  have hunsent : (∀ flush, s.sender ≠ .write flush) → Telling s.busTraffic s s.batch := by
    intro hne
    rw [Tells, State.unsent] at h
    split at h
    case h_1 flush hsender => exact absurd hsender (hne flush)
    case h_2 => exact h
  have hsent : ∀ flush, s.sender = .write flush → Telling s.busTraffic s [] := by
    intro flush hsender
    rw [Tells, State.unsent, hsender] at h
    exact h
  have hlive := hok.writes s' hstep
  cases happens_of_step hstep with
  | @put command source priority hsource hroom =>
    have hput := @HeldBy.put _ _ _ ⟨s.nextFuture, command, source, priority, hsource⟩ h.held rfl
    rw [List.append_assoc] at hput
    refine hkept ⟨hput, h.told, fun item hitem => ?_, fun f hf => h.fresh f (Nat.le_of_succ_le hf),
      h.sent, h.announced⟩
    rw [← List.append_assoc] at hitem
    rcases List.mem_append.1 hitem with hitem | hitem
    · exact h.unresolved item hitem
    · rw [List.mem_singleton.1 hitem]
      exact .inl (h.fresh _ le_rfl)
  | sendUnavailable _ hsource =>
    exact hkept (Telling.orderly h (orderly_refuseCommands _ hsource)
      fun f _ => congrFun (futures_refuseCommands _ _) f)
  | cancel hlt => exact hkept (Telling.cancel h hlt hok.cancels)
  | setResponseTimeout =>
    refine hkept ⟨⟨h.held.nodup, h.held.queuedLt, h.held.waitingLt, h.held.displacedLt,
      h.held.apart, h.held.single, h.held.lost, h.held.held⟩, fun hunbroken => ?_, h.unresolved,
      h.fresh, h.sent, h.announced⟩
    have ht := h.told hunbroken
    exact ⟨ht.inOrder, ht.size, ht.sequenceIdLt, ht.sequenceIdInj, ht.numbered, ht.frames,
      ht.dispatched, ht.waitingForPublish⟩
  | replyRetained => exact hkept h
  | replyUnknown => exact hkept ⟨h.held, h.told, h.unresolved, h.fresh, h.sent, h.announced⟩
  | @reply respPointer payload respWaiter _ hwaiter =>
    have hreply := Telling.orderly h
      (orderly_onReply hwaiter payload (s.owed respPointer).head?)
      fun f hf => futures_onReply (hf _ respWaiter hwaiter)
    exact hkept
      ⟨hreply.held, hreply.told, hreply.unresolved, hreply.fresh, hreply.sent, hreply.announced⟩
  | metaIgnored => exact hkept h
  | unreachable =>
    exact hkept (Telling.drainPending
      (s := { s with unreachableReportedInSession := some s.session })
      ⟨h.held, h.told, h.unresolved, h.fresh, h.sent, h.announced⟩)
  | reachable => exact hkept ⟨h.held, h.told, h.unresolved, h.fresh, h.sent, h.announced⟩
  | connectionLost => exact hkept ⟨h.held, h.told, h.unresolved, h.fresh, h.sent, h.announced⟩
  | connectionRestored => exact hkept ⟨h.held, h.told, h.unresolved, h.fresh, h.sent, h.announced⟩
  | tick =>
    refine hkept ⟨⟨h.held.nodup, h.held.queuedLt, h.held.waitingLt, h.held.displacedLt,
      h.held.apart, h.held.single, h.held.lost, h.held.held⟩, fun hunbroken => ?_, h.unresolved,
      h.fresh, h.sent, h.announced⟩
    have ht := h.told hunbroken
    exact ⟨ht.inOrder, ht.size, ht.sequenceIdLt, ht.sequenceIdInj, ht.numbered, ht.frames,
      ht.dispatched, ht.waitingForPublish⟩
  | timer => exact hkept (Telling.orderly h (orderly_timer _) fun _ => futures_timer)
  | @busFrame frame frameCounter =>
    refine ⟨Telling.traffic h rfl rfl rfl (fun call hcall => ?_)
      fun _ horder => horder.notifyBusFrame frame frameCounter,
      [(s.busTraffic.callbacks, ⟨frame, none, .bus, frameCounter⟩)], rfl, by simp⟩
    rcases List.mem_append.1 hcall with hcall | hcall
    · exact .inl hcall
    · rw [List.mem_singleton.1 hcall]
      exact .inr rfl
  | register =>
    exact ⟨Telling.traffic h rfl rfl rfl (fun _ => .inl) fun _ horder => horder.setCallbacks _,
      [], by simp [BusTrafficCallbacks.register], by simp⟩
  | cleanup =>
    exact ⟨Telling.traffic h rfl rfl rfl (fun _ => .inl) fun _ horder => horder.setCallbacks _,
      [], by simp [BusTrafficCallbacks.cleanup], by simp⟩
  | @itemReceived _ item sendQueue hsender hqueue =>
    have htelling := hunsent fun flush => by simp [hsender]
    have hsplit : s.batch ++ s.sendQueue = s.batch ++ [item] ++ sendQueue := by simp [hqueue]
    refine hkept (Telling.onItem (s := { s with sendQueue }) ⟨?_, h.told, ?_, h.fresh,
      fun item' hitem' hnot => absurd (List.mem_append_left _ hitem') hnot, h.announced⟩ hlive)
    · exact hsplit ▸ htelling.held
    · exact hsplit ▸ htelling.unresolved
  | itemTimeout hsender =>
    exact hkept ((hunsent fun flush => by simp [hsender]).sendToGateway hlive)
  | slotDone hsender => exact hkept (hunsent fun flush => by simp [hsender]).waitForItem
  | sleepDone hsender => exact hkept ((hunsent fun flush => by simp [hsender]).afterWait hlive)
  | deliverReset =>
    obtain ⟨rpcs, heq⟩ := s.markDelivered_eq
    rw [heq]
    exact hkept ⟨h.held, h.told, h.unresolved, h.fresh, h.sent, h.announced⟩
  | deliverWrite =>
    obtain ⟨rpcs, heq⟩ := s.markDelivered_eq
    rw [heq]
    exact hkept ⟨h.held, h.told, h.unresolved, h.fresh, h.sent, h.announced⟩
  | resetReturns hsender => exact hkept ((hunsent fun flush => by simp [hsender]).afterReset hlive)
  | writeReturns hsender => exact hkept (hsent _ hsender).afterFlush
  | resetRaises hsender => exact hkept (hunsent fun flush => by simp [hsender]).onMqttError_unsent
  | writeRaises hsender => exact hkept (hsent _ hsender).onMqttError_sent

lemma tells_initial (listeners : Finset ℕ) (connected : Bool) (session : ℕ)
    (resetDelivered : Bool) :
    let s := initial config listeners connected session resetDelivered
    Tells s.busTraffic s := by
  intro s
  have htraffic : s.toInFlight = { busTraffic := {
      callbacks := listeners, gatewayQueueSize := config.queueSize } } := by
    cases resetDelivered <;> rfl
  have hempty : s.batch = [] ∧ s.sendQueue = [] := by cases resetDelivered <;> exact ⟨rfl, rfl⟩
  have hunsent : s.unsent = [] := by cases resetDelivered <;> rfl
  refine ⟨held_initial listeners connected session resetDelivered, fun _ => ?_, ?_, fun f _ => ?_,
    ?_, announced_refl _⟩
  · rw [htraffic]
    have hids : reportedIds { busTraffic := {
        callbacks := listeners, gatewayQueueSize := config.queueSize } } = ∅ := rfl
    refine ⟨hids ▸ InOrder.start _ _, config.queueSize_pos, ?_, ?_, rfl, ?_, ?_, ?_⟩ <;> intros <;>
      contradiction
  · simp [hunsent, hempty.2]
  · rw [htraffic]
  · simp [hempty.1]

end Step

/-! ### Runs -/

/-- The first `k` ids were reported, each once, in order and with the frame that got it;
these are all ids when no command is in flight, and no item is left waiting then. -/
def ReportedInOrder (s : State) : Prop :=
  ∃ k ≤ s.sendQueueItemIndex,
    (commandItems s.busTraffic.dispatched).map (fun item =>
      (item.frameCounter, some item.request)) =
        (List.range k).map (fun (j : ℕ) => ((j : ℤ), s.numbered[j]?)) ∧
    (s.Idle → k = s.sendQueueItemIndex ∧ s.busTraffic.waitingForPublish = [])

lemma InFlight.Told.reportedInOrder {s : State} (h : s.Told) : ReportedInOrder s := by
  have hle : Reorder.firstMissing s.reportedIds ≤ s.sendQueueItemIndex := by
    by_contra hlt
    have hmem := Reorder.mem_of_lt_firstMissing (Nat.lt_of_not_le hlt)
    exact lt_irrefl _ (mem_reportedIds.1 hmem).1
  refine ⟨_, hle, ?_, fun hidle => ?_⟩
  · have hnamed : ∀ item ∈ commandItems s.busTraffic.dispatched,
        (item.frameCounter, some item.request) =
          (item.frameCounter, s.numbered[item.frameCounter.toNat]?) := by
      intro item hitem
      obtain ⟨hitem, hsource⟩ := List.mem_filter.1 hitem
      obtain ⟨call, hcall, rfl⟩ := List.mem_map.1 hitem
      obtain ⟨k, hk, hget⟩ := h.dispatched call hcall (of_decide_eq_true hsource)
      rw [hk, Int.toNat_natCast, hget]
    calc _ = (commandItems s.busTraffic.dispatched).map (fun item =>
          (item.frameCounter, s.numbered[item.frameCounter.toNat]?)) := List.map_congr_left hnamed
      _ = ((commandItems s.busTraffic.dispatched).map (·.frameCounter)).map (fun z =>
          (z, s.numbered[z.toNat]?)) := by rw [List.map_map]; rfl
      _ = _ := by rw [h.inOrder.dispatched, List.map_map]; rfl
  · have hall : ∀ k, k ∈ s.reportedIds ↔ k < s.sendQueueItemIndex := fun k =>
      ⟨fun hk => (mem_reportedIds.1 hk).1,
        fun hk => mem_reportedIds.2 ⟨hk, fun i w hw hp => absurd hp (hidle i w hw)⟩⟩
    have heq : Reorder.firstMissing s.reportedIds = s.sendQueueItemIndex :=
      Reorder.firstMissing_eq_iff.2 ⟨by simp [hall], fun k hk => (hall k).2 hk⟩
    obtain ⟨ids, hids, -, hmem⟩ := h.inOrder.waiting
    have hnil : ids = [] := List.eq_nil_iff_forall_not_mem.2 fun k hk => by
      obtain ⟨hreported, hlt⟩ := (hmem k).1 hk
      have := (hall k).1 hreported
      omega
    exact ⟨heq, by simpa [hnil] using hids⟩

/-- In a run that reports all, the invariant holds and nothing was lost. -/
lemma tells_of_reach {config : WBDALIConfig} {s : State}
    (h : (driver config).Reach (ReportsAll config) s) :
    Tells s.busTraffic s ∧ s.Unbroken := by
  have hdisplaced := (slotsKept_of_reach (h.mono fun _ _ hok => hok.resets)).timed.displaced
  refine ⟨h.invariant (I := fun s => Tells s.busTraffic s) ?_
    fun s e s' htells hok hstep => (htells.step hok hstep).1, hdisplaced, ?_⟩
  · rintro s ⟨listeners, connected, session, resetDelivered, rfl⟩
    exact tells_initial listeners connected session resetDelivered
  · refine h.invariant (I := fun s => s.busTraffic.gapFlushes = 0) ?_ fun s e s' hgap hok hstep =>
      (hok.gaps s' hstep).trans hgap
    rintro s ⟨listeners, connected, session, resetDelivered, rfl⟩
    cases resetDelivered <;> rfl

/-- In a run that reports all, the commands are reported in the order of their ids, and
each report goes to every listener registered at the time. -/
theorem reportedInOrder_of_reportsAll (config : WBDALIConfig) (s : State)
    (h : (driver config).Reach (ReportsAll config) s) :
    ReportedInOrder s ∧ ∀ e s', ReportsAll config s e → step config s e = some s' →
      ∃ calls, s'.busTraffic.dispatched = s.busTraffic.dispatched ++ calls ∧
        ∀ call ∈ calls, call.1 = s.busTraffic.callbacks := by
  obtain ⟨htells, hunbroken⟩ := tells_of_reach h
  exact ⟨(htells.told hunbroken).reportedInOrder,
    fun e s' hok hstep => (htells.step hok hstep).2⟩

/-- Two commands are written, and the second is replied to first. -/
def twoInFlight : List Event :=
  List.flatten [queryStatusReceived, queryStatusReceived, [.tick (1 / 100), .itemTimeout],
    published]

theorem reportedInOrder_of_reportsAll_twoInFlight :
    ∃ s, (driver {}).run (ReportsAll {}) (initial {} {7} true 0 true)
        (twoInFlight ++ [.reply 1 false (some 0x1FF), .reply 0 false (some 0x1FF)]) = some s ∧
      s.busTraffic.dispatched.map (fun call => (call.1, call.2.frameCounter)) =
        [({7}, 0), ({7}, 1)] ∧
      ReportedInOrder s ∧ ∀ e s', ReportsAll {} s e → step {} s e = some s' →
        ∃ calls, s'.busTraffic.dispatched = s.busTraffic.dispatched ++ calls ∧
          ∀ call ∈ calls, call.1 = s.busTraffic.callbacks := by
  have hrun : ((driver {}).run (ReportsAll {}) (initial {} {7} true 0 true)
      (twoInFlight ++ [.reply 1 false (some 0x1FF), .reply 0 false (some 0x1FF)])).any fun s =>
        s.busTraffic.dispatched.map (fun call => (call.1, call.2.frameCounter)) =
          [({7}, 0), ({7}, 1)] := by
    decide +kernel
  obtain ⟨s, hs, hdispatched⟩ := (Option.any_eq_true _ _).1 hrun
  exact ⟨s, hs, of_decide_eq_true hdispatched,
    reportedInOrder_of_reportsAll {} s (.run (.init ⟨_, _, _, _, rfl⟩) hs)⟩

/-- A command that is cancelled in flight is never reported, and what follows it waits
with no command in flight. -/
theorem exists_not_reportedInOrder :
    ∃ s, (driver {}).Reachable s ∧ s.Idle ∧ s.sendQueueItemIndex = 2 ∧
      commandItems s.busTraffic.dispatched = [] ∧ s.busTraffic.waitingForPublish ≠ [] := by
  have hrun : (after {} (twoInFlight ++
      [.cancel 0, .reply 0 false (some 0x1FF), .reply 1 false (some 0x1FF)])).any fun s =>
        (∀ w ∈ s.waitingForResponses.values, ¬ s.Pending w.sendItem.future) ∧
        s.sendQueueItemIndex = 2 ∧ commandItems s.busTraffic.dispatched = [] ∧
        s.busTraffic.waitingForPublish ≠ [] := by
    decide +kernel
  obtain ⟨s, hafter, hs⟩ := (Option.any_eq_true _ _).1 hrun
  obtain ⟨hdone, hrest⟩ := of_decide_eq_true hs
  exact ⟨s, reachable_of_after hafter,
    fun i w hw => hdone w (Dict.mem_values_iff.2 ⟨i, hw⟩), hrest⟩

end WbMqttDali.Driver
