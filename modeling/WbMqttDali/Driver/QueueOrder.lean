import Mathlib
import WbMqttDali.Driver.Reported
import WbMqttDali.Driver.Shutdown

/-!
# The order of the gateway queue

The sender takes the commands from its queue in the order in which they were put
there, and writes them to the gateway in this order.  It drops some of them, but it
never puts one before another.  A future that has its result keeps it.
-/

namespace WbMqttDali.Driver

namespace InFlight

variable {s s' s'' : InFlight}

/-- From `s` to `s'` nothing was written, and every result is still there. -/
structure Lasting (s s' : InFlight) : Prop where
  written : s'.written = s.written
  results : ∀ {f r}, s.futures f = .result r → s'.futures f = .result r

lemma Lasting.refl (s : InFlight) : Lasting s s := ⟨rfl, id⟩

lemma Lasting.trans (h : Lasting s s') (h' : Lasting s' s'') : Lasting s s'' where
  written := h'.written.trans h.written
  results := fun hr => h'.results (h.results hr)

/-- A pending future may get any state: it had no result. -/
lemma lasting_update {f : ℕ} {state : FutureState} (hp : s.Pending f)
    (hwritten : s'.written = s.written)
    (hfutures : s'.futures = Function.update s.futures f state) : Lasting s s' where
  written := hwritten
  results := by
    intro f' r hr
    have hne : f' ≠ f := by
      rintro rfl
      rw [InFlight.Pending, hr] at hp
      cases hp
    rw [hfutures, Function.update_of_ne hne]
    exact hr

lemma lasting_drainOne (w : WaitResponseItem) : Lasting s (s.drainOne w) := by
  rw [drainOne]
  split
  · rename_i hp
    exact lasting_update hp rfl rfl
  · exact ⟨rfl, id⟩

lemma lasting_drainPending : Lasting s s.drainPending := by
  have hfold : ∀ (ws : List WaitResponseItem) (s : InFlight), Lasting s (ws.foldl drainOne s) := by
    intro ws
    induction ws with
    | nil => exact Lasting.refl
    | cons w ws ih => exact fun s => (lasting_drainOne w).trans (ih _)
  have h := hfold s.waitingForResponses.values s
  exact ⟨h.written, h.results⟩

lemma lasting_failOne (item : SendQueueItem) : Lasting s (s.failOne item) := by
  rw [failOne]
  split
  · rename_i hp
    exact lasting_update hp rfl rfl
  · exact Lasting.refl s

lemma lasting_failBatch (items : List SendQueueItem) : Lasting s (s.failBatch items) := by
  induction items generalizing s with
  | nil => exact Lasting.refl s
  | cons item items ih => exact (lasting_failOne item).trans (ih (s := s.failOne item))

lemma lasting_refuseCommands (commands : List Command) (source : BusTrafficSource) :
    Lasting s (s.refuseCommands commands source) where
  written := (calm_refuseCommands commands source).written
  results := by
    intro f r hr
    rw [futures_refuseCommands]
    exact hr

lemma lasting_cancel (future : ℕ) : Lasting s (s.cancel future) := by
  rw [cancel]
  split
  · rename_i hp
    exact lasting_update hp rfl rfl
  · exact Lasting.refl s

lemma lasting_onReply (w : WaitResponseItem) (payload : Option ℤ) (owner : Option ℕ) :
    Lasting s (s.onReply w payload owner) := by
  unfold onReply
  split
  · rename_i hp
    exact lasting_update hp rfl rfl
  · exact ⟨rfl, id⟩

lemma lasting_timer {h : ℕ} (timer : Timer) :
    Lasting s ({ s with timers := s.timers.erase h }.timeoutCallback timer) := by
  rw [timeoutCallback]
  split
  · exact ⟨rfl, id⟩
  · split
    · rename_i hp
      exact lasting_update hp rfl rfl
    · exact ⟨rfl, id⟩

/-- A batch is written in its own order. -/
lemma written_register (i : ℕ) (items : List SendQueueItem) :
    (s.register i items).written.reverse.map Written.future =
      s.written.reverse.map Written.future ++ items.map SendQueueItem.future := by
  induction items generalizing s i with
  | nil => simp [register]
  | cons item items ih =>
    rw [register, ih]
    simp [registerOne]

end InFlight

open InFlight

/-! ### The invariant -/

section Lined

variable {config : WBDALIConfig} {base : ℕ → FutureState} {n : ℕ} {s s' : State}
  {flush : Flush} {unsent : List SendQueueItem}

/-- The futures of what was written, of what the sender still has to write and of the queue
stand in the order of their numbers; and the results of `base` are still there. -/
structure Lined (base : ℕ → FutureState) (n : ℕ) (s : State)
    (unsent : List SendQueueItem) : Prop where
  nextFuture : s.nextFuture = n
  line : (s.written.reverse.map Written.future ++ unsent.map SendQueueItem.future ++
    s.sendQueue.map SendQueueItem.future).Sublist (List.range n)
  results : ∀ f r, base f = .result r → s.futures f = .result r

lemma Lined.lasting (h : Lined base n s unsent) {inFlight : InFlight}
    (hlasting : Lasting s.toInFlight inFlight) :
    Lined base n { s with toInFlight := inFlight } unsent where
  nextFuture := h.nextFuture
  line := by
    show (inFlight.written.reverse.map Written.future ++ _ ++ _).Sublist _
    rw [hlasting.written]
    exact h.line
  results := fun f r hr => hlasting.results (h.results f r hr)

/-- Commands may be dropped. -/
lemma Lined.drop (h : Lined base n s unsent) {unsent' : List SendQueueItem}
    (hsub : unsent'.Sublist unsent) : Lined base n s unsent' where
  nextFuture := h.nextFuture
  line := (((List.Sublist.refl _).append (hsub.map _)).append (List.Sublist.refl _)).trans h.line
  results := h.results

lemma Lined.drainPending (h : Lined base n s unsent) : Lined base n s.drainPending unsent :=
  h.lasting lasting_drainPending

lemma Lined.failBatch (h : Lined base n s unsent) : Lined base n s.failBatch [] :=
  (h.lasting (lasting_failBatch s.batch)).drop (List.nil_sublist _)

/-! ### The sender task -/

/-- The invariant at an `await` of the sender. -/
def IsLined (base : ℕ → FutureState) (n : ℕ) (s : State) : Prop := Lined base n s s.unsent

lemma Lined.waitForItem (h : Lined base n s s.batch) : IsLined base n s.waitForItem :=
  ⟨h.nextFuture, h.line, h.results⟩

lemma Lined.waitForSlot (h : Lined base n s []) (w : WaitResponseItem) :
    IsLined base n (s.dropBatch.waitForSlot w) := by
  rw [State.waitForSlot]
  split
  · exact ⟨h.nextFuture, h.line, h.results⟩
  · exact ⟨h.nextFuture, h.line, h.results⟩

lemma Lined.startOver (h : Lined base n s []) (hempty : s.batch = []) :
    IsLined base n s.startOver := by
  rw [State.startOver]
  split
  · exact Lined.waitForItem (hempty ▸ h)
  · exact h.waitForSlot _

lemma Lined.afterFlush (h : Lined base n s []) : IsLined base n (s.afterFlush config flush) := by
  cases flush with
  | slot w => exact h.waitForSlot w
  | timeout =>
    exact Lined.startOver (s := { s.dropBatch with timeout := none })
      ⟨h.nextFuture, h.line, h.results⟩ rfl
  | queueEnd =>
    simp only [State.afterFlush]
    split
    · exact Lined.startOver (s := { s with nextQueueIndex := 0 }.dropBatch)
        ⟨h.nextFuture, h.line, h.results⟩ rfl
    · exact Lined.startOver (s := s.dropBatch) ⟨h.nextFuture, h.line, h.results⟩ rfl

lemma Lined.onMqttError (h : Lined base n s unsent) :
    IsLined base n (s.onMqttError config flush) :=
  Lined.afterFlush (Lined.failBatch (s := s.drainPending) h.drainPending)

/-- The batch goes from the unsent commands to the written ones. -/
lemma Lined.register (h : Lined base n s s.batch) :
    Lined base n { s with toInFlight := s.toInFlight.register s.batchStartIndex s.batch } [] where
  nextFuture := h.nextFuture
  line := by
    show (List.map _ (List.reverse (InFlight.written _)) ++ _ ++ _).Sublist _
    rw [written_register, List.map_nil, List.append_nil]
    exact h.line
  results := fun f r hr => by
    show (InFlight.register _ _ _).futures f = _
    rw [futures_register]
    exact h.results f r hr

lemma Lined.writeBatch (h : Lined base n s s.batch) :
    IsLined base n (s.writeBatch config flush) := by
  have hsent : Lined base n ({ s with
      toInFlight := s.toInFlight.register s.batchStartIndex s.batch
      }.writeBatchRpc config s.batchStartIndex) [] :=
    ⟨h.register.nextFuture, h.register.line, h.register.results⟩
  rw [State.writeBatch]
  split
  · exact ⟨hsent.nextFuture, hsent.line, hsent.results⟩
  · exact hsent.onMqttError

lemma Lined.afterReset (h : Lined base n s s.batch) : IsLined base n (s.afterReset config flush) :=
  Lined.writeBatch (s := { s with
      pendingResync := false
      batchStartIndex := 0
      nextQueueIndex := s.batch.length }) ⟨h.nextFuture, h.line, h.results⟩

lemma Lined.syncWithBrokerSession (h : Lined base n s s.batch) :
    Lined base n s.syncWithBrokerSession s.syncWithBrokerSession.batch := by
  rw [State.syncWithBrokerSession]
  split
  · exact h
  · have hsession : Lined base n { s with syncedSession := s.session } s.batch :=
      ⟨h.nextFuture, h.line, h.results⟩
    have hdrained := hsession.drainPending
    exact ⟨hdrained.nextFuture, hdrained.line, hdrained.results⟩

lemma Lined.afterWait (h : Lined base n s s.batch) : IsLined base n (s.afterWait config flush) := by
  have hsynced := Lined.syncWithBrokerSession
    (s := { s with overheatRateLimiter := s.overheatRateLimiter.finishWait s.now })
    ⟨h.nextFuture, h.line, h.results⟩
  rw [State.afterWait]
  simp only
  split
  · exact hsynced.failBatch.afterFlush
  · split
    · exact ⟨hsynced.nextFuture, hsynced.line, hsynced.results⟩
    · exact hsynced.writeBatch

lemma Lined.sendToGateway (h : Lined base n s s.batch) :
    IsLined base n (s.sendToGateway config flush) := by
  rw [State.sendToGateway]
  split
  · exact (h.drop (List.nil_sublist _)).afterFlush
  · simp only
    split
    · exact ⟨h.nextFuture, h.line, h.results⟩
    · exact h.afterWait

lemma Lined.loopTop (h : Lined base n s s.batch) : IsLined base n (s.loopTop config) := by
  rw [State.loopTop]
  split
  · exact h.waitForItem
  · exact h.sendToGateway

/-- A received item joins the batch unless it was cancelled in the queue. -/
lemma Lined.onItem {item : SendQueueItem} (h : Lined base n s (s.batch ++ [item])) :
    IsLined base n (s.onItem config item) := by
  have hbatch : Lined base n { s with
      timeout := some waitCommandsForBatchTimeoutS
      batch := s.batch ++ [item]
      nextQueueIndex := s.nextQueueIndex + 1 } (s.batch ++ [item]) :=
    ⟨h.nextFuture, h.line, h.results⟩
  rw [State.onItem]
  simp only
  split
  · have hdropped := h.drop (List.sublist_append_left s.batch [item])
    exact Lined.loopTop (s := { s with timeout := some waitCommandsForBatchTimeoutS })
      ⟨hdropped.nextFuture, hdropped.line, hdropped.results⟩
  · split
    · exact hbatch.sendToGateway
    · exact hbatch.loopTop

/-! ### Steps -/

def Event.isPut : Event → Bool
  | .put _ _ _ => true
  | _ => false

lemma State.put_eq_some_iff {command : Command} {source : BusTrafficSource}
    {priority : FramePriority} : s.put config command source priority = some s' ↔
      ∃ hsource : source ≠ .bus, s.sendQueue.length < config.queueSize ∧
        { s with
          nextFuture := s.nextFuture + 1
          sendQueue := s.sendQueue ++ [⟨s.nextFuture, command, source, priority, hsource⟩] } =
            s' := by
  rw [State.put]
  split
  · rename_i hsource
    split
    · rename_i hroom
      simp [hsource, hroom]
    · rename_i hroom
      simp [hroom]
  · rename_i hsource
    simp [hsource]

lemma IsLined.rebase (h : IsLined base n s) : IsLined s.futures n s :=
  ⟨h.nextFuture, h.line, fun _ _ => id⟩

/-- A command that is put into the queue gets the next number. -/
lemma IsLined.put (h : IsLined base n s) {command : Command} {source : BusTrafficSource}
    {priority : FramePriority} (hput : s.put config command source priority = some s') :
    IsLined base (n + 1) s' := by
  obtain ⟨hsource, -, rfl⟩ := State.put_eq_some_iff.1 hput
  refine ⟨congrArg (· + 1) h.nextFuture, ?_, h.results⟩
  show (List.map _ _ ++ _ ++ List.map _ (s.sendQueue ++ _)).Sublist (List.range (n + 1))
  rw [List.map_append, ← List.append_assoc, List.range_succ, ← h.nextFuture]
  have hline := h.line
  rw [← h.nextFuture] at hline
  exact hline.append (List.Sublist.refl _)

/-- Every other step keeps the order and the results. -/
theorem IsLined.step {e : Event} (h : IsLined base n s) (hne : e.isPut = false)
    (hstep : step config s e = some s') : IsLined base n s' := by
  -- up to the write of a batch its items are not sent, and from the write on they are
  have hunsent : (∀ flush, s.sender ≠ .write flush) → Lined base n s s.batch := by
    intro hwrite
    rw [IsLined, State.unsent] at h
    split at h
    case h_1 flush hsender => exact absurd hsender (hwrite flush)
    case h_2 => exact h
  have hsent : ∀ flush, s.sender = .write flush → Lined base n s [] := by
    intro flush hsender
    rw [IsLined, State.unsent, hsender] at h
    exact h
  cases happens_of_step hstep with
  | put => exact absurd hne (by simp [Event.isPut])
  | sendUnavailable => exact Lined.lasting h (lasting_refuseCommands _ _)
  | cancel => exact Lined.lasting h (lasting_cancel _)
  | setResponseTimeout => exact ⟨h.nextFuture, h.line, h.results⟩
  | replyRetained => exact h
  | replyUnknown => exact ⟨h.nextFuture, h.line, h.results⟩
  | @reply respPointer payload respWaiter =>
    have hreply := Lined.lasting h (lasting_onReply respWaiter payload (s.owed respPointer).head?)
    exact ⟨hreply.nextFuture, hreply.line, hreply.results⟩
  | metaIgnored => exact h
  | unreachable =>
    exact Lined.drainPending (s := { s with unreachableReportedInSession := some s.session })
      ⟨h.nextFuture, h.line, h.results⟩
  | reachable => exact ⟨h.nextFuture, h.line, h.results⟩
  | connectionLost => exact ⟨h.nextFuture, h.line, h.results⟩
  | connectionRestored => exact ⟨h.nextFuture, h.line, h.results⟩
  | tick => exact ⟨h.nextFuture, h.line, h.results⟩
  | timer => exact Lined.lasting h (lasting_timer _)
  | busFrame => exact ⟨h.nextFuture, h.line, h.results⟩
  | register => exact ⟨h.nextFuture, h.line, h.results⟩
  | cleanup => exact ⟨h.nextFuture, h.line, h.results⟩
  | @itemReceived _ item sendQueue hsender hqueue =>
    have hlined := hunsent fun flush => by simp [hsender]
    refine Lined.onItem (s := { s with sendQueue }) ⟨hlined.nextFuture, ?_, hlined.results⟩
    have hline := hlined.line
    simpa [hqueue] using hline
  | itemTimeout hsender => exact (hunsent fun flush => by simp [hsender]).sendToGateway
  | slotDone hsender => exact (hunsent fun flush => by simp [hsender]).waitForItem
  | sleepDone hsender => exact (hunsent fun flush => by simp [hsender]).afterWait
  | deliverReset | deliverWrite =>
    obtain ⟨rpcs, heq⟩ := s.markDelivered_eq
    rw [heq]
    exact ⟨h.nextFuture, h.line, h.results⟩
  | resetReturns hsender => exact (hunsent fun flush => by simp [hsender]).afterReset
  | writeReturns hsender => exact (hsent _ hsender).afterFlush
  | resetRaises hsender => exact (hunsent fun flush => by simp [hsender]).onMqttError
  | writeRaises hsender => exact (hsent _ hsender).onMqttError

lemma isLined_initial (listeners : Finset ℕ) (connected : Bool) (session : ℕ)
    (resetDelivered : Bool) :
    let s := initial config listeners connected session resetDelivered
    IsLined s.futures 0 s := by
  intro s
  cases resetDelivered <;> exact ⟨rfl, List.nil_sublist _, fun _ _ => id⟩

end Lined

end WbMqttDali.Driver
