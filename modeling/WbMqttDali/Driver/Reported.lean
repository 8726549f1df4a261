import Mathlib
import WbMqttDali.Driver.InFlight

/-!
# The sequence ids that were reported

A command gets its sequence id when it is registered, or when it fails without
being written, and is reported under this id when it is resolved.  So the ids not
reported yet are those of the commands in flight, and the reordering of the bus
traffic callbacks fits the slots of the gateway queue.
-/

namespace WbMqttDali.Driver

namespace InFlight

variable {s s' s'' : InFlight}

/-! ### The ids that have been reported -/

/-- The given ids that no pending waiter holds. -/
def reportedIds (s : InFlight) : Finset ℕ :=
  (Finset.range s.sendQueueItemIndex).filter fun k =>
    ∀ w ∈ s.waitingForResponses.values, s.Pending w.sendItem.future → w.sequenceId ≠ k

lemma mem_reportedIds {k : ℕ} : k ∈ s.reportedIds ↔ k < s.sendQueueItemIndex ∧
    ∀ i w, s.waitingForResponses.get? i = some w → s.Pending w.sendItem.future →
      w.sequenceId ≠ k := by
  simp only [reportedIds, Finset.mem_filter, Finset.mem_range, Dict.mem_values_iff]
  exact and_congr_right fun _ =>
    ⟨fun h i w hw => h w ⟨i, hw⟩, fun h w hw => hw.elim fun i hw => h i w hw⟩

lemma getElem?_of_prefix {l l' : List BusMonitor.Frame} {k : ℕ} {frame : BusMonitor.Frame}
    (hpre : l <+: l') (h : l[k]? = some frame) : l'[k]? = some frame := by
  obtain ⟨hlt, rfl⟩ := List.getElem?_eq_some_iff.1 h
  exact List.prefix_iff_getElem?.1 hpre k hlt

/-- The item carries the frame that got its id. -/
def Named (numbered : List BusMonitor.Frame) (item : BusTrafficItem) : Prop :=
  item.requestSource ≠ .bus →
    ∃ k : ℕ, item.frameCounter = k ∧ numbered[k]? = some item.request

lemma Named.mono {numbered numbered' : List BusMonitor.Frame} {item : BusTrafficItem}
    (h : Named numbered item) (hpre : numbered <+: numbered') : Named numbered' item := by
  intro hsource
  obtain ⟨k, hk, hget⟩ := h hsource
  exact ⟨k, hk, getElem?_of_prefix hpre hget⟩

/-- The ids are given out in order, and all but those of pending waiters have been
reported in order, each with the frame that got it. -/
structure Told (s : InFlight) : Prop where
  inOrder : InOrder s.reportedIds s.busTraffic
  size : 0 < s.busTraffic.gatewayQueueSize
  sequenceIdLt : ∀ {i w}, s.waitingForResponses.get? i = some w →
    w.sequenceId < s.sendQueueItemIndex
  sequenceIdInj : ∀ {i j w w'}, s.waitingForResponses.get? i = some w →
    s.waitingForResponses.get? j = some w' → s.Pending w.sendItem.future →
    s.Pending w'.sendItem.future → w.sequenceId = w'.sequenceId → i = j
  numbered : s.numbered.length = s.sendQueueItemIndex
  frames : ∀ {i w}, s.waitingForResponses.get? i = some w →
    s.numbered[w.sequenceId]? = some w.sendItem.command.frame
  dispatched : ∀ call ∈ s.busTraffic.dispatched, Named s.numbered call.2
  waitingForPublish : ∀ item ∈ s.busTraffic.waitingForPublish, Named s.numbered item

/-- No waiter was replaced while pending, and the callbacks never gave up on a gap. -/
def Unbroken (s : InFlight) : Prop := s.displaced = [] ∧ s.busTraffic.gapFlushes = 0

/-- Two slots have different commands. -/
def Single (s : InFlight) : Prop :=
  ∀ i j w w', s.waitingForResponses.get? i = some w → s.waitingForResponses.get? j = some w' →
    w.sendItem.future = w'.sendItem.future → i = j

/-- The traffic has gone on from `base` with calls of all its listeners. -/
def Announced (base : BusTrafficCallbacks) (s : InFlight) : Prop :=
  s.busTraffic.callbacks = base.callbacks ∧ ∃ calls : List (Finset ℕ × BusTrafficItem),
    s.busTraffic.dispatched = base.dispatched ++ calls ∧ ∀ call ∈ calls, call.1 = base.callbacks

lemma announced_refl (s : InFlight) : s.Announced s.busTraffic := ⟨rfl, [], by simp, by simp⟩

/-- A step that reports what it resolves. -/
structure Orderly (s s' : InFlight) : Prop extends Quiet s s' where
  told : s.Single → (s.Unbroken → s.Told) → s'.Unbroken → s'.Told
  announced : ∀ {base}, s.Announced base → s'.Announced base

lemma Quiet.single (h : Quiet s s') (hs : s.Single) : s'.Single :=
  fun i j w w' hw hw' => hs i j w w' (h.waiting hw) (h.waiting hw')

lemma Orderly.refl (s : InFlight) : Orderly s s := ⟨Quiet.refl s, fun _ => id, id⟩

lemma Orderly.trans (h : Orderly s s') (h' : Orderly s' s'') : Orderly s s'' where
  toQuiet := h.toQuiet.trans h'.toQuiet
  told := fun hs ht => h'.told (h.toQuiet.single hs) (h.told hs ht)
  announced := fun ha => h'.announced (h.announced ha)

/-! ### Notifications -/

/-- A step that reports nothing and resolves nothing. -/
lemma Told.congr (h : s.Told) (hindex : s'.sendQueueItemIndex = s.sendQueueItemIndex)
    (hids : s'.reportedIds = s.reportedIds) (htraffic : s'.busTraffic = s.busTraffic)
    (hnumbered : s'.numbered = s.numbered) (hquiet : Quiet s s') : s'.Told where
  inOrder := by
    rw [hids, htraffic]
    exact h.inOrder
  size := htraffic ▸ h.size
  sequenceIdLt := fun hw => hindex ▸ h.sequenceIdLt (hquiet.waiting hw)
  sequenceIdInj := fun hw hw' hp hp' => h.sequenceIdInj (hquiet.waiting hw) (hquiet.waiting hw')
    (hquiet.pending hp) (hquiet.pending hp')
  numbered := by rw [hnumbered, hindex, h.numbered]
  frames := fun hw => hnumbered ▸ h.frames (hquiet.waiting hw)
  dispatched := by
    rw [htraffic, hnumbered]
    exact h.dispatched
  waitingForPublish := by
    rw [htraffic, hnumbered]
    exact h.waitingForPublish

/-- A step that reports the command with the id `k`. -/
lemma Told.notified {k : ℕ} {request : BusMonitor.Frame} {response : Response}
    {source : BusTrafficSource} (h : s.Told) (hsource : source ≠ .bus)
    (hfresh : k ∉ s.reportedIds) (hids : s'.reportedIds = insert k s.reportedIds)
    (htraffic : s'.busTraffic = s.busTraffic.notifyCommand request response source k)
    (hgap : s'.busTraffic.gapFlushes = s.busTraffic.gapFlushes)
    (hnumbered : s.numbered <+: s'.numbered) (hlength : s'.numbered.length = s'.sendQueueItemIndex)
    (hnamed : s'.numbered[k]? = some request) (hquiet : Quiet s s') : s'.Told where
  inOrder := by
    rw [hids, htraffic]
    refine h.inOrder.notifyCommand request response hsource hfresh ?_
    exact BusTrafficCallbacks.window_of_gapFlushes_eq _ request response source _ h.size
      (htraffic ▸ hgap)
  size := by
    rw [htraffic, (BusTrafficCallbacks.notifyCommand_passes _ _ _ _ _).size]
    exact h.size
  sequenceIdLt := fun hw => by
    have hlt := h.sequenceIdLt (hquiet.waiting hw)
    rw [← h.numbered] at hlt
    rw [← hlength]
    exact hlt.trans_le hnumbered.length_le
  sequenceIdInj := fun hw hw' hp hp' => h.sequenceIdInj (hquiet.waiting hw) (hquiet.waiting hw')
    (hquiet.pending hp) (hquiet.pending hp')
  numbered := hlength
  frames := fun hw => getElem?_of_prefix hnumbered (h.frames (hquiet.waiting hw))
  dispatched := fun call hcall => by
    rw [htraffic] at hcall
    obtain ⟨calls, hsub, heq⟩ :=
      (BusTrafficCallbacks.notifyCommand_passes s.busTraffic request response source k).dispatched
    rw [heq] at hcall
    rcases List.mem_append.1 hcall with hcall | hcall
    · exact (h.dispatched call hcall).mono hnumbered
    · obtain ⟨item, hitem, rfl⟩ := List.mem_map.1 (hsub hcall)
      rcases List.mem_cons.1 hitem with rfl | hitem
      · exact fun _ => ⟨k, rfl, hnamed⟩
      · exact (h.waitingForPublish item hitem).mono hnumbered
  waitingForPublish := fun item hitem => by
    rw [htraffic] at hitem
    have hitem := (BusTrafficCallbacks.notifyCommand_passes _ _ _ _ _).waiting hitem
    rcases List.mem_cons.1 hitem with rfl | hitem
    · exact fun _ => ⟨k, rfl, hnamed⟩
    · exact (h.waitingForPublish _ hitem).mono hnumbered

lemma Announced.notifyCommand {base : BusTrafficCallbacks} (h : s.Announced base)
    {request : BusMonitor.Frame} {response : Response} {source : BusTrafficSource}
    {sequenceId : ℤ}
    (htraffic : s'.busTraffic = s.busTraffic.notifyCommand request response source sequenceId) :
    s'.Announced base := by
  have hpasses := BusTrafficCallbacks.notifyCommand_passes s.busTraffic request response source
    sequenceId
  obtain ⟨hcallbacks, calls, hdispatched, hcalls⟩ := h
  obtain ⟨calls', hsub, hdispatched'⟩ := hpasses.dispatched
  rw [Announced, htraffic]
  refine ⟨hpasses.callbacks.trans hcallbacks, calls ++ calls', ?_, fun call hcall => ?_⟩
  · rw [hdispatched', hdispatched, List.append_assoc]
  · rcases List.mem_append.1 hcall with hcall | hcall
    · exact hcalls call hcall
    · obtain ⟨item, -, rfl⟩ := List.mem_map.1 (hsub hcall)
      exact hcallbacks

/-- A notification does not repair a gap. -/
lemma unbroken_of_notifyCommand {request : BusMonitor.Frame} {response : Response}
    {source : BusTrafficSource} {sequenceId : ℤ}
    (htraffic : s'.busTraffic = s.busTraffic.notifyCommand request response source sequenceId)
    (hdisplaced : s'.displaced = s.displaced) (h : s'.Unbroken) :
    s.Unbroken ∧ s'.busTraffic.gapFlushes = s.busTraffic.gapFlushes := by
  have hle := BusTrafficCallbacks.le_gapFlushes_notifyCommand s.busTraffic request response source
    sequenceId
  rw [← htraffic, h.2] at hle
  exact ⟨⟨hdisplaced ▸ h.1, by omega⟩, by rw [h.2]; omega⟩

/-! ### What is orderly -/

/-- A waiter that gets its result is reported. -/
lemma orderly_settle {i : ℕ} {w : WaitResponseItem}
    (hw : s.waitingForResponses.get? i = some w) (hp : s.Pending w.sendItem.future)
    (response : Response) (cause : Cause) : Orderly s (s.settle w response cause) where
  toQuiet := quiet_settle w response cause
  told := fun hsingle htold hunbroken => by
    obtain ⟨hunbroken, hgap⟩ :=
      @unbroken_of_notifyCommand s (s.settle w response cause) _ _ _ _ rfl rfl hunbroken
    have ht := htold hunbroken
    have hpending : ∀ f, (s.settle w response cause).Pending f ↔
        s.Pending f ∧ f ≠ w.sendItem.future := by
      intro f
      by_cases hf : f = w.sendItem.future
      · simp [hf, settle, resolve, notify, Pending]
      · simp [hf, settle, resolve, notify, Pending]
    refine ht.notified w.sendItem.source_ne_bus ?_ ?_ rfl hgap (List.prefix_refl _) ht.numbered
      (ht.frames hw) (quiet_settle w response cause)
    · exact fun hmem => (mem_reportedIds.1 hmem).2 i w hw hp rfl
    · ext k
      rw [Finset.mem_insert, mem_reportedIds, mem_reportedIds]
      constructor
      · rintro ⟨hlt, hnone⟩
        refine or_iff_not_imp_left.2 fun hne => ⟨hlt, fun j w' hw' hp' => ?_⟩
        by_cases hf : w'.sendItem.future = w.sendItem.future
        · obtain rfl := hsingle _ _ _ _ hw' hw hf
          rw [Option.some.inj (hw'.symm.trans hw)]
          exact Ne.symm hne
        · exact hnone j w' hw' ((hpending _).2 ⟨hp', hf⟩)
      · rintro (rfl | ⟨hlt, hnone⟩)
        · refine ⟨ht.sequenceIdLt hw, fun j w' hw' hp' heq => ?_⟩
          obtain ⟨hp', hf⟩ := (hpending _).1 hp'
          obtain rfl := ht.sequenceIdInj hw' hw hp' hp heq
          exact hf (by rw [Option.some.inj (hw'.symm.trans hw)])
        · exact ⟨hlt, fun j w' hw' hp' => hnone j w' hw' ((hpending _).1 hp').1⟩
  announced := fun ha => ha.notifyCommand rfl

/-- A command that was not written is reported with the next id. -/
lemma orderly_report (frame : BusMonitor.Frame) {source : BusTrafficSource}
    (hsource : source ≠ .bus) : Orderly s (s.report frame source) where
  toQuiet := Quiet.report frame source
  told := fun _ htold hunbroken => by
    obtain ⟨hunbroken, hgap⟩ :=
      @unbroken_of_notifyCommand s (s.report frame source) _ _ _ _ rfl rfl hunbroken
    have ht := htold hunbroken
    refine ht.notified hsource ?_ ?_ rfl hgap (List.prefix_append _ _) ?_ ?_
      (Quiet.report frame source)
    · exact fun hmem => lt_irrefl _ (mem_reportedIds.1 hmem).1
    · ext k
      rw [Finset.mem_insert, mem_reportedIds, mem_reportedIds]
      change k < s.sendQueueItemIndex + 1 ∧ _ ↔ _
      constructor
      · rintro ⟨hlt, hnone⟩
        exact (Nat.lt_succ_iff_lt_or_eq.1 hlt).symm.imp_right fun hlt => ⟨hlt, hnone⟩
      · rintro (rfl | ⟨hlt, hnone⟩)
        · exact ⟨Nat.lt_succ_self _, fun j w hw _ => (ht.sequenceIdLt hw).ne⟩
        · exact ⟨Nat.lt_succ_of_lt hlt, hnone⟩
    · simp [report, notify, ht.numbered]
    · simp [report, notify, ← ht.numbered]
  announced := fun ha => ha.notifyCommand rfl

lemma orderly_cancelTimeout (w : WaitResponseItem) : Orderly s (s.cancelTimeout w) where
  toQuiet := quiet_cancelTimeout w
  told := fun _ htold hunbroken =>
    (htold hunbroken).congr rfl rfl rfl rfl (quiet_cancelTimeout w)
  announced := id

lemma orderly_onReply {i : ℕ} {w : WaitResponseItem}
    (hw : s.waitingForResponses.get? i = some w) (payload : Option ℤ) (owner : Option ℕ) :
    Orderly s (s.onReply w payload owner) := by
  unfold onReply
  split
  case isTrue hp =>
    exact (orderly_cancelTimeout w).trans (orderly_settle (s := s.cancelTimeout w) hw hp _ _)
  case isFalse => exact orderly_cancelTimeout w

lemma orderly_drainOne {i : ℕ} {w : WaitResponseItem}
    (hw : s.waitingForResponses.get? i = some w) : Orderly s (s.drainOne w) := by
  rw [drainOne]
  split
  case isTrue hp =>
    exact (orderly_cancelTimeout w).trans (orderly_settle (s := s.cancelTimeout w) hw hp _ _)
  case isFalse => exact orderly_cancelTimeout w

lemma orderly_foldl_drainOne {ws : List WaitResponseItem}
    (hws : ∀ w ∈ ws, ∃ i, s.waitingForResponses.get? i = some w) :
    Orderly s (ws.foldl drainOne s) := by
  induction ws generalizing s with
  | nil => exact Orderly.refl s
  | cons w ws ih =>
    obtain ⟨i, hw⟩ := hws w (by simp)
    refine (orderly_drainOne hw).trans (ih fun w' hw' => ?_)
    rw [waitingForResponses_drainOne]
    exact hws w' (List.mem_cons_of_mem _ hw')

/-- Waiters that are done may be forgotten. -/
lemma orderly_clear (hdone : ∀ {i w}, s.waitingForResponses.get? i = some w →
    ¬ s.Pending w.sendItem.future) : Orderly s { s with waitingForResponses := ∅ } where
  toQuiet := quiet_clear hdone
  told := fun _ htold hunbroken => by
    refine (htold hunbroken).congr rfl ?_ rfl rfl (quiet_clear hdone)
    ext k
    rw [mem_reportedIds, mem_reportedIds]
    refine and_congr_right fun _ => ⟨fun _ i w hw hp => absurd hp (hdone hw), fun _ i w hw => ?_⟩
    cases hw
  announced := id

lemma orderly_drainPending : Orderly s s.drainPending :=
  (orderly_foldl_drainOne fun _ hw => Dict.mem_values_iff.1 hw).trans
    (orderly_clear not_pending_foldl_drainOne)

lemma orderly_timer {h : ℕ} (timer : Timer) :
    Orderly s ({ s with timers := s.timers.erase h }.timeoutCallback timer) := by
  have herase : Orderly s { s with timers := s.timers.erase h } :=
    ⟨Quiet.setTimers _, fun _ htold hunbroken =>
      (htold hunbroken).congr rfl rfl rfl rfl (Quiet.setTimers _), id⟩
  rw [timeoutCallback]
  split
  · exact herase
  case h_2 w hw =>
    split
    case isTrue hp => exact herase.trans (orderly_settle hw hp _ _)
    case isFalse => exact herase

/-- A future that no waiter holds. -/
lemma orderly_update {f : ℕ} {r : FutureState} (hr : r ≠ .pending)
    (resolutions : List Resolution)
    (hfree : ∀ i w, s.waitingForResponses.get? i = some w → w.sendItem.future ≠ f) :
    Orderly s { s with futures := Function.update s.futures f r, resolutions } where
  toQuiet := Quiet.update hr _ s.busTraffic
  told := fun _ htold hunbroken => by
    refine (htold hunbroken).congr rfl ?_ rfl rfl (Quiet.update hr _ s.busTraffic)
    ext k
    rw [mem_reportedIds, mem_reportedIds]
    refine and_congr_right fun _ => forall₃_congr fun i w hw => ?_
    have hfuture := Function.update_of_ne (hfree i w hw) r s.futures
    change (Function.update s.futures f r w.sendItem.future = .pending → _) ↔ _
    rw [hfuture]
  announced := id

lemma orderly_failOne (item : SendQueueItem)
    (hfree : ∀ i w, s.waitingForResponses.get? i = some w → w.sendItem.future ≠ item.future) :
    Orderly s (s.failOne item) := by
  rw [failOne]
  split
  · exact (orderly_update (by simp) _ hfree).trans (orderly_report _ item.source_ne_bus)
  · exact Orderly.refl s

/-- A batch that was not registered fails whole and is reported. -/
lemma orderly_failBatch {items : List SendQueueItem}
    (hfree : ∀ item ∈ items, ∀ i w, s.waitingForResponses.get? i = some w →
      w.sendItem.future ≠ item.future) : Orderly s (s.failBatch items) := by
  induction items generalizing s with
  | nil => exact Orderly.refl s
  | cons item items ih =>
    have hone := orderly_failOne item (hfree item (by simp))
    refine hone.trans (ih fun item' hitem' i w hw => ?_)
    exact hfree item' (List.mem_cons_of_mem _ hitem') i w (hone.waiting hw)

/-- A batch that is done already is not reported again. -/
lemma failBatch_of_done {items : List SendQueueItem}
    (hdone : ∀ item ∈ items, ¬ s.Pending item.future) : s.failBatch items = s := by
  induction items with
  | nil => rfl
  | cons item items ih =>
    rw [failBatch, List.foldl_cons, failOne, if_neg (hdone item (by simp))]
    exact ih fun item' hitem' => hdone item' (List.mem_cons_of_mem _ hitem')

lemma orderly_refuseCommands (commands : List Command) {source : BusTrafficSource}
    (hsource : source ≠ .bus) : Orderly s (s.refuseCommands commands source) := by
  rw [refuseCommands]
  induction commands generalizing s with
  | nil => exact Orderly.refl s
  | cons command commands ih => exact (orderly_report _ hsource).trans ih

/-! ### Registering -/

/-- A pending command that takes a free slot holds the next id. -/
lemma Told.registerOne {i : ℕ} {item : SendQueueItem} (h : s.Told) (hp : s.Pending item.future)
    (hfree : s.Free i) : (s.registerOne i item).Told where
  inOrder := by
    have hids : (s.registerOne i item).reportedIds = s.reportedIds := by
      ext k
      rw [mem_reportedIds, mem_reportedIds]
      change k < s.sendQueueItemIndex + 1 ∧ _ ↔ _
      constructor
      · rintro ⟨hlt, hnone⟩
        have hne : s.sendQueueItemIndex ≠ k :=
          hnone i ⟨item, s.nextTimer, s.sendQueueItemIndex⟩ (Dict.get?_set_self _ _ _) hp
        refine ⟨by omega, fun j w hw hp' => ?_⟩
        have hji : j ≠ i := by
          rintro rfl
          exact hfree w hw hp'
        exact hnone j w ((Dict.get?_set_of_ne _ _ hji).trans hw) hp'
      · rintro ⟨hlt, hnone⟩
        refine ⟨by omega, fun j w hw hp' => ?_⟩
        rcases get?_registerOne hw with ⟨-, rfl⟩ | ⟨-, hold⟩
        · exact hlt.ne'
        · exact hnone j w hold hp'
    rw [hids]
    exact h.inOrder
  size := h.size
  sequenceIdLt := fun {j w} hw => by
    rcases get?_registerOne hw with ⟨-, rfl⟩ | ⟨-, hold⟩
    · exact Nat.lt_succ_self _
    · exact Nat.lt_succ_of_lt (h.sequenceIdLt hold)
  sequenceIdInj := fun {j k w w'} hw hw' hp hp' heq => by
    rcases get?_registerOne hw with ⟨hj, rfl⟩ | ⟨-, hold⟩ <;>
      rcases get?_registerOne hw' with ⟨hk, rfl⟩ | ⟨-, hold'⟩
    · rw [hj, hk]
    · exact absurd heq (h.sequenceIdLt hold').ne'
    · exact absurd heq (h.sequenceIdLt hold).ne
    · exact h.sequenceIdInj hold hold' hp hp' heq
  numbered := by simp [InFlight.registerOne, h.numbered]
  frames := fun {j w} hw => by
    rcases get?_registerOne hw with ⟨-, rfl⟩ | ⟨-, hold⟩
    · simp [InFlight.registerOne, ← h.numbered]
    · exact getElem?_of_prefix (List.prefix_append _ _) (h.frames hold)
  dispatched := fun call hcall => (h.dispatched call hcall).mono (List.prefix_append _ _)
  waitingForPublish := fun item hitem =>
    (h.waitingForPublish item hitem).mono (List.prefix_append _ _)

/-- A pending batch is registered while no waiter is replaced. -/
lemma told_register {i : ℕ} {items : List SendQueueItem} (h : s.Unbroken → s.Told)
    (hp : ∀ item ∈ items, s.Pending item.future) (hunbroken : (s.register i items).Unbroken) :
    (s.register i items).Told := by
  induction items generalizing s i with
  | nil => exact h hunbroken
  | cons item items ih =>
    refine ih (s := s.registerOne i item) (fun hunbroken => ?_)
      (fun item' hitem' => hp item' (List.mem_cons_of_mem _ hitem')) hunbroken
    have hdisplaced := hunbroken.1
    have hnone : ∀ f, f ∉ (s.registerOne i item).displaced := by simp [hdisplaced]
    have hfree : s.Free i := fun w hw hp =>
      hnone _ (mem_displaced_registerOne.2 (.inr ⟨w, hw, hp, rfl⟩))
    refine (h ⟨?_, hunbroken.2⟩).registerOne (hp item (by simp)) hfree
    exact List.eq_nil_iff_forall_not_mem.2 fun f hf =>
      hnone f (mem_displaced_registerOne.2 (.inl hf))

@[simp] lemma busTraffic_register (i : ℕ) (items : List SendQueueItem) :
    (s.register i items).busTraffic = s.busTraffic := by
  induction items generalizing s i with
  | nil => rfl
  | cons item items ih => exact ih (s := s.registerOne i item) (i + 1)

/-- Every registered command has its waiter. -/
lemma exists_waiter_register {i : ℕ} {items : List SendQueueItem} {item : SendQueueItem}
    (hitem : item ∈ items) : ∃ j w,
      (s.register i items).waitingForResponses.get? j = some w ∧ w.sendItem = item := by
  obtain ⟨k, hk⟩ := List.mem_iff_getElem?.1 hitem
  exact ⟨i + k, get?_register hk⟩

/-! ### The futures of other commands -/

lemma futures_settle {w : WaitResponseItem} {response : Response} {cause : Cause} {f : ℕ}
    (hf : w.sendItem.future ≠ f) : (s.settle w response cause).futures f = s.futures f :=
  Function.update_of_ne (Ne.symm hf) _ _

lemma futures_onReply {w : WaitResponseItem} {payload : Option ℤ} {owner : Option ℕ} {f : ℕ}
    (hf : w.sendItem.future ≠ f) : (s.onReply w payload owner).futures f = s.futures f := by
  unfold onReply
  split
  · exact futures_settle hf
  · rfl

lemma futures_drainOne {w : WaitResponseItem} {f : ℕ} (hf : w.sendItem.future ≠ f) :
    (s.drainOne w).futures f = s.futures f := by
  rw [drainOne]
  split
  · exact futures_settle hf
  · rfl

lemma futures_drainPending {f : ℕ}
    (hf : ∀ i w, s.waitingForResponses.get? i = some w → w.sendItem.future ≠ f) :
    s.drainPending.futures f = s.futures f := by
  have hfold : ∀ (ws : List WaitResponseItem) (s : InFlight),
      (∀ w ∈ ws, w.sendItem.future ≠ f) → (ws.foldl drainOne s).futures f = s.futures f := by
    intro ws
    induction ws with
    | nil => exact fun _ _ => rfl
    | cons w ws ih =>
      intro s hws
      rw [List.foldl_cons, ih _ fun w' hw' => hws w' (List.mem_cons_of_mem _ hw')]
      exact futures_drainOne (hws w (by simp))
  refine hfold _ _ fun w hw => ?_
  obtain ⟨i, hw⟩ := Dict.mem_values_iff.1 hw
  exact hf i w hw

lemma futures_failBatch {items : List SendQueueItem} {f : ℕ}
    (hf : ∀ item ∈ items, item.future ≠ f) : (s.failBatch items).futures f = s.futures f := by
  induction items generalizing s with
  | nil => rfl
  | cons item items ih =>
    refine (ih fun item' hitem' => hf item' (List.mem_cons_of_mem _ hitem')).trans ?_
    rw [failOne]
    split
    · exact Function.update_of_ne (Ne.symm (hf item (by simp))) _ _
    · rfl

lemma futures_timer {h : ℕ} {timer : Timer} {f : ℕ}
    (hf : ∀ i w, s.waitingForResponses.get? i = some w → w.sendItem.future ≠ f) :
    ({ s with timers := s.timers.erase h }.timeoutCallback timer).futures f = s.futures f := by
  rw [timeoutCallback]
  split
  · rfl
  case h_2 w hw =>
    split
    · exact futures_settle (hf _ w hw)
    · rfl

@[simp] lemma futures_refuseCommands (commands : List Command) (source : BusTrafficSource) :
    (s.refuseCommands commands source).futures = s.futures := by
  rw [refuseCommands]
  induction commands generalizing s with
  | nil => rfl
  | cons command commands ih => exact ih (s := s.report command.frame source)

end InFlight

end WbMqttDali.Driver
