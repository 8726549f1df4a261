import Mathlib
import WbMqttDali.Driver.Commands
import WbMqttDali.Lib.Reorder

/-!
# Bus traffic callbacks

`BusTrafficCallbacks` hands every frame of the bus to the registered listeners:
sniffed frames at once, the commands of the service in the order of their
sequence ids.  What the listeners are called with is recorded in `dispatched`,
each item with the listeners that got it.
-/

namespace WbMqttDali

open BusMonitor (Frame)
open Driver (BusTrafficSource Response)
open Reorder

structure BusTrafficItem where
  request : Frame
  response : Option Response
  requestSource : BusTrafficSource
  frameCounter : ℤ
  deriving DecidableEq

structure BusTrafficCallbacks where
  callbacks : Finset ℕ
  gatewayQueueSize : ℕ
  lastItemSequenceId : ℤ := -1
  waitingForPublish : List BusTrafficItem := []
  /-- The calls of the listeners so far. -/
  dispatched : List (Finset ℕ × BusTrafficItem) := []
  /-- How often a command was too far ahead to wait for. -/
  gapFlushes : ℕ := 0

namespace BusTrafficCallbacks

/-- `register` -/
def register (traffic : BusTrafficCallbacks) (func : ℕ) : BusTrafficCallbacks :=
  { traffic with callbacks := insert func traffic.callbacks }

/-- The function that `register` returns. -/
def cleanup (traffic : BusTrafficCallbacks) (func : ℕ) : BusTrafficCallbacks :=
  { traffic with callbacks := traffic.callbacks.erase func }

/-- `_dispatch` -/
def dispatch (traffic : BusTrafficCallbacks) (item : BusTrafficItem) : BusTrafficCallbacks :=
  { traffic with dispatched := traffic.dispatched ++ [(traffic.callbacks, item)] }

/-- `notify_bus_frame` -/
def notifyBusFrame (traffic : BusTrafficCallbacks) (frame : Frame) (frameCounter : ℤ) :
    BusTrafficCallbacks :=
  traffic.dispatch ⟨frame, none, .bus, frameCounter⟩

/-- The loop of `_drain_contiguous` over the items that wait. -/
def drainContiguousLoop (traffic : BusTrafficCallbacks) :
    List BusTrafficItem → BusTrafficCallbacks
  | [] => { traffic with waitingForPublish := [] }
  | head :: rest =>
    if head.frameCounter ≤ traffic.lastItemSequenceId then traffic.drainContiguousLoop rest
    else if head.frameCounter ≠ traffic.lastItemSequenceId + 1 then
      { traffic with waitingForPublish := head :: rest }
    else
      drainContiguousLoop
        { traffic.dispatch head with lastItemSequenceId := head.frameCounter } rest

/-- `_drain_contiguous` -/
def drainContiguous (traffic : BusTrafficCallbacks) : BusTrafficCallbacks :=
  traffic.drainContiguousLoop traffic.waitingForPublish

/-- The loop of `notify_command` that gives up on a gap. -/
def flushWaiting (traffic : BusTrafficCallbacks) : BusTrafficCallbacks :=
  traffic.waitingForPublish.foldl
    (fun traffic pendingItem =>
      if pendingItem.frameCounter ≤ traffic.lastItemSequenceId then traffic
      else traffic.dispatch pendingItem)
    traffic

/-- `notify_command` -/
def notifyCommand (traffic : BusTrafficCallbacks) (request : Frame) (response : Response)
    (source : BusTrafficSource) (sequenceId : ℤ) : BusTrafficCallbacks :=
  let item : BusTrafficItem := ⟨request, some response, source, sequenceId⟩
  if sequenceId = traffic.lastItemSequenceId + 1 then
    drainContiguous { traffic.dispatch item with lastItemSequenceId := sequenceId }
  else if sequenceId > traffic.lastItemSequenceId + traffic.gatewayQueueSize then
    { traffic.flushWaiting.dispatch item with
      waitingForPublish := []
      lastItemSequenceId := sequenceId
      gapFlushes := traffic.gapFlushes + 1 }
  else
    { traffic with
      waitingForPublish := (traffic.waitingForPublish ++ [item]).insertionSort
        fun a b => a.frameCounter ≤ b.frameCounter }

end BusTrafficCallbacks

/-! ### What a notification changes -/

namespace BusTrafficCallbacks

/-- `traffic'` comes from `traffic` by calls of its listeners for some of `items`, with
some of `items` left waiting. -/
structure Passes (items : List BusTrafficItem) (traffic traffic' : BusTrafficCallbacks) :
    Prop where
  callbacks : traffic'.callbacks = traffic.callbacks
  size : traffic'.gatewayQueueSize = traffic.gatewayQueueSize
  dispatched : ∃ calls ⊆ items.map (traffic.callbacks, ·),
    traffic'.dispatched = traffic.dispatched ++ calls
  waiting : traffic'.waitingForPublish ⊆ items

lemma drainContiguousLoop_passes (traffic : BusTrafficCallbacks) (items : List BusTrafficItem) :
    Passes items traffic (traffic.drainContiguousLoop items) ∧
      (traffic.drainContiguousLoop items).gapFlushes = traffic.gapFlushes := by
  induction items generalizing traffic with
  | nil => exact ⟨⟨rfl, rfl, ⟨[], by simp, by simp [drainContiguousLoop]⟩, fun _ h => h⟩, rfl⟩
  | cons head rest ih =>
    rw [drainContiguousLoop]
    split
    · obtain ⟨⟨hcallbacks, hsize, ⟨calls, hcalls, heq⟩, hwaiting⟩, hgap⟩ := ih traffic
      exact ⟨⟨hcallbacks, hsize, ⟨calls, List.subset_cons_of_subset _ hcalls, heq⟩,
        List.subset_cons_of_subset _ hwaiting⟩, hgap⟩
    · split
      · exact ⟨⟨rfl, rfl, ⟨[], by simp, by simp⟩, fun _ h => h⟩, rfl⟩
      · obtain ⟨⟨hcallbacks, hsize, ⟨calls, hcalls, heq⟩, hwaiting⟩, hgap⟩ := ih
          { traffic.dispatch head with lastItemSequenceId := head.frameCounter }
        refine ⟨⟨hcallbacks, hsize, ⟨(traffic.callbacks, head) :: calls, ?_, ?_⟩,
          List.subset_cons_of_subset _ hwaiting⟩, hgap⟩
        · exact List.cons_subset_cons _ hcalls
        · rw [heq]
          exact List.append_assoc _ _ _

/-- The loop that gives up on a gap calls the listeners and nothing else. -/
lemma flushWaiting_passes (traffic : BusTrafficCallbacks) :
    traffic.flushWaiting.callbacks = traffic.callbacks ∧
      traffic.flushWaiting.gatewayQueueSize = traffic.gatewayQueueSize ∧
      ∃ calls ⊆ traffic.waitingForPublish.map (traffic.callbacks, ·),
        traffic.flushWaiting.dispatched = traffic.dispatched ++ calls := by
  rw [flushWaiting]
  generalize traffic.waitingForPublish = items
  induction items generalizing traffic with
  | nil => exact ⟨rfl, rfl, [], by simp, by simp⟩
  | cons head rest ih =>
    rw [List.foldl_cons]
    split
    · obtain ⟨hcallbacks, hsize, calls, hcalls, heq⟩ := ih traffic
      exact ⟨hcallbacks, hsize, calls, List.subset_cons_of_subset _ hcalls, heq⟩
    · obtain ⟨hcallbacks, hsize, calls, hcalls, heq⟩ := ih (traffic.dispatch head)
      refine ⟨hcallbacks, hsize, (traffic.callbacks, head) :: calls,
        List.cons_subset_cons _ hcalls, ?_⟩
      rw [heq]
      exact List.append_assoc _ _ _

section NotifyCommand

variable (traffic : BusTrafficCallbacks) (request : Frame) (response : Response)
  (source : BusTrafficSource) (sequenceId : ℤ)

/-- A notification calls the listeners for the new item and for items that wait. -/
lemma notifyCommand_passes :
    Passes (⟨request, some response, source, sequenceId⟩ :: traffic.waitingForPublish) traffic
      (traffic.notifyCommand request response source sequenceId) := by
  rw [notifyCommand]
  set item : BusTrafficItem := ⟨request, some response, source, sequenceId⟩
  split
  · obtain ⟨⟨hcallbacks, hsize, ⟨calls, hcalls, heq⟩, hwaiting⟩, -⟩ := drainContiguousLoop_passes
      { traffic.dispatch item with lastItemSequenceId := sequenceId } traffic.waitingForPublish
    refine ⟨hcallbacks, hsize, ⟨(traffic.callbacks, item) :: calls,
      List.cons_subset_cons _ hcalls, ?_⟩, List.subset_cons_of_subset _ hwaiting⟩
    exact heq.trans (List.append_assoc _ _ _)
  · split
    · obtain ⟨hcallbacks, hsize, calls, hcalls, heq⟩ := flushWaiting_passes traffic
      refine ⟨hcallbacks, hsize, ⟨calls ++ [(traffic.callbacks, item)], ?_, ?_⟩, by simp⟩
      · exact List.append_subset.2 ⟨List.subset_cons_of_subset _ hcalls, by simp⟩
      · change traffic.flushWaiting.dispatched ++ [(traffic.flushWaiting.callbacks, item)] = _
        rw [heq, hcallbacks, List.append_assoc]
    · refine ⟨rfl, rfl, ⟨[], by simp, by simp⟩, fun item hitem => ?_⟩
      rw [List.mem_insertionSort, List.mem_append, List.mem_singleton] at hitem
      exact List.mem_cons.2 hitem.symm

lemma le_gapFlushes_notifyCommand :
    traffic.gapFlushes ≤ (traffic.notifyCommand request response source sequenceId).gapFlushes := by
  rw [notifyCommand]
  split
  · have hdrain := (drainContiguousLoop_passes
      { traffic.dispatch ⟨request, some response, source, sequenceId⟩ with
        lastItemSequenceId := sequenceId } traffic.waitingForPublish).2
    exact hdrain.ge
  · split
    · exact Nat.le_succ _
    · exact le_rfl

/-- A notification that does not give up on a gap is within the window. -/
lemma window_of_gapFlushes_eq (hsize : 0 < traffic.gatewayQueueSize)
    (hgap : (traffic.notifyCommand request response source sequenceId).gapFlushes =
      traffic.gapFlushes) :
    sequenceId ≤ traffic.lastItemSequenceId + traffic.gatewayQueueSize := by
  rw [notifyCommand] at hgap
  split at hgap
  · omega
  · split at hgap
    · exact absurd hgap (Nat.succ_ne_self _)
    · omega

end NotifyCommand

end BusTrafficCallbacks

/-! ### Commands in the order of their ids -/

open BusTrafficCallbacks

/-- The items of the service among those the listeners were called with. -/
def commandItems (calls : List (Finset ℕ × BusTrafficItem)) : List BusTrafficItem :=
  (calls.map Prod.snd).filter fun item => item.requestSource ≠ .bus

@[simp] lemma commandItems_nil : commandItems [] = [] := rfl

@[simp] lemma commandItems_append (calls calls' : List (Finset ℕ × BusTrafficItem)) :
    commandItems (calls ++ calls') = commandItems calls ++ commandItems calls' := by
  simp [commandItems]

lemma commandItems_items {callbacks : Finset ℕ} {items : List BusTrafficItem}
    (h : ∀ item ∈ items, item.requestSource ≠ .bus) :
    commandItems (items.map (callbacks, ·)) = items := by
  rw [commandItems, List.map_map, List.filter_eq_self.2]
  · exact List.map_id items
  · intro item hitem
    simpa using h item (by simpa using hitem)

lemma commandItems_singleton {callbacks : Finset ℕ} {item : BusTrafficItem}
    (h : item.requestSource ≠ .bus) : commandItems [(callbacks, item)] = [item] :=
  @commandItems_items _ [item] (by simpa using h)

/-- The commands with the ids in `reported` have been reported, each once: those
in front of the first missing id have been dispatched in order, the others wait. -/
structure InOrder (reported : Finset ℕ) (traffic : BusTrafficCallbacks) : Prop where
  last : traffic.lastItemSequenceId + 1 = firstMissing reported
  dispatched : (commandItems traffic.dispatched).map (·.frameCounter) =
    (List.range (firstMissing reported)).map Nat.cast
  waiting : ∃ ids : List ℕ, traffic.waitingForPublish.map (·.frameCounter) = ids.map Nat.cast ∧
    ids.Pairwise (· < ·) ∧ ∀ k, k ∈ ids ↔ k ∈ reported ∧ firstMissing reported < k
  source : ∀ item ∈ traffic.waitingForPublish, item.requestSource ≠ .bus

lemma InOrder.start (callbacks : Finset ℕ) (gatewayQueueSize : ℕ) :
    InOrder ∅ { callbacks, gatewayQueueSize } where
  last := by simp
  dispatched := by simp
  waiting := ⟨[], by simp, List.Pairwise.nil, by simp⟩
  source := by simp

/-- Sniffed frames and the listeners do not matter. -/
lemma InOrder.notifyBusFrame {reported : Finset ℕ} {traffic : BusTrafficCallbacks}
    (h : InOrder reported traffic) (frame : Frame) (frameCounter : ℤ) :
    InOrder reported (traffic.notifyBusFrame frame frameCounter) where
  last := h.last
  dispatched := by
    rw [← h.dispatched, BusTrafficCallbacks.notifyBusFrame, dispatch, commandItems_append]
    simp [commandItems]
  waiting := h.waiting
  source := h.source

lemma InOrder.setCallbacks {reported : Finset ℕ} {traffic : BusTrafficCallbacks}
    (h : InOrder reported traffic) (callbacks : Finset ℕ) :
    InOrder reported { traffic with callbacks } :=
  ⟨h.last, h.dispatched, h.waiting, h.source⟩

/-- The drain takes the items whose ids follow the last one without a gap. -/
lemma drainContiguousLoop_spec {items : List BusTrafficItem} {ids : List ℕ} {n : ℕ}
    {traffic : BusTrafficCallbacks}
    (hids : items.map (·.frameCounter) = ids.map Nat.cast) (hsorted : ids.Pairwise (· < ·))
    (hge : ∀ k ∈ ids, n ≤ k) (hlast : traffic.lastItemSequenceId + 1 = n) :
    ∃ r, ids.take r = List.range' n r ∧ n + r ∉ ids ∧ r ≤ ids.length ∧
      traffic.drainContiguousLoop items =
        { traffic with
          lastItemSequenceId := (n + r : ℕ) - 1
          waitingForPublish := items.drop r
          dispatched := traffic.dispatched ++ (items.take r).map (traffic.callbacks, ·) } := by
  induction items generalizing ids n traffic with
  | nil =>
    obtain rfl : ids = [] := by simpa using hids.symm
    refine ⟨0, rfl, by simp, le_rfl, ?_⟩
    simp [drainContiguousLoop, ← hlast]
  | cons head rest ih =>
    obtain ⟨k, ids, rfl⟩ : ∃ k ids', ids = k :: ids' := by
      cases ids with
      | nil => simp at hids
      | cons k ids => exact ⟨k, ids, rfl⟩
    rw [List.map_cons, List.map_cons, List.cons.injEq] at hids
    obtain ⟨hhead, hrest⟩ := hids
    rw [List.pairwise_cons] at hsorted
    have hnk : n ≤ k := hge k (by simp)
    rw [drainContiguousLoop, if_neg (by omega)]
    by_cases hk : k = n
    · subst hk
      rw [if_neg (by omega)]
      have hlast' : ({ traffic.dispatch head with
          lastItemSequenceId := head.frameCounter } : BusTrafficCallbacks).lastItemSequenceId + 1
          = (k + 1 : ℕ) := by simp [hhead]
      obtain ⟨r, htake, hstop, hlen, heq⟩ :=
        ih hrest hsorted.2 (fun j hj => hsorted.1 j hj) hlast'
      refine ⟨r + 1, ?_, ?_, ?_, ?_⟩
      · rw [List.take_succ_cons, htake, List.range'_succ]
      · rw [List.mem_cons, not_or]
        exact ⟨by omega, by rwa [show k + (r + 1) = k + 1 + r by omega]⟩
      · simpa using hlen
      · rw [heq]
        simp [dispatch, Nat.add_assoc, Nat.add_comm 1 r]
    · rw [if_pos (by omega)]
      refine ⟨0, rfl, ?_, by simp, ?_⟩
      · rw [List.mem_cons, not_or]
        exact ⟨by omega, fun hmem => absurd (hsorted.1 n hmem) (by omega)⟩
      · simp [← hlast]

section Notify

variable {reported : Finset ℕ} {traffic : BusTrafficCallbacks} {item : BusTrafficItem} {k : ℕ}

/-- The first missing id is dispatched with the ids that waited for it. -/
lemma InOrder.onTime (h : InOrder reported traffic) (hsource : item.requestSource ≠ .bus)
    (hcounter : item.frameCounter = k) (hk : k = firstMissing reported) :
    InOrder (insert k reported)
      (drainContiguous { traffic.dispatch item with lastItemSequenceId := k }) := by
  obtain ⟨ids, hids, hsorted, hmem⟩ := h.waiting
  have hlast : ({ traffic.dispatch item with
      lastItemSequenceId := k } : BusTrafficCallbacks).lastItemSequenceId + 1 = (k + 1 : ℕ) := rfl
  obtain ⟨r, htake, hstop, hlen, heq⟩ := drainContiguousLoop_spec hids hsorted
    (fun j hj => by have := (hmem j).1 hj; omega) hlast
  -- the drained ids were reported, and the one behind them was not
  have hrun : ∀ j, firstMissing reported < j → j < k + 1 + r → j ∈ reported := by
    intro j hj hlt
    have hj' : j ∈ ids.take r := by
      rw [htake, List.mem_range'_1]
      omega
    exact ((hmem j).1 (List.mem_of_mem_take hj')).1
  have hmissing : firstMissing (insert k reported) = k + 1 + r := by
    rw [hk]
    refine firstMissing_insert_self (fun j hj hlt => hrun j hj (by omega)) ?_ (by omega)
    rw [← hk]
    exact fun hin => hstop ((hmem _).2 ⟨hin, by omega⟩)
  have hdrain : drainContiguous { traffic.dispatch item with lastItemSequenceId := k } =
      { traffic with
        lastItemSequenceId := (k + 1 + r : ℕ) - 1
        waitingForPublish := traffic.waitingForPublish.drop r
        dispatched := traffic.dispatched ++ [(traffic.callbacks, item)] ++
          (traffic.waitingForPublish.take r).map (traffic.callbacks, ·) } := heq
  rw [hdrain]
  have hrange : List.range (k + 1 + r) = List.range k ++ [k] ++ List.range' (k + 1) r := by
    rw [← List.range_succ, List.range_eq_range', List.range_eq_range', ← List.range'_append_1,
      Nat.zero_add]
  have hsplit : ∀ j, j ∈ ids ↔ (k + 1 ≤ j ∧ j < k + 1 + r) ∨ j ∈ ids.drop r := by
    intro j
    rw [← List.mem_range'_1, ← htake, ← List.mem_append, List.take_append_drop]
  -- no drained id stays in the buffer
  have hdisjoint : ∀ j ∈ ids.drop r, ¬ (k + 1 ≤ j ∧ j < k + 1 + r) := by
    intro j hdrop htaken
    rw [← List.mem_range'_1, ← htake] at htaken
    have hnodup : (ids.take r ++ ids.drop r).Nodup := by
      rw [List.take_append_drop]
      exact hsorted.imp fun hlt => hlt.ne
    exact List.disjoint_of_nodup_append hnodup htaken hdrop
  refine ⟨?_, ?_, ⟨ids.drop r, ?_, hsorted.drop, fun j => ?_⟩, fun item hitem => ?_⟩
  · rw [hmissing]
    exact sub_add_cancel _ _
  · have hitems : (traffic.waitingForPublish.take r).map (·.frameCounter) =
        (List.range' (k + 1) r).map Nat.cast := by
      rw [List.map_take, hids, ← List.map_take, htake]
    rw [commandItems_append, commandItems_append, commandItems_singleton hsource,
      commandItems_items fun item hitem => h.source item (List.mem_of_mem_take hitem), hmissing,
      List.map_append, List.map_append, h.dispatched, ← hk, hrange]
    simp [hitems, hcounter]
  · rw [List.map_drop, hids, List.map_drop]
  · rw [hmissing, Finset.mem_insert]
    constructor
    · intro hj
      have hids' := (hsplit j).2 (.inr hj)
      have hreported := (hmem j).1 hids'
      have hne : j ≠ k + 1 + r := fun heq => hstop (heq ▸ hids')
      have := hdisjoint j hj
      exact ⟨.inr hreported.1, by omega⟩
    · rintro ⟨hj, hlt⟩
      have hreported : j ∈ reported := hj.resolve_left (by omega)
      have hids' := (hmem j).2 ⟨hreported, by omega⟩
      exact ((hsplit j).1 hids').resolve_left (by omega)
  · exact h.source item (List.mem_of_mem_drop hitem)

/-- A later id waits. -/
lemma InOrder.early (h : InOrder reported traffic) (hsource : item.requestSource ≠ .bus)
    (hcounter : item.frameCounter = k) (hfresh : k ∉ reported)
    (hlt : firstMissing reported < k) :
    InOrder (insert k reported)
      { traffic with
        waitingForPublish := (traffic.waitingForPublish ++ [item]).insertionSort
          fun a b => a.frameCounter ≤ b.frameCounter } := by
  obtain ⟨ids, hids, hsorted, hmem⟩ := h.waiting
  have hmissing := firstMissing_insert_of_lt hlt
  refine ⟨?_, ?_, ⟨(ids ++ [k]).insertionSort (· ≤ ·), ?_, ?_, fun j => ?_⟩, fun item hitem => ?_⟩
  · rw [hmissing]
    exact h.last
  · rw [hmissing]
    exact h.dispatched
  · have hcast : ((ids ++ [k]).insertionSort (· ≤ ·)).map (Nat.cast : ℕ → ℤ) =
        ((ids ++ [k]).map Nat.cast).insertionSort (· ≤ ·) :=
      List.map_insertionSort _ _ _ _ fun a _ b _ => Nat.cast_le.symm
    change ((traffic.waitingForPublish ++ [item]).insertionSort _).map _ = _
    rw [List.map_insertionSort _ (fun a b : ℤ => a ≤ b) _ _ (fun _ _ _ _ => Iff.rfl), hcast,
      List.map_append, List.map_append, hids, List.map_singleton, List.map_singleton, hcounter]
  · have hnodup : ((ids ++ [k]).insertionSort (· ≤ ·)).Nodup := by
      rw [(List.perm_insertionSort _ _).nodup_iff, List.nodup_append]
      refine ⟨hsorted.imp fun hlt => hlt.ne, by simp, fun a ha b hb => ?_⟩
      rw [List.mem_singleton.1 hb]
      exact fun heq => hfresh (heq ▸ ((hmem a).1 ha).1)
    exact (List.pairwise_insertionSort (· ≤ ·) (ids ++ [k])).imp₂
      (fun _ _ hle hne => lt_of_le_of_ne hle hne) hnodup
  · rw [hmissing, List.mem_insertionSort, List.mem_append, List.mem_singleton, hmem,
      Finset.mem_insert]
    constructor
    · rintro (⟨hj, hlt'⟩ | rfl)
      · exact ⟨.inr hj, hlt'⟩
      · exact ⟨.inl rfl, hlt⟩
    · rintro ⟨rfl | hj, hlt'⟩
      · exact .inr rfl
      · exact .inl ⟨hj, hlt'⟩
  · rw [List.mem_insertionSort, List.mem_append, List.mem_singleton] at hitem
    rcases hitem with hitem | rfl
    · exact h.source item hitem
    · exact hsource

/-- A new id at most the queue size past the last one keeps the order. -/
theorem InOrder.notifyCommand (h : InOrder reported traffic) (request : Frame)
    (response : Response) {source : BusTrafficSource} (hsource : source ≠ .bus)
    (hfresh : k ∉ reported)
    (hwindow : (k : ℤ) ≤ traffic.lastItemSequenceId + traffic.gatewayQueueSize) :
    InOrder (insert k reported) (traffic.notifyCommand request response source k) := by
  have hlast := h.last
  have hle : firstMissing reported ≤ k :=
    Nat.le_of_not_lt fun hlt => hfresh (mem_of_lt_firstMissing hlt)
  rw [BusTrafficCallbacks.notifyCommand]
  by_cases hk : k = firstMissing reported
  · rw [if_pos (by omega)]
    exact h.onTime hsource rfl hk
  · rw [if_neg (by omega), if_neg (by omega)]
    exact h.early hsource rfl hfresh (by omega)

end Notify

end WbMqttDali
