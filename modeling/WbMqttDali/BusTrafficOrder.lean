import Mathlib
import WbMqttDali.BusTraffic

/-!
# The order in which commands reach the listeners

A run of `BusTrafficCallbacks` is a list of calls.  Commands whose ids stay
within the window of the queue are all passed on in the order of their ids.
With arbitrary ids the order is kept except where a gap is given up on while
one id waits twice.
-/

namespace WbMqttDali

open BusMonitor (Frame)
open Driver (BusTrafficSource Response)
open Reorder

namespace BusTrafficCallbacks

/-- The arguments of `notify_command`; only sniffed frames have the bus as their source. -/
structure CommandNotification where
  request : Frame
  response : Response
  source : BusTrafficSource
  source_ne_bus : source ≠ .bus
  sequenceId : ℤ

/-- A call of a method. -/
inductive Call
  | notifyCommand (command : CommandNotification)
  | notifyBusFrame (frame : Frame) (frameCounter : ℤ)
  | register (func : ℕ)
  | cleanup (func : ℕ)

/-- What a call does. -/
def call (traffic : BusTrafficCallbacks) : Call → BusTrafficCallbacks
  | .notifyCommand command => traffic.notifyCommand command.request command.response
      command.source command.sequenceId
  | .notifyBusFrame frame frameCounter => traffic.notifyBusFrame frame frameCounter
  | .register func => traffic.register func
  | .cleanup func => traffic.cleanup func

def run (traffic : BusTrafficCallbacks) (calls : List Call) : BusTrafficCallbacks :=
  calls.foldl call traffic

@[simp] lemma run_nil (traffic : BusTrafficCallbacks) : traffic.run [] = traffic := rfl

@[simp] lemma run_concat (traffic : BusTrafficCallbacks) (calls : List Call) (c : Call) :
    traffic.run (calls ++ [c]) = (traffic.run calls).call c := by
  simp [run]

/-- The id that a call of `notify_command` has. -/
def Call.sequenceId : Call → Option ℤ
  | .notifyCommand command => some command.sequenceId
  | _ => none

/-- The ids of the calls of `notify_command`. -/
def sequenceIds (calls : List Call) : List ℤ := calls.filterMap Call.sequenceId

lemma sequenceIds_concat (calls : List Call) (c : Call) :
    sequenceIds (calls ++ [c]) = sequenceIds calls ++ c.sequenceId.toList := by
  rw [sequenceIds, List.filterMap_append]
  cases h : c.sequenceId <;> simp [sequenceIds, h]

/-- The ids of the commands that the listeners were called with. -/
def dispatchedIds (traffic : BusTrafficCallbacks) : List ℤ :=
  (commandItems traffic.dispatched).map (·.frameCounter)

/-! ### Ids within the window -/

/-- No id comes twice, and each is at most `q - 1` above the smallest one that has not come. -/
def WithinWindow (q : ℕ) (ids : List ℕ) : Prop :=
  ids.Nodup ∧ ∀ i (h : i < ids.length), ids[i] ≤ firstMissing (ids.take i).toFinset + (q - 1)

lemma WithinWindow.of_concat {q k : ℕ} {ids : List ℕ} (h : WithinWindow q (ids ++ [k])) :
    WithinWindow q ids ∧ k ∉ ids ∧ k ≤ firstMissing ids.toFinset + (q - 1) := by
  obtain ⟨hnodup, hwindow⟩ := h
  rw [List.nodup_append] at hnodup
  refine ⟨⟨hnodup.1, fun i hi => ?_⟩, fun hk => hnodup.2.2 k hk k (by simp) rfl, ?_⟩
  · have hi' := hwindow i (by rw [List.length_append]; omega)
    rwa [List.getElem_append_left hi, List.take_append_of_le_length hi.le] at hi'
  · have hk := hwindow ids.length (by simp)
    rwa [List.getElem_append_right le_rfl, List.take_left, List.getElem_singleton] at hk

lemma size_call (traffic : BusTrafficCallbacks) (c : Call) :
    (traffic.call c).gatewayQueueSize = traffic.gatewayQueueSize := by
  cases c with
  | notifyCommand command => exact (notifyCommand_passes _ _ _ _ _).size
  | notifyBusFrame frame frameCounter => rfl
  | register func => rfl
  | cleanup func => rfl

lemma size_run (traffic : BusTrafficCallbacks) (calls : List Call) :
    (traffic.run calls).gatewayQueueSize = traffic.gatewayQueueSize := by
  induction calls using List.reverseRecOn with
  | nil => rfl
  | append_singleton calls c ih => rw [run_concat, size_call, ih]

/-- Within the window the commands in front of the first missing id have been passed on,
and the others wait. -/
lemma inOrder_run (callbacks : Finset ℕ) {q : ℕ} (hq : 1 ≤ q) (calls : List Call)
    {ids : List ℕ} (hids : sequenceIds calls = ids.map Nat.cast) (hwindow : WithinWindow q ids) :
    InOrder ids.toFinset (run { callbacks, gatewayQueueSize := q } calls) := by
  induction calls using List.reverseRecOn generalizing ids with
  | nil =>
    obtain rfl : ids = [] := by simpa [sequenceIds] using hids.symm
    exact InOrder.start callbacks q
  | append_singleton calls c ih =>
    rw [run_concat]
    rw [sequenceIds_concat] at hids
    cases c with
    | notifyCommand command =>
      have hids' : sequenceIds calls ++ [command.sequenceId] = ids.map Nat.cast := hids
      obtain ⟨ids, last, rfl, hbefore, hlast⟩ := List.map_eq_append_iff.1 hids'.symm
      obtain ⟨k, rfl, hk⟩ := List.map_eq_singleton_iff.1 hlast
      obtain ⟨hwindow, hfresh, hle⟩ := hwindow.of_concat
      have h := ih hbefore.symm hwindow
      have hlast := h.last
      have hinsert : (ids ++ [k]).toFinset = insert k ids.toFinset := by
        ext j
        simp
      show InOrder _ (BusTrafficCallbacks.notifyCommand _ _ _ _ _)
      rw [hinsert, ← hk]
      refine h.notifyCommand _ _ command.source_ne_bus (by simpa using hfresh) ?_
      rw [size_run]
      show (k : ℤ) ≤ _ + (q : ℤ)
      omega
    | notifyBusFrame frame frameCounter =>
      exact (ih (by simpa [Call.sequenceId] using hids) hwindow).notifyBusFrame _ _
    | register func =>
      exact (ih (by simpa [Call.sequenceId] using hids) hwindow).setCallbacks _
    | cleanup func =>
      exact (ih (by simpa [Call.sequenceId] using hids) hwindow).setCallbacks _

/-- Once the ids below `n` have come, in any order within the window, exactly they have been
passed on in order, and nothing waits. -/
theorem dispatchedIds_of_withinWindow (callbacks : Finset ℕ) {q : ℕ} (hq : 1 ≤ q)
    (calls : List Call) {ids : List ℕ} (hids : sequenceIds calls = ids.map Nat.cast)
    (hwindow : WithinWindow q ids) {n : ℕ} (hall : ∀ k, k ∈ ids ↔ k < n) :
    (run { callbacks, gatewayQueueSize := q } calls).dispatchedIds =
        (List.range n).map Nat.cast ∧
      (run { callbacks, gatewayQueueSize := q } calls).waitingForPublish = [] := by
  have h := inOrder_run callbacks hq calls hids hwindow
  have hmissing : firstMissing ids.toFinset = n := by
    refine firstMissing_eq_iff.2 ⟨?_, fun k hk => ?_⟩
    · simp [hall]
    · simpa using (hall k).2 hk
  constructor
  · rw [dispatchedIds, h.dispatched, hmissing]
  · obtain ⟨waiting, hwaiting, -, hmem⟩ := h.waiting
    obtain rfl : waiting = [] := by
      refine List.eq_nil_iff_forall_not_mem.2 fun k hk => ?_
      obtain ⟨hin, hlt⟩ := (hmem k).1 hk
      have := (hall k).1 (by simpa using hin)
      omega
    simpa using hwaiting

/-- A command of the service with the given id. -/
def commandWith (sequenceId : ℤ) : Call :=
  .notifyCommand ⟨⟨false, 16, 0xFF00, false⟩, .gatewayUnavailable, .wb, by decide, sequenceId⟩

theorem dispatchedIds_swapped :
    (run { callbacks := {0}, gatewayQueueSize := 2 }
        ([1, 0, 3, 2].map commandWith)).dispatchedIds = (List.range 4).map Nat.cast ∧
      (run { callbacks := {0}, gatewayQueueSize := 2 }
        ([1, 0, 3, 2].map commandWith)).waitingForPublish = [] := by
  have hwindow : WithinWindow 2 [1, 0, 3, 2] := by
    refine ⟨by decide, fun i hi => ?_⟩
    have hlower : ∀ j n, (∀ k < n, k ∈ [1, 0, 3, 2].take j) →
        n ≤ firstMissing ([1, 0, 3, 2].take j).toFinset := fun j n h =>
      le_firstMissing_iff.2 fun k hk => by simpa using h k hk
    match i with
    | 0 => exact Nat.le_add_left _ _
    | 1 => exact Nat.zero_le _
    | 2 => exact Nat.add_le_add_right (hlower 2 2 (by decide)) 1
    | 3 => exact le_trans (hlower 3 2 (by decide)) (Nat.le_add_right _ _)
  refine dispatchedIds_of_withinWindow {0} (by decide) _ rfl hwindow fun k => ?_
  simp only [List.mem_cons, List.not_mem_nil, or_false]
  omega

/-! ### Arbitrary ids -/

/-- The id ends the wait for a gap while some id past the cursor waits twice. -/
def FlushesTwice (traffic : BusTrafficCallbacks) (sequenceId : ℤ) : Prop :=
  sequenceId ≠ traffic.lastItemSequenceId + 1 ∧
    traffic.lastItemSequenceId + traffic.gatewayQueueSize < sequenceId ∧
    ¬ ((traffic.waitingForPublish.filter (traffic.lastItemSequenceId < ·.frameCounter)).map
      (·.frameCounter)).Nodup

/-- What every call keeps: the buffer is sorted and within the window of the cursor, and
nothing past the cursor has been passed on. -/
structure Buffered (traffic : BusTrafficCallbacks) : Prop where
  le_last : ∀ id ∈ traffic.dispatchedIds, id ≤ traffic.lastItemSequenceId
  sorted : traffic.waitingForPublish.Pairwise fun a b => a.frameCounter ≤ b.frameCounter
  waiting_le : ∀ item ∈ traffic.waitingForPublish,
    item.frameCounter ≤ traffic.lastItemSequenceId + traffic.gatewayQueueSize
  source : ∀ item ∈ traffic.waitingForPublish, item.requestSource ≠ .bus

/-- The loop over a gap passes on what waits past the cursor, which it leaves in place. -/
lemma flushWaiting_eq (traffic : BusTrafficCallbacks) :
    traffic.flushWaiting =
      { traffic with
        dispatched := traffic.dispatched ++
          (traffic.waitingForPublish.filter
            (traffic.lastItemSequenceId < ·.frameCounter)).map (traffic.callbacks, ·) } := by
  rw [flushWaiting]
  have hloop : ∀ (items : List BusTrafficItem) (start : BusTrafficCallbacks),
      items.foldl (fun traffic pendingItem =>
        if pendingItem.frameCounter ≤ traffic.lastItemSequenceId then traffic
        else traffic.dispatch pendingItem) start =
      { start with
        dispatched := start.dispatched ++
          (items.filter (start.lastItemSequenceId < ·.frameCounter)).map
            (start.callbacks, ·) } := by
    intro items
    induction items with
    | nil => simp
    | cons head rest ih =>
      intro start
      rw [List.foldl_cons]
      by_cases h : head.frameCounter ≤ start.lastItemSequenceId
      · rw [if_pos h, ih, List.filter_cons_of_neg (by simpa using h)]
      · rw [if_neg h, ih, List.filter_cons_of_pos (by simpa using h)]
        simp [dispatch]
        rfl
  exact hloop _ _

/-- The drain passes on ids that rise from the cursor and moves the cursor to the last. -/
lemma drainContiguousLoop_rises {items : List BusTrafficItem} {traffic : BusTrafficCallbacks} :
    ∃ drained ⊆ items, ∃ last rest, rest <:+ items ∧
      traffic.drainContiguousLoop items =
        { traffic with
          lastItemSequenceId := last
          waitingForPublish := rest
          dispatched := traffic.dispatched ++ drained.map (traffic.callbacks, ·) } ∧
      traffic.lastItemSequenceId ≤ last ∧
      (drained.map (·.frameCounter)).Pairwise (· < ·) ∧
      ∀ item ∈ drained, traffic.lastItemSequenceId < item.frameCounter ∧
        item.frameCounter ≤ last := by
  induction items generalizing traffic with
  | nil =>
    refine ⟨[], by simp, traffic.lastItemSequenceId, [], by simp, ?_, le_rfl, by simp, by simp⟩
    simp [drainContiguousLoop]
  | cons head rest ih =>
    rw [drainContiguousLoop]
    by_cases hstale : head.frameCounter ≤ traffic.lastItemSequenceId
    · rw [if_pos hstale]
      obtain ⟨drained, hdrained, last, left, hleft, heq, hle, hrise, hbounds⟩ := @ih traffic
      exact ⟨drained, List.subset_cons_of_subset _ hdrained, last, left,
        hleft.trans (List.suffix_cons _ _), heq, hle, hrise, hbounds⟩
    · rw [if_neg hstale]
      -- a gap ends the drain
      by_cases hgap : head.frameCounter ≠ traffic.lastItemSequenceId + 1
      · rw [if_pos hgap]
        refine ⟨[], by simp, traffic.lastItemSequenceId, head :: rest, List.suffix_rfl, ?_,
          le_rfl, by simp, by simp⟩
        simp
      · rw [if_neg hgap]
        obtain ⟨drained, hdrained, last, left, hleft, heq, hle, hrise, hbounds⟩ :=
          @ih { traffic.dispatch head with lastItemSequenceId := head.frameCounter }
        replace hle : head.frameCounter ≤ last := hle
        replace hbounds : ∀ item ∈ drained, head.frameCounter < item.frameCounter ∧
          item.frameCounter ≤ last := hbounds
        refine ⟨head :: drained, List.cons_subset_cons _ hdrained, last, left,
          hleft.trans (List.suffix_cons _ _), ?_, by omega, ?_, ?_⟩
        · rw [heq]
          simp [dispatch]
        · rw [List.map_cons, List.pairwise_cons]
          refine ⟨?_, hrise⟩
          intro id hid
          obtain ⟨item, hitem, rfl⟩ := List.mem_map.1 hid
          exact (hbounds item hitem).1
        · intro item hitem
          rcases List.mem_cons.1 hitem with rfl | hitem
          · omega
          · have := hbounds item hitem
            omega

section Notify

variable {traffic : BusTrafficCallbacks}

/-- Ids past the cursor keep the order iff they rise themselves. -/
lemma Buffered.pairwise_append (h : Buffered traffic) {ids : List ℤ}
    (hids : ∀ id ∈ ids, traffic.lastItemSequenceId < id) :
    (traffic.dispatchedIds ++ ids).Pairwise (· < ·) ↔
      traffic.dispatchedIds.Pairwise (· < ·) ∧ ids.Pairwise (· < ·) := by
  rw [List.pairwise_append, ← and_assoc]
  refine and_iff_left fun a ha b hb => ?_
  exact (h.le_last a ha).trans_lt (hids b hb)

lemma dispatchedIds_append {traffic' : BusTrafficCallbacks} {items : List BusTrafficItem}
    (h : traffic'.dispatched = traffic.dispatched ++ items.map (traffic.callbacks, ·))
    (hsource : ∀ item ∈ items, item.requestSource ≠ .bus) :
    traffic'.dispatchedIds = traffic.dispatchedIds ++ items.map (·.frameCounter) := by
  rw [dispatchedIds, h, commandItems_append, commandItems_items hsource, List.map_append]
  rfl

/-- The next id is passed on with what follows it in the buffer. -/
lemma Buffered.onTime (h : Buffered traffic) {item : BusTrafficItem}
    (hsource : item.requestSource ≠ .bus)
    (hnext : item.frameCounter = traffic.lastItemSequenceId + 1) :
    let traffic' := drainContiguous
      { traffic.dispatch item with lastItemSequenceId := item.frameCounter }
    Buffered traffic' ∧
      (traffic'.dispatchedIds.Pairwise (· < ·) ↔ traffic.dispatchedIds.Pairwise (· < ·)) := by
  intro traffic'
  obtain ⟨drained, hdrained, last, rest, hrest, heq, hle, hrise, hbounds⟩ :=
    @drainContiguousLoop_rises traffic.waitingForPublish
      { traffic.dispatch item with lastItemSequenceId := item.frameCounter }
  replace hle : item.frameCounter ≤ last := hle
  replace hbounds : ∀ other ∈ drained, item.frameCounter < other.frameCounter ∧
    other.frameCounter ≤ last := hbounds
  replace heq : traffic' = _ := heq
  -- the item is passed on first, and then the drained ones
  have hids : traffic'.dispatchedIds =
      traffic.dispatchedIds ++ (item :: drained).map (·.frameCounter) := by
    refine dispatchedIds_append ?_ ?_
    · rw [heq]
      simp [dispatch]
    · intro other hother
      rcases List.mem_cons.1 hother with rfl | hother
      · exact hsource
      · exact h.source other (hdrained hother)
  have hnew : ∀ id ∈ (item :: drained).map (·.frameCounter),
      traffic.lastItemSequenceId < id ∧ id ≤ last := by
    intro id hid
    obtain ⟨other, hother, rfl⟩ := List.mem_map.1 hid
    rcases List.mem_cons.1 hother with rfl | hother
    · omega
    · have := hbounds other hother
      omega
  constructor
  · rw [heq] at hids ⊢
    refine ⟨fun id hid => ?_, h.sorted.sublist hrest.sublist, fun other hother => ?_,
      fun other hother => h.source other (hrest.subset hother)⟩
    · rw [hids, List.mem_append] at hid
      rcases hid with hid | hid
      · have := h.le_last id hid
        show id ≤ last
        omega
      · exact (hnew id hid).2
    · have := h.waiting_le other (hrest.subset hother)
      show other.frameCounter ≤ last + (traffic.gatewayQueueSize : ℤ)
      omega
  · rw [hids, h.pairwise_append fun id hid => (hnew id hid).1]
    refine and_iff_left ?_
    rw [List.map_cons, List.pairwise_cons]
    refine ⟨?_, hrise⟩
    intro id hid
    obtain ⟨other, hother, rfl⟩ := List.mem_map.1 hid
    exact (hbounds other hother).1

/-- An id past the window is passed on behind what waits past the cursor. -/
lemma Buffered.flush (h : Buffered traffic) {item : BusTrafficItem}
    (hsource : item.requestSource ≠ .bus)
    (hgap : traffic.lastItemSequenceId + traffic.gatewayQueueSize < item.frameCounter) :
    let traffic' : BusTrafficCallbacks :=
      { traffic.flushWaiting.dispatch item with
        waitingForPublish := []
        lastItemSequenceId := item.frameCounter
        gapFlushes := traffic.gapFlushes + 1 }
    Buffered traffic' ∧
      (traffic'.dispatchedIds.Pairwise (· < ·) ↔ traffic.dispatchedIds.Pairwise (· < ·) ∧
        ((traffic.waitingForPublish.filter (traffic.lastItemSequenceId < ·.frameCounter)).map
          (·.frameCounter)).Nodup) := by
  intro traffic'
  set pending := traffic.waitingForPublish.filter (traffic.lastItemSequenceId < ·.frameCounter)
    with hpending
  have hmem : ∀ other ∈ pending, other ∈ traffic.waitingForPublish ∧
      traffic.lastItemSequenceId < other.frameCounter := by
    intro other hother
    simpa [hpending] using hother
  -- what waits past the cursor is passed on first, and then the item
  have hids : traffic'.dispatchedIds =
      traffic.dispatchedIds ++ (pending ++ [item]).map (·.frameCounter) := by
    refine dispatchedIds_append ?_ ?_
    · show (traffic.flushWaiting.dispatch item).dispatched = _
      rw [flushWaiting_eq, dispatch]
      simp [hpending]
    · intro other hother
      rcases List.mem_append.1 hother with hother | hother
      · exact h.source other (hmem other hother).1
      · rwa [List.mem_singleton.1 hother]
  have hnew : ∀ id ∈ (pending ++ [item]).map (·.frameCounter),
      traffic.lastItemSequenceId < id ∧ id ≤ item.frameCounter := by
    intro id hid
    obtain ⟨other, hother, rfl⟩ := List.mem_map.1 hid
    rcases List.mem_append.1 hother with hother | hother
    · have := h.waiting_le other (hmem other hother).1
      have := (hmem other hother).2
      omega
    · rw [List.mem_singleton.1 hother]
      omega
  have hlt : ∀ id ∈ pending.map (·.frameCounter), id < item.frameCounter := by
    intro id hid
    obtain ⟨other, hother, rfl⟩ := List.mem_map.1 hid
    have := h.waiting_le other (hmem other hother).1
    omega
  constructor
  · refine ⟨fun id hid => ?_, List.Pairwise.nil, by simp [traffic'], by simp [traffic']⟩
    rw [hids, List.mem_append] at hid
    show id ≤ item.frameCounter
    rcases hid with hid | hid
    · have := h.le_last id hid
      omega
    · exact (hnew id hid).2
  · rw [hids, h.pairwise_append fun id hid => (hnew id hid).1, and_congr_right_iff]
    intro _
    rw [List.map_append, List.map_singleton, List.pairwise_append]
    constructor
    · intro hrise
      exact hrise.1.imp fun hlt => hlt.ne
    · intro hnodup
      -- the buffer is sorted, so that its ids rise if no two are equal
      have hsorted : (pending.map (·.frameCounter)).Pairwise (· ≤ ·) :=
        List.pairwise_map.2 (h.sorted.sublist List.filter_sublist)
      refine ⟨hsorted.imp₂ (fun _ _ hle hne => lt_of_le_of_ne hle hne) hnodup, by simp, ?_⟩
      intro a ha b hb
      rw [List.mem_singleton.1 hb]
      exact hlt a ha

/-- An id within the window, or behind the cursor, is sorted into the buffer. -/
lemma Buffered.early (h : Buffered traffic) {item : BusTrafficItem}
    (hsource : item.requestSource ≠ .bus)
    (hle : item.frameCounter ≤ traffic.lastItemSequenceId + traffic.gatewayQueueSize) :
    Buffered
      { traffic with
        waitingForPublish := (traffic.waitingForPublish ++ [item]).insertionSort
          fun a b => a.frameCounter ≤ b.frameCounter } where
  le_last := h.le_last
  sorted := by
    have : Std.Total fun a b : BusTrafficItem => a.frameCounter ≤ b.frameCounter :=
      ⟨fun a b => le_total a.frameCounter b.frameCounter⟩
    have : IsTrans BusTrafficItem fun a b => a.frameCounter ≤ b.frameCounter :=
      ⟨fun _ _ _ => le_trans⟩
    exact List.pairwise_insertionSort _ _
  waiting_le := by
    intro other hother
    rw [List.mem_insertionSort, List.mem_append, List.mem_singleton] at hother
    rcases hother with hother | rfl
    · exact h.waiting_le other hother
    · exact hle
  source := by
    intro other hother
    rw [List.mem_insertionSort, List.mem_append, List.mem_singleton] at hother
    rcases hother with hother | rfl
    · exact h.source other hother
    · exact hsource

end Notify

/-- A call of `notify_command` keeps the order iff it does not flush an id twice. -/
lemma Buffered.notifyCommand {traffic : BusTrafficCallbacks} (h : Buffered traffic)
    (command : CommandNotification) :
    let traffic' := traffic.call (.notifyCommand command)
    Buffered traffic' ∧
      (traffic'.dispatchedIds.Pairwise (· < ·) ↔ traffic.dispatchedIds.Pairwise (· < ·) ∧
        ¬ FlushesTwice traffic command.sequenceId) := by
  rw [call, BusTrafficCallbacks.notifyCommand, FlushesTwice]
  set item : BusTrafficItem :=
    ⟨command.request, some command.response, command.source, command.sequenceId⟩
  by_cases hnext : command.sequenceId = traffic.lastItemSequenceId + 1
  · rw [if_pos hnext]
    obtain ⟨hbuffered, hiff⟩ := @Buffered.onTime traffic h item command.source_ne_bus hnext
    exact ⟨hbuffered, hiff.trans (by simp [hnext])⟩
  · rw [if_neg hnext]
    by_cases hgap : command.sequenceId > traffic.lastItemSequenceId + traffic.gatewayQueueSize
    · rw [if_pos hgap]
      obtain ⟨hbuffered, hiff⟩ := @Buffered.flush traffic h item command.source_ne_bus hgap
      refine ⟨hbuffered, hiff.trans (and_congr_right fun _ => ?_)⟩
      rw [not_and, not_and, not_not]
      exact ⟨fun hnodup _ _ => hnodup, fun himp => himp hnext hgap⟩
    · rw [if_neg hgap]
      refine ⟨h.early command.source_ne_bus (not_lt.1 hgap), ?_⟩
      exact (and_iff_left fun hflush => hgap hflush.2.1).symm

/-- The run passes on no id twice out of the buffer. -/
def FlushesOnce (traffic : BusTrafficCallbacks) (calls : List Call) : Prop :=
  ∀ before command after, calls = before ++ .notifyCommand command :: after →
    ¬ FlushesTwice (traffic.run before) command.sequenceId

lemma flushesOnce_concat (traffic : BusTrafficCallbacks) (calls : List Call) (c : Call) :
    FlushesOnce traffic (calls ++ [c]) ↔ FlushesOnce traffic calls ∧
      ∀ command, c = .notifyCommand command →
        ¬ FlushesTwice (traffic.run calls) command.sequenceId := by
  constructor
  · intro h
    constructor
    · rintro before command after rfl
      exact h before command (after ++ [c]) (by simp)
    · rintro command rfl
      exact h calls command [] rfl
  · rintro ⟨hbefore, hlast⟩ before command after heq
    rcases List.eq_nil_or_concat after with rfl | ⟨after, last, rfl⟩
    · obtain ⟨rfl, hc⟩ := List.append_inj' heq rfl
      exact hlast command (List.singleton_inj.1 hc)
    · have heq' : calls ++ [c] = (before ++ .notifyCommand command :: after) ++ [last] := by
        simpa using heq
      exact hbefore before command after (List.append_inj' heq' rfl).1

/-- Whatever ids come: those passed on rise strictly iff no call that gives up on a gap finds
an id past the cursor twice in the buffer. -/
theorem dispatchedIds_pairwise_iff (callbacks : Finset ℕ) (q : ℕ) (calls : List Call) :
    (run { callbacks, gatewayQueueSize := q } calls).dispatchedIds.Pairwise (· < ·) ↔
      FlushesOnce { callbacks, gatewayQueueSize := q } calls := by
  set start : BusTrafficCallbacks := { callbacks, gatewayQueueSize := q }
  suffices h : Buffered (start.run calls) ∧
      ((start.run calls).dispatchedIds.Pairwise (· < ·) ↔ FlushesOnce start calls) from h.2
  induction calls using List.reverseRecOn with
  | nil =>
    refine ⟨⟨by simp [start, dispatchedIds], by simp [start], by simp [start],
      by simp [start]⟩, ?_⟩
    simp [start, dispatchedIds, FlushesOnce]
  | append_singleton calls c ih =>
    obtain ⟨hbuffered, hiff⟩ := ih
    rw [run_concat, flushesOnce_concat, ← hiff]
    cases c with
    | notifyCommand command => simpa using hbuffered.notifyCommand command
    | notifyBusFrame frame frameCounter =>
      have hids : ((start.run calls).call (.notifyBusFrame frame frameCounter)).dispatchedIds =
          (start.run calls).dispatchedIds := by
        simp [call, notifyBusFrame, dispatch, dispatchedIds, commandItems]
      refine ⟨⟨?_, hbuffered.sorted, hbuffered.waiting_le, hbuffered.source⟩, ?_⟩
      · rw [hids]
        exact hbuffered.le_last
      · rw [hids]
        simp
    | register func =>
      refine ⟨⟨hbuffered.le_last, hbuffered.sorted, hbuffered.waiting_le, hbuffered.source⟩, ?_⟩
      simp [call, register, dispatchedIds]
    | cleanup func =>
      refine ⟨⟨hbuffered.le_last, hbuffered.sorted, hbuffered.waiting_le, hbuffered.source⟩, ?_⟩
      simp [call, cleanup, dispatchedIds]

/-- The id that comes twice in front of a gap is passed on twice. -/
theorem not_dispatchedIds_pairwise :
    ¬ (run { callbacks := {0}, gatewayQueueSize := 3 }
      ([1, 1, 10].map commandWith)).dispatchedIds.Pairwise (· < ·) := by
  decide +kernel

end BusTrafficCallbacks

end WbMqttDali
