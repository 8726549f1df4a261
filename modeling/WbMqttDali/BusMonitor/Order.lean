import Mathlib
import WbMqttDali.BusMonitor.Accounting
import WbMqttDali.Lib.Reorder

/-!
# Counter order without loss

A stream whose first arriving frame carries its lowest counter, and in which no
frame arrives more than the reorder window ahead of the first missing one, comes
out in counter order.  The arriving slots carry the unwrapped number of their
frame, so that the wrap-around of the counter is visible only in `frameCounter`.
-/

namespace WbMqttDali.BusMonitor

open Reorder

/-- The unwrapped numbers that have arrived. -/
def arrivedNumbers (arrivals : List (ℕ × BusMonitorSlot)) : Finset ℕ :=
  (arrivals.map Prod.fst).toFinset

@[simp] lemma mem_arrivedNumbers {arrivals : List (ℕ × BusMonitorSlot)} {k : ℕ} :
    k ∈ arrivedNumbers arrivals ↔ ∃ slot, (k, slot) ∈ arrivals := by
  simp [arrivedNumbers]

lemma arrivedNumbers_concat (arrivals : List (ℕ × BusMonitorSlot)) (a : ℕ × BusMonitorSlot) :
    arrivedNumbers (arrivals ++ [a]) = insert a.1 (arrivedNumbers arrivals) := by
  ext k
  simp [arrivedNumbers]

/-- A stream of valid slots numbered from `0` on, whose counters start at `start`:
every number comes at most once, the first to arrive is `0`, and each is at most
the reorder window ahead of the first one missing. -/
structure WindowBounded (start : ℕ) (arrivals : List (ℕ × BusMonitorSlot)) : Prop where
  counter : ∀ a ∈ arrivals, a.2.frameCounter = (start + a.1) % frameCounterModulo
  valid : ∀ a ∈ arrivals, a.2.isValid
  nodup : (arrivals.map Prod.fst).Nodup
  first : ∀ a, arrivals.head? = some a → a.1 = 0
  window : ∀ pre a, pre ++ [a] <+: arrivals →
    a.1 ≤ firstMissing (arrivedNumbers pre) + busMonitorReorderWindow

lemma WindowBounded.of_concat {start : ℕ} {arrivals : List (ℕ × BusMonitorSlot)}
    {a : ℕ × BusMonitorSlot} (h : WindowBounded start (arrivals ++ [a])) :
    WindowBounded start arrivals where
  counter := fun b hb => h.counter b (List.mem_append_left _ hb)
  valid := fun b hb => h.valid b (List.mem_append_left _ hb)
  nodup := by
    have hnodup := h.nodup
    rw [List.map_append] at hnodup
    exact hnodup.of_append_left
  first := fun b hb => h.first b (by
    cases arrivals with
    | nil => cases hb
    | cons c cs => simpa using hb)
  window := fun pre b hpre => h.window pre b (hpre.trans (List.prefix_append _ _))

/-- What the handler holds and has published once the slots of `arrivals` have
arrived: it expects the first missing number, has published the slots in front
of it and buffers those behind it. -/
structure InStep (start : ℕ) (arrivals : List (ℕ × BusMonitorSlot)) (h : Handler)
    (published : List BusMonitorSlot) : Prop where
  next : h.nextExpectedFc =
    some ((start + firstMissing (arrivedNumbers arrivals)) % frameCounterModulo)
  buffer : ∀ fc slot, h.buffer.get? fc = some slot ↔
    ∃ k, (k, slot) ∈ arrivals ∧ firstMissing (arrivedNumbers arrivals) < k ∧
      fc = (start + k) % frameCounterModulo
  near : ∀ a ∈ arrivals,
    a.1 ≤ firstMissing (arrivedNumbers arrivals) + busMonitorReorderWindow
  released : ∃ ready : List (ℕ × BusMonitorSlot),
    ready.map Prod.fst = List.range (firstMissing (arrivedNumbers arrivals)) ∧
      (∀ a ∈ ready, a ∈ arrivals) ∧ published = ready.map Prod.snd

/-- Within half a turn, distances of counters are differences of numbers. -/
lemma distance_numbers {start n k : ℕ} (hnk : n ≤ k) (hk : k < n + frameCounterModulo) :
    distance ((start + n) % frameCounterModulo) ((start + k) % frameCounterModulo) = k - n := by
  refine distance_eq_of_mod (by omega) ?_
  rw [Nat.mod_add_mod, Nat.mod_mod, Nat.add_assoc, Nat.add_sub_cancel' hnk]

lemma inStep_first {start : ℕ} {slot : BusMonitorSlot} {h' : Handler} {out : Output}
    (hcounter : slot.frameCounter = (start + 0) % frameCounterModulo)
    (hvalid : slot.isValid) (harr : Arrival {} slot h' out) :
    InStep start [(0, slot)] h' out.published := by
  have hmissing : firstMissing (arrivedNumbers [(0, slot)]) = 1 :=
    firstMissing_eq_iff.2 ⟨by simp, by simp⟩
  cases harr with
  | first hnone _ =>
    refine ⟨?_, ?_, ?_, ⟨[(0, slot)], ?_, by simp, by simp⟩⟩
    · simp [hcounter, hmissing]
    · simp only [hmissing, Dict.get?_empty, List.mem_singleton, Prod.mk.injEq]
      intro fc s
      constructor
      · intro hcontra
        cases hcontra
      · rintro ⟨k, ⟨rfl, -⟩, hlt, -⟩
        omega
    · simp
    · simp [hmissing]
  | notStarted _ hinvalid => exact absurd hvalid hinvalid
  | onTime he => cases he
  | ahead he => cases he
  | untrusted he => cases he
  | jump he => cases he
  | behind he => cases he
  | resync he => cases he

section Step

variable {start k : ℕ} {arrivals : List (ℕ × BusMonitorSlot)} {h h' : Handler}
  {published : List BusMonitorSlot} {slot : BusMonitorSlot}

/-- The number of a buffered slot is read off its distance. -/
lemma InStep.buffered {fc : ℕ} {s : BusMonitorSlot} (hin : InStep start arrivals h published)
    (hget : h.buffer.get? fc = some s) :
    (firstMissing (arrivedNumbers arrivals) + distance
        ((start + firstMissing (arrivedNumbers arrivals)) % frameCounterModulo) fc, s)
      ∈ arrivals := by
  obtain ⟨k, hmem, hlt, rfl⟩ := (hin.buffer fc s).1 hget
  have hnear := hin.near _ hmem
  have hw := busMonitorReorderWindow_eq
  have hm := frameCounterModulo_eq
  rw [distance_numbers (by omega) (by omega), Nat.add_sub_cancel' (by omega)]
  exact hmem

/-- A slot ahead of the first missing number waits. -/
lemma InStep.ahead (hin : InStep start arrivals h published)
    (hcounter : slot.frameCounter = (start + k) % frameCounterModulo)
    (hlt : firstMissing (arrivedNumbers arrivals) < k)
    (hwindow : k ≤ firstMissing (arrivedNumbers arrivals) + busMonitorReorderWindow)
    (hfresh : k ∉ arrivedNumbers arrivals) :
    InStep start (arrivals ++ [(k, slot)])
      { h with farBehindFcs := ∅, buffer := h.buffer.set slot.frameCounter slot } published := by
  have hmissing : firstMissing (arrivedNumbers (arrivals ++ [(k, slot)]))
      = firstMissing (arrivedNumbers arrivals) := by
    rw [arrivedNumbers_concat]
    exact firstMissing_insert_of_lt hlt
  have hw := busMonitorReorderWindow_eq
  have hm := frameCounterModulo_eq
  refine ⟨?_, ?_, ?_, ?_⟩
  · rw [hmissing]
    exact hin.next
  · intro fc s
    rw [hmissing, Dict.get?_set]
    by_cases hfc : fc = slot.frameCounter
    · rw [if_pos hfc]
      constructor
      · rintro h
        cases h
        exact ⟨k, by simp, hlt, by rw [hfc, hcounter]⟩
      · rintro ⟨k', hmem, hlt', hfc'⟩
        rcases List.mem_append.1 hmem with hmem | hmem
        · -- no other waiting number has this counter
          have hnear := hin.near _ hmem
          have hdist := @distance_numbers start (firstMissing (arrivedNumbers arrivals)) k'
            (by omega) (by omega)
          rw [← hfc', hfc, hcounter, distance_numbers (by omega) (by omega)] at hdist
          have hk : k = k' := by omega
          exact absurd (mem_arrivedNumbers.2 ⟨s, hk ▸ hmem⟩) hfresh
        · simp only [List.mem_singleton, Prod.mk.injEq] at hmem
          rw [hmem.2]
    · rw [if_neg hfc, hin.buffer]
      constructor
      · rintro ⟨k', hmem, hrest⟩
        exact ⟨k', List.mem_append_left _ hmem, hrest⟩
      · rintro ⟨k', hmem, hlt', hfc'⟩
        rcases List.mem_append.1 hmem with hmem | hmem
        · exact ⟨k', hmem, hlt', hfc'⟩
        · simp only [List.mem_singleton, Prod.mk.injEq] at hmem
          exact absurd (by rw [hfc', hcounter, hmem.1]) hfc
  · intro a ha
    rw [hmissing]
    rcases List.mem_append.1 ha with ha | ha
    · exact hin.near a ha
    · rw [List.mem_singleton.1 ha]
      exact hwindow
  · obtain ⟨ready, hfst, hmem, hsnd⟩ := hin.released
    exact ⟨ready, by rw [hmissing, hfst], fun a ha => List.mem_append_left _ (hmem a ha), hsnd⟩

/-- The first missing slot is published with the run of waiting slots behind it. -/
lemma InStep.onTime {taken : List BusMonitorSlot} {r : ℕ}
    (hin : InStep start arrivals h published)
    (hk : k = firstMissing (arrivedNumbers arrivals))
    (htakes : Takes { h with farBehindFcs := ∅ }
      ((start + firstMissing (arrivedNumbers arrivals)) % frameCounterModulo) 1 r taken h') :
    InStep start (arrivals ++ [(k, slot)]) h' (published ++ slot :: taken) := by
  subst hk
  set n := firstMissing (arrivedNumbers arrivals) with hn
  set e := (start + n) % frameCounterModulo with he
  have hw := busMonitorReorderWindow_eq
  have hm := frameCounterModulo_eq
  have htaken : ∀ s ∈ taken, (n + distance e s.frameCounter, s) ∈ arrivals :=
    fun s hs => hin.buffered (htakes.buffered s hs)
  -- the slots of the run wait, and the one behind it has not arrived
  have hrun : ∀ j, n < j → j < n + (1 + r) → j ∈ arrivedNumbers arrivals := by
    intro j hnj hj
    have hdist : j - n ∈ taken.map fun s => distance e s.frameCounter := by
      rw [htakes.dists]
      exact List.mem_map.2 ⟨j - n - 1, List.mem_range.2 (by omega), by omega⟩
    obtain ⟨s, hs, hds⟩ := List.mem_map.1 hdist
    have hmem := htaken s hs
    rw [hds, Nat.add_sub_cancel' hnj.le] at hmem
    exact mem_arrivedNumbers.2 ⟨s, hmem⟩
  have hstop : n + (1 + r) ∉ arrivedNumbers arrivals := by
    rintro hmem
    obtain ⟨s, hs⟩ := mem_arrivedNumbers.1 hmem
    have hnear := hin.near _ hs
    have hdist : distance e ((start + (n + (1 + r))) % frameCounterModulo) = 1 + r := by
      rw [he, distance_numbers (by omega) (by omega)]
      omega
    have hget := (hin.buffer ((start + (n + (1 + r))) % frameCounterModulo) s).2
      ⟨_, hs, by omega, rfl⟩
    refine htakes.stopped _ s ((htakes.rest _ s).2 ⟨hget, ?_⟩) hdist
    rw [hdist]
    omega
  have hmissing : firstMissing (arrivedNumbers (arrivals ++ [(n, slot)])) = n + (1 + r) := by
    rw [arrivedNumbers_concat]
    -- so the run and the arrival fill the gap up to there
    exact firstMissing_insert_self hrun hstop (by omega)
  refine ⟨?_, ?_, ?_, ?_⟩
  · rw [hmissing, htakes.next, he, Nat.mod_add_mod, Nat.add_assoc]
  · intro fc s
    rw [hmissing, htakes.rest, hin.buffer]
    constructor
    · rintro ⟨⟨k', hmem, hlt, rfl⟩, hbeyond⟩
      have hnear := hin.near _ hmem
      rw [he, distance_numbers (by omega) (by omega)] at hbeyond
      have hne : k' ≠ n + (1 + r) := fun h => hstop (mem_arrivedNumbers.2 ⟨s, h ▸ hmem⟩)
      exact ⟨k', List.mem_append_left _ hmem, by omega, rfl⟩
    · rintro ⟨k', hmem, hlt, rfl⟩
      rcases List.mem_append.1 hmem with hmem | hmem
      · have hnear := hin.near _ hmem
        refine ⟨⟨k', hmem, by omega, rfl⟩, ?_⟩
        rw [he, distance_numbers (by omega) (by omega)]
        omega
      · simp only [List.mem_singleton, Prod.mk.injEq] at hmem
        omega
  · intro a ha
    rw [hmissing]
    rcases List.mem_append.1 ha with ha | ha
    · have := hin.near a ha
      omega
    · rw [List.mem_singleton.1 ha]
      omega
  · obtain ⟨ready, hfst, hmem, rfl⟩ := hin.released
    refine ⟨ready ++ (n, slot) :: taken.map fun s => (n + distance e s.frameCounter, s), ?_, ?_, ?_⟩
    · have hnumbers : (taken.map fun s => (n + distance e s.frameCounter, s)).map Prod.fst
          = (List.range r).map (n + 1 + ·) := by
        calc (taken.map fun s => (n + distance e s.frameCounter, s)).map Prod.fst
            = (taken.map fun s => distance e s.frameCounter).map (n + ·) := by
              simp [Function.comp_def]
          _ = (List.range r).map (n + 1 + ·) := by
              rw [htakes.dists]
              simp [Function.comp_def, Nat.add_assoc]
      rw [List.map_append, List.map_cons, hnumbers, hfst, hmissing,
        show n + (1 + r) = n + 1 + r by omega, List.range_add, List.range_succ, List.append_assoc,
        List.singleton_append]
    · intro a ha
      rcases List.mem_append.1 ha with ha | ha
      · exact List.mem_append_left _ (hmem a ha)
      · rcases List.mem_cons.1 ha with rfl | ha
        · simp
        · obtain ⟨s, hs, rfl⟩ := List.mem_map.1 ha
          exact List.mem_append_left _ (htaken s hs)
    · simp [Function.comp_def]

/-- One arrival keeps the handler in step with the numbers. -/
lemma InStep.arrival {out : Output} (hin : InStep start arrivals h published)
    (hcounter : slot.frameCounter = (start + k) % frameCounterModulo) (hvalid : slot.isValid)
    (hwindow : k ≤ firstMissing (arrivedNumbers arrivals) + busMonitorReorderWindow)
    (hfresh : k ∉ arrivedNumbers arrivals) (harr : Arrival h slot h' out) :
    InStep start (arrivals ++ [(k, slot)]) h' (published ++ out.published) := by
  have hw := busMonitorReorderWindow_eq
  have hm := frameCounterModulo_eq
  have hle : firstMissing (arrivedNumbers arrivals) ≤ k :=
    Nat.le_of_not_lt fun hlt => hfresh (mem_of_lt_firstMissing hlt)
  have hdist : distance ((start + firstMissing (arrivedNumbers arrivals)) % frameCounterModulo)
      slot.frameCounter = k - firstMissing (arrivedNumbers arrivals) := by
    rw [hcounter]
    exact distance_numbers hle (by omega)
  have hexpected : ∀ {e}, h.nextExpectedFc = some e →
      e = (start + firstMissing (arrivedNumbers arrivals)) % frameCounterModulo :=
    fun he => Option.some.inj (he.symm.trans hin.next)
  cases harr with
  | first hnone => rw [hin.next] at hnone; cases hnone
  | notStarted hnone => rw [hin.next] at hnone; cases hnone
  | onTime he hzero _ htakes =>
    obtain rfl := hexpected he
    exact hin.onTime (by omega) htakes
  | ahead he hpos hle' =>
    obtain rfl := hexpected he
    rw [List.append_nil]
    exact hin.ahead hcounter (by omega) hwindow hfresh
  | untrusted _ _ hinvalid => exact absurd hvalid hinvalid
  | jump he _ hlimit hpos =>
    obtain rfl := hexpected he
    omega
  | behind he _ hhalf =>
    obtain rfl := hexpected he
    omega
  | resync he _ hhalf =>
    obtain rfl := hexpected he
    omega

end Step

/-! ### Streams -/

lemma publishedBy_concat (h : Handler) (slots : List BusMonitorSlot) (slot : BusMonitorSlot) :
    publishedBy h (slots ++ [slot]) = publishedBy h slots ++ (orderAndPublish
      (slots.foldl (fun h slot => (orderAndPublish h slot).1) h) slot).2.published := by
  induction slots generalizing h with
  | nil => simp [publishedBy]
  | cons s slots ih => simp [publishedBy, ih]

/-- Every window-bounded stream keeps the handler in step with its numbers. -/
lemma inStep_run {start : ℕ} (arrivals : List (ℕ × BusMonitorSlot)) (hne : arrivals ≠ [])
    (hstream : WindowBounded start arrivals) :
    InStep start arrivals (run (arrivals.map Prod.snd))
      (publishedBy {} (arrivals.map Prod.snd)) := by
  induction arrivals using List.reverseRecOn with
  | nil => exact absurd rfl hne
  | append_singleton arrivals a ih =>
    obtain ⟨k, slot⟩ := a
    have hcounter := hstream.counter (k, slot) (by simp)
    have hvalid := hstream.valid (k, slot) (by simp)
    have harr := arrival (wellFormed_run (arrivals.map Prod.snd)) slot
    rw [List.map_append, List.map_singleton, run_concat, publishedBy_concat]
    by_cases hnil : arrivals = []
    · subst hnil
      obtain rfl : k = 0 := hstream.first (k, slot) rfl
      exact inStep_first hcounter hvalid harr
    · have hin := ih hnil hstream.of_concat
      have hfresh : k ∉ arrivedNumbers arrivals := by
        intro hmem
        have hnodup := hstream.nodup
        rw [List.map_append, List.nodup_append] at hnodup
        exact hnodup.2.2 k (List.mem_toFinset.1 hmem) k (by simp) rfl
      exact hin.arrival hcounter hvalid (hstream.window arrivals (k, slot) List.prefix_rfl)
        hfresh harr

/-- A stream in which no frame fails to decode is dispatched slot by slot. -/
lemma publish_of_valid {fromFrameRaises : Frame → Bool}
    (hdecodes : ∀ frame, fromFrameRaises frame = false) {slots : List BusMonitorSlot}
    (hvalid : ∀ slot ∈ slots, slot.isValid) :
    publish fromFrameRaises slots =
      slots.map fun slot => (slot.buildFrame, slot.frameCounter) := by
  rw [publish, ← List.filterMap_eq_map]
  refine List.filterMap_congr fun slot hslot => ?_
  simp [hvalid slot hslot, logFrameRaises, hdecodes]

/-- The numbers of a stream identify its slots. -/
lemma WindowBounded.unique {start : ℕ} {arrivals : List (ℕ × BusMonitorSlot)}
    (hstream : WindowBounded start arrivals) {a b : ℕ × BusMonitorSlot} (ha : a ∈ arrivals)
    (hb : b ∈ arrivals) (hab : a.1 = b.1) : a = b :=
  List.inj_on_of_nodup_map hstream.nodup ha hb hab

/-- The arrivals that no longer wait for a smaller number, in the order of their numbers. -/
def readyArrivals (arrivals : List (ℕ × BusMonitorSlot)) : List (ℕ × BusMonitorSlot) :=
  (arrivals.filter fun a => ∀ j < a.1, j ∈ arrivedNumbers arrivals).insertionSort
    fun a b => a.1 ≤ b.1

lemma mem_readyArrivals {arrivals : List (ℕ × BusMonitorSlot)} {a : ℕ × BusMonitorSlot} :
    a ∈ readyArrivals arrivals ↔ a ∈ arrivals ∧ ∀ j < a.1, j ∈ arrivedNumbers arrivals := by
  simp [readyArrivals, (List.perm_insertionSort _ _).mem_iff]

/-- A handler in step has published the released slots. -/
lemma InStep.published_eq_ready {start : ℕ} {arrivals : List (ℕ × BusMonitorSlot)} {h : Handler}
    {published : List BusMonitorSlot} (hin : InStep start arrivals h published)
    (hstream : WindowBounded start arrivals) :
    published = (readyArrivals arrivals).map Prod.snd := by
  obtain ⟨ready, hnumbers, hmem, rfl⟩ := hin.released
  have hsorted : ready.Pairwise fun a b => a.1 < b.1 := by
    have hrange : (ready.map Prod.fst).Pairwise (· < ·) :=
      hnumbers ▸ List.pairwise_lt_range
    exact List.pairwise_map.1 hrange
  have hperm : ready.Perm (arrivals.filter fun a => ∀ j < a.1, j ∈ arrivedNumbers arrivals) := by
    refine (List.perm_ext_iff_of_nodup (hsorted.imp fun hlt => ?_) ?_).2 fun a => ?_
    · rintro rfl
      omega
    · exact hstream.nodup.of_map.filter _
    · have hready : a ∈ ready ↔ a ∈ arrivals ∧ a.1 < firstMissing (arrivedNumbers arrivals) := by
        constructor
        · intro ha
          refine ⟨hmem a ha, ?_⟩
          have hfst : a.1 ∈ ready.map Prod.fst := List.mem_map_of_mem ha
          rwa [hnumbers, List.mem_range] at hfst
        · rintro ⟨ha, hlt⟩
          have hfst : a.1 ∈ ready.map Prod.fst := by
            rw [hnumbers]
            exact List.mem_range.2 hlt
          obtain ⟨b, hb, hba⟩ := List.mem_map.1 hfst
          rwa [← hstream.unique (hmem b hb) ha hba]
      rw [hready, List.mem_filter, decide_eq_true_iff]
      refine and_congr_right fun ha => ?_
      exact lt_firstMissing_iff (mem_arrivedNumbers.2 ⟨a.2, ha⟩)
  have hle : (readyArrivals arrivals).Pairwise fun a b => a.1 ≤ b.1 :=
    List.pairwise_insertionSort _ _
  congr 1
  refine (hperm.trans (List.perm_insertionSort _ _).symm).eq_of_pairwise
    (fun a b ha hb hab hba => ?_) (hsorted.imp fun hlt => hlt.le) hle
  exact hstream.unique (hmem a ha) (mem_readyArrivals.1 hb).1 (Nat.le_antisymm hab hba)

/-- A handler in step buffers nothing once no number is missing below an arrived one. -/
lemma InStep.buffer_eq_empty {start : ℕ} {arrivals : List (ℕ × BusMonitorSlot)} {h : Handler}
    {published : List BusMonitorSlot} (hin : InStep start arrivals h published)
    (hcomplete : ∀ a ∈ arrivals, ∀ j < a.1, j ∈ arrivedNumbers arrivals) : h.buffer = ∅ := by
  refine Dict.eq_empty_of_get? fun fc => ?_
  rw [Option.eq_none_iff_forall_ne_some]
  intro slot hget
  obtain ⟨k, hmem, hlt, -⟩ := (hin.buffer fc slot).1 hget
  exact firstMissing_notMem _ (hcomplete (k, slot) hmem _ hlt)

/-- The frames of a window-bounded stream are dispatched in the order of their numbers, each once,
and only those behind a missing number wait. -/
theorem counter_order_without_loss (fromFrameRaises : Frame → Bool)
    (hdecodes : ∀ frame, fromFrameRaises frame = false) (start : ℕ)
    (arrivals : List (ℕ × BusMonitorSlot)) (hstream : WindowBounded start arrivals) :
    publish fromFrameRaises (publishedBy {} (arrivals.map Prod.snd)) =
        ((arrivals.filter fun a => ∀ j < a.1, j ∈ arrivedNumbers arrivals).insertionSort
          fun a b => a.1 ≤ b.1).map (fun a => (a.2.buildFrame, a.2.frameCounter)) ∧
      ((∀ a ∈ arrivals, ∀ j < a.1, j ∈ arrivedNumbers arrivals) →
        (run (arrivals.map Prod.snd)).buffer = ∅) := by
  rcases eq_or_ne arrivals [] with rfl | hne
  · exact ⟨rfl, fun _ => rfl⟩
  have hin := inStep_run arrivals hne hstream
  refine ⟨?_, hin.buffer_eq_empty⟩
  rw [hin.published_eq_ready hstream, publish_of_valid hdecodes, List.map_map]
  · rfl
  · intro slot hslot
    obtain ⟨a, ha, rfl⟩ := List.mem_map.1 hslot
    exact hstream.valid a (mem_readyArrivals.1 ha).1

/-- Three 16-bit forward frames across the wrap-around, the last two in slot order. -/
def wrappingArrivals : List (ℕ × BusMonitorSlot) :=
  [(0, ⟨0xFFFF001000000A00, 0xFFFF, 16, 0x0A00, false, false, by decide⟩),
    (2, ⟨0x0001001000000C00, 1, 16, 0x0C00, false, false, by decide⟩),
    (1, ⟨0x0000001000000B00, 0, 16, 0x0B00, false, false, by decide⟩)]

lemma windowBounded_wrappingArrivals : WindowBounded 0xFFFF wrappingArrivals where
  counter := by decide
  valid := by decide
  nodup := by decide
  first := by
    rintro a ha
    cases ha
    rfl
  window := by
    intro pre a hpre
    have ha : a ∈ wrappingArrivals := hpre.subset (by simp)
    have hle : ∀ a ∈ wrappingArrivals, a.1 ≤ busMonitorReorderWindow := by decide
    exact (hle a ha).trans (Nat.le_add_left _ _)

theorem counter_order_without_loss_wrapping :
    publish (fun _ => false) (publishedBy {} (wrappingArrivals.map Prod.snd)) =
        [(⟨false, 16, 0x0A00, false⟩, 0xFFFF), (⟨false, 16, 0x0B00, false⟩, 0),
          (⟨false, 16, 0x0C00, false⟩, 1)] ∧
      (run (wrappingArrivals.map Prod.snd)).buffer = ∅ := by
  obtain ⟨hpublished, hempty⟩ := counter_order_without_loss (fun _ => false) (fun _ => rfl) 0xFFFF
    wrappingArrivals windowBounded_wrappingArrivals
  exact ⟨hpublished.trans (by decide), hempty (by decide)⟩

end WbMqttDali.BusMonitor
