import Mathlib
import WbMqttDali.BusMonitor.Handler

/-!
# What one arrival does

The two loops of the handler, read in distances from a fixed origin `e`:
`takeContiguous` takes a run of consecutive counters and stops in front of the
first one that is not buffered, `drainTo` takes the buffered counters in front of
its limit, nearest first.  `Arrival` then says once what an arriving slot can do
to the handler.
-/

namespace WbMqttDali.BusMonitor

open ModCounter

lemma distance_lt (e fc : ℕ) : distance e fc < frameCounterModulo :=
  offset_lt frameCounterModulo_pos e fc

lemma distance_add_mod {k : ℕ} (hk : k < frameCounterModulo) (e : ℕ) :
    distance e ((e + k) % frameCounterModulo) = k := offset_add_mod hk e

lemma distance_eq_of_mod {e fc k : ℕ} (hk : k < frameCounterModulo)
    (h : (e + k) % frameCounterModulo = fc % frameCounterModulo) : distance e fc = k :=
  offset_eq_of_mod hk h

lemma eq_add_distance_mod {fc : ℕ} (hfc : fc < frameCounterModulo) (e : ℕ) :
    fc = (e + distance e fc) % frameCounterModulo := eq_add_offset_mod hfc e

lemma add_distance_mod (e fc : ℕ) :
    (e + distance e fc) % frameCounterModulo = fc % frameCounterModulo :=
  add_offset_mod frameCounterModulo_pos e fc

lemma distance_eq_zero_iff {e fc : ℕ} (he : e < frameCounterModulo)
    (hfc : fc < frameCounterModulo) : distance e fc = 0 ↔ fc = e :=
  offset_eq_zero_iff he hfc

lemma eq_of_distance_eq {e fc fc' : ℕ} (hfc : fc < frameCounterModulo)
    (hfc' : fc' < frameCounterModulo) (h : distance e fc = distance e fc') : fc = fc' :=
  eq_of_offset_eq hfc hfc' h

lemma distance_advance {e fc j : ℕ} (hj : j ≤ distance e fc) :
    distance ((e + j) % frameCounterModulo) fc = distance e fc - j :=
  offset_advance frameCounterModulo_pos hj

/-- Every slot of the buffer is filed under its own counter. -/
def Filed (buffer : Dict ℕ BusMonitorSlot) : Prop :=
  ∀ fc slot, buffer.get? fc = some slot → slot.frameCounter = fc

lemma Filed.erase {buffer : Dict ℕ BusMonitorSlot} (h : Filed buffer) (fc : ℕ) :
    Filed (buffer.erase fc) := by
  intro fc' slot hget
  by_cases hne : fc' = fc
  · simp [hne] at hget
  · exact h fc' slot (by rwa [Dict.get?_erase_of_ne _ hne] at hget)

lemma Filed.set {buffer : Dict ℕ BusMonitorSlot} (h : Filed buffer) (slot : BusMonitorSlot) :
    Filed (buffer.set slot.frameCounter slot) := by
  intro fc' slot' hget
  rw [Dict.get?_set] at hget
  split at hget
  · next heq => cases hget; exact heq.symm
  · exact h fc' slot' hget

lemma Filed.mem_values_iff {buffer : Dict ℕ BusMonitorSlot} (h : Filed buffer)
    {slot : BusMonitorSlot} :
    slot ∈ buffer.values ↔ buffer.get? slot.frameCounter = some slot := by
  rw [Dict.mem_values_iff]
  constructor
  · rintro ⟨fc, hget⟩
    rwa [h fc slot hget]
  · exact fun hget => ⟨_, hget⟩

/-! ### Taking a contiguous run -/

/-- The loop takes the slots of `k` consecutive counters from `expected` on,
each of which was buffered, and removes exactly these. -/
lemma takeContiguousLoop_spec (n : ℕ) (buffer : Dict ℕ BusMonitorSlot) (expected : ℕ)
    (hexp : expected < frameCounterModulo) (hfiled : Filed buffer) :
    ∃ k, (takeContiguousLoop n buffer expected).1.map (·.frameCounter)
          = (List.range k).map (fun i => (expected + i) % frameCounterModulo) ∧
      (∀ slot ∈ (takeContiguousLoop n buffer expected).1,
        buffer.get? slot.frameCounter = some slot) ∧
      (takeContiguousLoop n buffer expected).2.2 = (expected + k) % frameCounterModulo ∧
      (∀ fc, (takeContiguousLoop n buffer expected).2.1.get? fc =
        if ∃ i < k, fc = (expected + i) % frameCounterModulo then none else buffer.get? fc) ∧
      (buffer.size ≤ n →
        (takeContiguousLoop n buffer expected).2.1.get?
          (takeContiguousLoop n buffer expected).2.2 = none) := by
  induction n generalizing buffer expected with
  | zero =>
    refine ⟨0, by simp [takeContiguousLoop], by simp [takeContiguousLoop], ?_, ?_, ?_⟩
    · simp [takeContiguousLoop, Nat.mod_eq_of_lt hexp]
    · simp [takeContiguousLoop]
    · intro hsize
      have hentries : buffer.entries = [] := List.length_eq_zero_iff.1 (Nat.le_zero.1 hsize)
      simp [takeContiguousLoop, Dict.get?, hentries]
  | succ n ih =>
    cases hget : buffer.get? expected with
    | none =>
      refine ⟨0, ?_, ?_, ?_, ?_, ?_⟩ <;> simp [takeContiguousLoop, hget, Nat.mod_eq_of_lt hexp]
    | some slot =>
      have hslot : slot.frameCounter = expected := hfiled _ _ hget
      obtain ⟨k, hcounters, hbuffered, hnext, hrest, hstop⟩ :=
        ih (buffer.erase expected) ((expected + 1) % frameCounterModulo)
          (Nat.mod_lt _ frameCounterModulo_pos) (hfiled.erase expected)
      -- the rest starts one counter later
      have hshift : ∀ i, ((expected + 1) % frameCounterModulo + i) % frameCounterModulo
          = (expected + (i + 1)) % frameCounterModulo := fun i => by
        rw [Nat.mod_add_mod, Nat.add_assoc, Nat.add_comm 1 i]
      refine ⟨k + 1, ?_, ?_, ?_, ?_, ?_⟩
      · simp only [takeContiguousLoop, hget, List.map_cons, List.range_succ_eq_map, hcounters,
          hslot, List.map_map, Nat.add_zero, Nat.mod_eq_of_lt hexp]
        congr 1
        exact List.map_congr_left fun i _ => hshift i
      · intro s hs
        simp only [takeContiguousLoop, hget, List.mem_cons] at hs
        rcases hs with rfl | hs
        · rwa [hslot]
        · have hs' := hbuffered s hs
          by_cases hne : s.frameCounter = expected
          · simp [hne] at hs'
          · rwa [Dict.get?_erase_of_ne _ hne] at hs'
      · simp only [takeContiguousLoop, hget, hnext]
        exact hshift k
      · intro fc
        simp only [takeContiguousLoop, hget, hrest, hshift, Dict.get?_erase]
        have hsplit : (∃ i < k + 1, fc = (expected + i) % frameCounterModulo) ↔
            fc = expected ∨ ∃ i < k, fc = (expected + (i + 1)) % frameCounterModulo := by
          constructor
          · rintro ⟨_ | i, hi, rfl⟩
            · exact Or.inl (by simp [Nat.mod_eq_of_lt hexp])
            · exact Or.inr ⟨i, by omega, rfl⟩
          · rintro (rfl | ⟨i, hi, rfl⟩)
            · exact ⟨0, by omega, by simp [Nat.mod_eq_of_lt hexp]⟩
            · exact ⟨i + 1, by omega, rfl⟩
        rw [if_congr hsplit rfl rfl]
        by_cases hfc : fc = expected
        · simp [hfc]
        · simp [hfc]
      · intro hsize
        have hlt := Dict.size_erase_lt hget
        simp only [takeContiguousLoop, hget]
        exact hstop (by omega)

/-- `taken` are the buffered slots at the distances `j, …, j + k - 1` from `e`,
and `h'` is `h` without them, expecting the counter at distance `j + k`, which
is not buffered. -/
structure Takes (h : Handler) (e j k : ℕ) (taken : List BusMonitorSlot) (h' : Handler) :
    Prop where
  dists : taken.map (fun slot => distance e slot.frameCounter) = (List.range k).map (j + ·)
  buffered : ∀ slot ∈ taken, h.buffer.get? slot.frameCounter = some slot
  next : h'.nextExpectedFc = some ((e + (j + k)) % frameCounterModulo)
  far : h'.farBehindFcs = h.farBehindFcs
  rest : ∀ fc slot, h'.buffer.get? fc = some slot ↔
    h.buffer.get? fc = some slot ∧ ¬ (j ≤ distance e fc ∧ distance e fc < j + k)
  stopped : ∀ fc slot, h'.buffer.get? fc = some slot → distance e fc ≠ j + k

/-- If all buffered counters are at most `b` ahead of `e`, the run taken from
distance `j` ends there too: the counters do not wrap around to `e`. -/
lemma takeContiguous_takes {h : Handler} {e j b : ℕ} (hfiled : Filed h.buffer)
    (hb : ∀ fc slot, h.buffer.get? fc = some slot → distance e fc ≤ b) (hj : j ≤ b + 1)
    (hbm : b + 1 < frameCounterModulo) :
    ∃ k, j + k ≤ b + 1 ∧
      Takes h e j k (takeContiguous h ((e + j) % frameCounterModulo)).1
        (takeContiguous h ((e + j) % frameCounterModulo)).2 := by
  obtain ⟨k, hcounters, hbuffered, hnext, hrest, hstop⟩ :=
    takeContiguousLoop_spec h.buffer.size h.buffer ((e + j) % frameCounterModulo)
      (Nat.mod_lt _ frameCounterModulo_pos) hfiled
  have hshift : ∀ i, ((e + j) % frameCounterModulo + i) % frameCounterModulo
      = (e + (j + i)) % frameCounterModulo := fun i => by rw [Nat.mod_add_mod, Nat.add_assoc]
  simp only [hshift] at hcounters hnext hrest
  -- every taken counter is buffered, hence within `b`: the run cannot wrap
  have hbound : ∀ i, i ≤ k → j + i ≤ b + 1 := by
    intro i
    induction i with
    | zero => exact fun _ => hj
    | succ i ih =>
      intro hik
      have hmem : (e + (j + i)) % frameCounterModulo ∈
          (takeContiguousLoop h.buffer.size h.buffer ((e + j) % frameCounterModulo)).1.map
            (·.frameCounter) := by
        rw [hcounters]
        exact List.mem_map.2 ⟨i, List.mem_range.2 (by omega), rfl⟩
      obtain ⟨slot, hslot, hfc⟩ := List.mem_map.1 hmem
      have hle := hb _ _ (hbuffered slot hslot)
      rw [hfc, distance_add_mod (by have := ih (by omega); omega)] at hle
      omega
  have hk := hbound k le_rfl
  have hdist : ∀ i ≤ k, distance e ((e + (j + i)) % frameCounterModulo) = j + i := fun i hi =>
    distance_add_mod (by omega) e
  have hin : ∀ fc slot, h.buffer.get? fc = some slot →
      ((∃ i < k, fc = (e + (j + i)) % frameCounterModulo) ↔
        j ≤ distance e fc ∧ distance e fc < j + k) := by
    intro fc slot hget
    constructor
    · rintro ⟨i, hi, rfl⟩
      rw [hdist i (by omega)]
      omega
    · rintro ⟨hle, hlt⟩
      refine ⟨distance e fc - j, by omega, ?_⟩
      rw [Nat.add_sub_cancel' hle]
      exact eq_add_distance_mod (hfiled fc slot hget ▸ slot.frameCounter_lt) e
  refine ⟨k, hk, ?_, hbuffered, ?_, rfl, ?_, ?_⟩
  · calc (takeContiguous h ((e + j) % frameCounterModulo)).1.map
          (fun slot => distance e slot.frameCounter)
        = ((takeContiguous h ((e + j) % frameCounterModulo)).1.map (·.frameCounter)).map
            (distance e) := by simp
      _ = ((List.range k).map fun i => (e + (j + i)) % frameCounterModulo).map (distance e) := by
          rw [← hcounters]; rfl
      _ = (List.range k).map (j + ·) := by
          rw [List.map_map]
          exact List.map_congr_left fun i hi => hdist i (List.mem_range.1 hi).le
  · simp [takeContiguous, hnext]
  · intro fc slot
    simp only [takeContiguous, hrest]
    by_cases hget : h.buffer.get? fc = some slot
    · rw [← hin fc slot hget]
      split
      · next htaken => simp [htaken]
      · next htaken => simp [hget, htaken]
    · simp [hget]
  · intro fc slot hget heq
    simp only [takeContiguous] at hget
    have hold : h.buffer.get? fc = some slot := by
      rw [hrest] at hget
      split at hget
      · cases hget
      · exact hget
    have hfc : fc = (e + (j + k)) % frameCounterModulo := by
      rw [← heq]
      exact eq_add_distance_mod (hfiled fc slot hold ▸ slot.frameCounter_lt) e
    rw [hfc, ← hnext, hstop le_rfl] at hget
    cases hget

/-! ### Draining up to a limit -/

/-- `drained` are the buffered slots less than `limit` ahead of `e`, nearest
first, and `h'` is `h` without them, expecting the counter at distance `limit`. -/
structure Drains (h : Handler) (e limit : ℕ) (drained : List BusMonitorSlot) (h' : Handler) :
    Prop where
  sorted : (drained.map fun slot => distance e slot.frameCounter).Pairwise (· < ·)
  mem : ∀ slot, slot ∈ drained ↔
    h.buffer.get? slot.frameCounter = some slot ∧ distance e slot.frameCounter < limit
  next : h'.nextExpectedFc = some ((e + limit) % frameCounterModulo)
  far : h'.farBehindFcs = h.farBehindFcs
  rest : ∀ fc slot, h'.buffer.get? fc = some slot ↔
    h.buffer.get? fc = some slot ∧ limit ≤ distance e fc

lemma get?_foldl_erase (slots : List BusMonitorSlot) (buffer : Dict ℕ BusMonitorSlot) (fc : ℕ) :
    (slots.foldl (fun buffer slot => buffer.erase slot.frameCounter) buffer).get? fc =
      if fc ∈ slots.map (·.frameCounter) then none else buffer.get? fc := by
  induction slots generalizing buffer with
  | nil => simp
  | cons slot slots ih =>
    rw [List.foldl_cons, ih, Dict.get?_erase]
    by_cases hfc : fc = slot.frameCounter <;> simp [hfc]

lemma drainTo_drains {h : Handler} {e limit : ℕ} (hfiled : Filed h.buffer)
    (hlimit : limit < frameCounterModulo) :
    Drains h e limit (drainTo h e ((e + limit) % frameCounterModulo)).1
      (drainTo h e ((e + limit) % frameCounterModulo)).2 := by
  have hdl : distance e ((e + limit) % frameCounterModulo) = limit :=
    distance_add_mod hlimit e
  have hmem : ∀ slot, slot ∈ (drainTo h e ((e + limit) % frameCounterModulo)).1 ↔
      h.buffer.get? slot.frameCounter = some slot ∧ distance e slot.frameCounter < limit := by
    intro slot
    simp [drainTo, List.mem_insertionSort, hfiled.mem_values_iff, hdl]
  refine ⟨?_, hmem, rfl, rfl, ?_⟩
  · -- sorted by distance, and no two slots share a counter
    have hnodup : ((drainTo h e ((e + limit) % frameCounterModulo)).1.map
        fun slot => distance e slot.frameCounter).Nodup := by
      refine List.Nodup.map_on ?_ ?_
      · intro a ha b hb hab
        have hget := ((hmem a).1 ha).1
        rw [eq_of_distance_eq a.frameCounter_lt b.frameCounter_lt hab, ((hmem b).1 hb).1] at hget
        exact (Option.some.inj hget).symm
      · have hvalues : h.buffer.values.Nodup := by
          refine List.Nodup.map_on ?_ (List.Nodup.of_map _ h.buffer.nodup)
          rintro ⟨fc, slot⟩ hx ⟨fc', slot'⟩ hy (rfl : slot = slot')
          rw [← hfiled fc slot (Dict.get?_eq_some_iff.2 hx),
            ← hfiled fc' slot (Dict.get?_eq_some_iff.2 hy)]
        exact ((List.perm_insertionSort _ _).nodup_iff).2 (hvalues.filter _)
    have hle : ((drainTo h e ((e + limit) % frameCounterModulo)).1.map
        fun slot => distance e slot.frameCounter).Pairwise (· ≤ ·) :=
      List.pairwise_map.2 (List.pairwise_insertionSort
        (fun a b : BusMonitorSlot => distance e a.frameCounter ≤ distance e b.frameCounter) _)
    exact (hle.and hnodup).imp fun hab => lt_of_le_of_ne hab.1 hab.2
  · intro fc slot
    have hget := get?_foldl_erase (drainTo h e ((e + limit) % frameCounterModulo)).1 h.buffer fc
    change ((drainTo h e ((e + limit) % frameCounterModulo)).1.foldl _ h.buffer).get? fc = _ ↔ _
    rw [hget]
    by_cases hold : h.buffer.get? fc = some slot
    · have hiff : fc ∈ (drainTo h e ((e + limit) % frameCounterModulo)).1.map
          (·.frameCounter) ↔ distance e fc < limit := by
        rw [List.mem_map]
        constructor
        · rintro ⟨s, hs, rfl⟩
          exact ((hmem s).1 hs).2
        · intro hlt
          have hfc := hfiled fc slot hold
          exact ⟨slot, (hmem slot).2 ⟨hfc ▸ hold, hfc ▸ hlt⟩, hfc⟩
      simp only [hiff, hold]
      by_cases hlt : distance e fc < limit
      · simp [hlt]
      · simp [hlt, Nat.le_of_not_lt hlt]
    · simp [hold]

/-! ### The arrival of a slot -/

/-- The buffered counters are 1 to `busMonitorReorderWindow` ahead of the
expected one. -/
structure WellFormed (h : Handler) : Prop where
  expected_lt : ∀ e, h.nextExpectedFc = some e → e < frameCounterModulo
  idle : h.nextExpectedFc = none → h.buffer = ∅
  filed : Filed h.buffer
  window : ∀ e, h.nextExpectedFc = some e → ∀ fc slot, h.buffer.get? fc = some slot →
    1 ≤ distance e fc ∧ distance e fc ≤ busMonitorReorderWindow

/-- Everything the arrival of `slot` can do to the handler `h`. -/
inductive Arrival (h : Handler) (slot : BusMonitorSlot) : Handler → Output → Prop
  | first (hnone : h.nextExpectedFc = none) (hvalid : slot.isValid) :
      Arrival h slot
        { h with nextExpectedFc := some ((slot.frameCounter + 1) % frameCounterModulo) }
        { published := [slot] }
  | notStarted (hnone : h.nextExpectedFc = none) (hvalid : ¬ slot.isValid) : Arrival h slot h {}
  | onTime {e k : ℕ} {taken : List BusMonitorSlot} {h' : Handler}
      (he : h.nextExpectedFc = some e) (hdist : distance e slot.frameCounter = 0)
      (hk : k ≤ busMonitorReorderWindow)
      (htakes : Takes { h with farBehindFcs := ∅ } e 1 k taken h') :
      Arrival h slot h' { published := slot :: taken }
  | ahead {e : ℕ} (he : h.nextExpectedFc = some e) (hpos : distance e slot.frameCounter ≠ 0)
      (hdist : distance e slot.frameCounter ≤ busMonitorReorderWindow) :
      Arrival h slot
        { h with farBehindFcs := ∅, buffer := h.buffer.set slot.frameCounter slot } {}
  | untrusted {e : ℕ} (he : h.nextExpectedFc = some e)
      (hdist : busMonitorReorderWindow < distance e slot.frameCounter) (hvalid : ¬ slot.isValid) :
      Arrival h slot h { log := [Log.notTrusting slot.frameCounter slot.rawValue e] }
  | jump {e limit k : ℕ} {drained taken : List BusMonitorSlot} {mid h' : Handler}
      (he : h.nextExpectedFc = some e) (hvalid : slot.isValid)
      (hlimit : distance e slot.frameCounter = limit + busMonitorReorderWindow) (hpos : 0 < limit)
      (hdist : distance e slot.frameCounter < frameCounterModulo / 2)
      (hk : k ≤ busMonitorReorderWindow + 1)
      (hdrains : Drains
        { h with farBehindFcs := ∅, buffer := h.buffer.set slot.frameCounter slot }
        e limit drained mid)
      (htakes : Takes mid e limit k taken h') :
      Arrival h slot h'
        { log := logCounterJumps e drained ((e + limit) % frameCounterModulo)
          published := drained ++ taken }
  | behind {e : ℕ} {far : Finset ℕ} (he : h.nextExpectedFc = some e) (hvalid : slot.isValid)
      (hdist : frameCounterModulo / 2 ≤ distance e slot.frameCounter)
      (hfar : far = if distance slot.frameCounter e ≤ busMonitorRingSize then ∅
        else insert slot.frameCounter h.farBehindFcs)
      (hcard : far.card < busMonitorResyncAfterFramesBehind) :
      Arrival h slot { h with farBehindFcs := far }
        { log := [Log.wentBackwards slot.frameCounter e] }
  | resync {e : ℕ} {log : List Log} (he : h.nextExpectedFc = some e) (hvalid : slot.isValid)
      (hdist : frameCounterModulo / 2 ≤ distance e slot.frameCounter)
      (hring : busMonitorRingSize < distance slot.frameCounter e)
      (hcard : busMonitorResyncAfterFramesBehind ≤ (insert slot.frameCounter h.farBehindFcs).card)
      (hlog : log = Log.resynchronising slot.frameCounter
        (insert slot.frameCounter h.farBehindFcs).card e ::
          (if h.buffer.keys = [] then []
           else [Log.discardingBuffered (h.buffer.keys.insertionSort (· ≤ ·))])) :
      Arrival h slot
        { nextExpectedFc := some ((slot.frameCounter + 1) % frameCounterModulo) }
        { log := log, published := [slot] }

/-- The ring edge of a frame `limit + 3` ahead of `e` is `limit` ahead of `e`. -/
lemma ringEdge_eq {e fc limit : ℕ} (hfc : fc < frameCounterModulo)
    (hlimit : distance e fc = limit + busMonitorReorderWindow) :
    (fc + (frameCounterModulo - busMonitorReorderWindow)) % frameCounterModulo
      = (e + limit) % frameCounterModulo := by
  rw [eq_add_distance_mod hfc e, hlimit, Nat.mod_add_mod]
  have hw : busMonitorReorderWindow ≤ frameCounterModulo := by decide
  rw [show e + (limit + busMonitorReorderWindow) + (frameCounterModulo - busMonitorReorderWindow)
    = e + limit + frameCounterModulo by omega, Nat.add_mod_right]

lemma arrival_behind {h : Handler} {e : ℕ} {slot : BusMonitorSlot}
    (he : h.nextExpectedFc = some e) (hvalid : slot.isValid)
    (hdist : frameCounterModulo / 2 ≤ distance e slot.frameCounter) :
    Arrival h slot (handleFrameBehindExpected h e slot).1
      (handleFrameBehindExpected h e slot).2 := by
  set far := if distance slot.frameCounter e ≤ busMonitorRingSize then ∅
    else insert slot.frameCounter h.farBehindFcs with hfar
  by_cases hcard : far.card < busMonitorResyncAfterFramesBehind
  · simpa only [handleFrameBehindExpected, ← hfar, if_pos hcard] using
      Arrival.behind he hvalid hdist hfar hcard
  · -- a near miss clears the set, so only a far one can fill it
    have hring : busMonitorRingSize < distance slot.frameCounter e := by
      by_contra hnear
      rw [hfar, if_pos (Nat.le_of_not_lt hnear)] at hcard
      exact hcard (by decide)
    have hfar' : far = insert slot.frameCounter h.farBehindFcs := by
      rw [hfar, if_neg (Nat.not_le_of_lt hring)]
    simp only [handleFrameBehindExpected, ← hfar, if_neg hcard]
    rw [hfar'] at hcard ⊢
    exact Arrival.resync he hvalid hdist hring (Nat.le_of_not_lt hcard) rfl

/-- **What an arriving slot does**, in a well-formed handler. -/
theorem arrival {h : Handler} (hwf : WellFormed h) (slot : BusMonitorSlot) :
    Arrival h slot (orderAndPublish h slot).1 (orderAndPublish h slot).2 := by
  unfold orderAndPublish
  cases he : h.nextExpectedFc with
  | none =>
    by_cases hvalid : slot.isValid
    · simpa [hvalid] using Arrival.first he hvalid
    · simpa [hvalid] using Arrival.notStarted he hvalid
  | some e =>
    simp only
    split
    · next hzero =>
      have hfc : slot.frameCounter = e :=
        (distance_eq_zero_iff (hwf.expected_lt e he) slot.frameCounter_lt).1 hzero
      obtain ⟨k, hk, htakes⟩ :=
        takeContiguous_takes (h := { h with farBehindFcs := ∅ }) (e := e) (j := 1) hwf.filed
          (fun fc s hget => (hwf.window e he fc s hget).2) (by decide) (by decide)
      rw [hfc]
      exact Arrival.onTime he hzero (by omega) htakes
    · next hne =>
      split
      · next hle =>
        have hahead := Arrival.ahead he hne hle
        rwa [he] at hahead
      · next hgt =>
        split
        · next hinvalid =>
          exact Arrival.untrusted he (Nat.lt_of_not_le hgt) (by simpa using hinvalid)
        · next hvalid =>
          have hvalid' : slot.isValid := by simpa using hvalid
          split
          · next hhalf =>
            -- the window moves up to the slot; the counters below it are drained
            obtain ⟨limit, hlimit⟩ : ∃ limit,
                distance e slot.frameCounter = limit + busMonitorReorderWindow :=
              ⟨_, (Nat.sub_add_cancel (Nat.le_of_not_le hgt)).symm⟩
            have hpos : 0 < limit := by
              have : busMonitorReorderWindow < distance e slot.frameCounter := Nat.lt_of_not_le hgt
              omega
            have hlt : distance e slot.frameCounter + 1 < frameCounterModulo := by
              have : distance e slot.frameCounter < frameCounterModulo / 2 := hhalf
              have : frameCounterModulo / 2 + 1 < frameCounterModulo := by decide
              omega
            have hdrains := @drainTo_drains
              { h with farBehindFcs := ∅, buffer := h.buffer.set slot.frameCounter slot }
              e limit (hwf.filed.set slot) (by omega)
            rw [ringEdge_eq slot.frameCounter_lt hlimit]
            set mid := (drainTo
              { h with
                farBehindFcs := ∅, buffer := h.buffer.set slot.frameCounter slot }
              e ((e + limit) % frameCounterModulo)).2 with hmid
            have hmidOld : ∀ fc s, mid.buffer.get? fc = some s →
                (h.buffer.set slot.frameCounter slot).get? fc = some s := fun fc s hget =>
              ((hdrains.rest fc s).1 hget).1
            -- behind the drain the run at the new edge is taken
            obtain ⟨k, hk, htakes⟩ := takeContiguous_takes (h := mid) (e := e) (j := limit)
              (b := distance e slot.frameCounter)
              (fun fc s hget => hwf.filed.set slot fc s (hmidOld fc s hget))
              (fun fc s hget => by
                have hold := hmidOld fc s hget
                rw [Dict.get?_set] at hold
                split at hold
                · next heq => rw [heq]
                · have := (hwf.window e he fc s hold).2
                  omega)
              (by omega) hlt
            exact Arrival.jump he hvalid' hlimit hpos hhalf (by omega) hdrains htakes
          · next hhalf => exact arrival_behind he hvalid' (Nat.le_of_not_lt hhalf)

end WbMqttDali.BusMonitor
