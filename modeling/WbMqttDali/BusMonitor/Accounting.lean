import Mathlib
import WbMqttDali.BusMonitor.Step

/-!
# Accounting of the frame counters

For an arbitrary stream of slots: the buffer stays within the reorder window,
a call publishes in counter order, every counter that the expected position
passes over is either published or inside one reported gap, and a
resynchronisation needs enough distinct counters far behind with nothing in
between that resets their count.
-/

namespace WbMqttDali.BusMonitor

open ModCounter

/-! ### The reorder window -/

lemma wellFormed_init : WellFormed {} where
  expected_lt := fun e he => by cases he
  idle := fun _ => rfl
  filed := fun fc slot hget => by simp at hget
  window := fun e he => by cases he

lemma wellFormed_arrival {h h' : Handler} {slot : BusMonitorSlot} {out : Output}
    (hwf : WellFormed h) (harr : Arrival h slot h' out) : WellFormed h' := by
  cases harr with
  | first hnone hvalid =>
    have hempty := hwf.idle hnone
    refine ⟨?_, ?_, hwf.filed, ?_⟩
    · rintro e he
      cases he
      exact Nat.mod_lt _ frameCounterModulo_pos
    · exact fun hcontra => by cases hcontra
    · intro e _ fc s hget
      simp [hempty] at hget
  | notStarted => exact hwf
  | @onTime e k taken h' he hdist hk htakes =>
    -- what still waits has waited before, and beyond the counters that were taken
    have hold : ∀ fc s, h'.buffer.get? fc = some s → h.buffer.get? fc = some s :=
      fun fc s hget => ((htakes.rest fc s).1 hget).1
    refine ⟨?_, ?_, fun fc s hget => hwf.filed fc s (hold fc s hget), ?_⟩
    · intro e' he'
      rw [htakes.next] at he'
      cases he'
      exact Nat.mod_lt _ frameCounterModulo_pos
    · intro hcontra
      rw [htakes.next] at hcontra
      cases hcontra
    · intro e' he' fc s hget
      rw [htakes.next] at he'
      cases he'
      have hwindow := hwf.window e he fc s (hold fc s hget)
      have hbeyond := ((htakes.rest fc s).1 hget).2
      have hstop := htakes.stopped fc s hget
      rw [distance_advance (by omega)]
      omega
  | @ahead e he hpos hdist =>
    refine ⟨hwf.expected_lt, ?_, hwf.filed.set slot, ?_⟩
    · intro hcontra
      rw [he] at hcontra
      cases hcontra
    · intro e' he' fc s hget
      rw [he] at he'
      cases he'
      rw [Dict.get?_set] at hget
      split at hget
      · next heq => exact ⟨by rw [heq]; omega, by rw [heq]; exact hdist⟩
      · exact hwf.window e he fc s hget
  | untrusted => exact hwf
  | @jump e limit k drained taken mid h' he hvalid hlimit hpos hdist hk hdrains htakes =>
    have hold : ∀ fc s, h'.buffer.get? fc = some s →
        (h.buffer.set slot.frameCounter slot).get? fc = some s ∧ limit ≤ distance e fc :=
      fun fc s hget => (hdrains.rest fc s).1 ((htakes.rest fc s).1 hget).1
    refine ⟨?_, ?_, fun fc s hget => hwf.filed.set slot fc s (hold fc s hget).1, ?_⟩
    · intro e' he'
      rw [htakes.next] at he'
      cases he'
      exact Nat.mod_lt _ frameCounterModulo_pos
    · intro hcontra
      rw [htakes.next] at hcontra
      cases hcontra
    · intro e' he' fc s hget
      rw [htakes.next] at he'
      cases he'
      obtain ⟨hset, hfrom⟩ := hold fc s hget
      have hbeyond := ((htakes.rest fc s).1 hget).2
      have hstop := htakes.stopped fc s hget
      -- the slot that jumps may itself wait, and the others were in the window already
      have hle : distance e fc ≤ limit + busMonitorReorderWindow := by
        rw [Dict.get?_set] at hset
        split at hset
        · next heq => rw [heq, hlimit]
        · have := (hwf.window e he fc s hset).2
          omega
      rw [distance_advance (by omega)]
      omega
  | behind => exact ⟨hwf.expected_lt, hwf.idle, hwf.filed, hwf.window⟩
  | resync =>
    refine ⟨?_, fun _ => rfl, fun fc s hget => by simp at hget, fun e _ fc s hget => by
      simp at hget⟩
    rintro e' he'
    cases he'
    exact Nat.mod_lt _ frameCounterModulo_pos

/-- Every handler state that a stream of slots leads to is well formed. -/
lemma wellFormed_run (slots : List BusMonitorSlot) : WellFormed (run slots) := by
  induction slots using List.reverseRecOn with
  | nil => exact wellFormed_init
  | append_singleton slots slot ih =>
    rw [run_concat]
    exact wellFormed_arrival ih (arrival ih slot)

/-- The buffered slots have arrived. -/
lemma buffered_mem_run (slots : List BusMonitorSlot) :
    ∀ fc slot, (run slots).buffer.get? fc = some slot → slot ∈ slots := by
  induction slots using List.reverseRecOn with
  | nil => simp
  | append_singleton slots last ih =>
    intro fc slot hget
    rw [run_concat] at hget
    have hset : ∀ s, ((run slots).buffer.set last.frameCounter last).get? fc = some s →
        s ∈ slots ++ [last] := by
      intro s hs
      rw [Dict.get?_set] at hs
      split at hs
      · cases hs; simp
      · exact List.mem_append_left _ (ih fc s hs)
    have hold : ∀ s, (run slots).buffer.get? fc = some s → s ∈ slots ++ [last] :=
      fun s hs => List.mem_append_left _ (ih fc s hs)
    have harr := arrival (wellFormed_run slots) last
    generalize orderAndPublish (run slots) last = step at harr hget
    obtain ⟨h', out⟩ := step
    cases harr with
    | onTime _ _ _ htakes => exact hold _ ((htakes.rest fc slot).1 hget).1
    | ahead => exact hset _ hget
    | jump _ _ _ _ _ _ hdrains htakes =>
      exact hset _ ((hdrains.rest fc slot).1 ((htakes.rest fc slot).1 hget).1).1
    | resync => simp at hget
    | _ => exact hold _ hget

/-! ### The reported gaps -/

/-- The counter `fc` is one of those the message reports missed. -/
def Log.misses (fc : ℕ) : Log → Bool
  | .counterJump after _ missed => 1 ≤ distance after fc && distance after fc ≤ missed
  | _ => false

/-- A gap from distance `p` up to distance `q` covers exactly the counters in
between. -/
lemma misses_counterJump {e p q fc : ℕ} (hnear : distance e fc + 1 < frameCounterModulo)
    (hpq : p ≤ q)
    (hq : q < frameCounterModulo) :
    (Log.counterJump (((e + p) % frameCounterModulo + (frameCounterModulo - 1))
        % frameCounterModulo) ((e + q) % frameCounterModulo)
      (distance ((e + p) % frameCounterModulo)
        ((e + q) % frameCounterModulo))).misses fc =
      decide (p ≤ distance e fc ∧ distance e fc < q) := by
  have hmissed :
    distance ((e + p) % frameCounterModulo) ((e + q) % frameCounterModulo) = q - p := by
    rw [distance_advance (by rw [distance_add_mod hq]; exact hpq), distance_add_mod hq]
  have hafter : ((e + p) % frameCounterModulo + (frameCounterModulo - 1)) % frameCounterModulo
      = (e + p + (frameCounterModulo - 1)) % frameCounterModulo := Nat.mod_add_mod ..
  have hwalk : (e + distance e fc) % frameCounterModulo = fc % frameCounterModulo :=
    add_distance_mod e fc
  have hmod := frameCounterModulo_pos
  rw [Log.misses, hmissed, hafter]
  by_cases hle : p ≤ distance e fc
  · have hdist : distance ((e + p + (frameCounterModulo - 1)) % frameCounterModulo) fc
        = distance e fc - p + 1 := by
      refine distance_eq_of_mod (by omega) ?_
      rw [Nat.mod_add_mod, show e + p + (frameCounterModulo - 1) + (distance e fc - p + 1)
        = e + distance e fc + frameCounterModulo by omega, Nat.add_mod_right, hwalk]
    rw [hdist, ← Bool.decide_and, decide_eq_decide]
    omega
  · have hdist : distance ((e + p + (frameCounterModulo - 1)) % frameCounterModulo) fc
        = (distance e fc + 1 + frameCounterModulo - p) % frameCounterModulo := by
      refine distance_eq_of_mod (Nat.mod_lt _ hmod) ?_
      rw [Nat.mod_add_mod, Nat.add_mod_mod, show e + p + (frameCounterModulo - 1) +
        (distance e fc + 1 + frameCounterModulo - p)
        = e + distance e fc + frameCounterModulo + frameCounterModulo by omega, Nat.add_mod_right,
        Nat.add_mod_right, hwalk]
    rw [hdist, ← Bool.decide_and, decide_eq_decide]
    by_cases heq : p = distance e fc + 1
    · rw [show distance e fc + 1 + frameCounterModulo - p = frameCounterModulo by omega,
        Nat.mod_self]
      omega
    · rw [Nat.mod_eq_of_lt (by omega)]
      omega

/-- The gaps reported between `p` and the gap ends cover each counter in front
of the last end once, the gap ends themselves excepted. -/
lemma countP_misses_logCounterJumpsLoop {e fc : ℕ}
    (hnear : distance e fc + 1 < frameCounterModulo) (gapEnds : List ℕ) :
    ∀ p, (∀ g ∈ gapEnds, g < frameCounterModulo ∧ p ≤ distance e g ∧
        distance e g + 1 < frameCounterModulo) →
      (gapEnds.map (distance e)).Pairwise (· < ·) →
      (logCounterJumpsLoop ((e + p) % frameCounterModulo) gapEnds).countP (Log.misses fc) =
        if p ≤ distance e fc ∧ (∃ q ∈ gapEnds.map (distance e), distance e fc < q) ∧
          distance e fc ∉ gapEnds.map (distance e) then 1 else 0 := by
  induction gapEnds with
  | nil => simp [logCounterJumpsLoop]
  | cons g gapEnds ih =>
    intro p hends hsorted
    rw [List.map_cons, List.pairwise_cons] at hsorted
    obtain ⟨hg, hpg, hglt⟩ := hends g List.mem_cons_self
    have hgeq : g = (e + distance e g) % frameCounterModulo := eq_add_distance_mod hg e
    have hnext : (g + 1) % frameCounterModulo
        = (e + (distance e g + 1)) % frameCounterModulo := by
      conv_lhs => rw [hgeq]
      rw [Nat.mod_add_mod, Nat.add_assoc]
    have htail := ih (distance e g + 1)
      (fun x hx => ⟨(hends x (List.mem_cons_of_mem _ hx)).1,
        hsorted.1 _ (List.mem_map_of_mem hx), (hends x (List.mem_cons_of_mem _ hx)).2.2⟩)
      hsorted.2
    have hhead : (if g ≠ (e + p) % frameCounterModulo then
          [Log.counterJump (((e + p) % frameCounterModulo + (frameCounterModulo - 1))
            % frameCounterModulo) g
            (distance ((e + p) % frameCounterModulo) g)]
        else []).countP (Log.misses fc)
        = if p ≤ distance e fc ∧ distance e fc < distance e g then 1 else 0 := by
      have hmiss := misses_counterJump (p := p) hnear hpg (by omega)
      rw [← hgeq] at hmiss
      split
      · rw [List.countP_singleton, hmiss]
        simp only [decide_eq_true_eq]
      · next heq =>
        have hdp : distance e g = p := by
          rw [not_not.1 heq]
          exact distance_add_mod (by omega) e
        rw [List.countP_nil, if_neg (by omega)]
    rw [logCounterJumpsLoop, List.countP_append, hhead, hnext, htail]
    have hlater : ∀ q ∈ gapEnds.map (distance e), distance e g < q := hsorted.1
    rcases lt_trichotomy (distance e fc) (distance e g) with hlt | heq | hgt
    · -- inside the first gap
      have hnot : distance e fc ∉ gapEnds.map (distance e) := fun hmem => by
        have := hlater _ hmem
        omega
      have hne : distance e fc ≠ distance e g := by omega
      rw [if_neg (c := distance e g + 1 ≤ distance e fc ∧ _) (fun hc => by omega), Nat.add_zero]
      refine if_congr ?_ rfl rfl
      simp only [List.map_cons, List.mem_cons, not_or]
      exact ⟨fun h => ⟨h.1, ⟨_, Or.inl rfl, hlt⟩, hne, hnot⟩, fun h => ⟨h.1, hlt⟩⟩
    · -- a gap end
      rw [if_neg (by omega), if_neg (fun hc => by omega), if_neg (fun hc => hc.2.2 (by
        rw [List.map_cons, heq]
        exact List.mem_cons_self))]
    · -- behind the first gap end
      rw [if_neg (by omega), Nat.zero_add]
      refine if_congr ?_ rfl rfl
      have hne : distance e fc ≠ distance e g := by omega
      simp only [List.map_cons, List.mem_cons, not_or, hne, not_false_iff, true_and,
        exists_eq_or_imp]
      constructor
      · rintro ⟨-, hq, hnot⟩
        exact ⟨by omega, Or.inr hq, hnot⟩
      · rintro ⟨-, hcontra | hq, hnot⟩
        · omega
        · exact ⟨by omega, hq, hnot⟩

/-- `_log_counter_jumps` reports each counter in front of the limit that was
not drained exactly once, and no other counter. -/
lemma countP_misses_logCounterJumps {e limit fc : ℕ} {drained : List BusMonitorSlot}
    (hnear : distance e fc + 1 < frameCounterModulo) (hlimit : limit + 1 < frameCounterModulo)
    (hlt : ∀ slot ∈ drained, distance e slot.frameCounter < limit)
    (hsorted : (drained.map fun slot => distance e slot.frameCounter).Pairwise (· < ·))
    (he : e < frameCounterModulo) :
    (logCounterJumps e drained ((e + limit) % frameCounterModulo)).countP (Log.misses fc) =
      if distance e fc < limit ∧
        distance e fc ∉ drained.map (fun slot => distance e slot.frameCounter) then 1 else 0 := by
  have hdl : distance e ((e + limit) % frameCounterModulo) = limit :=
    distance_add_mod (by omega) e
  -- the limit closes the last gap
  have hends : (drained.map (·.frameCounter) ++ [(e + limit) % frameCounterModulo]).map
      (distance e) = drained.map (fun slot => distance e slot.frameCounter) ++ [limit] := by
    simp [hdl]
  have hloop := @countP_misses_logCounterJumpsLoop e fc hnear
    (drained.map (·.frameCounter) ++ [(e + limit) % frameCounterModulo]) 0
    (by
      intro g hg
      rcases List.mem_append.1 hg with hg | hg
      · obtain ⟨slot, hslot, rfl⟩ := List.mem_map.1 hg
        have := hlt slot hslot
        exact ⟨slot.frameCounter_lt, Nat.zero_le _, by omega⟩
      · rw [List.mem_singleton.1 hg, hdl]
        exact ⟨Nat.mod_lt _ frameCounterModulo_pos, Nat.zero_le _, hlimit⟩)
    (by
      rw [hends, List.pairwise_append]
      refine ⟨hsorted, List.pairwise_singleton _ _, ?_⟩
      intro a ha b hb
      obtain ⟨slot, hslot, rfl⟩ := List.mem_map.1 ha
      rw [List.mem_singleton.1 hb]
      exact hlt slot hslot)
  rw [Nat.add_zero, Nat.mod_eq_of_lt he, hends] at hloop
  rw [logCounterJumps, hloop]
  refine if_congr ?_ rfl rfl
  simp only [Nat.zero_le, true_and, List.mem_append, List.mem_singleton, not_or]
  constructor
  · rintro ⟨⟨q, hq, hlt'⟩, hnot, -⟩
    refine ⟨?_, hnot⟩
    rcases hq with hq | rfl
    · obtain ⟨slot, hslot, rfl⟩ := List.mem_map.1 hq
      have := hlt slot hslot
      omega
    · exact hlt'
  · rintro ⟨hlt', hnot⟩
    exact ⟨⟨limit, Or.inr rfl, hlt'⟩, hnot, by omega⟩

/-! ### One call -/

/-- The call resynchronised: it logged so. -/
def Output.Resynchronises (out : Output) : Prop :=
  ∃ fc framesBehind expected, Log.resynchronising fc framesBehind expected ∈ out.log

lemma not_resynchronising_mem_logCounterJumpsLoop (p : ℕ) (gapEnds : List ℕ) {fc n e : ℕ} :
    Log.resynchronising fc n e ∉ logCounterJumpsLoop p gapEnds := by
  induction gapEnds generalizing p with
  | nil => simp [logCounterJumpsLoop]
  | cons g gapEnds ih =>
    rw [logCounterJumpsLoop, List.mem_append, not_or]
    refine ⟨?_, ih _⟩
    split <;> simp

/-- The distances of the counters published by a call, and where it moves the
expected counter: `passed` counters on. -/
structure Advance (e : ℕ) (out : Output) (h' : Handler) (passed : ℕ) : Prop where
  next : h'.nextExpectedFc = some ((e + passed) % frameCounterModulo)
  short : passed + 1 < frameCounterModulo
  sorted : (out.published.map fun slot => distance e slot.frameCounter).Pairwise (· < ·)
  below : ∀ slot ∈ out.published, distance e slot.frameCounter < passed
  /-- each counter passed over is published or missed, once -/
  once : ∀ fc, distance e fc < passed →
    (out.published.map fun slot => distance e slot.frameCounter).count (distance e fc) +
      out.log.countP (Log.misses fc) = 1

/-- A call that publishes nothing and leaves the expected counter alone. -/
lemma Advance.stay {e : ℕ} {out : Output} {h' : Handler} (he : e < frameCounterModulo)
    (hnext : h'.nextExpectedFc = some e) (hpub : out.published = []) : Advance e out h' 0 where
  next := by rw [hnext, Nat.add_zero, Nat.mod_eq_of_lt he]
  short := by decide
  sorted := by simp [hpub]
  below := by simp [hpub]
  once := fun fc hfc => absurd hfc (Nat.not_lt_zero _)

lemma pairwise_lt_map_add_range (j k : ℕ) : ((List.range k).map (j + ·)).Pairwise (· < ·) :=
  List.pairwise_map.2 (List.pairwise_lt_range.imp fun h => by omega)

/-- Every call but a resynchronisation advances the expected counter. -/
lemma advance_arrival {h h' : Handler} {e : ℕ} {slot : BusMonitorSlot} {out : Output}
    (hwf : WellFormed h) (he : h.nextExpectedFc = some e) (harr : Arrival h slot h' out)
    (hres : ¬ out.Resynchronises) : ∃ passed, Advance e out h' passed := by
  have hlt := hwf.expected_lt e he
  cases harr with
  | first hnone => rw [he] at hnone; cases hnone
  | notStarted hnone => rw [he] at hnone; cases hnone
  | ahead => exact ⟨0, Advance.stay hlt he rfl⟩
  | untrusted => exact ⟨0, Advance.stay hlt he rfl⟩
  | behind => exact ⟨0, Advance.stay hlt he rfl⟩
  | resync _ _ _ _ _ hlog =>
    exact absurd ⟨_, _, _, by rw [hlog]; exact List.mem_cons_self⟩ hres
  | @onTime e' k taken h' he' hdist hk htakes =>
    obtain rfl : e = e' := by rw [he] at he'; exact Option.some.inj he'
    have hdists : (slot :: taken).map (fun slot => distance e slot.frameCounter)
        = (List.range (1 + k)).map (0 + ·) := by
      rw [List.map_cons, hdist, htakes.dists, Nat.add_comm 1 k, List.range_succ_eq_map]
      simp [Nat.add_comm]
    have hw := busMonitorReorderWindow_eq
    have hm := frameCounterModulo_eq
    refine ⟨1 + k, htakes.next, by omega, ?_, ?_, ?_⟩
    · rw [hdists]
      exact pairwise_lt_map_add_range 0 (1 + k)
    · intro s hs
      have hmem : distance e s.frameCounter ∈ (List.range (1 + k)).map (0 + ·) :=
        hdists ▸ List.mem_map_of_mem (f := fun slot => distance e slot.frameCounter) hs
      obtain ⟨i, hi, hsi⟩ := List.mem_map.1 hmem
      rw [← hsi, Nat.zero_add]
      exact List.mem_range.1 hi
    · intro fc hfc
      rw [hdists, List.count_eq_one_of_mem (pairwise_lt_map_add_range 0 (1 + k)).nodup]
      · simp
      · exact List.mem_map.2 ⟨_, List.mem_range.2 hfc, Nat.zero_add _⟩
  | @jump e' limit k drained taken mid h' he' hvalid hlimit hpos hhalf hk hdrains htakes =>
    obtain rfl : e = e' := by rw [he] at he'; exact Option.some.inj he'
    have hw := busMonitorReorderWindow_eq
    have hm := frameCounterModulo_eq
    have hdists : (drained ++ taken).map (fun slot => distance e slot.frameCounter)
        = drained.map (fun slot => distance e slot.frameCounter)
          ++ (List.range k).map (limit + ·) := by
      rw [List.map_append, htakes.dists]
    have hdrained : ∀ d ∈ drained.map (fun slot => distance e slot.frameCounter), d < limit := by
      intro d hd
      obtain ⟨s, hs, rfl⟩ := List.mem_map.1 hd
      exact ((hdrains.mem s).1 hs).2
    have hsorted : ((drained ++ taken).map fun slot => distance e slot.frameCounter).Pairwise
        (· < ·) := by
      rw [hdists, List.pairwise_append]
      refine ⟨hdrains.sorted, pairwise_lt_map_add_range limit k, ?_⟩
      intro a ha b hb
      obtain ⟨i, -, rfl⟩ := List.mem_map.1 hb
      have := hdrained a ha
      omega
    refine ⟨limit + k, htakes.next, by omega, hsorted, ?_, ?_⟩
    · intro s hs
      have hmem := List.mem_map_of_mem (f := fun slot => distance e slot.frameCounter) hs
      rw [hdists, List.mem_append] at hmem
      rcases hmem with hmem | hmem
      · have := hdrained _ hmem
        omega
      · obtain ⟨i, hi, hsi⟩ := List.mem_map.1 hmem
        have := List.mem_range.1 hi
        omega
    · intro fc hfc
      have hgaps := @countP_misses_logCounterJumps e limit fc drained (by omega) (by omega)
        (fun s hs => ((hdrains.mem s).1 hs).2) hdrains.sorted hlt
      rw [hgaps]
      by_cases hin : distance e fc ∈ (drained ++ taken).map
          (fun slot => distance e slot.frameCounter)
      · -- published: at the ring edge or past it, or drained
        rw [List.count_eq_one_of_mem hsorted.nodup hin, if_neg]
        rintro ⟨hbefore, hnot⟩
        rw [hdists, List.mem_append] at hin
        rcases hin with hin | hin
        · exact hnot hin
        · obtain ⟨i, -, hi⟩ := List.mem_map.1 hin
          omega
      · -- missed
        rw [List.count_eq_zero_of_not_mem hin, if_pos, Nat.zero_add]
        rw [hdists, List.mem_append, not_or] at hin
        refine ⟨?_, hin.1⟩
        by_contra hge
        exact hin.2 (List.mem_map.2 ⟨distance e fc - limit, List.mem_range.2 (by omega),
          by omega⟩)

lemma count_distance {e fc : ℕ} (hfc : fc < frameCounterModulo) (slots : List BusMonitorSlot) :
    (slots.map fun slot => distance e slot.frameCounter).count (distance e fc) =
      (slots.map (·.frameCounter)).count fc := by
  simp only [List.count, List.countP_map]
  refine List.countP_congr fun slot _ => ?_
  simp only [Function.comp_apply, beq_iff_eq]
  exact ⟨eq_of_distance_eq slot.frameCounter_lt hfc, fun h => by rw [h]⟩

/-- The calls of `notify_bus_frame` carry counters of the published slots, in
their order. -/
lemma publish_sublist (fromFrameRaises : Frame → Bool) (slots : List BusMonitorSlot) :
    ((publish fromFrameRaises slots).map Prod.snd).Sublist (slots.map (·.frameCounter)) := by
  induction slots with
  | nil => simp [publish]
  | cons slot slots ih =>
    simp only [publish, List.filterMap_cons] at ih ⊢
    split
    · exact ih.cons _
    · next hsome =>
      split at hsome
      · cases hsome
      · split at hsome
        · cases hsome
        · cases hsome
          exact ih.cons_cons _

lemma published_mem_run (slots : List BusMonitorSlot) (slot : BusMonitorSlot) :
    ∀ s ∈ (orderAndPublish (run slots) slot).2.published, s ∈ slots ++ [slot] := by
  have hbuffered := buffered_mem_run slots
  have harr := arrival (wellFormed_run slots) slot
  generalize orderAndPublish (run slots) slot = step at harr
  obtain ⟨h', out⟩ := step
  have hold : ∀ fc s, (run slots).buffer.get? fc = some s → s ∈ slots ++ [slot] :=
    fun fc s hget => List.mem_append_left _ (hbuffered fc s hget)
  have hset : ∀ fc s, ((run slots).buffer.set slot.frameCounter slot).get? fc = some s →
      s ∈ slots ++ [slot] := by
    intro fc s hget
    rw [Dict.get?_set] at hget
    split at hget
    · cases hget; simp
    · exact hold fc s hget
  intro s hs
  cases harr with
  | onTime _ _ _ htakes =>
    rcases List.mem_cons.1 hs with rfl | hs
    · simp
    · exact hold _ s (htakes.buffered s hs)
  | jump _ _ _ _ _ _ hdrains htakes =>
    rcases List.mem_append.1 hs with hs | hs
    · exact hset _ s ((hdrains.mem s).1 hs).1
    · exact hset _ s ((hdrains.rest _ s).1 (htakes.buffered s hs)).1
  | first => simp_all
  | resync => simp_all
  | _ => simp at hs

/-! ### The way to a resynchronisation -/

/-- The slot lands further behind the expected counter `e` than the ring can
hold. -/
def LandsFarBehind (e : ℕ) (slot : BusMonitorSlot) : Prop :=
  slot.isValid ∧ frameCounterModulo / 2 ≤ distance e slot.frameCounter ∧
    busMonitorRingSize < distance slot.frameCounter e

/-- The slot holds no frame and lies outside the reorder window of `e`, so it is
dropped whole. -/
def DroppedWhole (e : ℕ) (slot : BusMonitorSlot) : Prop :=
  ¬ slot.isValid ∧ busMonitorReorderWindow < distance e slot.frameCounter

instance (e : ℕ) : DecidablePred (LandsFarBehind e) := fun _ => instDecidableAnd

/-- The distinct counters of the slots that land far behind `e`. -/
def farBehindCounters (e : ℕ) (slots : List BusMonitorSlot) : Finset ℕ :=
  ((slots.filter (LandsFarBehind e)).map (·.frameCounter)).toFinset

/-- The last slots `win` of the stream `slots` found the same expected counter
`e`, and each of them landed far behind it or was dropped whole: none was one of
the cases that reset the count. -/
structure Uninterrupted (slots win : List BusMonitorSlot) (e : ℕ) : Prop where
  suffix : win <:+ slots
  steady : ∀ w, w <+: win → (run (slots.take (slots.length - win.length) ++ w)).nextExpectedFc
    = some e
  behind : ∀ slot ∈ win, LandsFarBehind e slot ∨ DroppedWhole e slot

lemma Uninterrupted.nil {slots : List BusMonitorSlot} {e : ℕ}
    (he : (run slots).nextExpectedFc = some e) : Uninterrupted slots [] e where
  suffix := List.nil_suffix
  steady := fun w hw => by
    obtain rfl := List.prefix_nil.1 hw
    simpa using he
  behind := fun _ hslot => by simp at hslot

lemma Uninterrupted.concat {slots win : List BusMonitorSlot} {e : ℕ} {slot : BusMonitorSlot}
    (h : Uninterrupted slots win e) (hnext : (run (slots ++ [slot])).nextExpectedFc = some e)
    (hslot : LandsFarBehind e slot ∨ DroppedWhole e slot) :
    Uninterrupted (slots ++ [slot]) (win ++ [slot]) e := by
  obtain ⟨pre, rfl⟩ := h.suffix
  refine ⟨⟨pre, by simp⟩, ?_, ?_⟩
  · intro w hw
    have hsteady := h.steady
    have hlen : (pre ++ win ++ [slot]).length - (win ++ [slot]).length = pre.length := by
      simp only [List.length_append]
      omega
    have hlen' : (pre ++ win).length - win.length = pre.length := by simp
    rw [hlen, List.append_assoc, List.take_left]
    rw [hlen', List.take_left] at hsteady
    rcases List.prefix_concat_iff.1 hw with rfl | hw
    · rwa [← List.append_assoc]
    · exact hsteady w hw
  · intro s hs
    rcases List.mem_append.1 hs with hs | hs
    · exact h.behind s hs
    · rwa [List.mem_singleton.1 hs]

/-- The set of the handler is that of the slots since the last reset. -/
lemma farBehindFcs_run (slots : List BusMonitorSlot) :
    ((run slots).nextExpectedFc = none → (run slots).farBehindFcs = ∅) ∧
    ∀ e, (run slots).nextExpectedFc = some e →
      ∃ win, Uninterrupted slots win e ∧ (run slots).farBehindFcs = farBehindCounters e win := by
  induction slots using List.reverseRecOn with
  | nil => exact ⟨fun _ => rfl, fun e he => by cases he⟩
  | append_singleton slots slot ih =>
    have hrun : run (slots ++ [slot]) = (orderAndPublish (run slots) slot).1 := run_concat ..
    have harr := arrival (wellFormed_run slots) slot
    generalize hstep : orderAndPublish (run slots) slot = step at harr hrun
    obtain ⟨h', out⟩ := step
    -- a reset starts an empty window
    have hreset : h'.farBehindFcs = ∅ → ∀ e, h'.nextExpectedFc = some e →
        ∃ win, Uninterrupted (slots ++ [slot]) win e ∧ h'.farBehindFcs = farBehindCounters e win :=
      fun hfar e he => ⟨[], Uninterrupted.nil (by rw [hrun]; exact he), by
        rw [hfar]; rfl⟩
    -- the other arrivals extend the window
    have hextend : ∀ e, (run slots).nextExpectedFc = some e → h'.nextExpectedFc = some e →
        (LandsFarBehind e slot ∨ DroppedWhole e slot) →
        h'.farBehindFcs = (if LandsFarBehind e slot then
          insert slot.frameCounter (run slots).farBehindFcs else (run slots).farBehindFcs) →
        ∃ win, Uninterrupted (slots ++ [slot]) win e ∧
          h'.farBehindFcs = farBehindCounters e win := by
      intro e he he' hslot hfar
      obtain ⟨win, hwin, hset⟩ := ih.2 e he
      refine ⟨win ++ [slot], hwin.concat (by rw [hrun]; exact he') hslot, ?_⟩
      rw [hfar, hset, farBehindCounters, farBehindCounters, List.filter_append]
      by_cases hbehind : LandsFarBehind e slot
      · ext fc
        simp [hbehind]
      · simp [hbehind]
    rw [hrun]
    cases harr with
    | first hnone _ =>
      have hfar := ih.1 hnone
      exact ⟨fun _ => hfar, hreset hfar⟩
    | notStarted hnone _ =>
      have hfar := ih.1 hnone
      exact ⟨fun _ => hfar, hreset hfar⟩
    | onTime _ _ _ htakes => exact ⟨fun _ => htakes.far, hreset htakes.far⟩
    | ahead => exact ⟨fun _ => rfl, hreset rfl⟩
    | jump _ _ _ _ _ _ hdrains htakes =>
      have hfar := htakes.far.trans hdrains.far
      exact ⟨fun _ => hfar, hreset hfar⟩
    | resync => exact ⟨fun _ => rfl, hreset rfl⟩
    | @untrusted e he hdist hvalid =>
      refine ⟨fun hnone => absurd (he.symm.trans hnone) (by simp), fun e' he' => ?_⟩
      obtain rfl : e = e' := Option.some.inj (he.symm.trans he')
      have hnot : ¬ LandsFarBehind e slot := fun hbehind => hvalid hbehind.1
      exact hextend e he he (Or.inr ⟨hvalid, hdist⟩) (by rw [if_neg hnot]; rfl)
    | @behind e far he hvalid hdist hfar hcard =>
      refine ⟨fun hnone => absurd (he.symm.trans hnone) (by simp), fun e' he' => ?_⟩
      obtain rfl : e = e' := Option.some.inj (he.symm.trans he')
      by_cases hnear : distance slot.frameCounter e ≤ busMonitorRingSize
      · rw [if_pos hnear] at hfar
        exact hreset hfar e he
      · rw [if_neg hnear] at hfar
        have hbehind : LandsFarBehind e slot := ⟨hvalid, hdist, Nat.lt_of_not_le hnear⟩
        exact hextend e he he (Or.inl hbehind) (by rw [if_pos hbehind]; exact hfar)

/-- A resynchronisation ends an uninterrupted window with enough distinct
counters far behind. -/
lemma uninterrupted_of_resynchronises (slots : List BusMonitorSlot) (slot : BusMonitorSlot)
    (hres : (orderAndPublish (run slots) slot).2.Resynchronises) :
    ∃ win e, Uninterrupted slots win e ∧ LandsFarBehind e slot ∧
      busMonitorResyncAfterFramesBehind ≤ (farBehindCounters e (win ++ [slot])).card := by
  have harr := arrival (wellFormed_run slots) slot
  generalize orderAndPublish (run slots) slot = step at harr hres
  obtain ⟨h', out⟩ := step
  obtain ⟨fc, n, e', hmem⟩ := hres
  cases harr with
  | jump =>
    exact absurd hmem (not_resynchronising_mem_logCounterJumpsLoop _ _)
  | @resync e log he hvalid hdist hring hcard hlog =>
    obtain ⟨win, hwin, hset⟩ := (farBehindFcs_run slots).2 e he
    have hbehind : LandsFarBehind e slot := ⟨hvalid, hdist, hring⟩
    refine ⟨win, e, hwin, hbehind, ?_⟩
    have hinsert : farBehindCounters e (win ++ [slot])
        = insert slot.frameCounter (farBehindCounters e win) := by
      ext fc
      simp [farBehindCounters, List.filter_append, hbehind]
    rwa [hinsert, ← hset]
  | _ => simp at hmem

/-! ### The law -/

/-- The call advanced the expected counter from `e` to `e'`, published in counter
order below `e'`, and accounted for every counter it passed over: a slot with
that counter that had arrived, or exactly one reported gap. -/
structure Accounts (fromFrameRaises : Frame → Bool) (arrived : List BusMonitorSlot)
    (e e' : ℕ) (out : Output) : Prop where
  sorted : ((publish fromFrameRaises out.published).map fun p => distance e p.2).Pairwise (· < ·)
  below : ∀ p ∈ publish fromFrameRaises out.published, distance e p.2 < distance e e'
  arrived : ∀ slot ∈ out.published, slot ∈ arrived
  once : ∀ fc < frameCounterModulo, distance e fc < distance e e' →
    (out.published.map (·.frameCounter)).count fc + out.log.countP (Log.misses fc) = 1

/-- **Accounting and order over arbitrary streams.**  After any stream, every
buffered counter is 1 to `busMonitorReorderWindow` ahead of the expected one.  A
further call that is not a resynchronisation accounts for the counters it passes
over; one that is ends an uninterrupted window with enough distinct counters
far behind. -/
theorem accounting_of_every_call (fromFrameRaises : Frame → Bool)
    (slots : List BusMonitorSlot) (slot : BusMonitorSlot) :
    (∀ fc s, (run slots).buffer.get? fc = some s →
      ∃ e, (run slots).nextExpectedFc = some e ∧
        1 ≤ distance e fc ∧ distance e fc ≤ busMonitorReorderWindow) ∧
    (∀ e, (run slots).nextExpectedFc = some e →
      ¬ (orderAndPublish (run slots) slot).2.Resynchronises →
      ∃ e', (orderAndPublish (run slots) slot).1.nextExpectedFc = some e' ∧
        Accounts fromFrameRaises (slots ++ [slot]) e e' (orderAndPublish (run slots) slot).2) ∧
    ((orderAndPublish (run slots) slot).2.Resynchronises →
      ∃ win e, Uninterrupted slots win e ∧ LandsFarBehind e slot ∧
        busMonitorResyncAfterFramesBehind ≤ (farBehindCounters e (win ++ [slot])).card) := by
  have hwf := wellFormed_run slots
  refine ⟨?_, ?_, uninterrupted_of_resynchronises slots slot⟩
  · intro fc s hget
    cases he : (run slots).nextExpectedFc with
    | none => simp [hwf.idle he] at hget
    | some e => exact ⟨e, rfl, hwf.window e he fc s hget⟩
  · intro e he hres
    obtain ⟨passed, hadv⟩ := advance_arrival hwf he (arrival hwf slot) hres
    have hpassed : distance e ((e + passed) % frameCounterModulo) = passed :=
      distance_add_mod (by have := hadv.short; omega) e
    have hsub := publish_sublist fromFrameRaises (orderAndPublish (run slots) slot).2.published
    refine ⟨_, hadv.next, ?_, ?_, published_mem_run slots slot, ?_⟩
    · have hmap := hsub.map (distance e)
      rw [List.map_map, List.map_map] at hmap
      exact hadv.sorted.sublist hmap
    · intro p hp
      obtain ⟨s, hs, hsp⟩ := List.mem_map.1 (hsub.subset (List.mem_map_of_mem hp))
      rw [hpassed, ← hsp]
      exact hadv.below s hs
    · intro fc hfc hlt
      rw [hpassed] at hlt
      rw [← count_distance hfc]
      exact hadv.once fc hlt

end WbMqttDali.BusMonitor
