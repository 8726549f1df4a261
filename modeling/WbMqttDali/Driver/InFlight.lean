import Mathlib
import WbMqttDali.Driver.Step

/-!
# Commands in flight

Only `_send_to_gateway` adds waiters and timers.  Everything else that happens to
the commands in flight resolves futures, disarms timers and forgets waiters, and
takes neither its waiter nor its timer from a command that is still pending.
-/

namespace WbMqttDali.Driver

namespace InFlight

/-! ### Steps that add nothing -/

/-- From `s` to `s'` futures got done, and no waiter was added or lost whose
command is still pending. -/
structure Quiet (s s' : InFlight) : Prop where
  now : s'.now = s.now
  responseTimeout : s'.responseTimeout = s.responseTimeout
  nextTimer : s'.nextTimer = s.nextTimer
  written : s'.written = s.written
  displaced : s'.displaced = s.displaced
  pending : ∀ {f}, s'.Pending f → s.Pending f
  waiting : ∀ {i w}, s'.waitingForResponses.get? i = some w →
    s.waitingForResponses.get? i = some w
  kept : ∀ {i w}, s.waitingForResponses.get? i = some w → s'.Pending w.sendItem.future →
    s'.waitingForResponses.get? i = some w

/-- Neither was a timer added, nor taken from a waiter whose command is still pending. -/
structure Calm (s s' : InFlight) : Prop extends Quiet s s' where
  timers : ∀ {h t}, s'.timers.get? h = some t → s.timers.get? h = some t
  armed : ∀ {w t}, s.waitingForResponses.get? t.index = some w → s'.Pending w.sendItem.future →
    s.timers.get? w.timeoutHandler = some t → s'.timers.get? w.timeoutHandler = some t

variable {s s' s'' : InFlight}

lemma Quiet.refl (s : InFlight) : Quiet s s := by
  constructor <;> intros <;> first | rfl | assumption

lemma Quiet.trans (h : Quiet s s') (h' : Quiet s' s'') : Quiet s s'' where
  now := h'.now.trans h.now
  responseTimeout := h'.responseTimeout.trans h.responseTimeout
  nextTimer := h'.nextTimer.trans h.nextTimer
  written := h'.written.trans h.written
  displaced := h'.displaced.trans h.displaced
  pending := fun hp => h.pending (h'.pending hp)
  waiting := fun hw => h.waiting (h'.waiting hw)
  kept := fun hw hp => h'.kept (h.kept hw (h'.pending hp)) hp

lemma Calm.refl (s : InFlight) : Calm s s := ⟨Quiet.refl s, id, fun _ _ ht => ht⟩

lemma Calm.trans (h : Calm s s') (h' : Calm s' s'') : Calm s s'' where
  toQuiet := h.toQuiet.trans h'.toQuiet
  timers := fun ht => h.timers (h'.timers ht)
  armed := fun hw hp ht =>
    h'.armed (h.kept hw (h'.pending hp)) hp (h.armed hw (h'.pending hp) ht)

/-- A quiet step that leaves the timers alone. -/
lemma Quiet.calm (h : Quiet s s') (htimers : s'.timers = s.timers) : Calm s s' where
  toQuiet := h
  timers := fun ht => htimers ▸ ht
  armed := fun _ _ ht => htimers ▸ ht

/-- A future that gets done. -/
lemma Quiet.update {f : ℕ} {r : FutureState} (hr : r ≠ .pending) (resolutions : List Resolution)
    (busTraffic : BusTrafficCallbacks) :
    Quiet s { s with futures := Function.update s.futures f r, resolutions, busTraffic } where
  now := rfl
  responseTimeout := rfl
  nextTimer := rfl
  written := rfl
  displaced := rfl
  pending := fun {g} hp => by
    by_cases hg : g = f
    · subst hg
      exact absurd (by simpa [Pending] using hp) hr
    · simpa [Pending, Function.update_of_ne hg] using hp
  waiting := id
  kept := fun hw _ => hw

lemma Quiet.setTimers (timers : Dict ℕ Timer) : Quiet s { s with timers } := by
  constructor <;> intros <;> first | rfl | assumption

lemma Quiet.report (frame : BusMonitor.Frame) (source : BusTrafficSource) :
    Quiet s (s.report frame source) := by
  constructor <;> intros <;> first | rfl | assumption

lemma Calm.traffic (busTraffic : BusTrafficCallbacks) : Calm s { s with busTraffic } := by
  refine Quiet.calm ?_ rfl
  constructor <;> intros <;> first | rfl | assumption

/-! ### What is quiet -/

lemma quiet_settle (w : WaitResponseItem) (response : Response) (cause : Cause) :
    Quiet s (s.settle w response cause) :=
  Quiet.update (by simp) _ _

@[simp] lemma not_pending_settle (w : WaitResponseItem) (response : Response) (cause : Cause) :
    ¬ (s.settle w response cause).Pending w.sendItem.future := by
  simp [settle, resolve, notify, Pending]

lemma quiet_cancelTimeout (w : WaitResponseItem) : Quiet s (s.cancelTimeout w) :=
  Quiet.setTimers _

lemma quiet_onReply (w : WaitResponseItem) (payload : Option ℤ) (owner : Option ℕ) :
    Quiet s (s.onReply w payload owner) := by
  unfold onReply
  split
  · exact (quiet_cancelTimeout w).trans (quiet_settle w _ _)
  · exact quiet_cancelTimeout w

lemma quiet_drainOne (w : WaitResponseItem) : Quiet s (s.drainOne w) := by
  rw [drainOne]
  split
  · exact (quiet_cancelTimeout w).trans (quiet_settle w _ _)
  · exact quiet_cancelTimeout w

lemma not_pending_drainOne (w : WaitResponseItem) :
    ¬ (s.drainOne w).Pending w.sendItem.future := by
  rw [drainOne]
  split
  case isTrue => exact not_pending_settle w _ _
  case isFalse hdone => exact hdone

@[simp] lemma waitingForResponses_drainOne (w : WaitResponseItem) :
    (s.drainOne w).waitingForResponses = s.waitingForResponses := by
  rw [drainOne]
  split <;> rfl

/-- The loop of the drain: every waiter it visits gets done. -/
lemma quiet_foldl_drainOne (ws : List WaitResponseItem) :
    Quiet s (ws.foldl drainOne s) ∧
      (ws.foldl drainOne s).waitingForResponses = s.waitingForResponses ∧
      ∀ w ∈ ws, ¬ (ws.foldl drainOne s).Pending w.sendItem.future := by
  induction ws generalizing s with
  | nil => exact ⟨Quiet.refl s, rfl, by simp⟩
  | cons w ws ih =>
    obtain ⟨hquiet, hwaiting, hdone⟩ := ih (s := s.drainOne w)
    refine ⟨(quiet_drainOne w).trans hquiet, hwaiting.trans (waitingForResponses_drainOne w),
      fun w' hw' => ?_⟩
    rcases List.mem_cons.1 hw' with rfl | hw'
    · exact fun hp => not_pending_drainOne w' (hquiet.pending hp)
    · exact hdone w' hw'

/-- The waiters of a state that are done may be forgotten. -/
lemma quiet_clear (hdone : ∀ {i w}, s.waitingForResponses.get? i = some w →
    ¬ s.Pending w.sendItem.future) : Quiet s { s with waitingForResponses := ∅ } where
  now := rfl
  responseTimeout := rfl
  nextTimer := rfl
  written := rfl
  displaced := rfl
  pending := id
  waiting := fun hw => by cases hw
  kept := fun hw hp => absurd hp (hdone hw)

lemma not_pending_foldl_drainOne {i : ℕ} {w : WaitResponseItem}
    (hw : (s.waitingForResponses.values.foldl drainOne s).waitingForResponses.get? i = some w) :
    ¬ (s.waitingForResponses.values.foldl drainOne s).Pending w.sendItem.future := by
  obtain ⟨-, hwaiting, hdone⟩ := quiet_foldl_drainOne (s := s) s.waitingForResponses.values
  rw [hwaiting] at hw
  exact hdone w (Dict.mem_values_iff.2 ⟨i, hw⟩)

lemma quiet_drainPending : Quiet s s.drainPending :=
  (quiet_foldl_drainOne _).1.trans (quiet_clear not_pending_foldl_drainOne)

lemma quiet_failOne (item : SendQueueItem) : Quiet s (s.failOne item) := by
  rw [failOne]
  split
  · exact (Quiet.update (by simp) _ _).trans (Quiet.report _ _)
  · exact Quiet.refl s

lemma not_pending_failOne (item : SendQueueItem) : ¬ (s.failOne item).Pending item.future := by
  rw [failOne]
  split
  case isTrue => simp [report, notify, resolve, Pending]
  case isFalse hdone => exact hdone

lemma timers_failOne (item : SendQueueItem) : (s.failOne item).timers = s.timers := by
  rw [failOne]
  split <;> rfl

/-- The batch fails whole. -/
lemma quiet_failBatch (items : List SendQueueItem) :
    Quiet s (s.failBatch items) ∧ (s.failBatch items).timers = s.timers ∧
      ∀ item ∈ items, ¬ (s.failBatch items).Pending item.future := by
  induction items generalizing s with
  | nil => exact ⟨Quiet.refl s, rfl, by simp⟩
  | cons item items ih =>
    obtain ⟨hquiet, htimers, hdone⟩ := ih (s := s.failOne item)
    refine ⟨(quiet_failOne item).trans hquiet, htimers.trans (timers_failOne item),
      fun item' hitem' => ?_⟩
    rcases List.mem_cons.1 hitem' with rfl | hitem'
    · exact fun hp => not_pending_failOne item' (hquiet.pending hp)
    · exact hdone item' hitem'

lemma calm_failBatch (items : List SendQueueItem) : Calm s (s.failBatch items) :=
  (quiet_failBatch items).1.calm (quiet_failBatch items).2.1

lemma calm_refuseCommands (commands : List Command) (source : BusTrafficSource) :
    Calm s (s.refuseCommands commands source) := by
  rw [refuseCommands]
  induction commands generalizing s with
  | nil => exact Calm.refl s
  | cons command commands ih => exact ((Quiet.report _ _).calm rfl).trans ih

lemma calm_cancel (future : ℕ) : Calm s (s.cancel future) := by
  rw [cancel]
  split
  · exact (Quiet.update (by simp) s.resolutions s.busTraffic).calm rfl
  · exact Calm.refl s

lemma quiet_timer {h : ℕ} (timer : Timer) :
    Quiet s ({ s with timers := s.timers.erase h }.timeoutCallback timer) := by
  have herase : Quiet s { s with timers := s.timers.erase h } := Quiet.setTimers _
  rw [timeoutCallback]
  split
  · exact herase
  · split
    · exact herase.trans (quiet_settle _ _ _)
    · exact herase

/-! ### Waiters and their timers -/

/-- No command waits for its reply in this slot any more. -/
def Free (s : InFlight) (i : ℕ) : Prop :=
  ∀ w, s.waitingForResponses.get? i = some w → ¬ s.Pending w.sendItem.future

/-- No command waits for its reply. -/
def Idle (s : InFlight) : Prop := ∀ i, s.Free i

/-- Every pending waiter has the timer that was armed for it, no waiter has been
replaced while it was pending, and every pending command is due at its own timeout. -/
structure Timed (s : InFlight) : Prop where
  fresh : ∀ {h t}, s.timers.get? h = some t → h < s.nextTimer
  handler : ∀ {i w}, s.waitingForResponses.get? i = some w → w.timeoutHandler < s.nextTimer
  index : ∀ {i w t}, s.waitingForResponses.get? i = some w →
    s.timers.get? w.timeoutHandler = some t → t.index = i
  armed : ∀ {i w}, s.waitingForResponses.get? i = some w → s.Pending w.sendItem.future →
    ∃ t, s.timers.get? w.timeoutHandler = some t
  due : ∀ {h t}, s.timers.get? h = some t → s.now ≤ t.deadline
  written : ∀ e ∈ s.written, s.Pending e.future → ∃ i w t,
    s.waitingForResponses.get? i = some w ∧ w.sendItem.future = e.future ∧
      s.timers.get? w.timeoutHandler = some t ∧ t.deadline = e.sentAt + e.responseTimeout
  displaced : s.displaced = []
  responseTimeout : 0 ≤ s.responseTimeout

lemma Calm.free {i : ℕ} (h : Calm s s') (hfree : s.Free i) : s'.Free i :=
  fun w hw hp => hfree w (h.waiting hw) (h.pending hp)

lemma Calm.idle (h : Calm s s') (hidle : s.Idle) : s'.Idle := fun i => h.free (hidle i)

lemma Calm.timed (h : Calm s s') (ht : s.Timed) : s'.Timed where
  fresh := fun hget => h.nextTimer ▸ ht.fresh (h.timers hget)
  handler := fun hw => h.nextTimer ▸ ht.handler (h.waiting hw)
  index := fun hw hget => ht.index (h.waiting hw) (h.timers hget)
  armed := fun {i w} hw hp => by
    obtain ⟨t, hget⟩ := ht.armed (h.waiting hw) (h.pending hp)
    obtain rfl := ht.index (h.waiting hw) hget
    exact ⟨t, h.armed (h.waiting hw) hp hget⟩
  due := fun hget => h.now ▸ ht.due (h.timers hget)
  written := fun e he hp => by
    rw [h.written] at he
    obtain ⟨i, w, t, hw, hf, hget, hdeadline⟩ := ht.written e he (h.pending hp)
    obtain rfl := ht.index hw hget
    have hp' : s'.Pending w.sendItem.future := hf ▸ hp
    exact ⟨_, w, t, h.kept hw hp', hf, h.armed hw hp' hget, hdeadline⟩
  displaced := h.displaced.trans ht.displaced
  responseTimeout := h.responseTimeout ▸ ht.responseTimeout

lemma Timed.setResponseTimeout (ht : s.Timed) {timeout : ℚ} (h : 0 ≤ timeout) :
    Timed { s with responseTimeout := timeout } :=
  ⟨ht.fresh, ht.handler, ht.index, ht.armed, ht.due, ht.written, ht.displaced, h⟩

/-- Time goes on up to the first deadline. -/
lemma Timed.tick (ht : s.Timed) {now : ℚ} (h : ∀ timer ∈ s.timers.values, now ≤ timer.deadline) :
    Timed { s with now } :=
  ⟨ht.fresh, ht.handler, ht.index, ht.armed,
    fun hget => h _ (Dict.mem_values_iff.2 ⟨_, hget⟩), ht.written, ht.displaced,
    ht.responseTimeout⟩

/-! ### What is calm -/

/-- Disarming the timer of a waiter that is done. -/
lemma Timed.calm_cancelTimeout {i : ℕ} {w : WaitResponseItem} (ht : s.Timed)
    (hw : s.waitingForResponses.get? i = some w) (hdone : ¬ s.Pending w.sendItem.future) :
    Calm s (s.cancelTimeout w) where
  toQuiet := quiet_cancelTimeout w
  timers := fun {h t} hget => by
    rw [cancelTimeout, Dict.get?_erase] at hget
    split at hget
    · cases hget
    · exact hget
  armed := fun {w' t} hw' hp hget => by
    have hne : w'.timeoutHandler ≠ w.timeoutHandler := by
      intro heq
      have hindex := ht.index hw (heq ▸ hget)
      rw [hindex, hw] at hw'
      cases hw'
      exact hdone hp
    rw [cancelTimeout, Dict.get?_erase_of_ne _ hne]
    exact hget

lemma settle_cancelTimeout (s : InFlight) (w : WaitResponseItem) (response : Response)
    (cause : Cause) :
    (s.cancelTimeout w).settle w response cause = (s.settle w response cause).cancelTimeout w :=
  rfl

/-- A waiter that gets its result, and whose timer is disarmed. -/
lemma Timed.calm_settle_cancelTimeout {i : ℕ} {w : WaitResponseItem} (ht : s.Timed)
    (hw : s.waitingForResponses.get? i = some w) (response : Response) (cause : Cause) :
    Calm s ((s.cancelTimeout w).settle w response cause) := by
  have hcalm : Calm s (s.settle w response cause) := (quiet_settle w response cause).calm rfl
  rw [settle_cancelTimeout]
  exact hcalm.trans ((hcalm.timed ht).calm_cancelTimeout hw (not_pending_settle w response cause))

lemma Timed.calm_onReply {i : ℕ} {w : WaitResponseItem} (ht : s.Timed)
    (hw : s.waitingForResponses.get? i = some w) (payload : Option ℤ) (owner : Option ℕ) :
    Calm s (s.onReply w payload owner) := by
  unfold onReply
  split
  case isTrue => exact ht.calm_settle_cancelTimeout hw _ _
  case isFalse hdone => exact ht.calm_cancelTimeout hw hdone

lemma Timed.calm_drainOne {i : ℕ} {w : WaitResponseItem} (ht : s.Timed)
    (hw : s.waitingForResponses.get? i = some w) : Calm s (s.drainOne w) := by
  rw [drainOne]
  split
  case isTrue => exact ht.calm_settle_cancelTimeout hw _ _
  case isFalse hdone => exact ht.calm_cancelTimeout hw hdone

lemma Timed.calm_foldl_drainOne {ws : List WaitResponseItem} (ht : s.Timed)
    (hws : ∀ w ∈ ws, ∃ i, s.waitingForResponses.get? i = some w) :
    Calm s (ws.foldl drainOne s) := by
  induction ws generalizing s with
  | nil => exact Calm.refl s
  | cons w ws ih =>
    obtain ⟨i, hw⟩ := hws w (by simp)
    have hcalm := ht.calm_drainOne hw
    refine hcalm.trans (ih (hcalm.timed ht) fun w' hw' => ?_)
    rw [waitingForResponses_drainOne]
    exact hws w' (List.mem_cons_of_mem _ hw')

lemma Timed.calm_drainPending (ht : s.Timed) : Calm s s.drainPending :=
  (ht.calm_foldl_drainOne fun _ hw => Dict.mem_values_iff.1 hw).trans
    ((quiet_clear not_pending_foldl_drainOne).calm rfl)

lemma idle_drainPending : s.drainPending.Idle := by
  intro i w hw
  cases hw

/-- Disarming a timer whose slot is free. -/
lemma calm_eraseTimer {h : ℕ} {timer : Timer} (hget : s.timers.get? h = some timer)
    (hfree : s.Free timer.index) : Calm s { s with timers := s.timers.erase h } where
  toQuiet := Quiet.setTimers _
  timers := fun {h' t} hget' => by
    rw [Dict.get?_erase] at hget'
    split at hget'
    · cases hget'
    · exact hget'
  armed := fun {w t} hw hp hget' => by
    have hne : w.timeoutHandler ≠ h := by
      rintro rfl
      rw [hget] at hget'
      cases hget'
      exact hfree w hw hp
    rw [Dict.get?_erase_of_ne _ hne]
    exact hget'

/-- An expired timer settles the waiter in its slot. -/
lemma calm_timer {h : ℕ} {timer : Timer} (hget : s.timers.get? h = some timer) :
    Calm s ({ s with timers := s.timers.erase h }.timeoutCallback timer) := by
  rw [timeoutCallback]
  split
  case h_1 hnone =>
    exact calm_eraseTimer hget fun w hw => by rw [hnone] at hw; cases hw
  case h_2 w hw =>
    split
    case isTrue =>
      have hcalm : Calm s (s.settle w .noResponseFromGateway (.timer timer.owner)) :=
        (quiet_settle w _ _).calm rfl
      refine hcalm.trans (calm_eraseTimer hget fun w' hw' => ?_)
      obtain rfl : w = w' := Option.some.inj (hw.symm.trans hw')
      exact not_pending_settle w _ _
    case isFalse hdone =>
      refine calm_eraseTimer hget fun w' hw' => ?_
      obtain rfl : w = w' := Option.some.inj (hw.symm.trans hw')
      exact hdone

/-! ### Registering a batch -/

/-- The waiters afterwards: the new one, and the old ones of the other slots. -/
lemma get?_registerOne {i j : ℕ} {item : SendQueueItem} {w : WaitResponseItem}
    (hw : (s.registerOne i item).waitingForResponses.get? j = some w) :
    (j = i ∧ w = ⟨item, s.nextTimer, s.sendQueueItemIndex⟩) ∨
      (j ≠ i ∧ s.waitingForResponses.get? j = some w) := by
  simp only [InFlight.registerOne, Dict.get?_set] at hw
  split at hw
  case isTrue heq =>
    cases hw
    exact .inl ⟨heq, rfl⟩
  case isFalse hne => exact .inr ⟨hne, hw⟩

/-- The lost commands afterwards: at most one more, which waited in the slot. -/
lemma mem_displaced_registerOne {i f : ℕ} {item : SendQueueItem} :
    f ∈ (s.registerOne i item).displaced ↔ f ∈ s.displaced ∨
      ∃ w, s.waitingForResponses.get? i = some w ∧ s.Pending f ∧ w.sendItem.future = f := by
  simp only [InFlight.registerOne]
  split
  case h_1 hnone => simp [hnone]
  case h_2 w hw =>
    split
    case isTrue hpending =>
      rw [List.mem_cons, or_comm]
      refine or_congr_right ⟨?_, ?_⟩
      · rintro rfl
        exact ⟨w, hw, hpending, rfl⟩
      · rintro ⟨w', hw', -, rfl⟩
        rw [Option.some.inj (hw.symm.trans hw')]
    case isFalse hdone =>
      refine ⟨.inl, fun h => h.resolve_right ?_⟩
      rintro ⟨w', hw', hpending, rfl⟩
      rw [← Option.some.inj (hw.symm.trans hw')] at hpending
      exact hdone hpending

lemma Timed.registerOne {i : ℕ} {item : SendQueueItem} (ht : s.Timed) (hfree : s.Free i) :
    (s.registerOne i item).Timed where
  fresh := fun {h t} hget => by
    simp only [InFlight.registerOne, Dict.get?_set] at hget ⊢
    split at hget
    case isTrue heq => omega
    case isFalse => exact Nat.lt_succ_of_lt (ht.fresh hget)
  handler := fun {j w} hw => by
    simp only [InFlight.registerOne, Dict.get?_set] at hw ⊢
    split at hw
    case isTrue =>
      cases hw
      exact Nat.lt_succ_self _
    case isFalse => exact Nat.lt_succ_of_lt (ht.handler hw)
  index := fun {j w t} hw hget => by
    simp only [InFlight.registerOne, Dict.get?_set] at hw hget
    split at hw
    case isTrue heq =>
      cases hw
      rw [if_pos rfl] at hget
      cases hget
      exact heq.symm
    case isFalse =>
      rw [if_neg (ht.handler hw).ne] at hget
      exact ht.index hw hget
  armed := fun {j w} hw hp => by
    simp only [InFlight.registerOne, Dict.get?_set] at hw ⊢
    split at hw
    case isTrue =>
      cases hw
      exact ⟨_, if_pos rfl⟩
    case isFalse =>
      rw [if_neg (ht.handler hw).ne]
      exact ht.armed hw hp
  due := fun {h t} hget => by
    simp only [InFlight.registerOne, Dict.get?_set] at hget ⊢
    split at hget
    case isTrue =>
      cases hget
      exact le_add_of_nonneg_right ht.responseTimeout
    case isFalse => exact ht.due hget
  written := fun e he hp => by
    simp only [InFlight.registerOne, List.mem_cons, Dict.get?_set] at he ⊢
    -- the new command is armed, and the older ones wait in other slots
    rcases he with rfl | he
    · exact ⟨i, _, _, if_pos rfl, rfl, if_pos rfl, rfl⟩
    · obtain ⟨j, w, t, hw, hf, hget, hdeadline⟩ := ht.written e he hp
      have hne : j ≠ i := by
        rintro rfl
        exact hfree w hw (hf ▸ hp)
      exact ⟨j, w, t, by rw [if_neg hne, hw], hf, by rw [if_neg (ht.handler hw).ne, hget],
        hdeadline⟩
  displaced := by
    simp only [InFlight.registerOne]
    split
    · exact ht.displaced
    · rename_i w hw
      rw [if_neg (hfree w hw), ht.displaced]
  responseTimeout := ht.responseTimeout

lemma free_registerOne {i j : ℕ} {item : SendQueueItem} (hne : j ≠ i) :
    (s.registerOne i item).Free j ↔ s.Free j := by
  simp only [Free, InFlight.registerOne, Dict.get?_set_of_ne _ _ hne]

/-- A batch may be registered in free slots. -/
lemma Timed.register {i : ℕ} {items : List SendQueueItem} (ht : s.Timed)
    (hfree : ∀ j, i ≤ j → j < i + items.length → s.Free j) : (s.register i items).Timed := by
  induction items generalizing s i with
  | nil => exact ht
  | cons item items ih =>
    rw [List.length_cons] at hfree
    refine ih (ht.registerOne (hfree i le_rfl (by omega))) fun j hj hlt => ?_
    exact (free_registerOne (by omega)).2 (hfree j (by omega) (by omega))

@[simp] lemma futures_register (i : ℕ) (items : List SendQueueItem) :
    (s.register i items).futures = s.futures := by
  induction items generalizing s i with
  | nil => rfl
  | cons item items ih => exact ih (s := s.registerOne i item) (i + 1)

lemma length_written_register (i : ℕ) (items : List SendQueueItem) :
    (s.register i items).written.length = s.written.length + items.length := by
  induction items generalizing s i with
  | nil => rfl
  | cons item items ih =>
    rw [register, ih]
    simp only [registerOne, List.length_cons]
    omega

/-- The other slots keep their waiters. -/
lemma get?_register_of_le {i j : ℕ} {items : List SendQueueItem}
    (h : j < i ∨ i + items.length ≤ j) :
    (s.register i items).waitingForResponses.get? j = s.waitingForResponses.get? j := by
  induction items generalizing s i with
  | nil => rfl
  | cons item items ih =>
    rw [List.length_cons] at h
    rw [InFlight.register, ih (by omega)]
    exact Dict.get?_set_of_ne _ _ (by omega)

/-- A registered slot waits for its own command. -/
lemma get?_register {i k : ℕ} {items : List SendQueueItem} {item : SendQueueItem}
    (hitem : items[k]? = some item) : ∃ w,
      (s.register i items).waitingForResponses.get? (i + k) = some w ∧ w.sendItem = item := by
  induction items generalizing s i k with
  | nil => cases hitem
  | cons head items ih =>
    cases k with
    | zero =>
      obtain rfl : head = item := by simpa using hitem
      refine ⟨⟨head, s.nextTimer, s.sendQueueItemIndex⟩, ?_, rfl⟩
      rw [InFlight.register, get?_register_of_le (.inl (by omega))]
      exact Dict.get?_set_self _ _ _
    | succ k =>
      obtain ⟨w, hw, heq⟩ := ih (s := s.registerOne i head) (i := i + 1) hitem
      exact ⟨w, by rwa [show i + (k + 1) = i + 1 + k by omega], heq⟩

end InFlight

open InFlight

/-! ### The sender task after a flush -/

section Sender

variable {config : WBDALIConfig}

lemma startOver_frame (s : State) : s.startOver.toInFlight = s.toInFlight ∧
    s.startOver.owed = s.owed ∧ ∀ flush, s.startOver.sender ≠ .write flush := by
  rw [State.startOver]
  split
  · exact ⟨rfl, rfl, fun _ h => by cases h⟩
  · rw [State.waitForSlot]
    split <;> exact ⟨rfl, rfl, fun _ h => by cases h⟩

/-- After a flush the sender moves on, and leaves the commands in flight alone. -/
lemma afterFlush_frame (s : State) (flush : Flush) :
    (s.afterFlush config flush).toInFlight = s.toInFlight ∧
      (s.afterFlush config flush).owed = s.owed ∧
      ∀ flush', (s.afterFlush config flush).sender ≠ .write flush' := by
  cases flush with
  | slot w =>
    rw [State.afterFlush, State.waitForSlot]
    split <;> exact ⟨rfl, rfl, fun _ h => by cases h⟩
  | timeout => exact startOver_frame { s.dropBatch with timeout := none }
  | queueEnd =>
    simp only [State.afterFlush]
    split
    · exact startOver_frame { s with nextQueueIndex := 0 }.dropBatch
    · exact startOver_frame s.dropBatch

lemma written_onMqttError (s : State) (flush : Flush) :
    (s.onMqttError config flush).written = s.written := by
  rw [State.onMqttError, (afterFlush_frame _ _).1]
  exact (quiet_failBatch _).1.written.trans quiet_drainPending.written

end Sender

end WbMqttDali.Driver
