import Mathlib
import WbMqttDali.Driver.InFlight

/-!
# Replies and timers of earlier commands

The gateway replies on the topic of a slot once to every frame written to it, and
the driver gives a reply, or a run out timer, to whatever waits in the slot at the
time.  So a command gets what is its own as long as no batch is written to a slot
for which a timer is armed or a reply is owed.  A cancelled command may leave both
behind, since its slot counts as free at once.
-/

namespace WbMqttDali.Driver

/-- A command is resolved with the reply to its own frame, after its own response
timeout, or because the gateway is unavailable. -/
def Resolution.Own (resolution : Resolution) (written : List Written) : Prop :=
  match resolution.cause with
  | .reply owner => owner = some resolution.future
  | .timer owner => owner = resolution.future ∧ resolution.response = .noResponseFromGateway ∧
      ∃ e ∈ written, e.future = resolution.future ∧
        e.sentAt + e.responseTimeout ≤ resolution.resolvedAt
  | .unavailable => resolution.response = .gatewayUnavailable
  | .shutdown => False

namespace InFlight

variable {s s' s'' : InFlight} {owed : ℕ → List ℕ}

/-! ### What is recorded of the resolved commands -/

/-- Every result of a future is on record. -/
def Logged (s : InFlight) : Prop :=
  ∀ f response, s.futures f = .result response →
    ∃ r ∈ s.resolutions, r.future = f ∧ r.response = response

/-- The armed timers are those of written commands, and no command was resolved by
what belongs to another. -/
structure Recorded (s : InFlight) : Prop where
  logged : s.Logged
  own : ∀ r ∈ s.resolutions, r.Own s.written
  timer : ∀ {h t}, s.timers.get? h = some t →
    ∃ e ∈ s.written, e.future = t.owner ∧ t.deadline = e.sentAt + e.responseTimeout

/-- What is armed or owed for the slot of a pending command belongs to this command. -/
structure Owns (owed : ℕ → List ℕ) (s : InFlight) : Prop extends Recorded s where
  slot : ∀ {h t w}, s.timers.get? h = some t →
    s.waitingForResponses.get? t.index = some w → s.Pending w.sendItem.future →
    t.owner = w.sendItem.future
  reply : ∀ {i w f}, s.waitingForResponses.get? i = some w → s.Pending w.sendItem.future →
    f ∈ owed i → f = w.sendItem.future

/-- A quiet step that arms no timer and resolves commands only as unavailable. -/
structure Proper (s s' : InFlight) : Prop extends Quiet s s' where
  timers : ∀ {h t}, s'.timers.get? h = some t → s.timers.get? h = some t
  logged : s.Logged → s'.Logged
  own : ∀ r ∈ s'.resolutions, r ∈ s.resolutions ∨
    r.cause = .unavailable ∧ r.response = .gatewayUnavailable

lemma Proper.refl (s : InFlight) : Proper s s := ⟨Quiet.refl s, id, id, fun _ => .inl⟩

lemma Proper.trans (h : Proper s s') (h' : Proper s' s'') : Proper s s'' where
  toQuiet := h.toQuiet.trans h'.toQuiet
  timers := fun ht => h.timers (h'.timers ht)
  logged := fun hl => h'.logged (h.logged hl)
  own := fun r hr => (h'.own r hr).elim (h.own r) .inr

lemma Recorded.proper (h : Recorded s) (hproper : Proper s s') : Recorded s' where
  logged := hproper.logged h.logged
  own := fun r hr => by
    rw [hproper.written]
    rcases hproper.own r hr with hr | ⟨hcause, hresponse⟩
    · exact h.own r hr
    · rw [Resolution.Own, hcause]
      exact hresponse
  timer := fun hget => hproper.written ▸ h.timer (hproper.timers hget)

lemma Owns.proper (h : Owns owed s) (hproper : Proper s s') : Owns owed s' where
  toRecorded := h.toRecorded.proper hproper
  slot := fun hget hw hp =>
    h.slot (hproper.timers hget) (hproper.waiting hw) (hproper.pending hp)
  reply := fun hw hp hf => h.reply (hproper.waiting hw) (hproper.pending hp) hf

/-- Fewer replies are owed. -/
lemma Owns.sub {owed' : ℕ → List ℕ} (h : Owns owed s) (hsub : ∀ i, owed' i ⊆ owed i) :
    Owns owed' s :=
  ⟨h.toRecorded, h.slot, fun hw hp hf => h.reply hw hp (hsub _ hf)⟩

/-! ### What is proper -/

lemma logged_resolve (h : s.Logged) (f : ℕ) (response : Response) (cause : Cause) :
    (s.resolve f response cause).Logged := by
  intro g response' hg
  by_cases hgf : g = f
  · subst hgf
    have hself := Function.update_self g (FutureState.result response) s.futures
    obtain rfl : response = response' := FutureState.result.inj (hself.symm.trans hg)
    exact ⟨_, List.mem_cons_self, rfl, rfl⟩
  · have hother := Function.update_of_ne hgf (FutureState.result response) s.futures
    obtain ⟨r, hr, hrest⟩ := h g response' (hother.symm.trans hg)
    exact ⟨r, List.mem_cons_of_mem _ hr, hrest⟩

lemma proper_cancelTimeout (w : WaitResponseItem) : Proper s (s.cancelTimeout w) where
  toQuiet := quiet_cancelTimeout w
  timers := fun hget => by
    rw [cancelTimeout, Dict.get?_erase] at hget
    split at hget
    · cases hget
    · exact hget
  logged := id
  own := fun _ => .inl

lemma proper_resolve_unavailable (f : ℕ) :
    Proper s (s.resolve f .gatewayUnavailable .unavailable) where
  toQuiet := Quiet.update (by simp) _ s.busTraffic
  timers := id
  logged := fun h => logged_resolve h _ _ _
  own := fun r hr => by
    rcases List.mem_cons.1 hr with rfl | hr
    · exact .inr ⟨rfl, rfl⟩
    · exact .inl hr

lemma proper_notify (frame : BusMonitor.Frame) (response : Response) (source : BusTrafficSource)
    (sequenceId : ℕ) : Proper s (s.notify frame response source sequenceId) :=
  ⟨(Calm.traffic _).toQuiet, id, id, fun _ => .inl⟩

lemma proper_report (frame : BusMonitor.Frame) (source : BusTrafficSource) :
    Proper s (s.report frame source) :=
  ⟨Quiet.report frame source, id, id, fun _ => .inl⟩

lemma proper_drainOne (w : WaitResponseItem) : Proper s (s.drainOne w) := by
  rw [drainOne]
  split
  · exact (proper_cancelTimeout w).trans
      ((proper_resolve_unavailable _).trans (proper_notify _ _ _ _))
  · exact proper_cancelTimeout w

lemma proper_drainPending : Proper s s.drainPending := by
  have hfold : ∀ (ws : List WaitResponseItem) (s : InFlight), Proper s (ws.foldl drainOne s) := by
    intro ws
    induction ws with
    | nil => exact Proper.refl
    | cons w ws ih => exact fun s => (proper_drainOne w).trans (ih _)
  exact (hfold _ s).trans ⟨quiet_clear not_pending_foldl_drainOne, id, id, fun _ => .inl⟩

lemma proper_failBatch (items : List SendQueueItem) : Proper s (s.failBatch items) := by
  induction items generalizing s with
  | nil => exact Proper.refl s
  | cons item items ih =>
    refine Proper.trans ?_ (ih (s := s.failOne item))
    rw [failOne]
    split
    · exact (proper_resolve_unavailable _).trans (proper_report _ _)
    · exact Proper.refl s

lemma proper_refuseCommands (commands : List Command) (source : BusTrafficSource) :
    Proper s (s.refuseCommands commands source) := by
  rw [refuseCommands]
  induction commands generalizing s with
  | nil => exact Proper.refl s
  | cons command commands ih => exact (proper_report _ _).trans ih

lemma proper_cancel (future : ℕ) : Proper s (s.cancel future) := by
  rw [cancel]
  split
  case isFalse => exact Proper.refl s
  case isTrue =>
    refine ⟨Quiet.update (by simp) s.resolutions s.busTraffic, id, fun h f response hf => ?_,
      fun _ => .inl⟩
    by_cases heq : f = future
    · subst heq
      have hself := Function.update_self f FutureState.cancelled s.futures
      have heq : FutureState.cancelled = .result response := hself.symm.trans hf
      cases heq
    · have hother := Function.update_of_ne heq FutureState.cancelled s.futures
      exact h f response (hother.symm.trans hf)

/-! ### Replies and timers -/

/-- A reply to the frame of the pending command resolves it. -/
lemma Owns.onReply {i f : ℕ} {w : WaitResponseItem} {payload : Option ℤ} (h : Owns owed s)
    (hw : s.waitingForResponses.get? i = some w) (hf : f ∈ owed i) :
    Owns owed (s.onReply w payload (some f)) := by
  have hdisarmed := h.proper (proper_cancelTimeout w)
  unfold InFlight.onReply
  split
  case isFalse => exact hdisarmed
  case isTrue hp =>
    have hquiet := fun response : Response =>
      quiet_settle (s := s.cancelTimeout w) w response (.reply (some f))
    refine ⟨⟨logged_resolve hdisarmed.logged _ _ _, fun r hr => ?_, hdisarmed.timer⟩,
      fun hget hw' hp' =>
        hdisarmed.slot hget ((hquiet _).waiting hw') ((hquiet _).pending hp'),
      fun hw' hp' => hdisarmed.reply ((hquiet _).waiting hw') ((hquiet _).pending hp')⟩
    rcases List.mem_cons.1 hr with rfl | hr
    · exact congrArg some (h.reply hw hp hf)
    · exact hdisarmed.own r hr

/-- A timer that runs out resolves the command it was armed for. -/
lemma Owns.timeout {k : ℕ} {timer : Timer} (h : Owns owed s)
    (hget : s.timers.get? k = some timer) (hdue : timer.deadline ≤ s.now) :
    Owns owed ({ s with timers := s.timers.erase k }.timeoutCallback timer) := by
  have hproper : Proper s { s with timers := s.timers.erase k } := by
    refine ⟨Quiet.setTimers _, fun hget => ?_, id, fun _ => .inl⟩
    rw [Dict.get?_erase] at hget
    split at hget
    · cases hget
    · exact hget
  have hdisarmed := h.proper hproper
  rw [timeoutCallback]
  split
  case h_1 => exact hdisarmed
  case h_2 w hw =>
    split
    case isFalse => exact hdisarmed
    case isTrue hp =>
      have hquiet := quiet_settle (s := { s with timers := s.timers.erase k }) w
        .noResponseFromGateway (.timer timer.owner)
      refine ⟨⟨logged_resolve hdisarmed.logged _ _ _, fun r hr => ?_, hdisarmed.timer⟩,
        fun hget hw' hp' => hdisarmed.slot hget (hquiet.waiting hw') (hquiet.pending hp'),
        fun hw' hp' => hdisarmed.reply (hquiet.waiting hw') (hquiet.pending hp')⟩
      rcases List.mem_cons.1 hr with rfl | hr
      · have howner := h.slot hget hw hp
        obtain ⟨e, he, hfuture, hdeadline⟩ := h.timer hget
        exact ⟨howner, rfl, e, he, hfuture.trans howner, hdeadline ▸ hdue⟩
      · exact hdisarmed.own r hr

/-! ### Registering -/

lemma Resolution.Own.cons {r : Resolution} {written : List Written} (h : r.Own written)
    (e : Written) : r.Own (e :: written) := by
  rw [Resolution.Own] at h ⊢
  split
  case h_2 hcause =>
    rw [hcause] at h
    obtain ⟨howner, hresponse, e', he', hrest⟩ := h
    exact ⟨howner, hresponse, e', List.mem_cons_of_mem _ he', hrest⟩
  all_goals simp_all

lemma Recorded.registerOne {i : ℕ} {item : SendQueueItem} (h : Recorded s) :
    Recorded (s.registerOne i item) where
  logged := h.logged
  own := fun r hr => Resolution.Own.cons (h.own r hr) _
  timer := fun {k t} hget => by
    simp only [InFlight.registerOne, Dict.get?_set] at hget
    split at hget
    · cases hget
      exact ⟨_, List.mem_cons_self, rfl, rfl⟩
    · obtain ⟨e, he, hrest⟩ := h.timer hget
      exact ⟨e, List.mem_cons_of_mem _ he, hrest⟩

lemma Recorded.register {i : ℕ} {items : List SendQueueItem} (h : Recorded s) :
    Recorded (s.register i items) := by
  induction items generalizing s i with
  | nil => exact h
  | cons item items ih => exact ih h.registerOne

/-- The armed timers afterwards: the new one, and the old ones. -/
lemma get?_timers_registerOne {i k : ℕ} {item : SendQueueItem} {t : Timer}
    (hget : (s.registerOne i item).timers.get? k = some t) :
    (t.index = i ∧ t.owner = item.future) ∨ s.timers.get? k = some t := by
  simp only [InFlight.registerOne, Dict.get?_set] at hget
  split at hget
  · cases hget
    exact .inl ⟨rfl, rfl⟩
  · exact .inr hget

/-- A slot for which nothing is armed or owed may be given to a command. -/
lemma Owns.registerOne {i : ℕ} {item : SendQueueItem} (h : Owns owed s) (howed : owed i = [])
    (htimers : ∀ {k t}, s.timers.get? k = some t → t.index ≠ i) :
    Owns owed (s.registerOne i item) where
  toRecorded := h.toRecorded.registerOne
  slot := fun hget hw hp => by
    rcases get?_timers_registerOne hget with ⟨hindex, howner⟩ | hget
    · rcases get?_registerOne hw with ⟨-, rfl⟩ | ⟨hne, -⟩
      · exact howner
      · exact absurd hindex hne
    · rcases get?_registerOne hw with ⟨hindex, -⟩ | ⟨-, hold⟩
      · exact absurd hindex (htimers hget)
      · exact h.slot hget hold hp
  reply := fun hw hp hf => by
    rcases get?_registerOne hw with ⟨rfl, -⟩ | ⟨-, hold⟩
    · rw [howed] at hf
      cases hf
    · exact h.reply hold hp hf

lemma Owns.register {i : ℕ} {items : List SendQueueItem} (h : Owns owed s)
    (hfree : ∀ j, i ≤ j → j < i + items.length → owed j = [] ∧
      ∀ {k t}, s.timers.get? k = some t → t.index ≠ j) : Owns owed (s.register i items) := by
  induction items generalizing s i with
  | nil => exact h
  | cons item items ih =>
    rw [List.length_cons] at hfree
    obtain ⟨howed, htimers⟩ := hfree i le_rfl (by omega)
    refine ih (h.registerOne howed htimers) fun j hj hlt => ?_
    obtain ⟨howed', htimers'⟩ := hfree j (by omega) (by omega)
    refine ⟨howed', fun hget => ?_⟩
    rcases get?_timers_registerOne hget with ⟨hindex, -⟩ | hget
    · omega
    · exact htimers' hget

end InFlight

open InFlight

/-! ### The invariant -/

section Replied

variable {config : WBDALIConfig} {s s' : State} {flush : Flush}

/-- What belongs to a pending command is its own, and a batch that is being published
is registered in its slots. -/
structure Replied (s : State) : Prop where
  owns : Owns s.owed s.toInFlight
  write : ∀ flush, s.sender = .write flush → ∀ k item, s.batch[k]? = some item →
    ∀ w, s.waitingForResponses.get? (s.batchStartIndex + k) = some w → w.sendItem = item

/-- A step from `s` to `s'` that writes a batch finds no timer armed and no reply owed
for the slots of the batch. -/
def FindsSlotsQuiet (s s' : State) : Prop :=
  s'.written ≠ s.written → ∀ k < s'.batch.length, s.owed (s'.batchStartIndex + k) = [] ∧
    ∀ t ∈ s.timers.values, t.index ≠ s'.batchStartIndex + k

instance (s s' : State) : Decidable (FindsSlotsQuiet s s') :=
  inferInstanceAs (Decidable (_ → _))

lemma Replied.of_owns (h : Owns s.owed s.toInFlight) (hsender : ∀ flush, s.sender ≠ .write flush) :
    Replied s :=
  ⟨h, fun flush heq => absurd heq (hsender flush)⟩

lemma InFlight.Owns.afterFlush (h : Owns s.owed s.toInFlight) :
    Replied (s.afterFlush config flush) := by
  obtain ⟨hinFlight, howed, hsender⟩ := @afterFlush_frame config s flush
  refine .of_owns ?_ hsender
  rw [hinFlight, howed]
  exact h

/-- After a failed publish no command waits any more. -/
lemma InFlight.Recorded.onMqttError (h : Recorded s.toInFlight) :
    Replied (s.onMqttError config flush) := by
  have hproper := (proper_drainPending (s := s.toInFlight)).trans (proper_failBatch s.batch)
  have hnone : ∀ {i w},
      (s.toInFlight.drainPending.failBatch s.batch).waitingForResponses.get? i ≠ some w := by
    intro i w hw
    cases (proper_failBatch s.batch).waiting hw
  exact Owns.afterFlush (s := s.drainPending.failBatch)
    ⟨h.proper hproper, fun _ hw => absurd hw hnone, fun hw => absurd hw hnone⟩

lemma InFlight.Owns.waitForItem (h : Owns s.owed s.toInFlight) : Replied s.waitForItem :=
  .of_owns h fun _ heq => by cases heq

lemma InFlight.Owns.writeBatch (h : Owns s.owed s.toInFlight)
    (hquiet : FindsSlotsQuiet s (s.writeBatch config flush)) :
    Replied (s.writeBatch config flush) := by
  rw [State.writeBatch] at hquiet ⊢
  split
  case isFalse => exact Recorded.onMqttError h.toRecorded.register
  case isTrue hconnected =>
    rw [if_pos hconnected] at hquiet
    refine ⟨h.register fun j hj hlt => ?_, fun _ _ k item hitem w hw => ?_⟩
    · have hwritten : (s.toInFlight.register s.batchStartIndex s.batch).written ≠ s.written := by
        intro heq
        have hlength := length_written_register (s := s.toInFlight) s.batchStartIndex s.batch
        rw [heq] at hlength
        omega
      obtain ⟨howed, htimers⟩ := hquiet hwritten (j - s.batchStartIndex)
        (show j - s.batchStartIndex < s.batch.length by omega)
      have hslot : s.batchStartIndex + (j - s.batchStartIndex) = j := by omega
      refine ⟨hslot ▸ howed, fun hget => ?_⟩
      exact hslot ▸ htimers _ (Dict.mem_values_iff.2 ⟨_, hget⟩)
    · obtain ⟨w', hw', heq⟩ :=
        get?_register (s := s.toInFlight) (i := s.batchStartIndex) (k := k) hitem
      exact Option.some.inj (hw.symm.trans hw') ▸ heq

lemma InFlight.Owns.afterReset (h : Owns s.owed s.toInFlight)
    (hquiet : FindsSlotsQuiet s (s.afterReset config flush)) :
    Replied (s.afterReset config flush) :=
  Owns.writeBatch (s := { s with
    pendingResync := false
    batchStartIndex := 0
    nextQueueIndex := s.batch.length }) h hquiet

/-- The sync resolves commands at most as unavailable. -/
lemma syncWithBrokerSession_proper (s : State) :
    s.syncWithBrokerSession.owed = s.owed ∧
      Proper s.toInFlight s.syncWithBrokerSession.toInFlight := by
  rw [State.syncWithBrokerSession]
  split
  · exact ⟨rfl, Proper.refl _⟩
  · exact ⟨rfl, proper_drainPending⟩

lemma InFlight.Owns.afterWait (h : Owns s.owed s.toInFlight)
    (hquiet : FindsSlotsQuiet s (s.afterWait config flush)) :
    Replied (s.afterWait config flush) := by
  set s₀ : State :=
    { s with overheatRateLimiter := s.overheatRateLimiter.finishWait s.now } with hs₀
  obtain ⟨howed, hproper⟩ := syncWithBrokerSession_proper s₀
  have hsynced : Owns s₀.syncWithBrokerSession.owed s₀.syncWithBrokerSession.toInFlight := by
    rw [howed]
    exact h.proper hproper
  rw [State.afterWait, ← hs₀] at hquiet ⊢
  simp only at hquiet ⊢
  split
  case isTrue => exact Owns.afterFlush (hsynced.proper (proper_failBatch _))
  case isFalse havailable =>
    rw [if_neg havailable] at hquiet
    split
    case isTrue => exact .of_owns hsynced fun _ heq => by cases heq
    case isFalse hresync =>
      rw [if_neg hresync] at hquiet
      refine hsynced.writeBatch fun hwritten k hk => ?_
      obtain ⟨howed', htimers⟩ := hquiet (fun heq => hwritten (heq.trans hproper.written.symm)) k hk
      refine ⟨howed ▸ howed', fun t ht => ?_⟩
      obtain ⟨n, hget⟩ := Dict.mem_values_iff.1 ht
      exact htimers t (Dict.mem_values_iff.2 ⟨n, hproper.timers hget⟩)

lemma InFlight.Owns.sendToGateway (h : Owns s.owed s.toInFlight)
    (hquiet : FindsSlotsQuiet s (s.sendToGateway config flush)) :
    Replied (s.sendToGateway config flush) := by
  rw [State.sendToGateway] at hquiet ⊢
  split
  case isTrue => exact h.afterFlush
  case isFalse hne =>
    rw [if_neg hne] at hquiet
    simp only at hquiet ⊢
    split
    case isTrue => exact .of_owns h fun _ heq => by cases heq
    case isFalse hdelay =>
      rw [if_neg hdelay] at hquiet
      exact h.afterWait hquiet

lemma InFlight.Owns.loopTop (h : Owns s.owed s.toInFlight)
    (hquiet : FindsSlotsQuiet s (s.loopTop config)) : Replied (s.loopTop config) := by
  rw [State.loopTop] at hquiet ⊢
  split
  · exact h.waitForItem
  case h_2 w hw =>
    rw [hw] at hquiet
    exact h.sendToGateway hquiet

lemma InFlight.Owns.onItem (h : Owns s.owed s.toInFlight) {item : SendQueueItem}
    (hquiet : FindsSlotsQuiet s (s.onItem config item)) : Replied (s.onItem config item) := by
  rw [State.onItem] at hquiet ⊢
  simp only at hquiet ⊢
  split
  case isTrue hcancelled =>
    rw [if_pos hcancelled] at hquiet
    exact Owns.loopTop (s := { s with timeout := some waitCommandsForBatchTimeoutS }) h hquiet
  case isFalse hlive =>
    rw [if_neg hlive] at hquiet
    split
    case isTrue heq =>
      rw [if_pos heq] at hquiet
      exact Owns.sendToGateway (s := { s with
        timeout := some waitCommandsForBatchTimeoutS
        batch := s.batch ++ [item]
        nextQueueIndex := s.nextQueueIndex + 1 }) h hquiet
    case isFalse hne =>
      rw [if_neg hne] at hquiet
      exact Owns.loopTop (s := { s with
        timeout := some waitCommandsForBatchTimeoutS
        batch := s.batch ++ [item]
        nextQueueIndex := s.nextQueueIndex + 1 }) h hquiet

lemma Replied.proper (h : Replied s) {inFlight : InFlight}
    (hproper : Proper s.toInFlight inFlight) : Replied { s with toInFlight := inFlight } :=
  ⟨h.owns.proper hproper, fun flush hsender k item hitem w hw =>
    h.write flush hsender k item hitem w (hproper.waiting hw)⟩

/-- The gateway publishes a reply only to a frame of the slot that has none yet. -/
def RepliesOnce (s : State) : Event → Prop
  | .reply respPointer false _ => s.owed respPointer ≠ []
  | _ => True

instance (s : State) (e : Event) : Decidable (RepliesOnce s e) := by
  unfold RepliesOnce
  split <;> infer_instance

/-- A run in which the gateway replies once to each frame, and in which no batch is
written to a slot for which a timer is armed or a reply is owed. -/
structure ReusesQuietSlots (config : WBDALIConfig) (s : State) (e : Event) : Prop where
  replies : RepliesOnce s e
  slots : ∀ s' ∈ step config s e, FindsSlotsQuiet s s'

instance (config : WBDALIConfig) (s : State) (e : Event) :
    Decidable (ReusesQuietSlots config s e) :=
  decidable_of_iff (RepliesOnce s e ∧ ∀ s' ∈ step config s e, FindsSlotsQuiet s s')
    ⟨fun h => ⟨h.1, h.2⟩, fun h => ⟨h.replies, h.slots⟩⟩

lemma update_tail_subset (owed : ℕ → List ℕ) (i j : ℕ) :
    Function.update owed i (owed i).tail j ⊆ owed j := by
  by_cases hj : j = i
  · subst hj
    rw [Function.update_self]
    exact List.tail_subset _
  · rw [Function.update_of_ne hj]
    exact fun _ => id

/-- Every step keeps the invariant. -/
theorem Replied.step {e : Event} (h : Replied s) (hok : ReusesQuietSlots config s e)
    (hstep : step config s e = some s') : Replied s' := by
  have hquiet := hok.slots s' hstep
  cases happens_of_step hstep with
  | put => exact ⟨h.owns, h.write⟩
  | sendUnavailable => exact h.proper (proper_refuseCommands _ _)
  | cancel => exact h.proper (proper_cancel _)
  | setResponseTimeout =>
    exact ⟨⟨⟨h.owns.logged, h.owns.own, h.owns.timer⟩, h.owns.slot, h.owns.reply⟩, h.write⟩
  | replyRetained => exact h
  | @replyUnknown respPointer _ hnone =>
    exact ⟨h.owns.sub (update_tail_subset s.owed respPointer), h.write⟩
  | @reply respPointer payload respWaiter _ hwaiter =>
    -- the gateway replies to the oldest frame that it owes the slot
    obtain ⟨f, rest, hcons⟩ := List.exists_cons_of_ne_nil hok.replies
    have hreplied := @InFlight.Owns.onReply _ _ _ f _ payload h.owns hwaiter
      (hcons ▸ List.mem_cons_self)
    have hhead : (s.owed respPointer).head? = some f := by rw [hcons, List.head?_cons]
    rw [hhead]
    exact ⟨hreplied.sub (update_tail_subset s.owed respPointer),
      fun flush hsender k item hitem w hw =>
      h.write flush hsender k item hitem w ((quiet_onReply _ _ _).waiting hw)⟩
  | metaIgnored => exact h
  | unreachable =>
    exact Replied.proper (s := { s with unreachableReportedInSession := some s.session })
      ⟨h.owns, h.write⟩ proper_drainPending
  | reachable => exact ⟨h.owns, h.write⟩
  | connectionLost => exact ⟨h.owns, h.write⟩
  | connectionRestored => exact ⟨h.owns, h.write⟩
  | tick => exact ⟨⟨⟨h.owns.logged, h.owns.own, h.owns.timer⟩, h.owns.slot, h.owns.reply⟩, h.write⟩
  | timer htimer hdue =>
    exact ⟨h.owns.timeout htimer hdue, fun flush hsender k item hitem w hw =>
      h.write flush hsender k item hitem w ((quiet_timer _).waiting hw)⟩
  | busFrame => exact h.proper ⟨(Calm.traffic _).toQuiet, id, id, fun _ => .inl⟩
  | register => exact h.proper ⟨(Calm.traffic _).toQuiet, id, id, fun _ => .inl⟩
  | cleanup => exact h.proper ⟨(Calm.traffic _).toQuiet, id, id, fun _ => .inl⟩
  | @itemReceived _ item sendQueue =>
    exact InFlight.Owns.onItem (s := { s with sendQueue }) h.owns hquiet
  | itemTimeout => exact h.owns.sendToGateway hquiet
  | slotDone => exact h.owns.waitForItem
  | sleepDone => exact h.owns.afterWait hquiet
  | deliverReset =>
    obtain ⟨rpcs, heq⟩ := s.markDelivered_eq
    rw [heq]
    exact ⟨h.owns, h.write⟩
  | @deliverWrite flush hsender =>
    obtain ⟨rpcs, heq⟩ := s.markDelivered_eq
    rw [heq]
    refine ⟨⟨h.owns.toRecorded, h.owns.slot, fun {i w f} hw hp hf => ?_⟩, h.write⟩
    -- a frame that is owed now is that of the item in its slot
    rcases List.mem_append.1 hf with hf | hf
    · exact h.owns.reply hw hp hf
    · split at hf
      case isFalse => cases hf
      case isTrue hle =>
        obtain ⟨item, hitem, rfl⟩ := Option.map_eq_some_iff.1 (Option.mem_toList.1 hf)
        have hslot : s.batchStartIndex + (i - s.batchStartIndex) = i := Nat.add_sub_cancel' hle
        rw [h.write flush hsender _ item hitem w (hslot.symm ▸ hw)]
  | resetReturns => exact h.owns.afterReset hquiet
  | writeReturns => exact h.owns.afterFlush
  | resetRaises => exact h.owns.toRecorded.onMqttError
  | writeRaises => exact h.owns.toRecorded.onMqttError

end Replied

/-! ### Runs -/

lemma replied_initial {config : WBDALIConfig} (listeners : Finset ℕ) (connected : Bool)
    (session : ℕ) (resetDelivered : Bool) :
    Replied (initial config listeners connected session resetDelivered) := by
  have hstart : ∀ busTraffic : BusTrafficCallbacks,
      Owns (fun _ => []) { busTraffic } := by
    intro busTraffic
    refine ⟨⟨fun f response h => ?_, ?_, ?_⟩, ?_, ?_⟩
    · cases h
    all_goals intros; contradiction
  cases resetDelivered with
  | false => exact .of_owns (hstart _) fun _ h => by cases h
  | true => exact .of_owns (hstart _) fun _ h => by cases h

/-- In a run that reuses quiet slots only, a result of a command is the reply to its own
frame, or comes after its own response timeout, or because the gateway is unavailable. -/
theorem own_of_reusesQuietSlots (config : WBDALIConfig) (s : State)
    (h : (driver config).Reach (ReusesQuietSlots config) s) (f : ℕ) (response : Response)
    (hresult : s.futures f = .result response) :
    ∃ r ∈ s.resolutions, r.future = f ∧ r.response = response ∧ r.Own s.written := by
  have hreplied : Replied s := by
    refine h.invariant ?_ fun s e s' hreplied hok hstep => hreplied.step hok hstep
    rintro s ⟨listeners, connected, session, resetDelivered, rfl⟩
    exact replied_initial listeners connected session resetDelivered
  obtain ⟨r, hr, hfuture, hresponse⟩ := hreplied.owns.logged f response hresult
  exact ⟨r, hr, hfuture, hresponse, hreplied.owns.own r hr⟩

/-- The first of sixteen commands is cancelled, and its late reply arrives before its slot is
reused, whose next reply is that to the seventeenth command. -/
def quietSlotReused : List Event :=
  List.flatten [List.flatten (List.replicate 16 queryStatusReceived), published,
    [.cancel 0, .reply 0 false (some 0x1FE), .slotDone], queryStatusReceived, published,
    [.reply 0 false (some 0x1FF)]]

theorem own_of_reusesQuietSlots_cancelled :
    ∃ s response, (driver {}).run (ReusesQuietSlots {}) (initial {} ∅ true 0 true)
        quietSlotReused = some s ∧ s.futures 0 = .cancelled ∧ s.futures 16 = .result response ∧
      ∃ r ∈ s.resolutions, r.future = 16 ∧ r.response = response ∧ r.Own s.written := by
  have hrun : ((driver {}).run (ReusesQuietSlots {}) (initial {} ∅ true 0 true)
      quietSlotReused).any fun s =>
        s.futures 0 = .cancelled ∧ s.futures 16 = .result (queryStatus.responseTo 0x1FF) := by
    decide +kernel
  obtain ⟨s, hs, hdecide⟩ := (Option.any_eq_true _ _).1 hrun
  obtain ⟨hcancelled, hresult⟩ := of_decide_eq_true hdecide
  exact ⟨s, _, hs, hcancelled, hresult,
    own_of_reusesQuietSlots {} s (.run (.init ⟨_, _, _, _, rfl⟩) hs) 16 _ hresult⟩

/-- Sixteen commands fill the queue, and a seventeenth takes the slot of the first, which
was cancelled. -/
def slotReused : List Event :=
  List.flatten [List.flatten (List.replicate 16 queryStatusReceived), published,
    [.cancel 0, .slotDone], queryStatusReceived, published]

/-- The late reply to a cancelled command resolves the command that reuses its slot. -/
theorem exists_not_own :
    ∃ s response, (driver {}).Reach RepliesOnce s ∧ s.futures 16 = .result response ∧
      ∀ r ∈ s.resolutions, r.future = 16 → ¬ r.Own s.written := by
  have hrun : ((driver {}).run RepliesOnce (initial {} ∅ true 0 true)
      (slotReused ++ [.reply 0 false (some 0x1FF)])).any fun s =>
        s.futures 16 = .result (queryStatus.responseTo 0x1FF) ∧
          ∀ r ∈ s.resolutions, r.future = 16 → r.cause = .reply (some 0) := by
    decide +kernel
  obtain ⟨s, hs, hdecide⟩ := (Option.any_eq_true _ _).1 hrun
  obtain ⟨hresult, hcause⟩ := of_decide_eq_true hdecide
  refine ⟨s, _, .run (.init ⟨_, _, _, _, rfl⟩) hs, hresult, fun r hr hfuture hown => ?_⟩
  rw [Resolution.Own, hcause r hr hfuture, hfuture] at hown
  cases hown

end WbMqttDali.Driver
