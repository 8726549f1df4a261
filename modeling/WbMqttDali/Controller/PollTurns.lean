import WbMqttDali.Controller.PollStepInvariant

/-!
# How long devices wait

While the polling loop makes its steps, a device that is due is tried again after the devices in
front of it, and the polls wait for one other step at most.
-/

namespace WbMqttDali.PollStep

open WbMqttDali.InitScheduler WbMqttDali.InitScheduler.DeviceInitScheduler

namespace State

variable {Id : Type} [DecidableEq Id] {s s' : State Id} {device : ℕ} {mqttId x : Id} {start : ℚ}
  {tick : Tick} {wait limit : ℚ} {state : DeviceInitState} {count : ℕ}

/-! ### How long a device waits -/

/-- The device is initialized, or it has failed more often in a row. -/
def Progressed (s : State Id) (device : ℕ) (count : ℕ) : Prop :=
  s.isInitialized device = true ∨
    count < (failures (s.mqttId device) s.initScheduler.history).length

/-- The index has the device under its MQTT id. -/
structure Waits (s : State Id) (device : ℕ) (x : Id) : Prop where
  isKeyed : s.IsKeyed
  indexed : s.devicesByMqttId.get? x = some device
  mqttId_eq : s.mqttId device = x

lemma Waits.sameBus (h : s.Waits device x) (hsame : s.SameBus s') : s'.Waits device x where
  isKeyed := h.isKeyed.sameBus hsame
  indexed := hsame.devicesByMqttId ▸ h.indexed
  mqttId_eq := hsame.mqttId ▸ h.mqttId_eq

lemma length_failures_recordFailure {now : ℚ} (scheduler : DeviceInitScheduler Id)
    (hpending : mqttId = x → x ∈ scheduler.pending.keys) :
    (failures x (scheduler.recordFailure mqttId now).history).length =
      (failures x scheduler.history).length + if mqttId = x then 1 else 0 := by
  by_cases heq : mqttId = x
  · subst heq
    obtain ⟨state, hget⟩ := Dict.mem_keys_iff.1 (hpending rfl)
    simp [recordFailure, hget, failures]
  · rcases history_recordFailure scheduler mqttId now with h | h
    · rw [h, if_neg heq]
      rfl
    · rw [h, failures, if_neg (Ne.symm heq), if_neg heq]
      rfl

/-- An attempt of the device itself that does not raise is a progress. -/
lemma progressed_tryDevice (h : s.Waits device x) (hpending : x ∈ s.initScheduler.pending.keys)
    (hraises : (s.tryDevice tick x).2 = false) :
    (s.tryDevice tick x).1.Progressed device (failures x s.initScheduler.history).length := by
  have hattempts := attempts_tryDevice h.isKeyed tick x
  rw [hraises] at hattempts
  have hid := h.mqttId_eq
  have hindexed := h.indexed
  generalize (s.tryDevice tick x).1 = s' at hattempts
  cases hattempts with
  | skips hdone => exact .inl (hdone device hindexed)
  | succeeds hget hinit duration raises =>
    cases Option.some.inj (hindexed.symm.trans hget)
    exact .inl (Function.update_self _ _ _)
  | fails hget hinit isInitialized duration raises =>
    right
    show _ < (failures (s.mqttId device)
      ((s.initScheduler.begin x s.now).recordFailure x tick.now).history).length
    rw [hid, length_failures_recordFailure (s.initScheduler.begin x s.now) fun _ => hpending,
      if_pos rfl]
    exact Nat.lt_succ_self _

/-- No attempt undoes the progress of a device. -/
lemma Progressed.tryDevice (h : s.Progressed device count) (hwaits : s.Waits device x) :
    (s.tryDevice tick mqttId).1.Progressed device count := by
  have hattempts := attempts_tryDevice hwaits.isKeyed tick mqttId
  have hsame := sameBus_tryDevice hwaits.isKeyed tick mqttId
  generalize s.tryDevice tick mqttId = result at hattempts hsame
  obtain ⟨s', raises⟩ := result
  rcases h with hinit | hlt
  · exact .inl (hsame.isInitialized device hinit)
  rw [hwaits.mqttId_eq] at hlt
  have hlonger (hle : (failures x s.initScheduler.history).length ≤
      (failures x s'.initScheduler.history).length) : s'.Progressed device count := by
    right
    rw [(hwaits.sameBus hsame).mqttId_eq]
    exact hlt.trans_le hle
  have hremove (hne : mqttId ≠ x) : (failures x s.initScheduler.history).length ≤
      (failures x ((s.initScheduler.begin mqttId s.now).remove mqttId).history).length := by
    rw [remove, failures, if_neg (Ne.symm hne)]
    exact le_rfl
  have hindexed := hwaits.indexed
  simp only at hattempts
  cases hattempts with
  | skips hdone =>
    by_cases heq : mqttId = x
    · exact .inl (hdone device (heq ▸ hindexed))
    · exact hlonger (hremove heq)
  | succeeds hget hinit duration raises =>
    by_cases heq : mqttId = x
    · cases Option.some.inj ((heq ▸ hindexed).symm.trans hget)
      exact .inl (Function.update_self _ _ _)
    · exact hlonger (hremove heq)
  | fails hget hinit isInitialized duration raises =>
    apply hlonger
    rcases history_recordFailure (s.initScheduler.begin mqttId s.now) mqttId tick.now with
      heq | heq
    · exact (congrArg (fun history => (failures x history).length) heq).ge
    · refine le_trans ?_ (congrArg (fun history => (failures x history).length) heq).ge
      rw [failures]
      split
      · exact Nat.le_succ _
      · exact le_rfl
  | isCancelled hget hinit isInitialized duration => exact hlonger le_rfl

lemma Progressed.pollStep (h : s.Progressed device count) (hwaits : s.Waits device x) :
    (s.pollStep tick).1.Progressed device count := by
  have hboth : (s.pollStep tick).1.Waits device x ∧
      (s.pollStep tick).1.Progressed device count := by
    apply pollStep_keeps (P := fun s => s.Waits device x ∧ s.Progressed device count)
    · exact ⟨⟨hwaits.isKeyed, hwaits.indexed, hwaits.mqttId_eq⟩, h⟩
    · rintro s mqttId ⟨hwaits, h⟩
      exact ⟨hwaits.sameBus (sameBus_tryDevice hwaits.isKeyed tick mqttId), h.tryDevice hwaits⟩
    · rintro s ⟨hwaits, h⟩
      exact ⟨⟨hwaits.isKeyed, hwaits.indexed, hwaits.mqttId_eq⟩, h⟩
    · rintro s pollScheduler ⟨hwaits, h⟩
      exact ⟨⟨hwaits.isKeyed, hwaits.indexed, hwaits.mqttId_eq⟩, h⟩
    · rintro s outcome ⟨hwaits, h⟩
      exact ⟨⟨hwaits.isKeyed, hwaits.indexed, hwaits.mqttId_eq⟩, h⟩
  exact hboth.2

lemma Waits.pollStep (h : s.Waits device x) (hle : s.now ≤ tick.now) :
    (s.pollStep tick).1.Waits device x :=
  h.sameBus (sameBus_pollStep h.isKeyed hle).1

omit [DecidableEq Id] in
/-- How `set_devices` changes the scheduler of the polls. -/
lemma exists_setDevices (s : State Id) :
    ∃ pollScheduler : PollScheduler, pollScheduler.pollTurn = s.pollScheduler.pollTurn ∧
      pollScheduler.polls = s.pollScheduler.polls ∧ s.setDevices = { s with pollScheduler } := by
  refine ⟨s.setDevices.pollScheduler, ?_, ?_, ?_⟩
  all_goals
    rw [setDevices]
    split <;> rfl

/-- What a step does that does not end the polling task. -/
lemma pollStep_cases (htask : (s.pollStep tick).1.pollingTask = .running) :
    (∃ mqttId mqttIds, s.initScheduler.getFirstAttemptReady tick.now = mqttId :: mqttIds ∧
      (tryDevices tick (mqttId :: mqttIds) { s with now := tick.now }).2 = false ∧
        (s.pollStep tick).1 = (tryDevices tick (mqttId :: mqttIds) { s with now := tick.now }).1) ∨
    (s.initScheduler.getFirstAttemptReady tick.now = [] ∧ s.pollScheduler.pollTurn = true ∧
      (setDevices { s with now := tick.now }).pollScheduler.isEmpty = false ∧
        (s.pollStep tick).1 =
          ((setDevices { s with now := tick.now }).pollDevices tick.polled).setPollTurn false) ∨
    (s.initScheduler.getFirstAttemptReady tick.now = [] ∧
      (s.pollScheduler.pollTurn = true →
        (setDevices { s with now := tick.now }).pollScheduler.isEmpty = true) ∧
      ((s.pollStep tick).1 = (retryStep (setDevices { s with now := tick.now }) tick).1 ∨
        (s.pollStep tick).1 = (retryStep { s with now := tick.now } tick).1)) := by
  simp only [pollStep] at htask ⊢
  cases hfirst : s.initScheduler.getFirstAttemptReady tick.now with
  | cons mqttId mqttIds =>
    simp only [hfirst] at htask ⊢
    cases hraises : (tryDevices tick (mqttId :: mqttIds) { s with now := tick.now }).2 with
    | true =>
      rw [hraises, if_pos rfl] at htask
      cases htask
    | false => exact .inl ⟨mqttId, mqttIds, rfl, hraises, by simp⟩
  | nil =>
    simp only [hfirst] at htask ⊢
    cases hturn : s.pollScheduler.pollTurn with
    | false => exact .inr (.inr ⟨trivial, by simp, .inr (by simp)⟩)
    | true =>
      simp only [hturn, if_true] at htask ⊢
      cases hempty : (setDevices { s with now := tick.now }).pollScheduler.isEmpty with
      | true => exact .inr (.inr ⟨trivial, fun _ => rfl, .inl (by simp)⟩)
      | false =>
        rw [hempty] at htask
        simp only [Bool.not_false, if_true] at htask ⊢
        cases hraises : tick.pollRaises with
        | true =>
          rw [hraises, if_pos rfl] at htask
          cases htask
        | false => exact .inr (.inl ⟨trivial, trivial, trivial, by simp⟩)

/-- A device that waits for its next attempt, in a step that began at `start`. -/
structure Due (s : State Id) (start : ℚ) (device : ℕ) (x : Id) (state : DeviceInitState) (wait : ℚ)
    (count : ℕ) : Prop where
  inv : s.Inv start
  takeOver : s.takeOver = none
  indexed : s.devicesByMqttId.get? x = some device
  mqttId_eq : s.mqttId device = x
  pending : s.initScheduler.pending.get? x = some state
  waitsAtLeast : s.initScheduler.WaitsAtLeast wait
  count_le : count ≤ (failures x s.initScheduler.history).length

lemma Due.waits (h : s.Due start device x state wait count) : s.Waits device x :=
  ⟨h.inv.tracked.isKeyed, h.indexed, h.mqttId_eq⟩

/-- An attempt of another device leaves this one waiting. -/
lemma Due.tryDevice (h : s.Due tick.now device x state wait count)
    (hmay : MayTry mqttId tick.now s.initScheduler.history) (hne : mqttId ≠ x)
    (hraises : (s.tryDevice tick mqttId).2 = false) :
    (s.tryDevice tick mqttId).1.Due tick.now device x state wait count := by
  have hsame := sameBus_tryDevice h.waits.isKeyed tick mqttId
  obtain ⟨isDone, hscheduler⟩ := initScheduler_tryDevice h.waits.isKeyed hraises
  have hwaits := h.waits.sameBus hsame
  refine ⟨h.inv.tryDevice h.takeOver hmay, hsame.takeOver.trans h.takeOver, hwaits.indexed,
    hwaits.mqttId_eq, ?_, ?_, ?_⟩
  · rw [hscheduler, get?_attempt_of_ne (Ne.symm hne)]
    exact h.pending
  · rw [hscheduler]
    exact h.waitsAtLeast.attempt
  · rw [hscheduler, failures_attempt_of_ne (Ne.symm hne)]
    exact h.count_le

lemma Due.progressed_tryDevice (h : s.Due start device x state wait count)
    (hraises : (s.tryDevice tick x).2 = false) :
    (s.tryDevice tick x).1.Progressed device count := by
  have hpending : x ∈ s.initScheduler.pending.keys := Dict.mem_keys_iff.2 ⟨state, h.pending⟩
  refine (State.progressed_tryDevice h.waits hpending hraises).imp_right fun hlt => ?_
  exact h.count_le.trans_lt hlt

/-- The attempts, polls and first attempts that come before the device at most. -/
def rank (s : State Id) (x : Id) (limit : ℚ) : ℕ :=
  2 * s.initScheduler.ahead x limit + (if s.pollScheduler.pollTurn then 1 else 0) +
    if s.initScheduler.getFirstAttemptReady s.now = [] then 0 else 1

/-- No other device is due for its first attempt later than at the start of the step. -/
lemma Inv.getFirstAttemptReady_eq (h : s.Inv start) :
    s.initScheduler.getFirstAttemptReady s.now = s.initScheduler.getFirstAttemptReady start :=
  h.punctual.getFirstAttemptReady_eq h.start_le

/-- A batch polls nothing. -/
lemma pollScheduler_tryDevices {mqttIds : List Id} (h : s.IsKeyed) :
    (tryDevices tick mqttIds s).1.pollScheduler = s.pollScheduler := by
  induction mqttIds generalizing s with
  | nil => rfl
  | cons mqttId mqttIds ih =>
    have hpoll : (s.tryDevice tick mqttId).1.pollScheduler = s.pollScheduler :=
      (attempts_tryDevice h tick mqttId).pollScheduler
    rw [tryDevices]
    split
    · exact hpoll
    · exact (ih (h.sameBus (sameBus_tryDevice h tick mqttId))).trans hpoll

lemma Progressed.tryDevices (h : s.Progressed device count) (hwaits : s.Waits device x)
    (mqttIds : List Id) : (tryDevices tick mqttIds s).1.Progressed device count := by
  induction mqttIds generalizing s with
  | nil => exact h
  | cons mqttId mqttIds ih =>
    rw [State.tryDevices]
    split
    · exact h.tryDevice hwaits
    · exact ih (h.tryDevice hwaits) (hwaits.sameBus (sameBus_tryDevice hwaits.isKeyed tick mqttId))

/-- A batch tries the device, or leaves no more devices in front of it. -/
lemma Due.tryDevices (h : s.Due tick.now device x state wait count)
    (hwait : limit ≤ tick.now + wait) {mqttIds : List Id} (hnodup : mqttIds.Nodup)
    (hready : ∀ mqttId ∈ mqttIds, mqttId ∈ s.initScheduler.getFirstAttemptReady tick.now)
    (hraises : (tryDevices tick mqttIds s).2 = false) :
    (tryDevices tick mqttIds s).1.Progressed device count ∨
      (tryDevices tick mqttIds s).1.Due tick.now device x state wait count ∧
        (tryDevices tick mqttIds s).1.initScheduler.ahead x limit ≤
          s.initScheduler.ahead x limit := by
  induction mqttIds generalizing s with
  | nil => exact .inr ⟨h, le_rfl⟩
  | cons mqttId mqttIds ih =>
    rw [List.nodup_cons] at hnodup
    rw [State.tryDevices] at hraises ⊢
    split at hraises
    case isTrue hraised =>
      rw [hraised] at hraises
      cases hraises
    case isFalse hreturns =>
      rw [if_neg hreturns]
      rw [Bool.not_eq_true] at hreturns
      by_cases heq : mqttId = x
      · -- the device is tried, and the others of the batch do not undo it
        subst heq
        have hsame := sameBus_tryDevice h.waits.isKeyed tick mqttId
        exact .inl ((h.progressed_tryDevice hreturns).tryDevices (h.waits.sameBus hsame) mqttIds)
      · have hfirst := hready mqttId List.mem_cons_self
        obtain ⟨isDone, hscheduler⟩ := initScheduler_tryDevice h.waits.isKeyed hreturns
        have hahead : (s.tryDevice tick mqttId).1.initScheduler.ahead x limit ≤
            s.initScheduler.ahead x limit := by
          rw [hscheduler]
          exact (ahead_attempt heq h.waitsAtLeast hwait).1
        have hrest : ∀ other ∈ mqttIds,
            other ∈ (s.tryDevice tick mqttId).1.initScheduler.getFirstAttemptReady tick.now := by
          intro other hother
          rw [hscheduler, mem_getFirstAttemptReady_attempt]
          refine ⟨?_, hready other (List.mem_cons_of_mem _ hother)⟩
          rintro rfl
          exact hnodup.1 hother
        have hdue := h.tryDevice (h.inv.punctual.inv.mayTry_first hfirst) heq hreturns
        rcases ih hdue hnodup.2 hrest hraises with hprogressed | ⟨hdue', hle⟩
        · exact .inl hprogressed
        · exact .inr ⟨hdue', hle.trans hahead⟩

/-- The retry tries the device, or one in front of it. -/
lemma Due.retryStep (h : s.Due tick.now device x state wait count)
    (hdue : state.nextRetryTime ≤ tick.now) (hlimit : tick.now < limit)
    (hwait : limit ≤ tick.now + wait)
    (hfirst : s.initScheduler.getFirstAttemptReady tick.now = [])
    (htask : (s.retryStep tick).1.pollingTask = .running) :
    (s.retryStep tick).1.Progressed device count ∨
      (s.retryStep tick).1.Due tick.now device x state wait count ∧
        (s.retryStep tick).1.rank x limit < 2 * s.initScheduler.ahead x limit := by
  have hready : isRetryReady tick.now state = true := by
    simp only [isRetryReady, Bool.and_eq_true, decide_eq_true_eq]
    refine ⟨?_, hdue⟩
    by_contra hnot
    -- otherwise its first attempt is due
    have hmem : x ∈ s.initScheduler.getFirstAttemptReady tick.now :=
      mem_getFirstAttemptReady.2
        ⟨state, h.pending, h.inv.punctual.isFirstReady h.pending (by simpa using hnot)⟩
    rw [hfirst] at hmem
    cases hmem
  obtain ⟨mqttId, hoffer, hfront⟩ := exists_getOneRetryReady h.pending hready
  rw [State.retryStep, hoffer] at htask ⊢
  simp only at htask ⊢
  split at htask
  case isTrue => cases htask
  case isFalse hreturns =>
    rw [if_neg hreturns]
    rw [Bool.not_eq_true] at hreturns
    by_cases heq : mqttId = x
    · subst heq
      exact .inl (h.progressed_tryDevice hreturns)
    · right
      have hnext := h.tryDevice (h.inv.punctual.inv.mayTry_retry hoffer) heq hreturns
      obtain ⟨isDone, hscheduler⟩ := initScheduler_tryDevice h.waits.isKeyed hreturns
      refine ⟨⟨hnext.inv.setPollTurn true, hnext.takeOver, hnext.indexed, hnext.mqttId_eq,
        hnext.pending, hnext.waitsAtLeast, hnext.count_le⟩, ?_⟩
      obtain hsame | ⟨old, hold, hle⟩ := hfront
      · exact absurd hsame heq
      have hless : (s.tryDevice tick mqttId).1.initScheduler.ahead x limit <
          s.initScheduler.ahead x limit := by
        rw [hscheduler]
        exact (ahead_attempt heq h.waitsAtLeast hwait).2 old hold (hle.trans_lt hlimit)
      have hnone : (s.tryDevice tick mqttId).1.initScheduler.getFirstAttemptReady
          (s.tryDevice tick mqttId).1.now = [] := by
        rw [hnext.inv.getFirstAttemptReady_eq, List.eq_nil_iff_forall_not_mem]
        intro other hother
        rw [hscheduler, mem_getFirstAttemptReady_attempt, hfirst] at hother
        exact absurd hother.2 List.not_mem_nil
      simp only [rank, setPollTurn, hnone, if_true]
      omega

/-- Each step tries the device or brings it closer to its attempt. -/
lemma Due.pollStep (h : s.Due s.now device x state wait count) (hle : s.now ≤ tick.now)
    (hdue : state.nextRetryTime ≤ tick.now) (hlimit : tick.now < limit)
    (hwait : limit ≤ tick.now + wait) (htask : (s.pollStep tick).1.pollingTask = .running) :
    (s.pollStep tick).1.Progressed device count ∨
      (s.pollStep tick).1.Due tick.now device x state wait count ∧
        (s.pollStep tick).1.rank x limit < s.rank x limit := by
  have hnow : Due { s with now := tick.now } tick.now device x state wait count :=
    ⟨h.inv.mono hle, h.takeOver, h.indexed, h.mqttId_eq, h.pending, h.waitsAtLeast, h.count_le⟩
  have hfirsts := h.inv.punctual.getFirstAttemptReady_eq hle
  have hrank : 2 * s.initScheduler.ahead x limit ≤ s.rank x limit := by
    rw [rank]
    omega
  rcases pollStep_cases htask with ⟨mqttId, mqttIds, hfirst, hreturns, heq⟩ |
    ⟨hfirst, hturn, -, heq⟩ | ⟨hfirst, -, heq | heq⟩
  · -- the new devices are tried
    rw [heq]
    have hkeyed : IsKeyed { s with now := tick.now } := hnow.waits.isKeyed
    have hready : ∀ other ∈ mqttId :: mqttIds,
        other ∈ s.initScheduler.getFirstAttemptReady tick.now := by
      intro other hother
      rwa [hfirst]
    have hnodup : (mqttId :: mqttIds).Nodup := hfirst ▸ nodup_getFirstAttemptReady
    rcases hnow.tryDevices hwait hnodup hready hreturns with hprogressed | ⟨hnext, hahead⟩
    · exact .inl hprogressed
    · refine .inr ⟨hnext, ?_⟩
      have hnone : (State.tryDevices tick (mqttId :: mqttIds)
          { s with now := tick.now }).1.initScheduler.getFirstAttemptReady
          (State.tryDevices tick (mqttId :: mqttIds) { s with now := tick.now }).1.now = [] := by
        rw [hnext.inv.getFirstAttemptReady_eq, List.eq_nil_iff_forall_not_mem]
        intro other hother
        obtain ⟨hnot, hbefore⟩ := (mem_getFirstAttemptReady_tryDevices hkeyed hreturns).1 hother
        have hbefore' : other ∈ s.initScheduler.getFirstAttemptReady tick.now := hbefore
        rw [hfirst] at hbefore'
        exact hnot hbefore'
      have hsome : s.initScheduler.getFirstAttemptReady s.now ≠ [] := by
        rw [← hfirsts, hfirst]
        exact List.cons_ne_nil _ _
      have hahead' : _ ≤ s.initScheduler.ahead x limit := hahead
      rw [rank, rank, hnone, pollScheduler_tryDevices hkeyed, if_pos rfl, if_neg hsome]
      simp only
      omega
  · -- a poll, behind which a device is tried again
    right
    have hset := hnow.inv.setDevices
    obtain ⟨pollScheduler, -, -, hsetDevices⟩ := exists_setDevices { s with now := tick.now }
    rw [heq]
    rw [hsetDevices] at hset ⊢
    refine ⟨⟨(hset.pollDevices tick.polled).setPollTurn false, h.takeOver, h.indexed, h.mqttId_eq,
      h.pending, h.waitsAtLeast, h.count_le⟩, ?_⟩
    rw [rank, rank, ← hfirsts, hfirst, hturn]
    simp only [setPollTurn, State.pollDevices, hfirst]
    simp
  · -- nothing is polled
    have hset := hnow.inv.setDevices
    obtain ⟨pollScheduler, -, -, hsetDevices⟩ := exists_setDevices { s with now := tick.now }
    rw [heq] at htask ⊢
    rw [hsetDevices] at hset htask ⊢
    have hnext : Due { s with now := tick.now, pollScheduler } tick.now device x state wait count :=
      ⟨hset, h.takeOver, h.indexed, h.mqttId_eq, h.pending, h.waitsAtLeast, h.count_le⟩
    rcases hnext.retryStep hdue hlimit hwait hfirst htask with hprogressed | ⟨hdue', hless⟩
    · exact .inl hprogressed
    · exact .inr ⟨hdue', lt_of_lt_of_le hless hrank⟩
  · rw [heq] at htask ⊢
    rcases hnow.retryStep hdue hlimit hwait hfirst htask with hprogressed | ⟨hdue', hless⟩
    · exact .inl hprogressed
    · exact .inr ⟨hdue', lt_of_lt_of_le hless hrank⟩

/-- The first of some poll steps in a row. -/
lemma run_cons_iff {ticks : List Tick} :
    transition.run (fun _ _ => True) s ((tick :: ticks).map Event.pollStep) = some s' ↔
      (s.isIdle = true ∧ s.now ≤ tick.now) ∧
        transition.run (fun _ _ => True) (s.pollStep tick).1 (ticks.map Event.pollStep) =
          some s' := by
  rw [List.map_cons, Transition.run, if_pos trivial]
  simp only [transition]
  split
  case isTrue hidle => simp [hidle]
  case isFalse hnot => simp [hnot]

/-- In a run that has not ended yet no step has ended the polling task. -/
lemma running_of_run {ticks : List Tick} (htask : s'.pollingTask = .running)
    (hrun : transition.run (fun _ _ => True) s (ticks.map Event.pollStep) = some s') :
    s.pollingTask = .running := by
  cases ticks with
  | nil => rwa [Option.some.inj hrun]
  | cons tick ticks => exact (of_isIdle (run_cons_iff.1 hrun).1.1).1

/-- Poll steps do not undo the progress. -/
lemma Progressed.run (h : s.Progressed device count) (hwaits : s.Waits device x)
    (ticks : List Tick)
    (hrun : transition.run (fun _ _ => True) s (ticks.map Event.pollStep) = some s') :
    s'.Progressed device count := by
  induction ticks generalizing s with
  | nil => rwa [← Option.some.inj hrun]
  | cons tick ticks ih =>
    obtain ⟨⟨-, hle⟩, hrest⟩ := run_cons_iff.1 hrun
    exact ih (h.pollStep hwaits) (hwaits.pollStep hle) hrest

/-- Enough steps try the device. -/
lemma Due.run (limit : ℚ) (h : s.Due s.now device x state wait count) (ticks : List Tick)
    (hticks : ∀ tick ∈ ticks,
      state.nextRetryTime ≤ tick.now ∧ tick.now < limit ∧ limit ≤ tick.now + wait)
    (hlength : s.rank x limit < ticks.length) (htask : s'.pollingTask = .running)
    (hrun : transition.run (fun _ _ => True) s (ticks.map Event.pollStep) = some s') :
    s'.Progressed device count := by
  induction ticks generalizing s with
  | nil => simp at hlength
  | cons tick ticks ih =>
    obtain ⟨⟨-, hle⟩, hrest⟩ := run_cons_iff.1 hrun
    obtain ⟨hdue, hlimit, hwait⟩ := hticks tick List.mem_cons_self
    rcases h.pollStep hle hdue hlimit hwait (running_of_run htask hrest) with
      hprogressed | ⟨hnext, hless⟩
    · exact hprogressed.run (h.waits.pollStep hle) ticks hrest
    · apply ih ⟨hnext.inv.end, hnext.takeOver, hnext.indexed, hnext.mqttId_eq, hnext.pending,
        hnext.waitsAtLeast, hnext.count_le⟩ (fun other hother =>
          hticks other (List.mem_cons_of_mem _ hother)) ?_ hrest
      rw [List.length_cons] at hlength
      omega

/-- A device that is due is tried within two poll steps for itself and for each device in front of
it that becomes due meanwhile, and one for those that are new, if the steps take less time
together than a device waits that fails: it is initialized then or has failed once more. -/
theorem progressed_of_due {begin : ℚ} (h : transition.Reachable s)
    (hindex : s.devicesByMqttId.get? (s.mqttId device) = some device)
    (hget : s.initScheduler.pending.get? (s.mqttId device) = some state)
    (hdue : state.nextRetryTime ≤ begin) (hwait : s.initScheduler.WaitsAtLeast wait)
    (ticks : List Tick) (hticks : ∀ tick ∈ ticks, begin ≤ tick.now ∧ tick.now < begin + wait)
    (hlength : 2 * (s.initScheduler.ahead (s.mqttId device) (begin + wait) + 1) < ticks.length)
    (hrun : transition.run (fun _ _ => True) s (ticks.map Event.pollStep) = some s')
    (htask : s'.pollingTask = .running) :
    s'.Progressed device (failures (s.mqttId device) s.initScheduler.history).length := by
  have htakeOver : s.takeOver = none := by
    cases ticks with
    | nil => simp at hlength
    | cons tick ticks => exact (of_isIdle (run_cons_iff.1 hrun).1.1).2
  have hwaiting : s.Due s.now device (s.mqttId device) state wait
      (failures (s.mqttId device) s.initScheduler.history).length :=
    ⟨Inv.of_reachable h, htakeOver, hindex, rfl, hget, hwait, le_rfl⟩
  refine hwaiting.run (begin + wait) ticks (fun tick htick => ?_) ?_ htask hrun
  · obtain ⟨hstart, hlimit⟩ := hticks tick htick
    exact ⟨hdue.trans hstart, hlimit, by linarith⟩
  · rw [rank]
    split <;> split <;> omega

/-- A run of the two gear and the DALI-2 device, and the poll steps behind it. -/
def runThenPoll (events : List (Event ℕ)) (ticks : List Tick) : Option (State ℕ × State ℕ) :=
  (transition.run (fun _ _ => True) configured events).bind fun s =>
    (transition.run (fun _ _ => True) s (ticks.map Event.pollStep)).map fun s' => (s, s')

lemma of_runThenPoll {events : List (Event ℕ)} {ticks : List Tick} {s s' : State ℕ}
    (h : runThenPoll events ticks = some (s, s')) :
    transition.Reachable s ∧
      transition.run (fun _ _ => True) s (ticks.map Event.pollStep) = some s' := by
  obtain ⟨t, ht, hmap⟩ := Option.bind_eq_some_iff.1 h
  obtain ⟨t', ht', heq⟩ := Option.map_eq_some_iff.1 hmap
  obtain ⟨rfl, rfl⟩ := Prod.mk.inj heq
  exact ⟨(Transition.Reach.init init_configured).run ht, ht'⟩

/-- The new gear of the cancelled take-over is tried behind the one that stays silent. -/
theorem progressed_of_due_cancelledTakeOver :
    ∃ s s' : State ℕ, s.initScheduler.ahead 3 35 = 1 ∧
      s'.Progressed 3 (failures 3 s.initScheduler.history).length := by
  let ticks : List Tick := [silent 30, silent 33, silent 33, silent 34, silent 34]
  have hrun : (runThenPoll cancelledTakeOver ticks).any (fun (s, s') =>
      s.mqttId 3 = 3 ∧ s.devicesByMqttId.get? 3 = some 3 ∧
        s.initScheduler.pending.get? 3 = some ⟨25, 5⟩ ∧ s.initScheduler.ahead 3 35 = 1 ∧
          s'.pollingTask = .running) = true := by
    decide +kernel
  obtain ⟨⟨s, s'⟩, hruns, hany⟩ := (Option.any_eq_true _ _).1 hrun
  obtain ⟨hid, hindex, hget, hahead, htask⟩ := of_decide_eq_true hany
  obtain ⟨hreach, hpolls⟩ := of_runThenPoll hruns
  have hfive := (Inv.of_reachable hreach).punctual.inv.waitsAtLeast_five
  have hprogressed :
      s'.Progressed 3 (failures (s.mqttId 3) s.initScheduler.history).length := by
    have hget' : s.initScheduler.pending.get? (s.mqttId 3) = some ⟨25, 5⟩ := by rwa [hid]
    have hdue : (25 : ℚ) ≤ 30 := by norm_num
    refine progressed_of_due hreach (by rwa [hid]) hget' hdue hfive ticks ?_ ?_ hpolls htask
    · decide +kernel
    · rw [hid]
      norm_num [hahead, ticks]
  rw [hid] at hprogressed
  exact ⟨s, s', hahead, hprogressed⟩

/-! ### How long the polls wait -/

/-- Some gear can be polled. -/
structure HasGear (s : State Id) (device : ℕ) : Prop where
  isKeyed : s.IsKeyed
  mem : device ∈ s.daliDevices
  isInitialized : s.isInitialized device = true

lemma HasGear.pollStep (h : s.HasGear device) (hle : s.now ≤ tick.now) :
    (s.pollStep tick).1.HasGear device := by
  obtain ⟨hsame, hkeyed⟩ := sameBus_pollStep h.isKeyed hle
  exact ⟨hkeyed, hsame.daliDevices ▸ h.mem, hsame.isInitialized device h.isInitialized⟩

omit [DecidableEq Id] in
/-- With gear to poll the scheduler has devices left, or gets some. -/
lemma isEmpty_setDevices (hmem : device ∈ s.daliDevices)
    (hinit : s.isInitialized device = true) : s.setDevices.pollScheduler.isEmpty = false := by
  rw [setDevices]
  split
  case isTrue =>
    have hmem' : device ∈ s.daliDevices.filter fun device => s.isInitialized device :=
      List.mem_filter.2 ⟨hmem, hinit⟩
    simpa [PollScheduler.isEmpty] using List.length_pos_of_mem hmem'
  case isFalse hnot => simpa using hnot

/-- Behind a retry it is the turn of the polls. -/
lemma pollScheduler_retryStep (h : s.IsKeyed)
    (htask : (s.retryStep tick).1.pollingTask = .running) :
    (s.retryStep tick).1.pollScheduler = { s.pollScheduler with pollTurn := true } := by
  rw [retryStep] at htask ⊢
  split
  case h_1 mqttId hretry =>
    rw [hretry] at htask
    simp only at htask
    split at htask
    case isTrue => cases htask
    case isFalse hreturns =>
      rw [if_neg hreturns, setPollTurn, (attempts_tryDevice h tick mqttId).pollScheduler]
  case h_2 =>
    simp only [idleStep]
    split
    · rfl
    · split <;> rfl

lemma getFirstAttemptReady_retryStep (h : s.IsKeyed)
    (hfirst : s.initScheduler.getFirstAttemptReady tick.now = [])
    (htask : (s.retryStep tick).1.pollingTask = .running) :
    (s.retryStep tick).1.initScheduler.getFirstAttemptReady tick.now = [] := by
  rw [State.retryStep] at htask ⊢
  split
  case h_1 mqttId hretry =>
    rw [hretry] at htask
    simp only at htask
    split at htask
    case isTrue => cases htask
    case isFalse hreturns =>
      rw [if_neg hreturns, List.eq_nil_iff_forall_not_mem]
      rw [Bool.not_eq_true] at hreturns
      intro other hother
      obtain ⟨isDone, hscheduler⟩ := initScheduler_tryDevice h hreturns
      have hbefore : other ∈
          (s.tryDevice tick mqttId).1.initScheduler.getFirstAttemptReady tick.now := hother
      rw [hscheduler, mem_getFirstAttemptReady_attempt, hfirst] at hbefore
      exact absurd hbefore.2 List.not_mem_nil
  case h_2 =>
    simp only [idleStep]
    split
    · exact hfirst
    · split
      · exact hfirst
      · exact hfirst

/-- The steps that come before the next poll at most. -/
def untilPoll (s : State Id) : ℕ :=
  (if s.pollScheduler.pollTurn then 0 else 1) +
    if s.initScheduler.getFirstAttemptReady s.now = [] then 0 else 1

/-- Each step polls or brings the next poll closer. -/
lemma HasGear.polls_pollStep (h : s.HasGear device) (hinv : s.Inv s.now)
    (htakeOver : s.takeOver = none)
    (hrunning : s.pollingTask ≠ .none) (hle : s.now ≤ tick.now)
    (htask : (s.pollStep tick).1.pollingTask = .running) :
    2 * s.pollScheduler.polls + (s.pollStep tick).1.untilPoll + 1 ≤
      2 * (s.pollStep tick).1.pollScheduler.polls + s.untilPoll := by
  have hfirsts := hinv.punctual.getFirstAttemptReady_eq hle
  have hnext := (hinv.pollStep htakeOver hrunning hle).getFirstAttemptReady_eq
  have hkeyed : IsKeyed { s with now := tick.now } := h.isKeyed
  rw [untilPoll, untilPoll, hnext, ← hfirsts]
  rcases pollStep_cases htask with ⟨mqttId, mqttIds, hfirst, hreturns, heq⟩ |
    ⟨hfirst, hturn, -, heq⟩ | ⟨hfirst, hempty, heq⟩
  · -- the new devices are tried
    have hnone : (s.pollStep tick).1.initScheduler.getFirstAttemptReady tick.now = [] := by
      rw [heq, List.eq_nil_iff_forall_not_mem]
      intro other hother
      obtain ⟨hnot, hbefore⟩ := (mem_getFirstAttemptReady_tryDevices hkeyed hreturns).1 hother
      have hbefore' : other ∈ s.initScheduler.getFirstAttemptReady tick.now := hbefore
      rw [hfirst] at hbefore'
      exact hnot hbefore'
    have hpoll : (s.pollStep tick).1.pollScheduler = s.pollScheduler := by
      rw [heq]
      exact pollScheduler_tryDevices hkeyed
    rw [hnone, hpoll, if_pos rfl, hfirst, if_neg (List.cons_ne_nil _ _)]
    omega
  · obtain ⟨pollScheduler, -, hpolls, hset⟩ := exists_setDevices { s with now := tick.now }
    rw [hset] at heq
    have hpoll : (s.pollStep tick).1.pollScheduler.polls = s.pollScheduler.polls + 1 := by
      rw [heq]
      exact congrArg (· + 1) hpolls
    have hnone : (s.pollStep tick).1.initScheduler.getFirstAttemptReady tick.now = [] := by
      rw [heq]
      exact hfirst
    have hturn' : (if (s.pollStep tick).1.pollScheduler.pollTurn then 0 else 1) ≤ 1 := by
      split <;> omega
    rw [hpoll, hnone, hturn, if_pos rfl, if_pos rfl]
    omega
  · cases hturn : s.pollScheduler.pollTurn with
    | true =>
      have hsome := isEmpty_setDevices (s := { s with now := tick.now }) h.mem h.isInitialized
      rw [hempty hturn] at hsome
      cases hsome
    | false =>
      have hboth : (s.pollStep tick).1.pollScheduler.polls = s.pollScheduler.polls ∧
          (s.pollStep tick).1.pollScheduler.pollTurn = true ∧
            (s.pollStep tick).1.initScheduler.getFirstAttemptReady tick.now = [] := by
        rcases heq with heq | heq
        · obtain ⟨pollScheduler, -, hpolls, hset⟩ := exists_setDevices { s with now := tick.now }
          rw [hset] at heq
          have hkeyed' : IsKeyed { s with now := tick.now, pollScheduler } := h.isKeyed
          rw [heq] at htask ⊢
          rw [pollScheduler_retryStep hkeyed' htask]
          exact ⟨hpolls, rfl, getFirstAttemptReady_retryStep hkeyed' hfirst htask⟩
        · rw [heq] at htask ⊢
          rw [pollScheduler_retryStep hkeyed htask]
          exact ⟨rfl, rfl, getFirstAttemptReady_retryStep hkeyed hfirst htask⟩
      rw [hboth.1, hboth.2.1, hboth.2.2, if_pos rfl, if_pos rfl]
      simp

lemma HasGear.polls_run (h : s.HasGear device) (hinv : s.Inv s.now) (ticks : List Tick)
    (htask : s'.pollingTask = .running)
    (hrun : transition.run (fun _ _ => True) s (ticks.map Event.pollStep) = some s') :
    2 * s.pollScheduler.polls + ticks.length ≤ 2 * s'.pollScheduler.polls + s.untilPoll := by
  induction ticks generalizing s with
  | nil =>
    rw [← Option.some.inj hrun]
    exact Nat.le_add_right _ _
  | cons tick ticks ih =>
    obtain ⟨⟨hidle, hle⟩, hrest⟩ := run_cons_iff.1 hrun
    obtain ⟨hrunning, htakeOver⟩ := of_isIdle hidle
    have hrunning' : s.pollingTask ≠ .none := by simp [hrunning]
    have hstep := h.polls_pollStep hinv htakeOver hrunning' hle (running_of_run htask hrest)
    have hnext := ih (h.pollStep hle) (hinv.pollStep htakeOver hrunning' hle).end hrest
    rw [List.length_cons]
    omega

/-- While there is initialized gear on the bus, at least every second of the poll steps in a row
polls, but for two of them, whatever comes of the attempts of the other devices. -/
theorem length_le_polls (h : transition.Reachable s) (hmem : device ∈ s.daliDevices)
    (hinit : s.isInitialized device = true) (ticks : List Tick)
    (hrun : transition.run (fun _ _ => True) s (ticks.map Event.pollStep) = some s')
    (htask : s'.pollingTask = .running) :
    2 * s.pollScheduler.polls + ticks.length ≤ 2 * s'.pollScheduler.polls + 2 := by
  have hinv := Inv.of_reachable h
  have hgear : s.HasGear device := ⟨hinv.tracked.isKeyed, hmem, hinit⟩
  have huntil : s.untilPoll ≤ 2 := by
    rw [untilPoll]
    split <;> split <;> omega
  have hall := hgear.polls_run hinv ticks htask hrun
  omega

/-- The second gear is initialized, and the first one stays silent for 3 s each time. -/
def halfSilent (now : ℚ) : Tick :=
  { silent now with
    attempt := fun device => if device = 0 then (silent now).attempt 0 else ⟨.success, 1, false⟩ }

/-- The retries of the silent gear and the polls of the other one take turns. -/
theorem length_le_polls_halfSilent :
    ∃ s s' : State ℕ, 2 * s.pollScheduler.polls + 6 ≤ 2 * s'.pollScheduler.polls + 2 ∧
      (failures 0 s'.initScheduler.history).length = 4 := by
  let ticks : List Tick := [halfSilent 5, halfSilent 8, halfSilent 20, halfSilent 23,
    halfSilent 50, halfSilent 53]
  have hrun : (runThenPoll [.start 0, .pollStep (halfSilent 0)] ticks).any (fun (s, s') =>
      1 ∈ s.daliDevices ∧ s.isInitialized 1 = true ∧ s'.pollingTask = .running ∧
        (failures 0 s'.initScheduler.history).length = 4) = true := by
    decide +kernel
  obtain ⟨⟨s, s'⟩, hruns, hany⟩ := (Option.any_eq_true _ _).1 hrun
  obtain ⟨hmem, hinit, htask, hfailures⟩ := of_decide_eq_true hany
  obtain ⟨hreach, hpolls⟩ := of_runThenPoll hruns
  exact ⟨s, s', length_le_polls hreach hmem hinit ticks hpolls htask, hfailures⟩

end State

end WbMqttDali.PollStep
