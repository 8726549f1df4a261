import WbMqttDali.Controller.PollStep

/-!
# The invariant of the polling loop

Every step of the loop, every task and every change that a caller makes keeps track of the devices
that are still to be tried.
-/

namespace WbMqttDali.PollStep

open WbMqttDali.InitScheduler WbMqttDali.InitScheduler.DeviceInitScheduler

namespace State

variable {Id : Type} [DecidableEq Id] {s s' : State Id} {device : ℕ} {mqttId : Id} {now start : ℚ}
  {tick : Tick} {raises : Bool}

/-! ### The invariant in a step -/

lemma IsKeyed.begin (h : s.IsKeyed) :
    IsKeyed { s with initScheduler := s.initScheduler.begin mqttId now } := h

lemma attempts_tryDevice (h : s.IsKeyed) (tick : Tick) (mqttId : Id) :
    Attempts { s with initScheduler := s.initScheduler.begin mqttId s.now } mqttId tick.now
      (s.tryDevice tick mqttId).1 (s.tryDevice tick mqttId).2 :=
  attempts_doInitDevice h.begin mqttId tick.now tick.attempt

lemma sameBus_tryDevice (h : s.IsKeyed) (tick : Tick) (mqttId : Id) :
    s.SameBus (s.tryDevice tick mqttId).1 := by
  have hsame := (attempts_tryDevice h tick mqttId).sameBus
  exact ⟨hsame.daliDevices, hsame.dali2Devices, hsame.mqttId, hsame.devicesByMqttId, hsame.takeOver,
    hsame.le, hsame.isInitialized⟩

lemma IsKeyed.sameBus (h : s.IsKeyed) (hsame : s.SameBus s') : s'.IsKeyed := by
  intro mqttId device hget hinit
  rw [hsame.devicesByMqttId] at hget
  rw [hsame.mqttId]
  exact h mqttId device hget (hsame.of_false hinit)

/-- An attempt of the poll step that does not raise is one of the scheduler. -/
lemma initScheduler_tryDevice (h : s.IsKeyed) (hraises : (s.tryDevice tick mqttId).2 = false) :
    ∃ isDone, (s.tryDevice tick mqttId).1.initScheduler =
      s.initScheduler.attempt mqttId tick.now s.now isDone := by
  have hattempts := attempts_tryDevice h tick mqttId
  rw [hraises] at hattempts
  generalize (s.tryDevice tick mqttId).1 = s' at hattempts
  cases hattempts with
  | skips hdone => exact ⟨true, by rw [attempt, if_pos rfl]⟩
  | succeeds hget hinit duration raises => exact ⟨true, by rw [attempt, if_pos rfl]⟩
  | fails hget hinit isInitialized duration raises =>
    exact ⟨false, by rw [attempt, if_neg Bool.false_ne_true]⟩

lemma Inv.tryDevice (h : s.Inv tick.now) (htakeOver : s.takeOver = none)
    (hmay : MayTry mqttId tick.now s.initScheduler.history) :
    (s.tryDevice tick mqttId).1.Inv tick.now := by
  have hbegin : Inv { s with initScheduler := s.initScheduler.begin mqttId s.now } tick.now :=
    ⟨h.isRunning, ⟨h.tracked.nodup, h.tracked.live_nodup, h.tracked.isKeyed, h.tracked.pending⟩,
      h.createdPending,
      ⟨h.served.fetchScheduler, h.served.fetches, h.served.polls, h.served.nodup_polls⟩,
      h.punctual.begin (hmay.mono h.start_le), h.start_le⟩
  exact hbegin.attempts htakeOver (attempts_tryDevice h.tracked.isKeyed tick mqttId)

/-- The devices of a batch that does not raise have been tried then. -/
lemma mem_getFirstAttemptReady_tryDevices {mqttIds : List Id} {other : Id} (h : s.IsKeyed)
    (hraises : (tryDevices tick mqttIds s).2 = false) :
    other ∈ (tryDevices tick mqttIds s).1.initScheduler.getFirstAttemptReady tick.now ↔
      other ∉ mqttIds ∧ other ∈ s.initScheduler.getFirstAttemptReady tick.now := by
  induction mqttIds generalizing s with
  | nil => simp [tryDevices]
  | cons mqttId mqttIds ih =>
    rw [tryDevices] at hraises ⊢
    split at hraises
    case isTrue hraised =>
      rw [hraised] at hraises
      cases hraises
    case isFalse hraised =>
      rw [if_neg hraised]
      obtain ⟨isDone, hscheduler⟩ := initScheduler_tryDevice h (by simpa using hraised)
      refine (ih (h.sameBus (sameBus_tryDevice h tick mqttId)) hraises).trans ?_
      rw [hscheduler, mem_getFirstAttemptReady_attempt, List.mem_cons]
      tauto

/-- A batch leaves alone what its attempts leave alone. -/
lemma sameBus_tryDevices {mqttIds : List Id} (h : s.IsKeyed) :
    s.SameBus (tryDevices tick mqttIds s).1 := by
  induction mqttIds generalizing s with
  | nil => exact SameBus.refl
  | cons mqttId mqttIds ih =>
    have hsame := sameBus_tryDevice h tick mqttId
    rw [tryDevices]
    split
    · exact hsame
    · exact hsame.trans (ih (h.sameBus hsame))

lemma Inv.tryDevices (h : s.Inv tick.now) (htakeOver : s.takeOver = none) {mqttIds : List Id}
    (hnodup : mqttIds.Nodup)
    (hready : ∀ mqttId ∈ mqttIds, mqttId ∈ s.initScheduler.getFirstAttemptReady tick.now) :
    (tryDevices tick mqttIds s).1.Inv tick.now := by
  induction mqttIds generalizing s with
  | nil => exact h
  | cons mqttId mqttIds ih =>
    rw [List.nodup_cons] at hnodup
    have hkeyed := h.tracked.isKeyed
    have hfirst := h.tryDevice htakeOver
      (h.punctual.inv.mayTry_first (hready mqttId List.mem_cons_self))
    rw [State.tryDevices]
    split
    case isTrue => exact hfirst
    case isFalse hraised =>
      obtain ⟨isDone, hscheduler⟩ := initScheduler_tryDevice hkeyed (by simpa using hraised)
      apply ih hfirst ((sameBus_tryDevice hkeyed tick mqttId).takeOver.trans htakeOver) hnodup.2
      intro other hother
      rw [hscheduler, mem_getFirstAttemptReady_attempt]
      refine ⟨?_, hready other (List.mem_cons_of_mem _ hother)⟩
      rintro rfl
      exact hnodup.1 hother

lemma Inv.fail (h : s.Inv start) (htakeOver : s.takeOver = none) (htask : s.pollingTask ≠ .none) :
    s.fail.Inv start :=
  ⟨fun hsome => absurd htakeOver hsome,
    ⟨h.tracked.nodup, h.tracked.live_nodup, h.tracked.isKeyed, fun _ => h.tracked.pending htask⟩,
    h.createdPending,
    ⟨h.served.fetchScheduler, h.served.fetches, h.served.polls, h.served.nodup_polls⟩, h.punctual,
    h.start_le⟩

/-- A step changes nothing else when it polls or fetches. -/
lemma Inv.setSchedulers (h : s.Inv start) {pollScheduler : PollScheduler}
    {fetchScheduler : FetchScheduler.State}
    (hserved : Served { s with pollScheduler, fetchScheduler }) :
    Inv { s with pollScheduler, fetchScheduler } start :=
  ⟨h.isRunning, ⟨h.tracked.nodup, h.tracked.live_nodup, h.tracked.isKeyed, h.tracked.pending⟩,
    h.createdPending, hserved, h.punctual, h.start_le⟩

lemma Inv.setPollTurn (h : s.Inv start) (pollTurn : Bool) : (s.setPollTurn pollTurn).Inv start :=
  h.setSchedulers ⟨h.served.fetchScheduler, h.served.fetches, h.served.polls, h.served.nodup_polls⟩

lemma Inv.pollDevices (h : s.Inv start) (polled : ℕ) : (s.pollDevices polled).Inv start :=
  h.setSchedulers ⟨h.served.fetchScheduler, h.served.fetches, h.served.polls, h.served.nodup_polls⟩

lemma Inv.setDevices (h : s.Inv start) : s.setDevices.Inv start := by
  rw [State.setDevices]
  split
  case isTrue =>
    refine h.setSchedulers ⟨h.served.fetchScheduler, h.served.fetches, ?_, ?_⟩
    · intro device hdevice
      exact List.mem_filter.1 hdevice
    · exact (List.nodup_append.1 h.tracked.nodup).1.sublist List.filter_sublist
  case isFalse => exact h

omit [DecidableEq Id] in
/-- A fetch keeps to the entries there are. -/
lemma mem_entries_fetchStep {outcome : FetchScheduler.FetchOutcome}
    {entry : FetchScheduler.FetchEntry}
    (h : s.fetchScheduler.Inv) (hentry : entry ∈ (s.fetchScheduler.fetchStep outcome).1.entries) :
    entry ∈ s.fetchScheduler.entries := by
  cases hnext : s.fetchScheduler.next? with
  | none =>
    simp only [FetchScheduler.State.fetchStep, hnext] at hentry
    exact hentry
  | some other =>
    have hmem := FetchScheduler.State.entries_fetchStep outcome hnext h.nodup
    exact ((hmem.2 entry).1 hentry).1

lemma Inv.fetchStep (h : s.Inv start) (outcome : FetchScheduler.FetchOutcome) :
    Inv { s with fetchScheduler := (s.fetchScheduler.fetchStep outcome).1 } start := by
  refine h.setSchedulers ⟨h.served.fetchScheduler.fetchStep outcome, fun entry hentry => ?_,
    h.served.polls, h.served.nodup_polls⟩
  exact h.served.fetches entry (mem_entries_fetchStep h.served.fetchScheduler hentry)

lemma Inv.idleStep (h : s.Inv start) : (s.idleStep tick).1.Inv start := by
  have hturn := h.setPollTurn true
  simp only [State.idleStep]
  split
  · exact hturn
  · split
    · exact hturn.fetchStep tick.fetchOutcome
    · exact hturn

lemma pollingTask_tryDevice (h : s.IsKeyed) :
    (s.tryDevice tick mqttId).1.pollingTask = s.pollingTask :=
  (attempts_tryDevice h tick mqttId).pollingTask

lemma pollingTask_tryDevices {mqttIds : List Id} (h : s.IsKeyed) :
    (tryDevices tick mqttIds s).1.pollingTask = s.pollingTask := by
  induction mqttIds generalizing s with
  | nil => rfl
  | cons mqttId mqttIds ih =>
    rw [tryDevices]
    split
    · exact pollingTask_tryDevice h
    · exact (ih (h.sameBus (sameBus_tryDevice h tick mqttId))).trans (pollingTask_tryDevice h)

lemma Inv.retryStep (h : s.Inv tick.now) (htakeOver : s.takeOver = none)
    (htask : s.pollingTask ≠ .none) : (s.retryStep tick).1.Inv tick.now := by
  rw [State.retryStep]
  split
  case h_1 mqttId hretry =>
    have hinv := h.tryDevice htakeOver (h.punctual.inv.mayTry_retry hretry)
    have hkeyed := h.tracked.isKeyed
    split
    · exact hinv.fail ((sameBus_tryDevice hkeyed tick mqttId).takeOver.trans htakeOver)
        (by rwa [pollingTask_tryDevice hkeyed])
    · exact hinv.setPollTurn true
  case h_2 => exact h.idleStep

lemma Inv.pollStep (h : s.Inv s.now) (htakeOver : s.takeOver = none)
    (htask : s.pollingTask ≠ .none) (hle : s.now ≤ tick.now) :
    (s.pollStep tick).1.Inv tick.now := by
  have hnow : Inv { s with now := tick.now } tick.now := h.mono hle
  simp only [State.pollStep]
  split
  case h_1 mqttId mqttIds hfirst =>
    have hbatch : (State.tryDevices tick (mqttId :: mqttIds) { s with now := tick.now }).1.Inv
        tick.now := by
      refine hnow.tryDevices htakeOver ?_ fun other hother => ?_
      · rw [← hfirst]
        exact nodup_getFirstAttemptReady
      · rwa [← hfirst] at hother
    split
    · refine hbatch.fail ((sameBus_tryDevices hnow.tracked.isKeyed).takeOver.trans htakeOver) ?_
      rwa [pollingTask_tryDevices hnow.tracked.isKeyed]
    · exact hbatch
  case h_2 =>
    have hset : ({ s with now := tick.now } : State Id).setDevices.takeOver = none ∧
        ({ s with now := tick.now } : State Id).setDevices.pollingTask ≠ .none := by
      rw [State.setDevices]
      split
      · exact ⟨htakeOver, htask⟩
      · exact ⟨htakeOver, htask⟩
    split
    · split
      · split
        · exact (hnow.setDevices.pollDevices tick.polled).fail hset.1 hset.2
        · exact (hnow.setDevices.pollDevices tick.polled).setPollTurn false
      · exact hnow.setDevices.retryStep hset.1 hset.2
    · exact hnow.retryStep htakeOver htask

/-- What the parts of a poll step keep is kept by the step. -/
lemma pollStep_keeps {P : State Id → Prop} (hnow : P { s with now := tick.now })
    (htry : ∀ s mqttId, P s → P (s.tryDevice tick mqttId).1)
    (hfail : ∀ s, P s → P s.fail)
    (hpoll : ∀ (s : State Id) pollScheduler, P s → P { s with pollScheduler })
    (hfetch : ∀ (s : State Id) outcome, P s →
      P { s with fetchScheduler := (s.fetchScheduler.fetchStep outcome).1 }) :
    P (s.pollStep tick).1 := by
  have hidle (s : State Id) (h : P s) : P (s.idleStep tick).1 := by
    simp only [idleStep]
    split
    · exact hpoll _ _ h
    · split
      · exact hfetch _ _ (hpoll _ _ h)
      · exact hpoll _ _ h
  have hretry (s : State Id) (h : P s) : P (s.retryStep tick).1 := by
    rw [retryStep]
    split
    · split
      · exact hfail _ (htry _ _ h)
      · exact hpoll _ _ (htry _ _ h)
    · exact hidle s h
  have hset (s : State Id) (h : P s) : P s.setDevices := by
    rw [setDevices]
    split
    · exact hpoll _ _ h
    · exact h
  have hbatch (mqttIds : List Id) (s : State Id) (h : P s) : P (tryDevices tick mqttIds s).1 := by
    induction mqttIds generalizing s with
    | nil => exact h
    | cons mqttId mqttIds ih =>
      rw [tryDevices]
      split
      · exact htry s mqttId h
      · exact ih _ (htry s mqttId h)
  simp only [pollStep]
  split
  case h_1 mqttId mqttIds _ =>
    split
    · exact hfail _ (hbatch _ _ hnow)
    · exact hbatch _ _ hnow
  case h_2 =>
    split
    · split
      · split
        · exact hfail _ (hpoll _ _ (hset _ hnow))
        · exact hpoll _ _ (hpoll _ _ (hset _ hnow))
      · exact hretry _ (hset _ hnow)
    · exact hretry _ hnow

/-- A poll step leaves the devices and their index alone. -/
lemma sameBus_pollStep (h : s.IsKeyed) (hle : s.now ≤ tick.now) :
    s.SameBus (s.pollStep tick).1 ∧ (s.pollStep tick).1.IsKeyed := by
  have hset {t : State Id} (hsame : s.SameBus t) (hkeyed : t.IsKeyed)
    (pollScheduler : PollScheduler)
      (fetchScheduler : FetchScheduler.State) (pollingTask : PollingTask) :
      s.SameBus { t with pollScheduler, fetchScheduler, pollingTask } ∧
        IsKeyed { t with pollScheduler, fetchScheduler, pollingTask } :=
    ⟨⟨hsame.daliDevices, hsame.dali2Devices, hsame.mqttId, hsame.devicesByMqttId, hsame.takeOver,
      hsame.le, hsame.isInitialized⟩, hkeyed⟩
  apply pollStep_keeps (P := fun t => s.SameBus t ∧ t.IsKeyed)
  · exact ⟨⟨rfl, rfl, rfl, rfl, rfl, hle, fun _ => id⟩, h⟩
  · rintro t mqttId ⟨hsame, hkeyed⟩
    have hstep := sameBus_tryDevice hkeyed tick mqttId
    exact ⟨hsame.trans hstep, hkeyed.sameBus hstep⟩
  · rintro t ⟨hsame, hkeyed⟩
    exact hset hsame hkeyed t.pollScheduler t.fetchScheduler .failed
  · rintro t pollScheduler ⟨hsame, hkeyed⟩
    exact hset hsame hkeyed pollScheduler t.fetchScheduler t.pollingTask
  · rintro t outcome ⟨hsame, hkeyed⟩
    exact hset hsame hkeyed t.pollScheduler _ t.pollingTask

/-! ### The invariant in a task -/

lemma Inv.loadDeviceInfo (h : s.Inv s.now) (htakeOver : s.takeOver = none) (hle : s.now ≤ now)
    (attempt : Attempt) : (s.loadDeviceInfo device now attempt).Inv now := by
  have hnow : Inv { s with now } now := h.mono hle
  simp only [State.loadDeviceInfo]
  split
  case isTrue => exact hnow
  case isFalse =>
    exact hnow.attempts htakeOver
      (attempts_doInitDevice hnow.tracked.isKeyed (s.mqttId device) now fun _ => attempt)

/-- A device that is scheduled is pending, as are the others. -/
lemma mem_keys_schedule {scheduler : DeviceInitScheduler Id} {other : Id} :
    other ∈ (scheduler.schedule mqttId now).pending.keys ↔
      other = mqttId ∨ other ∈ scheduler.pending.keys := by
  rw [DeviceInitScheduler.schedule]
  split
  case isTrue hmem =>
    constructor
    · exact .inr
    · rintro (rfl | hmem')
      · exact hmem
      · exact hmem'
  case isFalse => exact Dict.mem_keys_set

/-- A new device in the index, before its first attempt. -/
def index (s : State Id) (device : ℕ) (now : ℚ) : State Id :=
  { s with
    now
    devicesByMqttId := s.devicesByMqttId.set (s.mqttId device) device
    initScheduler := s.initScheduler.schedule (s.mqttId device) now }

lemma IsKeyed.index (h : s.IsKeyed) : (s.index device now).IsKeyed := by
  intro key other hget hother
  simp only [State.index, Dict.get?_set] at hget
  split at hget
  case isTrue heq =>
    rw [← Option.some.inj hget, heq]
    rfl
  case isFalse => exact h key other hget hother

lemma get?_index : (s.index device now).devicesByMqttId.get? ((s.index device now).mqttId device) =
    some device :=
  Dict.get?_set_self _ _ _

/-- In the index a device is pending, and the devices of the bus stay so. -/
lemma Tracked.index (h : s.Tracked) : (s.index device now).Tracked := by
  refine ⟨h.nodup, h.live_nodup, h.isKeyed.index, fun htask other hother hget hinit => ?_⟩
  refine mem_keys_schedule.2 ?_
  by_cases heq : s.mqttId other = s.mqttId device
  · exact .inl heq
  · refine .inr (h.pending htask other hother ?_ hinit)
    rwa [State.index, Dict.get?_set_of_ne _ _ heq] at hget

lemma pending_index : s.mqttId device ∈ (s.index device now).initScheduler.pending.keys :=
  mem_keys_schedule.2 (.inl rfl)

lemma attempts_tryInitNewDevice (h : s.IsKeyed) (device : ℕ) (now : ℚ) (attempt : Attempt) :
    (s.index device now).Attempts (s.mqttId device) now (s.tryInitNewDevice device now attempt).1
      (s.tryInitNewDevice device now attempt).2 :=
  attempts_doInitDevice h.index (s.mqttId device) now fun _ => attempt

omit [DecidableEq Id] in
/-- The lists with a new one in the place of one of them, and what the take-over keeps. -/
lemma devices_setList_perm (s : State Id) (isDali : Bool) (devices : List ℕ) :
    (s.setList isDali devices).devices.Perm (s.list (!isDali) ++ devices) := by
  cases isDali with
  | true => exact List.perm_append_comm
  | false => exact List.Perm.refl _

omit [DecidableEq Id] in
lemma devices_perm (s : State Id) (isDali : Bool) :
    s.devices.Perm (s.list (!isDali) ++ s.list isDali) := by
  cases isDali with
  | true => exact List.perm_append_comm
  | false => exact List.Perm.refl _

omit [DecidableEq Id] in
lemma live_eq_devices (h : s.takeOver = none) : s.live = s.devices := by
  rw [live, h]

omit [DecidableEq Id] in
lemma live_of_takeOver {takeOver : TakeOver} (h : s.takeOver = some takeOver) :
    s.live = s.list (!takeOver.isDali) ++ (takeOver.unchanged ++ takeOver.created) := by
  rw [live, h]

open scoped List in
/-- The device comes into the list, into the index and to those that are to be tried. -/
lemma Inv.addDevice {isDali : Bool} {sorted : List ℕ} (h : s.Inv s.now)
    (htakeOver : s.takeOver = none) (hle : s.now ≤ now) (hnew : s.IsNew device)
    (hperm : sorted.Perm (device :: s.list isDali)) (attempt : Attempt) :
    (s.addDevice device isDali sorted now attempt).Inv now := by
  have hdevices : (s.setList isDali sorted).devices.Perm (device :: s.devices) :=
    calc (s.setList isDali sorted).devices
      _ ~ s.list (!isDali) ++ sorted := devices_setList_perm s isDali sorted
      _ ~ s.list (!isDali) ++ (device :: s.list isDali) := hperm.append_left _
      _ ~ device :: (s.list (!isDali) ++ s.list isDali) := List.perm_middle
      _ ~ device :: s.devices := (devices_perm s isDali).symm.cons device
  have hnodup : (s.setList isDali sorted).devices.Nodup := by
    rw [hdevices.nodup_iff, List.nodup_cons]
    exact ⟨hnew.1, h.tracked.nodup⟩
  have hlive : (s.setList isDali sorted).live = (s.setList isDali sorted).devices :=
    live_eq_devices htakeOver
  -- the device is listed, indexed and pending before it is tried
  have hinv : ((s.setList isDali sorted).index device now).Inv now := by
    refine ⟨fun hsome => absurd htakeOver hsome, ⟨hnodup, ?_, ?_, ?_⟩, ?_,
      ⟨h.served.fetchScheduler, h.served.fetches, ?_, h.served.nodup_polls⟩,
      (h.punctual.mono hle).schedule, le_rfl⟩
    · exact hlive ▸ hnodup
    · have hkeyed : (s.setList isDali sorted).IsKeyed := h.tracked.isKeyed
      exact hkeyed.index
    · intro htask other hother hget hinit
      have hmem : other ∈ device :: s.devices := by
        rw [← hdevices.mem_iff]
        exact hother.elim id fun hother => hlive ▸ hother
      refine mem_keys_schedule.2 ?_
      by_cases heq : s.mqttId other = s.mqttId device
      · exact .inl heq
      · refine .inr (h.tracked.pending htask other (.inl ?_) ?_ hinit)
        · refine (List.mem_cons.1 hmem).resolve_left ?_
          rintro rfl
          exact heq rfl
        · have hget' : (s.devicesByMqttId.set (s.mqttId device) device).get? (s.mqttId other) =
              some other := hget
          rwa [Dict.get?_set_of_ne _ _ heq] at hget'
    · intro takeOver hsome
      have hnone : s.takeOver = some takeOver := hsome
      rw [htakeOver] at hnone
      cases hnone
    · intro other hother
      obtain ⟨hdali, hinit⟩ := h.served.polls other hother
      refine ⟨?_, hinit⟩
      show other ∈ if isDali then sorted else s.daliDevices
      cases isDali with
      | true => exact hperm.mem_iff.2 (List.mem_cons_of_mem _ hdali)
      | false => exact hdali
  have hkeyed : (s.setList isDali sorted).IsKeyed := h.tracked.isKeyed
  exact hinv.attempts htakeOver (attempts_tryInitNewDevice hkeyed device now attempt)

omit [DecidableEq Id] in
/-- The scheduler polls no more devices when one is removed, and not the removed one. -/
lemma mem_removeDevice {scheduler : PollScheduler} {other : ℕ} (hnodup : scheduler.devices.Nodup)
    (h : other ∈ (scheduler.removeDevice device).devices) :
    other ∈ scheduler.devices ∧ other ≠ device := by
  simp only [PollScheduler.removeDevice] at h
  split at h
  case isTrue hmem =>
    rw [← List.erase_eq_eraseIdx_of_idxOf rfl, hnodup.mem_erase_iff] at h
    exact h.symm
  case isFalse hmem => exact ⟨h, fun heq => hmem (heq ▸ h)⟩

lemma mem_devices_removeDevice {other : ℕ} :
    other ∈ (s.removeDevice device).devices ↔ other ∈ s.devices ∧ other ≠ device := by
  simp only [devices, State.removeDevice, List.mem_append, List.mem_filter, decide_eq_true_eq]
  tauto

lemma nodup_removeDevice {scheduler : PollScheduler} (h : scheduler.devices.Nodup) :
    (scheduler.removeDevice device).devices.Nodup := by
  rw [PollScheduler.removeDevice]
  split
  · exact h.sublist (List.eraseIdx_sublist _ _)
  · exact h

/-- The pending devices behind the removal of an id. -/
lemma mem_keys_remove {scheduler : DeviceInitScheduler Id} {other : Id}
    (h : other ∈ scheduler.pending.keys) (hne : other ≠ mqttId) :
    other ∈ (scheduler.remove mqttId).pending.keys := by
  rw [Dict.mem_keys_iff] at h ⊢
  rwa [get?_remove_of_ne hne]

/-- An id that is not in the index any more need not be pending. -/
lemma get?_of_erase {index : Dict Id ℕ} {other : Id}
    (h : (index.erase mqttId).get? other = some device) :
    other ≠ mqttId ∧ index.get? other = some device := by
  rw [Dict.get?_erase] at h
  split at h
  case isTrue => cases h
  case isFalse hne => exact ⟨hne, h⟩

lemma Inv.removeDevice (h : s.Inv start) (htakeOver : s.takeOver = none) :
    (s.removeDevice device).Inv start := by
  have hnodup : (s.removeDevice device).devices.Nodup := by
    simp only [devices, State.removeDevice, ← List.filter_append]
    exact h.tracked.nodup.sublist List.filter_sublist
  have hlive : (s.removeDevice device).live = (s.removeDevice device).devices :=
    live_eq_devices htakeOver
  refine ⟨fun hsome => absurd htakeOver hsome, ⟨hnodup, hlive ▸ hnodup, ?_, ?_⟩, ?_,
    ⟨h.served.fetchScheduler.removeDevice device, ?_, ?_, nodup_removeDevice h.served.nodup_polls⟩,
    h.punctual.remove, h.start_le⟩
  · intro key other hget hinit
    exact h.tracked.isKeyed key other (get?_of_erase hget).2 hinit
  · intro htask other hother hget hinit
    obtain ⟨hne, hget⟩ := get?_of_erase hget
    rw [hlive, or_self] at hother
    exact mem_keys_remove
      (h.tracked.pending htask other (.inl (mem_devices_removeDevice.1 hother).1) hget hinit) hne
  · intro takeOver hsome
    have hnone : s.takeOver = some takeOver := hsome
    rw [htakeOver] at hnone
    cases hnone
  · intro entry hentry
    exact h.served.fetches entry (List.mem_filter.1 hentry).1
  · intro other hother
    obtain ⟨hmem, hne⟩ := mem_removeDevice h.served.nodup_polls hother
    obtain ⟨hdali, hinit⟩ := h.served.polls other hmem
    exact ⟨List.mem_filter.2 ⟨hdali, by simpa using hne⟩, hinit⟩

/-- An initialized device may have any id, as it is not to be tried. -/
lemma Inv.setMqttId (h : s.Inv start) (htakeOver : s.takeOver = none)
    (hinit : s.isInitialized device = true) :
    Inv { s with mqttId := Function.update s.mqttId device mqttId } start := by
  have hid {other : ℕ} (hother : s.isInitialized other = false) :
      Function.update s.mqttId device mqttId other = s.mqttId other := by
    refine Function.update_of_ne ?_ _ _
    rintro rfl
    rw [hinit] at hother
    cases hother
  refine ⟨h.isRunning, ⟨h.tracked.nodup, h.tracked.live_nodup, ?_, ?_⟩, ?_,
    ⟨h.served.fetchScheduler, h.served.fetches, h.served.polls, h.served.nodup_polls⟩, h.punctual,
    h.start_le⟩
  · intro key other hget hother
    exact (hid hother).trans (h.tracked.isKeyed key other hget hother)
  · intro htask other hmem hget hother
    have hget' : s.devicesByMqttId.get? (Function.update s.mqttId device mqttId other) =
        some other := hget
    show Function.update s.mqttId device mqttId other ∈ _
    rw [hid hother] at hget' ⊢
    exact h.tracked.pending htask other hmem hget' hother
  · intro takeOver hsome
    have hnone : s.takeOver = some takeOver := hsome
    rw [htakeOver] at hnone
    cases hnone

/-! ### The invariant in what callers do -/

lemma Inv.popIndex (h : s.Inv start) :
    Inv { s with devicesByMqttId := s.devicesByMqttId.erase mqttId } start := by
  refine ⟨h.isRunning, ⟨h.tracked.nodup, h.tracked.live_nodup, ?_, ?_⟩, h.createdPending,
    ⟨h.served.fetchScheduler, h.served.fetches, h.served.polls, h.served.nodup_polls⟩, h.punctual,
    h.start_le⟩
  · intro key other hget hinit
    exact h.tracked.isKeyed key other (get?_of_erase hget).2 hinit
  · intro htask other hother hget hinit
    exact h.tracked.pending htask other hother (get?_of_erase hget).2 hinit

lemma Inv.setIndex (h : s.Inv start) (hinit : s.isInitialized device = true) :
    Inv { s with devicesByMqttId := s.devicesByMqttId.set (s.mqttId device) device } start := by
  have hget_of {key : Id} {other : ℕ} (hother : s.isInitialized other = false)
      (hget : (s.devicesByMqttId.set (s.mqttId device) device).get? key = some other) :
      s.devicesByMqttId.get? key = some other := by
    rw [Dict.get?_set] at hget
    split at hget
    case isTrue =>
      rw [← Option.some.inj hget, hinit] at hother
      cases hother
    case isFalse => exact hget
  refine ⟨h.isRunning, ⟨h.tracked.nodup, h.tracked.live_nodup, ?_, ?_⟩, h.createdPending,
    ⟨h.served.fetchScheduler, h.served.fetches, h.served.polls, h.served.nodup_polls⟩, h.punctual,
    h.start_le⟩
  · intro key other hget hother
    exact h.tracked.isKeyed key other (hget_of hother hget) hother
  · intro htask other hmem hget hother
    exact h.tracked.pending htask other hmem (hget_of hother hget) hother

/-! ### The invariant in the take-over -/

lemma Inv.popDevice (h : s.Inv start) (htakeOver : s.takeOver = none) :
    (s.popDevice mqttId).Inv start := by
  refine ⟨h.isRunning, ⟨h.tracked.nodup, h.tracked.live_nodup, ?_, ?_⟩, ?_, ⟨?_, ?_, h.served.polls,
    h.served.nodup_polls⟩, h.punctual.remove, h.start_le⟩
  · intro key other hget hinit
    exact h.tracked.isKeyed key other (get?_of_erase hget).2 hinit
  · intro htask other hother hget hinit
    obtain ⟨hne, hget⟩ := get?_of_erase hget
    exact mem_keys_remove (h.tracked.pending htask other hother hget hinit) hne
  · intro takeOver hsome
    have hnone : s.takeOver = some takeOver := hsome
    rw [htakeOver] at hnone
    cases hnone
  · simp only [State.popDevice]
    split
    · exact h.served.fetchScheduler.removeDevice _
    · exact h.served.fetchScheduler
  · intro entry hentry
    apply h.served.fetches
    simp only [State.popDevice] at hentry
    split at hentry
    · exact (List.mem_filter.1 hentry).1
    · exact hentry

/-- What the removal of the ids leaves alone. -/
lemma exists_foldl_popDevice (mqttIds : List Id) :
    ∃ devicesByMqttId fetchScheduler initScheduler,
      mqttIds.foldl popDevice s =
        { s with devicesByMqttId, fetchScheduler, initScheduler } := by
  induction mqttIds generalizing s with
  | nil => exact ⟨_, _, _, rfl⟩
  | cons mqttId mqttIds ih =>
    obtain ⟨devicesByMqttId, fetchScheduler, initScheduler, heq⟩ := ih (s := s.popDevice mqttId)
    exact ⟨devicesByMqttId, fetchScheduler, initScheduler, heq⟩

lemma Inv.popDevices (h : s.Inv start) (htakeOver : s.takeOver = none) (mqttIds : List Id) :
    (mqttIds.foldl State.popDevice s).Inv start := by
  induction mqttIds generalizing s with
  | nil => exact h
  | cons mqttId mqttIds ih => exact ih (h.popDevice htakeOver) htakeOver

lemma Inv.beginTakeOver {isDali : Bool} {removed unchanged : List ℕ} (h : s.Inv start)
    (htask : s.pollingTask = .running) (htakeOver : s.takeOver = none)
    (hunchanged : unchanged.Sublist (s.list isDali)) :
    (s.beginTakeOver isDali removed unchanged).Inv start := by
  have hpopped := h.popDevices htakeOver (removed.map s.mqttId)
  obtain ⟨devicesByMqttId, fetchScheduler, initScheduler, heq⟩ :=
    exists_foldl_popDevice (s := s) (removed.map s.mqttId)
  rw [State.beginTakeOver]
  rw [heq] at hpopped ⊢
  have hlive : (s.list (!isDali) ++ (unchanged ++ [])).Sublist
      (s.list (!isDali) ++ s.list isDali) := by
    rw [List.append_nil]
    exact hunchanged.append_left _
  refine ⟨fun _ => htask, ⟨h.tracked.nodup, ?_, hpopped.tracked.isKeyed, ?_⟩, ?_,
    ⟨hpopped.served.fetchScheduler, hpopped.served.fetches, h.served.polls, h.served.nodup_polls⟩,
    hpopped.punctual, h.start_le⟩
  · exact ((devices_perm s isDali).nodup_iff.1 h.tracked.nodup).sublist hlive
  · intro htask device hdevice hget hinit
    refine hpopped.tracked.pending htask device (.inl ?_) hget hinit
    refine hdevice.elim id fun hdevice => ?_
    exact (devices_perm s isDali).mem_iff.2 (hlive.subset hdevice)
  · rintro _ ⟨⟩ mqttId device hfind
    cases hfind

/-- A device that is created is tried, and is one of the bus when the take-over goes through. -/
lemma Inv.tryCreated {takeOver : TakeOver} (h : s.Inv s.now) (hsome : s.takeOver = some takeOver)
    (hle : s.now ≤ now) (hnew : s.IsNew device) (attempt : Attempt) :
    (s.tryCreated takeOver device now attempt).Inv now := by
  have hattempts := attempts_tryInitNewDevice h.tracked.isKeyed device now attempt
  have htask := h.isRunning (by simp [hsome])
  rw [State.tryCreated]
  generalize s.tryInitNewDevice device now attempt = result at hattempts
  obtain ⟨s', raises⟩ := result
  have hsame : (s.index device now).SameBus s' := hattempts.sameBus
  have htracked : s'.Tracked := h.tracked.index.attempts hattempts
  have hserved : s'.Served := by
    have hindex : (s.index device now).Served :=
      ⟨h.served.fetchScheduler, h.served.fetches, h.served.polls, h.served.nodup_polls⟩
    exact hindex.attempts hattempts
  have hpunctual : s'.initScheduler.Punctual now := by
    have hindex : (s.index device now).initScheduler.Punctual now := (h.punctual.mono hle).schedule
    exact hattempts.punctual hindex
  have hpolling : s'.pollingTask = .running := hattempts.pollingTask.trans htask
  have hdevices : s'.devices = s.devices := hsame.devices
  have hlive : s'.live = s.list (!takeOver.isDali) ++ (takeOver.unchanged ++ takeOver.created) := by
    rw [hsame.live]
    exact live_of_takeOver hsome
  simp only
  split
  case isTrue =>
    -- the take-over is given up, so that the lists are as they were before
    refine ⟨fun hsome => absurd rfl hsome, ⟨htracked.nodup, htracked.nodup, htracked.isKeyed,
      fun hnone other hother hget hinit => ?_⟩, ?_,
        ⟨hserved.fetchScheduler, hserved.fetches, ?_, ?_⟩,
      hpunctual, hsame.le⟩
    · exact htracked.pending hnone other (.inl (hother.elim id id)) hget hinit
    · rintro _ ⟨⟩
    · exact fun _ hother => absurd hother List.not_mem_nil
    · exact List.nodup_nil
  case isFalse =>
    -- the device comes behind those that the take-over has created
    have hlist : s'.list (!takeOver.isDali) = s.list (!takeOver.isDali) := by
      rw [list, hsame.daliDevices, hsame.dali2Devices]
      rfl
    have hadded : s'.list (!takeOver.isDali) ++ (takeOver.unchanged ++
        (takeOver.created ++ [device])) = s'.live ++ [device] := by
      rw [hlist, hlive]
      simp only [List.append_assoc]
    have hget' : s'.devicesByMqttId.get? (s.mqttId device) = some device := by
      rw [hsame.devicesByMqttId]
      exact get?_index
    have hmqttId : s'.mqttId = s.mqttId := hsame.mqttId
    have hpending (hinit : s'.isInitialized device = false) :
        s.mqttId device ∈ s'.initScheduler.pending.keys :=
      hattempts.mem_keys get?_index hinit pending_index
    refine ⟨fun _ => hpolling, ⟨htracked.nodup, ?_, htracked.isKeyed, ?_⟩, ?_,
      ⟨hserved.fetchScheduler, hserved.fetches, hserved.polls, hserved.nodup_polls⟩, hpunctual,
      hsame.le⟩
    · show (s'.list (!takeOver.isDali) ++ (takeOver.unchanged ++
        (takeOver.created ++ [device]))).Nodup
      rw [hadded, List.nodup_append_comm, List.singleton_append, List.nodup_cons]
      refine ⟨?_, htracked.live_nodup⟩
      rw [hsame.live]
      exact hnew.2.1
    · intro hnone other hother hget hinit
      have hmem : other ∈ s'.devices ∨ other ∈ s'.live ∨ other = device := by
        refine hother.imp_right fun hother => ?_
        have hother' : other ∈ s'.list (!takeOver.isDali) ++ (takeOver.unchanged ++
            (takeOver.created ++ [device])) := hother
        rwa [hadded, List.mem_append, List.mem_singleton] at hother'
      -- a device waited before the attempt, or it is the one that was tried
      rcases hmem with hmem | hmem | rfl
      · exact htracked.pending hnone other (.inl hmem) hget hinit
      · exact htracked.pending hnone other (.inr hmem) hget hinit
      · show s'.mqttId other ∈ _
        rw [hmqttId]
        exact hpending hinit
    · rintro _ ⟨⟩ mqttId other hfind hinit
      simp only [List.reverse_append, List.reverse_cons, List.reverse_nil, List.nil_append,
        List.singleton_append, hmqttId, List.find?_cons] at hfind
      split at hfind
      case h_1 heq =>
        rw [decide_eq_true_iff] at heq
        rw [← Option.some.inj hfind] at hinit
        rw [← heq]
        exact hpending hinit
      case h_2 hne =>
        rw [decide_eq_false_iff_not] at hne
        refine hattempts.mem_keys_of_ne (Ne.symm hne) (mem_keys_schedule.2 (.inr ?_))
        exact h.createdPending takeOver hsome mqttId other hfind (hsame.of_false hinit)

/-- The devices of the bus are those that the take-over keeps and creates. -/
lemma Inv.replaceDevices {takeOver : TakeOver} {sorted : List ℕ} (h : s.Inv start)
    (hsome : s.takeOver = some takeOver)
    (hperm : sorted.Perm (takeOver.unchanged ++ takeOver.created)) :
    (s.replaceDevices takeOver sorted).Inv start := by
  have hdevices : (s.replaceDevices takeOver sorted).devices.Perm s.live := by
    rw [live_of_takeOver hsome]
    exact (devices_setList_perm s takeOver.isDali sorted).trans (hperm.append_left _)
  have hnodup := hdevices.nodup_iff.2 h.tracked.live_nodup
  -- the index has what it had, or a device that was created
  have hget {key : Id} {other : ℕ}
      (hget : (s.replaceDevices takeOver sorted).devicesByMqttId.get? key = some other) :
      s.devicesByMqttId.get? key = some other ∨
        (takeOver.created.reverse.find? fun device => s.mqttId device = key) = some other := by
    simp only [State.replaceDevices, endCommissioning] at hget
    split at hget
    case isTrue => exact .inl hget
    case isFalse =>
      rw [Dict.get?_foldl_set_last s.mqttId fun device => device] at hget
      cases hfind : takeOver.created.reverse.find? fun device => s.mqttId device = key with
      | none =>
        rw [hfind] at hget
        exact .inl hget
      | some found =>
        rw [hfind] at hget
        exact .inr hget
  refine ⟨fun hsome => absurd rfl hsome, ⟨hnodup, hnodup, ?_, ?_⟩, ?_,
    ⟨h.served.fetchScheduler, h.served.fetches, ?_, List.nodup_nil⟩, h.punctual, h.start_le⟩
  · intro key other hother hinit
    rcases hget hother with hold | hcreated
    · exact h.tracked.isKeyed key other hold hinit
    · have hid : s.mqttId other = key := by simpa using List.find?_some hcreated
      exact hid
  · intro hnone other hother hother' hinit
    rcases hget hother' with hold | hcreated
    · refine h.tracked.pending hnone other (.inr ?_) hold hinit
      exact hdevices.mem_iff.1 (hother.elim id id)
    · exact h.createdPending takeOver hsome _ other hcreated hinit
  · rintro _ ⟨⟩
  · exact fun _ hother => absurd hother List.not_mem_nil

lemma Inv.endCommissioning (h : s.Inv start) : s.endCommissioning.Inv start :=
  ⟨fun hsome => absurd rfl hsome,
    ⟨h.tracked.nodup, h.tracked.nodup, h.tracked.isKeyed, fun hnone device hdevice =>
      h.tracked.pending hnone device (.inl (hdevice.elim id id))⟩, fun _ hsome => (by cases hsome),
    ⟨h.served.fetchScheduler, h.served.fetches,
      fun _ hdevice => absurd hdevice List.not_mem_nil, List.nodup_nil⟩, h.punctual, h.start_le⟩

/-! ### The invariant at the start -/

/-- All the devices of the loop at the start. -/
lemma foldl_startDevice (devices : List ℕ) :
    devices.foldl startDevice s =
      { s with
        devicesByMqttId :=
          devices.foldl (fun index device => index.set (s.mqttId device) device) s.devicesByMqttId
        initScheduler :=
          devices.foldl (fun scheduler device => scheduler.schedule (s.mqttId device) s.now)
            s.initScheduler } := by
  induction devices generalizing s with
  | nil => rfl
  | cons device devices ih =>
    rw [List.foldl_cons, ih]
    rfl

/-- The devices that are scheduled are pending then. -/
lemma mem_keys_foldl_schedule {scheduler : DeviceInitScheduler Id} {id : ℕ → Id}
    {devices : List ℕ} (h : device ∈ devices ∨ id device ∈ scheduler.pending.keys) :
    id device ∈ (devices.foldl (fun scheduler device => scheduler.schedule (id device) now)
      scheduler).pending.keys := by
  induction devices generalizing scheduler with
  | nil => simpa using h
  | cons other devices ih =>
    apply ih
    rw [mem_keys_schedule]
    rcases h with hmem | hmem
    · rcases List.mem_cons.1 hmem with rfl | hrest
      · exact .inr (.inl rfl)
      · exact .inl hrest
    · exact .inr (.inr hmem)

lemma punctual_foldl_schedule {scheduler : DeviceInitScheduler Id} {id : ℕ → Id}
    (devices : List ℕ) (h : scheduler.Punctual now) :
    (devices.foldl (fun scheduler device => scheduler.schedule (id device) now)
      scheduler).Punctual now := by
  induction devices generalizing scheduler with
  | nil => exact h
  | cons device devices ih => exact ih h.schedule

/-- The index has what it had, or one of the given devices under its id. -/
lemma of_get?_foldl_set {index : Dict Id ℕ} {id : ℕ → Id} {devices : List ℕ}
    (h : (devices.foldl (fun index device => index.set (id device) device) index).get? mqttId =
      some device) : index.get? mqttId = some device ∨ device ∈ devices ∧ id device = mqttId := by
  rw [Dict.get?_foldl_set_last id fun device => device] at h
  cases hfind : devices.reverse.find? fun device => id device = mqttId with
  | none =>
    rw [hfind] at h
    exact .inl h
  | some found =>
    rw [hfind] at h
    cases Option.some.inj h
    exact .inr ⟨List.mem_reverse.1 (List.mem_of_find?_eq_some hfind),
      by simpa using List.find?_some hfind⟩

/-- The devices of a loop that starts are indexed and pending. -/
lemma Inv.restart (h : s.Inv s.now) (htask : s.pollingTask = .none) (hle : s.now ≤ now) :
    (s.start now).Inv now := by
  have htakeOver : s.takeOver = none := by
    by_contra hsome
    rw [h.isRunning hsome] at htask
    cases htask
  have hlive : s.live = s.devices := live_eq_devices htakeOver
  simp only [State.start, foldl_startDevice]
  refine ⟨fun hsome => absurd htakeOver hsome, ⟨h.tracked.nodup, h.tracked.live_nodup, ?_, ?_⟩, ?_,
    ⟨h.served.fetchScheduler, h.served.fetches, h.served.polls, h.served.nodup_polls⟩,
    punctual_foldl_schedule s.devices (h.punctual.mono hle), le_rfl⟩
  · intro key device hget hinit
    rcases of_get?_foldl_set hget with hold | ⟨-, hid⟩
    · exact h.tracked.isKeyed key device hold hinit
    · exact hid
  · intro _ device hdevice _ _
    have hmem : device ∈ s.devices := hdevice.elim id fun hdevice => hlive ▸ hdevice
    exact mem_keys_foldl_schedule (.inl hmem)
  · intro takeOver hsome
    have hnone : s.takeOver = some takeOver := hsome
    rw [htakeOver] at hnone
    cases hnone

lemma Inv.stop (h : s.Inv start) : s.stop.Inv start := by
  have hended : (if s.takeOver.isSome then s.endCommissioning else s).Inv start ∧
      (if s.takeOver.isSome then s.endCommissioning else s).takeOver = none := by
    split
    case isTrue => exact ⟨h.endCommissioning, rfl⟩
    case isFalse hnone => exact ⟨h, by simpa using hnone⟩
  rw [State.stop]
  generalize (if s.takeOver.isSome then s.endCommissioning else s) = s' at hended
  obtain ⟨hinv, htakeOver⟩ := hended
  refine ⟨fun hsome => absurd htakeOver hsome, ⟨hinv.tracked.nodup, hinv.tracked.live_nodup,
    hinv.tracked.isKeyed, fun hnone => absurd rfl hnone⟩, fun takeOver hsome => ?_,
    ⟨hinv.served.fetchScheduler, hinv.served.fetches, hinv.served.polls, hinv.served.nodup_polls⟩,
    hinv.punctual.clear, hinv.start_le⟩
  have hnone : s'.takeOver = some takeOver := hsome
  rw [htakeOver] at hnone
  cases hnone

/-! ### The invariant in a run -/

omit [DecidableEq Id] in
lemma of_isIdle (h : s.isIdle = true) : s.pollingTask = .running ∧ s.takeOver = none := by
  simpa [isIdle] using h

lemma Inv.init (h : transition.init s) : s.Inv s.now := by
  obtain ⟨daliDevices, dali2Devices, mqttId, handlers, isInitialized, now, hnodup, -, rfl⟩ := h
  exact ⟨fun hsome => absurd rfl hsome, ⟨hnodup, hnodup, fun key device hget => by simp at hget,
    fun hnone => absurd rfl hnone⟩, fun takeOver hsome => (by cases hsome),
    ⟨FetchScheduler.State.Inv.start, fun entry hentry => (by cases hentry),
      fun device hdevice => (by cases hdevice), List.nodup_nil⟩,
    DeviceInitScheduler.Punctual.start, le_rfl⟩

/-- In the end of a step or task its start does not matter. -/
lemma Inv.end (h : s.Inv start) : s.Inv s.now :=
  ⟨h.isRunning, h.tracked, h.createdPending, h.served, h.punctual.mono h.start_le, le_rfl⟩

lemma Inv.step {event : Event Id} (h : s.Inv s.now) (hstep : transition.step s event = some s') :
    s'.Inv s'.now := by
  cases event with
  | start now =>
    obtain ⟨⟨htask, hle⟩, rfl⟩ : (s.pollingTask = .none ∧ s.now ≤ now) ∧ s.start now = s' := by
      simpa [transition] using hstep
    exact (h.restart htask hle).end
  | stop =>
    cases hstep
    exact h.stop.end
  | pollStep tick =>
    obtain ⟨⟨hidle, hle⟩, rfl⟩ :
        (s.isIdle = true ∧ s.now ≤ tick.now) ∧ (s.pollStep tick).1 = s' := by
      simpa [transition] using hstep
    obtain ⟨htask, htakeOver⟩ := of_isIdle hidle
    exact (h.pollStep htakeOver (by simp [htask]) hle).end
  | loadDeviceInfo device now attempt =>
    obtain ⟨⟨hidle, hle⟩, rfl⟩ :
        (s.isIdle = true ∧ s.now ≤ now) ∧ s.loadDeviceInfo device now attempt = s' := by
      simpa [transition] using hstep
    exact (h.loadDeviceInfo (of_isIdle hidle).2 hle attempt).end
  | addDevice device isDali sorted now attempt =>
    obtain ⟨⟨hidle, hle, hnew, hperm⟩, rfl⟩ :
        (s.isIdle = true ∧ s.now ≤ now ∧ s.IsNew device ∧ sorted.Perm (device :: s.list isDali)) ∧
          s.addDevice device isDali sorted now attempt = s' := by
      simpa [transition] using hstep
    exact (h.addDevice (of_isIdle hidle).2 hle hnew hperm attempt).end
  | removeDevice device =>
    obtain ⟨hidle, rfl⟩ : s.isIdle = true ∧ s.removeDevice device = s' := by
      simpa [transition] using hstep
    exact h.removeDevice (of_isIdle hidle).2
  | setMqttId device mqttId =>
    obtain ⟨⟨hidle, hinit⟩, rfl⟩ : (s.isIdle = true ∧ s.isInitialized device = true) ∧
        { s with mqttId := Function.update s.mqttId device mqttId } = s' := by
      simpa [transition] using hstep
    exact h.setMqttId (of_isIdle hidle).2 hinit
  | loaded device number =>
    cases hstep
    exact h.setSchedulers
      ⟨⟨h.served.fetchScheduler.nodup, h.served.fetchScheduler.mem_iff,
        h.served.fetchScheduler.fetches⟩, h.served.fetches, h.served.polls, h.served.nodup_polls⟩
  | beginTakeOver isDali removed unchanged =>
    obtain ⟨⟨hidle, -, hunchanged⟩, rfl⟩ :
        (s.isIdle = true ∧ removed ⊆ s.list isDali ∧ unchanged.Sublist (s.list isDali)) ∧
          s.beginTakeOver isDali removed unchanged = s' := by
      simpa [transition] using hstep
    obtain ⟨htask, htakeOver⟩ := of_isIdle hidle
    exact (h.beginTakeOver htask htakeOver hunchanged).end
  | tryCreated device now attempt =>
    obtain ⟨takeOver, hsome, ⟨hle, hnew⟩, rfl⟩ : ∃ takeOver, s.takeOver = some takeOver ∧
        (s.now ≤ now ∧ s.IsNew device) ∧ s.tryCreated takeOver device now attempt = s' := by
      simpa [transition, Option.bind_eq_some_iff] using hstep
    exact (h.tryCreated hsome hle hnew attempt).end
  | replaceDevices sorted =>
    obtain ⟨takeOver, hsome, hperm, rfl⟩ : ∃ takeOver, s.takeOver = some takeOver ∧
        sorted.Perm (takeOver.unchanged ++ takeOver.created) ∧
          s.replaceDevices takeOver sorted = s' := by
      simpa [transition, Option.bind_eq_some_iff] using hstep
    exact (h.replaceDevices hsome hperm).end
  | endCommissioning =>
    obtain ⟨-, rfl⟩ : s.pollingTask = .running ∧ s.endCommissioning = s' := by
      simpa [transition] using hstep
    exact h.endCommissioning
  | popIndex mqttId =>
    cases hstep
    exact h.popIndex
  | setIndex device =>
    obtain ⟨hinit, rfl⟩ : s.isInitialized device = true ∧
        { s with devicesByMqttId := s.devicesByMqttId.set (s.mqttId device) device } = s' := by
      simpa [transition] using hstep
    exact h.setIndex hinit

lemma Inv.of_reachable (h : transition.Reachable s) : s.Inv s.now :=
  h.invariant (I := fun s => s.Inv s.now) (fun _ => Inv.init) fun _ _ _ hinv _ hstep =>
    hinv.step hstep

/-! ### Who is tried, polled and fetched -/

/-- In every run of the loop each device of the bus that is not initialized, and that the index
has under its MQTT id, is to be tried again, and is due then at the latest behind the delay of its
failures in a row, which is 60 s at most. -/
theorem uninitialized_pending (h : transition.Reachable s) (htask : s.pollingTask ≠ .none)
    (hmem : device ∈ s.devices)
    (hindex : s.devicesByMqttId.get? (s.mqttId device) = some device)
    (hinit : s.isInitialized device = false) :
    ∃ state, s.initScheduler.pending.get? (s.mqttId device) = some state ∧
      state.retryDelay = backoff (failures (s.mqttId device) s.initScheduler.history).length ∧
      state.nextRetryTime ≤ s.now + state.retryDelay ∧ state.retryDelay ≤ 60 := by
  have hinv := Inv.of_reachable h
  obtain ⟨state, hget⟩ :=
    Dict.mem_keys_iff.1 (hinv.tracked.pending htask device (.inl hmem) hindex hinit)
  have hdelay := hinv.punctual.inv.retryDelay _ state hget
  refine ⟨state, hget, hdelay, hinv.punctual.due _ state hget, ?_⟩
  rw [hdelay]
  exact backoff_le _

/-- Two gear and a DALI-2 device with two settings each. -/
def configured : State ℕ where
  daliDevices := [0, 1]
  dali2Devices := [2]
  mqttId := fun device => device
  handlers := fun _ => ⟨[⟨0, .maxLevel⟩, ⟨1, .minLevel⟩], by decide⟩
  isInitialized := fun _ => false
  now := 0

lemma init_configured : transition.init configured :=
  ⟨[0, 1], [2], _, _, _, 0, by decide, fun _ _ => rfl, rfl⟩

/-- A step at which the gear is silent for 3 s each, and the DALI-2 device answers at once. -/
def silent (now : ℚ) : Tick where
  now := now
  attempt device := if device < 2 then ⟨.initializeFails, 3, false⟩ else ⟨.success, 0, false⟩
  polled := 1
  timeUntilNextPoll := 1
  fetchOutcome := .raises

/-- Both gear are silent; then commissioning is cancelled behind the removal of the second one,
before a new one is tried. -/
def cancelledTakeOver : List (Event ℕ) :=
  [.start 0, .pollStep (silent 0), .beginTakeOver true [1] [0],
    .tryCreated 3 20 ⟨.initializeFails, 3, false⟩, .endCommissioning]

theorem uninitialized_pending_cancelledTakeOver :
    ∃ s : State ℕ, s.devices = [0, 1, 2] ∧
      ∃ state, s.initScheduler.pending.get? 0 = some state ∧
        state.retryDelay = backoff (failures 0 s.initScheduler.history).length ∧
        state.nextRetryTime ≤ s.now + state.retryDelay ∧ state.retryDelay ≤ 60 := by
  have hrun : (transition.run (fun _ _ => True) configured cancelledTakeOver).any (fun s =>
      s.pollingTask ≠ .none ∧ s.devices = [0, 1, 2] ∧ s.mqttId 0 = 0 ∧
        s.devicesByMqttId.get? 0 = some 0 ∧ s.isInitialized 0 = false) = true := by
    decide +kernel
  obtain ⟨s, hs, hany⟩ := (Option.any_eq_true _ _).1 hrun
  obtain ⟨htask, hdevices, hid, hindex, hinit⟩ := of_decide_eq_true hany
  have hmem : 0 ∈ s.devices := by simp [hdevices]
  have hpending := uninitialized_pending ((Transition.Reach.init init_configured).run hs) htask
    hmem (by rwa [hid]) hinit
  rw [hid] at hpending
  exact ⟨s, hdevices, hpending⟩

/-- The second gear is a device of the bus all the same, and is not tried any more. -/
theorem exists_uninitialized_not_pending :
    ∃ s : State ℕ, transition.Reachable s ∧ s.isIdle = true ∧
      ∃ device ∈ s.devices, s.isInitialized device = false ∧
        s.mqttId device ∉ s.initScheduler.pending.keys := by
  have hrun : (transition.run (fun _ _ => True) configured cancelledTakeOver).any (fun s =>
      s.isIdle ∧ 1 ∈ s.devices ∧ s.isInitialized 1 = false ∧
        s.mqttId 1 ∉ s.initScheduler.pending.keys) = true := by
    decide +kernel
  obtain ⟨s, hs, hany⟩ := (Option.any_eq_true _ _).1 hrun
  obtain ⟨hidle, hmem, hinit, hnot⟩ := of_decide_eq_true hany
  exact ⟨s, (Transition.Reach.init init_configured).run hs, hidle, 1, hmem, hinit, hnot⟩

/-- In every run a device that has failed is not tried by the poll steps before the delay of its
failures in a row is over, counted from the start of the step or task in which it failed last. -/
theorem respectsDelays (h : transition.Reachable s) : RespectsDelays s.initScheduler.history :=
  (Inv.of_reachable h).punctual.delays

/-- The first gear has failed at 3, in the step that began at 0, and is tried again at 6. -/
theorem respectsDelays_silent :
    ∃ s : State ℕ, RespectsDelays s.initScheduler.history ∧ s.now = 9 ∧
      s.initScheduler.pending.get? 0 = some ⟨16, 10⟩ := by
  have hrun : (transition.run (fun _ _ => True) configured
      [.start 0, .pollStep (silent 0), .pollStep (silent 6)]).any (fun s =>
        s.now = 9 ∧ s.initScheduler.pending.get? 0 = some ⟨16, 10⟩) = true := by
    decide +kernel
  obtain ⟨s, hs, hany⟩ := (Option.any_eq_true _ _).1 hrun
  exact ⟨s, respectsDelays ((Transition.Reach.init init_configured).run hs), of_decide_eq_true hany⟩

end State

end WbMqttDali.PollStep
