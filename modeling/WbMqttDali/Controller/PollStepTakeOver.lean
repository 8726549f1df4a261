import WbMqttDali.Controller.PollStepInvariant

/-!
# Take-overs that go through

As long as no take-over of the devices that commissioning has found is interrupted, the loop has to
do with devices of the bus only.
-/

namespace WbMqttDali.PollStep

open WbMqttDali.InitScheduler WbMqttDali.InitScheduler.DeviceInitScheduler

namespace State

variable {Id : Type} [DecidableEq Id] {s s' : State Id} {device : ℕ} {mqttId : Id} {now start : ℚ}
  {tick : Tick} {raises : Bool}

/-- A take-over that is begun goes through, and each device that it does not keep is removed under
the id that the index has it under. -/
def Orderly (s : State Id) : Event Id → Prop
  | .beginTakeOver isDali removed unchanged =>
    ∀ device ∈ s.list isDali, device ∈ unchanged ∨
      device ∈ removed ∧ s.devicesByMqttId.get? (s.mqttId device) = some device
  | .tryCreated _ _ attempt =>
    attempt.raises = false ∧ attempt.outcome ≠ .cancelled false ∧
      attempt.outcome ≠ .cancelled true
  | .endCommissioning | .stop => s.takeOver = none
  | _ => True

instance : DecidablePred s.Orderly := fun event =>
  match event with
  | .beginTakeOver _ _ _ => inferInstanceAs (Decidable (∀ _ ∈ _, _ ∨ _ ∧ _))
  | .tryCreated _ _ _ => inferInstanceAs (Decidable (_ ∧ _ ∧ _))
  | .endCommissioning | .stop => decidable_of_iff (s.takeOver.isNone = true) (by simp [Orderly])
  | .start _ | .pollStep _ | .loadDeviceInfo _ _ _ | .addDevice _ _ _ _ _ | .removeDevice _
  | .setMqttId _ _ | .loaded _ _ | .replaceDevices _ | .popIndex _ | .setIndex _ =>
    inferInstanceAs (Decidable True)

/-- Settings are fetched of the given devices only, and only they can still be initialized. -/
structure Within (s : State Id) (bus : List ℕ) : Prop where
  fetches : ∀ entry ∈ s.fetchScheduler.entries, entry.device ∈ bus
  indexed : ∀ mqttId device, s.devicesByMqttId.get? mqttId = some device →
    s.isInitialized device = false → device ∈ bus

lemma Within.mono {bus bus' : List ℕ} (h : s.Within bus) (hsubset : bus ⊆ bus') : s.Within bus' :=
  ⟨fun entry hentry => hsubset (h.fetches entry hentry),
    fun key device hget hinit => hsubset (h.indexed key device hget hinit)⟩

lemma Within.attempts {bus : List ℕ} (h : s.Within bus)
    (hattempts : s.Attempts mqttId start s' raises) : s'.Within bus := by
  have hsame := hattempts.sameBus
  refine ⟨fun entry hentry => ?_, fun key device hget hinit => ?_⟩
  · rcases hattempts.mem_entries hentry with hold | ⟨hget, hinit, -⟩
    · exact h.fetches entry hold
    · exact h.indexed mqttId entry.device hget hinit
  · rw [hsame.devicesByMqttId] at hget
    exact h.indexed key device hget (hsame.of_false hinit)

lemma Within.setScheduler {bus : List ℕ} {initScheduler : DeviceInitScheduler Id}
    (h : s.Within bus) : Within { s with initScheduler } bus :=
  ⟨h.fetches, h.indexed⟩

/-- A step of the loop keeps to the devices. -/
lemma Within.tryDevice {bus : List ℕ} (h : s.Within bus) (hkeyed : s.IsKeyed) :
    (s.tryDevice tick mqttId).1.Within bus :=
  h.setScheduler.attempts (attempts_tryDevice hkeyed tick mqttId)

lemma Within.pollStep {bus : List ℕ} (h : s.Within bus) (hkeyed : s.IsKeyed)
    (hfetch : s.fetchScheduler.Inv) : (s.pollStep tick).1.Within bus := by
  have hall : (s.pollStep tick).1.Within bus ∧ (s.pollStep tick).1.IsKeyed ∧
      (s.pollStep tick).1.fetchScheduler.Inv := by
    apply pollStep_keeps
      (P := fun t => t.Within bus ∧ t.IsKeyed ∧ t.fetchScheduler.Inv)
    · exact ⟨⟨h.fetches, h.indexed⟩, hkeyed, hfetch⟩
    · rintro t mqttId ⟨h, hkeyed, hfetch⟩
      exact ⟨h.tryDevice hkeyed, hkeyed.sameBus (sameBus_tryDevice hkeyed tick mqttId),
        (attempts_tryDevice hkeyed tick mqttId).fetchScheduler hfetch⟩
    · rintro t ⟨h, hkeyed, hfetch⟩
      exact ⟨⟨h.fetches, h.indexed⟩, hkeyed, hfetch⟩
    · rintro t pollScheduler ⟨h, hkeyed, hfetch⟩
      exact ⟨⟨h.fetches, h.indexed⟩, hkeyed, hfetch⟩
    · rintro t outcome ⟨h, hkeyed, hfetch⟩
      exact ⟨⟨fun entry hentry => h.fetches entry (mem_entries_fetchStep hfetch hentry), h.indexed⟩,
        hkeyed, hfetch.fetchStep outcome⟩
  exact hall.1

lemma Within.index {bus : List ℕ} (h : s.Within bus) :
    (s.index device now).Within (device :: bus) := by
  refine ⟨fun entry hentry => List.mem_cons_of_mem _ (h.fetches entry hentry),
    fun key other hget hinit => ?_⟩
  simp only [State.index, Dict.get?_set] at hget
  split at hget
  case isTrue =>
    rw [← Option.some.inj hget]
    exact List.mem_cons_self
  case isFalse => exact List.mem_cons_of_mem _ (h.indexed key other hget hinit)

lemma Within.tryInitNewDevice {bus : List ℕ} (h : s.Within bus) (hkeyed : s.IsKeyed)
    (device : ℕ) (now : ℚ) (attempt : Attempt) :
    (s.tryInitNewDevice device now attempt).1.Within (device :: bus) :=
  h.index.attempts (attempts_tryInitNewDevice hkeyed device now attempt)

/-- The removal of ids takes their devices with their settings out of the loop. -/
lemma of_foldl_popDevice (mqttIds : List Id) :
    (∀ mqttId device, (mqttIds.foldl popDevice s).devicesByMqttId.get? mqttId = some device →
      mqttId ∉ mqttIds ∧ s.devicesByMqttId.get? mqttId = some device) ∧
    ∀ entry ∈ (mqttIds.foldl popDevice s).fetchScheduler.entries,
      entry ∈ s.fetchScheduler.entries ∧
        ∀ mqttId ∈ mqttIds, s.devicesByMqttId.get? mqttId ≠ some entry.device := by
  induction mqttIds generalizing s with
  | nil => exact ⟨fun _ _ hget => ⟨List.not_mem_nil, hget⟩, fun _ hentry => ⟨hentry, nofun⟩⟩
  | cons first mqttIds ih =>
    obtain ⟨hindex, hentries⟩ := ih (s := s.popDevice first)
    constructor
    · intro mqttId device hget
      obtain ⟨hnot, hpopped⟩ := hindex mqttId device hget
      obtain ⟨hne, hget⟩ := get?_of_erase hpopped
      exact ⟨fun hmem => (List.mem_cons.1 hmem).elim hne hnot, hget⟩
    · intro entry hentry
      obtain ⟨hpopped, hnot⟩ := hentries entry hentry
      have hfirst : entry ∈ s.fetchScheduler.entries ∧
          s.devicesByMqttId.get? first ≠ some entry.device := by
        simp only [State.popDevice] at hpopped
        split at hpopped
        case h_1 device hget =>
          obtain ⟨hold, hne⟩ := List.mem_filter.1 hpopped
          refine ⟨hold, fun hsome => ?_⟩
          rw [hget, Option.some.injEq] at hsome
          simp [hsome] at hne
        case h_2 hnone =>
          refine ⟨hpopped, fun hsome => ?_⟩
          rw [hnone] at hsome
          cases hsome
      refine ⟨hfirst.1, fun mqttId hmem hsome => ?_⟩
      by_cases heq : mqttId = first
      · rw [heq] at hsome
        exact hfirst.2 hsome
      · refine hnot mqttId ((List.mem_cons.1 hmem).resolve_left heq) ?_
        exact (Dict.get?_erase_of_ne _ heq).trans hsome

lemma Within.beginTakeOver {isDali : Bool} {removed unchanged : List ℕ} (h : s.Within s.live)
    (htakeOver : s.takeOver = none) (hkeyed : s.IsKeyed)
    (horderly : ∀ device ∈ s.list isDali, device ∈ unchanged ∨
      device ∈ removed ∧ s.devicesByMqttId.get? (s.mqttId device) = some device) :
    Within (s.beginTakeOver isDali removed unchanged)
      (s.beginTakeOver isDali removed unchanged).live := by
  obtain ⟨hindex, hentries⟩ := of_foldl_popDevice (s := s) (removed.map s.mqttId)
  obtain ⟨devicesByMqttId, fetchScheduler, initScheduler, heq⟩ :=
    exists_foldl_popDevice (s := s) (removed.map s.mqttId)
  rw [State.beginTakeOver]
  rw [heq] at hindex hentries ⊢
  -- what leaves the list is not in the index any more
  have hmem {device : ℕ} (hdevice : device ∈ s.live)
      (hnot : ∀ mqttId ∈ removed.map s.mqttId, s.devicesByMqttId.get? mqttId ≠ some device) :
      device ∈ s.list (!isDali) ++ (unchanged ++ []) := by
    rw [live_eq_devices htakeOver, (devices_perm s isDali).mem_iff] at hdevice
    rcases List.mem_append.1 hdevice with hother | hlist
    · exact List.mem_append_left _ hother
    · rcases horderly device hlist with hkept | ⟨hremoved, hget⟩
      · exact List.mem_append_right _ (List.mem_append_left _ hkept)
      · exact absurd hget (hnot _ (List.mem_map_of_mem hremoved))
  refine ⟨fun entry hentry => ?_, fun key device hget hinit => ?_⟩
  · obtain ⟨hold, hnot⟩ := hentries entry hentry
    exact hmem (h.fetches entry hold) hnot
  · obtain ⟨hkey, hold⟩ := hindex key device hget
    refine hmem (h.indexed key device hold hinit) fun mqttId hmqttId hsome => hkey ?_
    have hsame := hkeyed key device hold hinit
    rw [hkeyed mqttId device hsome hinit] at hsame
    rwa [← hsame]

/-- An attempt that does not raise leaves the rest of the take-over to be done. -/
lemma doInitDevice_snd {attempt : Attempt} (hraises : attempt.raises = false)
    (hfalse : attempt.outcome ≠ .cancelled false) (htrue : attempt.outcome ≠ .cancelled true) :
    (s.doInitDevice mqttId start fun _ => attempt).2 = false := by
  rw [doInitDevice]
  split
  · rfl
  · split
    · rfl
    · rw [tryInitializeDevice]
      cases houtcome : attempt.outcome with
      | cancelled isInitialized => cases isInitialized <;> simp_all
      | success | initializeFails | publishFails => simpa using hraises

lemma Within.endCommissioning (h : s.Within s.live) (htakeOver : s.takeOver = none) :
    Within s.endCommissioning s.endCommissioning.live := by
  have hlive : s.endCommissioning.live = s.live := (live_eq_devices htakeOver).symm
  rw [hlive]
  exact ⟨h.fetches, h.indexed⟩

lemma Within.step {event : Event Id} (hinv : s.Inv s.now) (h : s.Within s.live)
    (horderly : s.Orderly event) (hstep : transition.step s event = some s') :
    s'.Within s'.live := by
  have hkeyed := hinv.tracked.isKeyed
  cases event with
  | start now =>
    obtain ⟨⟨htask, -⟩, rfl⟩ : (s.pollingTask = .none ∧ s.now ≤ now) ∧ s.start now = s' := by
      simpa [transition] using hstep
    have htakeOver : s.takeOver = none := by
      by_contra hsome
      rw [hinv.isRunning hsome] at htask
      cases htask
    simp only [State.start, foldl_startDevice]
    refine ⟨h.fetches, fun key device hget hinit => ?_⟩
    -- the start puts the listed devices into the index
    rcases of_get?_foldl_set hget with hold | ⟨hmem, -⟩
    · exact h.indexed key device hold hinit
    · show device ∈ s.live
      rw [live_eq_devices htakeOver]
      exact hmem
  | stop =>
    cases hstep
    have htakeOver : s.takeOver = none := horderly
    rw [State.stop, htakeOver]
    exact ⟨h.fetches, h.indexed⟩
  | pollStep tick =>
    obtain ⟨⟨-, hle⟩, rfl⟩ : (s.isIdle = true ∧ s.now ≤ tick.now) ∧ (s.pollStep tick).1 = s' := by
      simpa [transition] using hstep
    rw [(sameBus_pollStep hkeyed hle).1.live]
    exact h.pollStep hkeyed hinv.served.fetchScheduler
  | loadDeviceInfo device now attempt =>
    obtain ⟨-, rfl⟩ : (s.isIdle = true ∧ s.now ≤ now) ∧
      s.loadDeviceInfo device now attempt = s' := by
      simpa [transition] using hstep
    have hnow : Within { s with now } s.live := ⟨h.fetches, h.indexed⟩
    simp only [State.loadDeviceInfo]
    split
    case isTrue => exact hnow
    case isFalse =>
      have hattempts := attempts_doInitDevice (s := { s with now }) hkeyed (s.mqttId device) now
        fun _ => attempt
      rw [hattempts.sameBus.live]
      exact hnow.attempts hattempts
  | addDevice device isDali sorted now attempt =>
    obtain ⟨⟨hidle, -, -, hperm⟩, rfl⟩ :
        (s.isIdle = true ∧ s.now ≤ now ∧ s.IsNew device ∧ sorted.Perm (device :: s.list isDali)) ∧
          s.addDevice device isDali sorted now attempt = s' := by
      simpa [transition] using hstep
    have htakeOver := (of_isIdle hidle).2
    have hlists : (s.setList isDali sorted).Within s.live := ⟨h.fetches, h.indexed⟩
    have hkeyed' : (s.setList isDali sorted).IsKeyed := hkeyed
    have hsame := (attempts_tryInitNewDevice hkeyed' device now attempt).sameBus
    refine (hlists.tryInitNewDevice hkeyed' device now attempt).mono ?_
    have hlive : (s.addDevice device isDali sorted now attempt).live =
        (s.setList isDali sorted).devices := hsame.live.trans (live_eq_devices htakeOver)
    rw [hlive, live_eq_devices htakeOver]
    intro other hother
    rw [(devices_setList_perm s isDali sorted).mem_iff, List.mem_append, hperm.mem_iff]
    rcases List.mem_cons.1 hother with rfl | hother
    · exact .inr List.mem_cons_self
    · rw [(devices_perm s isDali).mem_iff, List.mem_append] at hother
      exact hother.imp_right (List.mem_cons_of_mem _)
  | removeDevice device =>
    obtain ⟨hidle, rfl⟩ : s.isIdle = true ∧ s.removeDevice device = s' := by
      simpa [transition] using hstep
    have htakeOver := (of_isIdle hidle).2
    have hlive : (s.removeDevice device).live = (s.removeDevice device).devices :=
      live_eq_devices htakeOver
    rw [live_eq_devices htakeOver] at h
    rw [hlive]
    refine ⟨fun entry hentry => ?_, fun key other hget hinit => ?_⟩
    · obtain ⟨hold, hne⟩ := List.mem_filter.1 hentry
      exact mem_devices_removeDevice.2 ⟨h.fetches entry hold, by simpa using hne⟩
    · obtain ⟨hne, hold⟩ := get?_of_erase hget
      refine mem_devices_removeDevice.2 ⟨h.indexed key other hold hinit, ?_⟩
      rintro rfl
      exact hne (hkeyed key _ hold hinit).symm
  | setMqttId device mqttId =>
    obtain ⟨-, rfl⟩ : (s.isIdle = true ∧ s.isInitialized device = true) ∧
        { s with mqttId := Function.update s.mqttId device mqttId } = s' := by
      simpa [transition] using hstep
    exact ⟨h.fetches, h.indexed⟩
  | loaded device number =>
    cases hstep
    exact ⟨h.fetches, h.indexed⟩
  | beginTakeOver isDali removed unchanged =>
    obtain ⟨⟨hidle, -⟩, rfl⟩ :
        (s.isIdle = true ∧ removed ⊆ s.list isDali ∧ unchanged.Sublist (s.list isDali)) ∧
          s.beginTakeOver isDali removed unchanged = s' := by
      simpa [transition] using hstep
    exact h.beginTakeOver (of_isIdle hidle).2 hkeyed horderly
  | tryCreated device now attempt =>
    obtain ⟨takeOver, hsome, -, rfl⟩ : ∃ takeOver, s.takeOver = some takeOver ∧
        (s.now ≤ now ∧ s.IsNew device) ∧ s.tryCreated takeOver device now attempt = s' := by
      simpa [transition, Option.bind_eq_some_iff] using hstep
    obtain ⟨hraises, hfalse, htrue⟩ := horderly
    have hreturns : (s.tryInitNewDevice device now attempt).2 = false :=
      doInitDevice_snd hraises hfalse htrue
    have hwithin := h.tryInitNewDevice hkeyed device now attempt
    have hsame := (attempts_tryInitNewDevice hkeyed device now attempt).sameBus
    simp only [State.tryCreated, hreturns, Bool.false_eq_true, if_false]
    have hlonger : Within { (s.tryInitNewDevice device now attempt).1 with
        takeOver := some { takeOver with created := takeOver.created ++ [device] } }
        (device :: s.live) := ⟨hwithin.fetches, hwithin.indexed⟩
    refine hlonger.mono fun other hother => ?_
    show other ∈ (s.tryInitNewDevice device now attempt).1.list (!takeOver.isDali) ++
      (takeOver.unchanged ++ (takeOver.created ++ [device]))
    have hlist : (s.tryInitNewDevice device now attempt).1.list (!takeOver.isDali) =
        s.list (!takeOver.isDali) := by
      rw [list, hsame.daliDevices, hsame.dali2Devices]
      rfl
    rw [live_of_takeOver hsome] at hother
    rw [hlist]
    simp only [List.mem_cons, List.mem_append] at hother ⊢
    tauto
  | replaceDevices sorted =>
    obtain ⟨takeOver, hsome, hperm, rfl⟩ : ∃ takeOver, s.takeOver = some takeOver ∧
        sorted.Perm (takeOver.unchanged ++ takeOver.created) ∧
          s.replaceDevices takeOver sorted = s' := by
      simpa [transition, Option.bind_eq_some_iff] using hstep
    have hlive : ∀ device, device ∈ (s.replaceDevices takeOver sorted).live ↔ device ∈ s.live := by
      intro device
      rw [live_of_takeOver hsome]
      show device ∈ (s.setList takeOver.isDali sorted).devices ↔ _
      rw [(devices_setList_perm s takeOver.isDali sorted).mem_iff, List.mem_append, hperm.mem_iff]
      exact List.mem_append.symm
    refine ⟨fun entry hentry => (hlive _).2 (h.fetches entry hentry),
      fun key device hget hinit => ?_⟩
    refine (hlive _).2 ?_
    simp only [State.replaceDevices, State.endCommissioning] at hget
    split at hget
    case isTrue => exact h.indexed key device hget hinit
    case isFalse =>
      rcases of_get?_foldl_set hget with hold | ⟨hmem, -⟩
      · exact h.indexed key device hold hinit
      · rw [live_of_takeOver hsome]
        exact List.mem_append_right _ (List.mem_append_right _ hmem)
  | endCommissioning =>
    obtain ⟨-, rfl⟩ : s.pollingTask = .running ∧ s.endCommissioning = s' := by
      simpa [transition] using hstep
    exact h.endCommissioning horderly
  | popIndex mqttId =>
    cases hstep
    exact ⟨h.fetches,
      fun key device hget hinit => h.indexed key device (get?_of_erase hget).2 hinit⟩
  | setIndex device =>
    obtain ⟨hdevice, rfl⟩ : s.isInitialized device = true ∧
        { s with devicesByMqttId := s.devicesByMqttId.set (s.mqttId device) device } = s' := by
      simpa [transition] using hstep
    refine ⟨h.fetches, fun key other hget hinit => ?_⟩
    simp only [Dict.get?_set] at hget
    split at hget
    case isTrue =>
      rw [← Option.some.inj hget] at hinit
      cases hdevice.symm.trans hinit
    case isFalse => exact h.indexed key other hget hinit

lemma Within.of_reach (h : transition.Reach Orderly s) : s.Within s.live := by
  refine Transition.Reach.invariant_of (I := fun s : State Id => s.Inv s.now)
    (J := fun s => s.Within s.live) (fun s hreach => Inv.of_reachable hreach.reachable) ?_ ?_ h
  · rintro s ⟨daliDevices, dali2Devices, mqttId, handlers, isInitialized, now, -, -, rfl⟩
    exact ⟨fun entry hentry => (by cases hentry), fun key device hget => by simp at hget⟩
  · intro s event s' hinv hwithin horderly hstep
    exact hwithin.step hinv horderly hstep

/-- In every run only initialized gear of the bus is polled, each once in a round, and only the
settings of initialized devices are fetched, each of them registered once; they are devices of the
bus as long as all take-overs go through. -/
theorem polls_initialized (h : transition.Reachable s) :
    s.pollScheduler.devices.Nodup ∧
      (∀ device ∈ s.pollScheduler.devices,
        device ∈ s.daliDevices ∧ s.isInitialized device = true) ∧
      (s.fetchScheduler.entries.map FetchScheduler.FetchEntry.handler).Nodup ∧
      (∀ entry ∈ s.fetchScheduler.entries, s.isInitialized entry.device = true) ∧
      (transition.Reach Orderly s → ∀ entry ∈ s.fetchScheduler.entries, entry.device ∈ s.live) := by
  have hserved := (Inv.of_reachable h).served
  exact ⟨hserved.nodup_polls, hserved.polls, hserved.fetchScheduler.nodup, hserved.fetches,
    fun horderly => (Within.of_reach horderly).fetches⟩

/-- A step at which all devices answer. -/
def answered (now : ℚ) : Tick := { silent now with attempt := fun _ => ⟨.success, 1, false⟩ }

/-- All devices are polled; then the second gear is gone, and another one is found. -/
def finishedTakeOver : List (Event ℕ) :=
  [.start 0, .pollStep (answered 0), .pollStep (answered 4), .pollStep (answered 5),
    .beginTakeOver true [1] [0], .tryCreated 3 20 ⟨.success, 1, false⟩, .replaceDevices [0, 3],
    .pollStep (answered 30), .pollStep (answered 31)]

theorem polls_initialized_finishedTakeOver :
    ∃ s : State ℕ, s.pollScheduler.devices = [0, 3] ∧
      (∀ device ∈ s.pollScheduler.devices,
        device ∈ s.daliDevices ∧ s.isInitialized device = true) ∧
      (s.fetchScheduler.entries.map FetchScheduler.FetchEntry.device) = [2, 2, 3, 3] ∧
      ∀ entry ∈ s.fetchScheduler.entries,
        s.isInitialized entry.device = true ∧ entry.device ∈ s.live := by
  have hrun : (transition.run Orderly configured finishedTakeOver).any (fun s =>
      s.pollScheduler.devices = [0, 3] ∧
        s.fetchScheduler.entries.map FetchScheduler.FetchEntry.device = [2, 2, 3, 3]) = true := by
    decide +kernel
  obtain ⟨s, hs, hany⟩ := (Option.any_eq_true _ _).1 hrun
  obtain ⟨hpolls, hfetches⟩ := of_decide_eq_true hany
  have hreach : transition.Reach Orderly s := (Transition.Reach.init init_configured).run hs
  obtain ⟨-, hpolled, -, hinit, horderly⟩ := polls_initialized hreach.reachable
  exact ⟨s, hpolls, hpolled, hfetches, fun entry hentry =>
    ⟨hinit entry hentry, horderly hreach entry hentry⟩⟩

end State

end WbMqttDali.PollStep
