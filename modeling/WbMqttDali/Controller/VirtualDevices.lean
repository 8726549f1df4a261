import Mathlib
import WbMqttDali.Lib.Transition

/-!
# The virtual devices of a bus

A bus has a broadcast device and a device for each group with a member or with an on/off
setting of its own.  They are refreshed by whoever changes a membership: a refresh takes
a snapshot of the groups and then works through it, and is suspended at each call of the
publisher.  Nothing keeps two refreshes apart.
-/

namespace WbMqttDali.Controller.VirtualDevices

/-- The `mqtt_id` of a virtual device. -/
inductive Id where
  | broadcast
  | group (number : ℕ)
  deriving DecidableEq

/-- What a refresh has decided to look at. -/
inductive Work where
  /-- `existing_groups - active_groups` -/
  | remove (group : ℕ)
  /-- `active_groups - existing_groups` -/
  | add (group : ℕ)
  /-- `active_groups & existing_groups` -/
  | check (group : ℕ)
  deriving DecidableEq

def Work.group : Work → ℕ
  | .remove group | .add group | .check group => group

/-- The call of the publisher at which a coroutine is suspended. -/
inductive Point where
  /-- `remove_device` of a group without members -/
  | removing (group : ℕ)
  /-- `remove_device` of `_rebuild_group_virtual_device`, with the new device -/
  | rebuilding (group : ℕ) (device : ℕ)
  /-- `remove_device` of `_refresh_broadcast_device` -/
  | removingBroadcast
  /-- `add_device` of `_publish_virtual_device` -/
  | adding (id : Id) (device : ℕ)
  /-- `register_control_handler` of `_publish_virtual_device` -/
  | subscribing (id : Id) (device : ℕ)
  deriving DecidableEq

structure Coroutine where
  point : Point
  rest : List Work
  deriving DecidableEq

/-- The controller, the index of the devices and the publisher, as far as the virtual devices
go; a device is the number of its object. -/
structure State where
  /-- The groups with a member. -/
  activeGroups : Finset ℕ := ∅
  /-- A membership or an on/off setting has changed since the last snapshot was taken. -/
  isStale : Bool := false
  /-- The keys of `_group_devices_by_number`. -/
  groupNumbers : Finset ℕ := ∅
  /-- The values of `_group_devices_by_number`. -/
  groupDevices : ℕ → ℕ
  /-- `on_off_config is not None` of a group device. -/
  hasOnOffConfig : ℕ → Bool
  broadcastDevice : ℕ
  nextDevice : ℕ
  /-- `_devices_by_mqtt_id` -/
  devicesByMqttId : Id → Option ℕ
  /-- `DevicePublisher._devices` -/
  published : Id → Bool
  /-- `DevicePublisher._control_handlers` -/
  handlers : Id → Bool
  coroutines : ℕ → Option Coroutine := fun _ => none
  hasRaised : Bool := false

/-- The elements of the set in increasing order. -/
def sorted (numbers : Finset ℕ) : List ℕ :=
  (List.range (numbers.sup id + 1)).filter (· ∈ numbers)

namespace State

variable (state : State)

/-- The coroutine is suspended. -/
def suspend (task : ℕ) (point : Point) (rest : List Work) : State :=
  { state with coroutines := Function.update state.coroutines task (some ⟨point, rest⟩) }

/-- The coroutine is done. -/
def finish (task : ℕ) : State :=
  { state with coroutines := Function.update state.coroutines task none }

/-- An exception leaves the coroutine. -/
def raise (task : ℕ) : State :=
  { state.finish task with hasRaised := true }

/-- `_make_group_device` -/
def makeGroupDevice (onOffConfig : Bool) : State :=
  { state with
    hasOnOffConfig := Function.update state.hasOnOffConfig state.nextDevice onOffConfig
    nextDevice := state.nextDevice + 1 }

/-- A refresh goes on to its next await; `updateInPlace` tells for which groups
`update_in_place` succeeds. -/
def work (task : ℕ) (updateInPlace : ℕ → Bool) : State → List Work → State
  | state, [] => state.finish task
  | state, .remove group :: rest =>
    if group ∈ state.groupNumbers then
      if state.hasOnOffConfig (state.groupDevices group) then work task updateInPlace state rest
      else
        { state with groupNumbers := state.groupNumbers.erase group }.suspend task
          (.removing group) rest
    else state.raise task
  | state, .add group :: rest =>
    (state.makeGroupDevice false).suspend task (.adding (.group group) state.nextDevice) rest
  | state, .check group :: rest =>
    if group ∈ state.groupNumbers then
      if updateInPlace group then work task updateInPlace state rest
      else
        (state.makeGroupDevice (state.hasOnOffConfig (state.groupDevices group))).suspend task
          (.rebuilding group state.nextDevice) rest
    else state.raise task

/-- `_refresh_group_virtual_devices` up to its first await. -/
def refreshGroupVirtualDevices (task : ℕ) (updateInPlace : ℕ → Bool) : State :=
  work task updateInPlace { state with isStale := false }
    ((sorted (state.groupNumbers \ state.activeGroups)).map .remove ++
      (sorted (state.activeGroups \ state.groupNumbers)).map .add ++
      (sorted (state.activeGroups ∩ state.groupNumbers)).map .check)

/-- `_refresh_broadcast_device` up to its first await. -/
def refreshBroadcastDevice (task : ℕ) (capabilitiesChanged : Bool) : State :=
  if capabilitiesChanged then state.suspend task .removingBroadcast [] else state

/-- `_rebuild_group_virtual_device` up to its first await. -/
def rebuildGroupVirtualDevice (task group : ℕ) : State :=
  (state.makeGroupDevice (state.hasOnOffConfig (state.groupDevices group))).suspend task
    (.rebuilding group state.nextDevice) []

/-- `DevicePublisher.remove_device`, which warns about an unknown device, and the removal from
the index. -/
def removeDevice (id : Id) : State :=
  { state with
    published := Function.update state.published id false
    handlers :=
      if state.published id then Function.update state.handlers id false else state.handlers
    devicesByMqttId := Function.update state.devicesByMqttId id none }

/-- A device is published: the index gets it, and the groups if it is a group's. -/
def install (id : Id) (device : ℕ) : State :=
  let state :=
    { state with devicesByMqttId := Function.update state.devicesByMqttId id (some device) }
  match id with
  | .broadcast => state
  | .group group =>
    { state with
      groupNumbers := insert group state.groupNumbers
      groupDevices := Function.update state.groupDevices group device }

/-- The publisher is done with a coroutine's call, and the coroutine goes on. -/
def resume (task : ℕ) (updateInPlace : ℕ → Bool) (coroutine : Coroutine) : State :=
  match coroutine.point with
  | .removing group => work task updateInPlace (state.removeDevice (.group group)) coroutine.rest
  | .rebuilding group device =>
    (state.removeDevice (.group group)).suspend task (.adding (.group group) device) coroutine.rest
  | .removingBroadcast =>
    { state.removeDevice .broadcast with
        broadcastDevice := state.nextDevice
        nextDevice := state.nextDevice + 1 }.suspend task
      (.adding .broadcast state.nextDevice) coroutine.rest
  | .adding id device =>
    -- `_add_device_internal`: "Device .. already exists"
    if state.published id then state.raise task
    else
      { state with published := Function.update state.published id true }.suspend task
        (.subscribing id device) coroutine.rest
  | .subscribing id device =>
    -- "Handler already registered for .."
    if state.handlers id then state.raise task
    else
      work task updateInPlace
        ({ state with handlers := Function.update state.handlers id true }.install id device)
        coroutine.rest

end State

inductive Event where
  | setMembership (activeGroups : Finset ℕ)
  | setOnOffConfig (group : ℕ) (config : Bool)
  | refreshGroupVirtualDevices (task : ℕ) (updateInPlace : ℕ → Bool)
  | refreshBroadcastDevice (task : ℕ) (capabilitiesChanged : Bool)
  /-- At the end of `_apply_group_parameters_task`. -/
  | rebuildGroupVirtualDevice (task group : ℕ)
  | resume (task : ℕ) (updateInPlace : ℕ → Bool)
  /-- Another device is published under the `mqtt_id` of a virtual one. -/
  | publishOther (id : Id)

namespace State

def step (state : State) : Event → Option State
  | .setMembership activeGroups => some { state with activeGroups, isStale := true }
  | .setOnOffConfig group config =>
    if group ∈ state.groupNumbers then
      some
        { state with
          hasOnOffConfig :=
            Function.update state.hasOnOffConfig (state.groupDevices group) config
          isStale := true }
    else none
  | .refreshGroupVirtualDevices task updateInPlace =>
    if state.coroutines task = none then
      some (state.refreshGroupVirtualDevices task updateInPlace)
    else none
  | .refreshBroadcastDevice task capabilitiesChanged =>
    if state.coroutines task = none then
      some (state.refreshBroadcastDevice task capabilitiesChanged)
    else none
  | .rebuildGroupVirtualDevice task group =>
    if state.coroutines task = none ∧ group ∈ state.groupNumbers then
      some (state.rebuildGroupVirtualDevice task group)
    else none
  | .resume task updateInPlace =>
    (state.coroutines task).map (state.resume task updateInPlace)
  | .publishOther id =>
    if state.published id then none
    else
      some
        { state with
          published := Function.update state.published id true
          handlers := Function.update state.handlers id true }

/-- What `start` leaves: the broadcast device and the groups of the configuration, which have
an on/off setting, are published. -/
def started (groups : Finset ℕ) : State where
  groupNumbers := groups
  groupDevices group := group + 1
  hasOnOffConfig device := decide (0 < device ∧ device - 1 ∈ groups)
  broadcastDevice := 0
  nextDevice := groups.sup id + 2
  devicesByMqttId
    | .broadcast => some 0
    | .group group => if group ∈ groups then some (group + 1) else none
  published
    | .broadcast => true
    | .group group => decide (group ∈ groups)
  handlers
    | .broadcast => true
    | .group group => decide (group ∈ groups)

end State

def transition : Transition State Event where
  init state := ∃ groups, state = .started groups
  step := State.step

lemma mem_sorted {numbers : Finset ℕ} {number : ℕ} :
    number ∈ sorted numbers ↔ number ∈ numbers := by
  simp only [sorted, List.mem_filter, List.mem_range, decide_eq_true_eq, and_iff_right_iff_imp]
  exact fun h => Nat.lt_succ_of_le (Finset.le_sup (f := id) h)

lemma nodup_sorted (numbers : Finset ℕ) : (sorted numbers).Nodup :=
  List.Nodup.filter _ List.nodup_range

/-! ### What the views have to say -/

section Views

variable {state : State} {rest : List Work}

/-- The device that the controller knows under the id. -/
def State.current (state : State) : Id → Option ℕ
  | .broadcast => some state.broadcastDevice
  | .group group => if group ∈ state.groupNumbers then some (state.groupDevices group) else none

/-- The index and the publisher have the device that the controller has. -/
structure Agrees (state : State) (id : Id) : Prop where
  index : state.devicesByMqttId id = state.current id
  published : state.published id = (state.current id).isSome
  handlers : state.handlers id = (state.current id).isSome

/-- The group has a device exactly if it has a member or an on/off setting. -/
def Wanted (state : State) (group : ℕ) : Prop :=
  group ∈ state.groupNumbers ↔
    group ∈ state.activeGroups ∨
      group ∈ state.groupNumbers ∧ state.hasOnOffConfig (state.groupDevices group) = true

/-- The decision of the snapshot still fits the groups. -/
def Work.Ready (state : State) : Work → Prop
  | .remove group | .check group => group ∈ state.groupNumbers
  | .add group => group ∉ state.groupNumbers

/-- The decision of the snapshot still fits the members. -/
def Work.Due (state : State) : Work → Prop
  | .remove group => group ∉ state.activeGroups
  | .add group | .check group => group ∈ state.activeGroups

/-- What holds of everything but the device a refresh is busy with, with what it has still to
look at. -/
structure Plan (state : State) (busy : Option Id) (works : List Work) : Prop where
  nodup : (works.map Work.group).Nodup
  apart : ∀ work ∈ works, busy ≠ some (.group work.group)
  ready : ∀ work ∈ works, work.Ready state
  agrees : ∀ id, busy ≠ some id → Agrees state id
  known : ∀ group ∈ state.groupNumbers, state.groupDevices group < state.nextDevice
  due : state.isStale = false → ∀ work ∈ works, work.Due state
  wanted : state.isStale = false → ∀ group, busy ≠ some (.group group) →
    group ∉ works.map Work.group → Wanted state group

def Point.id : Point → Id
  | .removing group | .rebuilding group _ => .group group
  | .removingBroadcast => .broadcast
  | .adding id _ | .subscribing id _ => id

/-- The device that is being published is one to be published. -/
def Publishable (state : State) (id : Id) (device : ℕ) : Prop :=
  device < state.nextDevice ∧
    match id with
    | .broadcast => device = state.broadcastDevice
    | .group group =>
      state.isStale = false → group ∈ state.activeGroups ∨ state.hasOnOffConfig device = true

/-- What holds of the device a refresh is busy with. -/
def Point.Holds (state : State) : Point → Prop
  | .removing group =>
    group ∉ state.groupNumbers ∧ state.published (.group group) = true ∧
      (state.isStale = false → group ∉ state.activeGroups)
  | .rebuilding group device =>
    state.published (.group group) = true ∧ Publishable state (.group group) device
  | .removingBroadcast => state.published .broadcast = true
  | .adding id device =>
    state.published id = false ∧ state.handlers id = false ∧ Publishable state id device
  | .subscribing id device =>
    state.published id = true ∧ state.handlers id = false ∧ Publishable state id device

/-- No coroutine is in progress, or a single one. -/
def Inv (state : State) : Prop :=
  state.hasRaised = false ∧
    ((∀ task, state.coroutines task = none) ∧ Plan state none [] ∨
      ∃ task point rest, state.coroutines task = some ⟨point, rest⟩ ∧
        (∀ other, other ≠ task → state.coroutines other = none) ∧
        Plan state (some point.id) rest ∧ point.Holds state)

lemma Plan.finish (h : Plan state none []) (hraised : state.hasRaised = false) {task : ℕ}
    (halone : ∀ other, other ≠ task → state.coroutines other = none) :
    Inv (state.finish task) := by
  refine ⟨hraised, .inl ⟨fun other => ?_, ?_⟩⟩
  · by_cases heq : other = task
    · subst heq
      exact Function.update_self _ _ _
    · exact (Function.update_of_ne heq _ _).trans (halone other heq)
  · exact ⟨h.nodup, h.apart, h.ready, fun id hid => ⟨(h.agrees id hid).index,
      (h.agrees id hid).published, (h.agrees id hid).handlers⟩, h.known, h.due, h.wanted⟩

lemma Plan.suspend (point : Point) (h : Plan state (some point.id) rest)
    (hholds : point.Holds state) (hraised : state.hasRaised = false) {task : ℕ}
    (halone : ∀ other, other ≠ task → state.coroutines other = none) :
    Inv (state.suspend task point rest) := by
  refine ⟨hraised,
    .inr ⟨task, point, rest, Function.update_self _ _ _, fun other hne => ?_, ?_, ?_⟩⟩
  · exact (Function.update_of_ne hne _ _).trans (halone other hne)
  · exact ⟨h.nodup, h.apart, h.ready, fun id hid => ⟨(h.agrees id hid).index,
      (h.agrees id hid).published, (h.agrees id hid).handlers⟩, h.known, h.due, h.wanted⟩
  · cases point <;> exact hholds

/-- A group that was looked at and left as it is. -/
lemma Plan.skip {work : Work} (h : Plan state none (work :: rest))
    (hwanted : state.isStale = false → Wanted state work.group) : Plan state none rest := by
  refine ⟨(List.nodup_cons.1 h.nodup).2, fun other _ => Option.some_ne_none _ ∘ Eq.symm,
    fun other hother => h.ready other (List.mem_cons_of_mem _ hother), h.agrees, h.known,
    fun hstale other hother => h.due hstale other (List.mem_cons_of_mem _ hother), ?_⟩
  intro hstale group hbusy hnot
  by_cases heq : group = work.group
  · exact heq ▸ hwanted hstale
  · refine h.wanted hstale group hbusy fun hmem => ?_
    rcases List.mem_cons.1 hmem with hmem | hmem
    · exact heq hmem
    · exact hnot hmem

/-- A group that a refresh is now busy with. -/
lemma Plan.busy {work : Work} (h : Plan state none (work :: rest)) :
    Plan state (some (.group work.group)) rest := by
  obtain ⟨hnot, hnodup⟩ := List.nodup_cons.1 h.nodup
  refine ⟨hnodup, ?_, fun other hother => h.ready other (List.mem_cons_of_mem _ hother),
    fun id _ => h.agrees id (Option.some_ne_none _ ∘ Eq.symm), h.known,
    fun hstale other hother => h.due hstale other (List.mem_cons_of_mem _ hother), ?_⟩
  · intro other hother heq
    have heq : work.group = other.group := Id.group.inj (Option.some.inj heq)
    exact hnot (heq ▸ List.mem_map_of_mem hother)
  · intro hstale group hbusy hnot
    refine h.wanted hstale group (Option.some_ne_none _ ∘ Eq.symm) fun hmem => ?_
    rcases List.mem_cons.1 hmem with rfl | hmem
    · exact hbusy rfl
    · exact hnot hmem

/-- A new device does not concern the others. -/
lemma Plan.makeGroupDevice {busy : Option Id} (h : Plan state busy rest) (onOffConfig : Bool) :
    Plan (state.makeGroupDevice onOffConfig) busy rest := by
  have hold {group : ℕ} (hgroup : group ∈ state.groupNumbers) :
      (state.makeGroupDevice onOffConfig).hasOnOffConfig (state.groupDevices group) =
        state.hasOnOffConfig (state.groupDevices group) :=
    Function.update_of_ne (h.known group hgroup).ne _ _
  refine ⟨h.nodup, h.apart, h.ready, fun id hid => ⟨(h.agrees id hid).index,
    (h.agrees id hid).published, (h.agrees id hid).handlers⟩,
    fun group hgroup => (h.known group hgroup).trans (Nat.lt_succ_self _), h.due, ?_⟩
  intro hstale group hbusy hnot
  refine (h.wanted hstale group hbusy hnot).trans ?_
  refine or_congr Iff.rfl (and_congr_right fun hgroup => ?_)
  show _ ↔ (state.makeGroupDevice onOffConfig).hasOnOffConfig (state.groupDevices group) = true
  rw [hold hgroup]

/-- A group loses its device. -/
lemma Plan.erase {group : ℕ} (h : Plan state (some (.group group)) rest) :
    Plan { state with groupNumbers := state.groupNumbers.erase group } (some (.group group))
      rest := by
  have hmem {other : ℕ} (hne : other ≠ group) :
      other ∈ state.groupNumbers.erase group ↔ other ∈ state.groupNumbers :=
    ⟨Finset.mem_of_mem_erase, Finset.mem_erase_of_ne_of_mem hne⟩
  have hother {work : Work} (hwork : work ∈ rest) : work.group ≠ group := fun heq =>
    h.apart work hwork (congrArg (fun group => some (Id.group group)) heq.symm)
  refine ⟨h.nodup, h.apart, ?_, ?_, fun other hmem => h.known other (Finset.mem_of_mem_erase hmem),
    fun hstale work hwork => ?_, ?_⟩
  · intro work hwork
    have hready := h.ready work hwork
    have hne := hother hwork
    cases work with
    | remove other | check other => exact (hmem hne).2 hready
    | add other => exact fun hin => hready ((hmem hne).1 hin)
  · rintro (_ | other) hid
    · have := h.agrees .broadcast hid
      exact ⟨this.index, this.published, this.handlers⟩
    · have hne : other ≠ group := by
        rintro rfl
        exact hid rfl
      have := h.agrees (.group other) hid
      refine ⟨this.index.trans ?_, this.published.trans ?_, this.handlers.trans ?_⟩
      all_goals simp [State.current, hne]
  · have := h.due hstale work hwork
    cases work <;> exact this
  · intro hstale other hbusy hnot
    have hne : other ≠ group := by
      rintro rfl
      exact hbusy rfl
    have := h.wanted hstale other hbusy hnot
    simpa [Wanted, hne] using this

/-- A refresh comes to its next await without raising. -/
lemma inv_work {works : List Work} (h : Plan state none works) (hraised : state.hasRaised = false)
    {task : ℕ} (halone : ∀ other, other ≠ task → state.coroutines other = none)
    (updateInPlace : ℕ → Bool) : Inv (State.work task updateInPlace state works) := by
  induction works with
  | nil => exact h.finish hraised halone
  | cons work works ih =>
    have hready := h.ready work List.mem_cons_self
    have hfresh {group : ℕ} (hgroup : group ∈ state.groupNumbers) :
        state.published (.group group) = true := by
      have := (h.agrees (.group group) (Option.some_ne_none _ ∘ Eq.symm)).published
      rw [this, State.current, if_pos hgroup]
      rfl
    cases work with
    | remove group =>
      have hgroup : group ∈ state.groupNumbers := hready
      rw [State.work, if_pos hgroup]
      split
      case isTrue honOff =>
        exact ih (h.skip fun _ => iff_of_true hgroup (.inr ⟨hgroup, honOff⟩))
      case isFalse =>
        refine Plan.suspend (.removing group) h.busy.erase ?_ hraised halone
        exact ⟨Finset.notMem_erase _ _, hfresh hgroup,
          fun hstale => h.due hstale _ List.mem_cons_self⟩
    | add group =>
      have hgroup : group ∉ state.groupNumbers := hready
      have hnone := h.agrees (.group group) (Option.some_ne_none _ ∘ Eq.symm)
      have hcurrent : state.current (.group group) = none := if_neg hgroup
      rw [State.work]
      refine Plan.suspend (.adding (.group group) state.nextDevice)
        (h.busy.makeGroupDevice false) ⟨?_, ?_, Nat.lt_succ_self _, fun hstale => ?_⟩ hraised halone
      · exact hnone.published.trans (by rw [hcurrent]; rfl)
      · exact hnone.handlers.trans (by rw [hcurrent]; rfl)
      · exact .inl (h.due hstale _ List.mem_cons_self)
    | check group =>
      have hgroup : group ∈ state.groupNumbers := hready
      rw [State.work, if_pos hgroup]
      split
      case isTrue =>
        refine ih (h.skip fun hstale => iff_of_true hgroup (.inl ?_))
        exact h.due hstale _ List.mem_cons_self
      case isFalse =>
        refine Plan.suspend (.rebuilding group state.nextDevice)
          (h.busy.makeGroupDevice _) ⟨hfresh hgroup, Nat.lt_succ_self _, fun hstale => ?_⟩
          hraised halone
        exact .inl (h.due hstale _ List.mem_cons_self)

/-- The publisher and the index change at the busy device only. -/
lemma Plan.touch {id : Id} (h : Plan state (some id) rest) {published handlers : Id → Bool}
    {devicesByMqttId : Id → Option ℕ}
    (hpublished : ∀ other, other ≠ id → published other = state.published other)
    (hhandlers : ∀ other, other ≠ id → handlers other = state.handlers other)
    (hindex : ∀ other, other ≠ id → devicesByMqttId other = state.devicesByMqttId other) :
    Plan { state with published, handlers, devicesByMqttId } (some id) rest := by
  refine ⟨h.nodup, h.apart, h.ready, fun other hother => ?_, h.known, h.due, h.wanted⟩
  have hne : other ≠ id := fun heq => hother (congrArg some heq.symm)
  have := h.agrees other hother
  exact ⟨(hindex other hne).trans this.index, (hpublished other hne).trans this.published,
    (hhandlers other hne).trans this.handlers⟩

lemma Plan.removeDevice {id : Id} (h : Plan state (some id) rest) :
    Plan (state.removeDevice id) (some id) rest := by
  refine h.touch (fun other hne => Function.update_of_ne hne _ _) (fun other hne => ?_)
    fun other hne => Function.update_of_ne hne _ _
  split
  · exact Function.update_of_ne hne _ _
  · rfl

lemma removeDevice_self {id : Id} (hpublished : state.published id = true) :
    (state.removeDevice id).published id = false ∧ (state.removeDevice id).handlers id = false ∧
      (state.removeDevice id).devicesByMqttId id = none := by
  refine ⟨Function.update_self _ _ _, ?_, Function.update_self _ _ _⟩
  show (if state.published id = true then _ else _ : Id → Bool) id = false
  rw [if_pos hpublished]
  exact Function.update_self _ _ _

/-- A refresh is done with a device. -/
lemma Plan.release {id : Id} (h : Plan state (some id) rest) (hagrees : Agrees state id)
    (hwanted : ∀ group, id = .group group → state.isStale = false → Wanted state group) :
    Plan state none rest := by
  refine ⟨h.nodup, fun _ _ => Option.some_ne_none _ ∘ Eq.symm, h.ready, fun other _ => ?_, h.known,
    h.due, fun hstale group _ hnot => ?_⟩
  · by_cases heq : id = other
    · exact heq ▸ hagrees
    · exact h.agrees other fun hsome => heq (Option.some.inj hsome)
  · by_cases heq : id = .group group
    · exact hwanted group heq hstale
    · exact h.wanted hstale group (fun hsome => heq (Option.some.inj hsome)) hnot

/-- A broadcast device that is published is the controller's. -/
lemma Plan.installBroadcast (h : Plan state (some .broadcast) rest) {device : ℕ}
    (hpublishable : Publishable state .broadcast device)
    (hpublished : state.published .broadcast = true)
    (hhandlers : state.handlers .broadcast = true) :
    Plan (state.install .broadcast device) none rest := by
  have htouched : Plan (state.install .broadcast device) (some .broadcast) rest :=
    h.touch (fun _ _ => rfl) (fun _ _ => rfl) fun other hne => Function.update_of_ne hne _ _
  have hindex : (state.install .broadcast device).devicesByMqttId .broadcast = some device := rfl
  have hcurrent : state.broadcastDevice = device := hpublishable.2.symm
  refine htouched.release ⟨?_, hpublished, hhandlers⟩ (fun _ h => nomatch h)
  rw [hindex, ← hcurrent]
  rfl

/-- A group's device that is published becomes the group's. -/
lemma Plan.installGroup {group : ℕ} (h : Plan state (some (.group group)) rest) {device : ℕ}
    (hpublishable : Publishable state (.group group) device)
    (hpublished : state.published (.group group) = true)
    (hhandlers : state.handlers (.group group) = true) :
    Plan (state.install (.group group) device) none rest := by
  have hgroup : group ∈ (state.install (.group group) device).groupNumbers :=
    Finset.mem_insert_self _ _
  have hdevice : (state.install (.group group) device).groupDevices group = device :=
    Function.update_self _ _ _
  have hmem {other : ℕ} (hne : other ≠ group) :
      other ∈ (state.install (.group group) device).groupNumbers ↔ other ∈ state.groupNumbers :=
    ⟨fun hin => (Finset.mem_insert.1 hin).resolve_left hne, Finset.mem_insert_of_mem⟩
  have hsame {other : ℕ} (hne : other ≠ group) :
      (state.install (.group group) device).groupDevices other = state.groupDevices other :=
    Function.update_of_ne hne _ _
  have hcurrent : (state.install (.group group) device).current (.group group) = some device := by
    rw [State.current, if_pos hgroup, hdevice]
  -- while the device is installed its group is still busy
  have hinstalled : Plan (state.install (.group group) device) (some (.group group)) rest := by
    refine ⟨h.nodup, h.apart, ?_, ?_, ?_, ?_, ?_⟩
    · intro work hwork
      have hready := h.ready work hwork
      have hne : work.group ≠ group := fun heq =>
        h.apart work hwork (congrArg (fun group => some (Id.group group)) heq.symm)
      cases work with
      | remove other | check other => exact (hmem hne).2 hready
      | add other => exact fun hin => hready ((hmem hne).1 hin)
    · rintro (_ | other) hid
      · have hindex : (state.install (.group group) device).devicesByMqttId .broadcast =
            state.devicesByMqttId .broadcast := rfl
        have := h.agrees .broadcast hid
        exact ⟨hindex.trans this.index, this.published, this.handlers⟩
      · have hne : other ≠ group := by
          rintro rfl
          exact hid rfl
        have hcurrent : (state.install (.group group) device).current (.group other) =
            state.current (.group other) := by
          simp only [State.current, hmem hne, hsame hne]
        have hindex : (state.install (.group group) device).devicesByMqttId (.group other) =
            state.devicesByMqttId (.group other) := by
          simp [State.install, hne]
        have := h.agrees (.group other) hid
        refine ⟨hindex.trans ?_, ?_, ?_⟩ <;> rw [hcurrent]
        · exact this.index
        · exact this.published
        · exact this.handlers
    · intro other hother
      by_cases heq : other = group
      · subst heq
        exact hdevice.trans_lt hpublishable.1
      · exact (hsame heq).trans_lt (h.known other ((hmem heq).1 hother))
    · intro hstale work hwork
      have := h.due hstale work hwork
      cases work <;> exact this
    · intro hstale other hbusy hnot
      have hne : other ≠ group := by
        rintro rfl
        exact hbusy rfl
      have := h.wanted hstale other hbusy hnot
      rw [Wanted, hmem hne, hsame hne]
      exact this
  refine hinstalled.release ⟨?_, ?_, ?_⟩ ?_
  · exact (Function.update_self _ _ _).trans hcurrent.symm
  · rw [hcurrent]
    exact hpublished
  · rw [hcurrent]
    exact hhandlers
  · rintro _ ⟨⟩ hstale
    refine iff_of_true hgroup ?_
    rw [hdevice]
    exact (hpublishable.2 hstale).imp_right fun honOff => ⟨hgroup, honOff⟩

/-- A device's call of the publisher ends, and the refresh comes to its next await. -/
lemma inv_resume {task : ℕ} {point : Point} (hraised : state.hasRaised = false)
    (halone : ∀ other, other ≠ task → state.coroutines other = none)
    (hplan : Plan state (some point.id) rest) (hholds : point.Holds state)
    (updateInPlace : ℕ → Bool) : Inv (state.resume task updateInPlace ⟨point, rest⟩) := by
  cases point with
  | removing group =>
    obtain ⟨hgroup, hpublished, hactive⟩ := hholds
    have hplan : Plan state (some (.group group)) rest := hplan
    obtain ⟨hremoved, hhandlers, hindex⟩ := removeDevice_self hpublished
    have hcurrent : (state.removeDevice (.group group)).current (.group group) = none :=
      if_neg hgroup
    refine inv_work (hplan.removeDevice.release ⟨?_, ?_, ?_⟩ ?_) hraised halone updateInPlace
    · rw [hindex, hcurrent]
    · rw [hremoved, hcurrent]
      rfl
    · rw [hhandlers, hcurrent]
      rfl
    · rintro _ ⟨⟩ hstale
      exact iff_of_false hgroup fun hor => hor.elim (hactive hstale) fun hand => hgroup hand.1
  | rebuilding group device =>
    obtain ⟨hpublished, hpublishable⟩ := hholds
    obtain ⟨hremoved, hhandlers, -⟩ := removeDevice_self hpublished
    exact Plan.suspend (.adding (.group group) device) hplan.removeDevice
      ⟨hremoved, hhandlers, hpublishable⟩ hraised halone
  | removingBroadcast =>
    obtain ⟨hremoved, hhandlers, -⟩ := removeDevice_self hholds
    have hremoveDevice := hplan.removeDevice
    -- the new device has a number that no group's device has
    have hnew : Plan
        { state.removeDevice .broadcast with
          broadcastDevice := state.nextDevice
          nextDevice := state.nextDevice + 1 } (some .broadcast) rest := by
      refine ⟨hremoveDevice.nodup, hremoveDevice.apart, hremoveDevice.ready, ?_, ?_,
        hremoveDevice.due, hremoveDevice.wanted⟩
      · rintro (_ | group) hid
        · exact absurd rfl hid
        · have := hremoveDevice.agrees (.group group) hid
          exact ⟨this.index, this.published, this.handlers⟩
      · intro group hgroup
        exact (hplan.known group hgroup).trans (Nat.lt_succ_self _)
    exact Plan.suspend (.adding .broadcast state.nextDevice) hnew
      ⟨hremoved, hhandlers, Nat.lt_succ_self _, rfl⟩ hraised halone
  | adding id device =>
    obtain ⟨hpublished, hhandlers, hpublishable⟩ := hholds
    have hplan : Plan state (some id) rest := hplan
    simp only [State.resume, hpublished, Bool.false_eq_true, if_false]
    have hadded : Plan { state with published := Function.update state.published id true } (some id)
        rest :=
      hplan.touch (fun other hne => Function.update_of_ne hne _ _) (fun _ _ => rfl) fun _ _ => rfl
    refine Plan.suspend (.subscribing id device) hadded ⟨?_, hhandlers, hpublishable⟩
      hraised halone
    exact Function.update_self id true state.published
  | subscribing id device =>
    obtain ⟨hpublished, hhandlers, hpublishable⟩ := hholds
    have hplan : Plan { state with handlers := Function.update state.handlers id true } (some id)
        rest :=
      Plan.touch hplan (fun _ _ => rfl) (fun other hne => Function.update_of_ne hne _ _)
        fun _ _ => rfl
    simp only [State.resume, hhandlers, Bool.false_eq_true, if_false]
    cases id with
    | broadcast =>
      exact inv_work (hplan.installBroadcast hpublishable hpublished rfl) hraised halone
        updateInPlace
    | group group =>
      have hsubscribed : Function.update state.handlers (.group group) true (.group group) = true :=
        Function.update_self _ _ _
      exact inv_work (hplan.installGroup hpublishable hpublished hsubscribed) hraised halone
        updateInPlace

end Views

/-! ### The run -/

section Run

variable {state : State}

/-- A refresh or a rebuild is started only while no other is in progress, and no other device
has the `mqtt_id` of a virtual one. -/
def Alone (state : State) : Event → Prop
  | .refreshGroupVirtualDevices _ _ | .refreshBroadcastDevice _ _
  | .rebuildGroupVirtualDevice _ _ => ∀ task, state.coroutines task = none
  | .publishOther _ => False
  | .setMembership _ | .setOnOffConfig _ _ | .resume _ _ => True

/-- The snapshot's three lists of groups, with what is to be done with them. -/
lemma plan_snapshot (h : Plan state none []) :
    Plan { state with isStale := false } none
      ((sorted (state.groupNumbers \ state.activeGroups)).map .remove ++
        (sorted (state.activeGroups \ state.groupNumbers)).map .add ++
        (sorted (state.activeGroups ∩ state.groupNumbers)).map .check) := by
  have hmem {work : Work} (hwork : work ∈
      (sorted (state.groupNumbers \ state.activeGroups)).map Work.remove ++
        (sorted (state.activeGroups \ state.groupNumbers)).map Work.add ++
        (sorted (state.activeGroups ∩ state.groupNumbers)).map Work.check) :
      work.Ready state ∧ work.Due state := by
    simp only [List.mem_append, List.mem_map, mem_sorted, Finset.mem_sdiff, Finset.mem_inter]
      at hwork
    rcases hwork with (⟨group, hgroup, rfl⟩ | ⟨group, hgroup, rfl⟩) | ⟨group, hgroup, rfl⟩
    · exact hgroup
    · exact hgroup.symm
    · exact hgroup.symm
  refine ⟨?_, fun _ _ => Option.some_ne_none _ ∘ Eq.symm, fun work hwork => ?_, fun id hid => ?_,
    h.known, fun _ work hwork => ?_, fun _ group _ hnot => ?_⟩
  · have hgroups (numbers : Finset ℕ) (make : ℕ → Work)
        (hmake : ∀ group, (make group).group = group) :
        ((sorted numbers).map make).map Work.group = sorted numbers := by
      rw [List.map_map, show Work.group ∘ make = id from funext hmake, List.map_id]
    rw [List.map_append, List.map_append, hgroups _ _ fun _ => rfl, hgroups _ _ fun _ => rfl,
      hgroups _ _ fun _ => rfl, List.nodup_append, List.nodup_append]
    refine ⟨⟨nodup_sorted _, nodup_sorted _, ?_⟩, nodup_sorted _, ?_⟩
    all_goals
      intro group hgroup other hother
      simp only [List.mem_append, mem_sorted, Finset.mem_sdiff, Finset.mem_inter] at hgroup hother
      rintro rfl
      tauto
  · have := (hmem hwork).1
    cases work <;> exact this
  · have := h.agrees id hid
    exact ⟨this.index, this.published, this.handlers⟩
  · have := (hmem hwork).2
    cases work <;> exact this
  · have hgroup : group ∉ state.groupNumbers ∧ group ∉ state.activeGroups := by
      simp only [List.map_append, List.map_map, List.mem_append, List.mem_map, mem_sorted,
        Finset.mem_sdiff, Finset.mem_inter, Function.comp, Work.group, exists_eq_right] at hnot
      tauto
    exact iff_of_false hgroup.1 fun hor => hor.elim hgroup.2 fun hand => hgroup.1 hand.1

/-- A change leaves what the snapshots decided to be looked at again. -/
lemma Inv.stale {activeGroups : Finset ℕ} {hasOnOffConfig : ℕ → Bool} (h : Inv state) :
    Inv { state with activeGroups, hasOnOffConfig, isStale := true } := by
  have hplan {busy : Option Id} {works : List Work} (hplan : Plan state busy works) :
      Plan { state with activeGroups, hasOnOffConfig, isStale := true } busy works :=
    ⟨hplan.nodup, hplan.apart, hplan.ready, fun id hid => ⟨(hplan.agrees id hid).index,
      (hplan.agrees id hid).published, (hplan.agrees id hid).handlers⟩, hplan.known, nofun, nofun⟩
  have hpublishable {id : Id} {device : ℕ} (hold : Publishable state id device) :
      Publishable { state with activeGroups, hasOnOffConfig, isStale := true } id device := by
    refine ⟨hold.1, ?_⟩
    cases id with
    | broadcast => exact hold.2
    | group group => exact nofun
  obtain ⟨hraised, ⟨hidle, hall⟩ | ⟨task, point, rest, htask, halone, hall, hholds⟩⟩ := h
  · exact ⟨hraised, .inl ⟨hidle, hplan hall⟩⟩
  · refine ⟨hraised, .inr ⟨task, point, rest, htask, halone, hplan hall, ?_⟩⟩
    cases point with
    | removing group => exact ⟨hholds.1, hholds.2.1, nofun⟩
    | rebuilding group device => exact ⟨hholds.1, hpublishable hholds.2⟩
    | removingBroadcast => exact hholds
    | adding id device => exact ⟨hholds.1, hholds.2.1, hpublishable hholds.2.2⟩
    | subscribing id device => exact ⟨hholds.1, hholds.2.1, hpublishable hholds.2.2⟩

lemma Inv.idle (h : Inv state) (hidle : ∀ task, state.coroutines task = none) :
    Plan state none [] := by
  obtain ⟨-, ⟨-, hplan⟩ | ⟨task, point, rest, htask, -⟩⟩ := h
  · exact hplan
  · rw [hidle task] at htask
    cases htask

lemma inv_started (groups : Finset ℕ) : Inv (.started groups) := by
  refine ⟨rfl,
    .inl ⟨fun _ => rfl, List.nodup_nil, nofun, nofun, fun id _ => ?_, fun group hgroup => ?_,
    nofun, fun _ group _ _ => ?_⟩⟩
  · rcases id with _ | group
    · exact ⟨rfl, rfl, rfl⟩
    · by_cases hgroup : group ∈ groups <;> constructor <;>
        simp [State.started, State.current, hgroup]
  · have hle : group ≤ groups.sup id := Finset.le_sup (f := id) hgroup
    show group + 1 < groups.sup id + 2
    omega
  · by_cases hgroup : group ∈ groups <;> simp [Wanted, State.started, hgroup]

lemma Inv.step {event : Event} {next : State} (h : Inv state) (hok : Alone state event)
    (hstep : state.step event = some next) : Inv next := by
  cases event with
  | setMembership activeGroups =>
    cases hstep
    exact h.stale
  | setOnOffConfig group config =>
    rw [State.step] at hstep
    split at hstep
    case isTrue =>
      cases hstep
      exact h.stale
    case isFalse => cases hstep
  | refreshGroupVirtualDevices task updateInPlace =>
    rw [State.step, if_pos (hok task)] at hstep
    cases hstep
    exact inv_work (plan_snapshot (h.idle hok)) h.1 (fun other _ => hok other) updateInPlace
  | refreshBroadcastDevice task capabilitiesChanged =>
    rw [State.step, if_pos (hok task)] at hstep
    cases hstep
    unfold State.refreshBroadcastDevice
    split
    · have hplan := h.idle hok
      refine Plan.suspend .removingBroadcast ⟨hplan.nodup, nofun, nofun, fun id hid => ?_,
        hplan.known, hplan.due, fun hstale group _ hnot => hplan.wanted hstale group nofun hnot⟩
        ?_ h.1 fun other _ => hok other
      · exact hplan.agrees id nofun
      · exact (hplan.agrees .broadcast nofun).published
    · exact h
  | rebuildGroupVirtualDevice task group =>
    rw [State.step] at hstep
    split at hstep
    case isTrue hgroup =>
      cases hstep
      have hplan := h.idle hok
      have hbusy : Plan state (some (.group group)) [] :=
        ⟨hplan.nodup, nofun, nofun, fun id _ => hplan.agrees id nofun, hplan.known, hplan.due,
          fun hstale other _ hnot => hplan.wanted hstale other nofun hnot⟩
      refine Plan.suspend (.rebuilding group state.nextDevice) (hbusy.makeGroupDevice _)
        ⟨?_, Nat.lt_succ_self _, fun hstale => ?_⟩ h.1 fun other _ => hok other
      · refine (hplan.agrees (.group group) nofun).published.trans ?_
        rw [State.current, if_pos hgroup.2]
        rfl
      · -- the new device takes over the setting of the old one
        refine ((hplan.wanted hstale group nofun nofun).1 hgroup.2).imp_right fun honOff => ?_
        exact (Function.update_self _ _ _).trans honOff.2
    case isFalse => cases hstep
  | resume task updateInPlace =>
    obtain ⟨coroutine, hcoroutine, rfl⟩ := Option.map_eq_some_iff.1 hstep
    obtain ⟨hraised, ⟨hidle, -⟩ | ⟨owner, point, rest, howner, halone, hplan, hholds⟩⟩ := h
    · rw [hidle task] at hcoroutine
      cases hcoroutine
    · obtain rfl : task = owner := by
        by_contra hne
        rw [halone task hne] at hcoroutine
        cases hcoroutine
      obtain rfl := Option.some.inj (hcoroutine.symm.trans howner)
      exact inv_resume hraised halone hplan hholds updateInPlace
  | publishOther id => exact hok.elim

/-- The controller, the index and the publisher know the same virtual devices, and the groups
with a device are those with a member or an on/off setting. -/
structure Settled (state : State) : Prop where
  agrees : ∀ id, Agrees state id
  broadcast : state.published .broadcast = true
  groups : state.isStale = false → ∀ group, state.published (.group group) = true ↔
    group ∈ state.activeGroups ∨
      ∃ device, state.current (.group group) = some device ∧ state.hasOnOffConfig device = true

lemma Plan.settled (h : Plan state none []) : Settled state := by
  refine ⟨fun id => h.agrees id nofun, (h.agrees .broadcast nofun).published,
    fun hstale group => ?_⟩
  have hpublished : state.published (.group group) = true ↔ group ∈ state.groupNumbers := by
    rw [(h.agrees (.group group) nofun).published, State.current]
    by_cases hgroup : group ∈ state.groupNumbers <;> simp [hgroup]
  refine hpublished.trans ((h.wanted hstale group nofun nofun).trans (or_congr_right ?_))
  by_cases hgroup : group ∈ state.groupNumbers <;> simp [State.current, hgroup]

/-- While refreshes do not overlap none of them raises, and whenever none is in progress the
views agree; behind the last change they show the groups there are. -/
theorem settled_of_alone (h : transition.Reach Alone state) :
    state.hasRaised = false ∧ ((∀ task, state.coroutines task = none) → Settled state) := by
  have hinv : Inv state := by
    refine Transition.Reach.invariant (I := Inv) ?_ (fun _ _ _ h hok hstep => h.step hok hstep) h
    rintro _ ⟨groups, rfl⟩
    exact inv_started groups
  exact ⟨hinv.1, fun hidle => (hinv.idle hidle).settled⟩

/-! ### Refreshes of one task -/

/-- All refreshes and rebuilds are those of the given task, one after another. -/
def OfTask (owner : ℕ) (state : State) : Event → Prop
  | .refreshGroupVirtualDevices task _ | .refreshBroadcastDevice task _
  | .rebuildGroupVirtualDevice task _ => task = owner ∧ state.coroutines task = none
  | .resume task _ => task = owner
  | .publishOther _ => False
  | .setMembership _ | .setOnOffConfig _ _ => True

instance (owner : ℕ) (state : State) (event : Event) : Decidable (OfTask owner state event) :=
  match event with
  | .refreshGroupVirtualDevices task _ | .refreshBroadcastDevice task _
  | .rebuildGroupVirtualDevice task _ =>
    inferInstanceAs (Decidable (task = owner ∧ state.coroutines task = none))
  | .resume task _ => inferInstanceAs (Decidable (task = owner))
  | .publishOther _ => .isFalse id
  | .setMembership _ | .setOnOffConfig _ _ => .isTrue trivial

lemma work_coroutines {task other : ℕ} (hne : other ≠ task) (updateInPlace : ℕ → Bool)
    (works : List Work) :
    (State.work task updateInPlace state works).coroutines other = state.coroutines other := by
  induction works generalizing state with
  | nil => exact Function.update_of_ne hne _ _
  | cons work works ih =>
    cases work with
    | remove group | check group =>
      rw [State.work]
      split
      · split
        · exact ih
        · exact Function.update_of_ne hne _ _
      · exact Function.update_of_ne hne _ _
    | add group => exact Function.update_of_ne hne _ _

lemma resume_coroutines {task other : ℕ} (hne : other ≠ task) (updateInPlace : ℕ → Bool)
    (coroutine : Coroutine) :
    (state.resume task updateInPlace coroutine).coroutines other = state.coroutines other := by
  obtain ⟨point, rest⟩ := coroutine
  cases point with
  | removing group => exact work_coroutines hne _ _
  | rebuilding group device => exact Function.update_of_ne hne _ _
  | removingBroadcast => exact Function.update_of_ne hne _ _
  | adding id device =>
    simp only [State.resume]
    split <;> exact Function.update_of_ne hne _ _
  | subscribing id device =>
    simp only [State.resume]
    split
    · exact Function.update_of_ne hne _ _
    · refine (work_coroutines hne _ _).trans ?_
      cases id <;> rfl

/-- The refreshes of one task do not overlap. -/
lemma alone_of_ofTask {owner : ℕ} (h : transition.Reach (OfTask owner) state) :
    transition.Reach Alone state ∧ ∀ other, other ≠ owner → state.coroutines other = none := by
  induction h with
  | init h =>
    obtain ⟨groups, rfl⟩ := h
    exact ⟨.init ⟨groups, rfl⟩, fun _ _ => rfl⟩
  | @step state event next hreach hok hstep ih =>
    obtain ⟨halone, hothers⟩ := ih
    have hidle (hnone : state.coroutines owner = none) (task : ℕ) :
      state.coroutines task = none := by
      by_cases heq : task = owner
      · exact heq ▸ hnone
      · exact hothers task heq
    -- with the task of the owner idle no coroutine is running
    have hallowed : Alone state event := by
      cases event with
      | refreshGroupVirtualDevices | refreshBroadcastDevice | rebuildGroupVirtualDevice =>
        obtain ⟨rfl, hnone⟩ := hok
        exact hidle hnone
      | publishOther => exact hok
      | setMembership | setOnOffConfig | resume => trivial
    refine ⟨halone.step hallowed hstep, fun other hne => ?_⟩
    rw [← hothers other hne]
    change state.step event = some next at hstep
    cases event with
    | setMembership activeGroups =>
      cases hstep
      rfl
    | setOnOffConfig group config =>
      rw [State.step] at hstep
      split at hstep <;> cases hstep
      rfl
    | refreshGroupVirtualDevices task updateInPlace =>
      obtain ⟨rfl, hnone⟩ := hok
      rw [State.step, if_pos hnone] at hstep
      cases hstep
      exact work_coroutines hne _ _
    | refreshBroadcastDevice task capabilitiesChanged =>
      obtain ⟨rfl, hnone⟩ := hok
      rw [State.step, if_pos hnone] at hstep
      cases hstep
      unfold State.refreshBroadcastDevice
      split
      · exact Function.update_of_ne hne _ _
      · rfl
    | rebuildGroupVirtualDevice task group =>
      obtain ⟨rfl, -⟩ := hok
      rw [State.step] at hstep
      split at hstep <;> cases hstep
      exact Function.update_of_ne hne _ _
    | resume task updateInPlace =>
      obtain rfl : task = owner := hok
      obtain ⟨coroutine, -, rfl⟩ := Option.map_eq_some_iff.1 hstep
      exact resume_coroutines hne _ _
    | publishOther id => exact hok.elim

end Run

/-! ### Two runs -/

/-- A member leaves group 3 for group 5, group 4 has a setting, the bus gets new capabilities. -/
def moveRun : List Event :=
  [.setMembership {3, 4}, .refreshGroupVirtualDevices 0 fun _ => true, .resume 0 fun _ => true,
    .resume 0 fun _ => false, .resume 0 fun _ => true, .resume 0 fun _ => true,
    .resume 0 fun _ => true, .setMembership {5}, .refreshGroupVirtualDevices 0 fun _ => true,
    .resume 0 fun _ => true, .resume 0 fun _ => true, .resume 0 fun _ => true,
    .refreshBroadcastDevice 0 true, .resume 0 fun _ => true, .resume 0 fun _ => true,
    .resume 0 fun _ => true]

theorem settled_move :
    ∃ state : State, (∀ task, state.coroutines task = none) ∧ Settled state ∧
      state.published (.group 3) = false ∧ state.published (.group 4) = true ∧
      state.published (.group 5) = true := by
  have hrun : (transition.run (OfTask 0) (.started {4}) moveRun).any (fun state =>
      state.coroutines 0 = none ∧ state.published (.group 3) = false ∧
        state.published (.group 4) = true ∧ state.published (.group 5) = true) = true := by
    decide +kernel
  obtain ⟨state, hstate, hall⟩ := (Option.any_eq_true _ _).1 hrun
  obtain ⟨hnone, hpublished⟩ := of_decide_eq_true hall
  have hinit : transition.init (.started {4}) := ⟨{4}, rfl⟩
  obtain ⟨halone, hothers⟩ := alone_of_ofTask ((Transition.Reach.init hinit).run hstate)
  have hidle (task : ℕ) : state.coroutines task = none := by
    by_cases heq : task = 0
    · exact heq ▸ hnone
    · exact hothers task heq
  exact ⟨state, hidle, (settled_of_alone halone).2 hidle, hpublished⟩

/-- Groups 3 and 4 lose their members; while one refresh takes away group 3, another one takes
away group 4. -/
def overlappingRun : List Event :=
  [.setMembership {3, 4}, .refreshGroupVirtualDevices 0 fun _ => true, .resume 0 fun _ => true,
    .resume 0 fun _ => true, .resume 0 fun _ => true, .resume 0 fun _ => true, .setMembership ∅,
    .refreshGroupVirtualDevices 0 fun _ => true, .refreshGroupVirtualDevices 1 fun _ => true,
    .resume 0 fun _ => true]

/-- The first refresh raises a `KeyError`. -/
theorem exists_hasRaised :
    ∃ state : State, transition.Reachable state ∧ state.hasRaised = true := by
  have hrun : (transition.run (fun _ _ => True) (.started ∅) overlappingRun).any (fun state =>
      state.hasRaised) = true := by
    decide +kernel
  obtain ⟨state, hstate, hraised⟩ := (Option.any_eq_true _ _).1 hrun
  have hinit : transition.init (.started ∅) := ⟨∅, rfl⟩
  exact ⟨state, (Transition.Reach.init hinit).run hstate, hraised⟩

end WbMqttDali.Controller.VirtualDevices
