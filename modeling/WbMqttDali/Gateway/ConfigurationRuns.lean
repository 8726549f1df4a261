import Mathlib
import WbMqttDali.Gateway.SavedConfiguration
import WbMqttDali.Lib.Transition

/-!
# Saved configurations of a running gateway

The polling loops of the buses change the lists of devices and the settings: they apply what
`set_device_rpc_handler` and `set_group_rpc_handler` have put into the queue, reset devices
and take over what commissioning has found.  Each loop does one thing at a time.
-/

namespace WbMqttDali.Configuration

open WbMqttDali.Device WbMqttDali.OnOff

/-- A device that commissioning has found at another short address than before, or for the
first time. -/
structure FoundDevice where
  short : Fin 64
  random : ℤ
  /-- The name that `_resolve_initial_names` makes of the product name. -/
  name : Option String := none
  deriving DecidableEq, Repr

/-- The gateways, and the new object of a device whose settings are being reset: it is in no
list yet. -/
structure Running where
  state : State
  resetting : BusPlace → Option (DeviceKind × Device) := fun _ => none

inductive Event where
  /-- `_apply_common_parameters`: the request has been checked against an earlier state, and
  the device reports a short address, if it is asked for a new one. -/
  | applyCommon (place : ListPlace) (index : ℕ) (newValues : NewValues) (reported : Option ℕ)
  /-- `OnOffSettingsParam.write` of a control gear. -/
  | writeOnOff (place : BusPlace) (index : ℕ) (value : EditorJson)
  /-- `OnOffSettingsParam.write` of a group. -/
  | writeGroupOnOff (place : BusPlace) (group : Fin 16) (value : EditorJson)
  /-- `_refresh_group_virtual_devices`, for the groups with a member. -/
  | refreshGroups (place : BusPlace) (activeGroups : Finset (Fin 16))
  /-- The end of `_update_dali_devices` or `_update_dali2_devices`. -/
  | commissioned (place : ListPlace) (unchanged : List (ℕ × ℤ)) (found : List FoundDevice)
  /-- `_remove_device` of `_reset_device_task`. -/
  | resetDevice (place : ListPlace) (index : ℕ)
  /-- `_remove_device` of `_reset_device_settings_task`. -/
  | resetDeviceSettings (place : ListPlace) (index : ℕ)
  /-- The new object of a device whose settings were reset is added. -/
  | settingsReset (place : BusPlace)
  /-- `_reset_device_settings_task` raises after it has removed the device. -/
  | resetRaises (place : BusPlace)
  deriving DecidableEq

/-- `sort(key=lambda d: d.address.short)` -/
def sortByShort (devices : List Device) : List Device :=
  devices.insertionSort fun device other => device.short ≤ other.short

namespace Device

/-- A device after `_apply_common_parameters`. -/
def applyCommon (kind : DeviceKind) (busUid : String) (device : Device) (newValues : NewValues)
    (reported : Option ℕ) : Device :=
  let identity := device.identity kind busUid
  let change := identity.commonChange newValues
  let short :=
    if change.newShortAddress = device.short then device.short
    else identity.addressAfter change reported
  { device with
    short
    customMqttId := (identity.applyChange change short).customMqttId
    customName := (identity.applyChange change short).customName }

/-- The object that stands for a device after its settings were reset. -/
def recreate (kind : DeviceKind) (busUid : String) (device : Device) : Device :=
  create kind busUid device.short device.random
    (device.customMqttId.map fun _ => device.mqttId kind busUid)
    (device.customName.map fun _ => device.name kind busUid) device.onOff

end Device

namespace State

variable (state : State)

def setDevices (place : ListPlace) (devices : List Device) : State :=
  { state with devices := Function.update state.devices place devices }

def setGroup (place : BusPlace) (group : Fin 16) (device : Option (Option OnOffConfig)) : State :=
  { state with
    groups := Function.update state.groups place
      (Function.update (state.groups place) group device) }

/-- The devices that commissioning has found as they were. -/
def unchangedDevices (place : ListPlace) (unchanged : List (ℕ × ℤ)) : List Device :=
  (state.devices place).filter fun device => (device.short, device.random) ∈ unchanged

/-- `_build_commissioned_devices` -/
def createdDevices (place : ListPlace) (found : List FoundDevice) : List Device :=
  found.map fun device => Device.create place.kind (state.busUid place.bus) device.short
    device.random none device.name none

/-- The MQTT ids of these devices differ from each other and from those of the devices that stay:
the given ones of the list, and all of the other lists. -/
def IsFree (place : ListPlace) (staying created : List Device) : Prop :=
  (created.map (·.mqttId place.kind (state.busUid place.bus))).Nodup ∧
    ∀ id ∈ created.map (·.mqttId place.kind (state.busUid place.bus)),
      id ∉ staying.map (·.mqttId place.kind (state.busUid place.bus)) ∧
        ∀ other ∈ state.listPlaces, other ≠ place → id ∉ state.mqttIds other

end State

namespace Running

variable (running : Running)

def step (running : Running) : Event → Option Running
  | .applyCommon place index newValues reported =>
    if place ∈ running.state.listPlaces ∧ newValues.validate = true then
      (running.state.devices place)[index]?.map fun device =>
        { running with
          state := running.state.setDevices place ((running.state.devices place).set index
            (device.applyCommon place.kind (running.state.busUid place.bus) newValues reported)) }
    else none
  | .writeOnOff place index value =>
    (running.state.devices ⟨place, .dali⟩)[index]?.bind fun device =>
      (write value).map fun onOff =>
        { running with
          state := running.state.setDevices ⟨place, .dali⟩
            ((running.state.devices ⟨place, .dali⟩).set index { device with onOff }) }
  | .writeGroupOnOff place group value =>
    (running.state.groups place group).bind fun _ =>
      (write value).map fun onOff =>
        { running with state := running.state.setGroup place group (some onOff) }
  | .refreshGroups place activeGroups =>
    some
      { running with
        state :=
          { running.state with
            groups := Function.update running.state.groups place fun group =>
              match running.state.groups place group with
              | some (some config) => some (some config)
              | some none | none => if group ∈ activeGroups then some none else none } }
  | .commissioned place unchanged found =>
    if place ∈ running.state.listPlaces then
      some
        { running with
          state := running.state.setDevices place (sortByShort
            (running.state.unchangedDevices place unchanged ++
              running.state.createdDevices place found)) }
    else none
  | .resetDevice place index =>
    some
      { running with
        state := running.state.setDevices place ((running.state.devices place).eraseIdx index) }
  | .resetDeviceSettings place index =>
    if place ∈ running.state.listPlaces ∧ running.resetting place.bus = none then
      (running.state.devices place)[index]?.map fun device =>
        { state := running.state.setDevices place ((running.state.devices place).eraseIdx index)
          resetting := Function.update running.resetting place.bus
            (some (place.kind, device.recreate place.kind (running.state.busUid place.bus))) }
    else none
  | .settingsReset place =>
    (running.resetting place).map fun (kind, device) =>
      { state := running.state.setDevices ⟨place, kind⟩
          (sortByShort (running.state.devices ⟨place, kind⟩ ++ [device]))
        resetting := Function.update running.resetting place none }
  | .resetRaises place =>
    some { running with resetting := Function.update running.resetting place none }

/-- The gateway is started with a configuration that `load_config` returns. -/
def transition : Transition Running Event where
  init := fun running => ∃ config : Config, config.IsAccepted ∧ running = { state := load config }
  step := step

/-- The saved configuration is accepted, and what is loaded from it is what was saved. -/
def LoadsBack : Prop :=
  running.state.save.IsAccepted ∧ (load running.state.save).Describes running.state

/-- The MQTT ids that the devices get are free when they get them. -/
def IdsAreFree : Event → Prop
  | .applyCommon place index newValues reported =>
    ∀ device ∈ (running.state.devices place)[index]?,
      running.state.IsFree place ((running.state.devices place).eraseIdx index)
        [device.applyCommon place.kind (running.state.busUid place.bus) newValues reported]
  | .commissioned place unchanged found =>
    running.state.IsFree place (running.state.unchangedDevices place unchanged)
      (running.state.createdDevices place found)
  | .settingsReset place =>
    ∀ reset ∈ running.resetting place,
      running.state.IsFree ⟨place, reset.1⟩ (running.state.devices ⟨place, reset.1⟩) [reset.2]
  | .writeOnOff _ _ _ | .writeGroupOnOff _ _ _ | .refreshGroups _ _ | .resetDevice _ _
  | .resetDeviceSettings _ _ | .resetRaises _ => True

end Running

/-! ### The MQTT ids of all lists -/

namespace State

variable {state : State} {place : ListPlace} {devices staying created : List Device}

lemma nodup_flatMap_iff {α β : Type} {l : List α} (hl : l.Nodup) {f : α → List β} :
    (l.flatMap f).Nodup ↔
      (∀ a ∈ l, (f a).Nodup) ∧ ∀ a ∈ l, ∀ b ∈ l, a ≠ b → (f a).Disjoint (f b) := by
  have : Std.Symm fun a b => (f a).Disjoint (f b) := ⟨fun _ _ h => h.symm⟩
  rw [List.nodup_flatMap]
  exact and_congr_right fun _ => hl.pairwise_coe.symm

lemma nodup_listPlaces (state : State) : state.listPlaces.Nodup := by
  refine List.nodup_flatMap.2 ⟨fun place _ => by simp, ?_⟩
  refine (nodup_busPlaces _).imp fun hne other hother hother' => hne ?_
  simp only [List.mem_cons, List.not_mem_nil, or_false] at hother hother'
  rcases hother with rfl | rfl <;> rcases hother' with h | h <;> exact (ListPlace.mk.inj h).1

@[simp] lemma listPlaces_setDevices :
    (state.setDevices place devices).listPlaces = state.listPlaces :=
  rfl

lemma mqttIds_setDevices_self :
    (state.setDevices place devices).mqttIds place =
      devices.map (·.mqttId place.kind (state.busUid place.bus)) := by
  simp only [mqttIds, setDevices, Function.update_self]
  rfl

lemma mqttIds_setDevices_of_ne {other : ListPlace} (h : other ≠ place) :
    (state.setDevices place devices).mqttIds other = state.mqttIds other := by
  simp only [mqttIds, setDevices, Function.update_of_ne h]
  rfl

/-- A list with another list in its place: the ids stay different if those of the created
devices are free. -/
lemma nodup_setDevices_iff (h : state.allMqttIds.Nodup) (hplace : place ∈ state.listPlaces)
    (hperm : devices.Perm (staying ++ created)) (hstaying : staying.Sublist (state.devices place)) :
    (state.setDevices place devices).allMqttIds.Nodup ↔ state.IsFree place staying created := by
  rw [allMqttIds, nodup_flatMap_iff (nodup_listPlaces _)] at h ⊢
  obtain ⟨hnodup, hdisjoint⟩ := h
  rw [listPlaces_setDevices]
  have hids := (hperm.map (·.mqttId place.kind (state.busUid place.bus)))
  rw [List.map_append] at hids
  have hstays : (staying.map (·.mqttId place.kind (state.busUid place.bus))).Sublist
      (state.mqttIds place) := hstaying.map _
  constructor
  · rintro ⟨hnodup', hdisjoint'⟩
    have hself := hnodup' place hplace
    rw [mqttIds_setDevices_self, hids.nodup_iff, List.nodup_append] at hself
    refine ⟨hself.2.1, fun id hid => ⟨fun hid' => hself.2.2 id hid' id hid rfl, ?_⟩⟩
    intro other hother hne hmem
    have := hdisjoint' place hplace other hother hne.symm
    rw [mqttIds_setDevices_self, mqttIds_setDevices_of_ne hne] at this
    exact this (hids.mem_iff.2 (List.mem_append_right _ hid)) hmem
  · rintro ⟨hcreated, hfree⟩
    -- the changed list against any other one
    have hother : ∀ other ∈ state.listPlaces, other ≠ place →
        ((state.setDevices place devices).mqttIds place).Disjoint (state.mqttIds other) := by
      intro other hother hne id hid hid'
      rw [mqttIds_setDevices_self, hids.mem_iff, List.mem_append] at hid
      rcases hid with hid | hid
      · exact hdisjoint place hplace other hother hne.symm (hstays.subset hid) hid'
      · exact (hfree id hid).2 other hother hne hid'
    constructor
    · intro other hmem
      by_cases hne : other = place
      · subst hne
        rw [mqttIds_setDevices_self, hids.nodup_iff, List.nodup_append]
        refine ⟨hstays.nodup (hnodup other hmem), hcreated, ?_⟩
        rintro id hid _ hid' rfl
        exact (hfree id hid').1 hid
      · rw [mqttIds_setDevices_of_ne hne]
        exact hnodup other hmem
    · intro first hfirst second hsecond hne
      by_cases heq : first = place
      · subst heq
        rw [mqttIds_setDevices_of_ne hne.symm]
        exact hother second hsecond hne.symm
      · rw [mqttIds_setDevices_of_ne heq]
        by_cases heq' : second = place
        · subst heq'
          exact (hother first hfirst heq).symm
        · rw [mqttIds_setDevices_of_ne heq']
          exact hdisjoint first hfirst second hsecond hne

/-- A list from which devices are taken away. -/
lemma nodup_setDevices_of_sublist (h : state.allMqttIds.Nodup)
    (hsub : devices.Sublist (state.devices place)) :
    (state.setDevices place devices).allMqttIds.Nodup := by
  refine h.sublist ?_
  rw [allMqttIds, allMqttIds, listPlaces_setDevices]
  generalize state.listPlaces = places
  induction places with
  | nil => exact List.Sublist.refl _
  | cons other places ih =>
    refine List.Sublist.append ?_ ih
    by_cases heq : other = place
    · subst heq
      rw [mqttIds_setDevices_self]
      exact hsub.map _
    · rw [mqttIds_setDevices_of_ne heq]

/-- A list with the same MQTT ids. -/
lemma allMqttIds_setDevices (hids : devices.map (·.mqttId place.kind (state.busUid place.bus)) =
    state.mqttIds place) : (state.setDevices place devices).allMqttIds = state.allMqttIds := by
  rw [allMqttIds, allMqttIds, listPlaces_setDevices]
  refine List.flatMap_congr fun other _ => ?_
  by_cases heq : other = place
  · subst heq
    rw [mqttIds_setDevices_self, hids]
  · rw [mqttIds_setDevices_of_ne heq]

/-! ### The values stay in the ranges of the schema -/

lemma Valid.setDevices (h : state.Valid) (hdevices : ∀ device ∈ devices, device.Valid place.kind) :
    (state.setDevices place devices).Valid where
  gateways := h.gateways
  devices := (Function.forall_update_iff _ fun (place : ListPlace) (devices : List Device) =>
    ∀ device ∈ devices, device.Valid place.kind).2 ⟨hdevices, fun other _ => h.devices other⟩
  groups := h.groups

lemma Valid.groups_of {groups : BusPlace → Fin 16 → Option (Option OnOffConfig)} (h : state.Valid)
    (hgroups : ∀ place number config, groups place number = some (some config) → config.Loads) :
    State.Valid { state with groups } where
  gateways := h.gateways
  devices := h.devices
  groups := hgroups

end State

namespace Device

variable {kind : DeviceKind} {busUid : String} {device : Device}

lemma exists_of_validate {newValues : NewValues} (h : newValues.validate = true) :
    ∃ short name mqttId, newValues = ⟨some short, some name, some mqttId⟩ ∧ short ≤ 63 ∧
      matchesIdPattern mqttId = true := by
  unfold NewValues.validate at h
  split at h
  case h_1 short name mqttId =>
    simp only [Bool.and_eq_true, decide_eq_true_eq] at h
    obtain ⟨⟨⟨hshort, -⟩, hne⟩, hchars⟩ := h
    exact ⟨short, name, mqttId, rfl, hshort, by rw [matchesIdPattern, hne, hchars]; rfl⟩
  case h_2 => cases h

/-- After a change a custom MQTT id is the one before it or the requested one. -/
lemma customMqttId_applyChange {identity : Identity} {change : CommonChange} {short : ℕ}
    {id : String} (h : (identity.applyChange change short).customMqttId = some id) :
    identity.customMqttId = some id ∨ change.newMqttId = id := by
  simp only [Identity.applyChange] at h
  split at h
  · left
    split at h <;> exact h
  · right
    rw [Identity.setMqttId] at h
    by_cases hdefault : change.newMqttId = (if change.keepAutoName = true then
        { identity with short } else Identity.setName { identity with short }
          change.newName).defaultMqttId
    · rw [if_pos hdefault] at h
      cases h
    · rw [if_neg hdefault] at h
      exact Option.some.inj h

lemma Valid.applyCommon {newValues : NewValues} {reported : Option ℕ} (h : device.Valid kind)
    (hvalid : newValues.validate = true) :
    (device.applyCommon kind busUid newValues reported).Valid kind := by
  obtain ⟨short, name, mqttId, rfl, hshort, hmatches⟩ := exists_of_validate hvalid
  refine ⟨?_, fun id hid => ?_, h.onOff, h.dali2⟩
  · simp only [Device.applyCommon, Identity.addressAfter]
    split
    · exact h.short
    · split
      · exact hshort
      · exact h.short
  · rcases customMqttId_applyChange hid with hcustom | rfl
    · exact h.mqttId id hcustom
    · exact hmatches

lemma Valid.recreate (h : device.Valid kind) : (device.recreate kind busUid).Valid kind := by
  refine valid_create h.short (fun id hid => ?_) h.onOff h.dali2
  obtain ⟨custom, hcustom, rfl⟩ := Option.map_eq_some_iff.1 hid
  have hmatches := h.mqttId custom hcustom
  rw [mqttId_of_matches hcustom hmatches]
  exact hmatches

end Device

namespace Running

variable {running running' : Running} {event : Event}

/-- The new object suits the schema, and there is a list for it. -/
def ResetValid (state : State) (place : BusPlace) (reset : DeviceKind × Device) : Prop :=
  reset.2.Valid reset.1 ∧ ⟨place, reset.1⟩ ∈ state.listPlaces

/-- What holds between the steps, whatever ids the devices get. -/
structure Inv (running : Running) : Prop where
  valid : running.state.Valid
  resetting : ∀ place, ∀ reset ∈ running.resetting place, ResetValid running.state place reset

lemma forall_mem_set {α : Type} {P : α → Prop} {l : List α} {index : ℕ} {a : α}
    (h : ∀ b ∈ l, P b) (ha : P a) : ∀ b ∈ l.set index a, P b := by
  intro b hb
  rcases List.mem_or_eq_of_mem_set hb with hb | rfl
  · exact h b hb
  · exact ha

lemma Inv.setGroups (h : running.Inv) {place : BusPlace}
    {groups : Fin 16 → Option (Option OnOffConfig)}
    (hgroups : ∀ number config, groups number = some (some config) → config.Loads) :
    Inv { running with
      state :=
        { running.state with groups := Function.update running.state.groups place groups } } :=
  ⟨h.valid.groups_of <| (Function.forall_update_iff _ fun (_ : BusPlace)
      (groups : Fin 16 → Option (Option OnOffConfig)) =>
        ∀ number config, groups number = some (some config) → config.Loads).2
      ⟨hgroups, fun other _ => h.valid.groups other⟩, h.resetting⟩

lemma resetting_update {state : State} {resetting : BusPlace → Option (DeviceKind × Device)}
    {place : BusPlace} {new : Option (DeviceKind × Device)}
    (h : ∀ place, ∀ reset ∈ resetting place, ResetValid state place reset)
    (hnew : ∀ reset ∈ new, ResetValid state place reset) :
    ∀ other, ∀ reset ∈ Function.update resetting place new other, ResetValid state other reset :=
  (Function.forall_update_iff _ fun (place : BusPlace) (new : Option (DeviceKind × Device)) =>
    ∀ reset ∈ new, ResetValid state place reset).2 ⟨hnew, fun other _ => h other⟩

lemma Inv.step (h : running.Inv) (hstep : running.step event = some running') : running'.Inv := by
  cases event with
  | applyCommon place index newValues reported =>
    simp only [Running.step] at hstep
    split at hstep
    case isTrue hguard =>
      obtain ⟨device, hdevice, rfl⟩ := Option.map_eq_some_iff.1 hstep
      refine ⟨h.valid.setDevices ?_, h.resetting⟩
      exact forall_mem_set (h.valid.devices place)
        ((h.valid.devices place device (List.mem_of_getElem? hdevice)).applyCommon hguard.2)
    case isFalse => cases hstep
  | writeOnOff place index value =>
    obtain ⟨device, hdevice, hstep⟩ := Option.bind_eq_some_iff.1 hstep
    obtain ⟨onOff, honOff, rfl⟩ := Option.map_eq_some_iff.1 hstep
    have hvalid := h.valid.devices ⟨place, .dali⟩ device (List.mem_of_getElem? hdevice)
    refine ⟨h.valid.setDevices (forall_mem_set (h.valid.devices _) ?_), h.resetting⟩
    refine ⟨hvalid.short, hvalid.mqttId, fun config hconfig => ?_, nofun⟩
    obtain rfl : onOff = some config := hconfig
    exact loads_of_write honOff
  | writeGroupOnOff place group value =>
    obtain ⟨_, -, hstep⟩ := Option.bind_eq_some_iff.1 hstep
    obtain ⟨onOff, honOff, rfl⟩ := Option.map_eq_some_iff.1 hstep
    refine h.setGroups ((Function.forall_update_iff _ fun (_ : Fin 16)
      (device : Option (Option OnOffConfig)) =>
        ∀ config, device = some (some config) → config.Loads).2
      ⟨fun config hconfig => ?_, fun number _ => h.valid.groups place number⟩)
    obtain rfl := Option.some.inj hconfig
    exact loads_of_write honOff
  -- a group that stays keeps its on_off, and a new one has none
  | refreshGroups place activeGroups =>
    obtain rfl := Option.some.inj hstep
    refine h.setGroups fun number config hconfig => ?_
    split at hconfig
    case h_1 hold => exact h.valid.groups place number _ (hold.trans hconfig)
    case h_2 | h_3 => split at hconfig <;> cases hconfig
  | commissioned place unchanged found =>
    simp only [Running.step] at hstep
    split at hstep
    case isTrue =>
      obtain rfl := Option.some.inj hstep
      refine ⟨h.valid.setDevices fun device hdevice => ?_, h.resetting⟩
      rcases List.mem_append.1 ((List.perm_insertionSort _ _).mem_iff.1 hdevice) with hmem | hmem
      · exact h.valid.devices place device (List.mem_filter.1 hmem).1
      · obtain ⟨foundDevice, -, rfl⟩ := List.mem_map.1 hmem
        exact Device.valid_create (by omega) nofun nofun fun _ => rfl
    case isFalse => cases hstep
  | resetDevice place index =>
    obtain rfl := Option.some.inj hstep
    exact ⟨h.valid.setDevices fun device hdevice =>
      h.valid.devices place device (List.mem_of_mem_eraseIdx hdevice), h.resetting⟩
  | resetDeviceSettings place index =>
    simp only [Running.step] at hstep
    split at hstep
    case isTrue hguard =>
      obtain ⟨device, hdevice, rfl⟩ := Option.map_eq_some_iff.1 hstep
      refine ⟨h.valid.setDevices fun other hother =>
        h.valid.devices place other (List.mem_of_mem_eraseIdx hother), ?_⟩
      refine resetting_update h.resetting ?_
      rintro _ ⟨⟩
      exact ⟨(h.valid.devices place device (List.mem_of_getElem? hdevice)).recreate, hguard.1⟩
    case isFalse => cases hstep
  | settingsReset place =>
    obtain ⟨⟨kind, device⟩, hreset, rfl⟩ := Option.map_eq_some_iff.1 hstep
    obtain ⟨hdevice, -⟩ := h.resetting place _ hreset
    refine ⟨h.valid.setDevices fun other hother => ?_, ?_⟩
    · rcases List.mem_append.1 ((List.perm_insertionSort _ _).mem_iff.1 hother) with hmem | hmem
      · exact h.valid.devices _ other hmem
      · obtain rfl := List.mem_singleton.1 hmem
        exact hdevice
    · exact resetting_update h.resetting (by rintro _ ⟨⟩)
  | resetRaises place =>
    obtain rfl := Option.some.inj hstep
    exact ⟨h.valid, resetting_update h.resetting (by rintro _ ⟨⟩)⟩

lemma set_perm {α : Type} {l : List α} {index : ℕ} {a b : α} (h : l[index]? = some a) :
    (l.set index b).Perm (l.eraseIdx index ++ [b]) := by
  obtain ⟨hlt, -⟩ := List.getElem?_eq_some_iff.1 h
  exact (List.set_perm_cons_eraseIdx hlt b).trans (List.perm_append_singleton _ _).symm

/-- After a step the MQTT ids are different exactly if those that the devices get are free. -/
lemma Inv.nodup_iff (h : running.Inv) (hnodup : running.state.allMqttIds.Nodup)
    (hstep : running.step event = some running') :
    running'.state.allMqttIds.Nodup ↔ running.IdsAreFree event := by
  cases event with
  | applyCommon place index newValues reported =>
    simp only [Running.step] at hstep
    split at hstep
    case isTrue hguard =>
      obtain ⟨device, hdevice, rfl⟩ := Option.map_eq_some_iff.1 hstep
      simp only [IdsAreFree, hdevice, Option.mem_def, Option.some.injEq, forall_eq']
      exact State.nodup_setDevices_iff hnodup hguard.1 (set_perm hdevice)
        (List.eraseIdx_sublist _ _)
    case isFalse => cases hstep
  | writeOnOff place index value =>
    obtain ⟨device, hdevice, hstep⟩ := Option.bind_eq_some_iff.1 hstep
    obtain ⟨onOff, honOff, rfl⟩ := Option.map_eq_some_iff.1 hstep
    refine iff_of_true ?_ trivial
    rw [State.allMqttIds_setDevices]
    · exact hnodup
    · obtain ⟨hlt, rfl⟩ := List.getElem?_eq_some_iff.1 hdevice
      refine List.ext_getElem? fun other => ?_
      rw [List.map_set, List.getElem?_set]
      split
      case isTrue heq =>
        subst heq
        simp [State.mqttIds, hlt]
        rfl
      case isFalse => rfl
  | commissioned place unchanged found =>
    simp only [Running.step] at hstep
    split at hstep
    case isTrue hplace =>
      obtain rfl := Option.some.inj hstep
      exact State.nodup_setDevices_iff hnodup hplace (List.perm_insertionSort _ _)
        List.filter_sublist
    case isFalse => cases hstep
  | settingsReset place =>
    obtain ⟨⟨kind, device⟩, hreset, rfl⟩ := Option.map_eq_some_iff.1 hstep
    obtain ⟨-, hplace⟩ := h.resetting place _ hreset
    simp only [IdsAreFree, hreset, Option.mem_def, Option.some.injEq, forall_eq']
    exact State.nodup_setDevices_iff hnodup hplace (List.perm_insertionSort _ _)
      (List.Sublist.refl _)
  -- from here on no device gets an id
  | resetDevice place index =>
    obtain rfl := Option.some.inj hstep
    exact iff_of_true (State.nodup_setDevices_of_sublist hnodup (List.eraseIdx_sublist _ _)) trivial
  | resetDeviceSettings place index =>
    simp only [Running.step] at hstep
    split at hstep
    case isTrue =>
      obtain ⟨device, hdevice, rfl⟩ := Option.map_eq_some_iff.1 hstep
      exact iff_of_true
        (State.nodup_setDevices_of_sublist hnodup (List.eraseIdx_sublist _ _)) trivial
    case isFalse => cases hstep
  | writeGroupOnOff place group value =>
    obtain ⟨_, -, hstep⟩ := Option.bind_eq_some_iff.1 hstep
    obtain ⟨_, -, rfl⟩ := Option.map_eq_some_iff.1 hstep
    exact iff_of_true hnodup trivial
  | refreshGroups place activeGroups =>
    obtain rfl := Option.some.inj hstep
    exact iff_of_true hnodup trivial
  | resetRaises place =>
    obtain rfl := Option.some.inj hstep
    exact iff_of_true hnodup trivial

/-- Between the steps, a saved configuration loads back if the MQTT ids are different. -/
lemma Inv.loadsBack_iff (h : running.Inv) :
    running.LoadsBack ↔ running.state.allMqttIds.Nodup := by
  rw [LoadsBack, State.isAccepted_save h.valid]
  exact and_iff_left (State.describes_load_save h.valid)

lemma inv_init (h : transition.init running) :
    running.Inv ∧ running.state.allMqttIds.Nodup := by
  obtain ⟨config, haccepted, rfl⟩ := h
  exact ⟨⟨State.valid_load haccepted, by rintro _ _ ⟨⟩⟩, State.nodup_allMqttIds_load haccepted⟩

lemma inv_of_idsAreFree (h : transition.Reach IdsAreFree running) :
    running.Inv ∧ running.state.allMqttIds.Nodup := by
  refine Transition.Reach.invariant (I := fun running =>
    running.Inv ∧ running.state.allMqttIds.Nodup) (fun _ hinit => inv_init hinit) ?_ h
  rintro running event running' ⟨hinv, hnodup⟩ hfree hstep
  exact ⟨hinv.step hstep, (hinv.nodup_iff hnodup hstep).2 hfree⟩

/-- In a run whose devices only get MQTT ids that are free, the saved configuration loads back;
and a step that gives a device one that is not free is one after which it does not. -/
theorem loadsBack_of_idsAreFree (h : transition.Reach IdsAreFree running) :
    running.LoadsBack ∧ ∀ event running', running.step event = some running' →
      (running'.LoadsBack ↔ running.IdsAreFree event) := by
  obtain ⟨hinv, hnodup⟩ := inv_of_idsAreFree h
  refine ⟨hinv.loadsBack_iff.2 hnodup, fun event running' hstep => ?_⟩
  rw [(hinv.step hstep).loadsBack_iff, hinv.nodup_iff hnodup hstep]

/-! ### Runs from one configuration -/

instance (state : State) (place : ListPlace) (staying created : List Device) :
    Decidable (state.IsFree place staying created) :=
  inferInstanceAs (Decidable (_ ∧ ∀ _ ∈ _, _ ∧ ∀ _ ∈ _, _ → _))

instance (running : Running) : DecidablePred running.IdsAreFree := fun event =>
  match event with
  | .applyCommon _ _ _ _ => inferInstanceAs (Decidable (∀ _ ∈ _, _))
  | .commissioned _ _ _ => inferInstanceAs (Decidable (State.IsFree _ _ _ _))
  | .settingsReset _ => inferInstanceAs (Decidable (∀ _ ∈ _, _))
  | .writeOnOff _ _ _ | .writeGroupOnOff _ _ _ | .refreshGroups _ _ | .resetDevice _ _
  | .resetDeviceSettings _ _ | .resetRaises _ => inferInstanceAs (Decidable True)

/-- A bus with a gear whose MQTT id was set by its user. -/
def oneGear : Config where
  gateways :=
    [{ deviceId := "gw"
       buses := [{ devices := [{ short := 0, random := 17, mqttId := some "gw_bus_1_5" }] }] }]

def firstList : ListPlace := ⟨⟨0, 0⟩, .dali⟩

/-- Commissioning finds a gear at the given short address. -/
def findGear (short : Fin 64) : Event := .commissioned firstList [(0, 17)] [{ short, random := 42 }]

lemma init_oneGear : transition.init { state := load oneGear } :=
  ⟨oneGear, by decide +kernel, rfl⟩

theorem loadsBack_oneGear :
    ∃ running : Running, running.LoadsBack ∧ (running.state.devices firstList).length = 2 := by
  have hrun : (transition.run IdsAreFree { state := load oneGear }
      [findGear 4, .writeOnOff ⟨0, 0⟩ 1 { enabled := false }]).any
      (fun running => (running.state.devices firstList).length = 2) = true := by decide +kernel
  obtain ⟨running, hrunning, hany⟩ := (Option.any_eq_true _ _).1 hrun
  exact ⟨running, (loadsBack_of_idsAreFree ((Transition.Reach.init init_oneGear).run hrunning)).1,
    of_decide_eq_true hany⟩

/-- Commissioning finds a gear whose default MQTT id is the custom one of another gear: the file
that is saved then is refused at the next start. -/
theorem exists_not_loadsBack :
    ∃ running, transition.Reachable running ∧ ¬running.LoadsBack := by
  have hrun : (transition.run (fun _ _ => True) { state := load oneGear } [findGear 5]).any
      (fun running => ¬running.state.save.IsAccepted) = true := by decide +kernel
  obtain ⟨running, hrunning, hany⟩ := (Option.any_eq_true _ _).1 hrun
  exact ⟨running, (Transition.Reach.init init_oneGear).run hrunning,
    fun hloads => of_decide_eq_true hany hloads.1⟩

end Running

end WbMqttDali.Configuration
