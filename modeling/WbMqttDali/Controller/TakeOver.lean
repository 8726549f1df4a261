import Mathlib
import WbMqttDali.Device.Identity
import WbMqttDali.Lib.Transition

/-!
# Taking over what commissioning has found

`_read_devices_info` removes the devices that are gone from the publisher and the index,
initialises the new ones one after the other, and replaces the lists and the registry at the
end: first for the control gear, then for the DALI-2 devices.  An exception or a
cancellation leaves everything as it is at that await.
-/

namespace WbMqttDali.TakeOver

open WbMqttDali.Device

/-- `DaliDeviceAddress` -/
structure Address where
  short : ℕ
  random : ℕ
  deriving DecidableEq, Repr

structure ChangedDevice where
  new : Address
  oldShort : ℕ
  deriving DecidableEq, Repr

structure CommissioningResult where
  unchanged : List Address := []
  changed : List ChangedDevice := []
  missing : List Address := []
  new : List Address := []
  deriving DecidableEq, Repr

/-- A device object. -/
structure Device where
  ref : ℕ
  identity : Identity
  random : ℕ
  deriving DecidableEq, Repr

namespace Device

variable (device : Device)

def short : ℕ := device.identity.short

def mqttId : String := device.identity.mqttId

def address : Address := ⟨device.short, device.random⟩

end Device

/-- The dictionary after each of the devices is assigned to its key, in this order. -/
def assign {κ : Type} [DecidableEq κ] (key : Device → κ) (dict : κ → Option Device)
    (devices : List Device) : κ → Option Device :=
  devices.foldl (fun dict device => Function.update dict (key device) (some device)) dict

/-- The four views of the devices of a bus. -/
structure Views where
  /-- The uid of the bus. -/
  busUid : String
  /-- `dali_devices` and `dali2_devices` -/
  devices : DeviceKind → List Device
  /-- `DeviceRegistry` -/
  registry : DeviceKind → ℕ → Option Device
  devicesByMqttId : String → Option Device
  /-- The devices that `DevicePublisher` knows. -/
  published : String → Bool
  /-- The number of the next object. -/
  nextRef : ℕ
  fresh : ∀ kind, ∀ device ∈ devices kind, device.ref < nextRef
  kinds : ∀ kind, ∀ device ∈ devices kind, device.identity.kind = kind

namespace Views

variable (views : Views) (kind : DeviceKind) (result : CommissioningResult)

def unchangedDevices : List Device :=
  (views.devices kind).filter (·.address ∈ result.unchanged)

/-- `_build_commissioned_devices`, which makes devices with automatic MQTT ids. -/
def createdDevices : List Device :=
  ((result.changed.map (·.new) ++ result.new).zipIdx views.nextRef).map fun (address, ref) =>
    { ref
      identity := { kind, busId := views.busUid, short := address.short }
      random := address.random }

lemma mem_createdDevices {views : Views} {kind : DeviceKind} {result : CommissioningResult}
    {device : Device} (h : device ∈ views.createdDevices kind result) :
    (views.nextRef ≤ device.ref ∧
        device.ref < views.nextRef + (views.createdDevices kind result).length) ∧
      device.identity.kind = kind := by
  obtain ⟨⟨address, ref⟩, hmem, rfl⟩ := List.mem_map.1 h
  obtain ⟨hle, hlt, -⟩ := List.mem_zipIdx hmem
  refine ⟨⟨hle, ?_⟩, rfl⟩
  rw [createdDevices, List.length_map, List.length_zipIdx]
  exact hlt

def removedShortAddresses (result : CommissioningResult) : List ℕ :=
  result.changed.map (·.oldShort) ++ result.missing.map (·.short)

def removedDevices : List Device :=
  (views.devices kind).filter (·.short ∈ removedShortAddresses result)

def removedIds : List String := (views.removedDevices kind result).map (·.mqttId)

/-- `_remove_device_internal` -/
def unpublish (id : String) : Views :=
  { views with published := Function.update views.published id false }

/-- `_add_device_internal` -/
def publish (id : String) : Views :=
  { views with published := Function.update views.published id true }

/-- `_devices_by_mqtt_id.pop(removed_id, None)` for each of the ids. -/
def popIds (ids : List String) : Views :=
  { views with
    devicesByMqttId := fun id => if id ∈ ids then none else views.devicesByMqttId id }

/-- `_devices_by_mqtt_id[device.mqtt_id] = device` for each of the devices. -/
def index (devices : List Device) : Views :=
  { views with devicesByMqttId := assign (·.mqttId) views.devicesByMqttId devices }

/-- The new list of a kind. -/
def newDevices : List Device :=
  (views.unchangedDevices kind result ++ views.createdDevices kind result).insertionSort
    fun device other => device.short ≤ other.short

lemma mem_newDevices {views : Views} {kind : DeviceKind} {result : CommissioningResult}
    {device : Device} : device ∈ views.newDevices kind result ↔
      device ∈ views.unchangedDevices kind result ∨ device ∈ views.createdDevices kind result := by
  rw [newDevices, (List.perm_insertionSort _ _).mem_iff, List.mem_append]

/-- The list that replaces the one of a layer has devices of that layer. -/
lemma newDevices_kinds (other : DeviceKind) : ∀ device ∈
    Function.update views.devices kind (views.newDevices kind result) other,
      device.identity.kind = other :=
  (Function.forall_update_iff _ fun (kind : DeviceKind) (devices : List Device) =>
    ∀ device ∈ devices, device.identity.kind = kind).2
    ⟨fun device hdevice => (mem_newDevices.1 hdevice).elim
      (fun h => views.kinds kind device (List.mem_filter.1 h).1) fun h => (mem_createdDevices h).2,
    fun other _ => views.kinds other⟩ other

/-- The references of the devices in the lists are below the next one. -/
lemma newDevices_fresh (other : DeviceKind) : ∀ device ∈
    Function.update views.devices kind (views.newDevices kind result) other,
      device.ref < views.nextRef + (views.createdDevices kind result).length :=
  (Function.forall_update_iff _ fun (_ : DeviceKind) (devices : List Device) =>
    ∀ device ∈ devices, device.ref < views.nextRef + (views.createdDevices kind result).length).2
    ⟨fun device hdevice => (mem_newDevices.1 hdevice).elim
      (fun h => by have := views.fresh kind device (List.mem_filter.1 h).1; omega)
      fun h => (mem_createdDevices h).1.2,
    fun other _ device hdevice => by have := views.fresh other device hdevice; omega⟩ other

/-- The lists and the registry after the devices are initialised; for DALI-2 devices the index
is updated once more. -/
def replace : Views where
  busUid := views.busUid
  devices := Function.update views.devices kind (views.newDevices kind result)
  registry := Function.update views.registry kind
    (assign (·.short) (fun _ => none) (views.newDevices kind result))
  devicesByMqttId :=
    match kind with
    | .dali => views.devicesByMqttId
    | .dali2 => assign (·.mqttId) views.devicesByMqttId (views.createdDevices kind result)
  published := views.published
  nextRef := views.nextRef + (views.createdDevices kind result).length
  fresh := views.newDevices_fresh kind result
  kinds := views.newDevices_kinds kind result

/-- The devices of both lists. -/
def all : List Device := views.devices .dali ++ views.devices .dali2

/-- The views describe the same devices. -/
structure Agree : Prop where
  index : ∀ id device, views.devicesByMqttId id = some device ↔
    device ∈ views.all ∧ device.mqttId = id
  published : ∀ id, views.published id = true ↔ ∃ device ∈ views.all, device.mqttId = id
  registry : ∀ kind short device, views.registry kind short = some device ↔
    device ∈ views.devices kind ∧ device.short = short

end Views

/-- The await at which `_read_devices_info` is suspended. -/
inductive Point where
  /-- In `_resolve_initial_names`. -/
  | resolvingNames (kind : DeviceKind)
  /-- In `rebuild`, with the ids that are still to be removed. -/
  | rebuilding (kind : DeviceKind) (left : List String)
  /-- In `_try_init_new_device`, with the devices that come after this one. -/
  | initializing (kind : DeviceKind) (device : Device) (rest : List Device)
  /-- In the refreshes of the virtual devices at the end of `_update_dali_devices`. -/
  | refreshing
  | done
  deriving DecidableEq

structure State where
  views : Views
  point : Point := .resolvingNames .dali

inductive Event where
  | namesResolved
  /-- One of the removals that `rebuild` gathers is done. -/
  | removed (id : String)
  | rebuilt
  /-- A published device with the MQTT id of the new one is removed. -/
  | unpublished
  /-- The device is published, with its controls or with an error. -/
  | published
  | initialized
  | refreshed
  deriving DecidableEq

namespace State

variable (results : DeviceKind → CommissioningResult) (state : State)

/-- On to the next created device, or to the end. -/
def nextDevice (views : Views) (kind : DeviceKind) : List Device → State
  | device :: rest => ⟨views.index [device], .initializing kind device rest⟩
  | [] =>
    match kind with
    | .dali => ⟨views.replace .dali (results .dali), .refreshing⟩
    | .dali2 => ⟨views.replace .dali2 (results .dali2), .done⟩

def step (state : State) (event : Event) : Option State :=
  match state.point, event with
  | .resolvingNames kind, .namesResolved =>
    some { state with point := .rebuilding kind (state.views.removedIds kind (results kind)) }
  | .rebuilding kind left, .removed id =>
    if id ∈ left then some ⟨state.views.unpublish id, .rebuilding kind (left.erase id)⟩ else none
  | .rebuilding kind [], .rebuilt =>
    some (nextDevice results (state.views.popIds (state.views.removedIds kind (results kind))) kind
      (state.views.createdDevices kind (results kind)))
  | .initializing _ device _, .unpublished =>
    some { state with views := state.views.unpublish device.mqttId }
  | .initializing _ device _, .published =>
    some { state with views := state.views.publish device.mqttId }
  | .initializing kind device rest, .initialized =>
    if state.views.published device.mqttId then some (nextDevice results state.views kind rest)
    else none
  | .refreshing, .refreshed => some { state with point := .resolvingNames .dali2 }
  | _, _ => none

/-- The results are taken over where the views agree. -/
def transition (views : Views) : Transition State Event where
  init := fun state => state = { views }
  step := step results

end State

/-- The devices of a kind can be taken over: none is to be removed that stays, one that does
neither gives its MQTT id to a new one, and the new ones have MQTT ids and short addresses
of their own. -/
structure Views.CanTakeOver (views : Views) (kind : DeviceKind) (result : CommissioningResult) :
    Prop where
  stays : ∀ device ∈ views.unchangedDevices kind result, device ∉ views.removedDevices kind result
  leaves : ∀ device ∈ views.devices kind, device ∉ views.unchangedDevices kind result →
    device ∉ views.removedDevices kind result →
    ∃ created ∈ views.createdDevices kind result, created.mqttId = device.mqttId
  mqttIds : ∀ created ∈ views.createdDevices kind result,
    ∀ other ∈ views.createdDevices kind result,
    created.mqttId = other.mqttId → created = other
  mqttIdsFree : ∀ created ∈ views.createdDevices kind result, ∀ device ∈ views.all,
    (device ∈ views.devices kind → device ∈ views.unchangedDevices kind result) →
    created.mqttId ≠ device.mqttId
  shorts : ∀ device ∈ views.unchangedDevices kind result ++ views.createdDevices kind result,
    ∀ other ∈ views.unchangedDevices kind result ++ views.createdDevices kind result,
    device.short = other.short → device = other

/-- The awaits at which an interruption does no harm. -/
def Views.Harmless (views : Views) (results : DeviceKind → CommissioningResult) : Point → Prop
  | .resolvingNames .dali => True
  | .rebuilding .dali left => left = views.removedIds .dali (results .dali)
  | .refreshing | .resolvingNames .dali2 => views.CanTakeOver .dali (results .dali)
  | .rebuilding .dali2 left =>
    views.CanTakeOver .dali (results .dali) ∧ left = views.removedIds .dali2 (results .dali2)
  | .initializing _ _ _ | .done => False

/-! ### Dictionaries that are filled from a list -/

section Assign

variable {κ : Type} [DecidableEq κ] {key : Device → κ} {dict dict' : κ → Option Device}
  {devices : List Device} {k : κ}

lemma assign_of_forall_ne (h : ∀ device ∈ devices, key device ≠ k) :
    assign key dict devices k = dict k := by
  induction devices generalizing dict with
  | nil => rfl
  | cons device devices ih =>
    rw [List.forall_mem_cons] at h
    show assign key (Function.update dict (key device) (some device)) devices k = dict k
    rw [ih h.2, Function.update_of_ne h.1.symm]

/-- The last of the devices with a key is found. -/
lemma exists_assign_eq (h : ∃ device ∈ devices, key device = k) :
    ∃ device ∈ devices, key device = k ∧ ∀ dict, assign key dict devices k = some device := by
  induction devices with
  | nil => simp at h
  | cons device devices ih =>
    by_cases hrest : ∃ device ∈ devices, key device = k
    · obtain ⟨found, hfound, hkey, heq⟩ := ih hrest
      exact ⟨found, List.mem_cons_of_mem _ hfound, hkey, fun dict => heq _⟩
    · have hkey : key device = k := by
        obtain ⟨other, hother, hkey⟩ := h
        rcases List.mem_cons.1 hother with rfl | hother
        · exact hkey
        · exact absurd ⟨other, hother, hkey⟩ hrest
      refine ⟨device, List.mem_cons_self, hkey, fun dict => ?_⟩
      show assign key (Function.update dict (key device) (some device)) devices k = some device
      rw [assign_of_forall_ne fun other hother heq => hrest ⟨other, hother, heq⟩, ← hkey,
        Function.update_self]

lemma assign_append {devices' : List Device} :
    assign key dict (devices ++ devices') = assign key (assign key dict devices) devices' :=
  List.foldl_append

lemma assign_assign : assign key (assign key dict devices) devices = assign key dict devices := by
  ext k : 1
  by_cases h : ∃ device ∈ devices, key device = k
  · obtain ⟨device, -, -, heq⟩ := exists_assign_eq h
    rw [heq, heq]
  · exact assign_of_forall_ne fun device hdevice hkey => h ⟨device, hdevice, hkey⟩

/-- If different devices have different keys, all of them are found. -/
lemma assign_eq_some_iff (hinj : ∀ device ∈ devices, ∀ other ∈ devices, key device = key other →
    device = other) (h : ∃ device ∈ devices, key device = k) {device : Device} :
    assign key dict devices k = some device ↔ device ∈ devices ∧ key device = k := by
  obtain ⟨found, hfound, hkey, heq⟩ := exists_assign_eq h
  rw [heq, Option.some.injEq]
  constructor
  · rintro rfl
    exact ⟨hfound, hkey⟩
  · rintro ⟨hdevice, hkey'⟩
    exact hinj found hfound device hdevice (hkey.trans hkey'.symm)

end Assign

namespace Views

variable {views : Views} {kind : DeviceKind} {result : CommissioningResult}

/-! ### What a completed take-over leaves -/

/-- The views after all devices of a kind are taken over. -/
def takenOver (views : Views) (kind : DeviceKind) (result : CommissioningResult) : Views :=
  { (((views.popIds (views.removedIds kind result)).index
      (views.createdDevices kind result)).replace kind result) with
    published := fun id =>
      (views.createdDevices kind result).any (·.mqttId = id) ||
        views.published id && id ∉ views.removedIds kind result }

lemma mem_all {device : Device} : device ∈ views.all ↔ ∃ kind, device ∈ views.devices kind := by
  rw [all, List.mem_append]
  exact ⟨fun h => h.elim (⟨.dali, ·⟩) (⟨.dali2, ·⟩), fun ⟨kind, h⟩ => by cases kind <;> simp [h]⟩

lemma devicesByMqttId_takenOver :
    (views.takenOver kind result).devicesByMqttId =
      assign (·.mqttId) (views.popIds (views.removedIds kind result)).devicesByMqttId
        (views.createdDevices kind result) := by
  cases kind with
  | dali => rfl
  | dali2 => exact assign_assign

lemma mem_all_takenOver {device : Device} :
    device ∈ (views.takenOver kind result).all ↔
      device ∈ views.unchangedDevices kind result ∨ device ∈ views.createdDevices kind result ∨
        ∃ other, other ≠ kind ∧ device ∈ views.devices other := by
  have hdevices : (views.takenOver kind result).devices =
      Function.update views.devices kind (views.newDevices kind result) := rfl
  rw [mem_all, hdevices]
  constructor
  · rintro ⟨other, h⟩
    by_cases heq : other = kind
    · subst heq
      rw [Function.update_self, mem_newDevices] at h
      exact h.imp_right .inl
    · rw [Function.update_of_ne heq] at h
      exact .inr (.inr ⟨other, heq, h⟩)
  · rintro (h | h | ⟨other, hne, h⟩)
    · exact ⟨kind, by rw [Function.update_self, mem_newDevices]; exact .inl h⟩
    · exact ⟨kind, by rw [Function.update_self, mem_newDevices]; exact .inr h⟩
    · exact ⟨other, by rwa [Function.update_of_ne hne]⟩

/-- A created device is none that was there before. -/
lemma not_mem_all_of_created {device : Device} (h : device ∈ views.createdDevices kind result) :
    device ∉ views.all := by
  intro hall
  obtain ⟨other, hother⟩ := mem_all.1 hall
  have := views.fresh other device hother
  have := (mem_createdDevices h).1.1
  omega

namespace Agree

variable (h : views.Agree)

include h

lemma eq_of_mqttId {device other : Device} (hdevice : device ∈ views.all)
    (hother : other ∈ views.all)
    (hid : device.mqttId = other.mqttId) : device = other := by
  have := (h.index _ device).2 ⟨hdevice, hid⟩
  rw [(h.index _ other).2 ⟨hother, rfl⟩] at this
  exact (Option.some.inj this).symm

/-- A device is removed by its MQTT id exactly if it is to be removed. -/
lemma mqttId_mem_removedIds {device : Device} (hdevice : device ∈ views.all) :
    device.mqttId ∈ views.removedIds kind result ↔ device ∈ views.removedDevices kind result := by
  constructor
  · intro hmem
    obtain ⟨removed, hremoved, hid⟩ := List.mem_map.1 hmem
    have hall := mem_all.2 ⟨kind, (List.mem_filter.1 hremoved).1⟩
    rwa [← h.eq_of_mqttId hall hdevice hid]
  · exact fun hmem => List.mem_map_of_mem hmem

/-- A device that stays, or of the other kind, is still found and published after the ids of the
removed ones are gone. -/
lemma not_mem_removedIds {device : Device} (hcan : views.CanTakeOver kind result)
    (hdevice : device ∈ views.unchangedDevices kind result ∨
      ∃ other, other ≠ kind ∧ device ∈ views.devices other) :
    device ∈ views.all ∧ device.mqttId ∉ views.removedIds kind result := by
  rcases hdevice with hstays | ⟨other, hne, hother⟩
  · have hall := mem_all.2 ⟨kind, (List.mem_filter.1 hstays).1⟩
    rw [h.mqttId_mem_removedIds hall]
    exact ⟨hall, hcan.stays device hstays⟩
  · have hall := mem_all.2 ⟨other, hother⟩
    rw [h.mqttId_mem_removedIds hall]
    refine ⟨hall, fun hremoved => hne ?_⟩
    rw [← views.kinds other device hother, views.kinds kind device (List.mem_filter.1 hremoved).1]

/-- A device whose MQTT id is neither removed nor given to a new one stays. -/
lemma stays_of_not_removed {device : Device} (hcan : views.CanTakeOver kind result)
    (hdevice : device ∈ views.all) (hremoved : device.mqttId ∉ views.removedIds kind result)
    (hcreated : ¬∃ created ∈ views.createdDevices kind result, created.mqttId = device.mqttId) :
    device ∈ views.unchangedDevices kind result ∨
      ∃ other, other ≠ kind ∧ device ∈ views.devices other := by
  obtain ⟨other, hother⟩ := mem_all.1 hdevice
  by_cases heq : other = kind
  · subst heq
    left
    by_contra hnot
    rw [h.mqttId_mem_removedIds hdevice] at hremoved
    exact hcreated (hcan.leaves device hother hnot hremoved)
  · exact .inr ⟨other, heq, hother⟩

lemma takenOver (hcan : views.CanTakeOver kind result) : (views.takenOver kind result).Agree where
  index id device := by
    rw [devicesByMqttId_takenOver, mem_all_takenOver]
    -- an id of a created device is its own; any other one is that of a device that stays
    by_cases hid : ∃ created ∈ views.createdDevices kind result, created.mqttId = id
    · rw [assign_eq_some_iff hcan.mqttIds hid]
      refine and_congr_left fun hdevice => ⟨fun h => .inr (.inl h), ?_⟩
      obtain ⟨created, hcreated, rfl⟩ := hid
      rintro (hstays | hmem | ⟨other, hne, hother⟩)
      · exact absurd hdevice.symm (hcan.mqttIdsFree created hcreated device
          (mem_all.2 ⟨kind, (List.mem_filter.1 hstays).1⟩) fun _ => hstays)
      · exact hmem
      · refine absurd hdevice.symm (hcan.mqttIdsFree created hcreated device
          (mem_all.2 ⟨other, hother⟩) fun hkind => absurd ?_ hne)
        rw [← views.kinds other device hother, views.kinds kind device hkind]
    · rw [assign_of_forall_ne fun created hcreated heq => hid ⟨created, hcreated, heq⟩]
      simp only [popIds, ite_eq_iff, reduceCtorEq, and_false, false_or, h.index]
      constructor
      · rintro ⟨hremoved, hall, rfl⟩
        exact ⟨(h.stays_of_not_removed hcan hall hremoved hid).imp_right .inr, rfl⟩
      · rintro ⟨hstays | hcreated | hother, rfl⟩
        · obtain ⟨hall, hnot⟩ := h.not_mem_removedIds hcan (.inl hstays)
          exact ⟨hnot, hall, rfl⟩
        · exact absurd ⟨device, hcreated, rfl⟩ hid
        · obtain ⟨hall, hnot⟩ := h.not_mem_removedIds hcan (.inr hother)
          exact ⟨hnot, hall, rfl⟩
  published id := by
    simp only [Views.takenOver, Bool.or_eq_true, List.any_eq_true, decide_eq_true_eq,
      Bool.and_eq_true, h.published]
    constructor
    · rintro (⟨created, hcreated, hid⟩ | ⟨⟨device, hall, rfl⟩, hremoved⟩)
      · exact ⟨created, mem_all_takenOver.2 (.inr (.inl hcreated)), hid⟩
      · by_cases hid : ∃ created ∈ views.createdDevices kind result,
            created.mqttId = device.mqttId
        · obtain ⟨created, hcreated, hid⟩ := hid
          exact ⟨created, mem_all_takenOver.2 (.inr (.inl hcreated)), hid⟩
        · exact ⟨device, mem_all_takenOver.2
            ((h.stays_of_not_removed hcan hall hremoved hid).imp_right .inr), rfl⟩
    · rintro ⟨device, hdevice, rfl⟩
      rcases mem_all_takenOver.1 hdevice with hstays | hcreated | hother
      · obtain ⟨hall, hnot⟩ := h.not_mem_removedIds hcan (.inl hstays)
        exact .inr ⟨⟨device, hall, rfl⟩, hnot⟩
      · exact .inl ⟨device, hcreated, rfl⟩
      · obtain ⟨hall, hnot⟩ := h.not_mem_removedIds hcan (.inr hother)
        exact .inr ⟨⟨device, hall, rfl⟩, hnot⟩
  registry other short device := by
    have hdevices : (views.takenOver kind result).devices =
        Function.update views.devices kind (views.newDevices kind result) := rfl
    have hregistry : (views.takenOver kind result).registry = Function.update views.registry kind
        (assign (·.short) (fun _ => none) (views.newDevices kind result)) := rfl
    rw [hdevices, hregistry]
    -- the registry of the other kind is left alone
    by_cases heq : other = kind
    · subst heq
      rw [Function.update_self, Function.update_self]
      by_cases hshort : ∃ device ∈ views.newDevices other result, device.short = short
      · refine assign_eq_some_iff (fun device hdevice device' hdevice' => ?_) hshort
        rw [mem_newDevices, ← List.mem_append] at hdevice hdevice'
        exact hcan.shorts device hdevice device' hdevice'
      · rw [assign_of_forall_ne fun device hdevice heq => hshort ⟨device, hdevice, heq⟩]
        simp only [reduceCtorEq, false_iff, not_and]
        exact fun hdevice heq => hshort ⟨device, hdevice, heq⟩
    · rw [Function.update_of_ne heq, Function.update_of_ne heq]
      exact h.registry other short device

/-- A take-over after which the views agree was possible. -/
lemma canTakeOver (h' : (views.takenOver kind result).Agree) : views.CanTakeOver kind result := by
  -- what the index finds under the MQTT id of a created device
  have hfound : ∀ {created device : Device}, created ∈ views.createdDevices kind result →
      device ∈ (views.takenOver kind result).all → created.mqttId = device.mqttId →
      created = device := fun hcreated hdevice hid =>
    h'.eq_of_mqttId (mem_all_takenOver.2 (.inr (.inl hcreated))) hdevice hid
  -- what it finds under another one
  have hleft : ∀ {device : Device},
      ¬(∃ created ∈ views.createdDevices kind result, created.mqttId = device.mqttId) →
      (views.takenOver kind result).devicesByMqttId device.mqttId =
        if device.mqttId ∈ views.removedIds kind result then none
        else views.devicesByMqttId device.mqttId := by
    intro device hid
    rw [devicesByMqttId_takenOver,
      assign_of_forall_ne fun created hcreated heq => hid ⟨created, hcreated, heq⟩]
    rfl
  refine ⟨?_, ?_, ?_, ?_, ?_⟩
  · intro device hstays hremoved
    have hall := mem_all.2 ⟨kind, (List.mem_filter.1 hstays).1⟩
    have hnew := mem_all_takenOver.2 (.inl hstays : _ ∨ _ ∨ _)
    by_cases hid : ∃ created ∈ views.createdDevices kind result, created.mqttId = device.mqttId
    · obtain ⟨created, hcreated, hid⟩ := hid
      exact not_mem_all_of_created hcreated (hfound hcreated hnew hid ▸ hall)
    · have := (h'.index _ device).2 ⟨hnew, rfl⟩
      rw [hleft hid, if_pos ((h.mqttId_mem_removedIds hall).2 hremoved)] at this
      cases this
  · intro device hdevice hnot hremoved
    by_contra hid
    have hall := mem_all.2 ⟨kind, hdevice⟩
    have := hleft hid
    rw [if_neg (mt (h.mqttId_mem_removedIds hall).1 hremoved),
      (h.index _ device).2 ⟨hall, rfl⟩] at this
    rcases mem_all_takenOver.1 ((h'.index _ device).1 this).1 with hstays | hcreated |
      ⟨other, hne, hother⟩
    · exact hnot hstays
    · exact hid ⟨device, hcreated, rfl⟩
    · refine hne ?_
      rw [← views.kinds other device hother, views.kinds kind device hdevice]
  · intro created hcreated other hother hid
    exact hfound hcreated (mem_all_takenOver.2 (.inr (.inl hother))) hid
  · intro created hcreated device hall hstays hid
    obtain ⟨other, hother⟩ := mem_all.1 hall
    have hnew : device ∈ (views.takenOver kind result).all := by
      by_cases heq : other = kind
      · subst heq
        exact mem_all_takenOver.2 (.inl (hstays hother))
      · exact mem_all_takenOver.2 (.inr (.inr ⟨other, heq, hother⟩))
    exact not_mem_all_of_created hcreated (hfound hcreated hnew hid ▸ hall)
  · intro device hdevice other hother hshort
    have hmem : ∀ {device}, device ∈ views.unchangedDevices kind result ++
        views.createdDevices kind result → device ∈ (views.takenOver kind result).devices kind := by
      intro device hdevice
      show device ∈ Function.update views.devices kind (views.newDevices kind result) kind
      rw [Function.update_self, mem_newDevices, ← List.mem_append]
      exact hdevice
    have := (h'.registry kind _ device).2 ⟨hmem hdevice, hshort⟩
    rw [(h'.registry kind _ other).2 ⟨hmem hother, rfl⟩] at this
    exact (Option.some.inj this).symm

lemma takenOver_iff : (views.takenOver kind result).Agree ↔ views.CanTakeOver kind result :=
  ⟨h.canTakeOver, h.takenOver⟩

end Agree

end Views

end WbMqttDali.TakeOver
