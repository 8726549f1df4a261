import Mathlib
import WbMqttDali.Device.Identity
import WbMqttDali.Lib.Transition

/-!
# Short addresses and MQTT ids across the devices of the gateways

`set_device_rpc_handler` checks the short address and the MQTT id that a request asks
for against the other devices and then puts the request into the queue of the bus,
whose polling loop applies it later.  The loops of different buses run concurrently.
-/

namespace WbMqttDali.SetDevice

open WbMqttDali.Device

/-- A device object. -/
abbrev DeviceRef := ℕ

/-- An `APPLY_SETTING` task. -/
structure ApplySetting where
  device : DeviceRef
  newValues : NewValues
  deriving DecidableEq, Repr

/-- The devices of all buses of all gateways, with the settings that the buses are to
apply and those they are applying.  A bus goes by its uid. -/
structure Gateway where
  devices : List DeviceRef
  device : DeviceRef → Identity
  tasksQueue : String → List ApplySetting := fun _ => []
  /-- The change whose short address is being written. -/
  writing : String → Option (DeviceRef × CommonChange) := fun _ => none

namespace Gateway

variable (gateway : Gateway)

/-- `check_short_address_conflict` among the devices of the target's kind on its bus. -/
def shortAddressConflict (target : DeviceRef) (newShort : ℕ) : Bool :=
  gateway.devices.any fun device =>
    (gateway.device device).busId = (gateway.device target).busId &&
      (gateway.device device).kind = (gateway.device target).kind &&
      device ≠ target && (gateway.device device).short = newShort

/-- `check_mqtt_id_conflict`. -/
def mqttIdConflict (target : DeviceRef) (newMqttId : String) : Bool :=
  gateway.devices.any fun device =>
    device ≠ target && (gateway.device device).mqttId = newMqttId

/-- The checks of `set_device_rpc_handler`. -/
def accepts (target : DeviceRef) (newValues : NewValues) : Bool :=
  (newValues.shortAddress.all fun newShort =>
    newShort = (gateway.device target).short || !gateway.shortAddressConflict target newShort) &&
  newValues.mqttId.all fun newMqttId =>
    newMqttId = (gateway.device target).mqttId || !gateway.mqttIdConflict target newMqttId

/-- `set_device_rpc_handler` up to the queue; a refused request raises. -/
def setDevice (target : DeviceRef) (newValues : NewValues) : Gateway :=
  if target ∈ gateway.devices ∧ gateway.accepts target newValues = true then
    { gateway with
      tasksQueue := Function.update gateway.tasksQueue (gateway.device target).busId
        (gateway.tasksQueue (gateway.device target).busId ++ [⟨target, newValues⟩]) }
  else gateway

/-- The change takes effect at a short address. -/
def finish (target : DeviceRef) (change : CommonChange) (short : ℕ) : Gateway :=
  { gateway with
    device := Function.update gateway.device target
      ((gateway.device target).applyChange change short) }

/-- The next task of a bus that is not applying one. -/
def nextTask (bus : String) : Option (ApplySetting × Gateway) :=
  match gateway.writing bus, gateway.tasksQueue bus with
  | none, task :: rest =>
    some (task, { gateway with tasksQueue := Function.update gateway.tasksQueue bus rest })
  | _, _ => none

end Gateway

inductive Event where
  /-- A request arrives. -/
  | setDevice (target : DeviceRef) (newValues : NewValues)
  /-- The next task of the bus is dropped, or raises before the common parameters. -/
  | taskRaises (bus : String)
  /-- The next task of the bus comes to the common parameters. -/
  | applyCommon (bus : String)
  /-- The sequence that writes the short address raises. -/
  | sequenceRaises (bus : String)
  /-- The sequence returns what the device reports. -/
  | sequenceReturns (bus : String) (reported : Option ℕ)
  deriving DecidableEq, Repr

namespace Gateway

def step (gateway : Gateway) : Event → Option Gateway
  | .setDevice target newValues => some (gateway.setDevice target newValues)
  | .taskRaises bus => (gateway.nextTask bus).map Prod.snd
  | .applyCommon bus =>
    (gateway.nextTask bus).bind fun (task, gateway) =>
      if task.newValues.validate then
        let device := gateway.device task.device
        let change := device.commonChange task.newValues
        if change.newShortAddress = device.short then
          some (gateway.finish task.device change device.short)
        else
          some
            { gateway with
              writing := Function.update gateway.writing bus (some (task.device, change)) }
      else none
  | .sequenceRaises bus =>
    (gateway.writing bus).map fun _ =>
      { gateway with writing := Function.update gateway.writing bus none }
  | .sequenceReturns bus reported =>
    (gateway.writing bus).map fun (target, change) =>
      let gateway := { gateway with writing := Function.update gateway.writing bus none }
      gateway.finish target change ((gateway.device target).addressAfter change reported)

/-- No two devices have the same MQTT id, and no two devices of one kind on one bus have
the same short address. -/
def DistinctIdentities (gateway : Gateway) : Prop :=
  ∀ device ∈ gateway.devices, ∀ other ∈ gateway.devices, other ≠ device →
    (gateway.device other).mqttId ≠ (gateway.device device).mqttId ∧
      ((gateway.device other).busId = (gateway.device device).busId →
        (gateway.device other).kind = (gateway.device device).kind →
        (gateway.device other).short ≠ (gateway.device device).short)

def transition : Transition Gateway Event where
  init := fun gateway =>
    gateway.DistinctIdentities ∧ (∀ bus, gateway.tasksQueue bus = []) ∧
      ∀ bus, gateway.writing bus = none
  step := step

/-- The checks of the handler, made when the change takes effect, on the short address
and the MQTT id that the device then gets. -/
def FreeAt (gateway : Gateway) (target : DeviceRef) (change : CommonChange) (short : ℕ) : Prop :=
  gateway.shortAddressConflict target short = false ∧
    gateway.mqttIdConflict target ((gateway.device target).mqttIdAt change short) = false

instance (gateway : Gateway) (target : DeviceRef) (change : CommonChange) (short : ℕ) :
    Decidable (gateway.FreeAt target change short) :=
  inferInstanceAs (Decidable (_ ∧ _))

/-- What takes effect is still free at that moment. -/
def StillFree (gateway : Gateway) : Event → Prop
  | .applyCommon bus =>
    ∀ task ∈ (gateway.tasksQueue bus).head?,
      let device := gateway.device task.device
      let change := device.commonChange task.newValues
      change.newShortAddress = device.short → gateway.FreeAt task.device change device.short
  | .sequenceReturns bus reported =>
    ∀ writing ∈ gateway.writing bus,
      gateway.FreeAt writing.1 writing.2
        ((gateway.device writing.1).addressAfter writing.2 reported)
  | .setDevice _ _ | .taskRaises _ | .sequenceRaises _ => True

section Steps

variable {gateway gateway' : Gateway} {event : Event} {target : DeviceRef}
  {change : CommonChange} {short : ℕ} {newValues : NewValues} {bus : String}

lemma shortAddressConflict_eq_false_iff :
    gateway.shortAddressConflict target short = false ↔
      ∀ device ∈ gateway.devices, device ≠ target →
        (gateway.device device).busId = (gateway.device target).busId →
        (gateway.device device).kind = (gateway.device target).kind →
        (gateway.device device).short ≠ short := by
  simp only [shortAddressConflict, List.any_eq_false, Bool.and_eq_true, decide_eq_true_eq]
  exact ⟨fun h device hdevice hne hbus hkind hshort => h device hdevice
    ⟨⟨⟨hbus, hkind⟩, hne⟩, hshort⟩,
    fun h device hdevice hall => h device hdevice hall.1.2 hall.1.1.1 hall.1.1.2 hall.2⟩

lemma mqttIdConflict_eq_false_iff {mqttId : String} :
    gateway.mqttIdConflict target mqttId = false ↔
      ∀ device ∈ gateway.devices, device ≠ target → (gateway.device device).mqttId ≠ mqttId := by
  simp only [mqttIdConflict, List.any_eq_false, Bool.and_eq_true, decide_eq_true_eq, not_and]

/-- A change that is free when it takes effect keeps the identities apart. -/
lemma distinctIdentities_finish (h : gateway.DistinctIdentities)
    (hfree : gateway.FreeAt target change short) :
    (gateway.finish target change short).DistinctIdentities := by
  obtain ⟨hshort, hmqttId⟩ := hfree
  rw [shortAddressConflict_eq_false_iff] at hshort
  rw [mqttIdConflict_eq_false_iff] at hmqttId
  -- the changed device against any other one
  have hother : ∀ other ∈ gateway.devices, other ≠ target →
      (gateway.device other).mqttId ≠
          ((gateway.device target).applyChange change short).mqttId ∧
        ((gateway.device other).busId =
            ((gateway.device target).applyChange change short).busId →
          (gateway.device other).kind =
            ((gateway.device target).applyChange change short).kind →
          (gateway.device other).short ≠
            ((gateway.device target).applyChange change short).short) := by
    intro other hmem hne
    rw [Identity.applyChange_mqttId, Identity.applyChange_busId, Identity.applyChange_kind,
      Identity.applyChange_short]
    exact ⟨hmqttId other hmem hne, hshort other hmem hne⟩
  intro device hdevice other hmem hne
  simp only [finish]
  by_cases heq : device = target
  · subst heq
    rw [Function.update_self, Function.update_of_ne hne]
    exact hother other hmem hne
  · rw [Function.update_of_ne heq]
    by_cases heq' : other = target
    · subst heq'
      rw [Function.update_self]
      obtain ⟨hid, hshort'⟩ := hother device hdevice heq
      exact ⟨hid.symm, fun hbus hkind => (hshort' hbus.symm hkind.symm).symm⟩
    · rw [Function.update_of_ne heq']
      exact h device hdevice other hmem hne

lemma nextTask_eq_some {task : ApplySetting} (h : gateway.nextTask bus = some (task, gateway')) :
    (gateway.tasksQueue bus).head? = some task ∧ gateway'.devices = gateway.devices ∧
      gateway'.device = gateway.device := by
  rw [nextTask] at h
  split at h
  case h_1 task' rest hwriting hqueue =>
    obtain ⟨rfl, rfl⟩ := Prod.mk.inj (Option.some.inj h)
    rw [hqueue]
    exact ⟨rfl, rfl, rfl⟩
  case h_2 => cases h

lemma DistinctIdentities.congr (h : gateway.DistinctIdentities)
    (hdevices : gateway'.devices = gateway.devices) (hdevice : gateway'.device = gateway.device) :
    gateway'.DistinctIdentities := by
  rwa [DistinctIdentities, hdevices, hdevice]

lemma FreeAt.congr (h : gateway.FreeAt target change short)
    (hdevices : gateway'.devices = gateway.devices) (hdevice : gateway'.device = gateway.device) :
    gateway'.FreeAt target change short := by
  rw [FreeAt, shortAddressConflict, mqttIdConflict, hdevices, hdevice]
  exact h

lemma distinctIdentities_step (h : gateway.DistinctIdentities) (hok : gateway.StillFree event)
    (hstep : gateway.step event = some gateway') : gateway'.DistinctIdentities := by
  cases event with
  | setDevice target newValues =>
    obtain rfl := Option.some.inj hstep
    rw [setDevice]
    split
    · exact h
    · exact h
  | taskRaises bus =>
    obtain ⟨⟨task, _⟩, hnext, rfl⟩ := Option.map_eq_some_iff.1 hstep
    obtain ⟨-, hdevices, hdevice⟩ := nextTask_eq_some hnext
    exact h.congr hdevices hdevice
  | applyCommon bus =>
    obtain ⟨⟨task, taken⟩, hnext, hstep⟩ := Option.bind_eq_some_iff.1 hstep
    obtain ⟨hhead, hdevices, hdevice⟩ := nextTask_eq_some hnext
    simp only at hstep
    split at hstep
    case isTrue =>
      split at hstep
      case isTrue hsame =>
        obtain rfl := Option.some.inj hstep
        rw [hdevice] at hsame ⊢
        exact distinctIdentities_finish (h.congr hdevices hdevice)
          ((hok task hhead hsame).congr hdevices hdevice)
      case isFalse =>
        obtain rfl := Option.some.inj hstep
        exact h.congr hdevices hdevice
    case isFalse => cases hstep
  | sequenceRaises bus =>
    obtain ⟨_, -, rfl⟩ := Option.map_eq_some_iff.1 hstep
    exact h
  | sequenceReturns bus reported =>
    obtain ⟨⟨target, change⟩, hwriting, rfl⟩ := Option.map_eq_some_iff.1 hstep
    exact distinctIdentities_finish (h.congr rfl rfl) ((hok _ hwriting).congr rfl rfl)

end Steps

/-- The identities stay distinct in a run whose changes are still free when they take
effect. -/
theorem distinctIdentities_of_stillFree {gateway : Gateway}
    (h : transition.Reach StillFree gateway) : gateway.DistinctIdentities :=
  Transition.Reach.invariant (T := transition) (I := DistinctIdentities)
    (fun _ hinit => hinit.1)
    (fun _ _ _ hdistinct hok hstep => distinctIdentities_step hdistinct hok hstep) h

instance (gateway : Gateway) : DecidablePred gateway.StillFree := fun event =>
  match event with
  | .applyCommon _ => inferInstanceAs (Decidable (∀ _ ∈ _, _ → _))
  | .sequenceReturns _ _ => inferInstanceAs (Decidable (∀ _ ∈ _, _))
  | .setDevice _ _ | .taskRaises _ | .sequenceRaises _ => inferInstanceAs (Decidable True)

instance (gateway : Gateway) : Decidable gateway.DistinctIdentities :=
  inferInstanceAs (Decidable (∀ _ ∈ _, ∀ _ ∈ _, _ → _ ∧ (_ → _ → _)))

/-- Two control gears of one bus. -/
def twoGears (first second : Identity) : Gateway where
  devices := [0, 1]
  device := fun device => if device = 0 then first else second

lemma twoGears_init {first second : Identity} (h : (twoGears first second).DistinctIdentities) :
    transition.init (twoGears first second) :=
  ⟨h, fun _ => rfl, fun _ => rfl⟩

/-- A gear with the short address `short` and automatic name and MQTT id. -/
def gear (short : ℕ) : Identity where
  kind := .dali
  busId := "gw_bus_1"
  short := short

/-- A request for another short address, with the name and the MQTT id sent back. -/
def readdress (target : DeviceRef) (device : Identity) (short : ℕ) : List Event :=
  [.setDevice target ⟨some short, some device.name, some device.mqttId⟩]

/-- Two requests for different short addresses, both checked before the first takes effect; then
the second gear is given the address that the first one has left. -/
def overlappingRequests : List Event :=
  readdress 0 (gear 5) 7 ++ readdress 1 (gear 6) 8 ++
    [.applyCommon "gw_bus_1", .sequenceReturns "gw_bus_1" (some 7), .applyCommon "gw_bus_1"] ++
    readdress 1 (gear 6) 5 ++
    [.sequenceReturns "gw_bus_1" (some 8), .applyCommon "gw_bus_1",
      .sequenceReturns "gw_bus_1" (some 5)]

theorem distinctIdentities_overlappingRequests :
    ∃ gateway : Gateway,
      transition.run StillFree (twoGears (gear 5) (gear 6)) overlappingRequests = some gateway ∧
      (gateway.device 0).mqttId = "gw_bus_1_7" ∧ (gateway.device 1).short = 5 ∧
      gateway.DistinctIdentities := by
  have hrun : (transition.run StillFree (twoGears (gear 5) (gear 6)) overlappingRequests).any
      (fun gateway => (gateway.device 0).mqttId = "gw_bus_1_7" ∧ (gateway.device 1).short = 5) =
        true := by decide +kernel
  obtain ⟨gateway, hgateway, hany⟩ := (Option.any_eq_true _ _).1 hrun
  obtain ⟨hmqttId, hshort⟩ := of_decide_eq_true hany
  exact ⟨gateway, hgateway, hmqttId, hshort, distinctIdentities_of_stillFree
    ((Transition.Reach.init (twoGears_init (by decide +kernel))).run hgateway)⟩

/-- An automatic MQTT id moves along with the short address onto the custom one of another
device: the request sends the old id back, so only that one is checked. -/
theorem exists_identities_collide :
    ∃ gateway, transition.Reachable gateway ∧ ¬gateway.DistinctIdentities := by
  have hrun : (transition.run (fun _ _ => True)
      (twoGears (gear 5) { gear 6 with customMqttId := some "gw_bus_1_7" })
      (readdress 0 (gear 5) 7 ++
        [.applyCommon "gw_bus_1", .sequenceReturns "gw_bus_1" (some 7)])).any
      (fun gateway => ¬gateway.DistinctIdentities) = true := by decide +kernel
  obtain ⟨gateway, hgateway, hany⟩ := (Option.any_eq_true _ _).1 hrun
  exact ⟨gateway, (Transition.Reach.init (twoGears_init (by decide +kernel))).run hgateway,
    of_decide_eq_true hany⟩

/-- Two requests for one short address, both checked before the first takes effect. -/
theorem exists_identities_collide_overlapping :
    ∃ gateway, transition.Reachable gateway ∧ ¬gateway.DistinctIdentities := by
  have hrun : (transition.run (fun _ _ => True) (twoGears (gear 5) (gear 6))
      (readdress 0 (gear 5) 7 ++ readdress 1 (gear 6) 7 ++
        [.applyCommon "gw_bus_1", .sequenceReturns "gw_bus_1" (some 7),
          .applyCommon "gw_bus_1", .sequenceReturns "gw_bus_1" (some 7)])).any
      (fun gateway => ¬gateway.DistinctIdentities) = true := by decide +kernel
  obtain ⟨gateway, hgateway, hany⟩ := (Option.any_eq_true _ _).1 hrun
  exact ⟨gateway, (Transition.Reach.init (twoGears_init (by decide +kernel))).run hgateway,
    of_decide_eq_true hany⟩

end Gateway

end WbMqttDali.SetDevice
