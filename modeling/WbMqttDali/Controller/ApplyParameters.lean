import Mathlib
import WbMqttDali.Device.Identity
import WbMqttDali.Lib.Dict
import WbMqttDali.Lib.Transition

/-!
# Applying parameters and the indexes of a bus

`apply_parameters` puts a task into the queue, remembers the short address and the
MQTT id that the device has at that moment, and waits.  The polling loop changes the
device.  After that the call brings the indexes in line with it: it publishes the
device anew if its MQTT id has changed, and moves it in the registry if its short
address has.  Every step of this waits for MQTT, and other calls go on meanwhile.
-/

namespace WbMqttDali.ApplyParameters

open WbMqttDali.Device

/-- A device object. -/
abbrev DeviceRef := ℕ

/-! ### The registry -/

/-- `DeviceRegistry`: the devices by short address, control gear and control devices apart. -/
abbrev DeviceRegistry := DeviceKind → Dict ℕ DeviceRef

namespace DeviceRegistry

/-- `update_short_address` for a device that now has the short address `short`. -/
def updateShortAddress (registry : DeviceRegistry) (device : DeviceRef) (kind : DeviceKind)
    (short oldShort : ℕ) : DeviceRegistry :=
  let index := registry kind
  let index := if index.get? oldShort = some device then index.erase oldShort else index
  Function.update registry kind (index.set short device)

variable {registry : DeviceRegistry} {device other : DeviceRef} {kind kind' : DeviceKind}
  {short oldShort key : ℕ}

lemma get?_updateShortAddress
    (h : (updateShortAddress registry device kind short oldShort kind').get?
    key = some other) :
    kind' = kind ∧ key = short ∧ other = device ∨
      ((registry kind').get? key = some other ∧ (kind' = kind → key ≠ short) ∧
        (other = device → kind' = kind → key ≠ oldShort)) := by
  by_cases hkind : kind' = kind
  · subst hkind
    simp only [updateShortAddress, Function.update_self, Dict.get?_set] at h
    split at h
    case isTrue heq => exact .inl ⟨rfl, heq, (Option.some.inj h).symm⟩
    case isFalse hne =>
      split at h
      case isTrue =>
        rw [Dict.get?_erase] at h
        split at h
        · cases h
        · exact .inr ⟨h, fun _ => hne, fun _ _ => ‹_›⟩
      case isFalse hold =>
        refine .inr ⟨h, fun _ => hne, ?_⟩
        rintro rfl - rfl
        exact hold h
  · simp only [updateShortAddress, Function.update_of_ne hkind] at h
    exact .inr ⟨h, fun heq => absurd heq hkind, fun _ heq => absurd heq hkind⟩

@[simp] lemma get?_updateShortAddress_self :
    (updateShortAddress registry device kind short oldShort kind).get? short = some device := by
  simp only [updateShortAddress, Function.update_self, Dict.get?_set_self]

/-- The other devices keep their places. -/
lemma get?_updateShortAddress_of_ne (h : (registry kind').get? key = some other)
    (hne : other ≠ device) (hkey : kind' = kind → key ≠ short) :
    (updateShortAddress registry device kind short oldShort kind').get? key = some other := by
  by_cases hkind : kind' = kind
  · subst hkind
    simp only [updateShortAddress, Function.update_self, Dict.get?_set_of_ne _ _ (hkey rfl)]
    split
    case isTrue hold =>
      have hkey' : key ≠ oldShort := by
        rintro rfl
        exact hne (Option.some.inj (h ▸ hold))
      rwa [Dict.get?_erase_of_ne _ hkey']
    case isFalse => exact h
  · simpa only [updateShortAddress, Function.update_of_ne hkind] using h

end DeviceRegistry

/-! ### The tasks and the calls -/

/-- An `APPLY_SETTING` task, with the local variables of the call that waits for it. -/
structure ApplySetting where
  device : DeviceRef
  newParams : NewValues
  oldMqttId : String
  oldShortAddress : ℕ
  deriving DecidableEq, Repr

/-- Where `apply_parameters` is suspended once its task has been applied. -/
inductive CallPoint where
  /-- The future has its result, and the call has not gone on yet. -/
  | resolved (needsMqttControlsRefresh : Bool)
  /-- In `remove_device` of the old MQTT id. -/
  | removing
  /-- In `add_device`. -/
  | adding (mqttId : String)
  /-- In `register_control_handler`. -/
  | registering (mqttId : String)
  | settingTitle (title : String)
  /-- In the refresh of the virtual devices. -/
  | refreshing
  deriving DecidableEq, Repr

structure Call where
  device : DeviceRef
  oldMqttId : String
  oldShortAddress : ℕ
  point : CallPoint
  deriving DecidableEq, Repr

/-- The devices of a bus and the indexes that the controller keeps of them. -/
structure ApplicationController where
  devices : List DeviceRef
  device : DeviceRef → Identity
  tasksQueue : List ApplySetting := []
  /-- The task whose short address is being written, with what its handlers returned. -/
  writing : Option (ApplySetting × CommonChange × Bool) := none
  calls : Dict ℕ Call := ∅
  deviceRegistry : DeviceRegistry
  devicesByMqttId : Dict String DeviceRef
  /-- `DevicePublisher._devices`, with the device that each entry was made for. -/
  published : Dict String DeviceRef
  /-- The MQTT ids whose controls have a handler. -/
  controlHandlers : List String

namespace ApplicationController

variable (controller : ApplicationController)

/-- `apply_parameters` up to the wait for its task. -/
def applyParameters (device : DeviceRef) (newParams : NewValues) : ApplicationController :=
  { controller with
    tasksQueue := controller.tasksQueue ++
      [{ device
         newParams
         oldMqttId := (controller.device device).mqttId
         oldShortAddress := (controller.device device).short }] }

/-- The change of a task takes effect, and its call is resolved. -/
def finish (call : ℕ) (task : ApplySetting) (change : CommonChange) (short : ℕ)
    (needsRefresh : Bool) : ApplicationController :=
  { controller with
    device := Function.update controller.device task.device
      ((controller.device task.device).applyChange change short)
    calls := controller.calls.set call
      { device := task.device
        oldMqttId := task.oldMqttId
        oldShortAddress := task.oldShortAddress
        point := .resolved needsRefresh } }

/-- A call goes on to its next await. -/
def suspendAt (id : ℕ) (call : Call) (point : CallPoint) : ApplicationController :=
  { controller with calls := controller.calls.set id { call with point } }

/-- A call returns or raises. -/
def endCall (id : ℕ) : ApplicationController :=
  { controller with calls := controller.calls.erase id }

/-- `DevicePublisher.remove_device` -/
def removeDevice (mqttId : String) : ApplicationController :=
  if (controller.published.get? mqttId).isSome then
    { controller with
      published := controller.published.erase mqttId
      controlHandlers := controller.controlHandlers.filter (· ≠ mqttId) }
  else controller

/-- The end of `apply_parameters`, after the device has been published or titled. -/
def updateIndexes (id : ℕ) (call : Call) : ApplicationController :=
  let device := controller.device call.device
  let controller :=
    if call.oldShortAddress ≠ device.short then
      { controller with
        deviceRegistry := controller.deviceRegistry.updateShortAddress call.device device.kind
          device.short call.oldShortAddress }
    else controller
  match device.kind with
  | .dali => controller.suspendAt id call .refreshing
  | .dali2 => controller.endCall id

/-- The call goes on from where it is suspended. -/
def resume (id : ℕ) (call : Call) : ApplicationController :=
  let device := controller.device call.device
  match call.point with
  | .resolved needsRefresh =>
    if needsRefresh || call.oldMqttId ≠ device.mqttId then controller.suspendAt id call .removing
    else controller.suspendAt id call (.settingTitle device.name)
  | .removing =>
    suspendAt
      { controller.removeDevice call.oldMqttId with
        devicesByMqttId := controller.devicesByMqttId.erase call.oldMqttId }
      id call (.adding device.mqttId)
  | .adding mqttId =>
    -- `add_device` raises if there is such a device
    if (controller.published.get? mqttId).isSome then controller.endCall id
    else
      suspendAt { controller with published := controller.published.set mqttId call.device }
        id call (.registering device.mqttId)
  | .registering mqttId =>
    -- so does `register_control_handler`
    if mqttId ∈ controller.controlHandlers then controller.endCall id
    else
      updateIndexes
        { controller with
          controlHandlers := controller.controlHandlers ++ [mqttId]
          devicesByMqttId := controller.devicesByMqttId.set device.mqttId call.device }
        id call
  | .settingTitle _ => controller.updateIndexes id call
  | .refreshing => controller.endCall id

end ApplicationController

inductive Event where
  | applyParameters (device : DeviceRef) (newParams : NewValues)
  /-- The next task is dropped, or raises before the common parameters. -/
  | taskRaises
  /-- The next task comes to the common parameters. -/
  | applyCommon (call : ℕ) (needsRefresh : Bool)
  /-- The sequence that writes the short address raises. -/
  | sequenceRaises
  /-- The sequence returns what the device reports. -/
  | sequenceReturns (call : ℕ) (reported : Option ℕ)
  /-- The await of a call is over. -/
  | resume (call : ℕ)
  deriving DecidableEq, Repr

namespace ApplicationController

def step (controller : ApplicationController) : Event → Option ApplicationController
  | .applyParameters device newParams =>
    if device ∈ controller.devices then some (controller.applyParameters device newParams)
    else none
  | .taskRaises =>
    match controller.writing, controller.tasksQueue with
    | none, _ :: rest => some { controller with tasksQueue := rest }
    | _, _ => none
  | .applyCommon call needsRefresh =>
    match controller.writing, controller.tasksQueue with
    | none, task :: rest =>
      let device := controller.device task.device
      let change := device.commonChange task.newParams
      let controller := { controller with tasksQueue := rest }
      if task.newParams.validate then
        if change.newShortAddress = device.short then
          if (controller.calls.get? call).isNone then
            some (controller.finish call task change device.short needsRefresh)
          else none
        else some { controller with writing := some (task, change, needsRefresh) }
      else none
    | _, _ => none
  | .sequenceRaises =>
    match controller.writing with
    | some _ => some { controller with writing := none }
    | none => none
  | .sequenceReturns call reported =>
    match controller.writing with
    | some (task, change, needsRefresh) =>
      if (controller.calls.get? call).isNone then
        some (finish { controller with writing := none } call task change
          ((controller.device task.device).addressAfter change reported) needsRefresh)
      else none
    | none => none
  | .resume id => (controller.calls.get? id).map fun call => controller.resume id call

/-- The indexes have each device exactly where it is now. -/
def IndexesExact (controller : ApplicationController) : Prop :=
  (∀ kind short, ∀ device,
    (controller.deviceRegistry kind).get? short = some device ↔
      device ∈ controller.devices ∧ (controller.device device).kind = kind ∧
        (controller.device device).short = short) ∧
    ∀ device ∈ controller.devices, ∀ mqttId,
      (controller.devicesByMqttId.get? mqttId = some device ↔
        (controller.device device).mqttId = mqttId) ∧
      (controller.published.get? mqttId = some device →
        (controller.device device).mqttId = mqttId)

/-- All calls have returned. -/
def Returned (controller : ApplicationController) : Prop :=
  controller.tasksQueue = [] ∧ controller.writing = none ∧ controller.calls = ∅

/-- Buses whose indexes are exact and on which no call is under way. -/
def transition : Transition ApplicationController Event where
  init := fun controller => controller.IndexesExact ∧ controller.Returned
  step := step

end ApplicationController

end WbMqttDali.ApplyParameters
