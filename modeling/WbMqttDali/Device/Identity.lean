import Mathlib

/-!
# Short address, name and MQTT id of a device

A device whose name or MQTT id is not set has a default one, made of its bus and its
short address, and a default follows the short address when that changes.  The
common parameters of a request (short address, name, MQTT id) are applied last, after
the settings of the device; the new short address counts only when the device has
reported it.
-/

namespace WbMqttDali.Device

inductive DeviceKind where
  /-- Control gear, `DaliDevice`. -/
  | dali
  /-- A control device, `Dali2Device`. -/
  | dali2
  deriving DecidableEq, Repr

/-- The common parameters of a request, as far as the client sent them. -/
structure NewValues where
  shortAddress : Option ℕ := none
  name : Option String := none
  mqttId : Option String := none
  deriving DecidableEq, Repr

/-- The requirements of the common schema on these parameters. -/
def NewValues.validate : NewValues → Bool
  | { shortAddress := some shortAddress, name := some name, mqttId := some mqttId } =>
    shortAddress ≤ 63 && name != "" && mqttId != "" &&
      mqttId.toList.all fun c => c ∉ "$#+/\"'".toList
  | _ => false

/-- What identifies a device on its bus and in MQTT. -/
structure Identity where
  kind : DeviceKind
  /-- The uid of its bus. -/
  busId : String
  short : ℕ
  /-- `_mqtt_id`: none if the MQTT id is the default one. -/
  customMqttId : Option String := none
  /-- `_name`: none if the name is the default one. -/
  customName : Option String := none
  deriving DecidableEq, Repr

namespace Identity

variable (device : Identity)

def defaultNamePrefix : String :=
  match device.kind with
  | .dali => "DALI"
  | .dali2 => "DALI-2"

def defaultMqttIdPart : String :=
  match device.kind with
  | .dali => ""
  | .dali2 => "dali2_"

def defaultName : String :=
  device.defaultNamePrefix ++ " " ++ toString device.short

def defaultMqttId : String :=
  device.busId ++ "_" ++ device.defaultMqttIdPart ++ toString device.short

/-- Python's `value or default`. -/
def orDefault (value : Option String) (default : String) : String :=
  match value with
  | some value => if value = "" then default else value
  | none => default

def name : String := orDefault device.customName device.defaultName

def mqttId : String := orDefault device.customMqttId device.defaultMqttId

/-- The setter of `name`. -/
def setName (value : String) : Identity :=
  { device with customName := if value = device.defaultName then none else some value }

/-- The setter of `mqtt_id`. -/
def setMqttId (value : String) : Identity :=
  { device with customMqttId := if value = device.defaultMqttId then none else some value }

@[simp] lemma setName_mqttId (value : String) : (device.setName value).mqttId = device.mqttId := rfl

/-- What is set is read back, unless it is empty. -/
lemma mqttId_setMqttId (value : String) :
    (device.setMqttId value).mqttId = orDefault (some value) device.defaultMqttId := by
  show orDefault (if value = device.defaultMqttId then none else some value) device.defaultMqttId =
    orDefault (some value) device.defaultMqttId
  split
  case isTrue heq =>
    simp only [orDefault, heq, ite_self]
  case isFalse => rfl

end Identity

/-- The local variables of `_apply_common_parameters` before the address is written. -/
structure CommonChange where
  newName : String
  newMqttId : String
  keepAutoName : Bool
  keepAutoMqttId : Bool
  newShortAddress : ℕ
  deriving DecidableEq, Repr

namespace Identity

variable (device : Identity)

/-- `_apply_common_parameters` up to the write of the short address.  An automatic value
that the client sent back unchanged stays automatic. -/
def commonChange (newValues : NewValues) : CommonChange :=
  let newName := newValues.name.getD device.name
  let newMqttId := newValues.mqttId.getD device.mqttId
  { newName
    newMqttId
    keepAutoName := device.customName.isNone && newName = device.name
    keepAutoMqttId := device.customMqttId.isNone && newMqttId = device.mqttId
    newShortAddress := newValues.shortAddress.getD device.short }

/-- The short address after the device has reported one. -/
def addressAfter (change : CommonChange) (reported : Option ℕ) : ℕ :=
  if reported = some change.newShortAddress then change.newShortAddress else device.short

/-- `_apply_common_parameters` from there on. -/
def applyChange (change : CommonChange) (short : ℕ) : Identity :=
  let device := { device with short }
  let device := if change.keepAutoName then device else device.setName change.newName
  if change.keepAutoMqttId then device else device.setMqttId change.newMqttId

/-- The MQTT id that a request leads to at a short address: an automatic one moves along. -/
def mqttIdAt (change : CommonChange) (short : ℕ) : String :=
  if change.keepAutoMqttId then { device with short }.mqttId
  else orDefault (some change.newMqttId) { device with short }.defaultMqttId

variable (change : CommonChange) (short : ℕ)

@[simp] lemma applyChange_kind : (device.applyChange change short).kind = device.kind := by
  simp only [applyChange]
  repeat' split
  all_goals rfl

@[simp] lemma applyChange_busId : (device.applyChange change short).busId = device.busId := by
  simp only [applyChange]
  repeat' split
  all_goals rfl

@[simp] lemma applyChange_short : (device.applyChange change short).short = short := by
  simp only [applyChange]
  repeat' split
  all_goals rfl

lemma applyChange_mqttId :
    (device.applyChange change short).mqttId = device.mqttIdAt change short := by
  simp only [applyChange, mqttIdAt]
  split
  case isTrue =>
    split
    · rfl
    · exact setName_mqttId _ _
  case isFalse =>
    rw [mqttId_setMqttId]
    split <;> rfl

end Identity

end WbMqttDali.Device
