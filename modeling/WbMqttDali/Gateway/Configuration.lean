import Mathlib
import WbMqttDali.Device.Identity
import WbMqttDali.Lib.Dict
import WbMqttDali.Settings.OnOff

/-!
# The configuration file

`save_configuration` writes the gateways with the devices of their buses and leaves out what
has a default; at the start the file is checked by its schema and by `validate_config`, and
the buses are built from it.
-/

namespace WbMqttDali.Configuration

open WbMqttDali.Device WbMqttDali.OnOff

/-! ### The file -/

structure DeviceConf where
  short : ℕ
  random : ℤ
  dali2 : Bool := false
  mqttId : Option String := none
  name : Option String := none
  onOff : Option OnOffJson := none
  deriving DecidableEq, Repr

structure GroupConf where
  number : ℕ
  onOff : OnOffJson
  deriving DecidableEq, Repr

structure BusConf where
  devices : List DeviceConf
  groups : List GroupConf := []
  busMonitorEnabled : Bool := false
  busMonitorSyslogEnabled : Bool := false
  deriving DecidableEq, Repr

structure GatewayConf where
  deviceId : String
  websocketEnabled : Bool := false
  websocketPort : ℕ := 8080
  buses : List BusConf
  deriving DecidableEq, Repr

structure Config where
  gateways : List GatewayConf := []
  debug : Bool := false
  deriving DecidableEq, Repr

/-- `^[^$#+\/"']+$` -/
def matchesIdPattern (id : String) : Bool :=
  id != "" && id.toList.all fun c => c ∉ "$#+/\"'".toList

/-- `wb-mqtt-dali.schema.json` -/
def schemaAccepts (config : Config) : Bool :=
  config.gateways.all fun gw =>
    matchesIdPattern gw.deviceId && 1 ≤ gw.websocketPort && gw.websocketPort ≤ 65535 &&
      gw.buses.length ≤ 3 &&
      gw.buses.all fun bus =>
        (bus.devices.all fun dev =>
            dev.short ≤ 63 && dev.mqttId.all matchesIdPattern && dev.onOff.all configSchema) &&
          bus.groups.all fun group => group.number ≤ 15 && configSchema group.onOff

/-! ### `validate_config` -/

structure DeviceLocation where
  gatewayDeviceId : String
  busIndex : ℕ
  short : ℕ
  deriving DecidableEq, Repr

structure GroupLocation where
  gatewayDeviceId : String
  busIndex : ℕ
  number : ℕ
  deriving DecidableEq, Repr

inductive ConfigError where
  | duplicateMqttId (mqttId : String) (location conflicting : DeviceLocation)
  | invalidOnOff (location : DeviceLocation) (error : OnOffError)
  | duplicateGroup (location : GroupLocation)
  | invalidGroupOnOff (location : GroupLocation) (error : OnOffError)
  deriving DecidableEq, Repr

/-- `_device_default_mqtt_id` -/
def deviceDefaultMqttId (gatewayDeviceId : String) (busIndex : ℕ) (dev : DeviceConf) : String :=
  (gatewayDeviceId ++ "_bus_" ++ toString busIndex) ++ "_" ++
    (if dev.dali2 then "dali2_" else "") ++
    toString dev.short

/-- `effective_mqtt_id` -/
def effectiveMqttId (gatewayDeviceId : String) (busIndex : ℕ) (dev : DeviceConf) : String :=
  Identity.orDefault dev.mqttId (deviceDefaultMqttId gatewayDeviceId busIndex dev)

/-- The local variables of `validate_config`. -/
structure Validation where
  seen : Dict String DeviceLocation := ∅
  errors : List ConfigError := []

def onOffErrors (error : OnOffError → ConfigError) (onOff : OnOffJson) : List ConfigError :=
  match onOffConfigFromJson onOff with
  | .ok _ => []
  | .error exc => [error exc]

/-- The body of the loop over the devices. -/
def validateDevice (gatewayDeviceId : String) (busIndex : ℕ) (validation : Validation)
    (dev : DeviceConf) : Validation :=
  let mqttId := effectiveMqttId gatewayDeviceId busIndex dev
  let location := ⟨gatewayDeviceId, busIndex, dev.short⟩
  let validation :=
    match validation.seen.get? mqttId with
    | some conflicting =>
      { validation with
        errors := validation.errors ++ [.duplicateMqttId mqttId location conflicting] }
    | none => { validation with seen := validation.seen.set mqttId location }
  match dev.onOff with
  | some onOff =>
    { validation with errors := validation.errors ++ onOffErrors (.invalidOnOff location) onOff }
  | none => validation

/-- `_validate_bus_groups`: the errors it adds. -/
def validateBusGroups (gatewayDeviceId : String) (busIndex : ℕ) :
    (seen : List ℕ) → List GroupConf → List ConfigError
  | _, [] => []
  | seen, group :: groups =>
    let location := ⟨gatewayDeviceId, busIndex, group.number⟩
    (if group.number ∈ seen then [.duplicateGroup location] else []) ++
      onOffErrors (.invalidGroupOnOff location) group.onOff ++
      validateBusGroups gatewayDeviceId busIndex (group.number :: seen) groups

/-- The body of the loop over the buses, which are counted from 1. -/
def validateBus (gatewayDeviceId : String) (validation : Validation) (bus : BusConf × ℕ) :
    Validation :=
  let validation := bus.1.devices.foldl (validateDevice gatewayDeviceId bus.2) validation
  { validation with
    errors := validation.errors ++ validateBusGroups gatewayDeviceId bus.2 [] bus.1.groups }

/-- The body of the loop over the gateways. -/
def validateGateway (validation : Validation) (gw : GatewayConf) : Validation :=
  (gw.buses.zipIdx 1).foldl (validateBus gw.deviceId) validation

/-- `validate_config`: the errors that it raises, if there are any. -/
def validateConfig (config : Config) : List ConfigError :=
  (config.gateways.foldl validateGateway {}).errors

/-- `load_config` returns the configuration. -/
def Config.IsAccepted (config : Config) : Prop :=
  schemaAccepts config = true ∧ validateConfig config = []

instance (config : Config) : Decidable config.IsAccepted :=
  inferInstanceAs (Decidable (_ ∧ _))

/-! ### The gateways -/

/-- A device object; its bus and its kind go by the list that it is in. -/
structure Device where
  short : ℕ
  random : ℤ
  /-- `_mqtt_id` -/
  customMqttId : Option String := none
  /-- `_name` -/
  customName : Option String := none
  /-- `on_off_config`, for control gear. -/
  onOff : Option OnOffConfig := none
  deriving DecidableEq, Repr

/-- A bus by the place of its gateway and its own place there. -/
structure BusPlace where
  gateway : ℕ
  bus : ℕ
  deriving DecidableEq, Repr

/-- `dali_devices` or `dali2_devices` of a bus. -/
structure ListPlace where
  bus : BusPlace
  kind : DeviceKind
  deriving DecidableEq, Repr

structure GatewayInfo where
  uid : String
  websocketEnabled : Bool
  websocketPort : ℕ
  busCount : ℕ
  deriving DecidableEq, Repr

structure BusMonitor where
  enabled : Bool := false
  syslogEnabled : Bool := false
  deriving DecidableEq, Repr

/-- `Gateway`, as far as it is written to the file. -/
structure State where
  gateways : List GatewayInfo
  devices : ListPlace → List Device
  /-- The group devices of a bus, with their on/off settings. -/
  groups : BusPlace → Fin 16 → Option (Option OnOffConfig)
  busMonitor : BusPlace → BusMonitor
  debug : Bool

namespace Device

variable (kind : DeviceKind) (busUid : String)

def identity (device : Device) : Identity where
  kind := kind
  busId := busUid
  short := device.short
  customMqttId := device.customMqttId
  customName := device.customName

def mqttId (device : Device) : String := (device.identity kind busUid).mqttId

def name (device : Device) : String := (device.identity kind busUid).name

/-- `DaliDevice` and `Dali2Device`. -/
def create (short : ℕ) (random : ℤ) (mqttId name : Option String)
    (onOff : Option OnOffConfig) : Device :=
  let device : Identity := { kind, busId := busUid, short }
  { short
    random
    customMqttId := if mqttId = some device.defaultMqttId then none else mqttId
    customName := if name = some device.defaultName then none else name
    onOff }

/-- `get_dict_for_device_config` -/
def toConf (device : Device) : DeviceConf where
  short := device.short
  random := device.random
  dali2 := kind = .dali2
  mqttId := device.customMqttId.map fun _ => device.mqttId kind busUid
  name := device.customName.map fun _ => device.name kind busUid
  onOff := if kind = .dali then device.onOff.map onOffConfigToJson else none

/-- A device of `bus_from_json`, once the configuration is accepted. -/
def ofConf (conf : DeviceConf) : Device :=
  create kind busUid conf.short conf.random conf.mqttId conf.name
    (if kind = .dali then conf.onOff.bind fun onOff => (onOffConfigFromJson onOff).toOption
    else none)

end Device

def kindOfConf (conf : DeviceConf) : DeviceKind :=
  if conf.dali2 then .dali2 else .dali

/-- The uid of the bus at a place, counted from 0 here and from 1 there. -/
def GatewayInfo.busUid (info : GatewayInfo) (bus : ℕ) : String :=
  info.uid ++ "_bus_" ++ toString (bus + 1)

namespace State

variable (state : State)

def busUid (place : BusPlace) : String :=
  (state.gateways[place.gateway]?.map (·.busUid place.bus)).getD ""

def mqttIds (place : ListPlace) : List String :=
  (state.devices place).map (·.mqttId place.kind (state.busUid place.bus))

/-- `_get_dict_for_bus_config` -/
def busConf (place : BusPlace) : BusConf where
  devices :=
    (state.devices ⟨place, .dali⟩).map (·.toConf .dali (state.busUid place)) ++
      (state.devices ⟨place, .dali2⟩).map (·.toConf .dali2 (state.busUid place))
  groups := (List.finRange 16).filterMap fun number =>
    (state.groups place number).join.map fun config => ⟨number, onOffConfigToJson config⟩
  busMonitorEnabled := (state.busMonitor place).enabled
  busMonitorSyslogEnabled := (state.busMonitor place).syslogEnabled

/-- `save_configuration` -/
def save : Config where
  gateways := state.gateways.zipIdx.map fun (info, gateway) =>
    { deviceId := info.uid
      websocketEnabled := info.websocketEnabled
      websocketPort := info.websocketPort
      buses := (List.range info.busCount).map fun bus => state.busConf ⟨gateway, bus⟩ }
  debug := state.debug

end State

/-- The configuration of the bus at a place. -/
def Config.bus? (config : Config) (place : BusPlace) : Option BusConf :=
  config.gateways[place.gateway]?.bind fun gw => gw.buses[place.bus]?

/-- `group_on_off`: the last block for a number counts. -/
def groupOnOff (groups : List GroupConf) (number : ℕ) : Option OnOffConfig :=
  ((groups.filter (·.number = number)).getLast?).bind fun group =>
    (onOffConfigFromJson group.onOff).toOption

/-- `Gateway.__init__` and `bus_from_json`. -/
def load (config : Config) : State :=
  let gateways := config.gateways.map fun gw =>
    { uid := gw.deviceId
      websocketEnabled := gw.websocketEnabled
      websocketPort := gw.websocketPort
      busCount := gw.buses.length }
  let busUid (place : BusPlace) : String :=
    (gateways[place.gateway]?.map (·.busUid place.bus)).getD ""
  { gateways
    devices := fun place =>
      (config.bus? place.bus).elim [] fun bus =>
        (bus.devices.filter (kindOfConf · = place.kind)).map
          (Device.ofConf place.kind (busUid place.bus))
    groups := fun place number =>
      (config.bus? place).bind fun bus => (groupOnOff bus.groups number).map some
    busMonitor := fun place =>
      (config.bus? place).elim {} fun bus => ⟨bus.busMonitorEnabled, bus.busMonitorSyslogEnabled⟩
    debug := config.debug }

/-! ### What validation accepts -/

section Validation

variable {v v' v'' : Validation} {ids ids' : List String} {ok ok' : Prop}

/-- A part of the validation that goes over the given MQTT ids and a further condition. -/
structure Checks (v v' : Validation) (ids : List String) (ok : Prop) : Prop where
  seen : ∀ id, v'.seen.get? id = none ↔ v.seen.get? id = none ∧ id ∉ ids
  errors : v'.errors = [] ↔
    v.errors = [] ∧ (ids.Nodup ∧ ∀ id ∈ ids, v.seen.get? id = none) ∧ ok

lemma Checks.refl (v : Validation) : Checks v v [] True := ⟨by simp, by simp⟩

lemma Checks.trans (h : Checks v v' ids ok) (h' : Checks v' v'' ids' ok') :
    Checks v v'' (ids ++ ids') (ok ∧ ok') where
  seen id := by
    rw [h'.seen, h.seen, List.mem_append]
    tauto
  errors := by
    rw [h'.errors, h.errors, List.nodup_append]
    simp only [h.seen, List.mem_append]
    constructor
    · rintro ⟨⟨herrors, ⟨hnodup, hseen⟩, hok⟩, ⟨hnodup', hseen'⟩, hok'⟩
      refine ⟨herrors, ⟨⟨hnodup, hnodup', ?_⟩, ?_⟩, hok, hok'⟩
      · rintro id hid _ hid' rfl
        exact (hseen' id hid').2 hid
      · rintro id (hid | hid)
        · exact hseen id hid
        · exact (hseen' id hid).1
    · rintro ⟨herrors, ⟨⟨hnodup, hnodup', hdisjoint⟩, hseen⟩, hok, hok'⟩
      refine ⟨⟨herrors, ⟨hnodup, fun id hid => hseen id (.inl hid)⟩, hok⟩, ⟨hnodup', ?_⟩, hok'⟩
      exact fun id hid => ⟨hseen id (.inr hid), fun hid' => hdisjoint id hid' id hid rfl⟩

lemma Checks.foldl {α : Type} {f : Validation → α → Validation} {ids : α → List String}
    {ok : α → Prop} (h : ∀ v a, Checks v (f v a) (ids a) (ok a)) (l : List α) (v : Validation) :
    Checks v (l.foldl f v) (l.flatMap ids) (∀ a ∈ l, ok a) := by
  induction l generalizing v with
  | nil => simpa using Checks.refl v
  | cons a l ih =>
    have := (h v a).trans (ih (f v a))
    simpa only [List.foldl_cons, List.flatMap_cons, List.forall_mem_cons] using this

/-- Errors that do not depend on the ids come on top. -/
lemma Checks.addErrors (h : Checks v v' ids ok) (errors : List ConfigError) :
    Checks v { v' with errors := v'.errors ++ errors } ids (ok ∧ errors = []) where
  seen := h.seen
  errors := by
    simp only [List.append_eq_nil_iff, h.errors]
    tauto

/-- The on/off block is parsed. -/
def Parses (onOff : OnOffJson) : Prop := ∃ config, onOffConfigFromJson onOff = .ok config

lemma onOffErrors_eq_nil {error : OnOffError → ConfigError} {onOff : OnOffJson} :
    onOffErrors error onOff = [] ↔ Parses onOff := by
  unfold onOffErrors Parses
  cases onOffConfigFromJson onOff <;> simp

/-- The MQTT id of one device. -/
lemma checks_mqttId (v : Validation) (mqttId : String) (location : DeviceLocation) :
    Checks v
      (match v.seen.get? mqttId with
      | some conflicting =>
        { v with errors := v.errors ++ [.duplicateMqttId mqttId location conflicting] }
      | none => { v with seen := v.seen.set mqttId location })
      [mqttId] True := by
  cases hseen : v.seen.get? mqttId with
  | some conflicting =>
    refine ⟨fun id => ?_, by simp [hseen]⟩
    rw [List.mem_singleton]
    refine ⟨fun h => ⟨h, ?_⟩, fun h => h.1⟩
    rintro rfl
    rw [hseen] at h
    cases h
  | none =>
    refine ⟨fun id => ?_, by simp [hseen]⟩
    rw [Dict.get?_set, List.mem_singleton]
    split <;> simp [*]

lemma validateDevice_checks (gatewayDeviceId : String) (busIndex : ℕ) (v : Validation)
    (dev : DeviceConf) :
    Checks v (validateDevice gatewayDeviceId busIndex v dev)
      [effectiveMqttId gatewayDeviceId busIndex dev] (∀ onOff ∈ dev.onOff, Parses onOff) := by
  have hid := checks_mqttId v (effectiveMqttId gatewayDeviceId busIndex dev)
    ⟨gatewayDeviceId, busIndex, dev.short⟩
  unfold validateDevice
  cases honOff : dev.onOff with
  | none =>
    refine ⟨hid.seen, ?_⟩
    simpa using hid.errors
  | some onOff =>
    have := hid.addErrors (onOffErrors (.invalidOnOff ⟨gatewayDeviceId, busIndex, dev.short⟩) onOff)
    rw [onOffErrors_eq_nil] at this
    simpa using this

/-- The groups of a bus have different numbers, and their blocks are parsed. -/
lemma validateBusGroups_eq_nil {gatewayDeviceId : String} {busIndex : ℕ} {seen : List ℕ}
    {groups : List GroupConf} :
    validateBusGroups gatewayDeviceId busIndex seen groups = [] ↔
      ((groups.map (·.number)).Nodup ∧ ∀ group ∈ groups, group.number ∉ seen) ∧
        ∀ group ∈ groups, Parses group.onOff := by
  induction groups generalizing seen with
  | nil => simp [validateBusGroups]
  | cons group groups ih =>
    simp only [validateBusGroups, List.append_eq_nil_iff, onOffErrors_eq_nil, ih, List.mem_cons,
      List.map_cons, List.nodup_cons, List.mem_map, ite_eq_right_iff, List.cons_ne_nil]
    constructor
    · rintro ⟨⟨hseen, hparses⟩, ⟨hnodup, hrest⟩, hparses'⟩
      refine ⟨⟨⟨?_, hnodup⟩, ?_⟩, ?_⟩
      · rintro ⟨other, hother, hnumber⟩
        exact hrest other hother (.inl hnumber)
      · rintro other (rfl | hother) hmem
        · exact hseen hmem
        · exact hrest other hother (.inr hmem)
      · rintro other (rfl | hother)
        · exact hparses
        · exact hparses' other hother
    · rintro ⟨⟨⟨hfresh, hnodup⟩, hseen⟩, hparses⟩
      refine ⟨⟨fun hmem => hseen group (.inl rfl) hmem, hparses group (.inl rfl)⟩, ⟨hnodup, ?_⟩, ?_⟩
      · rintro other hother (hnumber | hmem)
        · exact hfresh ⟨other, hother, hnumber⟩
        · exact hseen other (.inr hother) hmem
      · exact fun other hother => hparses other (.inr hother)

/-- What validation asks of a bus besides the MQTT ids. -/
structure BusConf.IsValid (bus : BusConf) : Prop where
  devices : ∀ dev ∈ bus.devices, ∀ onOff ∈ dev.onOff, Parses onOff
  numbers : (bus.groups.map (·.number)).Nodup
  groups : ∀ group ∈ bus.groups, Parses group.onOff

lemma BusConf.isValid_iff {bus : BusConf} :
    bus.IsValid ↔ (∀ dev ∈ bus.devices, ∀ onOff ∈ dev.onOff, Parses onOff) ∧
      (bus.groups.map (·.number)).Nodup ∧ ∀ group ∈ bus.groups, Parses group.onOff :=
  ⟨fun h => ⟨h.devices, h.numbers, h.groups⟩, fun h => ⟨h.1, h.2.1, h.2.2⟩⟩

def GatewayConf.mqttIds (gw : GatewayConf) : List String :=
  (gw.buses.zipIdx 1).flatMap fun bus => bus.1.devices.map (effectiveMqttId gw.deviceId bus.2)

/-- The effective MQTT ids of the file. -/
def Config.mqttIds (config : Config) : List String := config.gateways.flatMap (·.mqttIds)

lemma validateBus_checks (gatewayDeviceId : String) (v : Validation) (bus : BusConf × ℕ) :
    Checks v (validateBus gatewayDeviceId v bus)
      (bus.1.devices.map (effectiveMqttId gatewayDeviceId bus.2)) bus.1.IsValid := by
  have hdevices := (Checks.foldl (validateDevice_checks gatewayDeviceId bus.2) bus.1.devices
    v).addErrors (validateBusGroups gatewayDeviceId bus.2 [] bus.1.groups)
  rw [validateBusGroups_eq_nil] at hdevices
  rw [BusConf.isValid_iff, List.map_eq_flatMap]
  simpa [validateBus] using hdevices

lemma validateGateway_checks (v : Validation) (gw : GatewayConf) :
    Checks v (validateGateway v gw) gw.mqttIds (∀ bus ∈ gw.buses, bus.IsValid) := by
  have := Checks.foldl (validateBus_checks gw.deviceId) (gw.buses.zipIdx 1) v
  have hbuses : (∀ bus ∈ gw.buses.zipIdx 1, bus.1.IsValid) ↔ ∀ bus ∈ gw.buses, bus.IsValid := by
    conv_rhs => rw [← List.zipIdx_map_fst 1 gw.buses]
    exact List.forall_mem_map.symm
  rwa [hbuses] at this

/-- Validation passes if the MQTT ids are different and each bus is valid in itself. -/
theorem validateConfig_eq_nil {config : Config} :
    validateConfig config = [] ↔
      config.mqttIds.Nodup ∧ ∀ gw ∈ config.gateways, ∀ bus ∈ gw.buses, bus.IsValid := by
  have := (Checks.foldl validateGateway_checks config.gateways {}).errors
  simpa [validateConfig, Config.mqttIds] using this

end Validation

end WbMqttDali.Configuration
