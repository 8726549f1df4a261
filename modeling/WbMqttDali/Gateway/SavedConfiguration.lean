import Mathlib
import WbMqttDali.Gateway.Configuration

/-!
# What is saved and loaded again

A device is written with its effective MQTT id and name where these are not the default
ones, so the file says the same of the device that the device does.  The file as a whole is
accepted if the effective MQTT ids of all devices are different.
-/

namespace WbMqttDali.Configuration

open WbMqttDali.Device WbMqttDali.OnOff

/-! ### One device -/

/-- What the file is to keep of a device. -/
structure DeviceView where
  short : ℕ
  random : ℤ
  mqttId : String
  name : String
  onOff : Option OnOffConfig
  deriving DecidableEq, Repr

namespace Device

variable {kind : DeviceKind} {busUid : String} {device : Device}

def view (kind : DeviceKind) (busUid : String) (device : Device) : DeviceView where
  short := device.short
  random := device.random
  mqttId := device.mqttId kind busUid
  name := device.name kind busUid
  onOff := device.onOff

/-- What every device has in common: its values are in the ranges of the schema. -/
structure Valid (kind : DeviceKind) (device : Device) : Prop where
  short : device.short ≤ 63
  mqttId : ∀ id ∈ device.customMqttId, matchesIdPattern id = true
  onOff : ∀ config ∈ device.onOff, config.Loads
  dali2 : kind = .dali2 → device.onOff = none

/-- A custom MQTT id that suits the schema is the effective one. -/
lemma mqttId_of_matches {id : String} (hid : device.customMqttId = some id)
    (hmatches : matchesIdPattern id = true) : device.mqttId kind busUid = id := by
  have hne : id ≠ "" := by
    rintro rfl
    simp [matchesIdPattern] at hmatches
  simp [Device.mqttId, identity, Identity.mqttId, Identity.orDefault, hid, hne]

lemma orDefault_ite (value : Option String) (default : String) :
    Identity.orDefault (if value = some default then none else value) default =
      Identity.orDefault value default := by
  split
  case isTrue h => simp [h, Identity.orDefault]
  case isFalse => rfl

lemma orDefault_map_orDefault (value : Option String) (default : String) :
    Identity.orDefault (value.map fun _ => Identity.orDefault value default) default =
      Identity.orDefault value default := by
  cases value with
  | none => rfl
  | some value =>
    simp only [Identity.orDefault, Option.map_some]
    split <;> simp [*]

@[simp] lemma mqttId_create {short : ℕ} {random : ℤ} {mqttId name : Option String}
    {onOff : Option OnOffConfig} :
    (create kind busUid short random mqttId name onOff).mqttId kind busUid =
      Identity.orDefault mqttId ({ kind, busId := busUid, short } : Identity).defaultMqttId :=
  orDefault_ite _ _

@[simp] lemma name_create {short : ℕ} {random : ℤ} {mqttId name : Option String}
    {onOff : Option OnOffConfig} :
    (create kind busUid short random mqttId name onOff).name kind busUid =
      Identity.orDefault name ({ kind, busId := busUid, short } : Identity).defaultName :=
  orDefault_ite _ _

lemma valid_create {short : ℕ} {random : ℤ} {mqttId name : Option String}
    {onOff : Option OnOffConfig} (hshort : short ≤ 63)
    (hmqttId : ∀ id ∈ mqttId, matchesIdPattern id = true) (honOff : ∀ config ∈ onOff, config.Loads)
    (hdali2 : kind = .dali2 → onOff = none) :
    (create kind busUid short random mqttId name onOff).Valid kind where
  short := hshort
  mqttId id hid := by
    simp only [create] at hid
    split at hid
    · cases hid
    · exact hmqttId id hid
  onOff := honOff
  dali2 := hdali2

/-- A device that is written and read is the same device. -/
theorem view_ofConf_toConf (h : device.Valid kind) :
    (ofConf kind busUid (device.toConf kind busUid)).view kind busUid =
      device.view kind busUid := by
  have honOff : (ofConf kind busUid (device.toConf kind busUid)).onOff = device.onOff := by
    cases kind with
    | dali =>
      cases hconfig : device.onOff with
      | none => simp [ofConf, create, toConf, hconfig]
      | some config =>
        have := (h.onOff config hconfig).parses
        simp [ofConf, create, toConf, hconfig, this, Except.toOption]
    | dali2 => simp [ofConf, create, toConf, h.dali2 rfl]
  simp only [view, honOff, DeviceView.mk.injEq, and_true]
  refine ⟨rfl, rfl, ?_, ?_⟩
  · exact mqttId_create.trans (orDefault_map_orDefault _ _)
  · exact name_create.trans (orDefault_map_orDefault _ _)

/-- The effective MQTT id of a written device, as validation works it out. -/
lemma effectiveMqttId_toConf {gatewayUid : String} {bus : ℕ} :
    effectiveMqttId gatewayUid (bus + 1)
        (device.toConf kind (gatewayUid ++ "_bus_" ++ toString (bus + 1))) =
      device.mqttId kind (gatewayUid ++ "_bus_" ++ toString (bus + 1)) := by
  refine Eq.trans ?_ (orDefault_map_orDefault device.customMqttId _)
  cases kind <;> rfl

lemma effectiveMqttId_ofConf {gatewayUid : String} {bus : ℕ} {conf : DeviceConf} :
    (ofConf (kindOfConf conf) (gatewayUid ++ "_bus_" ++ toString (bus + 1)) conf).mqttId
        (kindOfConf conf) (gatewayUid ++ "_bus_" ++ toString (bus + 1)) =
      effectiveMqttId gatewayUid (bus + 1) conf := by
  rw [ofConf, mqttId_create, effectiveMqttId]
  congr 1
  unfold kindOfConf deviceDefaultMqttId
  cases conf.dali2 <;> rfl

end Device

/-! ### The buses, one after the other -/

section Places

variable {α β : Type}

/-- A walk over a numbered list is a walk over the numbers. -/
lemma flatMap_zipIdx (l : List α) (k : ℕ) (f : α × ℕ → List β) :
    (l.zipIdx k).flatMap f = (List.range l.length).flatMap fun i => l[i]?.elim [] fun a =>
      f (a, i + k) := by
  induction l generalizing k with
  | nil => rfl
  | cons a l ih =>
    rw [List.zipIdx_cons, List.flatMap_cons, ih, List.length_cons, List.range_succ_eq_map,
      List.flatMap_cons, List.flatMap_map]
    simp only [List.getElem?_cons_zero, Option.elim_some, Nat.zero_add, List.getElem?_cons_succ,
      Nat.succ_eq_add_one]
    congr 2
    ext i : 1
    rw [Nat.add_right_comm, Nat.add_assoc]

lemma flatMap_range (l : List α) (f : α → List β) :
    l.flatMap f = (List.range l.length).flatMap fun i => l[i]?.elim [] f := by
  have := flatMap_zipIdx l 0 fun a => f a.1
  rwa [← List.flatMap_map, List.zipIdx_map_fst] at this

/-- The places of the buses of gateways with the given numbers of buses. -/
def busPlaces (busCounts : List ℕ) : List BusPlace :=
  (List.range busCounts.length).flatMap fun gateway =>
    (List.range (busCounts[gateway]?.getD 0)).map fun bus => ⟨gateway, bus⟩

lemma mem_busPlaces {busCounts : List ℕ} {place : BusPlace} :
    place ∈ busPlaces busCounts ↔
      ∃ busCount, busCounts[place.gateway]? = some busCount ∧ place.bus < busCount := by
  obtain ⟨gateway, bus⟩ := place
  simp only [busPlaces, List.mem_flatMap, List.mem_range, List.mem_map, BusPlace.mk.injEq]
  constructor
  · rintro ⟨gateway, hgateway, bus, hbus, rfl, rfl⟩
    rw [List.getElem?_eq_getElem hgateway, Option.getD_some] at hbus
    exact ⟨_, List.getElem?_eq_getElem hgateway, hbus⟩
  · rintro ⟨busCount, hcount, hbus⟩
    obtain ⟨hgateway, -⟩ := List.getElem?_eq_some_iff.1 hcount
    refine ⟨gateway, hgateway, bus, ?_, rfl, rfl⟩
    rw [hcount]
    exact hbus

lemma nodup_busPlaces (busCounts : List ℕ) : (busPlaces busCounts).Nodup := by
  refine List.nodup_flatMap.2 ⟨fun gateway _ => ?_, ?_⟩
  · exact List.Nodup.map (fun _ _ h => (BusPlace.mk.inj h).2) List.nodup_range
  · refine List.nodup_range.imp fun hne place hplace hother => hne ?_
    obtain ⟨_, _, rfl⟩ := List.mem_map.1 hplace
    obtain ⟨_, _, h⟩ := List.mem_map.1 hother
    exact (BusPlace.mk.inj h).1.symm

end Places

def State.busCounts (state : State) : List ℕ := state.gateways.map (·.busCount)

def Config.busCounts (config : Config) : List ℕ := config.gateways.map (·.buses.length)

/-- The MQTT ids of the bus at a place of the file. -/
def Config.busMqttIds (config : Config) (place : BusPlace) : List String :=
  config.gateways[place.gateway]?.elim [] fun gw =>
    gw.buses[place.bus]?.elim [] fun bus =>
      bus.devices.map (effectiveMqttId gw.deviceId (place.bus + 1))

lemma Config.mqttIds_eq (config : Config) :
    config.mqttIds = (busPlaces config.busCounts).flatMap config.busMqttIds := by
  rw [Config.mqttIds, flatMap_range, busPlaces, List.flatMap_assoc]
  simp only [Config.busCounts, List.length_map]
  refine List.flatMap_congr fun gateway hgateway => ?_
  rw [List.flatMap_map]
  obtain hgw := List.getElem?_eq_getElem (List.mem_range.1 hgateway)
  simp only [List.getElem?_map, hgw, Option.map_some, Option.getD_some, Option.elim_some,
    Config.busMqttIds]
  rw [GatewayConf.mqttIds, flatMap_zipIdx]

/-! ### Saving -/

namespace State

variable {state : State} {place : BusPlace}

/-- What the values of the state are in: each device, group setting and gateway suits the
schema. -/
structure Valid (state : State) : Prop where
  gateways : ∀ info ∈ state.gateways, matchesIdPattern info.uid = true ∧
    1 ≤ info.websocketPort ∧ info.websocketPort ≤ 65535 ∧ info.busCount ≤ 3
  devices : ∀ place, ∀ device ∈ state.devices place, device.Valid place.kind
  groups : ∀ place number config, state.groups place number = some (some config) → config.Loads

/-- The lists of devices that are saved. -/
def listPlaces (state : State) : List ListPlace :=
  (busPlaces state.busCounts).flatMap fun place => [⟨place, .dali⟩, ⟨place, .dali2⟩]

/-- The effective MQTT ids of all devices. -/
def allMqttIds (state : State) : List String := state.listPlaces.flatMap state.mqttIds

lemma mem_busPlaces_iff :
    place ∈ busPlaces state.busCounts ↔
      ∃ info, state.gateways[place.gateway]? = some info ∧ place.bus < info.busCount := by
  rw [mem_busPlaces, busCounts]
  simp [List.getElem?_map, Option.map_eq_some_iff]

lemma busUid_eq {info : GatewayInfo} (h : state.gateways[place.gateway]? = some info) :
    state.busUid place = info.uid ++ "_bus_" ++ toString (place.bus + 1) := by
  rw [busUid, h]
  rfl

lemma save_gateways (gateway : ℕ) :
    state.save.gateways[gateway]? = state.gateways[gateway]?.map fun info =>
      { deviceId := info.uid
        websocketEnabled := info.websocketEnabled
        websocketPort := info.websocketPort
        buses := (List.range info.busCount).map fun bus => state.busConf ⟨gateway, bus⟩ } := by
  simp only [save, List.getElem?_map, List.getElem?_zipIdx, Option.map_map, Nat.zero_add]
  rfl

@[simp] lemma busCounts_save : state.save.busCounts = state.busCounts := by
  refine List.ext_getElem? fun gateway => ?_
  rw [Config.busCounts, busCounts, List.getElem?_map, List.getElem?_map, save_gateways,
    Option.map_map]
  congr 1
  ext info : 1
  simp

lemma bus?_save (h : place ∈ busPlaces state.busCounts) :
    state.save.bus? place = some (state.busConf place) := by
  obtain ⟨info, hinfo, hbus⟩ := mem_busPlaces_iff.1 h
  rw [Config.bus?, save_gateways, hinfo]
  simp [List.getElem?_range hbus]

lemma busMqttIds_save (h : place ∈ busPlaces state.busCounts) :
    state.save.busMqttIds place = state.mqttIds ⟨place, .dali⟩ ++
      state.mqttIds ⟨place, .dali2⟩ := by
  obtain ⟨info, hinfo, hbus⟩ := mem_busPlaces_iff.1 h
  rw [Config.busMqttIds, save_gateways, hinfo]
  simp only [Option.map_some, Option.elim_some, List.getElem?_map, List.getElem?_range hbus,
    busConf,
    List.map_append, List.map_map, mqttIds, busUid_eq hinfo]
  congr 1
  · exact List.map_congr_left fun device _ => Device.effectiveMqttId_toConf
  · exact List.map_congr_left fun device _ => Device.effectiveMqttId_toConf

lemma mqttIds_save : state.save.mqttIds = state.allMqttIds := by
  rw [Config.mqttIds_eq, busCounts_save, allMqttIds, listPlaces, List.flatMap_assoc]
  refine List.flatMap_congr fun place hplace => ?_
  rw [busMqttIds_save hplace]
  simp

/-- The written device suits the schema. -/
lemma toConf_schema {kind : DeviceKind} {busUid : String} {device : Device}
    (h : device.Valid kind) :
    (device.toConf kind busUid).short ≤ 63 ∧
      (device.toConf kind busUid).mqttId.all matchesIdPattern = true ∧
      (device.toConf kind busUid).onOff.all configSchema = true := by
  refine ⟨h.short, ?_, ?_⟩
  · cases hid : device.customMqttId with
    | none => simp [Device.toConf, hid]
    | some id =>
      have hmatches := h.mqttId id hid
      simpa [Device.toConf, hid, Device.mqttId_of_matches hid hmatches] using hmatches
  · simp only [Device.toConf]
    split
    · cases hconfig : device.onOff with
      | none => rfl
      | some config => exact (h.onOff config hconfig).schema
    · rfl

/-- The on/off block of a written device is parsed. -/
lemma toConf_parses {kind : DeviceKind} {busUid : String} {device : Device}
    (h : device.Valid kind) : ∀ onOff ∈ (device.toConf kind busUid).onOff, Parses onOff := by
  intro onOff honOff
  simp only [Device.toConf] at honOff
  split at honOff
  · obtain ⟨config, hconfig, rfl⟩ := Option.map_eq_some_iff.1 honOff
    exact ⟨config, (h.onOff config hconfig).parses⟩
  · cases honOff

lemma groups_busConf {group : GroupConf} (h : group ∈ (state.busConf place).groups) :
    ∃ number config, state.groups place number = some (some config) ∧
      group = ⟨number, onOffConfigToJson config⟩ := by
  obtain ⟨number, -, h⟩ := List.mem_filterMap.1 h
  obtain ⟨config, hconfig, rfl⟩ := Option.map_eq_some_iff.1 h
  exact ⟨number, config, Option.join_eq_some_iff.1 hconfig, rfl⟩

lemma devices_busConf {dev : DeviceConf} (h : dev ∈ (state.busConf place).devices) :
    ∃ kind, ∃ device ∈ state.devices ⟨place, kind⟩,
      dev = device.toConf kind (state.busUid place) := by
  rcases List.mem_append.1 h with h | h
  · obtain ⟨device, hdevice, rfl⟩ := List.mem_map.1 h
    exact ⟨.dali, device, hdevice, rfl⟩
  · obtain ⟨device, hdevice, rfl⟩ := List.mem_map.1 h
    exact ⟨.dali2, device, hdevice, rfl⟩

lemma buses_save {gw : GatewayConf} {bus : BusConf} (hgw : gw ∈ state.save.gateways)
    (hbus : bus ∈ gw.buses) : ∃ place, bus = state.busConf place := by
  obtain ⟨⟨info, gateway⟩, -, rfl⟩ := List.mem_map.1 hgw
  obtain ⟨bus, -, rfl⟩ := List.mem_map.1 hbus
  exact ⟨_, rfl⟩

lemma isValid_busConf (h : state.Valid) : (state.busConf place).IsValid where
  devices dev hdev := by
    obtain ⟨kind, device, hdevice, rfl⟩ := devices_busConf hdev
    exact toConf_parses (h.devices _ device hdevice)
  numbers := by
    have hsub : ((state.busConf place).groups.map (·.number)).Sublist
        ((List.finRange 16).map Fin.val) := by
      simp only [busConf, List.map_filterMap, Option.map_map]
      generalize List.finRange 16 = numbers
      induction numbers with
      | nil => exact List.Sublist.refl _
      | cons number numbers ih =>
        rw [List.filterMap_cons, List.map_cons]
        split
        case h_1 => exact ih.cons _
        case h_2 found hfound =>
          obtain ⟨config, -, rfl⟩ := Option.map_eq_some_iff.1 hfound
          exact ih.cons_cons _
    exact hsub.nodup ((List.nodup_finRange 16).map Fin.val_injective)
  groups group hgroup := by
    obtain ⟨number, config, hconfig, rfl⟩ := groups_busConf hgroup
    exact ⟨config, (h.groups place number config hconfig).parses⟩

lemma schemaAccepts_save (h : state.Valid) : schemaAccepts state.save = true := by
  rw [schemaAccepts, List.all_eq_true]
  intro gw hgw
  have hinfo : matchesIdPattern gw.deviceId = true ∧ 1 ≤ gw.websocketPort ∧
      gw.websocketPort ≤ 65535 ∧ gw.buses.length ≤ 3 := by
    obtain ⟨⟨info, gateway⟩, hmem, rfl⟩ := List.mem_map.1 hgw
    simpa using h.gateways info (List.fst_mem_of_mem_zipIdx hmem)
  simp only [hinfo, decide_true, Bool.and_self, Bool.true_and, List.all_eq_true]
  intro bus hbus
  obtain ⟨place, rfl⟩ := buses_save hgw hbus
  rw [Bool.and_eq_true, List.all_eq_true, List.all_eq_true]
  constructor
  · intro dev hdev
    obtain ⟨kind, device, hdevice, rfl⟩ := devices_busConf hdev
    obtain ⟨hshort, hmqttId, honOff⟩ := toConf_schema (h.devices _ device hdevice)
    rw [hmqttId, honOff, decide_eq_true hshort]
    rfl
  · intro group hgroup
    obtain ⟨number, config, hconfig, rfl⟩ := groups_busConf hgroup
    have hnumber : (number : ℕ) ≤ 15 := by omega
    rw [(h.groups place number config hconfig).schema, decide_eq_true hnumber]
    rfl

/-- A saved configuration is accepted if the effective MQTT ids are different. -/
theorem isAccepted_save (h : state.Valid) : state.save.IsAccepted ↔ state.allMqttIds.Nodup := by
  rw [Config.IsAccepted, validateConfig_eq_nil, mqttIds_save]
  refine ⟨fun haccepted => haccepted.2.1, fun hnodup => ⟨schemaAccepts_save h, hnodup, ?_⟩⟩
  intro gw hgw bus hbus
  obtain ⟨place, rfl⟩ := buses_save hgw hbus
  exact isValid_busConf h

/-! ### Loading what was saved -/

/-- The same gateways, devices and group settings. -/
structure Describes (loaded state : State) : Prop where
  gateways : loaded.gateways = state.gateways
  devices : ∀ place, place.bus ∈ busPlaces state.busCounts →
    (loaded.devices place).map (Device.view place.kind (loaded.busUid place.bus)) =
      (state.devices place).map (Device.view place.kind (state.busUid place.bus))
  groups : ∀ place ∈ busPlaces state.busCounts, ∀ number,
    (loaded.groups place number).join = (state.groups place number).join
  busMonitor : ∀ place ∈ busPlaces state.busCounts,
    loaded.busMonitor place = state.busMonitor place
  debug : loaded.debug = state.debug

lemma gateways_load_save : (load state.save).gateways = state.gateways := by
  refine List.ext_getElem? fun gateway => ?_
  simp only [load, List.getElem?_map, save_gateways, Option.map_map]
  cases state.gateways[gateway]? with
  | none => rfl
  | some info => simp

/-- Those of a list that meet a condition only one of its elements can meet. -/
lemma filterMap_eq_toList {α β : Type} {l : List α} {f : α → Option β} {a : α} (hl : l.Nodup)
    (ha : a ∈ l) (hf : ∀ b ∈ l, b ≠ a → f b = none) : l.filterMap f = (f a).toList := by
  induction l with
  | nil => cases ha
  | cons b l ih =>
    rw [List.nodup_cons] at hl
    by_cases hba : b = a
    · subst hba
      have hnil : l.filterMap f = [] := List.filterMap_eq_nil_iff.2 fun c hc =>
        hf c (List.mem_cons_of_mem _ hc) fun hcb => hl.1 (hcb ▸ hc)
      rw [List.filterMap_cons, hnil]
      cases f b <;> rfl
    · rw [List.filterMap_cons, hf b List.mem_cons_self hba]
      exact ih hl.2 ((List.mem_cons.1 ha).resolve_left (Ne.symm hba))
        fun c hc => hf c (List.mem_cons_of_mem _ hc)

lemma groupOnOff_busConf (h : state.Valid) (number : Fin 16) :
    groupOnOff (state.busConf place).groups number = (state.groups place number).join := by
  have hfilter : (state.busConf place).groups.filter (·.number = (number : ℕ)) =
      ((state.groups place number).join.map fun config =>
        (⟨number, onOffConfigToJson config⟩ : GroupConf)).toList := by
    rw [busConf, List.filter_filterMap, filterMap_eq_toList (List.nodup_finRange 16)
      (List.mem_finRange number)]
    · cases (state.groups place number).join <;> simp
    · intro other _ hne
      have : (other : ℕ) ≠ number := fun heq => hne (Fin.ext heq)
      cases (state.groups place other).join <;> simp [this]
  rw [groupOnOff, hfilter]
  cases hconfig : (state.groups place number).join with
  | none => rfl
  | some config =>
    have := (h.groups place number config (Option.join_eq_some_iff.1 hconfig)).parses
    simp [this, Except.toOption]

lemma filter_busConf (kind : DeviceKind) :
    (state.busConf place).devices.filter (kindOfConf · = kind) =
      (state.devices ⟨place, kind⟩).map (·.toConf kind (state.busUid place)) := by
  have hkind : ∀ kind' (device : Device),
      kindOfConf (device.toConf kind' (state.busUid place)) = kind' := by
    rintro (_ | _) device <;> rfl
  have hkept : ∀ kind', (List.map (fun device : Device => device.toConf kind' (state.busUid place))
      (state.devices ⟨place, kind'⟩)).filter (kindOfConf · = kind) =
        if kind' = kind then (state.devices ⟨place, kind'⟩).map
          (·.toConf kind' (state.busUid place)) else [] := by
    intro kind'
    rw [List.filter_map]
    split
    case isTrue heq => simp [Function.comp_def, hkind, heq]
    case isFalse hne => simp [Function.comp_def, hkind, hne]
  rw [busConf, List.filter_append, hkept, hkept]
  cases kind <;> simp

/-- What is loaded from a saved configuration is what was saved. -/
theorem describes_load_save (h : state.Valid) : (load state.save).Describes state where
  gateways := gateways_load_save
  devices place hplace := by
    have hbusUid : (load state.save).busUid place.bus = state.busUid place.bus := by
      rw [busUid, gateways_load_save, busUid]
    have hdevices : (load state.save).devices place =
        (state.devices place).map fun device => Device.ofConf place.kind
          ((load state.save).busUid place.bus)
          (device.toConf place.kind (state.busUid place.bus)) := by
      show ((state.save.bus? place.bus).elim [] fun bus =>
        (bus.devices.filter (kindOfConf · = place.kind)).map
          (Device.ofConf place.kind ((load state.save).busUid place.bus))) = _
      rw [bus?_save hplace, Option.elim_some, filter_busConf, List.map_map]
      rfl
    rw [hdevices, hbusUid, List.map_map]
    refine List.map_congr_left fun device hdevice => ?_
    exact Device.view_ofConf_toConf (h.devices place device hdevice)
  groups place hplace number := by
    show ((state.save.bus? place).bind fun bus => (groupOnOff bus.groups number).map some).join = _
    rw [bus?_save hplace, Option.bind_some, groupOnOff_busConf h]
    cases (state.groups place number).join <;> rfl
  busMonitor place hplace := by
    show (state.save.bus? place).elim ({} : BusMonitor) _ = _
    rw [bus?_save hplace]
    rfl
  debug := rfl

/-! ### Loading an accepted configuration -/

lemma mem_of_bus? {config : Config} {bus : BusConf} (h : config.bus? place = some bus) :
    ∃ gw, config.gateways[place.gateway]? = some gw ∧ gw ∈ config.gateways ∧
      gw.buses[place.bus]? = some bus ∧ bus ∈ gw.buses := by
  obtain ⟨gw, hgw, hbus⟩ := Option.bind_eq_some_iff.1 h
  exact ⟨gw, hgw, List.mem_of_getElem? hgw, hbus, List.mem_of_getElem? hbus⟩

lemma schema_devices {config : Config} (h : schemaAccepts config = true) {gw : GatewayConf}
    (hgw : gw ∈ config.gateways) {bus : BusConf} (hbus : bus ∈ gw.buses) :
    (∀ dev ∈ bus.devices, dev.short ≤ 63 ∧ dev.mqttId.all matchesIdPattern = true ∧
        dev.onOff.all configSchema = true) ∧
      ∀ group ∈ bus.groups, configSchema group.onOff = true := by
  simp only [schemaAccepts, List.all_eq_true, Bool.and_eq_true, decide_eq_true_eq] at h
  obtain ⟨hdevices, hgroups⟩ := (h gw hgw).2 bus hbus
  exact ⟨fun dev hdev => ⟨(hdevices dev hdev).1.1, (hdevices dev hdev).1.2, (hdevices dev hdev).2⟩,
    fun group hgroup => (hgroups group hgroup).2⟩

lemma valid_ofConf {kind : DeviceKind} {busUid : String} {conf : DeviceConf}
    (hshort : conf.short ≤ 63) (hmqttId : conf.mqttId.all matchesIdPattern = true)
    (honOff : conf.onOff.all configSchema = true) :
    (Device.ofConf kind busUid conf).Valid kind := by
  refine Device.valid_create hshort (fun id hid => ?_) (fun config hconfig => ?_) fun hkind => ?_
  · rw [hid, Option.all_some] at hmqttId
    exact hmqttId
  · split at hconfig
    · obtain ⟨onOff, hblock, hparsed⟩ := Option.bind_eq_some_iff.1 hconfig
      rw [hblock, Option.all_some] at honOff
      cases hparse : onOffConfigFromJson onOff with
      | error error =>
        rw [hparse] at hparsed
        cases hparsed
      | ok parsed =>
        rw [hparse] at hparsed
        obtain rfl := Option.some.inj hparsed
        exact loads_of_configSchema hparse honOff
    · cases hconfig
  · subst hkind
    rfl

/-- What is loaded from an accepted configuration suits the schema. -/
theorem valid_load {config : Config} (h : config.IsAccepted) : (load config).Valid where
  gateways info hinfo := by
    obtain ⟨gw, hgw, rfl⟩ := List.mem_map.1 hinfo
    have := h.1
    simp only [schemaAccepts, List.all_eq_true, Bool.and_eq_true, decide_eq_true_eq] at this
    obtain ⟨⟨⟨⟨huid, hlow⟩, hhigh⟩, hcount⟩, -⟩ := this gw hgw
    exact ⟨huid, hlow, hhigh, hcount⟩
  devices place device hdevice := by
    change device ∈ (config.bus? place.bus).elim [] _ at hdevice
    cases hbus : config.bus? place.bus with
    | none =>
      rw [hbus] at hdevice
      cases hdevice
    | some bus =>
      rw [hbus] at hdevice
      obtain ⟨conf, hconf, rfl⟩ := List.mem_map.1 hdevice
      obtain ⟨gw, -, hgw, -, hmem⟩ := mem_of_bus? hbus
      obtain ⟨hshort, hmqttId, honOff⟩ := (schema_devices h.1 hgw hmem).1 conf
        (List.mem_filter.1 hconf).1
      exact valid_ofConf hshort hmqttId honOff
  groups place number config' hconfig := by
    change ((config.bus? place).bind fun bus => (groupOnOff bus.groups number).map some) =
      _ at hconfig
    obtain ⟨bus, hbus, hconfig⟩ := Option.bind_eq_some_iff.1 hconfig
    obtain ⟨found, hfound, heq⟩ := Option.map_eq_some_iff.1 hconfig
    obtain rfl := Option.some.inj heq
    obtain ⟨group, hgroup, hparsed⟩ := Option.bind_eq_some_iff.1 hfound
    obtain ⟨gw, -, hgw, -, hmem⟩ := mem_of_bus? hbus
    have hschema := (schema_devices h.1 hgw hmem).2 group
      (List.mem_filter.1 (List.mem_of_getLast? hgroup)).1
    cases hparse : onOffConfigFromJson group.onOff with
    | error error =>
      rw [hparse] at hparsed
      cases hparsed
    | ok parsed =>
      rw [hparse] at hparsed
      obtain rfl := Option.some.inj hparsed
      exact loads_of_configSchema hparse hschema

lemma mqttIds_load {config : Config} {gw : GatewayConf} {bus : BusConf} {kind : DeviceKind}
    (hgw : config.gateways[place.gateway]? = some gw) (hbus : gw.buses[place.bus]? = some bus) :
    (load config).mqttIds ⟨place, kind⟩ =
      (bus.devices.filter (kindOfConf · = kind)).map
        (effectiveMqttId gw.deviceId (place.bus + 1)) := by
  have hbus? : config.bus? place = some bus := by
    rw [Config.bus?, hgw, Option.bind_some, hbus]
  have hbusUid :
    (load config).busUid place = gw.deviceId ++ "_bus_" ++ toString (place.bus + 1) := by
    have hinfo : (load config).gateways[place.gateway]? =
        some ⟨gw.deviceId, gw.websocketEnabled, gw.websocketPort, gw.buses.length⟩ := by
      simp [load, hgw]
    exact busUid_eq hinfo
  have hdevices : (load config).devices ⟨place, kind⟩ =
      (bus.devices.filter (kindOfConf · = kind)).map
        (Device.ofConf kind ((load config).busUid place)) := by
    show (config.bus? place).elim [] _ = _
    rw [hbus?]
    rfl
  rw [mqttIds, hdevices, hbusUid, List.map_map]
  refine List.map_congr_left fun conf hconf => ?_
  have hkind : kindOfConf conf = kind := by simpa using (List.mem_filter.1 hconf).2
  subst hkind
  exact Device.effectiveMqttId_ofConf

/-- The effective MQTT ids of a configuration are those of the loaded devices. -/
lemma allMqttIds_load (config : Config) : (load config).allMqttIds.Perm config.mqttIds := by
  have hcounts : (load config).busCounts = config.busCounts := by
    simp [busCounts, Config.busCounts, load]
  rw [Config.mqttIds_eq, allMqttIds, listPlaces, hcounts, List.flatMap_assoc]
  refine List.Perm.flatMap_left _ fun place hplace => ?_
  obtain ⟨busCount, hcount, hlt⟩ := mem_busPlaces.1 hplace
  rw [Config.busCounts, List.getElem?_map, Option.map_eq_some_iff] at hcount
  obtain ⟨gw, hgw, rfl⟩ := hcount
  have hbus := List.getElem?_eq_getElem hlt
  have hpred : (fun conf => decide (kindOfConf conf = .dali2)) =
      fun conf => !decide (kindOfConf conf = .dali) := by
    ext conf
    cases kindOfConf conf <;> rfl
  simp only [List.flatMap_cons, List.flatMap_nil, List.append_nil, mqttIds_load hgw hbus]
  rw [Config.busMqttIds, hgw, Option.elim_some, hbus, Option.elim_some, ← List.map_append, hpred]
  exact (List.filter_append_perm _ _).map _

/-- What is loaded from an accepted configuration is saved as one that is accepted. -/
theorem nodup_allMqttIds_load {config : Config} (h : config.IsAccepted) :
    (load config).allMqttIds.Nodup :=
  (allMqttIds_load config).nodup_iff.2 (validateConfig_eq_nil.1 h.2).1

end State

end WbMqttDali.Configuration
