import Mathlib

/-!
# The gateways of the serial configuration

`_update_gateways` takes the gateways that the serial service is configured with, stops
the others and starts a gateway for each device id that has none.  The list of gateways
is replaced at the end, so an exception of a `stop` or a `start` leaves the old list.
-/

namespace WbMqttDali.UpdateGateways

/-- `ApplicationControllerState` -/
inductive ControllerState where
  | uninitialized
  | initializing
  | ready
  | stopping
  deriving DecidableEq, Repr

structure ApplicationController where
  busIndex : ℕ
  state : ControllerState := .uninitialized
  /-- The polling task has not ended. -/
  isPolling : Bool := false
  deriving DecidableEq, Repr

/-- What becomes of the `stop` of a controller that is ready. -/
inductive StopOutcome where
  | stops
  /-- It raises before it has stopped the polling task. -/
  | raisesEarly
  /-- It raises in a clean-up after that. -/
  | raisesLate
  deriving DecidableEq, Repr

namespace ApplicationController

variable (apc : ApplicationController)

/-- `stop`, and whether it raises. -/
def stop (outcome : StopOutcome) : ApplicationController × Bool :=
  match apc.state with
  | .uninitialized | .stopping => (apc, false)
  | .initializing => (apc, true)
  | .ready =>
    match outcome with
    | .stops => ({ apc with state := .uninitialized, isPolling := false }, false)
    | .raisesEarly => ({ apc with state := .stopping }, true)
    | .raisesLate => ({ apc with state := .stopping, isPolling := false }, true)

/-- `start`, and whether it raises. -/
def start (comesUp : Bool) : ApplicationController × Bool :=
  if apc.state ≠ .uninitialized then (apc, true)
  else if comesUp then ({ apc with state := .ready, isPolling := true }, false)
  -- the driver, or what has been published, is rolled back
  else (apc, true)

/-- The controller is started, or its polling task is left from then. -/
def IsRunning : Prop :=
  apc.state = .initializing ∨ apc.state = .ready ∨ apc.isPolling = true

instance : Decidable apc.IsRunning :=
  inferInstanceAs (Decidable (_ ∨ _ ∨ _))

/-- An earlier `stop` has raised before it stopped the polling task. -/
def IsHalfStopped : Prop :=
  (apc.state = .uninitialized ∨ apc.state = .stopping) ∧ apc.isPolling = true

/-- `stop` raises. -/
def StopRaises (outcome : StopOutcome) : Prop :=
  apc.state = .initializing ∨ apc.state = .ready ∧ outcome ≠ .stops

variable {apc} {outcome : StopOutcome}

@[simp] lemma stop_busIndex : (apc.stop outcome).1.busIndex = apc.busIndex := by
  unfold stop
  split
  · rfl
  · rfl
  · rfl
  · split <;> rfl

lemma stop_snd : (apc.stop outcome).2 = true ↔ apc.StopRaises outcome := by
  unfold stop StopRaises
  cases hstate : apc.state with
  | ready => cases outcome <;> simp
  | uninitialized | initializing | stopping => simp

/-- `stop` starts nothing. -/
lemma IsRunning.of_stop (h : (apc.stop outcome).1.IsRunning) : apc.IsRunning := by
  unfold stop IsRunning at *
  cases hstate : apc.state with
  | ready => exact .inr (.inl rfl)
  | initializing => exact .inl rfl
  | uninitialized | stopping => simpa [hstate] using h

/-- What a `stop` that returns leaves running had been stopped in half before. -/
lemma isRunning_stop_iff (h : ¬apc.StopRaises outcome) :
    (apc.stop outcome).1.IsRunning ↔ apc.IsHalfStopped := by
  unfold StopRaises at h
  unfold stop IsRunning IsHalfStopped
  cases hstate : apc.state with
  | ready =>
    have : outcome = .stops := by simpa [hstate] using h
    subst this
    simp
  | initializing => exact absurd (.inl hstate) h
  | uninitialized | stopping => simp [hstate]

end ApplicationController

structure WbDaliGateway where
  uid : String
  buses : List ApplicationController
  deriving DecidableEq, Repr

/-- What becomes of the `stop` of a gateway. -/
structure GatewayStop where
  /-- `_stop_websocket` raises what has ended the websocket task. -/
  websocketRaises : Bool := false
  bus : ℕ → StopOutcome := fun _ => .stops

namespace WbDaliGateway

variable (gw : WbDaliGateway)

/-- `stop`, and whether it raises. -/
def stop (outcome : GatewayStop) : WbDaliGateway × Bool :=
  if outcome.websocketRaises then (gw, true)
  else
    ({ gw with buses := gw.buses.map fun bus => (bus.stop (outcome.bus bus.busIndex)).1 },
      gw.buses.any fun bus => (bus.stop (outcome.bus bus.busIndex)).2)

/-- `start`, and whether it raises; the other buses keep running if one raises. -/
def start (comesUp : ℕ → Bool) : WbDaliGateway × Bool :=
  ({ gw with buses := gw.buses.map fun bus => (bus.start (comesUp bus.busIndex)).1 },
    gw.buses.any fun bus => (bus.start (comesUp bus.busIndex)).2)

/-- A gateway as `_update_gateways` creates it. -/
def create (did : String) : WbDaliGateway where
  uid := did
  buses := (List.range' 1 3).map fun busIndex => { busIndex }

/-- The device id and bus of each running controller. -/
def running : List (String × ℕ) :=
  (gw.buses.filter (·.IsRunning)).map fun bus => (gw.uid, bus.busIndex)

/-- `stop` raises. -/
def StopRaises (outcome : GatewayStop) : Prop :=
  outcome.websocketRaises = true ∨ ∃ bus ∈ gw.buses, bus.StopRaises (outcome.bus bus.busIndex)

/-- A controller of the gateway is half stopped. -/
def IsHalfStopped : Prop := ∃ bus ∈ gw.buses, bus.IsHalfStopped

end WbDaliGateway

/-! ### The serial configuration -/

structure SerialDevice where
  enabled : Bool := true
  deviceType : Option String := none
  id : Option String := none
  /-- As the f-string prints it. -/
  slaveId : String := ""
  deriving DecidableEq, Repr

structure Port where
  enabled : Bool := true
  devices : List SerialDevice := []
  deriving DecidableEq, Repr

/-- `serial_config.get("config", {}).get("ports", [])` -/
structure SerialConfig where
  ports : List Port := []
  deriving DecidableEq, Repr

/-- The device id that a device of the configuration adds to `device_ids`. -/
def SerialDevice.deviceId (device : SerialDevice) : Option String :=
  if device.enabled ∧
    (device.deviceType = some "WB-DALI" ∨ device.deviceType = some "WB-MDALI") then
    some (device.id.getD ("wb-dali_" ++ device.slaveId))
  else none

def SerialConfig.deviceIds (config : SerialConfig) : Finset String :=
  (((config.ports.filter (·.enabled)).flatMap (·.devices)).filterMap (·.deviceId)).toFinset

/-- The order in which a set of strings is iterated. -/
structure IterationOrder where
  list : Finset String → List String
  nodup : ∀ ids, (list ids).Nodup
  mem_list : ∀ ids did, did ∈ list ids ↔ did ∈ ids

/-! ### The update -/

/-- The gateways, and those that have been started or listed and are not in the list. -/
structure State where
  wbDaliGateways : List WbDaliGateway
  unlisted : List WbDaliGateway := []
  deriving DecidableEq, Repr

/-- The gateway at a place of the list is not taken over: its device id is not configured, or a
gateway before it has the same. -/
def IsRemoved (gws : List WbDaliGateway) (deviceIds : Finset String) (place : ℕ)
    (gw : WbDaliGateway) : Prop :=
  gws[place]? = some gw ∧ (gw.uid ∈ deviceIds → gw.uid ∈ (gws.take place).map (·.uid))

/-- What the loop over `self.wb_dali_gateways` leaves. -/
structure StopLoop where
  /-- The gateways of the old list. -/
  current : List WbDaliGateway
  /-- `new_gateways` -/
  newGateways : List WbDaliGateway
  stopped : List WbDaliGateway
  deviceIds : Finset String
  raises : Bool

/-- The loop over `self.wb_dali_gateways`; `outcomes` tells by place what becomes of a `stop`. -/
def stopLoop : (ℕ → GatewayStop) → List WbDaliGateway → Finset String → StopLoop
  | _, [], deviceIds => ⟨[], [], [], deviceIds, false⟩
  | outcomes, gw :: gws, deviceIds =>
    if gw.uid ∈ deviceIds then
      let loop := stopLoop (fun place => outcomes (place + 1)) gws (deviceIds.erase gw.uid)
      { loop with current := gw :: loop.current, newGateways := gw :: loop.newGateways }
    else if (gw.stop (outcomes 0)).2 then ⟨(gw.stop (outcomes 0)).1 :: gws, [], [], deviceIds, true⟩
    else
      let loop := stopLoop (fun place => outcomes (place + 1)) gws deviceIds
      { loop with
        current := (gw.stop (outcomes 0)).1 :: loop.current
        stopped := (gw.stop (outcomes 0)).1 :: loop.stopped }

/-- The loop over the device ids that are left: the gateways that were created, and whether a
`start` raises. -/
def startLoop (comesUp : String → ℕ → Bool) : List String → List WbDaliGateway × Bool
  | [] => ([], false)
  | did :: dids =>
    let (gw, raises) := (WbDaliGateway.create did).start (comesUp did)
    if raises then ([gw], true)
    else
      let (gws, raises) := startLoop comesUp dids
      (gw :: gws, raises)

namespace State

variable (state : State)

/-- `_update_gateways`; `config` is what the serial service answers, if it does. -/
def updateGateways (order : IterationOrder) (config : Option SerialConfig)
    (outcomes : ℕ → GatewayStop) (comesUp : String → ℕ → Bool) : State :=
  match config with
  | none => state
  | some config =>
    let loop := stopLoop outcomes state.wbDaliGateways config.deviceIds
    if loop.raises then { state with wbDaliGateways := loop.current }
    else
      let (created, raises) := startLoop comesUp (order.list loop.deviceIds)
      if raises then
        { wbDaliGateways := loop.current, unlisted := state.unlisted ++ created }
      else
        { wbDaliGateways := loop.newGateways ++ created
          unlisted := state.unlisted ++ loop.stopped }

/-- There is at most one running controller for a device id and bus, and each belongs to a
gateway of the list. -/
structure Sound : Prop where
  nodup : ((state.wbDaliGateways ++ state.unlisted).flatMap (·.running)).Nodup
  listed : ∀ gw ∈ state.unlisted, gw.running = []

/-- The device ids without a gateway. -/
def newIds (deviceIds : Finset String) : Finset String :=
  deviceIds \ (state.wbDaliGateways.map (·.uid)).toFinset

/-- The `stop` of a gateway that is not taken over raises; or none of these is half stopped, and
all controllers of the new gateways come up or none of the first one that is started. -/
def KeepsTrack (order : IterationOrder) (deviceIds : Finset String)
    (outcomes : ℕ → GatewayStop) (comesUp : String → ℕ → Bool) : Prop :=
  (∃ place gw, IsRemoved state.wbDaliGateways deviceIds place gw ∧
      gw.StopRaises (outcomes place)) ∨
    (∀ place gw, IsRemoved state.wbDaliGateways deviceIds place gw → ¬gw.IsHalfStopped) ∧
        (∀ did ∈ state.newIds deviceIds, ∀ busIndex ∈ List.range' 1 3,
          comesUp did busIndex = true) ∨
      ∃ did ∈ (order.list (state.newIds deviceIds)).head?,
        ∀ busIndex ∈ List.range' 1 3, comesUp did busIndex = false

end State

/-! ### Stopping -/

namespace WbDaliGateway

variable {gw : WbDaliGateway} {outcome : GatewayStop}

lemma stop_snd : (gw.stop outcome).2 = true ↔ gw.StopRaises outcome := by
  unfold stop StopRaises
  split
  case isTrue h => simp [h]
  case isFalse h => simp [h, ApplicationController.stop_snd]

lemma mem_running {entry : String × ℕ} :
    entry ∈ gw.running ↔ ∃ bus ∈ gw.buses, bus.IsRunning ∧ entry = (gw.uid, bus.busIndex) := by
  simp [running, and_assoc, eq_comm]

lemma running_eq_nil : gw.running = [] ↔ ∀ bus ∈ gw.buses, ¬bus.IsRunning := by
  simp [running]

lemma running_stop_sublist : ((gw.stop outcome).1.running).Sublist gw.running := by
  unfold stop
  split
  case isTrue => exact List.Sublist.refl _
  case isFalse =>
    simp only [running]
    generalize gw.buses = buses
    induction buses with
    | nil => exact List.Sublist.refl _
    | cons bus buses ih =>
      by_cases hstop : (bus.stop (outcome.bus bus.busIndex)).1.IsRunning
      · simpa [hstop, hstop.of_stop] using ih
      · by_cases hbus : bus.IsRunning
        · simpa [hstop, hbus] using ih.cons _
        · simpa [hstop, hbus] using ih

/-- What a `stop` that returns leaves running had been stopped in half before. -/
lemma running_stop_eq_nil (h : ¬gw.StopRaises outcome) :
    (gw.stop outcome).1.running = [] ↔ ¬gw.IsHalfStopped := by
  rw [StopRaises, not_or, not_exists] at h
  obtain ⟨hwebsocket, hbuses⟩ := h
  rw [running_eq_nil, stop, if_neg hwebsocket, IsHalfStopped]
  simp only [List.forall_mem_map, not_exists, not_and]
  refine forall₂_congr fun bus hbus => ?_
  rw [ApplicationController.isRunning_stop_iff fun hraises => hbuses bus ⟨hbus, hraises⟩]

end WbDaliGateway

section StopLoop

variable {outcomes : ℕ → GatewayStop} {gws : List WbDaliGateway} {deviceIds : Finset String}
  {gw other : WbDaliGateway}

lemma isRemoved_zero :
    IsRemoved (gw :: gws) deviceIds 0 other ↔ gw = other ∧ gw.uid ∉ deviceIds := by
  simp only [IsRemoved, List.getElem?_cons_zero, Option.some.injEq, List.take_zero, List.map_nil,
    List.not_mem_nil]
  exact and_congr_right fun h => by rw [h]

lemma isRemoved_succ {place : ℕ} :
    IsRemoved (gw :: gws) deviceIds (place + 1) other ↔
      IsRemoved gws (deviceIds.erase gw.uid) place other := by
  simp only [IsRemoved, List.getElem?_cons_succ, List.take_succ_cons, List.map_cons, List.mem_cons,
    Finset.mem_erase, and_imp]
  refine and_congr_right fun _ => ⟨fun h hne hmem => (h hmem).resolve_left hne, fun h hmem => ?_⟩
  by_cases heq : other.uid = gw.uid
  · exact .inl heq
  · exact .inr (h heq hmem)

/-- A statement about some gateway that is not taken over, by the place of it. -/
lemma exists_isRemoved_cons {P : ℕ → WbDaliGateway → Prop} :
    (∃ place other, IsRemoved (gw :: gws) deviceIds place other ∧ P place other) ↔
      gw.uid ∉ deviceIds ∧ P 0 gw ∨
        ∃ place other, IsRemoved gws (deviceIds.erase gw.uid) place other ∧
          P (place + 1) other := by
  constructor
  · rintro ⟨place, other, hremoved, h⟩
    cases place with
    | zero =>
      obtain ⟨rfl, hnot⟩ := isRemoved_zero.1 hremoved
      exact .inl ⟨hnot, h⟩
    | succ place => exact .inr ⟨place, other, isRemoved_succ.1 hremoved, h⟩
  · rintro (⟨hnot, h⟩ | ⟨place, other, hremoved, h⟩)
    · exact ⟨0, gw, isRemoved_zero.2 ⟨rfl, hnot⟩, h⟩
    · exact ⟨place + 1, other, isRemoved_succ.2 hremoved, h⟩

/-- The loop raises where a `stop` raises. -/
lemma stopLoop_raises :
    (stopLoop outcomes gws deviceIds).raises = true ↔
      ∃ place gw, IsRemoved gws deviceIds place gw ∧ gw.StopRaises (outcomes place) := by
  induction gws generalizing outcomes deviceIds with
  | nil => simp [stopLoop, IsRemoved]
  | cons gw gws ih =>
    rw [exists_isRemoved_cons, stopLoop]
    split
    case isTrue hmem => simp [ih, hmem]
    case isFalse hmem =>
      rw [Finset.erase_eq_of_notMem hmem]
      split
      case isTrue hraises => simp [hmem, WbDaliGateway.stop_snd.1 hraises]
      case isFalse hraises => simp [hmem, ih, mt WbDaliGateway.stop_snd.2 hraises]

lemma sdiff_cons :
    deviceIds.erase gw.uid \ (gws.map (·.uid)).toFinset =
      deviceIds \ ((gw :: gws).map (·.uid)).toFinset := by
  ext did
  simp only [Finset.mem_sdiff, Finset.mem_erase, List.map_cons, List.toFinset_cons,
    Finset.mem_insert]
  tauto

lemma stopLoop_deviceIds (h : (stopLoop outcomes gws deviceIds).raises = false) :
    (stopLoop outcomes gws deviceIds).deviceIds = deviceIds \ (gws.map (·.uid)).toFinset := by
  induction gws generalizing outcomes deviceIds with
  | nil => simp [stopLoop]
  | cons gw gws ih =>
    rw [← sdiff_cons]
    rw [stopLoop] at h ⊢
    split at h
    case isTrue hmem =>
      rw [if_pos hmem]
      exact ih h
    case isFalse hmem =>
      rw [if_neg hmem, Finset.erase_eq_of_notMem hmem]
      split at h
      case isTrue => cases h
      case isFalse hraises =>
        rw [if_neg hraises]
        exact ih h

/-- The gateways that are taken over. -/
lemma stopLoop_newGateways : ((stopLoop outcomes gws deviceIds).newGateways).Sublist gws := by
  induction gws generalizing outcomes deviceIds with
  | nil => exact List.Sublist.refl _
  | cons gw gws ih =>
    rw [stopLoop]
    split
    · exact ih.cons_cons gw
    · split
      · exact List.nil_sublist _
      · exact ih.cons gw

/-- Stopping starts nothing, whether it raises or not. -/
lemma stopLoop_current :
    ((stopLoop outcomes gws deviceIds).current.flatMap (·.running)).Sublist
      (gws.flatMap (·.running)) := by
  induction gws generalizing outcomes deviceIds with
  | nil => exact List.Sublist.refl _
  | cons gw gws ih =>
    rw [stopLoop]
    split
    · exact (List.Sublist.refl _).append ih
    · split
      · exact WbDaliGateway.running_stop_sublist.append (List.Sublist.refl _)
      · exact WbDaliGateway.running_stop_sublist.append ih

/-- The gateways that leave the list are those that are not taken over, after their `stop`. -/
lemma mem_stopLoop_stopped (h : (stopLoop outcomes gws deviceIds).raises = false) :
    other ∈ (stopLoop outcomes gws deviceIds).stopped ↔
      ∃ place gw, IsRemoved gws deviceIds place gw ∧ other = (gw.stop (outcomes place)).1 := by
  induction gws generalizing outcomes deviceIds with
  | nil => simp [stopLoop, IsRemoved]
  | cons gw gws ih =>
    rw [exists_isRemoved_cons]
    rw [stopLoop] at h ⊢
    split at h
    case isTrue hmem => simp [hmem, ih h]
    case isFalse hmem =>
      rw [if_neg hmem, Finset.erase_eq_of_notMem hmem]
      split at h
      case isTrue => cases h
      case isFalse hraises => simp [hmem, hraises, ih h]

end StopLoop

/-! ### Starting -/

section StartLoop

variable {comesUp : String → ℕ → Bool} {did : String} {dids : List String}

/-- The started gateway runs the controllers that come up. -/
lemma running_start_create :
    ((WbDaliGateway.create did).start (comesUp did)).1.running =
      ((List.range' 1 3).filter (comesUp did)).map fun busIndex => (did, busIndex) := by
  cases h1 : comesUp did 1 <;> cases h2 : comesUp did 2 <;> cases h3 : comesUp did 3 <;>
    simp [WbDaliGateway.running, WbDaliGateway.start, WbDaliGateway.create, List.range',
      ApplicationController.start, ApplicationController.IsRunning, h1, h2, h3]

lemma start_create_snd :
    ((WbDaliGateway.create did).start (comesUp did)).2 = true ↔
      ∃ busIndex ∈ List.range' 1 3, comesUp did busIndex = false := by
  cases h1 : comesUp did 1 <;> cases h2 : comesUp did 2 <;> cases h3 : comesUp did 3 <;>
    simp [WbDaliGateway.start, WbDaliGateway.create, List.range', ApplicationController.start, h1,
      h2, h3]

/-- The loop raises where a controller of one of the gateways does not come up. -/
lemma startLoop_raises :
    (startLoop comesUp dids).2 = true ↔
      ∃ did ∈ dids, ∃ busIndex ∈ List.range' 1 3, comesUp did busIndex = false := by
  induction dids with
  | nil => simp [startLoop]
  | cons did dids ih =>
    rw [List.exists_mem_cons_iff, ← ih, ← start_create_snd, startLoop]
    dsimp only
    split
    case isTrue h => simp [h]
    case isFalse h => simp [h]

/-- What runs after the loop, whether it raises or not, belongs to the gateways it went through. -/
lemma running_startLoop_sublist :
    ((startLoop comesUp dids).1.flatMap (·.running)).Sublist
      (dids.flatMap fun did => (List.range' 1 3).map fun busIndex => (did, busIndex)) := by
  induction dids with
  | nil => exact List.Sublist.refl _
  | cons did dids ih =>
    have hgw : ((WbDaliGateway.create did).start (comesUp did)).1.running.Sublist
        ((List.range' 1 3).map fun busIndex => (did, busIndex)) := by
      rw [running_start_create]
      exact List.filter_sublist.map _
    rw [startLoop]
    dsimp only
    split
    · simpa using hgw.trans (List.sublist_append_left _ _)
    · exact hgw.append ih

/-- A loop that raises leaves nothing running if the first gateway comes up nowhere. -/
lemma running_startLoop_eq_nil (h : (startLoop comesUp dids).2 = true) :
    (∀ gw ∈ (startLoop comesUp dids).1, gw.running = []) ↔
      ∃ did ∈ dids.head?, ∀ busIndex ∈ List.range' 1 3, comesUp did busIndex = false := by
  cases dids with
  | nil => simp [startLoop] at h
  | cons did dids =>
    have hfirst : ((WbDaliGateway.create did).start (comesUp did)).1.running = [] ↔
        ∀ busIndex ∈ List.range' 1 3, comesUp did busIndex = false := by
      rw [running_start_create, List.map_eq_nil_iff, List.filter_eq_nil_iff]
      simp
    rw [startLoop]
    dsimp only
    split
    case isTrue => simpa using hfirst
    case isFalse hup =>
      -- a gateway all of whose controllers come up is not the one that raises
      have hnot : ¬∀ busIndex ∈ List.range' 1 3, comesUp did busIndex = false := fun hall =>
        hup (start_create_snd.2 ⟨1, by simp, hall 1 (by simp)⟩)
      simp only [List.mem_cons, forall_eq_or_imp, List.head?_cons, Option.mem_def,
        Option.some.injEq, exists_eq_left']
      exact ⟨fun hall => absurd (hfirst.1 hall.1) hnot, fun hall => absurd hall hnot⟩

lemma nodup_running_startLoop (h : dids.Nodup) :
    ((startLoop comesUp dids).1.flatMap (·.running)).Nodup := by
  refine List.Nodup.sublist running_startLoop_sublist (List.nodup_flatMap.2 ⟨fun did _ => ?_, ?_⟩)
  · exact List.Nodup.map (fun _ _ heq => (Prod.mk.inj heq).2) (by decide)
  · refine h.imp fun hne entry hentry hother => hne ?_
    obtain ⟨_, _, rfl⟩ := List.mem_map.1 hentry
    obtain ⟨_, _, heq⟩ := List.mem_map.1 hother
    exact (Prod.mk.inj heq).1.symm

end StartLoop

/-! ### The update -/

namespace State

variable {state : State} {order : IterationOrder} {outcomes : ℕ → GatewayStop}
  {comesUp : String → ℕ → Bool}

/-- A list in which nothing runs that did not run before is as sound as it was. -/
lemma Sound.of_sublist {gws unlisted : List WbDaliGateway} (h : state.Sound)
    (hgws : (gws.flatMap (·.running)).Sublist (state.wbDaliGateways.flatMap (·.running)))
    (hunlisted : ∀ gw ∈ unlisted, gw.running = []) :
    State.Sound { wbDaliGateways := gws, unlisted } where
  nodup := by
    have hnil : unlisted.flatMap (·.running) = [] := List.flatMap_eq_nil_iff.2 hunlisted
    rw [List.flatMap_append, hnil, List.append_nil]
    have := h.nodup
    rw [List.flatMap_append] at this
    exact (this.sublist (List.sublist_append_left _ _)).sublist hgws
  listed := hunlisted

/-- The gateways that leave the list after a `stop` that returns are still, unless one of them
was half stopped. -/
lemma stopped_running_eq_nil {gws : List WbDaliGateway} {deviceIds : Finset String}
    (h : (stopLoop outcomes gws deviceIds).raises = false) :
    (∀ gw ∈ (stopLoop outcomes gws deviceIds).stopped, gw.running = []) ↔
      ∀ place gw, IsRemoved gws deviceIds place gw → ¬gw.IsHalfStopped := by
  have hstop : ∀ place gw, IsRemoved gws deviceIds place gw → ¬gw.StopRaises (outcomes place) :=
    fun place gw hremoved hraises => by
      rw [stopLoop_raises.2 ⟨place, gw, hremoved, hraises⟩] at h
      cases h
  constructor
  · intro hall place gw hremoved
    exact (WbDaliGateway.running_stop_eq_nil (hstop place gw hremoved)).1
      (hall _ ((mem_stopLoop_stopped h).2 ⟨place, gw, hremoved, rfl⟩))
  · intro hall other hother
    obtain ⟨place, gw, hremoved, rfl⟩ := (mem_stopLoop_stopped h).1 hother
    exact (WbDaliGateway.running_stop_eq_nil (hstop place gw hremoved)).2 (hall place gw hremoved)

/-- The gateways that are taken over and those that are new run nothing twice. -/
lemma nodup_running_newGateways {deviceIds : Finset String} (h : state.Sound) :
    (((stopLoop outcomes state.wbDaliGateways deviceIds).newGateways ++
      (startLoop comesUp (order.list (state.newIds deviceIds))).1).flatMap (·.running)).Nodup := by
  have hkept : (stopLoop outcomes state.wbDaliGateways deviceIds).newGateways.Sublist
      state.wbDaliGateways := stopLoop_newGateways
  have hnodup := h.nodup
  rw [List.flatMap_append] at hnodup ⊢
  refine List.nodup_append.2 ⟨?_, nodup_running_startLoop (order.nodup _), ?_⟩
  · exact (hnodup.sublist (List.sublist_append_left _ _)).sublist (hkept.flatMap _)
  · -- a new gateway has a device id that none of the old ones has
    rintro entry hentry _ hother rfl
    obtain ⟨gw, hgw, hrunning⟩ := List.mem_flatMap.1 hentry
    obtain ⟨_, _, _, rfl⟩ := WbDaliGateway.mem_running.1 hrunning
    obtain ⟨did, hdid, hnew⟩ := List.mem_flatMap.1 (running_startLoop_sublist.subset hother)
    obtain ⟨_, _, heq⟩ := List.mem_map.1 hnew
    obtain rfl := (Prod.mk.inj heq).1
    have hdid := (order.mem_list _ _).1 hdid
    rw [newIds, Finset.mem_sdiff, List.mem_toFinset] at hdid
    exact hdid.2 (List.mem_map.2 ⟨gw, hkept.subset hgw, rfl⟩)

lemma startLoop_returns {deviceIds : Finset String} :
    (startLoop comesUp (order.list (state.newIds deviceIds))).2 = false ↔
      ∀ did ∈ state.newIds deviceIds, ∀ busIndex ∈ List.range' 1 3,
        comesUp did busIndex = true := by
  rw [← Bool.not_eq_true, startLoop_raises]
  simp [order.mem_list]

/-- An update keeps at most one running controller for a device id and bus, each of a listed
gateway, exactly if there is no configuration or its failures are of the harmless kinds. -/
theorem sound_updateGateways_iff (h : state.Sound) (config : Option SerialConfig) :
    (state.updateGateways order config outcomes comesUp).Sound ↔
      ∀ serialConfig ∈ config,
        state.KeepsTrack order serialConfig.deviceIds outcomes comesUp := by
  cases config with
  | none => simpa [updateGateways] using h
  | some serialConfig =>
    simp only [Option.mem_def, Option.some.injEq, forall_eq', updateGateways]
    generalize serialConfig.deviceIds = deviceIds
    cases hstop : (stopLoop outcomes state.wbDaliGateways deviceIds).raises with
    | true =>
      rw [if_pos rfl]
      exact iff_of_true (h.of_sublist stopLoop_current h.listed) (.inl (stopLoop_raises.1 hstop))
    | false =>
      -- every gateway that is gone has stopped
      have hno : ¬∃ place gw, IsRemoved state.wbDaliGateways deviceIds place gw ∧
          gw.StopRaises (outcomes place) := by
        rw [← stopLoop_raises, hstop]
        decide
      have hloop : (stopLoop outcomes state.wbDaliGateways deviceIds).deviceIds =
          state.newIds deviceIds := stopLoop_deviceIds hstop
      rw [if_neg Bool.false_ne_true, hloop, KeepsTrack, or_iff_right hno, ← startLoop_returns,
        ← stopped_running_eq_nil hstop]
      cases hstart : (startLoop comesUp (order.list (state.newIds deviceIds))).2 with
      | true =>
        -- a start that fails leaves the new gateways out of the list
        rw [if_pos rfl, ← running_startLoop_eq_nil hstart]
        simp only [Bool.true_eq_false, and_false, false_or]
        constructor
        · intro hsound gw hgw
          exact hsound.listed gw (List.mem_append_right _ hgw)
        · intro hnil
          exact h.of_sublist stopLoop_current
            (List.forall_mem_append.2 ⟨h.listed, hnil⟩)
      | false =>
        rw [if_neg Bool.false_ne_true]
        have hfirst : ¬∃ did ∈ (order.list (state.newIds deviceIds)).head?,
            ∀ busIndex ∈ List.range' 1 3, comesUp did busIndex = false := by
          rintro ⟨did, hdid, hfail⟩
          have hup := startLoop_returns.1 hstart did
            ((order.mem_list _ _).1 (List.mem_of_mem_head? hdid)) 1 (by simp)
          rw [hfail 1 (by simp)] at hup
          cases hup
        rw [or_iff_left hfirst, and_iff_left rfl]
        constructor
        · intro hsound gw hgw
          exact hsound.listed gw (List.mem_append_right _ hgw)
        · intro hnil
          have hunlisted := List.forall_mem_append.2 ⟨h.listed, hnil⟩
          refine ⟨?_, hunlisted⟩
          have hnone := List.flatMap_eq_nil_iff.2 hunlisted
          rw [List.flatMap_append, hnone, List.append_nil]
          exact nodup_running_newGateways h

/-- A set in some order. -/
noncomputable def anyOrder : IterationOrder where
  list := Finset.toList
  nodup := Finset.nodup_toList
  mem_list _ _ := Finset.mem_toList

/-- A serial configuration with one gateway. -/
def oneGateway : SerialConfig where
  ports := [{ devices := [{ deviceType := some "WB-MDALI", slaveId := "12" }] }]

/-- A serial configuration with two gateways, and devices that are none. -/
def twoGateways : SerialConfig where
  ports := [
    { devices := [{ deviceType := some "WB-MDALI", slaveId := "12" },
        { deviceType := some "WB-MR6C", slaveId := "20" }] },
    { enabled := false, devices := [{ deviceType := some "WB-DALI", slaveId := "11" }] },
    { devices := [{ deviceType := some "WB-DALI", slaveId := "13", id := some "upstairs" },
        { enabled := false, deviceType := some "WB-DALI", slaveId := "14" }] }]

/-- A gateway all of whose buses are up. -/
def started (did : String) : WbDaliGateway := ((WbDaliGateway.create did).start fun _ => true).1

/-- Two gateways run; the first of them is no longer configured. -/
def previousGateways : State where
  wbDaliGateways := [started "wb-dali_11", started "wb-dali_12"]

/-- The second bus of a gateway raises when it is stopped. -/
def secondBusRaises : GatewayStop where
  bus busIndex := if busIndex = 2 then .raisesLate else .stops

/-- The update of the gateways to the two of the configuration, whose buses all come up. -/
noncomputable def updateToTwo (state : State) (outcome : GatewayStop) : State :=
  state.updateGateways anyOrder (some twoGateways) (fun _ => outcome) fun _ _ => true

lemma updateToTwo_previousGateways :
    (previousGateways.updateToTwo {}).wbDaliGateways =
        [started "wb-dali_12", started "upstairs"] ∧
      (previousGateways.updateToTwo secondBusRaises).wbDaliGateways =
        [((started "wb-dali_11").stop secondBusRaises).1, started "wb-dali_12"] := by
  have hids : twoGateways.deviceIds = {"wb-dali_12", "upstairs"} := by decide
  have hnew : ({"wb-dali_12", "upstairs"} : Finset String).erase "wb-dali_12" = {"upstairs"} := by
    decide
  have hstops : ((started "wb-dali_11").stop {}).2 = false := by decide
  have hraises : ((started "wb-dali_11").stop secondBusRaises).2 = true := by decide
  have hup : ((WbDaliGateway.create "upstairs").start fun _ => true).2 = false := by decide
  have hremoved : (started "wb-dali_11").uid ∉ ({"wb-dali_12", "upstairs"} : Finset String) := by
    decide
  have hkept : (started "wb-dali_12").uid ∈ ({"wb-dali_12", "upstairs"} : Finset String) := by
    decide
  constructor
  · simp only [updateToTwo, updateGateways, previousGateways, hids, stopLoop, if_neg hremoved,
      hstops, if_pos hkept]
    rw [show (started "wb-dali_12").uid = "wb-dali_12" from rfl, hnew]
    simp [anyOrder, startLoop, started, hup]
  · simp [updateToTwo, updateGateways, previousGateways, hids, stopLoop, hremoved, hraises]

/-- The first gateway is stopped, the second is kept and a third is started; and after a failed
attempt to stop the first one the next update can be made. -/
theorem sound_updateGateways_twoGateways :
    (previousGateways.updateToTwo {}).wbDaliGateways =
        [started "wb-dali_12", started "upstairs"] ∧
      (previousGateways.updateToTwo {}).Sound ∧
      (previousGateways.updateToTwo secondBusRaises).Sound ∧
        ((previousGateways.updateToTwo secondBusRaises).updateToTwo {}).Sound := by
  have h : previousGateways.Sound := ⟨by decide, by simp [previousGateways]⟩
  have hfirst : previousGateways.KeepsTrack anyOrder twoGateways.deviceIds
      (fun _ => secondBusRaises) fun _ _ => true := by
    refine .inl ⟨0, started "wb-dali_11", isRemoved_zero.2 ⟨rfl, by decide⟩, ?_⟩
    exact WbDaliGateway.stop_snd.1 (by decide)
  have hkeeps {state : State} (hstate : ∀ gw ∈ state.wbDaliGateways, ¬gw.IsHalfStopped) :
      state.KeepsTrack anyOrder twoGateways.deviceIds (fun _ => {}) fun _ _ => true :=
    .inr (.inl ⟨fun _ gw hremoved => hstate gw (List.mem_of_getElem? hremoved.1),
      fun _ _ _ _ => rfl⟩)
  have hfailed : (previousGateways.updateToTwo secondBusRaises).Sound := by
    refine (sound_updateGateways_iff h _).2 ?_
    rintro _ ⟨⟩
    exact hfirst
  refine ⟨updateToTwo_previousGateways.1, (sound_updateGateways_iff h _).2 ?_, hfailed,
    (sound_updateGateways_iff hfailed _).2 ?_⟩
  · rintro _ ⟨⟩
    refine hkeeps ?_
    simp only [previousGateways, WbDaliGateway.IsHalfStopped, ApplicationController.IsHalfStopped]
    decide
  · rintro _ ⟨⟩
    refine hkeeps ?_
    simp only [updateToTwo_previousGateways.2, WbDaliGateway.IsHalfStopped,
      ApplicationController.IsHalfStopped]
    decide

lemma updateGateways_oneGateway {unlisted : List WbDaliGateway} {comesUp : String → ℕ → Bool} :
    State.updateGateways { wbDaliGateways := [], unlisted } anyOrder (some oneGateway)
        (fun _ => {}) comesUp =
      let (gw, raises) := (WbDaliGateway.create "wb-dali_12").start (comesUp "wb-dali_12")
      if raises then { wbDaliGateways := [], unlisted := unlisted ++ [gw] }
      else { wbDaliGateways := [gw], unlisted } := by
  have hids : oneGateway.deviceIds = {"wb-dali_12"} := by decide
  simp only [updateGateways, stopLoop, hids, anyOrder, Finset.toList_singleton, startLoop,
    Bool.false_eq_true, if_false, List.append_nil, List.nil_append]
  split <;> rfl

/-- The second controller of a new gateway does not come up: the first and the third run without
a place in the list, and the next update runs them a second time. -/
theorem exists_not_sound_updateGateways :
    ∃ (state : State) (order : IterationOrder) (config : SerialConfig)
      (comesUp : String → ℕ → Bool), state.Sound ∧
        let next := state.updateGateways order (some config) (fun _ => {}) comesUp
        let afterNext := next.updateGateways order (some config) (fun _ => {}) fun _ _ => true
        ¬next.Sound ∧
          next.wbDaliGateways = [] ∧ ("wb-dali_12", 1) ∈ next.unlisted.flatMap (·.running) ∧
          (afterNext.wbDaliGateways ++ afterNext.unlisted).flatMap (·.running) =
            [("wb-dali_12", 1), ("wb-dali_12", 2), ("wb-dali_12", 3), ("wb-dali_12", 1),
              ("wb-dali_12", 3)] := by
  refine ⟨{ wbDaliGateways := [] }, anyOrder, oneGateway, fun _ busIndex => busIndex ≠ 2,
    ⟨by decide, by simp⟩, ?_⟩
  have hnext : State.updateGateways { wbDaliGateways := [] } anyOrder (some oneGateway)
      (fun _ => {}) (fun _ busIndex => busIndex ≠ 2) =
      { wbDaliGateways := [], unlisted :=
        [((WbDaliGateway.create "wb-dali_12").start fun busIndex => busIndex ≠ 2).1] } :=
    updateGateways_oneGateway
  rw [hnext]
  dsimp only
  rw [updateGateways_oneGateway]
  refine ⟨fun h => ?_, rfl, by decide, by decide⟩
  exact absurd (h.listed _ (List.mem_singleton_self _)) (by decide)

end State

end WbMqttDali.UpdateGateways
