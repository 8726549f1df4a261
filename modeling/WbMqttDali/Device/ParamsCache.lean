import Mathlib
import WbMqttDali.Device.Identity
import WbMqttDali.Settings.Handlers

/-!
# What a device keeps of its settings

A device keeps the values that its handlers have returned, and the controls that were built
from them.  `apply_parameters` writes the handlers in turn, and looks after both when the
last of them has returned: a write that raises leaves them behind what the handlers in front
of it have confirmed.
-/

namespace WbMqttDali.ParamsCache

open Device (Identity)
open Handlers
open Settings (Error)

variable {V : Type}

/-! ### The controls -/

/-- `tc_kelvin_mirek` of the DALI library. -/
class TcConversion where
  tcKelvinMirek : ℕ → ℕ

export TcConversion (tcKelvinMirek)

/-- What `_build_mqtt_controls` looks at in a handler. -/
inductive ControlSetting where
  | other
  | onOff (isSet : Bool)
  | tcLimits (limits : Type8TcLimits)
  deriving DecidableEq, Repr

def controlSetting : Handler V → ControlSetting
  | .settingsParam _ _ | .settingsParamGroup _ => .other
  | .tcLimitsSettings limits => .tcLimits limits
  | .onOffSettingsParam param => .onOff param.config.isSome

def ControlSetting.onOff? : ControlSetting → Option Bool
  | .onOff isSet => some isSet
  | _ => none

def ControlSetting.tcLimits? : ControlSetting → Option Type8TcLimits
  | .tcLimits limits => some limits
  | _ => none

structure ControlInfo where
  id : String
  minimum : Option ℕ := none
  maximum : Option ℕ := none
  order : Option ℕ := none
  deriving DecidableEq, Repr

/-- A handler of a device type, by its `get_mqtt_controls`. -/
inductive TypeHandler where
  /-- `Type8Parameters` of a gear whose colour is its temperature. -/
  | colourTemperature
  | other (controls : List ControlInfo)
  deriving DecidableEq, Repr

inductive ControlSource where
  | dali (typeHandlers : List TypeHandler)
  /-- The controls of the instances of a control device. -/
  | dali2 (controls : List ControlInfo)
  deriving DecidableEq, Repr

section Controls

variable [TcConversion]

/-- `SetColourTemperatureControl` -/
def setColourTemperatureControl (coolestMirek warmestMirek : ℕ) : ControlInfo :=
  let isSet (limit : ℕ) : Bool := minTcMirek ≤ limit && limit ≤ maxTcMirek
  let coolest := if isSet coolestMirek then coolestMirek else uiMinTcMirek
  let warmest := if isSet warmestMirek then warmestMirek else uiMaxTcMirek
  let coolest := min (max coolest uiMinTcMirek) uiMaxTcMirek
  let warmest := min (max warmest uiMinTcMirek) uiMaxTcMirek
  let (coolest, warmest) :=
    if warmest ≤ coolest then (uiMinTcMirek, uiMaxTcMirek) else (coolest, warmest)
  { id := "set_colour_temperature"
    minimum := some (tcKelvinMirek warmest)
    maximum := some (tcKelvinMirek coolest) }

/-- `get_mqtt_controls` -/
def TypeHandler.getMqttControls (limits : Type8TcLimits) : TypeHandler → List ControlInfo
  | .colourTemperature =>
    [{ id := "current_colour_temperature" },
      setColourTemperatureControl limits.tcMinMirek limits.tcMaxMirek,
      { id := "colour_temperature_step_warmer" }, { id := "colour_temperature_step_cooler" }]
  | .other controls => controls

/-- `make_controls` -/
def makeControls : List ControlInfo :=
  [{ id := "dapc" }, { id := "go_to_last_active_level" }, { id := "off" }, { id := "up" },
    { id := "down" }, { id := "step_up" }, { id := "step_down" }, { id := "recall_max_level" },
    { id := "recall_min_level" }, { id := "step_down_and_off" }, { id := "on_and_step_up" },
    { id := "go_to_scene" }]

/-- `_build_mqtt_controls` -/
def buildMqttControls (settings : List ControlSetting) : ControlSource → List ControlInfo
  | .dali typeHandlers =>
    let isOnOffSet := (settings.findSome? ControlSetting.onOff?).getD false
    let limits := (settings.findSome? ControlSetting.tcLimits?).getD {}
    let controls := [{ id := "error_status" }] ++
      (if isOnOffSet then [{ id := "on_off" }] else []) ++
      [{ id := "actual_level" }, { id := "wanted_level" }] ++ makeControls ++
      typeHandlers.flatMap (·.getMqttControls limits)
    controls.mapIdx fun i control => { control with order := some (i + 1) }
  | .dali2 controls => controls

end Controls

/-! ### The device -/

/-- `params`, with the values that belong to no handler apart. -/
structure DeviceParams (V : Type) where
  shortAddress : ℕ
  randomAddress : String
  name : String
  mqttId : String
  settings : Values V

/-- The values of a request. -/
structure Request (V : Type) where
  common : Device.NewValues
  settings : Values V

structure DaliDeviceBase (V : Type) where
  isInitialized : Bool := false
  identity : Identity
  randomAddress : String
  parameterHandlers : List (Handler V)
  controlSource : ControlSource
  controls : List ControlInfo
  /-- None stands for the empty dictionary. -/
  params : Option (DeviceParams V) := none
  /-- the requests that the schema of the handlers accepts -/
  schema : Values V → Bool
  /-- what the handlers have returned last, by key -/
  confirmed : Values V

inductive ApplyError where
  | notInitialized
  | notLoaded
  | schema
  | reading (name : String) (error : Error)
  | writing (name : String) (error : Error)
  | shortAddress (error : Error)
  deriving DecidableEq

/-- The local variables of the loop of `apply_parameters`, with the handlers it has been to. -/
structure WriteLoop (V : Type) where
  handlers : List (Handler V)
  updatedParameters : Values V
  needsRefresh : Bool
  error : Option (String × Error)

namespace DaliDeviceBase

variable [TcConversion] (device : DaliDeviceBase V)

/-- `rebuild_mqtt_controls` -/
def builtControls : List ControlInfo :=
  buildMqttControls (device.parameterHandlers.map controlSetting) device.controlSource

/-- `initialize` with the handlers that `_initialize_impl` has found. -/
def initializeWith (handlers : List (Handler V)) (source : ControlSource) : DaliDeviceBase V :=
  { device with
    isInitialized := true
    parameterHandlers := handlers
    controlSource := source
    controls := buildMqttControls (handlers.map controlSetting) source }

/-- The results of the handlers up to the first error. -/
def readResults : List (Handler V × Except Error (Values V)) → Values V →
    Values V × Option (String × Error)
  | [], params => (params, none)
  | (handler, .error error) :: _, params => (params, some (handler.name, error))
  | (_, .ok result) :: results, params => readResults results (params.update result)

/-- `load_info`: all handlers are read, whether others fail or not. -/
def loadInfo (answers : ℕ → BusAnswers V) (schema : Values V → Bool) :
    DaliDeviceBase V × Option ApplyError :=
  if !device.isInitialized then (device, some .notInitialized)
  else
    let results := device.parameterHandlers.mapIdx fun n handler => handler.read (answers n)
    let confirmed := (results.filterMap (·.2.toOption)).foldl Dict.update device.confirmed
    let device := { device with parameterHandlers := results.map Prod.fst, confirmed }
    match readResults results ∅ with
    | (_, some (name, error)) => (device, some (.reading name error))
    | (settings, none) =>
      ({ device with
          params := some
            { shortAddress := device.identity.short
              randomAddress := device.randomAddress
              name := device.identity.name
              mqttId := device.identity.mqttId
              settings }
          schema },
        none)

/-- The loop over the handlers in `apply_parameters`. -/
def writeHandlers (newValues : Values V) :
    List (Handler V) → (ℕ → BusAnswers V) → Values V → Bool → WriteLoop V
  | [], _, updatedParameters, needsRefresh => ⟨[], updatedParameters, needsRefresh, none⟩
  | handler :: handlers, answers, updatedParameters, needsRefresh =>
    match handler.write newValues (answers 0) with
    | (handler, .error error) =>
      ⟨handler :: handlers, updatedParameters, needsRefresh, some (handler.name, error)⟩
    | (handler, .ok result) =>
      let rest := writeHandlers newValues handlers (fun n => answers (n + 1))
        (updatedParameters.update result)
        (needsRefresh || (result.entries ≠ [] && handler.requiresMqttControlsRefresh))
      { rest with handlers := handler :: rest.handlers }

/-- `_apply_common_parameters`; `reported` is what the sequence that changes the short
address returns. -/
def applyCommonParameters (params : DeviceParams V) (newValues : Device.NewValues)
    (reported : Except Error (Option ℕ)) : DaliDeviceBase V × Option ApplyError :=
  let change := device.identity.commonChange newValues
  let applied (short : ℕ) : DaliDeviceBase V × Option ApplyError :=
    let identity := device.identity.applyChange change short
    ({ device with
        identity
        params := some { params with
          shortAddress := identity.short, name := identity.name, mqttId := identity.mqttId } },
      none)
  if change.newShortAddress = device.identity.short then applied device.identity.short
  else
    match reported with
    | .error error => (device, some (.shortAddress error))
    | .ok reported => applied (device.identity.addressAfter change reported)

/-- `apply_parameters` -/
def applyParameters (newValues : Request V) (answers : ℕ → BusAnswers V)
    (reported : Except Error (Option ℕ)) : DaliDeviceBase V × Option ApplyError :=
  if !device.isInitialized then (device, some .notInitialized)
  else
    match device.params with
    | none => (device, some .notLoaded)
    | some params =>
      if !(newValues.common.validate && device.schema newValues.settings) then
        (device, some .schema)
      else
        let loop := writeHandlers newValues.settings device.parameterHandlers answers ∅ false
        let device := { device with
          parameterHandlers := loop.handlers
          confirmed := device.confirmed.update loop.updatedParameters }
        match loop.error with
        | some (name, error) => (device, some (.writing name error))
        | none =>
          let params := { params with settings := params.settings.update loop.updatedParameters }
          let device := { device with
            params := some params
            controls := if loop.needsRefresh then device.builtControls else device.controls }
          device.applyCommonParameters params newValues.common reported

end DaliDeviceBase

/-! ### What it means that a device tells the truth -/

/-- The parameters say what the handlers have confirmed last, and who the device is. -/
structure DeviceParams.Agrees (params : DeviceParams V) (device : DaliDeviceBase V) : Prop where
  settings : ∀ key value, params.settings.get? key = some value →
    device.confirmed.get? key = some value
  shortAddress : params.shortAddress = device.identity.short
  name : params.name = device.identity.name
  mqttId : params.mqttId = device.identity.mqttId

section

variable [TcConversion]

structure DaliDeviceBase.Truthful (device : DaliDeviceBase V) : Prop where
  params : ∀ params, device.params = some params → params.Agrees device
  controls : device.controls = device.builtControls

/-- The first handler whose `write` raises. -/
def firstFailure (newValues : Values V) :
    List (Handler V) → (ℕ → BusAnswers V) → Option ℕ
  | [], _ => none
  | handler :: handlers, answers =>
    match (handler.write newValues (answers 0)).2 with
    | .error _ => some 0
    | .ok _ => (firstFailure newValues handlers fun n => answers (n + 1)).map (· + 1)

/-- What the writes of the first handlers return. -/
def confirmedBy (newValues : Values V) :
    ℕ → List (Handler V) → (ℕ → BusAnswers V) → Values V
  | count + 1, handler :: handlers, answers =>
    ((handler.write newValues (answers 0)).2.toOption.getD ∅).update
      (confirmedBy newValues count handlers fun n => answers (n + 1))
  | _, _, _ => ∅

/-- The handlers after the writes of the first ones. -/
def writtenBy (newValues : Values V) :
    ℕ → List (Handler V) → (ℕ → BusAnswers V) → List (Handler V)
  | count + 1, handler :: handlers, answers =>
    (handler.write newValues (answers 0)).1 ::
      writtenBy newValues count handlers fun n => answers (n + 1)
  | _, handlers, _ => handlers

/-- Where a handler raises, those in front of it have confirmed nothing that the parameters do
not say already, and have changed nothing that the controls are built from. -/
def DaliDeviceBase.FailsQuietly (device : DaliDeviceBase V) (params : DeviceParams V)
    (newValues : Values V) (answers : ℕ → BusAnswers V) : Prop :=
  ∀ count, firstFailure newValues device.parameterHandlers answers = some count →
    (∀ key value, params.settings.get? key = some value → ∀ confirmed,
      (confirmedBy newValues count device.parameterHandlers answers).get? key = some confirmed →
        confirmed = value) ∧
    buildMqttControls
      ((writtenBy newValues count device.parameterHandlers answers).map controlSetting)
      device.controlSource = device.builtControls

/-! ### What one handler changes -/

section Handler

omit [TcConversion]

variable {newValues : Values V} {busAnswers : BusAnswers V} {handler handler' : Handler V}

/-- A write that raises leaves the controls as they are. -/
lemma controlSetting_of_raises {error : Error}
    (h : handler.write newValues busAnswers = (handler', .error error)) :
    controlSetting handler' = controlSetting handler := by
  cases handler with
  | settingsParam param state =>
    rw [Handler.write] at h
    split at h <;> (obtain ⟨rfl, -⟩ := Prod.mk.inj h; rfl)
  | settingsParamGroup group =>
    obtain ⟨rfl, -⟩ := Prod.mk.inj h
    rfl
  | tcLimitsSettings limits =>
    obtain ⟨rfl, herror⟩ := Prod.mk.inj h
    exact congrArg ControlSetting.tcLimits
      (Handler.eq_of_writeTcLimits_raises (Prod.ext rfl herror))
  | onOffSettingsParam param =>
    obtain ⟨rfl, herror⟩ := Prod.mk.inj h
    have hsame := OnOffSettingsParam.eq_of_write_raises (Prod.ext rfl herror)
    exact congrArg (fun param => ControlSetting.onOff param.config.isSome) hsame

/-- A write that does not ask for a rebuild leaves the controls as they are. -/
lemma controlSetting_of_returns {result : Values V}
    (h : handler.write newValues busAnswers = (handler', .ok result))
    (hrefresh : result.entries = [] ∨ handler'.requiresMqttControlsRefresh = false) :
    controlSetting handler' = controlSetting handler := by
  cases handler with
  | settingsParam param state =>
    rw [Handler.write] at h
    split at h <;> (obtain ⟨rfl, -⟩ := Prod.mk.inj h; rfl)
  | settingsParamGroup group =>
    obtain ⟨rfl, -⟩ := Prod.mk.inj h
    rfl
  | tcLimitsSettings limits =>
    obtain ⟨rfl, hresult⟩ := Prod.mk.inj h
    rcases hrefresh with hempty | hrefresh
    · have hsame := Handler.eq_of_writeTcLimits_empty (Prod.ext rfl hresult) hempty
      exact congrArg ControlSetting.tcLimits hsame
    · cases hrefresh
  | onOffSettingsParam param =>
    obtain ⟨rfl, hresult⟩ := Prod.mk.inj h
    have hsame := OnOffSettingsParam.isSome_config_write (Prod.ext rfl hresult) hrefresh
    exact congrArg ControlSetting.onOff hsame

end Handler

/-! ### The loop over the handlers -/

namespace DaliDeviceBase

section Loop

omit [TcConversion]

variable {newValues : Values V} {handler handler' : Handler V} {handlers : List (Handler V)}
  {answers : ℕ → BusAnswers V} {updated : Values V} {needsRefresh : Bool}

lemma writeHandlers_cons_of_raises {error : Error}
    (h : handler.write newValues (answers 0) = (handler', .error error)) :
    writeHandlers newValues (handler :: handlers) answers updated needsRefresh =
      ⟨handler' :: handlers, updated, needsRefresh, some (handler'.name, error)⟩ := by
  rw [writeHandlers, h]

lemma writeHandlers_cons_of_returns {result : Values V}
    (h : handler.write newValues (answers 0) = (handler', .ok result)) :
    writeHandlers newValues (handler :: handlers) answers updated needsRefresh =
      let rest :=
        writeHandlers newValues handlers (fun n => answers (n + 1)) (updated.update result)
        (needsRefresh || (result.entries ≠ [] && handler'.requiresMqttControlsRefresh))
      { rest with handlers := handler' :: rest.handlers } := by
  rw [writeHandlers, h]

/-- What the loop has done when a handler raises. -/
lemma writeHandlers_of_raises
    (h : (writeHandlers newValues handlers answers updated needsRefresh).error ≠ none) :
    ∃ count, firstFailure newValues handlers answers = some count ∧
      (∀ key, (writeHandlers newValues handlers answers updated needsRefresh).updatedParameters.get?
        key = ((confirmedBy newValues count handlers answers).get? key).or (updated.get? key)) ∧
      (writeHandlers newValues handlers answers updated needsRefresh).handlers.map controlSetting =
        (writtenBy newValues count handlers answers).map controlSetting := by
  induction handlers generalizing answers updated needsRefresh with
  | nil => exact absurd rfl h
  | cons handler handlers ih =>
    rcases hwrite : handler.write newValues (answers 0) with ⟨handler', error | result⟩
    · rw [writeHandlers_cons_of_raises hwrite, firstFailure, hwrite]
      refine ⟨0, rfl, fun key => rfl, ?_⟩
      show controlSetting handler' :: _ = controlSetting handler :: _
      rw [controlSetting_of_raises hwrite]
    · rw [writeHandlers_cons_of_returns hwrite] at h ⊢
      obtain ⟨count, hfirst, hupdated, hhandlers⟩ := ih h
      rw [firstFailure, hwrite]
      refine ⟨count + 1, ?_, fun key => ?_, ?_⟩
      · show Option.map _ (firstFailure _ _ _) = _
        rw [hfirst]
        rfl
      · rw [hupdated, confirmedBy, hwrite, Dict.get?_update, Dict.get?_update, Option.or_assoc]
        rfl
      · rw [writtenBy, hwrite, List.map_cons, List.map_cons, hhandlers]

/-- What the loop has done when every handler has returned. -/
lemma writeHandlers_of_returns
    (h : (writeHandlers newValues handlers answers updated needsRefresh).error = none) :
    firstFailure newValues handlers answers = none ∧
      ((writeHandlers newValues handlers answers updated needsRefresh).needsRefresh = false →
        needsRefresh = false ∧
        (writeHandlers newValues handlers answers updated needsRefresh).handlers.map
          controlSetting =
          handlers.map controlSetting) := by
  induction handlers generalizing answers updated needsRefresh with
  | nil => exact ⟨rfl, fun hrefresh => ⟨hrefresh, rfl⟩⟩
  | cons handler handlers ih =>
    rcases hwrite : handler.write newValues (answers 0) with ⟨handler', error | result⟩
    · rw [writeHandlers_cons_of_raises hwrite] at h
      cases h
    · rw [writeHandlers_cons_of_returns hwrite] at h ⊢
      obtain ⟨hfirst, hsame⟩ := ih h
      rw [firstFailure, hwrite]
      refine ⟨?_, fun hrefresh => ?_⟩
      · show Option.map _ (firstFailure _ _ _) = _
        rw [hfirst]
        rfl
      · obtain ⟨hrefresh, hhandlers⟩ := hsame hrefresh
        obtain ⟨hbefore, hhere⟩ := Bool.or_eq_false_iff.1 hrefresh
        have hquiet : result.entries = [] ∨ handler'.requiresMqttControlsRefresh = false := by
          simpa [or_iff_not_imp_left] using hhere
        refine ⟨hbefore, ?_⟩
        rw [List.map_cons, List.map_cons, hhandlers, controlSetting_of_returns hwrite hquiet]

end Loop

/-! ### The end of `apply_parameters` -/

variable {device : DaliDeviceBase V} {params : DeviceParams V}

/-- The common parameters are written down only where the device has them. -/
lemma Truthful.applyCommonParameters {newValues : Device.NewValues}
    {reported : Except Error (Option ℕ)} (h : device.Truthful)
    (hparams : device.params = some params) :
    (device.applyCommonParameters params newValues reported).1.Truthful := by
  have hagrees := h.params params hparams
  have happlied (identity : Identity) :
      { device with
        identity
        params := some { params with
          shortAddress := identity.short
          name := identity.name
          mqttId := identity.mqttId } : DaliDeviceBase V }.Truthful := by
    refine ⟨fun params' hparams' => ?_, h.controls⟩
    rw [← Option.some.inj hparams']
    exact ⟨hagrees.settings, rfl, rfl, rfl⟩
  unfold DaliDeviceBase.applyCommonParameters
  dsimp only
  split
  · exact happlied _
  · split
    · exact h
    · exact happlied _

/-- The loop is over: the parameters and the controls follow the handlers. -/
lemma Truthful.takeOver (h : device.Truthful) (newValues : Values V) (answers : ℕ → BusAnswers V)
    (hparams : device.params = some params)
    (hloop : (writeHandlers newValues device.parameterHandlers answers ∅ false).error = none) :
    let loop := writeHandlers newValues device.parameterHandlers answers ∅ false
    let written := { device with
      parameterHandlers := loop.handlers
      confirmed := device.confirmed.update loop.updatedParameters }
    { written with
      params := some { params with settings := params.settings.update loop.updatedParameters }
      controls := if loop.needsRefresh then written.builtControls else written.controls :
        DaliDeviceBase V }.Truthful := by
  intro loop written
  have hagrees := h.params params hparams
  refine ⟨fun params' hparams' => ?_, ?_⟩
  · rw [← Option.some.inj hparams']
    refine ⟨fun key value hvalue => ?_, hagrees.shortAddress, hagrees.name, hagrees.mqttId⟩
    show (device.confirmed.update loop.updatedParameters).get? key = some value
    rw [Dict.get?_update] at hvalue ⊢
    cases hupdated : loop.updatedParameters.get? key with
    | some updated => rwa [hupdated] at hvalue
    | none =>
      rw [hupdated] at hvalue
      exact hagrees.settings key value hvalue
  · show (if loop.needsRefresh then written.builtControls else device.controls) = _
    split
    case isTrue => rfl
    case isFalse hrefresh =>
      have hsame := ((writeHandlers_of_returns hloop).2 (by simpa using hrefresh)).2
      show device.controls =
        buildMqttControls (loop.handlers.map controlSetting) device.controlSource
      rw [hsame]
      exact h.controls

/-- After `apply_parameters` has returned or raised the device tells the truth exactly if no
handler raises, or the first that does finds nothing confirmed in front of it that the
device does not know. -/
theorem truthful_applyParameters_iff {newValues : Request V} {answers : ℕ → BusAnswers V}
    {reported : Except Error (Option ℕ)} (hinit : device.isInitialized = true)
    (hparams : device.params = some params)
    (haccepts : (newValues.common.validate && device.schema newValues.settings) = true)
    (h : device.Truthful) :
    (device.applyParameters newValues answers reported).1.Truthful ↔
      device.FailsQuietly params newValues.settings answers := by
  have hagrees := h.params params hparams
  have hover := h.takeOver newValues.settings answers hparams
  obtain ⟨_, identity, randomAddress, handlers, source, controls, _, schema, confirmed⟩ := device
  dsimp only at hinit hparams haccepts hover
  subst hinit hparams
  unfold applyParameters
  dsimp only
  rw [haccepts]
  cases hloop : (writeHandlers newValues.settings handlers answers ∅ false).error with
  | none =>
    refine iff_of_true ((hover hloop).applyCommonParameters rfl) fun count hcount => ?_
    rw [(writeHandlers_of_returns hloop).1] at hcount
    cases hcount
  -- what is set in front of the error is confirmed; the parameters and controls stay
  | some error =>
    obtain ⟨count, hfirst, hupdated, hhandlers⟩ :=
      writeHandlers_of_raises (fun hnone => nomatch hloop.symm.trans hnone)
    constructor
    · intro htruthful count' hcount'
      obtain rfl := Option.some.inj (hfirst.symm.trans hcount')
      refine ⟨fun key value hvalue confirmed' hconfirmed => ?_, ?_⟩
      · have hsays := (htruthful.params params rfl).settings key value hvalue
        change (confirmed.update _).get? key = some value at hsays
        rw [Dict.get?_update, hupdated, hconfirmed] at hsays
        exact Option.some.inj hsays
      · show buildMqttControls ((writtenBy newValues.settings count handlers answers).map
          controlSetting) source = _
        rw [← hhandlers, ← h.controls]
        exact htruthful.controls.symm
    · intro hquiet
      obtain ⟨hsettings, hcontrols⟩ := hquiet count hfirst
      refine ⟨fun params' hparams' => ?_, ?_⟩
      · obtain rfl := Option.some.inj hparams'
        refine ⟨fun key value hvalue => ?_, hagrees.shortAddress, hagrees.name, hagrees.mqttId⟩
        show (confirmed.update _).get? key = some value
        rw [Dict.get?_update, hupdated]
        cases hconfirmed : (confirmedBy newValues.settings count handlers answers).get? key with
        | some confirmed' => rw [hsettings key value hvalue confirmed' hconfirmed]; rfl
        | none => exact hagrees.settings key value hvalue
      · show controls = buildMqttControls ((writeHandlers newValues.settings handlers answers ∅
          false).handlers.map controlSetting) source
        rw [hhandlers]
        exact h.controls.trans hcontrols.symm

/-! ### What comes before -/

/-- A device that has been initialised and has no parameters yet tells the truth. -/
lemma truthful_initializeWith (handlers : List (Handler V)) (source : ControlSource)
    (hparams : device.params = none) : (device.initializeWith handlers source).Truthful :=
  { params := fun _ hsome => by cases hparams.symm.trans hsome
    controls := rfl }

omit [TcConversion] in
/-- Where no read raises, the parameters are what the handlers have returned. -/
lemma readResults_eq {results : List (Handler V × Except Error (Values V))} {values res : Values V}
    (h : readResults results values = (res, none)) :
    res = (results.filterMap (·.2.toOption)).foldl Dict.update values := by
  induction results generalizing values with
  | nil => exact (Prod.mk.inj h).1.symm
  | cons read results ih =>
    obtain ⟨handler, error | result⟩ := read
    · cases (Prod.mk.inj h).2
    · exact ih h

/-- `load_info` that returns leaves the parameters as the handlers have returned them.  Only
the controls may be behind: those of a device whose limits are others than before. -/
theorem truthful_loadInfo {answers : ℕ → BusAnswers V} {schema : Values V → Bool}
    (hreturns : (device.loadInfo answers schema).2 = none)
    (hcontrols : (device.loadInfo answers schema).1.builtControls = device.controls) :
    (device.loadInfo answers schema).1.Truthful := by
  unfold loadInfo at hreturns hcontrols ⊢
  split at hreturns
  case isTrue => cases hreturns
  case isFalse hinit =>
    rw [if_neg hinit] at hcontrols ⊢
    dsimp only at hreturns hcontrols ⊢
    split at hreturns
    case h_1 => cases hreturns
    case h_2 settings hread =>
      simp only [hread] at hcontrols ⊢
      refine ⟨fun params hparams => ?_, hcontrols.symm⟩
      rw [← Option.some.inj hparams]
      refine ⟨fun key value hvalue => ?_, rfl, rfl, rfl⟩
      change settings.get? key = some value at hvalue
      rw [readResults_eq hread] at hvalue
      exact Dict.get?_foldl_update hvalue nofun

end DaliDeviceBase

end

/-! ### A gear whose colour is its temperature -/

section Gear

/-- The conversion, rounded down. -/
instance kelvin : TcConversion where
  tcKelvinMirek value := 1000000 / value

/-- The limits of the gear. -/
def gearLimits : Type8TcLimits where
  tcMinMirek := 153
  tcMaxMirek := 370
  tcPhysMinMirek := 153
  tcPhysMaxMirek := 370

def gearHandlers : List (Handler ℤ) :=
  [.settingsParam maxLevelParam { setting := ⟨false, true⟩, cache := Dict.set ∅ "max_level" 254 },
    .tcLimitsSettings gearLimits, .onOffSettingsParam ⟨none, false⟩]

/-- What the handlers of the gear have read. -/
def gearValues : Values ℤ :=
  ((Dict.set ∅ "max_level" (.plain 254)).set "tc_limits" (.tcLimits gearLimits.currentValues)).set
    "on_off" (.onOff { enabled := false })

def Value.tcLimits? : Value ℤ → Option TcLimitsJson
  | .tcLimits limits => some limits
  | _ => none

def Value.onOff? : Value ℤ → Option OnOff.EditorJson
  | .onOff setting => some setting
  | _ => none

/-- `tc_limits` in the schema of the gear, where all four limits are required. -/
def tcLimitsSchema (limits : TcLimitsJson) : Bool :=
  limits.tcCoolest.isSome && limits.tcWarmest.isSome && limits.tcPhysicalCoolest.isSome &&
    limits.tcPhysicalWarmest.isSome

/-- The schema that the handlers of the gear make: `max_level` is required, the two blocks are
not. -/
def gearSchema (newValues : Values ℤ) : Bool :=
  ((newValues.get? "max_level").any fun value =>
      value.plain?.any fun level => 0 ≤ level && level ≤ 254) &&
    ((newValues.get? "tc_limits").all fun value => (Value.tcLimits? value).any tcLimitsSchema) &&
    (newValues.get? "on_off").all fun value =>
      (Value.onOff? value).any fun setting => OnOff.editorSchema setting.block

def gear : DaliDeviceBase ℤ where
  isInitialized := true
  identity := { kind := .dali, busId := "bus_1", short := 5 }
  randomAddress := "0x1"
  parameterHandlers := gearHandlers
  controlSource := .dali [.colourTemperature]
  controls := buildMqttControls (gearHandlers.map controlSetting) (.dali [.colourTemperature])
  params := some ⟨5, "0x1", "DALI 5", "bus_1_5", gearValues⟩
  schema := gearSchema
  confirmed := gearValues

def gearCommon : Device.NewValues where
  shortAddress := some 5
  name := some "DALI 5"
  mqttId := some "bus_1_5"

lemma truthful_gear : gear.Truthful := by
  refine ⟨fun params hparams => ?_, rfl⟩
  obtain rfl := Option.some.inj hparams
  exact ⟨fun key value hvalue => hvalue, rfl, by decide, by decide⟩

/-- A switch on to a level without saying which: the schema lets it pass, the parser does
not. -/
def levelWithoutPercent : OnOff.EditorJson where
  enabled := true
  block := { onAction := some { mode := some "level" }, offAction := some { mode := some "off" } }

/-- What was loaded, with narrower limits and the switch. -/
def narrowerLimits : Request ℤ where
  common := gearCommon
  settings := (gearValues.set "tc_limits" (.tcLimits ⟨some 200, some 370, some 153, some 370⟩)).set
    "on_off" (.onOff levelWithoutPercent)

/-- The gear takes the limits. -/
def takesLimits : ℕ → BusAnswers ℤ := fun _ =>
  { values := fun _ => .ok fun _ => 254, limits := .ok { gearLimits with tcMinMirek := 200 } }

/-- The gear cannot be dimmed and has fixed limits: it answers everything and takes nothing. -/
def keepsAll : ℕ → BusAnswers ℤ := fun _ =>
  { values := fun _ => .ok fun _ => 254, limits := .ok gearLimits }

def lowerMaxLevel : Request ℤ where
  common := gearCommon
  settings := narrowerLimits.settings.set "max_level" (.plain 200)

open DaliDeviceBase in
/-- The max level and the limits are written and come back as they were, and then the switch
raises. -/
theorem truthful_applyParameters_refused :
    firstFailure lowerMaxLevel.settings gear.parameterHandlers keepsAll = some 2 ∧
      (confirmedBy lowerMaxLevel.settings 2 gear.parameterHandlers keepsAll).keys =
        ["max_level", "tc_limits"] ∧
      (gear.applyParameters lowerMaxLevel keepsAll (.ok none)).2 =
        some (.writing "On/Off control" .other) ∧
      (gear.applyParameters lowerMaxLevel keepsAll (.ok none)).1.Truthful := by
  have hfirst : firstFailure lowerMaxLevel.settings gear.parameterHandlers keepsAll = some 2 := by
    decide +kernel
  have hsays : ∀ entry ∈ (confirmedBy lowerMaxLevel.settings 2 gear.parameterHandlers
      keepsAll).entries, gearValues.get? entry.1 = some entry.2 := by
    decide +kernel
  refine ⟨hfirst, by decide +kernel, by decide +kernel,
    (truthful_applyParameters_iff rfl rfl (by decide +kernel) truthful_gear).2 ?_⟩
  intro count hcount
  obtain rfl := Option.some.inj (hfirst.symm.trans hcount)
  refine ⟨fun key value hvalue confirmed hconfirmed => ?_, by decide +kernel⟩
  have hsame := hsays _ (Dict.get?_eq_some_iff.1 hconfirmed)
  exact Option.some.inj (hsame.symm.trans hvalue)

/-- The limits are set and confirmed, then the switch raises: the parameters of the device
still say the old limits, and so do the bounds of the control that sets the temperature. -/
theorem exists_not_truthful : ∃ (device : DaliDeviceBase ℤ) (params : DeviceParams ℤ)
    (newValues : Request ℤ) (answers : ℕ → BusAnswers ℤ),
    device.isInitialized = true ∧ device.params = some params ∧ device.Truthful ∧
      (newValues.common.validate && device.schema newValues.settings) = true ∧
      (device.applyParameters newValues answers (.ok none)).2 =
        some (.writing "On/Off control" .other) ∧
      ¬((device.applyParameters newValues answers (.ok none)).1.params.map
        fun params => params.settings.get? "tc_limits") =
          some ((device.applyParameters newValues answers (.ok none)).1.confirmed.get?
            "tc_limits") ∧
      (device.applyParameters newValues answers (.ok none)).1.controls ≠
        (device.applyParameters newValues answers (.ok none)).1.builtControls ∧
      ¬(device.applyParameters newValues answers (.ok none)).1.Truthful := by
  have hcontrols : (gear.applyParameters narrowerLimits takesLimits (.ok none)).1.controls ≠
      (gear.applyParameters narrowerLimits takesLimits (.ok none)).1.builtControls := by
    decide +kernel
  exact ⟨gear, _, narrowerLimits, takesLimits, rfl, rfl, truthful_gear, by decide,
    by decide +kernel,
    by decide +kernel, hcontrols, fun h => hcontrols h.controls⟩

end Gear

end WbMqttDali.ParamsCache
