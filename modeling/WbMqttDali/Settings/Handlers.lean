import Mathlib
import WbMqttDali.Constants
import WbMqttDali.Lib.Dict
import WbMqttDali.Settings.OnOff
import WbMqttDali.Settings.Params

/-!
# The handlers of a device

Each setting of a device belongs to a handler, which keeps what it has read.  A write to
the device sends what differs from that, reads it back and returns the values of the keys
of the handler, or it raises.  What the bus makes of the commands is chosen by the
surroundings.
-/

namespace WbMqttDali.Handlers

open Settings (OptionalSetting Error)

/-! ### Values -/

/-- The value of `tc_limits`, with the fields that are there. -/
structure TcLimitsJson where
  tcCoolest : Option ℤ := none
  tcWarmest : Option ℤ := none
  tcPhysicalCoolest : Option ℤ := none
  tcPhysicalWarmest : Option ℤ := none
  deriving DecidableEq, Repr

/-- The JSON of a setting.  The handlers look into three kinds of objects; `V` stands for
every other JSON. -/
inductive Value (V : Type) where
  | plain (value : V)
  | card (fields : Dict String V)
  | tcLimits (limits : TcLimitsJson)
  | onOff (setting : OnOff.EditorJson)
  deriving DecidableEq

abbrev Values (V : Type) := Dict String (Value V)

variable {V : Type}

def Value.plain? : Value V → Option V
  | .plain value => some value
  | _ => none

/-! ### Settings that are read and written as a whole -/

/-- What an unanswered query means for a setting. -/
inductive Silence (V : Type) where
  | fails
  /-- `OptionalSetting` -/
  | absent
  /-- `DimmingCurveParam`: the gear has this value, and it cannot be set. -/
  | assumed (value : V)
  /-- The settings of an instance: after any `RuntimeError` the default value is returned. -/
  | defaulted (value : V)

/-- A class of handlers that keep the values of their keys as the device has answered them. -/
structure SettingsParam (V : Type) where
  name : String
  /-- the name of the class -/
  typeName : String
  keys : List String
  /-- the JSON of an answered value -/
  toJson : V → V
  /-- whether a request asks for what was answered -/
  isAsRequested : V → V → Bool
  /-- whether `has_changes` compares the request with what was answered -/
  comparesCache : Bool
  silence : Silence V := .fails
  /-- the answers that the handler can represent -/
  isKnown : V → Bool := fun _ => true

structure ParamState (V : Type) where
  setting : OptionalSetting := {}
  isReadOnly : Bool := false
  cache : Dict String V := ∅

namespace SettingsParam

variable (param : SettingsParam V)

def store (cache : Dict String V) (values : String → V) : Dict String V :=
  param.keys.foldl (fun cache key => cache.set key (values key)) cache

/-- What the handler returns for its keys. -/
def json (cache : Dict String V) : Dict String V :=
  param.keys.foldl
    (fun res key => (cache.get? key).elim res fun value => res.set key (param.toJson value)) ∅

/-- What the handler has must be a value it can represent. -/
def checked (state : ParamState V) (result : Dict String V) :
    ParamState V × Except Error (Dict String V) :=
  (state,
    if param.keys.all fun key => (state.cache.get? key).all param.isKnown then .ok result
    else .error .other)

/-- The handler keeps an answer. -/
def answered (state : ParamState V) (values : String → V) :
    ParamState V × Except Error (Dict String V) :=
  let state := { state with
    setting := state.setting.noteAnswered
    isReadOnly := false
    cache := param.store state.cache values }
  param.checked state (param.json state.cache)

/-- `read` -/
def read (state : ParamState V) (answer : Except Error (String → V)) :
    ParamState V × Except Error (Dict String V) :=
  match answer with
  | .ok values => param.answered state values
  | .error error =>
    match param.silence, error with
    | .absent, .noAnswer =>
      match state.setting.noteAbsent with
      | none => (state, .error .noAnswer)
      | some setting => ({ state with setting }, .ok ∅)
    | .assumed value, .noAnswer =>
      if state.setting.everAnswered && !state.isReadOnly then (state, .error .noAnswer)
      else
        let state := { state with
          isReadOnly := true, cache := param.store state.cache fun _ => value }
        (state, .ok (param.json state.cache))
    | .defaulted value, .noAnswer | .defaulted value, .runtime =>
      (state, .ok (param.store ∅ fun _ => value))
    | _, error => (state, .error error)

/-- Whether the request asks for what the handler has. -/
def isUnchanged (cache : Dict String V) (request : String → Option V) : Bool :=
  param.keys.all fun key =>
    (request key).any fun requested => (cache.get? key).any (param.isAsRequested requested)

/-- `write` for a single device.  The answer is what the commands lead to: the values that
are read back, unless a command fails or cannot be built. -/
def write (state : ParamState V) (request : String → Option V)
    (answer : Except Error (String → V)) : ParamState V × Except Error (Dict String V) :=
  if state.setting.isAbsent || state.isReadOnly then (state, .ok ∅)
  else if param.keys.all fun key => (request key).isNone then param.checked state ∅
  else if param.isUnchanged state.cache request then param.checked state ∅
  else
    match answer with
    | .ok values => param.answered state values
    | .error error =>
      match param.silence, error with
      | .defaulted value, .noAnswer | .defaulted value, .runtime =>
        (state, .ok (param.store ∅ fun _ => value))
      | _, error => (state, .error error)

/-- `has_changes` -/
def hasChanges (cache : Dict String V) (request : String → Option V) : Bool :=
  param.keys.any fun key => (request key).any fun requested =>
    !(param.comparesCache && (cache.get? key).any (param.isAsRequested requested))

end SettingsParam

/-- `NumberSettingsParam`, for the answer `raw` of the device. -/
def numberSettingsParam (typeName name propertyName : String) (multiplier : ℤ := 1)
    (silence : Silence ℤ := .fails) : SettingsParam ℤ where
  name
  typeName
  keys := [propertyName]
  toJson raw := raw * multiplier
  isAsRequested requested raw := raw * multiplier = requested
  comparesCache := true
  silence

def maxLevelParam : SettingsParam ℤ :=
  numberSettingsParam "MaxLevelParam" "Max level" "max_level" 1 .absent

def minLevelParam : SettingsParam ℤ :=
  numberSettingsParam "MinLevelParam" "Min level" "min_level" 1 .absent

/-- `DimmingCurveParam`, which is 0 for the standard curve and 1 for the linear one. -/
def dimmingCurveParam (typeName : String) : SettingsParam ℤ :=
  { numberSettingsParam typeName "Dimming curve" "dimming_curve" 1 (.assumed 0) with
    isKnown := fun value => value = 0 || value = 1 }

def fadeTimeFadeRateParam : SettingsParam ℤ where
  name := "Fade time and fade rate"
  typeName := "FadeTimeFadeRateParam"
  keys := ["fade_time", "fade_rate"]
  toJson := id
  isAsRequested requested value := value = requested
  comparesCache := false
  silence := .absent

/-! ### The limits of the colour temperature -/

def minTcMirek : ℕ := 1

def maxTcMirek : ℕ := mask2Bytes - 1

structure Type8TcLimits where
  tcMinMirek : ℕ := minTcMirek
  tcMaxMirek : ℕ := maxTcMirek
  tcPhysMinMirek : ℕ := minTcMirek
  tcPhysMaxMirek : ℕ := maxTcMirek
  deriving DecidableEq, Repr

/-- `_shown_limit` -/
def shownLimit (limitMirek : ℕ) : ℕ :=
  if limitMirek = mask2Bytes then mask2Bytes
  else min (max limitMirek uiMinTcMirek) uiMaxTcMirek

/-- `_current_values` -/
def Type8TcLimits.currentValues (limits : Type8TcLimits) : TcLimitsJson where
  tcCoolest := some (shownLimit limits.tcMinMirek)
  tcWarmest := some (shownLimit limits.tcMaxMirek)
  tcPhysicalCoolest := some (shownLimit limits.tcPhysMinMirek)
  tcPhysicalWarmest := some (shownLimit limits.tcPhysMaxMirek)

/-! ### Handlers -/

/-- `SettingsParamGroup` -/
structure SettingsParamGroup (V : Type) where
  name : String
  propertyName : String
  parameters : List (SettingsParam V × ParamState V)
  cachedValue : Dict String V := ∅

/-- `OnOffSettingsParam` -/
structure OnOffSettingsParam where
  config : Option OnOff.OnOffConfig
  /-- the verdict of the last write -/
  requiresMqttControlsRefresh : Bool := false

inductive Handler (V : Type) where
  | settingsParam (param : SettingsParam V) (state : ParamState V)
  | settingsParamGroup (group : SettingsParamGroup V)
  | tcLimitsSettings (limits : Type8TcLimits)
  | onOffSettingsParam (param : OnOffSettingsParam)

/-- What the bus makes of the commands of one handler: the answers to the settings of a
group by their places, those to a setting of its own at place 0. -/
structure BusAnswers (V : Type) where
  values : ℕ → Except Error (String → V)
  limits : Except Error Type8TcLimits

/-- The results of the settings of a group: the first error, or everything that was
returned. -/
def gather (results : List (Except Error (Dict String V))) : Except Error (Dict String V) :=
  results.foldlM (fun res result => result.map res.update) ∅

namespace SettingsParamGroup

variable (group : SettingsParamGroup V)

/-- `read` -/
def read (answers : BusAnswers V) : SettingsParamGroup V × Except Error (Values V) :=
  let results := group.parameters.mapIdx fun place (param, state) =>
    (param, param.read state (answers.values place))
  let group := { group with parameters := results.map fun (param, state, _) => (param, state) }
  match gather (results.map fun (_, _, result) => result) with
  | .error error => (group, .error error)
  | .ok res =>
    ({ group with cachedValue := res }, .ok (Dict.set ∅ group.propertyName (.card res)))

/-- `write` for a single device. -/
def write (newValues : Values V) (answers : BusAnswers V) :
    SettingsParamGroup V × Except Error (Values V) :=
  match newValues.get? group.propertyName with
  | none => (group, .ok ∅)
  | some (.card fields) =>
    let results := group.parameters.mapIdx fun place (param, state) =>
      (param, param.write state fields.get? (answers.values place))
    let group := { group with parameters := results.map fun (param, state, _) => (param, state) }
    match gather (results.map fun (_, _, result) => result) with
    | .error error => (group, .error error)
    | .ok changed =>
      if changed.entries = [] then (group, .ok ∅)
      else
        let cachedValue := group.cachedValue.update changed
        ({ group with cachedValue }, .ok (Dict.set ∅ group.propertyName (.card cachedValue)))
  | some _ => (group, .error .other)

end SettingsParamGroup

namespace OnOffSettingsParam

variable (param : OnOffSettingsParam)

/-- `read` -/
def read : Values V :=
  Dict.set ∅ "on_off" (.onOff (OnOff.onOffConfigToEditorJson param.config))

/-- `write`, which sends nothing. -/
def write (newValues : Values V) : OnOffSettingsParam × Except Error (Values V) :=
  match newValues.get? "on_off" with
  | none => (param, .ok ∅)
  | some (.onOff setting) =>
    match OnOff.write setting with
    | none => (param, .error .other)
    | some config =>
      if config = param.config then (param, .ok ∅)
      else
        ({ config, requiresMqttControlsRefresh := config.isNone ≠ param.config.isNone },
          .ok (Dict.set ∅ "on_off" (.onOff (OnOff.onOffConfigToEditorJson config))))
  | some _ => (param, .error .other)

variable {param} {param' : OnOffSettingsParam} {newValues : Values V}

lemma eq_of_write_raises {error : Error} (h : param.write newValues = (param', .error error)) :
    param' = param := by
  unfold write at h
  split at h
  · cases h
  · split at h
    case h_1 => exact (Prod.mk.inj h).1.symm
    case h_2 => split at h <;> cases h
  · exact (Prod.mk.inj h).1.symm

/-- A write that returns something says truly whether the switch has appeared or gone. -/
lemma isSome_config_write {result : Values V} (h : param.write newValues = (param', .ok result))
    (hverdict : result.entries = [] ∨ param'.requiresMqttControlsRefresh = false) :
    param'.config.isSome = param.config.isSome := by
  unfold write at h
  split at h
  · rw [(Prod.mk.inj h).1]
  · split at h
    case h_1 => cases h
    case h_2 config _ =>
      split at h
      case isTrue => rw [(Prod.mk.inj h).1]
      case isFalse =>
        obtain ⟨rfl, hresult⟩ := Prod.mk.inj h
        rcases hverdict with hempty | hverdict
        · rw [← Except.ok.inj hresult] at hempty
          cases hempty
        · have hsame : config.isNone = param.config.isNone := by simpa using hverdict
          show config.isSome = param.config.isSome
          rw [← Option.not_isNone, ← Option.not_isNone, hsame]
  · cases h

end OnOffSettingsParam

namespace Handler

def name : Handler V → String
  | .settingsParam param _ => param.name
  | .settingsParamGroup group => group.name
  | .tcLimitsSettings _ => "Colour Temperature Limits"
  | .onOffSettingsParam _ => "On/Off control"

def requiresMqttControlsRefresh : Handler V → Bool
  | .settingsParam _ _ | .settingsParamGroup _ => false
  | .tcLimitsSettings _ => true
  | .onOffSettingsParam param => param.requiresMqttControlsRefresh

/-- `TcLimitsSettings.read` -/
def readTcLimits (limits : Type8TcLimits) (answer : Except Error Type8TcLimits) :
    Type8TcLimits × Except Error (Values V) :=
  match answer with
  | .error error => (limits, .error error)
  | .ok limits => (limits, .ok (Dict.set ∅ "tc_limits" (.tcLimits limits.currentValues)))

/-- `TcLimitsSettings.write` for a single device: the limits are kept as they are read after
all of them were sent. -/
def writeTcLimits (limits : Type8TcLimits) (newValues : Values V)
    (answer : Except Error Type8TcLimits) : Type8TcLimits × Except Error (Values V) :=
  match newValues.get? "tc_limits" with
  | none => (limits, .ok ∅)
  | some (.tcLimits newVals) =>
    if newVals = limits.currentValues then (limits, .ok ∅) else readTcLimits limits answer
  | some _ => (limits, .error .other)

section Limits

variable {limits limits' : Type8TcLimits} {newValues : Values V}
  {answer : Except Error Type8TcLimits}

lemma eq_of_readTcLimits_raises {error : Error}
    (h : readTcLimits (V := V) limits answer = (limits', .error error)) : limits' = limits := by
  unfold readTcLimits at h
  split at h
  · exact (Prod.mk.inj h).1.symm
  · cases h

lemma eq_of_writeTcLimits_raises {error : Error}
    (h : writeTcLimits limits newValues answer = (limits', .error error)) : limits' = limits := by
  unfold writeTcLimits at h
  split at h
  · cases h
  · split at h
    · cases h
    · exact eq_of_readTcLimits_raises h
  · exact (Prod.mk.inj h).1.symm

/-- A write that returns nothing has left the limits as they were. -/
lemma eq_of_writeTcLimits_empty {result : Values V}
    (h : writeTcLimits limits newValues answer = (limits', .ok result))
    (hempty : result.entries = []) : limits' = limits := by
  unfold writeTcLimits at h
  split at h
  · exact (Prod.mk.inj h).1.symm
  · split at h
    case isTrue => exact (Prod.mk.inj h).1.symm
    case isFalse =>
      unfold readTcLimits at h
      split at h
      · cases h
      · rw [← Except.ok.inj (Prod.mk.inj h).2] at hempty
        cases hempty
  · cases h

end Limits

/-- `read` -/
def read (answers : BusAnswers V) : Handler V → Handler V × Except Error (Values V)
  | .settingsParam param state =>
    let (state, result) := param.read state (answers.values 0)
    (.settingsParam param state, result.map (Dict.mapValues .plain))
  | .settingsParamGroup group =>
    let (group, result) := group.read answers
    (.settingsParamGroup group, result)
  | .tcLimitsSettings limits =>
    let (limits, result) := readTcLimits limits answers.limits
    (.tcLimitsSettings limits, result)
  | .onOffSettingsParam param => (.onOffSettingsParam param, .ok param.read)

/-- `write` for a single device.  A value of the wrong kind raises. -/
def write (newValues : Values V) (answers : BusAnswers V) :
    Handler V → Handler V × Except Error (Values V)
  | .settingsParam param state =>
    if param.keys.any fun key => (newValues.get? key).any (·.plain?.isNone) then
      (.settingsParam param state, .error .other)
    else
      let request key := (newValues.get? key).bind Value.plain?
      let (state, result) := param.write state request (answers.values 0)
      (.settingsParam param state, result.map (Dict.mapValues .plain))
  | .settingsParamGroup group =>
    let (group, result) := group.write newValues answers
    (.settingsParamGroup group, result)
  | .tcLimitsSettings limits =>
    let (limits, result) := writeTcLimits limits newValues answers.limits
    (.tcLimitsSettings limits, result)
  | .onOffSettingsParam param =>
    let (param, result) := param.write newValues
    (.onOffSettingsParam param, result)

end Handler

end WbMqttDali.Handlers
