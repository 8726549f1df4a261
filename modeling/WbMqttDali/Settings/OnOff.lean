import Mathlib

/-!
# The on/off setting

What the switch of a device or of a group does, as it stands in the configuration file and
as the editor sends it.  The parsers look at what is required, the schemas at the ranges;
both let other fields of an action pass.
-/

namespace WbMqttDali.OnOff

inductive OnActionMode where
  | scene
  | lastActiveLevel
  | level
  | dapc
  deriving DecidableEq, Repr

inductive OffActionMode where
  | off
  | dapc
  deriving DecidableEq, Repr

def OnActionMode.value : OnActionMode → String
  | .scene => "scene"
  | .lastActiveLevel => "last_active_level"
  | .level => "level"
  | .dapc => "dapc"

def OffActionMode.value : OffActionMode → String
  | .off => "off"
  | .dapc => "dapc"

/-- `OnActionMode(value)` -/
def OnActionMode.ofValue (value : String) : Option OnActionMode :=
  [OnActionMode.scene, .lastActiveLevel, .level, .dapc].find? (·.value = value)

/-- `OffActionMode(value)` -/
def OffActionMode.ofValue (value : String) : Option OffActionMode :=
  [OffActionMode.off, .dapc].find? (·.value = value)

@[simp] lemma OnActionMode.ofValue_value (mode : OnActionMode) :
    ofValue mode.value = some mode := by
  cases mode <;> decide

@[simp] lemma OffActionMode.ofValue_value (mode : OffActionMode) :
    ofValue mode.value = some mode := by
  cases mode <;> decide

structure OnAction where
  mode : OnActionMode
  scene : Option ℤ := none
  percent : Option ℤ := none
  value : Option ℤ := none
  /-- None leaves the fade time of the device as it is. -/
  fadeTime : Option ℤ := none
  deriving DecidableEq, Repr

structure OffAction where
  mode : OffActionMode
  fadeTime : Option ℤ := none
  deriving DecidableEq, Repr

structure OnOffConfig where
  onAction : OnAction
  offAction : OffAction
  deriving DecidableEq, Repr

/-! ### JSON -/

/-- `on_action`, with the fields that are there. -/
structure OnActionJson where
  mode : Option String := none
  scene : Option ℤ := none
  percent : Option ℤ := none
  value : Option ℤ := none
  fadeTime : Option ℤ := none
  deriving DecidableEq, Repr

/-- `off_action`, with the fields that are there. -/
structure OffActionJson where
  mode : Option String := none
  fadeTime : Option ℤ := none
  deriving DecidableEq, Repr

structure OnOffJson where
  onAction : Option OnActionJson := none
  offAction : Option OffActionJson := none
  deriving DecidableEq, Repr

/-- The `ValueError` of the parsers. -/
inductive OnOffError where
  | mustBeAnObject (key : String)
  | requiresAnInteger (key : String)
  | unknownOnActionMode (mode : Option String)
  | unknownOffActionMode (mode : Option String)
  deriving DecidableEq, Repr

/-- `_require_object` -/
def requireObject {α : Type} (key : String) (value : Option α) : Except OnOffError α :=
  match value with
  | some value => .ok value
  | none => .error (.mustBeAnObject key)

/-- `_int_field` -/
def intField (key : String) (value : Option ℤ) : Except OnOffError ℤ :=
  match value with
  | some value => .ok value
  | none => .error (.requiresAnInteger key)

/-- `_optional_fade_time`: -1 stands for the fade time of the device. -/
def optionalFadeTime (value : Option ℤ) : Option ℤ :=
  if value = some (-1) then none else value

/-- `_parse_on_action` -/
def parseOnAction (data : OnActionJson) : Except OnOffError OnAction :=
  match data.mode.bind OnActionMode.ofValue with
  | none => .error (.unknownOnActionMode data.mode)
  | some .scene => (intField "scene" data.scene).map fun scene =>
    { mode := .scene, scene := some scene }
  | some .level =>
    (intField "percent" data.percent).map fun percent =>
      { mode := .level, percent := some percent, fadeTime := optionalFadeTime data.fadeTime }
  | some .dapc =>
    (intField "value" data.value).map fun value =>
      { mode := .dapc, value := some value, fadeTime := optionalFadeTime data.fadeTime }
  | some .lastActiveLevel =>
    .ok { mode := .lastActiveLevel, fadeTime := optionalFadeTime data.fadeTime }

/-- `_parse_off_action` -/
def parseOffAction (data : OffActionJson) : Except OnOffError OffAction :=
  match data.mode.bind OffActionMode.ofValue with
  | none => .error (.unknownOffActionMode data.mode)
  | some .dapc => .ok { mode := .dapc, fadeTime := optionalFadeTime data.fadeTime }
  | some .off => .ok { mode := .off }

/-- `on_off_config_from_json` -/
def onOffConfigFromJson (data : OnOffJson) : Except OnOffError OnOffConfig :=
  ((requireObject "on_action" data.onAction).bind parseOnAction).bind fun onAction =>
    ((requireObject "off_action" data.offAction).bind parseOffAction).map fun offAction =>
      { onAction, offAction }

/-- `_on_action_to_json` -/
def onActionToJson (action : OnAction) : OnActionJson where
  mode := some action.mode.value
  scene := action.scene
  percent := action.percent
  value := action.value
  fadeTime := action.fadeTime

/-- `_off_action_to_json` -/
def offActionToJson (action : OffAction) : OffActionJson where
  mode := some action.mode.value
  fadeTime := action.fadeTime

/-- `on_off_config_to_json` -/
def onOffConfigToJson (config : OnOffConfig) : OnOffJson where
  onAction := some (onActionToJson config.onAction)
  offAction := some (offActionToJson config.offAction)

/-- The block as the editor sends it. -/
structure EditorJson where
  enabled : Bool
  block : OnOffJson := {}
  deriving DecidableEq, Repr

/-- `FADE_TIME_USE_DEVICE` -/
def fadeTimeUseDevice : ℤ := -1

/-- `on_off_config_to_editor_json` -/
def onOffConfigToEditorJson : Option OnOffConfig → EditorJson
  | none => { enabled := false }
  | some config =>
    let onAction := onActionToJson config.onAction
    let offAction := offActionToJson config.offAction
    { enabled := true
      block :=
        { onAction := some (if config.onAction.mode = .scene then onAction
            else { onAction with fadeTime := onAction.fadeTime.or (some fadeTimeUseDevice) })
          offAction := some (if config.offAction.mode = .dapc then
              { offAction with fadeTime := offAction.fadeTime.or (some fadeTimeUseDevice) }
            else offAction) } }

/-- `on_off_config_from_editor_json` -/
def onOffConfigFromEditorJson (data : EditorJson) : Except OnOffError (Option OnOffConfig) :=
  if data.enabled then (onOffConfigFromJson data.block).map some else .ok none

/-! ### The schemas -/

/-- The `minimum` and `maximum` of a property that may be left out. -/
def inRange (low high : ℤ) (value : Option ℤ) : Bool :=
  value.all fun value => low ≤ value && value ≤ high

/-- The properties of `on_action` in both schemas; the file's schema has no -1 for the fade
time. -/
def onActionProperties (lowestFadeTime : ℤ) (data : OnActionJson) : Bool :=
  (data.mode.all fun mode => (OnActionMode.ofValue mode).isSome) && inRange 0 15 data.scene &&
    inRange 1 100 data.percent && inRange 1 254 data.value &&
    inRange lowestFadeTime 15 data.fadeTime

/-- The properties of `off_action` in both schemas. -/
def offActionProperties (lowestFadeTime : ℤ) (data : OffActionJson) : Bool :=
  (data.mode.all fun mode => (OffActionMode.ofValue mode).isSome) &&
    inRange lowestFadeTime 15 data.fadeTime

/-- `on_off` in the schema of the configuration file. -/
def configSchema (data : OnOffJson) : Bool :=
  data.onAction.all (onActionProperties 0) && data.offAction.all (offActionProperties 0)

/-- `on_off_editor_schema`, where `mode` is required. -/
def editorSchema (data : OnOffJson) : Bool :=
  (data.onAction.all fun action => action.mode.isSome && onActionProperties (-1) action) &&
    data.offAction.all fun action => action.mode.isSome && offActionProperties (-1) action

/-- `OnOffSettingsParam.write`: the setting after it, unless it raises. -/
def write (value : EditorJson) : Option (Option OnOffConfig) :=
  match onOffConfigFromEditorJson value with
  | .error _ => none
  | .ok none => some none
  | .ok (some config) => if editorSchema value.block then some (some config) else none

/-! ### What is written is read back -/

/-- The configuration file takes the setting, and gives it back. -/
structure OnOffConfig.Loads (config : OnOffConfig) : Prop where
  schema : configSchema (onOffConfigToJson config) = true
  parses : onOffConfigFromJson (onOffConfigToJson config) = .ok config

lemma optionalFadeTime_idem (value : Option ℤ) :
    optionalFadeTime (optionalFadeTime value) = optionalFadeTime value := by
  unfold optionalFadeTime
  split
  case isTrue => rfl
  case isFalse => rfl

lemma inRange_optionalFadeTime {value : Option ℤ} (h : inRange (-1) 15 value = true) :
    inRange 0 15 (optionalFadeTime value) = true := by
  unfold optionalFadeTime
  split
  case isTrue => rfl
  case isFalse hne =>
    cases value with
    | none => rfl
    | some value =>
      simp only [inRange, Option.all_some, Bool.and_eq_true, decide_eq_true_eq,
        Option.some.injEq] at h hne ⊢
      omega

lemma intField_map_eq_ok {α : Type} {key : String} {value : Option ℤ} {f : ℤ → α} {a : α}
    (h : (intField key value).map f = .ok a) : ∃ n, value = some n ∧ f n = a := by
  cases value with
  | none => cases h
  | some n => exact ⟨n, rfl, Except.ok.inj h⟩

lemma parseOnAction_loads {data : OnActionJson} {action : OnAction}
    (hparse : parseOnAction data = .ok action) (hschema : onActionProperties (-1) data = true) :
    onActionProperties 0 (onActionToJson action) = true ∧
      parseOnAction (onActionToJson action) = .ok action := by
  simp only [onActionProperties, Bool.and_eq_true] at hschema
  obtain ⟨⟨⟨⟨-, hscene⟩, hpercent⟩, hvalue⟩, hfade⟩ := hschema
  have hfade := inRange_optionalFadeTime hfade
  have hnone : ∀ low high, inRange low high none = true := fun _ _ => rfl
  unfold parseOnAction at hparse
  split at hparse
  · cases hparse
  · obtain ⟨scene, hdata, rfl⟩ := intField_map_eq_ok hparse
    rw [hdata] at hscene
    simp [onActionProperties, onActionToJson, parseOnAction, intField, Except.map, hscene, hnone]
  · obtain ⟨percent, hdata, rfl⟩ := intField_map_eq_ok hparse
    rw [hdata] at hpercent
    simp [onActionProperties, onActionToJson, parseOnAction, intField, Except.map, hpercent, hnone,
      hfade, optionalFadeTime_idem]
  · obtain ⟨value, hdata, rfl⟩ := intField_map_eq_ok hparse
    rw [hdata] at hvalue
    simp [onActionProperties, onActionToJson, parseOnAction, intField, Except.map, hvalue, hnone,
      hfade, optionalFadeTime_idem]
  · obtain rfl := Except.ok.inj hparse
    simp [onActionProperties, onActionToJson, parseOnAction, hnone, hfade, optionalFadeTime_idem]

lemma parseOffAction_loads {data : OffActionJson} {action : OffAction}
    (hparse : parseOffAction data = .ok action) (hschema : offActionProperties (-1) data = true) :
    offActionProperties 0 (offActionToJson action) = true ∧
      parseOffAction (offActionToJson action) = .ok action := by
  simp only [offActionProperties, Bool.and_eq_true] at hschema
  have hfade := inRange_optionalFadeTime hschema.2
  unfold parseOffAction at hparse
  split at hparse
  · cases hparse
  · obtain rfl := Except.ok.inj hparse
    simp [offActionProperties, offActionToJson, parseOffAction, hfade, optionalFadeTime_idem]
  · obtain rfl := Except.ok.inj hparse
    simp [offActionProperties, offActionToJson, parseOffAction, inRange]

/-- What the parser makes of a block in the ranges is written and read back as it is. -/
theorem loads_of_parse {data : OnOffJson} {config : OnOffConfig}
    (hparse : onOffConfigFromJson data = .ok config)
    (hon : data.onAction.all (onActionProperties (-1)) = true)
    (hoff : data.offAction.all (offActionProperties (-1)) = true) : config.Loads := by
  unfold onOffConfigFromJson at hparse
  cases honAction : data.onAction with
  | none =>
    rw [honAction] at hparse
    cases hparse
  | some onData =>
    cases hparseOn : parseOnAction onData with
    | error error =>
      simp [honAction, requireObject, Except.bind, hparseOn] at hparse
    | ok onAction =>
      cases hoffAction : data.offAction with
      | none =>
        simp [honAction, hoffAction, requireObject, Except.bind, Except.map, hparseOn] at hparse
      | some offData =>
        cases hparseOff : parseOffAction offData with
        | error error =>
          simp [honAction, hoffAction, requireObject, Except.bind, Except.map, hparseOn,
            hparseOff] at hparse
        | ok offAction =>
          simp only [honAction, hoffAction, requireObject, Except.bind, Except.map, hparseOn,
            hparseOff, Except.ok.injEq] at hparse
          subst hparse
          rw [honAction, Option.all_some] at hon
          rw [hoffAction, Option.all_some] at hoff
          obtain ⟨honSchema, honParse⟩ := parseOnAction_loads hparseOn hon
          obtain ⟨hoffSchema, hoffParse⟩ := parseOffAction_loads hparseOff hoff
          constructor
          · simp [configSchema, onOffConfigToJson, honSchema, hoffSchema]
          · simp [onOffConfigFromJson, onOffConfigToJson, requireObject, Except.bind, Except.map,
              honParse, hoffParse]

lemma all_of_all {α : Type} {p q : α → Bool} (hpq : ∀ a, p a = true → q a = true) {o : Option α}
    (h : o.all p = true) : o.all q = true := by
  cases o with
  | none => rfl
  | some a => exact hpq a h

lemma inRange_of_configSchema {value : Option ℤ} (h : inRange 0 15 value = true) :
    inRange (-1) 15 value = true := by
  refine all_of_all (fun n hn => ?_) h
  simp only [Bool.and_eq_true, decide_eq_true_eq] at hn ⊢
  omega

/-- A setting that was read from the configuration file. -/
theorem loads_of_configSchema {data : OnOffJson} {config : OnOffConfig}
    (hparse : onOffConfigFromJson data = .ok config) (h : configSchema data = true) :
    config.Loads := by
  rw [configSchema, Bool.and_eq_true] at h
  refine loads_of_parse hparse (all_of_all (fun action haction => ?_) h.1)
    (all_of_all (fun action haction => ?_) h.2)
  · simp only [onActionProperties, Bool.and_eq_true] at haction ⊢
    exact ⟨haction.1, inRange_of_configSchema haction.2⟩
  · simp only [offActionProperties, Bool.and_eq_true] at haction ⊢
    exact ⟨haction.1, inRange_of_configSchema haction.2⟩

/-- A setting that was written by the editor. -/
theorem loads_of_write {value : EditorJson} {config : OnOffConfig}
    (h : write value = some (some config)) : config.Loads := by
  unfold write onOffConfigFromEditorJson at h
  cases henabled : value.enabled with
  | false => simp [henabled] at h
  | true =>
    cases hparse : onOffConfigFromJson value.block with
    | error error => simp [henabled, hparse, Except.map] at h
    | ok parsed =>
      simp only [henabled, if_true, hparse, Except.map] at h
      split at h
      case isTrue hschema =>
        obtain rfl := Option.some.inj (Option.some.inj h)
        simp only [editorSchema, Bool.and_eq_true] at hschema
        refine loads_of_parse hparse (all_of_all (fun action haction => ?_) hschema.1)
          (all_of_all (fun action haction => ?_) hschema.2)
        · exact (Bool.and_eq_true_iff.1 haction).2
        · exact (Bool.and_eq_true_iff.1 haction).2
      case isFalse => cases h

end WbMqttDali.OnOff
