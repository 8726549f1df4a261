import WbMqttDali.Constants
import WbMqttDali.Lib.Dict
import WbMqttDali.Lib.Literals

/-!
# Controls that follow bus events

What a level or colour event does to the controls of a gear device and to the
controls of the groups it is in.  A device hands the event to each of its
controls; a group asks the member's control again and takes its answer when the
member leads that control.  The moments of the confirming polls are left out:
no control value depends on them.
-/

namespace WbMqttDali.EventSync

/-- `device.uid`, one for each device object. -/
abbrev Uid := String

abbrev ControlId := String

def ControlId.actualLevel : ControlId := "actual_level"
def ControlId.onOff : ControlId := "on_off"

/-- Highest raw gear level. -/
def maxGearLevel : ℕ := mask - 1

/-! ### Colour components -/

inductive ColourComponent
  | red | green | blue | white | amber | freeColour | colourTemperature
  | primaryN (index : Fin 6)
  | xCoordinate | yCoordinate
  deriving DecidableEq, Repr

inductive ColourType
  | rgbwaf | colourTemperature | primaryN | xy
  deriving DecidableEq, Repr

/-- `COMPONENTS_BY_COLOUR_TYPE`. -/
def componentsByColourType : ColourType → List ColourComponent
  | .rgbwaf => [.red, .green, .blue, .white]
  | .colourTemperature => [.colourTemperature]
  | .primaryN => (List.finRange 6).map .primaryN
  | .xy => [.xCoordinate, .yCoordinate]

/-- `UNSET_RAW_VALUE`. -/
def unsetRawValue : ColourComponent → ℕ
  | .red | .green | .blue | .white | .amber | .freeColour => mask
  | .colourTemperature | .primaryN _ | .xCoordinate | .yCoordinate => mask2Bytes

def isUnsetComponentValue (component : ColourComponent) (value : ℕ) : Bool :=
  (component = .colourTemperature && value = 0) || unsetRawValue component = value

/-! ### Events -/

inductive EventSource
  | read | observed
  deriving DecidableEq, Repr

/-- The events that a bus command can produce. -/
inductive BusEvent
  | levelChanged (rawLevel : Option ℕ) (source : EventSource) (failed : Bool)
  | colourChanged (components : Dict ColourComponent (Option ℕ)) (source : EventSource)
      (failed : Bool)

inductive ControlError
  | none | read | write
  deriving DecidableEq, Repr

structure ControlState where
  value : Option String
  error : ControlError
  deriving DecidableEq, Repr

inductive NotifyResult
  | nothingToPublish | publishState
  deriving DecidableEq, Repr

/-- `_dimming_curve_state` as the controls print it: a raw level as a percentage
with three decimals, and rounded to a whole one. -/
structure DimmingCurveState where
  level3 : ℕ → String
  rounded : ℕ → String

/-! ### The controls of a device -/

/-- `ActualLevelControl` besides its control state. -/
structure ActualLevel where
  dimmingCurveState : DimmingCurveState
  maxLevel : Option ℕ
  minLevel : Option ℕ
  sceneLevel : ℕ → Option ℕ
  level : Option ℕ

/-- `LastActedControl` besides its control state. -/
structure LastActed where
  upOn : Option ℕ
  upOff : Option ℕ
  downOn : Option ℕ
  downOff : Option ℕ
  lastLevel : Option ℕ

/-- `_format` of the colour controls. -/
inductive ColourFormat
  | rgb
  | temperature (tcKelvinMirek : ℕ → ℕ)
  | single (component : ColourComponent)

/-- `ColourComponentControl` besides its control state. -/
structure ColourComponents where
  components : List ColourComponent
  writable : Bool
  format : ColourFormat

/-- The class of a control, with the fields its `notify` uses. -/
inductive ControlClass
  | actualLevel (control : ActualLevel)
  | wantedLevel (dimmingCurveState : DimmingCurveState)
  | dapc
  | onOff
  | lastActed (control : LastActed)
  | colour (control : ColourComponents)
  /-- A control that does not react to level and colour events. -/
  | base

structure Control where
  cls : ControlClass
  state : ControlState

/-- Publishes a value without an error. -/
def ControlState.ofValue (value : String) : ControlState := ⟨some value, .none⟩

/-- Keeps the value and sets the read error. -/
def ControlState.failRead (state : ControlState) : ControlState := { state with error := .read }

/-- Keeps the error and sets the value. -/
def ControlState.setValue (state : ControlState) (value : String) : ControlState :=
  { state with value := some value }

def ActualLevel.notify (c : ActualLevel) (state : ControlState) :
    BusEvent → Control × NotifyResult
  | .colourChanged .. => (⟨.actualLevel c, state⟩, .nothingToPublish)
  | .levelChanged rawLevel source failed =>
    if failed then
      (⟨.actualLevel c, state.failRead⟩, .publishState)
    else if source = .observed ∧ state.error ≠ .none then
      (⟨.actualLevel c, state⟩, .nothingToPublish)
    else match rawLevel with
      -- comparing `None` raises, and the dispatch skips the control
      | none => (⟨.actualLevel c, state⟩, .nothingToPublish)
      | some raw =>
        (⟨.actualLevel { c with level := if raw ≤ maxGearLevel then some raw else c.level },
          .ofValue (c.dimmingCurveState.level3 raw)⟩, .publishState)

/-- `WantedLevelControl.notify`. -/
def wantedLevelNotify (curve : DimmingCurveState) (state : ControlState) :
    BusEvent → Control × NotifyResult
  | .levelChanged (some raw) _ _ =>
    (⟨.wantedLevel curve, state.setValue (curve.rounded raw)⟩, .publishState)
  | _ => (⟨.wantedLevel curve, state⟩, .nothingToPublish)

/-- `DapcControl.notify`. -/
def dapcNotify (state : ControlState) : BusEvent → Control × NotifyResult
  | .levelChanged (some raw) _ _ => (⟨.dapc, state.setValue (toString raw)⟩, .publishState)
  | _ => (⟨.dapc, state⟩, .nothingToPublish)

/-- `OnOffControl.notify`. -/
def onOffNotify (state : ControlState) : BusEvent → Control × NotifyResult
  | .colourChanged .. => (⟨.onOff, state⟩, .nothingToPublish)
  | .levelChanged rawLevel source failed =>
    if failed then
      (⟨.onOff, state.failRead⟩, .publishState)
    else match rawLevel with
      | none => (⟨.onOff, state⟩, .nothingToPublish)
      | some raw =>
        if source = .observed ∧ state.error ≠ .none then
          (⟨.onOff, state⟩, .nothingToPublish)
        else
          (⟨.onOff, .ofValue (if raw = 0 then "0" else "1")⟩, .publishState)

def LastActed.crossingCode (c : LastActed) (prev new : ℕ) : Option ℕ :=
  if new > prev then
    if c.upOn.any fun upOn => prev < upOn ∧ upOn ≤ new then some 1
    else if c.downOn.any fun downOn => prev < downOn ∧ downOn ≤ new then some 3
    else none
  else if new < prev then
    if c.upOff.any fun upOff => new ≤ upOff ∧ upOff < prev then some 2
    else if c.downOff.any fun downOff => new ≤ downOff ∧ downOff < prev then some 4
    else none
  else none

def LastActed.notify (c : LastActed) (state : ControlState) : BusEvent → Control × NotifyResult
  | .colourChanged .. => (⟨.lastActed c, state⟩, .nothingToPublish)
  | .levelChanged none _ _ => (⟨.lastActed c, state⟩, .nothingToPublish)
  | .levelChanged (some raw) source _ =>
    if raw > maxGearLevel then
      (⟨.lastActed c, state⟩, .nothingToPublish)
    else
      let c' := { c with lastLevel := some raw }
      if source ≠ .observed ∨ state.error ≠ .none then
        (⟨.lastActed c', state⟩, .nothingToPublish)
      else match c.lastLevel.bind fun prev => c.crossingCode prev raw with
        | none => (⟨.lastActed c', state⟩, .nothingToPublish)
        | some code => (⟨.lastActed c', state.setValue (toString code)⟩, .publishState)

def ColourFormat.format (mine : List (ColourComponent × ℕ)) : ColourFormat → String
  | .rgb => ";".intercalate (([.red, .green, .blue] : List ColourComponent).map fun component =>
      toString ((mine.lookup component).getD 0))
  | .temperature tcKelvinMirek =>
    toString (tcKelvinMirek ((mine.lookup .colourTemperature).getD 0))
  | .single component => toString ((mine.lookup component).getD 0)

/-- The components that have a value, each with it. -/
def namedComponents (mine : List (ColourComponent × Option ℕ)) : List (ColourComponent × ℕ) :=
  mine.filterMap fun e => e.2.map (e.1, ·)

def ColourComponents.notify (c : ColourComponents) (state : ControlState) :
    BusEvent → Control × NotifyResult
  | .levelChanged .. => (⟨.colour c, state⟩, .nothingToPublish)
  | .colourChanged components source _ =>
    let mine := c.components.filterMap fun component =>
      (components.get? component).map (component, ·)
    if mine.length < c.components.length then
      (⟨.colour c, state⟩, .nothingToPublish)
    else if !c.writable ∧ source = .observed ∧ state.error ≠ .none then
      (⟨.colour c, state⟩, .nothingToPublish)
    else if mine.any fun e => e.2.all (isUnsetComponentValue e.1) then
      if c.writable then (⟨.colour c, state⟩, .nothingToPublish)
      else (⟨.colour c, state.failRead⟩, .publishState)
    else
      let value := c.format.format (namedComponents mine)
      (⟨.colour c, if c.writable then state.setValue value else .ofValue value⟩, .publishState)

def Control.notify (control : Control) (event : BusEvent) : Control × NotifyResult :=
  match control.cls with
  | .actualLevel c => c.notify control.state event
  | .wantedLevel curve => wantedLevelNotify curve control.state event
  | .dapc => dapcNotify control.state event
  | .onOff => onOffNotify control.state event
  | .lastActed c => c.notify control.state event
  | .colour c => c.notify control.state event
  | .base => (control, .nothingToPublish)

/-- `_controls` of a device, in their order. -/
abbrev Controls := List (ControlId × Control)

/-- `notify_controls`: the controls after the event, and the identifiers of those
that asked to be published. -/
def notifyControls (controls : Controls) (event : BusEvent) : Controls × List ControlId :=
  (controls.map fun c => (c.1, (c.2.notify event).1),
    (controls.filter fun c => (c.2.notify event).2 = .publishState).map Prod.fst)

/-- `get_mqtt_control`. -/
def Controls.get? (controls : Controls) (id : ControlId) : Option Control := controls.lookup id

/-- The control object `id` in its new state. -/
def Controls.put (controls : Controls) (id : ControlId) (control : Control) : Controls :=
  controls.map fun c => if c.1 = id then (c.1, control) else c

/-! ### Predicted levels -/

/-- The level commands, without their destination. -/
inductive LevelCommand
  | dapc (power : ℕ)
  | goToScene (param : ℕ)
  | goToLastActiveLevel
  | up | down | off | recallMaxLevel | recallMinLevel
  | stepUp | stepDown | stepDownAndOff | onAndStepUp
  deriving DecidableEq, Repr

def stepUpLevel (cur : ℕ) (maximum : Option ℕ) : Option ℕ := maximum.map (min (cur + 1))

/-- `_predict_step` from the level `cur`. -/
def ActualLevel.predictStep (c : ActualLevel) (cur : ℕ) : LevelCommand → Option ℕ
  | .stepUp => if cur = 0 then some 0 else stepUpLevel cur c.maxLevel
  | .stepDown => if cur = 0 then some 0 else c.minLevel.map (max (cur - 1))
  | .stepDownAndOff => c.minLevel.map fun minimum => if cur ≤ minimum then 0 else cur - 1
  | _ => if cur = 0 then c.minLevel else stepUpLevel cur c.maxLevel

def ActualLevel.predictLevel (c : ActualLevel) (command : LevelCommand) : Option ℕ :=
  match command with
  | .stepUp | .stepDown | .stepDownAndOff | .onAndStepUp =>
    c.level.bind fun cur => c.predictStep cur command
  | .dapc power => if power = mask then none else some power
  | .off => some 0
  | .goToScene param => c.sceneLevel param
  | .recallMaxLevel => c.maxLevel
  | .recallMinLevel => c.minLevel
  | .goToLastActiveLevel | .up | .down => none

/-! ### The colour picture -/

structure ColourSettings where
  colourType : ColourType
  level : ℕ
  colour : ColourComponent → ℕ

/-- The scenes that were read: `none` for one whose colour is unknown. -/
structure ScenesSettings where
  scenes : List (Option ColourSettings)
  fetchCursor : ℕ

structure Type8Parameters where
  currentColourType : Option ColourType
  tcMinMirek : ℕ
  tcMaxMirek : ℕ
  colour : Dict ColourComponent ℕ
  scenesSettings : Option ScenesSettings

def ScenesSettings.sceneColour (s : ScenesSettings) (index : ℕ) : Option ColourSettings :=
  if index ≥ s.fetchCursor then none
  else match s.scenes[index]?.join with
    | none => none
    | some colour => if colour.level = mask then none else some colour

namespace Type8Parameters

variable (handler : Type8Parameters)

def filterValidComponents (components : Dict ColourComponent ℕ) : List (ColourComponent × ℕ) :=
  components.entries.filter fun e => !isUnsetComponentValue e.1 e.2

def clampTc : Type8Parameters :=
  match handler.colour.get? .colourTemperature with
  | none => handler
  | some tc =>
    if isUnsetComponentValue .colourTemperature tc then handler
    else
      let coolest :=
        if handler.tcMinMirek = mask2Bytes then uiMinTcMirek else handler.tcMinMirek
      let warmest :=
        if handler.tcMaxMirek = mask2Bytes then uiMaxTcMirek else handler.tcMaxMirek
      { handler with
        colour := handler.colour.set .colourTemperature (min (max tc coolest) warmest) }

/-- The entries of `_colour_picture()`. -/
def colourPicture : List (ColourComponent × ℕ) :=
  match handler.currentColourType with
  | none => []
  | some ct => (componentsByColourType ct).map fun component =>
      (component, (handler.colour.get? component).getD (unsetRawValue component))

/-- The handler after the overlay, and the event where a component is known. -/
def applyObservedColour (components : Dict ColourComponent ℕ) :
    Type8Parameters × Option BusEvent :=
  match handler.currentColourType with
  | none => (handler, none)
  | some colourType =>
    if components.size = 0 then (handler, none)
    else
      let active := componentsByColourType colourType
      let overlaid := (filterValidComponents components).foldl (fun colour e =>
        if e.1 ∈ active then colour.set e.1 e.2 else colour) handler.colour
      let handler' := clampTc { handler with colour := overlaid }
      let known := handler'.colourPicture.filter fun e => !isUnsetComponentValue e.1 e.2
      if known = [] then (handler', none)
      else (handler', some (.colourChanged
        (known.foldl (fun d e => d.set e.1 (some e.2)) ∅) .observed false))

/-- A component at its default is left out: the scene leaves it unchanged. -/
def sceneColourComponents (sceneIndex : ℕ) : Dict ColourComponent ℕ :=
  match handler.scenesSettings.bind (·.sceneColour sceneIndex) with
  | none => ∅
  | some sceneColour =>
    if handler.currentColourType ≠ some sceneColour.colourType then ∅
    else (componentsByColourType sceneColour.colourType).foldl (fun d component =>
      if sceneColour.colour component ≠ unsetRawValue component then
        d.set component (sceneColour.colour component)
      else d) ∅

end Type8Parameters

/-! ### Group devices -/

inductive CandidatePollStatus
  | success | error
  deriving DecidableEq, Repr

inductive MemberAnswer
  | take | hold | showError
  deriving DecidableEq, Repr

structure PerControlState where
  candidateStatuses : Dict Uid (Option CandidatePollStatus)
  pinnedSource : Option Uid
  errPublished : Bool

/-- `GroupStateSource`. -/
abbrev GroupStateSource := Dict ControlId PerControlState

def PerControlState.allErrored (book : PerControlState) : Bool :=
  book.candidateStatuses.size ≠ 0 && book.candidateStatuses.values.all (· = some .error)

def GroupStateSource.pinnedSource (source : GroupStateSource) (controlId : ControlId) :
    Option Uid :=
  (source.get? controlId).bind (·.pinnedSource)

def GroupStateSource.recordAnswer (source : GroupStateSource) (candidateUid : Uid)
    (controlId : ControlId) (success : Bool) : GroupStateSource × MemberAnswer :=
  match source.get? controlId with
  | none => (source, .hold)
  | some book =>
    if candidateUid ∉ book.candidateStatuses.keys then (source, .hold)
    else
      let book := { book with
        candidateStatuses := book.candidateStatuses.set candidateUid
          (some (if success then .success else .error)) }
      if book.pinnedSource ≠ none ∧ book.pinnedSource ≠ some candidateUid then
        (source.set controlId book, .hold)
      else if success then
        (source.set controlId
          { book with pinnedSource := some candidateUid, errPublished := false },
          .take)
      else
        let book := { book with pinnedSource := none }
        if book.allErrored ∧ !book.errPublished then
          (source.set controlId { book with errPublished := true }, .showError)
        else (source.set controlId book, .hold)

/-- `_SETPOINT_STATE`: each mirrored setpoint with the state control that drives it. -/
def setpointState : List (ControlId × ControlId) :=
  [("wanted_level", ControlId.actualLevel), ("dapc", ControlId.actualLevel),
    ("set_rgb", "current_rgb"),
    ("set_white", "current_white"), ("set_colour_temperature", "current_colour_temperature"),
    ("set_x_coordinate", "current_x_coordinate"), ("set_y_coordinate", "current_y_coordinate")]
  ++ (List.range 6).map fun i => (s!"set_primary_n{i}", s!"current_primary_n{i}")

structure GroupVirtualDevice where
  controls : Controls
  stateSource : GroupStateSource

namespace GroupVirtualDevice

/-- `_ask_member`: the member's control after it was notified again, when it
asked to be published, and the member's controls. -/
def askMember (member : Controls) (event : BusEvent) (controlId : ControlId) :
    Controls × Option Control :=
  match member.get? controlId with
  | none => (member, none)
  | some control =>
    let (control', result) := control.notify event
    (member.put controlId control', if result = .publishState then some control' else none)

/-- `_take_on_off`. -/
def takeOnOff (group : GroupVirtualDevice) (event : BusEvent) : GroupVirtualDevice :=
  match group.controls.get? ControlId.onOff with
  | some ⟨.onOff, state⟩ =>
    { group with controls := group.controls.put ControlId.onOff (onOffNotify state event).1 }
  | _ => group

/-- The group's control `controlId` in a new state. -/
def putState (group : GroupVirtualDevice) (controlId : ControlId) (control : Control)
    (state : ControlState) : GroupVirtualDevice :=
  { group with controls := group.controls.put controlId { control with state := state } }

/-- `_take_state`, and `_take_on_off` where the level was taken. -/
def takeState (group : GroupVirtualDevice) (uid : Uid) (member : Controls) (event : BusEvent)
    (controlId : ControlId) : GroupVirtualDevice × Controls :=
  match group.controls.get? controlId with
  | none => (group, member)
  | some control =>
    match askMember member event controlId with
    | (member, none) => (group, member)
    | (member, some answered) =>
      let (source, answer) :=
        group.stateSource.recordAnswer uid controlId (answered.state.error = .none)
      let group := { group with stateSource := source }
      let onOff (g : GroupVirtualDevice) :=
        if controlId = ControlId.actualLevel then g.takeOnOff event else g
      match answer with
      | .take =>
        (onOff (group.putState controlId control ⟨answered.state.value, .none⟩), member)
      | .showError => (onOff (group.putState controlId control control.state.failRead), member)
      | .hold => (group, member)

/-- `_take_setpoint`. -/
def takeSetpoint (group : GroupVirtualDevice) (uid : Uid) (member : Controls) (event : BusEvent)
    (controlId stateId : ControlId) : GroupVirtualDevice × Controls :=
  match group.controls.get? controlId with
  | none => (group, member)
  | some control =>
    if group.stateSource.pinnedSource stateId ≠ some uid then (group, member)
    else match askMember member event controlId with
      | (member, none) => (group, member)
      | (member, some answered) =>
        match answered.state.value with
        | none => (group, member)
        | some value => (group.putState controlId control (control.state.setValue value), member)

/-- `notify_all`: the state controls go first, they move the pin the setpoints
then follow. -/
def notifyAll (group : GroupVirtualDevice) (event : BusEvent) (uid : Uid) (member : Controls) :
    GroupVirtualDevice × Controls :=
  let afterState :=
    group.stateSource.keys.foldl (fun (g : GroupVirtualDevice × Controls) controlId =>
    g.1.takeState uid g.2 event controlId) (group, member)
  setpointState.foldl (fun (g : GroupVirtualDevice × Controls) e =>
    g.1.takeSetpoint uid g.2 event e.1 e.2) afterState

end GroupVirtualDevice

end WbMqttDali.EventSync
