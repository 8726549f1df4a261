import WbMqttDali.EventSync.Controls
import WbMqttDali.Lib.Interleaving
import WbMqttDali.Lib.Transition

/-!
# The event sync coordinator

Every gear frame seen on the bus, foreign or our own, is handed to a task of
its own that applies it to the controls of the addressed devices.  The DTR
registers and the colour sequence are followed for the bus as a whole.  A task
applies a frame device by device and publishes in between, and while it waits
for the publishing other tasks go on.  The moments of the confirming polls and
the publishing itself are left out.
-/

namespace WbMqttDali.EventSync

open Interleaving

/-! ### Commands -/

/-- The destinations of gear commands. -/
inductive GearDestination
  | short (address : ℕ)
  | group (group : ℕ)
  | broadcast
  | broadcastUnaddressed
  deriving DecidableEq, Repr

/-- `_COLOUR_SET_TEMPORARY`. -/
inductive SetTemporary
  | colourTemperature | xCoordinate | yCoordinate | rgbDimLevel | wafDimLevel
  | primaryNDimLevel | rgbwafControl
  deriving DecidableEq, Repr

/-- The commands that event sync tells apart; a `register` is 0, 1 or 2. -/
inductive Command
  | dtr (register : Fin 3) (param : ℕ)
  | setFadeTime (destination : GearDestination)
  | setFadeRate (destination : GearDestination)
  | setTemporary (kind : SetTemporary) (destination : GearDestination)
  | activate (destination : GearDestination)
  | colourStep (destination : GearDestination)
  | level (command : LevelCommand) (destination : GearDestination)
  | other
  deriving DecidableEq, Repr

/-! ### The DTR registers and the colour sequence -/

structure DtrSnapshot where
  dtr0 : ℕ
  dtr1 : ℕ
  dtr2 : ℕ
  deriving DecidableEq, Repr

namespace DtrSnapshot

def record (snapshot : DtrSnapshot) (register : Fin 3) (param : ℕ) : DtrSnapshot :=
  match register with
  | 0 => { snapshot with dtr0 := param }
  | 1 => { snapshot with dtr1 := param }
  | 2 => { snapshot with dtr2 := param }

def word (snapshot : DtrSnapshot) : ℕ := snapshot.dtr1 <<< 8 ||| snapshot.dtr0

end DtrSnapshot

structure ColourCapture where
  components : Dict ColourComponent ℕ
  predictable : Bool

/-- `ColourCapture()`. -/
def ColourCapture.fresh : ColourCapture := ⟨∅, true⟩

structure ColourSequenceTracker where
  pending : Uid → Option ColourCapture
  freshDtr : Finset (Fin 3)

namespace ColourSequenceTracker

variable (tracker : ColourSequenceTracker)

def noteDtr (register : Fin 3) : ColourSequenceTracker where
  pending := if tracker.freshDtr = ∅ then fun _ => none else tracker.pending
  freshDtr := insert register tracker.freshDtr

/-- The registers of `_SET_TEMPORARY_SPECS`. -/
def required : SetTemporary → Finset (Fin 3)
  | .xCoordinate | .yCoordinate | .colourTemperature => {0, 1}
  | .rgbDimLevel | .wafDimLevel | .primaryNDimLevel => {0, 1, 2}
  | .rgbwafControl => ∅

/-- The capture builders of `_SET_TEMPORARY_SPECS`. -/
def capture (capture : ColourCapture) (snapshot : DtrSnapshot) : SetTemporary → ColourCapture
  | .xCoordinate =>
    { capture with components := capture.components.set .xCoordinate snapshot.word }
  | .yCoordinate =>
    { capture with components := capture.components.set .yCoordinate snapshot.word }
  | .colourTemperature =>
    { capture with components := capture.components.set .colourTemperature snapshot.word }
  | .rgbDimLevel =>
    { capture with
      components := ((capture.components.set .red snapshot.dtr0).set .green snapshot.dtr1).set
        .blue snapshot.dtr2 }
  | .wafDimLevel =>
    { capture with
      components := ((capture.components.set .white snapshot.dtr0).set .amber snapshot.dtr1).set
        .freeColour snapshot.dtr2 }
  | .primaryNDimLevel =>
    -- a foreign controller can leave anything in DTR2
    if h : snapshot.dtr2 < 6 then
      { capture with
        components := capture.components.set (.primaryN ⟨snapshot.dtr2, h⟩) snapshot.word }
    else { capture with predictable := false }
  | .rgbwafControl => { capture with predictable := false }

/-- The capture of a device after a `SetTemporary…` command. -/
def recorded (pending : Option ColourCapture) (freshDtr : Finset (Fin 3)) (kind : SetTemporary)
    (snapshot : DtrSnapshot) : ColourCapture :=
  let current := pending.getD .fresh
  if required kind ⊆ freshDtr then capture current snapshot kind
  else { current with predictable := false }

def record (deviceUid : Uid) (kind : SetTemporary) (snapshot : DtrSnapshot) :
    ColourSequenceTracker where
  pending := Function.update tracker.pending deviceUid
    (some (recorded (tracker.pending deviceUid) tracker.freshDtr kind snapshot))
  freshDtr := tracker.freshDtr

/-- `take`, whose result is the capture pending before. -/
def take (deviceUid : Uid) : ColourSequenceTracker where
  pending := Function.update tracker.pending deviceUid none
  freshDtr := tracker.freshDtr

def endActivate : ColourSequenceTracker := { tracker with freshDtr := ∅ }

end ColourSequenceTracker

/-! ### Devices -/

/-- What event sync reads of a gear device and never changes. -/
structure Gear where
  uid : Uid
  groups : List ℕ
  /-- `dt8_handler is not None`. -/
  isDt8 : Bool
  deriving DecidableEq, Repr

structure DeviceRegistry where
  gearByShort : Dict ℕ Gear

def DeviceRegistry.resolve (registry : DeviceRegistry) : GearDestination → List Gear
  | .short address => (registry.gearByShort.get? address).toList
  | .group group => registry.gearByShort.values.filter fun d => group ∈ d.groups
  | .broadcast => registry.gearByShort.values
  | .broadcastUnaddressed => []

/-- The controls and the colour picture of a gear device. -/
structure DaliDevice where
  controls : Controls
  /-- Only used where the gear has a DT8 handler. -/
  dt8Handler : Type8Parameters

/-- What the tasks of one bus share. -/
structure Sync where
  dtr : DtrSnapshot
  colour : ColourSequenceTracker
  fadeTimes : Uid → Option ℕ
  devices : Uid → DaliDevice
  groupDevices : ℕ → Option GroupVirtualDevice

/-- The groups of a device take what the device's controls decided. -/
def notifyGroups (uid : Uid) (event : BusEvent) :
    List ℕ → Controls → (ℕ → Option GroupVirtualDevice) →
      Controls × (ℕ → Option GroupVirtualDevice)
  | [], member, groupDevices => (member, groupDevices)
  | number :: numbers, member, groupDevices =>
    match groupDevices number with
    | none => notifyGroups uid event numbers member groupDevices
    | some group =>
      let (group, member) := group.notifyAll event uid member
      notifyGroups uid event numbers member (Function.update groupDevices number (some group))

namespace Sync

variable (s : Sync)

def putDevice (uid : Uid) (device : DaliDevice) : Sync :=
  { s with devices := Function.update s.devices uid device }

/-- `_dispatch`, and whether it waited for the publishing. -/
def dispatch (gear : Gear) (event : BusEvent) : Sync × Bool :=
  let device := s.devices gear.uid
  let (controls, changed) := notifyControls device.controls event
  if changed = [] then (s.putDevice gear.uid { device with controls := controls }, false)
  else
    let (controls, groupDevices) :=
      notifyGroups gear.uid event gear.groups controls s.groupDevices
    ({ s.putDevice gear.uid { device with controls := controls } with
      groupDevices := groupDevices }, true)

/-- A device's own part of a command, and the dispatch of the event it gives. -/
def react (gear : Gear) (reaction : DaliDevice → DaliDevice × Option BusEvent) : Sync × Bool :=
  let (device, event) := reaction (s.devices gear.uid)
  match event with
  | none => (s.putDevice gear.uid device, false)
  | some event => (s.putDevice gear.uid device).dispatch gear event

end Sync

/-- The level part of `_apply_level` for one device. -/
def DaliDevice.levelEvent (device : DaliDevice) (command : LevelCommand) : Option BusEvent :=
  match device.controls.get? ControlId.actualLevel with
  | some ⟨.actualLevel actual, _⟩ =>
    (actual.predictLevel command).map fun predicted =>
      .levelChanged (some predicted) .observed false
  | _ => none

/-- `_apply_scene_colour`. -/
def DaliDevice.applySceneColour (device : DaliDevice) (gear : Gear) (sceneIndex : ℕ) :
    DaliDevice × Option BusEvent :=
  if gear.isDt8 then
    let (handler, event) := device.dt8Handler.applyObservedColour
      (device.dt8Handler.sceneColourComponents sceneIndex)
    ({ device with dt8Handler := handler }, event)
  else (device, none)

/-- The part of `_apply_activate` for one device, with the capture it took. -/
def DaliDevice.applyCapture (device : DaliDevice) (gear : Gear) (capture : Option ColourCapture) :
    DaliDevice × Option BusEvent :=
  match capture with
  | none => (device, none)
  | some capture =>
    if gear.isDt8 ∧ capture.predictable ∧ capture.components.size ≠ 0 then
      let (handler, event) := device.dt8Handler.applyObservedColour capture.components
      ({ device with dt8Handler := handler }, event)
    else (device, none)

/-! ### Applying a command -/

/-- A piece of `_apply_one` that ends at the await of a dispatch, or does not
await at all. -/
inductive Segment
  | recordDtr (register : Fin 3) (param : ℕ)
  | setFadeTime (devices : List Gear)
  | setTemporary (kind : SetTemporary) (devices : List Gear)
  | level (command : LevelCommand) (device : Gear)
  | sceneColour (sceneIndex : ℕ) (device : Gear)
  | activate (device : Gear)
  | endActivate
  deriving DecidableEq, Repr

/-- Runs a segment, and says whether it waited for the publishing. -/
def Segment.exec : Segment → Sync → Sync × Bool
  | .recordDtr register param, s =>
    ({ s with dtr := s.dtr.record register param, colour := s.colour.noteDtr register }, false)
  | .setFadeTime devices, s =>
    ({ s with fadeTimes := devices.foldl (fun fadeTimes device =>
        Function.update fadeTimes device.uid (some s.dtr.dtr0)) s.fadeTimes }, false)
  | .setTemporary kind devices, s =>
    ({ s with colour := (devices.filter (·.isDt8)).foldl (fun colour device =>
        colour.record device.uid kind s.dtr) s.colour }, false)
  | .level command device, s => s.react device fun d => (d, d.levelEvent command)
  | .sceneColour sceneIndex device, s => s.react device (·.applySceneColour device sceneIndex)
  | .activate device, s =>
    let capture := s.colour.pending device.uid
    { s with colour := s.colour.take device.uid }.react device (·.applyCapture device capture)
  | .endActivate, s => ({ s with colour := s.colour.endActivate }, false)

/-- What a segment does to the shared state. -/
def Segment.act (segment : Segment) (s : Sync) : Sync := (segment.exec s).1

/-- `_apply_one`, as its segments. -/
def Command.segments (registry : DeviceRegistry) : Command → List Segment
  | .dtr register param => [.recordDtr register param]
  | .setFadeTime destination => [.setFadeTime (registry.resolve destination)]
  | .setFadeRate _ => []
  | .setTemporary kind destination => [.setTemporary kind (registry.resolve destination)]
  | .activate destination => (registry.resolve destination).map .activate ++ [.endActivate]
  -- a colour step only moves the confirming poll
  | .colourStep _ => []
  | .level command destination => (registry.resolve destination).flatMap fun device =>
    match command with
    | .goToScene param => [.level command device, .sceneColour param device]
    | _ => [.level command device]
  | .other => []

/-- The frames applied strictly one after another. -/
def applyInOrder (registry : DeviceRegistry) (frames : List Command) (s : Sync) : Sync :=
  performAll Segment.act (frames.flatMap (·.segments registry)) s

/-! ### Tasks -/

/-- Runs a task up to its next await: the shared state, the segments that ran
and those that remain. -/
def advance : List Segment → Sync → Sync × List Segment × List Segment
  | [], s => (s, [], [])
  | segment :: segments, s =>
    match segment.exec s with
    | (s', true) => (s', [segment], segments)
    | (s', false) =>
      let (s'', ran, rest) := advance segments s'
      (s'', segment :: ran, rest)

/-- The frames observed so far, what remains of the task of each, and the
segments that ran, each with the number of its frame. -/
structure State where
  sync : Sync
  frames : List Command
  tasks : List (List Segment)
  log : List (ℕ × Segment)

namespace State

/-- The task `task`, of which `segments` remain, goes on. -/
def run (s : State) (task : ℕ) (segments : List Segment) : State :=
  let (sync, ran, rest) := advance segments s.sync
  { s with
    sync := sync
    tasks := s.tasks.set task rest
    log := s.log ++ ran.map (task, ·) }

/-- The tasks of all frames so far have ended. -/
def Finished (s : State) : Prop := ∀ rest ∈ s.tasks, rest = []

end State

inductive Event
  /-- A frame is observed and its task starts. -/
  | start (command : Command)
  /-- The publishing that the task waits for is done. -/
  | resume (task : ℕ)
  deriving DecidableEq, Repr

/-- One turn of the event loop. -/
def step (registry : DeviceRegistry) (s : State) : Event → Option State
  | .start command =>
    let segments := command.segments registry
    some ({ s with
      frames := s.frames ++ [command]
      tasks := s.tasks ++ [segments] }.run s.tasks.length segments)
  | .resume task =>
    match s.tasks[task]? with
    | none | some [] => none
    | some (segment :: segments) => some (s.run task (segment :: segments))

/-- Event sync of a bus whose controls start as in `start`. -/
def eventSync (registry : DeviceRegistry) (start : Sync) : Transition State Event where
  init s := s = ⟨start, [], [], []⟩
  step := step registry

end WbMqttDali.EventSync
