import Mathlib
import WbMqttDali.BusTraffic
import WbMqttDali.Driver.Callers

/-!
# Decoding the bus traffic

`_handle_bus_traffic_frame` sees the frames of all senders in the order in which they
are reported.  A device-type command can be decoded only with the device type that
the frame before it has enabled, which the handler keeps in one field for all
senders.  It leaves the field alone where it returns early, on the quiescent mode
frames of others.
-/

namespace WbMqttDali.BusTrafficFrame

open BusMonitor (Frame)
open Driver (BusTrafficSource Response isTransmissionErrorResponse)
open Callers (DaliCommand)

/-! ### The decoder -/

/-- What the handler asks python-dali about commands, which are of type `C`. -/
structure Decoder (C : Type) where
  /-- `from_frame(frame, devicetype=..)` -/
  fromFrame : Frame → ℕ → C
  /-- the `param` of an `EnableDeviceType` -/
  enableDeviceType : C → Option ℕ
  isStartQuiescentMode : C → Bool
  isStopQuiescentMode : C → Bool
  /-- the short address of an `_Event` that has one, and an instance number -/
  eventShortAddress : C → Option ℕ
  hasResponseClass : C → Bool

/-- Special commands are decoded in the same way for every device type. -/
structure Decoder.Documented {C : Type} (decoder : Decoder C) : Prop where
  enableDeviceType : ∀ frame devicetype, decoder.enableDeviceType
    (decoder.fromFrame frame devicetype) = decoder.enableDeviceType (decoder.fromFrame frame 0)
  startQuiescentMode : ∀ frame devicetype, decoder.isStartQuiescentMode
    (decoder.fromFrame frame devicetype) = decoder.isStartQuiescentMode (decoder.fromFrame frame 0)
  stopQuiescentMode : ∀ frame devicetype, decoder.isStopQuiescentMode
    (decoder.fromFrame frame devicetype) = decoder.isStopQuiescentMode (decoder.fromFrame frame 0)

/-! ### The handler -/

/-- `DECODABLE_FRAME_BIT_LENGTHS` -/
def decodableFrameBitLengths : List ℕ := [16, 24]

/-- The tasks that the handler starts. -/
inductive OneShotTask (C : Type) where
  | startQuiescentMode
  | stopQuiescentMode
  | dispatchDali2Event (command : C)
  | eventSyncApply (commands : List C)
  deriving DecidableEq

/-- The fields of the controller that the handler uses; `decoded` records for every frame
with which device type it was decoded, and to what. -/
structure Controller (C : Type) where
  lastBusTrafficDeviceType : ℕ := 0
  oneShotTasks : List (OneShotTask C) := []
  decoded : List (Option (ℕ × C)) := []

/-- Whether the request of an item is decoded. -/
def IsDecodable (request : Frame) : Prop :=
  request.error = false ∧ request.isBackward = false ∧ request.length ∈ decodableFrameBitLengths

instance (request : Frame) : Decidable (IsDecodable request) :=
  inferInstanceAs (Decidable (_ ∧ _ ∧ _))

section Handler

variable {C : Type} (decoder : Decoder C) (dali2DeviceByShort : ℕ → Bool)

namespace Controller

variable (controller : Controller C)

def addTask (task : OneShotTask C) : Controller C :=
  { controller with oneShotTasks := controller.oneShotTasks ++ [task] }

/-- The first lines of `_publish_bus_traffic`. -/
def publishBusTraffic (decodedRequestCommand : Option C) : Controller C :=
  { controller with
    lastBusTrafficDeviceType := (decodedRequestCommand.bind decoder.enableDeviceType).getD 0 }

/-- The tasks for a decoded command that is no quiescent mode command of others. -/
def startTasks (item : BusTrafficItem) (incomingCommand : C) : Controller C :=
  let controller :=
    match decoder.eventShortAddress incomingCommand with
    | some short =>
      if dali2DeviceByShort short then controller.addTask (.dispatchDali2Event incomingCommand)
      else controller
    | none => controller
  if decoder.hasResponseClass incomingCommand = false ∧
      isTransmissionErrorResponse item.response = false then
    controller.addTask (.eventSyncApply [incomingCommand])
  else controller

/-- `_handle_bus_traffic_frame` -/
def handleBusTrafficFrame (item : BusTrafficItem) : Controller C :=
  if IsDecodable item.request then
    let incomingCommand := decoder.fromFrame item.request controller.lastBusTrafficDeviceType
    let controller := { controller with
      decoded := controller.decoded ++
        [some (controller.lastBusTrafficDeviceType, incomingCommand)] }
    if item.requestSource ∈ [BusTrafficSource.bus, .lunatone] ∧
        decoder.isStartQuiescentMode incomingCommand then
      controller.addTask .startQuiescentMode
    else if item.requestSource ∈ [BusTrafficSource.bus, .lunatone] ∧
        decoder.isStopQuiescentMode incomingCommand then
      controller.addTask .stopQuiescentMode
    else
      (controller.startTasks decoder dali2DeviceByShort item incomingCommand).publishBusTraffic
        decoder (some incomingCommand)
  else
    { controller with decoded := controller.decoded ++ [none] }.publishBusTraffic decoder none

/-- The handler is called for the reported items, one after another. -/
def handleAll (items : List BusTrafficItem) : Controller C :=
  items.foldl (handleBusTrafficFrame decoder dali2DeviceByShort) controller

end Controller

end Handler

/-! ### Notifications -/

/-- A frame of an own command, which is sound and has a length that is decoded. -/
structure OwnCommand extends DaliCommand where
  decodable : IsDecodable frame
  deriving DecidableEq

/-- What is reported to the handler: an own command with its response, or a frame of
somebody else. -/
inductive Notification where
  | own (cmd : OwnCommand) (response : Response) (sequenceId : ℤ)
  | foreign (item : BusTrafficItem) (source_ne_wb : item.requestSource ≠ .wb)
  deriving DecidableEq

namespace Notification

def item : Notification → BusTrafficItem
  | own cmd response sequenceId => ⟨cmd.frame, some response, .wb, sequenceId⟩
  | foreign item _ => item

def cmd? : Notification → Option OwnCommand
  | own cmd _ _ => some cmd
  | foreign _ _ => none

variable {C : Type} (decoder : Decoder C)

/-- The handler returns early: a quiescent mode command of somebody else. -/
def returnsEarly (notification : Notification) : Bool :=
  notification.cmd? = none ∧ IsDecodable notification.item.request ∧
    (decoder.isStartQuiescentMode (decoder.fromFrame notification.item.request 0) ∨
      decoder.isStopQuiescentMode (decoder.fromFrame notification.item.request 0))

/-- The device type that a frame enables for the next one. -/
def enables (notification : Notification) : Option ℕ :=
  if IsDecodable notification.item.request then
    decoder.enableDeviceType (decoder.fromFrame notification.item.request 0)
  else none

end Notification

/-- The last notification on which the handler does not return early. -/
def lastKept {C : Type} (decoder : Decoder C) (notifications : List Notification) :
    Option Notification :=
  (notifications.filter fun notification => !notification.returnsEarly decoder).getLast?

/-- The device type that this notification has enabled, or 0. -/
def enabledType {C : Type} (decoder : Decoder C) (notifications : List Notification) : ℕ :=
  ((lastKept decoder notifications).bind fun last => last.enables decoder).getD 0

/-- The device type that the sender of the own commands has enabled with its last one. -/
def ownDeviceType {C : Type} (decoder : Decoder C) (notifications : List Notification) : ℕ :=
  ((notifications.filter fun notification => notification.cmd?.isSome).getLast?.bind
    fun notification => notification.enables decoder).getD 0

section Properties

variable {C : Type} (decoder : Decoder C) (dali2DeviceByShort : ℕ → Bool)

/-- Every own device-type command is decoded with its device type, and every other own command
with none, or with that of the own `EnableDeviceType` right before it. -/
def DecodedAsSent (notifications : List Notification) : Prop :=
  ∀ before cmd response sequenceId after,
    notifications = before ++ .own cmd response sequenceId :: after →
    ∃ devicetype : ℕ,
      (({} : Controller C).handleAll decoder dali2DeviceByShort
        (notifications.map Notification.item)).decoded[before.length]? =
          some (some (devicetype, decoder.fromFrame cmd.frame devicetype)) ∧
      (cmd.devicetype ≠ 0 → devicetype = cmd.devicetype) ∧
      (cmd.devicetype = 0 → devicetype = 0 ∨ devicetype = ownDeviceType decoder before)

/-- Before an own device-type command the last frame that is not passed over has enabled its
type; before any other own command that frame is no `EnableDeviceType`, or one of type 0,
or one of the type that the own sender itself has enabled last. -/
def EnabledBefore (notifications : List Notification) : Prop :=
  ∀ before cmd response sequenceId after,
    notifications = before ++ .own cmd response sequenceId :: after →
    (cmd.devicetype ≠ 0 →
      ∃ last ∈ lastKept decoder before, last.enables decoder = some (cmd.devicetype : ℕ)) ∧
    (cmd.devicetype = 0 → ∀ last ∈ lastKept decoder before, ∀ devicetype,
      last.enables decoder = some devicetype →
        devicetype = 0 ∨ devicetype = ownDeviceType decoder before)

end Properties

/-! ### What one frame does -/

section Steps

variable {C : Type} {decoder : Decoder C} {dali2DeviceByShort : ℕ → Bool}

lemma startTasks_frame (controller : Controller C) (item : BusTrafficItem) (command : C) :
    (controller.startTasks decoder dali2DeviceByShort item command).lastBusTrafficDeviceType =
        controller.lastBusTrafficDeviceType ∧
      (controller.startTasks decoder dali2DeviceByShort item command).decoded =
        controller.decoded := by
  rw [Controller.startTasks]
  constructor
  · split <;> split <;> (try split) <;> rfl
  · split <;> split <;> (try split) <;> rfl

lemma source_mem_iff (notification : Notification) :
    notification.item.requestSource ∈ [BusTrafficSource.bus, .lunatone] ↔
      notification.cmd? = none := by
  cases notification with
  | own cmd response sequenceId => simp [Notification.item, Notification.cmd?]
  | foreign item hsource =>
    simp only [Notification.item, Notification.cmd?, iff_true]
    cases hrequest : item.requestSource with
    | bus => simp
    | lunatone => simp
    | wb => exact absurd hrequest hsource

/-- A frame is decoded with the device type of the field; and the field is kept by the frames
on which the handler returns early, and set or reset by all others. -/
lemma handle_eq (hdocumented : decoder.Documented) (dali2DeviceByShort : ℕ → Bool)
    (controller : Controller C) (notification : Notification) :
    (controller.handleBusTrafficFrame decoder dali2DeviceByShort
        notification.item).lastBusTrafficDeviceType =
      (if notification.returnsEarly decoder then controller.lastBusTrafficDeviceType
        else (notification.enables decoder).getD 0) ∧
    (controller.handleBusTrafficFrame decoder dali2DeviceByShort notification.item).decoded =
      controller.decoded ++ [if IsDecodable notification.item.request then
        some (controller.lastBusTrafficDeviceType,
          decoder.fromFrame notification.item.request controller.lastBusTrafficDeviceType)
        else none] := by
  rw [Controller.handleBusTrafficFrame, Notification.returnsEarly, Notification.enables]
  simp only [source_mem_iff, hdocumented.startQuiescentMode, hdocumented.stopQuiescentMode]
  by_cases hdecodable : IsDecodable notification.item.request
  · simp only [if_pos hdecodable]
    by_cases hforeign : notification.cmd? = none
    · cases hstart : decoder.isStartQuiescentMode
          (decoder.fromFrame notification.item.request 0) with
      | true => simp [hforeign, hdecodable, Controller.addTask]
      | false =>
        cases hstop : decoder.isStopQuiescentMode
            (decoder.fromFrame notification.item.request 0) with
        | true => simp [hforeign, hdecodable, Controller.addTask]
        | false =>
          simp [startTasks_frame, Controller.publishBusTraffic, hdocumented.enableDeviceType]
    · -- an own frame is never passed over
      simp [hforeign, startTasks_frame, Controller.publishBusTraffic,
        hdocumented.enableDeviceType]
  · simp [hdecodable, Controller.publishBusTraffic]

end Steps

/-! ### Runs -/

section Runs

variable {C : Type} {decoder : Decoder C} {dali2DeviceByShort : ℕ → Bool}

/-- The state of the handler after the notifications. -/
abbrev afterAll (decoder : Decoder C) (dali2DeviceByShort : ℕ → Bool)
    (notifications : List Notification) : Controller C :=
  ({} : Controller C).handleAll decoder dali2DeviceByShort (notifications.map Notification.item)

lemma afterAll_concat (notifications : List Notification) (notification : Notification) :
    afterAll decoder dali2DeviceByShort (notifications ++ [notification]) =
      (afterAll decoder dali2DeviceByShort notifications).handleBusTrafficFrame decoder
        dali2DeviceByShort notification.item := by
  simp [afterAll, Controller.handleAll]

lemma lastKept_concat (notifications : List Notification) (notification : Notification) :
    lastKept decoder (notifications ++ [notification]) =
      if notification.returnsEarly decoder then lastKept decoder notifications
      else some notification := by
  rw [lastKept, List.filter_append]
  cases hearly : notification.returnsEarly decoder with
  | true => simp [hearly, lastKept]
  | false => simp [hearly]

lemma enabledType_eq {notifications : List Notification} {last : Notification} {devicetype : ℕ}
    (hlast : last ∈ lastKept decoder notifications)
    (henables : last.enables decoder = some devicetype) :
    enabledType decoder notifications = devicetype := by
  rw [enabledType, Option.mem_def.1 hlast, Option.bind_some, henables]
  rfl

/-- A device type other than 0 was enabled by the last frame. -/
lemma exists_enables {notifications : List Notification} {devicetype : ℕ}
    (h : enabledType decoder notifications = devicetype) (hne : devicetype ≠ 0) :
    ∃ last ∈ lastKept decoder notifications, last.enables decoder = some devicetype := by
  rw [enabledType] at h
  cases hkept : lastKept decoder notifications with
  | none =>
    rw [hkept] at h
    exact absurd h.symm hne
  | some last =>
    rw [hkept, Option.bind_some] at h
    cases henables : last.enables decoder with
    | none =>
      rw [henables] at h
      exact absurd h.symm hne
    | some devicetype' =>
      rw [henables] at h
      exact ⟨last, rfl, henables.trans (congrArg some h)⟩

/-- The field holds what the last frame that was not passed over has enabled. -/
lemma afterAll_eq (hdocumented : decoder.Documented) (dali2DeviceByShort : ℕ → Bool)
    (notifications : List Notification) :
    (afterAll decoder dali2DeviceByShort notifications).lastBusTrafficDeviceType =
        enabledType decoder notifications ∧
      (afterAll decoder dali2DeviceByShort notifications).decoded.length =
        notifications.length := by
  induction notifications using List.reverseRecOn with
  | nil => simp [afterAll, Controller.handleAll, enabledType, lastKept]
  | append_singleton notifications notification ih =>
    obtain ⟨hlast, hdecoded⟩ := handle_eq hdocumented dali2DeviceByShort
      (afterAll decoder dali2DeviceByShort notifications) notification
    rw [afterAll_concat, enabledType, lastKept_concat]
    constructor
    · rw [hlast]
      split
      · exact ih.1
      · rfl
    · rw [hdecoded, List.length_append, ih.2, List.length_append]
      rfl

/-- What was decoded is recorded for good. -/
lemma decoded_prefix (hdocumented : decoder.Documented) (dali2DeviceByShort : ℕ → Bool)
    (notifications rest : List Notification) :
    (afterAll decoder dali2DeviceByShort notifications).decoded <+:
      (afterAll decoder dali2DeviceByShort (notifications ++ rest)).decoded := by
  induction rest using List.reverseRecOn with
  | nil =>
    rw [List.append_nil]
  | append_singleton rest notification ih =>
    rw [← List.append_assoc, afterAll_concat, (handle_eq hdocumented _ _ notification).2]
    exact ih.trans (List.prefix_append _ _)

/-- With which device type an own command is decoded. -/
lemma decoded_own (hdocumented : decoder.Documented) (dali2DeviceByShort : ℕ → Bool)
    (before after : List Notification)
    (cmd : OwnCommand) (response : Response) (sequenceId : ℤ) :
    (afterAll decoder dali2DeviceByShort
        (before ++ .own cmd response sequenceId :: after)).decoded[before.length]? =
      some (some (enabledType decoder before,
        decoder.fromFrame cmd.frame (enabledType decoder before))) := by
  obtain ⟨hlast, hlength⟩ := afterAll_eq hdocumented dali2DeviceByShort before
  have hstep := (handle_eq hdocumented dali2DeviceByShort
    (afterAll decoder dali2DeviceByShort before) (.own cmd response sequenceId)).2
  have hdecodable : IsDecodable (Notification.own cmd response sequenceId).item.request :=
    cmd.decodable
  rw [← afterAll_concat, if_pos hdecodable, hlast] at hstep
  have hprefix := decoded_prefix hdocumented dali2DeviceByShort
    (before ++ [.own cmd response sequenceId]) after
  rw [List.append_assoc, List.singleton_append] at hprefix
  obtain ⟨rest, hrest⟩ := hprefix
  rw [← hrest, hstep, List.append_assoc, List.getElem?_append_right (by omega), hlength]
  simp [Notification.item]

/-- The own commands are decoded as they were sent exactly when the frame reported before each
device-type command has enabled its type, and the frame before every other one has not
enabled a type for somebody else. -/
theorem decodedAsSent_iff (decoder : Decoder C) (hdocumented : decoder.Documented)
    (dali2DeviceByShort : ℕ → Bool) (notifications : List Notification) :
    DecodedAsSent decoder dali2DeviceByShort notifications ↔
      EnabledBefore decoder notifications := by
  constructor
  · intro h before cmd response sequenceId after hsplit
    obtain ⟨devicetype, hdecoded, htyped, hordinary⟩ :=
      h before cmd response sequenceId after hsplit
    have hfield : enabledType decoder before = devicetype := by
      have hown := decoded_own hdocumented dali2DeviceByShort before after cmd response sequenceId
      rw [← hsplit] at hown
      have hsame := hown.symm.trans hdecoded
      simpa using congrArg (Option.map (Option.map Prod.fst)) hsame
    constructor
    · intro hne
      exact exists_enables (hfield.trans (htyped hne)) fun hzero => hne (Fin.ext hzero)
    · intro hzero last hlast devicetype' henables
      rw [← enabledType_eq hlast henables, hfield]
      exact hordinary hzero
  · intro h before cmd response sequenceId after hsplit
    obtain ⟨htyped, hordinary⟩ := h before cmd response sequenceId after hsplit
    refine ⟨enabledType decoder before, ?_, ?_, ?_⟩
    · rw [hsplit]
      exact decoded_own hdocumented _ before after cmd response sequenceId
    · intro hne
      obtain ⟨last, hlast, henables⟩ := htyped hne
      exact enabledType_eq hlast henables
    · intro hzero
      by_cases henabled : enabledType decoder before = 0
      · exact .inl henabled
      · obtain ⟨last, hlast, henables⟩ := exists_enables rfl henabled
        exact hordinary hzero last hlast _ henables

end Runs

/-! ### A concrete decoder -/

/-- The commands that the handler tells apart. -/
inductive PlainCommand where
  | enableDeviceType (param : ℕ)
  | startQuiescentMode
  | stopQuiescentMode
  | other (frame : Frame) (devicetype : ℕ)
  deriving DecidableEq

def plainFromFrame (frame : Frame) (devicetype : ℕ) : PlainCommand :=
  if frame.length = 16 ∧ frame.data / 256 = 0xC1 then .enableDeviceType (frame.data % 256)
  else if frame.length = 24 ∧ frame.data = 0xFFFE1D then .startQuiescentMode
  else if frame.length = 24 ∧ frame.data = 0xFFFE1E then .stopQuiescentMode
  else .other frame devicetype

/-- A decoder that knows the special commands by their frames. -/
def plainDecoder : Decoder PlainCommand where
  fromFrame := plainFromFrame
  enableDeviceType := fun command =>
    match command with
    | .enableDeviceType param => some param
    | _ => none
  isStartQuiescentMode := fun command => command = .startQuiescentMode
  isStopQuiescentMode := fun command => command = .stopQuiescentMode
  eventShortAddress := fun _ => none
  hasResponseClass := fun _ => false

/-- Only commands that are not special depend on the device type. -/
lemma plainFromFrame_cases (frame : Frame) (devicetype : ℕ) :
    plainFromFrame frame devicetype = plainFromFrame frame 0 ∨
      (plainFromFrame frame devicetype = .other frame devicetype ∧
        plainFromFrame frame 0 = .other frame 0) := by
  rw [plainFromFrame, plainFromFrame]
  by_cases henable : frame.length = 16 ∧ frame.data / 256 = 0xC1
  · simp [henable]
  · by_cases hstart : frame.length = 24 ∧ frame.data = 0xFFFE1D
    · simp [hstart]
    · by_cases hstop : frame.length = 24 ∧ frame.data = 0xFFFE1E
      · simp [hstop]
      · simp [henable, hstart, hstop]

lemma plainDecoder_documented : plainDecoder.Documented := by
  constructor
  all_goals
    intro frame devicetype
    rcases plainFromFrame_cases frame devicetype with hsame | ⟨hother, hzero⟩
    · simp only [plainDecoder, hsame]
    · simp [plainDecoder, hother, hzero]

/-- `EnableDeviceType(8)` and a command of device type 8, as they are sent together. -/
def enableType8 : OwnCommand := ⟨Callers.enableDeviceType 8, by decide⟩

def activate : OwnCommand where
  frame := ⟨false, 16, 0x01E2, false⟩
  sendtwice := false
  hasResponseClass := false
  frame_length := by decide
  devicetype := 8
  decodable := by decide

/-- `Off(A0)` -/
def off : OwnCommand where
  frame := ⟨false, 16, 0x0100, false⟩
  sendtwice := false
  hasResponseClass := false
  frame_length := by decide
  decodable := by decide

/-- An own frame that the gateway has sent without an answer. -/
def sent (cmd : OwnCommand) (sequenceId : ℤ) : Notification := .own cmd (.plain none) sequenceId

/-- A sniffed frame. -/
def sniffed (length data : ℕ) : Notification :=
  .foreign ⟨⟨false, length, data, false⟩, none, .bus, 0⟩ (by simp)

/-- A quiescent mode frame between an own `EnableDeviceType` and its command does no harm. -/
theorem decodedAsSent_iff_quiescentBetween :
    DecodedAsSent plainDecoder (fun _ => false)
      [sent enableType8 0, sniffed 24 0xFFFE1E, sent activate 1] := by
  refine (decodedAsSent_iff plainDecoder plainDecoder_documented _ _).2 ?_
  intro before cmd response sequenceId after hsplit
  rcases before with _ | ⟨first, _ | ⟨second, _ | ⟨third, before⟩⟩⟩
  · obtain ⟨⟨rfl, rfl, rfl⟩, -⟩ : (enableType8 = cmd ∧ .plain none = response ∧ 0 = sequenceId) ∧
        _ := by simpa [sent] using hsplit
    simp [lastKept, enableType8, Callers.enableDeviceType]
  · simp [sniffed] at hsplit
  · obtain ⟨rfl, rfl, ⟨rfl, rfl, rfl⟩, -⟩ : sent enableType8 0 = first ∧
        sniffed 24 0xFFFE1E = second ∧
        (activate = cmd ∧ .plain none = response ∧ 1 = sequenceId) ∧ _ := by
      simpa [sent] using hsplit
    refine ⟨fun _ => ⟨sent enableType8 0, by decide, by decide⟩, fun hzero => ?_⟩
    exact absurd hzero (by decide)
  · simp at hsplit

/-- A sniffed frame between an own `EnableDeviceType` and its command resets the field; and a
foreign `EnableDeviceType` before a quiescent mode frame, on which the handler returns
early, is applied to the own command after it. -/
theorem exists_not_decodedAsSent :
    ¬ DecodedAsSent plainDecoder (fun _ => false)
      [sent enableType8 0, sniffed 16 0x0500, sent activate 1] ∧
    ¬ DecodedAsSent plainDecoder (fun _ => false)
      [sniffed 16 0xC108, sniffed 24 0xFFFE1D, sent off 0] := by
  constructor
  · intro h
    obtain ⟨devicetype, hdecoded, htyped, -⟩ :=
      h [sent enableType8 0, sniffed 16 0x0500] activate (.plain none) 1 [] rfl
    have hfield : devicetype = 0 := by
      have hrun : (({} : Controller PlainCommand).handleAll plainDecoder (fun _ => false)
          ([sent enableType8 0, sniffed 16 0x0500, sent activate 1].map
            Notification.item)).decoded[2]? = some (some (0, .other activate.frame 0)) := by
        decide
      have hsame := hrun.symm.trans hdecoded
      simpa using (congrArg (Option.map (Option.map Prod.fst)) hsame).symm
    exact absurd ((htyped (by decide)).symm.trans hfield) (by decide)
  · intro h
    obtain ⟨devicetype, hdecoded, -, hordinary⟩ :=
      h [sniffed 16 0xC108, sniffed 24 0xFFFE1D] off (.plain none) 0 [] rfl
    have hfield : devicetype = 8 := by
      have hrun : (({} : Controller PlainCommand).handleAll plainDecoder (fun _ => false)
          ([sniffed 16 0xC108, sniffed 24 0xFFFE1D, sent off 0].map
            Notification.item)).decoded[2]? = some (some (8, .other off.frame 8)) := by
        decide
      have hsame := hrun.symm.trans hdecoded
      simpa using (congrArg (Option.map (Option.map Prod.fst)) hsame).symm
    have hown : ownDeviceType plainDecoder [sniffed 16 0xC108, sniffed 24 0xFFFE1D] = 0 := by
      decide
    rcases hordinary (by decide) with hzero | hsame
    · exact absurd (hfield.symm.trans hzero) (by decide)
    · exact absurd (hfield.symm.trans (hsame.trans hown)) (by decide)

end WbMqttDali.BusTrafficFrame
