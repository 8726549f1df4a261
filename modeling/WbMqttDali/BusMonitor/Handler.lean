import Mathlib
import WbMqttDali.Lib.Dict
import WbMqttDali.Lib.ModCounter

/-!
# The bus monitor frame handler

The gateway keeps the last frames it saw on the bus in a ring of four slots,
and every slot is published on a topic of its own.  The slots arrive in slot
order, so `BusMonitorFrameHandler` puts the frames back into the order of their
16-bit counter before it hands them to the bus traffic callbacks.

The functions below follow `wbdali.py` one by one.  What a call writes to the
log and what it passes to `_publish` is its `Output`.
-/

namespace WbMqttDali.BusMonitor

open ModCounter

def frameCounterModulo : ℕ := 1 <<< 16

def busMonitorRingSize : ℕ := 4

def busMonitorReorderWindow : ℕ := busMonitorRingSize - 1

def busMonitorResyncAfterFramesBehind : ℕ := busMonitorRingSize

def forwardFrameBitLengths : List ℕ := [16, 17, 24, 25]

def backwardFrameBitLength : ℕ := 8

def decodableFrameBitLengths : List ℕ := [16, 24]

def unreadableFrameBitLength : ℕ := 16

lemma frameCounterModulo_eq : frameCounterModulo = 65536 := rfl

lemma busMonitorReorderWindow_eq : busMonitorReorderWindow = 3 := rfl

lemma frameCounterModulo_pos : 0 < frameCounterModulo := by decide

/-- `(fc - expected) % FRAME_COUNTER_MODULO` -/
def distance (expected fc : ℕ) : ℕ := offset frameCounterModulo expected fc

/-! ### Slots and frames -/

/-- A frame as the bus traffic callbacks get it: `ForwardFrame`, `BackwardFrame`
or, with `error`, their broken variants. -/
structure Frame where
  isBackward : Bool
  length : ℕ
  data : ℕ
  error : Bool
  deriving DecidableEq

/-- A publication of one ring slot. -/
structure BusMonitorSlot where
  rawValue : ℕ
  frameCounter : ℕ
  frameLength : ℕ
  frameData : ℕ
  isBackward : Bool
  isBroken : Bool
  frameCounter_lt : frameCounter < frameCounterModulo
  deriving DecidableEq

namespace BusMonitorSlot

/-- `from_raw`: `none` where the source raises `ValueError`, for a value that
does not fit 64 bits or is negative. -/
def fromRaw (rawValue : ℤ) : Option BusMonitorSlot :=
  if rawValue >>> 64 ≠ 0 then none
  else
    let raw := rawValue.toNat
    let frameLength := (raw >>> 32) &&& 0xFF
    some
      { rawValue := raw
        frameCounter := (raw >>> 48) &&& 0xFFFF
        frameLength := frameLength
        frameData := raw &&& ((1 <<< frameLength) - 1)
        isBackward := (raw >>> 40) &&& 0x1 ≠ 0
        isBroken := (raw >>> 41) &&& 0x1 ≠ 0
        frameCounter_lt := Nat.and_lt_two_pow (n := 16) _ (by decide) }

def isEmpty (slot : BusMonitorSlot) : Bool := slot.rawValue = 0

def hasReadableFrame (slot : BusMonitorSlot) : Bool :=
  if slot.isBackward then slot.frameLength = backwardFrameBitLength
  else slot.frameLength ∈ forwardFrameBitLengths

def isValid (slot : BusMonitorSlot) : Bool := slot.hasReadableFrame || slot.isBroken

def buildFrame (slot : BusMonitorSlot) : Frame :=
  if slot.isBackward then
    if slot.isBroken then
      if slot.hasReadableFrame then ⟨true, backwardFrameBitLength, slot.frameData, true⟩
      else ⟨true, backwardFrameBitLength, (1 <<< backwardFrameBitLength) - 1, true⟩
    else ⟨true, backwardFrameBitLength, slot.frameData, false⟩
  else if slot.hasReadableFrame then ⟨false, slot.frameLength, slot.frameData, slot.isBroken⟩
  else ⟨false, unreadableFrameBitLength, (1 <<< unreadableFrameBitLength) - 1, slot.isBroken⟩

end BusMonitorSlot

/-! ### The handler -/

/-- The fields of `BusMonitorFrameHandler` that change. -/
structure Handler where
  nextExpectedFc : Option ℕ := none
  farBehindFcs : Finset ℕ := ∅
  buffer : Dict ℕ BusMonitorSlot := ∅

/-- The messages of the handler, with the values they print. -/
inductive Log where
  | failedToParse
  | emptySlot
  | noDaliFrame (bits raw fc : ℕ)
  | notTrusting (fc raw expected : ℕ)
  /-- "counter jump from `after` to `until_`, `missed` frame(s) missed" -/
  | counterJump (after until_ missed : ℕ)
  | wentBackwards (fc expected : ℕ)
  | resynchronising (fc framesBehind expected : ℕ)
  | discardingBuffered (fcs : List ℕ)
  deriving DecidableEq

/-- What one call logs, and the slots it passes to `_publish`. -/
structure Output where
  log : List Log := []
  published : List BusMonitorSlot := []

/-- The loop of `_take_contiguous`; it takes at most as many slots as the buffer
holds, which is the bound `n` it starts with. -/
def takeContiguousLoop : ℕ → Dict ℕ BusMonitorSlot → ℕ →
    List BusMonitorSlot × Dict ℕ BusMonitorSlot × ℕ
  | 0, buffer, expected => ([], buffer, expected)
  | n + 1, buffer, expected =>
    match buffer.get? expected with
    | none => ([], buffer, expected)
    | some slot =>
      let rest := takeContiguousLoop n (buffer.erase expected)
        ((expected + 1) % frameCounterModulo)
      (slot :: rest.1, rest.2)

/-- `_take_contiguous` -/
def takeContiguous (h : Handler) (expected : ℕ) : List BusMonitorSlot × Handler :=
  let taken := takeContiguousLoop h.buffer.size h.buffer expected
  (taken.1, { h with buffer := taken.2.1, nextExpectedFc := some taken.2.2 })

/-- `_drain_to`, with the expected counter the handler holds. -/
def drainTo (h : Handler) (expected limit : ℕ) : List BusMonitorSlot × Handler :=
  let dist (slot : BusMonitorSlot) := distance expected slot.frameCounter
  let ordered := (h.buffer.values.filter
      fun slot => dist slot < distance expected limit).insertionSort
    fun a b => dist a ≤ dist b
  (ordered,
    { h with
      buffer := ordered.foldl (fun buffer slot => buffer.erase slot.frameCounter) h.buffer
      nextExpectedFc := some limit })

/-- The loop of `_log_counter_jumps` over the counters where a gap ends. -/
def logCounterJumpsLoop : ℕ → List ℕ → List Log
  | _, [] => []
  | gapStart, gapEnd :: gapEnds =>
    (if gapEnd ≠ gapStart then
      [Log.counterJump ((gapStart + (frameCounterModulo - 1)) % frameCounterModulo) gapEnd
        (distance gapStart gapEnd)]
     else []) ++ logCounterJumpsLoop ((gapEnd + 1) % frameCounterModulo) gapEnds

/-- `_log_counter_jumps` -/
def logCounterJumps (expected : ℕ) (drained : List BusMonitorSlot) (limit : ℕ) : List Log :=
  logCounterJumpsLoop expected (drained.map (·.frameCounter) ++ [limit])

/-- `_handle_frame_behind_expected` -/
def handleFrameBehindExpected (h : Handler) (expected : ℕ) (slot : BusMonitorSlot) :
    Handler × Output :=
  let farBehindFcs :=
    if distance slot.frameCounter expected ≤ busMonitorRingSize then ∅
    else insert slot.frameCounter h.farBehindFcs
  if farBehindFcs.card < busMonitorResyncAfterFramesBehind then
    ({ h with farBehindFcs := farBehindFcs },
      { log := [Log.wentBackwards slot.frameCounter expected] })
  else
    ({ nextExpectedFc := some ((slot.frameCounter + 1) % frameCounterModulo) },
      { log := Log.resynchronising slot.frameCounter farBehindFcs.card expected ::
          (if h.buffer.keys = [] then []
           else [Log.discardingBuffered (h.buffer.keys.insertionSort (· ≤ ·))])
        published := [slot] })

/-- `_order_and_publish` -/
def orderAndPublish (h : Handler) (slot : BusMonitorSlot) : Handler × Output :=
  match h.nextExpectedFc with
  | none =>
    if slot.isValid then
      ({ h with nextExpectedFc := some ((slot.frameCounter + 1) % frameCounterModulo) },
        { published := [slot] })
    else (h, {})
  | some expected =>
    let ahead := distance expected slot.frameCounter
    if ahead = 0 then
      let taken := takeContiguous { h with farBehindFcs := ∅ }
        ((slot.frameCounter + 1) % frameCounterModulo)
      (taken.2, { published := slot :: taken.1 })
    else if ahead ≤ busMonitorReorderWindow then
      ({ h with farBehindFcs := ∅, buffer := h.buffer.set slot.frameCounter slot }, {})
    -- must stay below the window check: an invalid slot still reserves its number
    else if !slot.isValid then
      (h, { log := [Log.notTrusting slot.frameCounter slot.rawValue expected] })
    else if ahead < frameCounterModulo / 2 then
      let ringEdge := (slot.frameCounter + (frameCounterModulo - busMonitorReorderWindow))
        % frameCounterModulo
      let drained := drainTo
        { h with farBehindFcs := ∅, buffer := h.buffer.set slot.frameCounter slot }
        expected ringEdge
      let taken := takeContiguous drained.2 ringEdge
      (taken.2,
        { log := logCounterJumps expected drained.1 ringEdge
          published := drained.1 ++ taken.1 })
    else handleFrameBehindExpected h expected slot

/-- The payload of a slot publication, as `get_int_payload` reads it. -/
inductive Payload where
  | empty
  | unparsable
  | int (value : ℤ)
  deriving DecidableEq

structure Message where
  retain : Bool
  payload : Payload
  deriving DecidableEq

/-- `handle` -/
def handle (h : Handler) (message : Message) : Handler × Output :=
  if message.retain then (h, {})
  else
    match message.payload with
    | .empty => (h, {})
    | .unparsable => (h, { log := [.failedToParse] })
    | .int value =>
      match BusMonitorSlot.fromRaw value with
      | none => (h, { log := [.failedToParse] })
      | some slot =>
        if slot.isEmpty then (h, { log := [.emptySlot] })
        else
          let warning :=
            if slot.isValid then []
            else [Log.noDaliFrame slot.frameLength slot.rawValue slot.frameCounter]
          let step := orderAndPublish h slot
          (step.1, { step.2 with log := warning ++ step.2.log })

/-- Whether `_log_frame` raises.  It decodes only the frames it can, with
`from_frame` of python-dali, which is a parameter here. -/
def logFrameRaises (fromFrameRaises : Frame → Bool) (slot : BusMonitorSlot) : Bool :=
  !(slot.isBackward || slot.isBroken || slot.frameLength ∉ decodableFrameBitLengths) &&
    fromFrameRaises slot.buildFrame

/-- `_publish`: the calls of `notify_bus_frame` for the given slots.  A slot
whose frame could not be decoded for the log is reported and skipped. -/
def publish (fromFrameRaises : Frame → Bool) (slots : List BusMonitorSlot) : List (Frame × ℕ) :=
  slots.filterMap fun slot =>
    if !slot.isValid then none
    else if logFrameRaises fromFrameRaises slot then none
    else some (slot.buildFrame, slot.frameCounter)

/-! ### Runs -/

/-- The handler after a stream of slots. -/
def run (slots : List BusMonitorSlot) : Handler :=
  slots.foldl (fun h slot => (orderAndPublish h slot).1) {}

/-- All slots passed to `_publish` on the way, in order. -/
def publishedBy : Handler → List BusMonitorSlot → List BusMonitorSlot
  | _, [] => []
  | h, slot :: slots =>
    (orderAndPublish h slot).2.published ++ publishedBy (orderAndPublish h slot).1 slots

@[simp] lemma run_nil : run [] = {} := rfl

@[simp] lemma run_concat (slots : List BusMonitorSlot) (slot : BusMonitorSlot) :
    run (slots ++ [slot]) = (orderAndPublish (run slots) slot).1 := by
  simp [run]

end WbMqttDali.BusMonitor
