import Mathlib
import WbMqttDali.BusMonitor.Handler

/-!
# Commands, responses and the frames of the gateway queue

What `WBDALIDriver` sends and what it resolves a send with.  A command of
python-dali appears here with what the driver reads of it: its frame, whether
the frame is sent twice, and whether it has a response class.
-/

namespace WbMqttDali.Driver

open BusMonitor (Frame)

/-- `FramePriority` -/
inductive FramePriority where
  | transactionContinuation
  | userAction
  | configuration
  | automatic
  | periodicQuery
  deriving DecidableEq

def FramePriority.value : FramePriority → ℕ
  | transactionContinuation => 1
  | userAction => 2
  | configuration => 3
  | automatic => 4
  | periodicQuery => 5

/-- `BusTrafficSource` -/
inductive BusTrafficSource where
  | bus
  | wb
  | lunatone
  deriving DecidableEq

lemma BusTrafficSource.wb_ne_bus : BusTrafficSource.wb ≠ .bus := by decide

/-- A DALI command.  Only frames that the gateway can send reach the driver:
python-dali has 16-bit and 24-bit commands and the Lunatone emulator refuses
every length but 16, 24 and 25. -/
structure Command where
  frame : Frame
  sendtwice : Bool
  hasResponseClass : Bool
  frame_length : frame.length = 16 ∨ frame.length = 24 ∨ frame.length = 25
  deriving DecidableEq

/-- The frame size bits of `encode_frame_for_modbus`, which raises `ValueError`
for every other length. -/
def frameSize (frameLen : ℕ) : Option ℕ :=
  if frameLen = 16 then some 0
  else if frameLen = 24 then some 1
  else if frameLen = 25 then some 2
  else none

/-- `encode_frame_for_modbus` -/
def encodeFrameForModbus (daliFrame : Frame) (sendtwice : Bool) (priority : FramePriority) :
    Option ℕ :=
  (frameSize daliFrame.length).map fun size =>
    (daliFrame.data &&& 0x1FFFFFF) ||| ((size &&& 0x7) <<< 25) |||
      (if sendtwice then 1 <<< 28 else 0) ||| ((priority.value &&& 0x7) <<< 29)

/-- The driver never meets the `ValueError` of the encoder. -/
lemma Command.encode_isSome (command : Command) (priority : FramePriority) :
    (encodeFrameForModbus command.frame command.sendtwice priority).isSome := by
  rcases command.frame_length with h | h | h <;> simp [encodeFrameForModbus, frameSize, h]

/-- The register value of a command in the gateway queue. -/
def Command.encoded (command : Command) (priority : FramePriority) : ℕ :=
  (encodeFrameForModbus command.frame command.sendtwice priority).get
    (command.encode_isSome priority)

/-! ### Responses -/

/-- The backward frame a response is built from: `BackwardFrame` or `BackwardFrameError`. -/
inductive Answer where
  | backwardFrame (byte : ℕ)
  | backwardFrameError (byte : ℕ)
  deriving DecidableEq

/-- What a send is resolved with: a response of the command's own class or of
the plain `Response`, or one of the transmission errors. -/
inductive Response where
  | ofClass (raw : Option Answer)
  | plain (raw : Option Answer)
  | wbGatewayTransmissionError
  | noResponseFromGateway
  | noTransmission
  | noPowerOnBus
  | transmissionCancelled
  | transmissionFailed
  | overheat
  | unknownResponseStatus
  | gatewayUnavailable
  deriving DecidableEq

/-- The text of a `WbGatewayTransmissionError`, and `none` for every other response. -/
def Response.transmissionError : Response → Option String
  | ofClass _ | plain _ => none
  | wbGatewayTransmissionError => some "transmission error"
  | noResponseFromGateway => some "no response from gateway"
  | noTransmission => some "no transmission, internal gateway error"
  | noPowerOnBus => some "no power on bus"
  | transmissionCancelled => some "transmission cancelled"
  | transmissionFailed => some "gateway failed to send the frame"
  | overheat => some "gateway overheated"
  | unknownResponseStatus => some "unknown response status"
  | gatewayUnavailable => some "gateway unavailable"

/-- `is_transmission_error_response` -/
def isTransmissionErrorResponse : Option Response → Bool
  | none => false
  | some response => response.transmissionError.isSome

/-- `GatewayReplyStatus` -/
inductive GatewayReplyStatus where
  | unknown
  | noTransmission
  | backwardFrame
  | noBackwardFrame
  | brokenBackwardFrame
  | noPowerOnBus
  | overheat
  | legacyBrokenBackwardFrame
  | transmissionFailed
  deriving DecidableEq

def GatewayReplyStatus.ofByte : ℕ → GatewayReplyStatus
  | 0 => noTransmission
  | 1 => backwardFrame
  | 2 => noBackwardFrame
  | 3 => brokenBackwardFrame
  | 4 => noPowerOnBus
  | 5 => overheat
  | 6 => legacyBrokenBackwardFrame
  | 7 => transmissionFailed
  | _ => unknown

/-- `command.response(raw)` where the command has a response class, else `Response(raw)`. -/
def Command.respond (command : Command) (raw : Option Answer) : Response :=
  if command.hasResponseClass then .ofClass raw else .plain raw

/-- The low byte of a reply. -/
def backwardFrameByte (resp : ℤ) : ℕ := (resp % 256).toNat

/-- The status byte of a reply. -/
def statusOf (resp : ℤ) : GatewayReplyStatus :=
  GatewayReplyStatus.ofByte ((resp / 256) % 256).toNat

/-- The response that `_handle_reply_message` builds from a parsed payload. -/
def Command.responseTo (command : Command) (resp : ℤ) : Response :=
  match statusOf resp with
  | .noTransmission => .noTransmission
  | .backwardFrame => command.respond (some (.backwardFrame (backwardFrameByte resp)))
  | .noBackwardFrame => command.respond none
  | .brokenBackwardFrame | .legacyBrokenBackwardFrame =>
    command.respond (some (.backwardFrameError (backwardFrameByte resp)))
  | .noPowerOnBus => .noPowerOnBus
  | .overheat => .overheat
  | .transmissionFailed => .transmissionFailed
  | .unknown => .unknownResponseStatus

end WbMqttDali.Driver
