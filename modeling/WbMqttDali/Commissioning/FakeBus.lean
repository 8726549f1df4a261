import WbMqttDali.Commissioning.BinarySearch
import WbMqttDali.Commissioning.SearchAddress
import WbMqttDali.Commissioning.ShortPool

/-!
# A bus of devices

The bus that the tests of the commissioning use, with the devices one by one: there may be some
without a short address and some that share one.  Answers at the same time merge as on a real
bus, into one where they are identical and into a framing error where they differ.
-/

namespace WbMqttDali.Commissioning

open SmartExtend (Layer Response)

inductive Command where
  /-- QUERY CONTROL GEAR PRESENT, or QUERY DEVICE STATUS of a control device -/
  | queryPresent (short : ℕ)
  | queryRandomAddress (part : AddressPart) (short : ℕ)
  | search (frame : Frame)
  | terminate
  | initialise (short : Option ℕ)
  | randomise
  | programShortAddress (short : ℕ)
  | verifyShortAddress (short : ℕ)
  deriving DecidableEq, Repr

structure FakeDevice where
  short : Option ℕ
  random : ℕ
  initialised : Bool := false
  withdrawn : Bool := false
  deriving DecidableEq, Repr

/-- The answer to QUERY SHORT ADDRESS. -/
def SmartExtend.Layer.shortAddressByte : Layer → Option ℕ → Fin 256
  | _, none => 255
  | .gear, some short => Fin.ofNat 256 (short <<< 1 ||| 1)
  | .controlDevice, some short => Fin.ofNat 256 short

namespace FakeDevice

variable (device : FakeDevice)

/-- The device is in the search, and the search address is its random address. -/
def isSelected (search : Option ℕ) : Bool := device.initialised && search = some device.random

/-- The device answers a COMPARE. -/
def isCompared (search : Option ℕ) : Bool :=
  device.initialised && !device.withdrawn && search.any fun search => device.random ≤ search

def answer (layer : Layer) (search : Option ℕ) : Command → Option (Fin 256)
  | .queryPresent short => if device.short = some short then some 255 else none
  | .queryRandomAddress part short =>
    if device.short = some short then some (Fin.ofNat 256 (addressByte device.random part))
    else none
  | .search .compare => if device.isCompared search then some 255 else none
  | .search .queryShortAddress =>
    -- WITHDRAW mutes COMPARE only
    if device.isSelected search then some (layer.shortAddressByte device.short) else none
  | .verifyShortAddress short =>
    if device.initialised ∧ device.short = some short then some 255 else none
  | _ => none

/-- What a command other than RANDOMISE does to a device. -/
def receive (search : Option ℕ) : Command → FakeDevice
  | .search .withdraw =>
    if device.isSelected search then { device with withdrawn := true } else device
  | .terminate => { device with initialised := false, withdrawn := false }
  | .initialise short =>
    if short = some mask ∨ device.short = short then { device with initialised := true } else device
  | .programShortAddress short =>
    if device.isSelected search then
      { device with short := if short = mask then none else some short }
    else device
  | _ => device

/-- RANDOMISE is accepted by every initialised device, withdrawn or not. -/
def randomiseAll : ℕ → List FakeDevice → List FakeDevice × ℕ
  | nextRandom, [] => ([], nextRandom)
  | nextRandom, device :: devices =>
    if device.initialised then
      let rest := randomiseAll (nextRandom + 1) devices
      ({ device with random := nextRandom } :: rest.1, rest.2)
    else
      let rest := randomiseAll nextRandom devices
      (device :: rest.1, rest.2)

end FakeDevice

/-- `_respond` -/
def respond : List (Fin 256) → Response
  | [] => .silence
  | answer :: answers =>
    if answers.all fun other => other = answer then .answer answer else .framingError

/-- A framing error counts as an answer. -/
def SmartExtend.Response.isAnswer : Response → Bool
  | .silence => false
  | _ => true

structure FakeBus where
  devices : List FakeDevice
  searchAddr : AddressPart → Option ℕ := fun _ => none
  nextRandom : ℕ := 0x200000

namespace FakeBus

variable (bus : FakeBus) (layer : Layer)

/-- `_search` -/
def search : Option ℕ := do
  let high ← bus.searchAddr .high
  let medium ← bus.searchAddr .medium
  let low ← bus.searchAddr .low
  return high <<< 16 ||| medium <<< 8 ||| low

def receive : Command → FakeBus
  | .search (.setSearchAddr part value) =>
    { bus with searchAddr := Function.update bus.searchAddr part (some value) }
  | .randomise =>
    { bus with
      devices := (FakeDevice.randomiseAll bus.nextRandom bus.devices).1
      nextRandom := (FakeDevice.randomiseAll bus.nextRandom bus.devices).2 }
  | command =>
    { bus with devices := bus.devices.map fun device => device.receive bus.search command }

def response (command : Command) : Response :=
  respond (bus.devices.filterMap fun device => device.answer layer bus.search command)

/-- The bus behind the commands. -/
def receiveAll (commands : List Command) : FakeBus := commands.foldl receive bus

/-- The responses to the commands. -/
def responses (layer : Layer) : FakeBus → List Command → List Response
  | _, [] => []
  | bus, command :: commands =>
    bus.response layer command :: responses layer (bus.receive command) commands

end FakeBus

end WbMqttDali.Commissioning
