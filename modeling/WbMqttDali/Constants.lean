import Mathlib.Data.Nat.Notation

/-!
# Constants

The numbers that several parts of the service share, and the short addresses of the gear.
-/

namespace WbMqttDali

/-- `MASK`: all devices, a level that does not change, and in an answer an unset value. -/
def mask : ℕ := 255

/-- `MASK_2BYTES` -/
def mask2Bytes : ℕ := 65535

/-- `MAX_COMMAND_RETRIES` -/
def maxCommandRetries : ℕ := 3

/-- `MAX_SHORT_ADDRESS` -/
def maxShortAddress : ℕ := 63

/-- `QueryShortAddressResponseValue` of control gear. -/
def queryShortAddressResponseValue (byte : Fin 256) : ℕ :=
  if byte = 255 then mask else byte / 2

/-- `UI_MIN_TC_MIREK`, which is 10000 K. -/
def uiMinTcMirek : ℕ := 100

/-- `UI_MAX_TC_MIREK`, which is 1000 K. -/
def uiMaxTcMirek : ℕ := 1000

end WbMqttDali
