import Mathlib
import WbMqttDali.Lib.Dict
import WbMqttDali.Lib.Tokens

/-!
# Commands and their registry

The registry names the command classes of the DALI library, with what their constructors take.
It is built from the classes that are found in the modules of the library and from tables of
special commands; a second table leads from a class back to its name.
-/

namespace WbMqttDali.SendCommand

open Tokens

/-- A text as the list of its characters. -/
abbrev Text := List Char

/-! ### The kinds of commands -/

inductive InstanceMode where
  | disallowed
  | required
  | optional
  deriving DecidableEq, Repr

inductive AddressKind where
  | gear
  | device
  deriving DecidableEq, Repr

inductive CommandKind where
  | gearStandard
  | gearSpecial
  | gearCommissioning
  | deviceStandard
  | deviceInstance
  | deviceFeature
  | deviceSpecial
  deriving DecidableEq, Repr

structure KindTraits where
  addressKind : Option AddressKind
  needsAddress : Bool
  instanceMode : InstanceMode

/-- `_KIND_TRAITS` -/
def CommandKind.traits : CommandKind → KindTraits
  | .gearStandard => ⟨some .gear, true, .disallowed⟩
  | .gearSpecial => ⟨none, false, .disallowed⟩
  -- the short address of these commands is an argument, not a destination
  | .gearCommissioning => ⟨none, false, .disallowed⟩
  | .deviceStandard => ⟨some .device, true, .disallowed⟩
  | .deviceInstance => ⟨some .device, true, .required⟩
  | .deviceFeature => ⟨some .device, true, .optional⟩
  | .deviceSpecial => ⟨none, false, .disallowed⟩

/-- What the parser and the formatter know about a command class. -/
structure CommandInfo (Cls : Type) where
  cls : Cls
  kind : CommandKind
  deviceType : ℕ
  needsData : Bool
  displayName : Text
  deriving DecidableEq, Repr

/-! ### Commands -/

/-- A destination of gear or of control devices. -/
inductive Destination where
  | short (address : ℕ)
  | group (number : ℕ)
  | broadcast
  | broadcastUnaddressed
  deriving DecidableEq, Repr

/-- What an instance command addresses in a control device. -/
inductive Instance where
  | number (value : ℕ)
  | group (value : ℕ)
  | type (value : ℕ)
  | broadcast
  | featureNumber (value : ℕ)
  | featureGroup (value : ℕ)
  | featureType (value : ℕ)
  | featureBroadcast
  | featureDevice
  | device
  | reserved (byte : ℕ)
  deriving DecidableEq, Repr

/-- The argument of Initialise, ProgramShortAddress and VerifyShortAddress. -/
inductive CommissioningArg where
  | broadcast
  | shortAddress (address : ℕ)
  | noShortAddress
  deriving DecidableEq, Repr

/-- What a command is built from. -/
inductive Arguments where
  | standard (destination : Destination) (data : Option ℕ)
  | onInstance (destination : Destination) (inst : Instance)
  | special (data : Option ℕ)
  | commissioning (arg : CommissioningArg)
  deriving DecidableEq, Repr

structure Command (Cls : Type) where
  cls : Cls
  arguments : Arguments
  deriving DecidableEq, Repr

/-! ### Frames -/

/-- The address byte; its lowest bit is cleared in a DAPC frame. -/
def Destination.byte : Destination → ℕ
  | .short address => 2 * address + 1
  | .group number => 0x80 + 2 * number + 1
  | .broadcast => 0xFF
  | .broadcastUnaddressed => 0xFD

/-- The instance byte. -/
def Instance.byte : Instance → ℕ
  | .number value => value
  | .featureNumber value => 0x20 + value
  | .featureType value => 0x60 + value
  | .group value => 0x80 + value
  | .featureGroup value => 0xA0 + value
  | .type value => 0xC0 + value
  | .featureDevice => 0xFC
  | .featureBroadcast => 0xFD
  | .device => 0xFE
  | .broadcast => 0xFF
  | .reserved byte => byte

/-- A class that `_collect_commands` finds in a module, under its name there. -/
structure Collected (Cls : Type) where
  name : Text
  cls : Cls
  hasparam : Bool

/-- The DALI library, with the command modules of the service. -/
structure Library (Cls : Type) where
  /-- the standard commands of `gear.general` -/
  gearStandard : List (Collected Cls)
  /-- those of the module of a device type -/
  gearOfType : ℕ → List (Collected Cls)
  deviceStandard : List (Collected Cls)
  deviceInstance : List (Collected Cls)
  deviceOfType : ℕ → List (Collected Cls)
  deviceFeature : ℕ → List (Collected Cls)
  /-- the classes of `gear.general` and of `device.general` by name -/
  gearGeneral : Text → Cls
  deviceGeneral : Text → Cls
  /-- The constructor takes the data. -/
  accepts : Cls → ℕ → Bool
  /-- the attribute `value` of an instance, if it has one -/
  value : Instance → Option ℕ
  /-- the attribute `devicetype` -/
  deviceType : Cls → ℕ
  /-- the rest of the frame -/
  opcode : Cls → Option ℕ → ℕ
  commissioningOpcode : Cls → CommissioningArg → ℕ

structure Frame where
  address : Option ℕ
  inst : Option ℕ
  opcode : ℕ
  deriving DecidableEq, Repr

section Registry

variable {Cls : Type} (lib : Library Cls)

def Command.frame (command : Command Cls) : Frame :=
  match command.arguments with
  | .standard destination data => ⟨some destination.byte, none, lib.opcode command.cls data⟩
  | .onInstance destination inst =>
    ⟨some destination.byte, some inst.byte, lib.opcode command.cls none⟩
  | .special data => ⟨none, none, lib.opcode command.cls data⟩
  | .commissioning arg => ⟨none, none, lib.commissioningOpcode command.cls arg⟩

/-! ### The registry -/

/-- The special commands of gear, and whether they take data. -/
def gearSpecials : List (String × Bool) :=
  [("Compare", false), ("DTR0", true), ("DTR1", true), ("DTR2", true), ("EnableDeviceType", true),
    ("Ping", false), ("QueryShortAddress", false), ("Randomise", false), ("SetSearchAddrH", true),
    ("SetSearchAddrL", true), ("SetSearchAddrM", true), ("Terminate", false), ("Withdraw", false)]

def gearCommissioning : List String := ["Initialise", "ProgramShortAddress", "VerifyShortAddress"]

/-- The special commands of control devices, without the first segment of their names. -/
def deviceSpecials : List (String × Bool) :=
  [("Compare", false), ("DTR0", true), ("DTR1", true), ("DTR2", true), ("Initialise", true),
    ("ProgramShortAddress", true), ("QueryShortAddress", false), ("Randomise", false),
    ("SearchAddrH", true), ("SearchAddrL", true), ("SearchAddrM", true), ("Terminate", false),
    ("VerifyShortAddress", true), ("Withdraw", false)]

/-- The device types whose gear commands are registered. -/
def gearTypes : List ℕ := [1, 4, 5, 6, 7, 8, 16, 17, 20, 21, 49]

/-- The instance types whose commands are registered. -/
def instanceTypes : List ℕ := [1, 2, 3, 4, 6]

/-- The type of `feedback` -/
def featureTypes : List ℕ := [32]

/-- A row of the registry for a class that was found in a module. -/
def collectedInfo (kind : CommandKind) (deviceType : ℕ) (segments : Text) (found : Collected Cls) :
    CommandInfo Cls :=
  { cls := found.cls, kind, deviceType, needsData := found.hasparam,
    displayName := segments ++ found.name }

/-- The segments in front of the names of a device type or a feature type. -/
def typeSegments (letters : String) (number : ℕ) : Text :=
  letters.toList ++ decimal number ++ ['.']

/-- The rows of the registry in the order in which they are entered. -/
def registryRows : List (CommandInfo Cls) :=
  (lib.gearStandard.filter (·.name ≠ "UnknownGearCommand".toList)).map
    (collectedInfo .gearStandard 0 []) ++
  [⟨lib.gearGeneral "DAPC".toList, .gearStandard, 0, true, "DAPC".toList⟩] ++
  gearSpecials.map (fun row =>
    ⟨lib.gearGeneral row.1.toList, .gearSpecial, 0, row.2, row.1.toList⟩) ++
  gearCommissioning.map (fun name =>
    ⟨lib.gearGeneral name.toList, .gearCommissioning, 0, false, name.toList⟩) ++
  gearTypes.flatMap (fun number => (lib.gearOfType number).map
    (collectedInfo .gearStandard number (typeSegments "DT" number))) ++
  (lib.deviceStandard.filter (·.name ≠ "UnknownDeviceCommand".toList)).map
    (collectedInfo .deviceStandard 0 "FF24.".toList) ++
  lib.deviceInstance.map (collectedInfo .deviceInstance 0 "FF24.".toList) ++
  instanceTypes.flatMap (fun number => (lib.deviceOfType number).map
    (collectedInfo .deviceInstance 0 (typeSegments "FF24.DT" number))) ++
  featureTypes.flatMap (fun number => (lib.deviceFeature number).map
    (collectedInfo .deviceFeature 0 (typeSegments "FF24.F" number))) ++
  deviceSpecials.map (fun row =>
    ⟨lib.deviceGeneral row.1.toList, .deviceSpecial, 0, row.2, "FF24.".toList ++ row.1.toList⟩)

abbrev Registry (Cls : Type) := Dict Text (CommandInfo Cls)

/-- `build_command_registry` -/
def buildCommandRegistry : Registry Cls :=
  (registryRows lib).foldl (fun registry info => registry.set info.displayName info) ∅

variable [DecidableEq Cls]

/-- One turn of the loop over the registry: of two names of a class the longer one stays. -/
def enterReverse (reverse : Dict Cls (CommandInfo Cls)) (info : CommandInfo Cls) :
    Dict Cls (CommandInfo Cls) :=
  match reverse.get? info.cls with
  | none => reverse.set info.cls info
  | some existing =>
    if existing.displayName.length < info.displayName.length then reverse.set info.cls info
    else reverse

/-- The reverse table of `_formatting_tables` -/
def reverseTable (registry : Registry Cls) : Dict Cls (CommandInfo Cls) :=
  registry.values.foldl enterReverse ∅

/-! ### What is in the tables -/

variable {lib} {registry : Registry Cls} {name : Text} {cls : Cls} {info : CommandInfo Cls}

omit [DecidableEq Cls] in
/-- A row is found under its display name only. -/
lemma mem_rows_of_get? (h : (buildCommandRegistry lib).get? name = some info) :
    info ∈ registryRows lib ∧ info.displayName = name := by
  rw [buildCommandRegistry, Dict.get?_foldl_set_last CommandInfo.displayName (fun info => info),
    Dict.get?_empty, Option.or_none] at h
  obtain ⟨row, hrow, rfl⟩ := Option.map_eq_some_iff.1 h
  have hname := List.find?_some hrow
  exact ⟨List.mem_reverse.1 (List.mem_of_find?_eq_some hrow), by simpa using hname⟩

/-- The entries of the reverse table are rows that were entered, each under its class. -/
lemma get?_foldl_enterReverse {rows : List (CommandInfo Cls)} {reverse : Dict Cls (CommandInfo Cls)}
    (h : (rows.foldl enterReverse reverse).get? cls = some info) :
    reverse.get? cls = some info ∨ (info ∈ rows ∧ info.cls = cls) := by
  induction rows generalizing reverse with
  | nil => exact .inl h
  | cons row rows ih =>
    have hset : (reverse.set row.cls row).get? cls = some info →
        reverse.get? cls = some info ∨ (info ∈ row :: rows ∧ info.cls = cls) := by
      intro hget
      rw [Dict.get?_set] at hget
      split at hget
      case isTrue heq =>
        cases Option.some.inj hget
        exact .inr ⟨List.mem_cons_self, heq.symm⟩
      case isFalse => exact .inl hget
    rcases ih h with hget | ⟨hmem, hcls⟩
    · rw [enterReverse] at hget
      split at hget
      · exact hset hget
      · split at hget
        · exact hset hget
        · exact .inl hget
    · exact .inr ⟨List.mem_cons_of_mem _ hmem, hcls⟩

/-- The reverse table leads to a row of the registry, for the class. -/
lemma get?_of_reverseTable (h : (reverseTable (buildCommandRegistry lib)).get? cls = some info) :
    info ∈ registryRows lib ∧ (buildCommandRegistry lib).get? info.displayName = some info ∧
      info.cls = cls := by
  rcases get?_foldl_enterReverse h with hget | ⟨hmem, hcls⟩
  · rw [Dict.get?_empty] at hget
    cases hget
  · obtain ⟨name, hget⟩ := Dict.mem_values_iff.1 hmem
    obtain ⟨hrow, rfl⟩ := mem_rows_of_get? hget
    exact ⟨hrow, hget, hcls⟩

end Registry

end WbMqttDali.SendCommand
