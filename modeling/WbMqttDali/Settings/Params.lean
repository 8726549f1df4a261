import Mathlib
import WbMqttDali.Lib.Transition
import WbMqttDali.Settings.Queries

/-!
# Settings of a gear

The handlers of the scenes, the groups and the numeric settings of one gear, with
the gear they read and write.  A handler keeps what it has read, and `write` sends
commands only for what differs from it.  A `write` that raises has changed the gear
but not what the handler keeps.
-/

namespace WbMqttDali.Settings

/-! ### The gear -/

/-- A gear that stores every value it receives. -/
structure Gear where
  dtr0 : ℕ
  scenes : Fin 16 → ℕ
  groups : Fin 16 → Bool
  /-- the numeric settings, one for each `NumberSettingsParam` -/
  registers : ℕ → ℕ

/-- The commands that the handlers send to the gear. -/
inductive Command where
  | dtr0 (value : ℕ)
  | setScene (scene : Fin 16)
  | querySceneLevel (scene : Fin 16)
  | addToGroup (group : Fin 16)
  | removeFromGroup (group : Fin 16)
  | queryGroupsZeroToSeven
  | queryGroupsEightToFifteen
  | setRegister (register : ℕ)
  | queryRegister (register : ℕ)
  deriving DecidableEq

namespace Gear

def execute (gear : Gear) : Command → Gear
  | .dtr0 value => { gear with dtr0 := value }
  | .setScene scene => { gear with scenes := Function.update gear.scenes scene gear.dtr0 }
  | .addToGroup group => { gear with groups := Function.update gear.groups group true }
  | .removeFromGroup group => { gear with groups := Function.update gear.groups group false }
  | .setRegister register =>
    { gear with registers := Function.update gear.registers register gear.dtr0 }
  | .querySceneLevel _ | .queryGroupsZeroToSeven | .queryGroupsEightToFifteen
  | .queryRegister _ => gear

def answer (gear : Gear) : Command → ℕ
  | .querySceneLevel scene => gear.scenes scene
  | .queryGroupsZeroToSeven => Nat.ofBits fun i : Fin 8 => gear.groups ⟨i, by omega⟩
  | .queryGroupsEightToFifteen => Nat.ofBits fun i : Fin 8 => gear.groups ⟨8 + i, by omega⟩
  | .queryRegister register => gear.registers register
  | _ => 0

end Gear

instance : Device Gear Command where
  isQuery
    | .querySceneLevel _ | .queryGroupsZeroToSeven | .queryGroupsEightToFifteen
    | .queryRegister _ => true
    | _ => false
  execute := Gear.execute
  answer := Gear.answer

/-- `DTR0`, whose argument is one byte. -/
def mkDTR0 (value : ℕ) : Except Error Command :=
  if value ≤ 255 then .ok (.dtr0 value) else .error .other

/-- A gear with nothing set. -/
def blankGear : Gear where
  dtr0 := 0
  scenes := fun _ => mask
  groups := fun _ => false
  registers := fun _ => 0

/-- What happens to the frames of an operation: of each attempt, of each position. -/
abbrev Faults := ℕ → ℕ → FrameOutcome

/-! ### `OptionalSetting` -/

structure OptionalSetting where
  isAbsent : Bool := false
  everAnswered : Bool := false

/-- `note_absent`: `none` where the silence is no absence. -/
def OptionalSetting.noteAbsent (setting : OptionalSetting) : Option OptionalSetting :=
  if setting.everAnswered then none else some { setting with isAbsent := true }

/-- `note_answered` -/
def OptionalSetting.noteAnswered (_setting : OptionalSetting) : OptionalSetting :=
  { isAbsent := false, everAnswered := true }

/-! ### `ScenesParam` -/

structure SceneSetting where
  enabled : Bool := false
  level : ℕ := mask

structure ScenesParam where
  setting : OptionalSetting := {}
  scenes : Fin 16 → ℕ := fun _ => mask
  fetchCursor : ℕ := 0

namespace ScenesParam

/-- `_scenes_to_json` -/
def scenesToJson (param : ScenesParam) : Fin 16 → SceneSetting := fun i =>
  if param.scenes i = mask then { enabled := false, level := 0 }
  else { enabled := true, level := param.scenes i }

/-- `_read_scenes` for the given scenes. -/
def readScenes (param : ScenesParam) (gear : Gear) (indices : List (Fin 16)) (faults : Faults) :
    ScenesParam × Gear × Except Error Unit :=
  match queryResponsesRetryOnlyFailed gear (indices.map .querySceneLevel) faults with
  | (gear, .error error) => (param, gear, .error error)
  | (gear, .ok responses) =>
    ({ param with
        scenes := (indices.zip responses).foldl
          (fun scenes (i, response) =>
            Function.update scenes i (response.getD .none).asInteger) param.scenes },
      gear, .ok ())

/-- `read`: `none` where the gear has no scenes. -/
def read (param : ScenesParam) (gear : Gear) (faults : Faults) :
    ScenesParam × Gear × Except Error (Option (Fin 16 → SceneSetting)) :=
  match param.readScenes gear (List.finRange 16) faults with
  | (param, gear, .error .noAnswer) =>
    match param.setting.noteAbsent with
    | none => (param, gear, .error .noAnswer)
    | some setting => ({ param with setting }, gear, .ok none)
  | (param, gear, .error error) => (param, gear, .error error)
  | (param, gear, .ok ()) =>
    let param := { param with setting := param.setting.noteAnswered, fetchCursor := 16 }
    (param, gear, .ok (some param.scenesToJson))

/-- The levels that `write` sets. -/
def valuesToSet (scenes : Fin 16 → SceneSetting) : Fin 16 → ℕ := fun i =>
  if (scenes i).enabled then (scenes i).level else mask

/-- The commands of `write`, three for each scene that differs. -/
def writeCommands (values : Fin 16 → ℕ) : List (Fin 16) → Except Error (List (List Command))
  | [] => .ok []
  | i :: indexes => do
    let dtr0 ← mkDTR0 (values i)
    let batches ← writeCommands values indexes
    return [dtr0, .setScene i, .querySceneLevel i] :: batches

/-- The scenes whose level differs from the one that was read. -/
def modifiedSceneIndexes (param : ScenesParam) (values : Fin 16 → ℕ) : List (Fin 16) :=
  (List.finRange 16).filter fun i => param.scenes i ≠ values i

/-- `write` for a single device; the result is `none` where nothing was sent. -/
def write (param : ScenesParam) (gear : Gear) (scenes : Option (Fin 16 → SceneSetting))
    (faults : Faults) : ScenesParam × Gear × Except Error (Option (Fin 16 → SceneSetting)) :=
  match scenes with
  | none => (param, gear, .ok none)
  | some scenes =>
    if param.setting.isAbsent then (param, gear, .ok none)
    else
      let values := valuesToSet scenes
      let modified := param.modifiedSceneIndexes values
      match writeCommands values modified with
      | .error error => (param, gear, .error error)
      | .ok batches =>
        if batches = [] then (param, gear, .ok none)
        else
          match queryResponsesRetryFromFirstFailed gear batches.flatten 3 faults with
          | (gear, .error error) => (param, gear, .error error)
          | (gear, .ok responses) =>
            let param := { param with
              scenes := modified.zipIdx.foldl
                (fun scenes (i, idx) =>
                  Function.update scenes i ((responses[idx * 3 + 2]?).getD .none).asInteger)
                param.scenes }
            (param, gear, .ok (some param.scenesToJson))

/-- `scene_level` -/
def sceneLevel (param : ScenesParam) (index : ℕ) : Option ℕ :=
  if h : index < 16 then
    if index ≥ param.fetchCursor || param.scenes ⟨index, h⟩ = mask then none
    else some (param.scenes ⟨index, h⟩)
  -- the cursor does not go beyond the last scene
  else none

end ScenesParam

/-! ### `GroupsParam` -/

structure GroupsParam where
  setting : OptionalSetting := {}
  groups : Fin 16 → Bool := fun _ => false

namespace GroupsParam

/-- The groups that two responses tell. -/
def ofResponses (low high : Response) : Fin 16 → Bool := fun i =>
  if i.val < 8 then low.asInteger.testBit i else high.asInteger.testBit (i - 8)

def queryCommands : List Command := [.queryGroupsZeroToSeven, .queryGroupsEightToFifteen]

/-- `read`: `none` where the gear has no groups. -/
def read (param : GroupsParam) (gear : Gear) (faults : Faults) :
    GroupsParam × Gear × Except Error (Option (Fin 16 → Bool)) :=
  match queryResponsesRetryOnlyFailed gear queryCommands faults with
  | (gear, .error .noAnswer) =>
    match param.setting.noteAbsent with
    | none => (param, gear, .error .noAnswer)
    | some setting => ({ param with setting }, gear, .ok none)
  | (gear, .error error) => (param, gear, .error error)
  | (gear, .ok responses) =>
    let response (k : ℕ) : Response := ((responses[k]?).bind id).getD .none
    let groups := ofResponses (response 0) (response 1)
    ({ setting := param.setting.noteAnswered, groups }, gear, .ok (some groups))

/-- The commands of `write` for the groups that differ. -/
def writeCommands (param : GroupsParam) (groups : Fin 16 → Bool) : List Command :=
  ((List.finRange 16).filter fun i => groups i ≠ param.groups i).map fun i =>
    if groups i then .addToGroup i else .removeFromGroup i

/-- `write` for a single device; the result is `none` where nothing was sent. -/
def write (param : GroupsParam) (gear : Gear) (groups : Option (Fin 16 → Bool))
    (faults : Faults) : GroupsParam × Gear × Except Error (Option (Fin 16 → Bool)) :=
  match groups with
  | none => (param, gear, .ok none)
  | some groups =>
    if param.setting.isAbsent then (param, gear, .ok none)
    else if param.groups = groups then (param, gear, .ok none)
    else
      let commands := param.writeCommands groups
      if commands = [] then (param, gear, .ok none)
      else
        match queryResponsesRetryFromFirstFailed gear (commands ++ queryCommands) 1 faults with
        | (gear, .error error) => (param, gear, .error error)
        | (gear, .ok responses) =>
          let response (k : ℕ) : Response := (responses[commands.length + k]?).getD .none
          let groups := ofResponses (response 0) (response 1)
          ({ param with groups }, gear, .ok (some groups))

end GroupsParam

/-! ### `NumberSettingsParam` -/

/-- A `NumberSettingsParam` whose write commands are `DTR0` and the command that stores it. -/
structure NumberSettingsParam where
  register : ℕ
  multiplier : ℕ := 1
  value : Option ℕ := none

namespace NumberSettingsParam

/-- `get_write_commands` -/
def getWriteCommands (param : NumberSettingsParam) (raw : ℕ) : Except Error (List Command) := do
  let dtr0 ← mkDTR0 raw
  return [dtr0, .setRegister param.register]

/-- `read` -/
def read (param : NumberSettingsParam) (gear : Gear) (faults : Faults) :
    NumberSettingsParam × Gear × Except Error ℕ :=
  match queryInt gear (.queryRegister param.register) faults with
  | (gear, .error error) => (param, gear, .error error)
  | (gear, .ok raw) =>
    let value := raw * param.multiplier
    ({ param with value := some value }, gear, .ok value)

/-- `write` for a single device; the result is `none` where nothing was sent. -/
def write (param : NumberSettingsParam) (gear : Gear) (value : Option ℕ) (faults : Faults) :
    NumberSettingsParam × Gear × Except Error (Option ℕ) :=
  match value with
  | none => (param, gear, .ok none)
  | some valueToSet =>
    if param.value = some valueToSet then (param, gear, .ok none)
    else
      let raw := (valueToSet + param.multiplier / 2) / param.multiplier
      match param.getWriteCommands raw with
      | .error error => (param, gear, .error error)
      | .ok commands =>
        match queryResponses gear (commands ++ [.queryRegister param.register]) faults with
        | (gear, .error error) => (param, gear, .error error)
        | (gear, .ok responses) =>
          let value := (responses.getLastD .none).asInteger * param.multiplier
          ({ param with value := some value }, gear, .ok (some value))

end NumberSettingsParam

end WbMqttDali.Settings
