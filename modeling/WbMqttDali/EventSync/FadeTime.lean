import WbMqttDali.EventSync.BusOrder
import WbMqttDali.Lib.Literals
import WbMqttDali.Settings.OnOff
import WbMqttDali.Settings.Params

/-!
# The fade time that an on/off action puts back

An on/off action writes a fade time of its own into the gear and afterwards the
one that was there before, which it takes from a cache.  Reads and writes of the
setting and the frames seen on the bus feed the cache.  It follows the register
of the gear unless a `SetFadeTime` comes whose DTR0 was never seen, or is no
fade time code.
-/

namespace WbMqttDali.EventSync

open Settings Interleaving

/-! ### The bus -/

/-- A frame to gear. -/
inductive FadeFrame
  | command (command : Command)
  | queryFadeTimeFadeRate (address : ℕ)
  deriving DecidableEq, Repr

/-- The gear with the uid is addressed. -/
def DeviceRegistry.Reaches (registry : DeviceRegistry) (destination : GearDestination)
    (uid : Uid) : Prop :=
  ∃ gear ∈ registry.resolve destination, uid = gear.uid

instance (registry : DeviceRegistry) (destination : GearDestination) (uid : Uid) :
    Decidable (registry.Reaches destination uid) :=
  inferInstanceAs (Decidable (∃ gear ∈ registry.resolve destination, uid = gear.uid))

/-- The gear and event sync, which is told of every frame, with the settings of each device. -/
structure FadeBus where
  registry : DeviceRegistry
  /-- The fade time that gear stores for a DTR0. -/
  stored : ℕ → Fin 16
  stored_code : ∀ code : Fin 16, stored code = code
  storedRate : ℕ → Fin 16
  dtr0 : ℕ
  fadeTime : Uid → Fin 16
  fadeRate : Uid → Fin 16
  /-- Its `fadeTimes` are the `_fade_time` of the devices. -/
  sync : Sync
  /-- `_fade_rate` -/
  fadeRates : Uid → Option ℕ
  setting : Uid → OptionalSetting
  /-- A DTR0 frame has been seen. -/
  dtr0Seen : Bool
  /-- A `SetFadeTime` came before any DTR0 frame, or with a DTR0 that is no code. -/
  astray : Bool

namespace FadeBus

/-- What a command does to the registers of the gear. -/
def receive (s : FadeBus) : Command → FadeBus
  | .dtr 0 param => { s with dtr0 := param, dtr0Seen := true }
  | .setFadeTime destination =>
    { s with
      fadeTime := fun uid =>
        if s.registry.Reaches destination uid then s.stored s.dtr0 else s.fadeTime uid
      astray := s.astray || !(s.dtr0Seen && s.dtr0 < 16) }
  | .setFadeRate destination =>
    { s with
      fadeRate := fun uid =>
        if s.registry.Reaches destination uid then s.storedRate s.dtr0 else s.fadeRate uid }
  | _ => s

/-- A frame is received, reported to event sync and applied. -/
def execute (s : FadeBus) : FadeFrame → FadeBus
  | .command command =>
    { s.receive command with sync := applyInOrder s.registry [command] s.sync }
  | .queryFadeTimeFadeRate _ => s

/-- The answer to a query has the fade time in the upper half and the fade rate in the lower. -/
def answer (s : FadeBus) : FadeFrame → ℕ
  | .queryFadeTimeFadeRate address =>
    match s.registry.gearByShort.get? address with
    | some gear => 16 * s.fadeTime gear.uid + s.fadeRate gear.uid
    | none => 0
  | .command _ => 0

end FadeBus

instance : Device FadeBus FadeFrame where
  isQuery
    | .queryFadeTimeFadeRate _ => true
    | .command _ => false
  execute := FadeBus.execute
  answer := FadeBus.answer

/-! ### The fade setting -/

namespace FadeBus

variable (s : FadeBus)

/-- `_fade_time` and `_fade_rate` take an answer. -/
def remember (uid : Uid) (rawValue : ℕ) : FadeBus :=
  { s with
    sync := { s.sync with
      fadeTimes := Function.update s.sync.fadeTimes uid (some (rawValue / 16)) }
    fadeRates := Function.update s.fadeRates uid (some (rawValue % 16)) }

/-- `FadeTimeFadeRateParam.read` -/
def read (address : ℕ) (uid : Uid) (faults : ℕ → ℕ → FrameOutcome) : FadeBus × Except Error Unit :=
  match queryInt s (.queryFadeTimeFadeRate address) faults with
  | (s, .error .noAnswer) =>
    match (s.setting uid).noteAbsent with
    | none => (s, .error .noAnswer)
    | some setting => ({ s with setting := Function.update s.setting uid setting }, .ok ())
  | (s, .error error) => (s, .error error)
  | (s, .ok rawValue) =>
    ({ s.remember uid rawValue with
      setting := Function.update s.setting uid (s.setting uid).noteAnswered }, .ok ())

/-- `DTR0`, whose parameter is a byte. -/
def mkDtr0 (param : ℕ) : Except Error FadeFrame :=
  if param ≤ 255 then .ok (.command (.dtr 0 param)) else .error .other

/-- The `commands` of `write` without the query. -/
def writeCommands (destination : GearDestination) (fadeTimeToSet fadeRateToSet : Option ℕ) :
    Except Error (List FadeFrame) := do
  let setFadeTime ← match fadeTimeToSet with
    | none => pure []
    | some code => do
      let dtr0 ← mkDtr0 code
      pure [dtr0, .command (.setFadeTime destination)]
  let setFadeRate ← match fadeRateToSet with
    | none => pure []
    | some code => do
      let dtr0 ← mkDtr0 code
      pure [dtr0, .command (.setFadeRate destination)]
  return setFadeTime ++ setFadeRate

/-- `FadeTimeFadeRateParam.write` for a single device. -/
def write (address : ℕ) (uid : Uid) (fadeTimeToSet fadeRateToSet : Option ℕ)
    (faults : ℕ → ℕ → FrameOutcome) : FadeBus × Except Error Unit :=
  if (s.setting uid).isAbsent ∨ fadeTimeToSet = none ∧ fadeRateToSet = none then (s, .ok ())
  else if s.sync.fadeTimes uid = fadeTimeToSet ∧ s.fadeRates uid = fadeRateToSet then (s, .ok ())
  else
    match writeCommands (.short address) fadeTimeToSet fadeRateToSet with
    | .error error => (s, .error error)
    | .ok commands =>
      match queryResponses s (commands ++ [.queryFadeTimeFadeRate address]) faults with
      | (s, .error error) => (s, .error error)
      | (s, .ok responses) => (s.remember uid (responses.getLastD .none).asInteger, .ok ())

/-- `FadeTimeFadeRateParam.write` for a group or the whole bus. -/
def writeShared (destination : GearDestination) (fadeTimeToSet fadeRateToSet : Option ℕ)
    (faults : ℕ → ℕ → FrameOutcome) : FadeBus × Except Error Unit :=
  if fadeTimeToSet = none ∧ fadeRateToSet = none then (s, .ok ())
  else
    match writeCommands destination fadeTimeToSet fadeRateToSet with
    | .error error => (s, .error error)
    | .ok commands =>
      match queryResponses s commands faults with
      | (s, .error error) => (s, .error error)
      | (s, .ok _) => (s, .ok ())

end FadeBus

/-! ### On/off actions -/

/-- `_with_fade_time` -/
def withFadeTime (destination : GearDestination) (command : Command) (prior fadeTime : Option ℕ) :
    List Command :=
  match fadeTime with
  | none => [command]
  | some fadeTime =>
    let set := if prior ≠ some fadeTime then [.dtr 0 fadeTime, .setFadeTime destination] else []
    let restore := match prior with
      | some prior => if prior ≠ fadeTime then [.dtr 0 prior, .setFadeTime destination] else []
      | none => []
    set ++ [command] ++ restore

/-- `_on_commands`, with `get_raw_value` of the dimming curve. -/
def onCommands (getRawValue : ℕ → ℕ) (destination : GearDestination) (prior : Option ℕ)
    (action : OnOff.OnAction) : List Command :=
  match action.mode with
  | .scene => [.level (.goToScene (action.scene.getD 0).toNat) destination]
  | .lastActiveLevel =>
    withFadeTime destination (.level .goToLastActiveLevel destination) prior
      (action.fadeTime.map Int.toNat)
  | .level =>
    withFadeTime destination
      (.level (.dapc (getRawValue (action.percent.getD 0).toNat)) destination)
      prior (action.fadeTime.map Int.toNat)
  | .dapc =>
    withFadeTime destination (.level (.dapc (action.value.getD 0).toNat) destination) prior
      (action.fadeTime.map Int.toNat)

/-- `_off_commands` -/
def offCommands (destination : GearDestination) (prior : Option ℕ) (action : OnOff.OffAction) :
    List Command :=
  match action.mode with
  | .off => [.level .off destination]
  | .dapc =>
    withFadeTime destination (.level (.dapc 0) destination) prior (action.fadeTime.map Int.toNat)

/-- `OnOffControl.get_setup_commands`; it raises for any other value. -/
def getSetupCommands (getRawValue : ℕ → ℕ) (config : OnOff.OnOffConfig) (state : ControlState)
    (destination : GearDestination) (prior : Option ℕ) (valueToSet : String) :
    Option (List Command) :=
  if valueToSet ≠ "0" ∧ valueToSet ≠ "1" then none
  else if state.error = .none ∧ state.value = some valueToSet then some []
  else if valueToSet = "1" then some (onCommands getRawValue destination prior config.onAction)
  else some (offCommands destination prior config.offAction)

/-- The switch of a device or a group is set. -/
def FadeBus.execOnOff (s : FadeBus) (commands : Option (List Command))
    (faults : ℕ → ℕ → FrameOutcome) : FadeBus :=
  match commands with
  | none => s
  | some commands => (sendCommandsWithRetry s (commands.map FadeFrame.command) faults).1

/-! ### Runs -/

/-- What a switch is asked for. -/
structure SwitchWrite where
  getRawValue : ℕ → ℕ
  config : OnOff.OnOffConfig
  /-- The state of its control. -/
  state : ControlState
  valueToSet : String

/-- The commands of the write for a destination. -/
def SwitchWrite.commands (write : SwitchWrite) (destination : GearDestination)
    (prior : Option ℕ) : Option (List Command) :=
  getSetupCommands write.getRawValue write.config write.state destination prior write.valueToSet

inductive FadeEvent
  /-- A frame of another sender. -/
  | frame (command : Command)
  | read (address : ℕ) (faults : ℕ → ℕ → FrameOutcome)
  | write (address : ℕ) (fadeTimeToSet fadeRateToSet : Option ℕ) (faults : ℕ → ℕ → FrameOutcome)
  | writeShared (destination : GearDestination) (fadeTimeToSet fadeRateToSet : Option ℕ)
      (faults : ℕ → ℕ → FrameOutcome)
  | onOff (address : ℕ) (write : SwitchWrite) (faults : ℕ → ℕ → FrameOutcome)
  | groupOnOff (group : ℕ) (write : SwitchWrite) (faults : ℕ → ℕ → FrameOutcome)

/-- Gear in any state, and a service that has just started. -/
def fadeTraffic : Transition FadeBus FadeEvent where
  init s := s.sync.dtr = ⟨0, 0, 0⟩ ∧ s.sync.fadeTimes = (fun _ => none) ∧
    s.setting = (fun _ => {}) ∧ s.dtr0Seen = false ∧ s.astray = false
  step s
    | .frame command => some (s.execute (.command command))
    | .read address faults =>
      (s.registry.gearByShort.get? address).map fun gear => (s.read address gear.uid faults).1
    | .write address fadeTimeToSet fadeRateToSet faults =>
      (s.registry.gearByShort.get? address).map fun gear =>
        (s.write address gear.uid fadeTimeToSet fadeRateToSet faults).1
    | .writeShared destination fadeTimeToSet fadeRateToSet faults =>
      some (s.writeShared destination fadeTimeToSet fadeRateToSet faults).1
    | .onOff address write faults =>
      (s.registry.gearByShort.get? address).map fun gear =>
        s.execOnOff (write.commands (.short address) (s.sync.fadeTimes gear.uid)) faults
    | .groupOnOff group write faults =>
      -- a group has no fade time to restore
      some (s.execOnOff (write.commands (.group group) none) faults)

/-- What every step keeps: event sync knows DTR0 once it has seen it, its fade times are those of
the gear unless a frame went astray, and a fade time that was read stays known. -/
structure FadeBus.Follows (s : FadeBus) : Prop where
  mirrored : s.dtr0Seen → s.sync.dtr.dtr0 = s.dtr0
  cached : s.astray = false → ∀ uid, ∀ code ∈ s.sync.fadeTimes uid, code = s.fadeTime uid
  known : ∀ uid, (s.setting uid).everAnswered → (s.sync.fadeTimes uid).isSome

section Frames

variable {registry : DeviceRegistry} {command : Command} {sync : Sync} {s : FadeBus} {uid : Uid}

lemma performAll_frame {segments : List Segment} {c : Cell}
    (h : ∀ segment ∈ segments, c ∉ segment.changes) :
    (Sync.cell c).r (performAll Segment.act segments sync) sync := by
  induction segments generalizing sync with
  | nil => exact (Sync.cell c).refl _
  | cons segment segments ih =>
    rw [performAll_cons]
    exact (Sync.cell c).trans (ih fun segment' h' => h segment' (List.mem_cons_of_mem _ h'))
      (segment.footprint.frame sync c (h segment (by simp)))

lemma Command.exists_dtr {register : Fin 3} {param : ℕ}
    (h : .recordDtr register param ∈ command.segments registry) :
    command = .dtr register param := by
  cases command with
  | level command destination =>
    obtain ⟨gear, -, hgear⟩ := List.mem_flatMap.1 h
    split at hgear <;> simp at hgear
  | _ => simp_all [Command.segments]

lemma Command.exists_setFadeTime {devices : List Gear}
    (h : .setFadeTime devices ∈ command.segments registry) :
    ∃ destination, command = .setFadeTime destination := by
  cases command with
  | level command destination =>
    obtain ⟨gear, -, hgear⟩ := List.mem_flatMap.1 h
    split at hgear <;> simp at hgear
  | _ => simp_all [Command.segments]

/-- A frame that is no DTR write leaves the mirrored registers. -/
lemma applyInOrder_dtr (h : ∀ register param, command ≠ .dtr register param) :
    (applyInOrder registry [command] sync).dtr = sync.dtr := by
  refine performAll_frame (c := .dtr) fun segment hsegment => ?_
  rw [List.flatMap_singleton] at hsegment
  cases segment with
  | recordDtr register param => exact absurd (Command.exists_dtr hsegment) (h register param)
  | _ => simp [Segment.changes, Gear.cells]

/-- A frame that is no `SetFadeTime` leaves the fade times. -/
lemma applyInOrder_fadeTimes (h : ∀ destination, command ≠ .setFadeTime destination) :
    (applyInOrder registry [command] sync).fadeTimes = sync.fadeTimes := by
  funext uid
  refine performAll_frame (c := .fadeTime uid) fun segment hsegment => ?_
  rw [List.flatMap_singleton] at hsegment
  cases segment with
  | setFadeTime devices =>
    obtain ⟨destination, hcommand⟩ := Command.exists_setFadeTime hsegment
    exact absurd hcommand (h destination)
  | _ => simp [Segment.changes, Gear.cells]

/-- `SetFadeTime` writes the mirrored DTR0 down for every device it addresses. -/
lemma applyInOrder_setFadeTime (destination : GearDestination) :
    (applyInOrder registry [.setFadeTime destination] sync).fadeTimes uid =
      if registry.Reaches destination uid then some sync.dtr.dtr0 else sync.fadeTimes uid := by
  split
  case isTrue h => exact foldl_update_of_mem _ _ h
  case isFalse h =>
    exact foldl_update_of_forall_ne _ _ fun gear hgear huid => h ⟨gear, hgear, huid⟩

/-- A frame keeps the invariant, whoever sent it. -/
lemma FadeBus.Follows.execute (h : s.Follows) (frame : FadeFrame) : (s.execute frame).Follows := by
  cases frame with
  | queryFadeTimeFadeRate => exact h
  | command command =>
    cases command with
    | dtr register param =>
      have htimes : (applyInOrder s.registry [.dtr register param] s.sync).fadeTimes =
          s.sync.fadeTimes := rfl
      match register with
      | 0 =>
        refine ⟨fun _ => rfl, fun hastray uid code hcode => ?_, fun uid hread => ?_⟩
        · exact h.cached hastray uid code hcode
        · exact h.known uid hread
      | 1 | 2 => exact ⟨h.mirrored, h.cached, h.known⟩
    | setFadeTime destination =>
      have hdtr : (applyInOrder s.registry [.setFadeTime destination] s.sync).dtr = s.sync.dtr :=
        applyInOrder_dtr fun _ _ => nofun
      refine ⟨fun hseen => ?_, fun hastray uid code hcode => ?_, fun uid hread => ?_⟩
      · show (applyInOrder s.registry [.setFadeTime destination] s.sync).dtr.dtr0 = s.dtr0
        rw [hdtr]
        exact h.mirrored hseen
      · change (s.astray || !(s.dtr0Seen && s.dtr0 < 16)) = false at hastray
        -- a SET FADE TIME behind an unseen DTR0 leads the cache astray
        obtain ⟨hbefore, hcode16⟩ : s.astray = false ∧ (s.dtr0Seen = true ∧ s.dtr0 < 16) := by
          simpa using hastray
        change (applyInOrder s.registry [.setFadeTime destination] s.sync).fadeTimes uid =
          some code at hcode
        show code = ((if s.registry.Reaches destination uid then s.stored s.dtr0
          else s.fadeTime uid : Fin 16) : ℕ)
        rw [applyInOrder_setFadeTime] at hcode
        split at hcode
        · next hreaches =>
          rw [if_pos hreaches, ← Option.some.inj hcode, h.mirrored hcode16.1]
          exact congrArg Fin.val (s.stored_code ⟨s.dtr0, hcode16.2⟩).symm
        · next hreaches =>
          rw [if_neg hreaches]
          exact h.cached hbefore uid code hcode
      · show ((applyInOrder s.registry [.setFadeTime destination] s.sync).fadeTimes uid).isSome
        rw [applyInOrder_setFadeTime]
        split
        · rfl
        · exact h.known uid hread
    | setFadeRate | setTemporary | activate | colourStep | level | other =>
      refine ⟨fun hseen => ?_, fun hastray uid code hcode => ?_, fun uid hread => ?_⟩
      · exact (congrArg DtrSnapshot.dtr0 (applyInOrder_dtr (by rintro _ _ ⟨⟩))).trans
          (h.mirrored hseen)
      · exact h.cached hastray uid code
          ((congrFun (applyInOrder_fadeTimes (by rintro _ ⟨⟩)) uid).symm.trans hcode)
      · exact (congrArg Option.isSome
          (congrFun (applyInOrder_fadeTimes (by rintro _ ⟨⟩)) uid)).trans
          (h.known uid hread)

/-- An answer with the fade time of the gear is remembered. -/
lemma FadeBus.Follows.remember (h : s.Follows) {rawValue : ℕ}
    (hanswer : rawValue / 16 = s.fadeTime uid) : (s.remember uid rawValue).Follows := by
  refine ⟨h.mirrored, fun hastray other code hcode => ?_, fun other hread => ?_⟩
  · change Function.update s.sync.fadeTimes uid (some (rawValue / 16)) other = some code at hcode
    show code = s.fadeTime other
    by_cases hother : other = uid
    · subst hother
      rw [Function.update_self, hanswer] at hcode
      exact (Option.some.inj hcode).symm
    · rw [Function.update_of_ne hother] at hcode
      exact h.cached hastray other code hcode
  · show (Function.update s.sync.fadeTimes uid (some (rawValue / 16)) other).isSome
    by_cases hother : other = uid
    · subst hother
      rw [Function.update_self]
      rfl
    · rw [Function.update_of_ne hother]
      exact h.known other hread

/-- The answer to a query at the end of a completed call. -/
lemma getLastD_of_completes {s' : FadeBus} {commands : List FadeFrame} {address : ℕ} {gear : Gear}
    {responses : List Response}
    (h : Completes s (commands ++ [.queryFadeTimeFadeRate address]) s' responses)
    (hgear : s'.registry.gearByShort.get? address = some gear) :
    (responses.getLastD .none).asInteger / 16 = s'.fadeTime gear.uid := by
  induction commands generalizing s responses with
  | nil =>
    cases h with
    | cons hanswer hrest =>
      cases hrest
      rw [hanswer rfl]
      show FadeBus.answer s (.queryFadeTimeFadeRate address) / 16 = _
      change s.registry.gearByShort.get? address = some gear at hgear
      rw [FadeBus.answer, hgear]
      show (16 * (s.fadeTime gear.uid : ℕ) + s.fadeRate gear.uid) / 16 = s.fadeTime gear.uid
      omega
  | cons command commands ih =>
    cases h with
    | cons hanswer hrest =>
      have hlast := ih hrest
      obtain ⟨first, rest, hfirst⟩ :
          ∃ first rest,
            commands.append [FadeFrame.queryFadeTimeFadeRate address] = first :: rest := by
        cases commands <;> exact ⟨_, _, rfl⟩
      rw [hfirst] at hrest
      cases hrest
      exact hlast

lemma execute_registry (s : FadeBus) (frame : FadeFrame) :
    (s.execute frame).registry = s.registry := by
  cases frame with
  | queryFadeTimeFadeRate => rfl
  | command command =>
    cases command with
    | dtr register param => match register with | 0 | 1 | 2 => rfl
    | _ => rfl

end Frames

section Operations

variable {s : FadeBus} {uid : Uid} {faults : ℕ → ℕ → FrameOutcome}

lemma FadeBus.Follows.queryResponses (h : s.Follows) (commands : List FadeFrame)
    (faults : ℕ → ℕ → FrameOutcome) :
    (queryResponses s commands faults).1.Follows :=
  queryResponses_keeps (fun frame _ _ hs => hs.execute frame) h

lemma queryResponses_registry (s : FadeBus) (commands : List FadeFrame)
    (faults : ℕ → ℕ → FrameOutcome) : (queryResponses s commands faults).1.registry = s.registry :=
  queryResponses_keeps (P := fun s' : FadeBus => s'.registry = s.registry)
    (fun frame _ s' hs => (execute_registry s' frame).trans hs) rfl

/-- What is noted about the setting of a device, when its fade time is known. -/
lemma FadeBus.Follows.note (h : s.Follows) {setting : OptionalSetting}
    (hread : setting.everAnswered → (s.sync.fadeTimes uid).isSome) :
    FadeBus.Follows { s with setting := Function.update s.setting uid setting } := by
  refine ⟨h.mirrored, h.cached, fun other hother => ?_⟩
  change (Function.update s.setting uid setting other).everAnswered = true at hother
  show (s.sync.fadeTimes other).isSome
  by_cases huid : other = uid
  · subst huid
    rw [Function.update_self] at hother
    exact hread hother
  · rw [Function.update_of_ne huid] at hother
    exact h.known other hother

lemma FadeBus.Follows.read (h : s.Follows) {address : ℕ} {gear : Gear}
    (hgear : s.registry.gearByShort.get? address = some gear) :
    (s.read address gear.uid faults).1.Follows := by
  have hfollows := h.queryResponses [.queryFadeTimeFadeRate address] faults
  have hregistry := queryResponses_registry s [.queryFadeTimeFadeRate address] faults
  rcases hquery : Settings.queryResponses s [.queryFadeTimeFadeRate address] faults with
    ⟨s', error | responses⟩
  · have hint : queryInt s (.queryFadeTimeFadeRate address) faults = (s', .error error) := by
      rw [queryInt, hquery]
      rfl
    rw [hquery] at hfollows
    cases error with
    | noAnswer =>
      cases habsent : (s'.setting gear.uid).noteAbsent with
      | none => simpa only [FadeBus.read, hint, habsent] using hfollows
      | some setting =>
        simp only [FadeBus.read, hint, habsent]
        refine hfollows.note fun hanswered => ?_
        rw [OptionalSetting.noteAbsent] at habsent
        split at habsent
        · cases habsent
        · next hnever =>
          obtain rfl := Option.some.inj habsent
          exact absurd hanswered hnever
    | runtime | other => simpa only [FadeBus.read, hint] using hfollows
  · obtain ⟨mid, hcompletes⟩ := queryResponses_returns hquery
    rw [hquery] at hfollows hregistry
    have hanswer := @getLastD_of_completes _ _ [] _ _ _ hcompletes (hregistry ▸ hgear)
    obtain ⟨response, rfl⟩ : ∃ response, responses = [response] := by
      cases hcompletes with
      | cons _ hrest => cases hrest; exact ⟨_, rfl⟩
    have hint : queryInt s (.queryFadeTimeFadeRate address) faults =
        (s', .ok response.asInteger) := by
      rw [queryInt, hquery]
      rfl
    simp only [FadeBus.read, hint]
    refine (hfollows.remember hanswer).note fun _ => ?_
    show (Function.update s'.sync.fadeTimes gear.uid _ gear.uid).isSome
    rw [Function.update_self]
    rfl

lemma FadeBus.Follows.write (h : s.Follows) {address : ℕ} {gear : Gear}
    (hgear : s.registry.gearByShort.get? address = some gear)
    (fadeTimeToSet fadeRateToSet : Option ℕ) :
    (s.write address gear.uid fadeTimeToSet fadeRateToSet faults).1.Follows := by
  rw [FadeBus.write]
  split
  · exact h
  · split
    · exact h
    · split
      · exact h
      · next commands _ =>
        have hfollows := h.queryResponses (commands ++ [.queryFadeTimeFadeRate address]) faults
        have hregistry :=
          queryResponses_registry s (commands ++ [.queryFadeTimeFadeRate address]) faults
        split
        · next hquery => rwa [hquery] at hfollows
        · next hquery =>
          obtain ⟨mid, hcompletes⟩ := queryResponses_returns hquery
          rw [hquery] at hfollows hregistry
          exact hfollows.remember (getLastD_of_completes hcompletes (hregistry ▸ hgear))

lemma FadeBus.Follows.writeShared (h : s.Follows) (destination : GearDestination)
    (fadeTimeToSet fadeRateToSet : Option ℕ) :
    (s.writeShared destination fadeTimeToSet fadeRateToSet faults).1.Follows := by
  rw [FadeBus.writeShared]
  split
  · exact h
  · split
    · exact h
    · next commands _ =>
      have hfollows := h.queryResponses commands faults
      split <;> next hquery => rwa [hquery] at hfollows

lemma FadeBus.Follows.execOnOff (h : s.Follows) (commands : Option (List Command)) :
    (s.execOnOff commands faults).Follows := by
  cases commands with
  | none => exact h
  | some commands => exact sendCommandsWithRetry_keeps (fun frame _ _ hs => hs.execute frame) h

lemma FadeBus.Follows.step (h : s.Follows) {s' : FadeBus} {e : FadeEvent}
    (hstep : fadeTraffic.step s e = some s') : s'.Follows := by
  cases e with
  | frame command =>
    obtain rfl := Option.some.inj hstep
    exact h.execute (.command command)
  | read address faults =>
    obtain ⟨gear, hgear, rfl⟩ := Option.map_eq_some_iff.1 hstep
    exact h.read hgear
  | write address fadeTimeToSet fadeRateToSet faults =>
    obtain ⟨gear, hgear, rfl⟩ := Option.map_eq_some_iff.1 hstep
    exact h.write hgear fadeTimeToSet fadeRateToSet
  | writeShared destination fadeTimeToSet fadeRateToSet faults =>
    obtain rfl := Option.some.inj hstep
    exact h.writeShared destination fadeTimeToSet fadeRateToSet
  | onOff address write faults =>
    obtain ⟨gear, -, rfl⟩ := Option.map_eq_some_iff.1 hstep
    exact h.execOnOff _
  | groupOnOff group write faults =>
    obtain rfl := Option.some.inj hstep
    exact h.execOnOff _

lemma follows_of_reachable (h : fadeTraffic.Reachable s) : s.Follows := by
  refine h.invariant (I := FadeBus.Follows) ?_ fun s e s' hs _ hstep => hs.step hstep
  rintro s ⟨-, htimes, hsetting, hseen, -⟩
  exact ⟨by simp [hseen], by simp [htimes], by simp [hsetting]⟩

end Operations

/-! ### What an on/off action puts back -/

section Restore

variable {s : FadeBus} {uid : Uid} {faults : ℕ → ℕ → FrameOutcome} {destination : GearDestination}
  {commands : List Command} {prior : ℕ}

/-- The commands leave the fade time, or end with putting it back. -/
def Restores (destination : GearDestination) (prior : ℕ) (commands : List Command) : Prop :=
  (∀ d, .setFadeTime d ∉ commands) ∨
    ∃ front, commands = front ++ [.dtr 0 prior, .setFadeTime destination]

lemma restores_withFadeTime {command : Command} (h : ∀ d, command ≠ .setFadeTime d)
    (fadeTime : Option ℕ) :
    Restores destination prior (withFadeTime destination command (some prior) fadeTime) := by
  have hcommand : ∀ d, .setFadeTime d ∉ [command] :=
    fun d hd => h d (List.mem_singleton.1 hd).symm
  cases fadeTime with
  | none => exact .inl hcommand
  | some code =>
    by_cases hsame : prior = code
    · left
      simpa [withFadeTime, hsame] using hcommand
    · right
      exact ⟨[.dtr 0 code, .setFadeTime destination, command], by simp [withFadeTime, hsame]⟩

lemma restores_setupCommands {write : SwitchWrite}
    (h : write.commands destination (some prior) = some commands) :
    Restores destination prior commands := by
  have hlevel : ∀ command : LevelCommand, ∀ d, Command.level command destination ≠ .setFadeTime d :=
    fun _ _ => nofun
  rw [SwitchWrite.commands, getSetupCommands] at h
  split_ifs at h with hvalue hshown hon <;> obtain rfl := Option.some.inj h
  · exact .inl (by simp)
  · rw [onCommands]
    split
    · exact .inl (by simp)
    all_goals exact restores_withFadeTime (hlevel _) _
  · rw [offCommands]
    split
    · exact .inl (by simp)
    · exact restores_withFadeTime (hlevel _) _

lemma execute_fadeTime {command : Command} (h : ∀ d, command ≠ .setFadeTime d) (s : FadeBus) :
    (s.execute (.command command)).fadeTime = s.fadeTime := by
  cases command with
  | dtr register param => match register with | 0 | 1 | 2 => rfl
  | setFadeTime d => exact absurd rfl (h d)
  | _ => rfl

/-- When the last attempt was received as a whole, the fade time is the one that was put back,
whatever the attempts before it have done. -/
lemma fadeTime_execOnOff (hcommands : Restores destination (s.fadeTime uid) commands)
    (huid : s.registry.Reaches destination uid)
    (hlast : Transmitted (commands.map FadeFrame.command)
      (faults (lastAttempt faults (commands.map FadeFrame.command) maxCommandRetries s))) :
    (s.execOnOff (some commands) faults).fadeTime uid = s.fadeTime uid := by
  rcases hcommands with hnone | ⟨front, rfl⟩
  · refine sendCommandsWithRetry_keeps (P := fun s' : FadeBus => s'.fadeTime uid = s.fadeTime uid)
      (fun frame hframe s' hs => ?_) rfl
    obtain ⟨command, hcommand, rfl⟩ := List.mem_map.1 hframe
    refine (congrFun (execute_fadeTime (fun d hd => ?_) s') uid).trans hs
    exact hnone d (hd ▸ hcommand)
  · obtain ⟨mid, hmid, hsent⟩ :=
      exists_lastAttempt (P := fun s' : FadeBus => s'.registry = s.registry)
      (fun frame (_ : frame ∈ (front ++ [Command.dtr 0 (s.fadeTime uid : ℕ),
        .setFadeTime destination]).map FadeFrame.command) s' hs =>
          (execute_registry s' frame).trans hs) rfl
    have hfront : ∀ (frames : List FadeFrame) (t : FadeBus),
        (frames.foldl Device.execute t).registry = t.registry := by
      intro frames
      induction frames with
      | nil => exact fun _ => rfl
      | cons frame frames ih => exact fun t => (ih _).trans (execute_registry t frame)
    show (sendCommandsWithRetry s _ faults).1.fadeTime uid = s.fadeTime uid
    rw [hsent, sendCommands_of_transmitted hlast, List.map_append, List.foldl_append]
    set t := (front.map FadeFrame.command).foldl Device.execute mid with ht
    have hreaches : t.registry.Reaches destination uid := by
      rw [ht, hfront, hmid]
      exact huid
    show (if t.registry.Reaches destination uid then t.stored (s.fadeTime uid) else _) =
      s.fadeTime uid
    rw [if_pos hreaches]
    exact t.stored_code _

/-- The cached fade time is that of the gear, and an on/off action whose last attempt was received
as a whole leaves it as it was. -/
def FadeBus.KeepsFadeTime (s : FadeBus) (uid : Uid) : Prop :=
  s.sync.fadeTimes uid = some (s.fadeTime uid : ℕ) ∧
    ∀ address gear write faults commands s', s.registry.gearByShort.get? address = some gear →
      gear.uid = uid →
      SwitchWrite.commands write (.short address) (s.sync.fadeTimes uid) = some commands →
      Transmitted (commands.map FadeFrame.command)
        (faults (lastAttempt faults (commands.map FadeFrame.command) maxCommandRetries s)) →
      fadeTraffic.step s (.onOff address write faults) = some s' → s'.fadeTime uid = s.fadeTime uid

/-- In a run in which no `SetFadeTime` comes before the first DTR0 frame or with a DTR0 that is no
code, the fade time of gear that has been read once is known, and put back by on/off actions. -/
theorem keepsFadeTime_of_reachable {s : FadeBus} {uid : Uid} (h : fadeTraffic.Reachable s)
    (hastray : s.astray = false) (hread : (s.setting uid).everAnswered) : s.KeepsFadeTime uid := by
  have hfollows := follows_of_reachable h
  obtain ⟨code, hcode⟩ := Option.isSome_iff_exists.1 (hfollows.known uid hread)
  have hcached : s.sync.fadeTimes uid = some (s.fadeTime uid : ℕ) := by
    rw [hcode, hfollows.cached hastray uid code hcode]
  refine ⟨hcached, fun address gear write faults commands s' hgear huid hcommands hlast hstep => ?_⟩
  subst huid
  obtain ⟨gear', hgear', rfl⟩ := Option.map_eq_some_iff.1 hstep
  obtain rfl : gear = gear' := Option.some.inj (hgear.symm.trans hgear')
  rw [hcommands]
  rw [hcached] at hcommands
  refine fadeTime_execOnOff (restores_setupCommands hcommands) ?_ hlast
  exact ⟨gear, by simp [DeviceRegistry.resolve, hgear], rfl⟩

end Restore

/-- One gear with fade time 4, on a bus whose DTR0 was last set to 7. -/
def lateBus : FadeBus where
  registry := ⟨(∅ : Dict ℕ Gear).set 0 ⟨"gear", [], false⟩⟩
  stored code := ⟨min code 15, by omega⟩
  stored_code code := by
    ext
    show min (code : ℕ) 15 = code
    omega
  storedRate code := ⟨min code 15, by omega⟩
  dtr0 := 7
  fadeTime _ := 4
  fadeRate _ := 7
  sync := ⟨⟨0, 0, 0⟩, ⟨fun _ => none, ∅⟩, fun _ => none, fun _ => ⟨[], none, 0, 0, ∅, none⟩,
    fun _ => none⟩
  fadeRates _ := none
  setting _ := {}
  dtr0Seen := false
  astray := false

lemma init_lateBus : fadeTraffic.init lateBus := ⟨rfl, rfl, rfl, rfl, rfl⟩

/-- Another sender writes DTR0 and the fade time while the service watches. -/
theorem keepsFadeTime_watched :
    ∃ s, fadeTraffic.Reachable s ∧ s.fadeTime "gear" = 9 ∧ s.KeepsFadeTime "gear" := by
  have hrun : (fadeTraffic.run (fun _ _ => True) lateBus
      [.read 0 fun _ _ => .received, .frame (.dtr 0 9), .frame (.setFadeTime (.short 0))]).any
        (fun s => s.fadeTime "gear" = 9 ∧ s.astray = false ∧ (s.setting "gear").everAnswered) =
          true := by decide +kernel
  obtain ⟨s, hs, htest⟩ := (Option.any_eq_true _ _).1 hrun
  obtain ⟨hnine, hastray, hread⟩ := of_decide_eq_true htest
  have hreach : fadeTraffic.Reachable s := (Transition.Reach.init init_lateBus).run hs
  exact ⟨s, hreach, hnine, keepsFadeTime_of_reachable hreach hastray hread⟩

/-- The DTR0 of the `SetFadeTime` was written before the service started. -/
theorem not_keepsFadeTime_unseenDtr0 :
    ¬ ∀ s, fadeTraffic.Reachable s → ∀ uid, (s.setting uid).everAnswered → s.KeepsFadeTime uid := by
  intro h
  have hrun : (fadeTraffic.run (fun _ _ => True) lateBus
      [.read 0 fun _ _ => .received, .frame (.setFadeTime (.short 0))]).any
        (fun s => s.fadeTime "gear" = 7 ∧ s.sync.fadeTimes "gear" = some 0 ∧
          (s.setting "gear").everAnswered) = true := by decide +kernel
  obtain ⟨s, hs, htest⟩ := (Option.any_eq_true _ _).1 hrun
  obtain ⟨hseven, hzero, hread⟩ := of_decide_eq_true htest
  have hreach : fadeTraffic.Reachable s := (Transition.Reach.init init_lateBus).run hs
  have hcached := (h s hreach "gear" hread).1
  rw [hzero, hseven] at hcached
  exact absurd (Option.some.inj hcached) (by decide)

end WbMqttDali.EventSync
