import Mathlib
import WbMqttDali.Device.ParamsCache

/-!
# Parameters written to a group or to the whole bus

The settings of a group go out through one handler for each class of settings, whichever
member it belongs to.  When all writes have returned, every member whose own handlers see a
change forgets its parameters, to read them again.  A write that raises ends the task
before that, and leaves the parameters as they were.
-/

namespace WbMqttDali.GroupParameters

open Handlers
open Settings (Error)

variable {V : Type}

/-! ### What the handlers of a device see -/

section Handlers

variable [DecidableEq V]

/-- `has_changes` of a handler of a device. -/
def hasChanges (newParams : Values V) : Handler V → Bool
  | .settingsParam param state =>
    (param.keys.any fun key => (newParams.get? key).any (·.plain?.isNone)) ||
      param.hasChanges state.cache fun key => (newParams.get? key).bind Value.plain?
  | .settingsParamGroup group =>
    match newParams.get? group.propertyName with
    | some (.card fields) =>
      group.parameters.any fun (param, state) => param.hasChanges state.cache fields.get?
    | _ => false
  | .tcLimitsSettings limits =>
    (newParams.get? "tc_limits").any (· ≠ .tcLimits limits.currentValues)
  | .onOffSettingsParam _ => (newParams.get? "on_off").isSome

/-- What a handler has cached of what the gear holds, by key. -/
def cached : Handler V → Values V
  | .settingsParam param state => (param.json state.cache).mapValues .plain
  | .settingsParamGroup group => Dict.set ∅ group.propertyName (.card group.cachedValue)
  | .tcLimitsSettings limits => Dict.set ∅ "tc_limits" (.tcLimits limits.currentValues)
  -- the on/off block is a setting of the service, not of the gear
  | .onOffSettingsParam _ => ∅

end Handlers

/-! ### The members and the bus -/

/-- A handler of `get_group_parameter_handlers`; one without a property name has "". -/
structure GroupHandler where
  typeName : String
  propertyName : String
  deriving DecidableEq, Repr

/-- What a read of a gear would return, by key. -/
abbrev Gear (V : Type) := String → Option (Value V)

/-- A device that a group or broadcast write addresses. -/
structure Member (V : Type) where
  isInitialized : Bool
  parameterHandlers : List (Handler V)
  groupParameterHandlers : List GroupHandler
  /-- None stands for the empty dictionary. -/
  params : Option (Values V)
  gear : Gear V

/-- What becomes of the write of one handler: what its frames make of the gear of each member, and
whether it raises.  A write that raises may have left some frames on the bus. -/
structure WriteOutcome (V : Type) where
  land : ℕ → Gear V → Gear V
  raises : Bool

/-- The handlers that write, one for each class and property. -/
def memberGroupHandlers (members : List (Member V)) : List GroupHandler :=
  members.foldl (fun handlers member =>
    if member.isInitialized then
      member.groupParameterHandlers.foldl (fun handlers handler =>
        if handler ∈ handlers then handlers else handlers ++ [handler]) handlers
    else handlers) []

/-- The members after the frames of a write. -/
def landAll (outcome : WriteOutcome V) (members : List (Member V)) : List (Member V) :=
  members.mapIdx fun place member => { member with gear := outcome.land place member.gear }

/-- The loop over the handlers, up to the first write that raises.  A write to more than one
device keeps nothing. -/
def writeAll : List GroupHandler → (ℕ → WriteOutcome V) → List (Member V) →
    List (Member V) × Bool
  | [], _, members => (members, false)
  | _ :: handlers, outcomes, members =>
    let members := landAll (outcomes 0) members
    if (outcomes 0).raises then (members, true)
    else writeAll handlers (fun n => outcomes (n + 1)) members

/-! ### The tasks -/

section Tasks

variable [DecidableEq V]

/-- `sync_controls_after_broadcast`: handlers that controls are built from are read again, and
the parameters are dropped. -/
def Member.sync (newParams : Values V) (answers : ℕ → BusAnswers V) (member : Member V) :
    Member V :=
  let handlers := member.parameterHandlers.mapIdx fun n handler =>
    if hasChanges newParams handler && handler.requiresMqttControlsRefresh then
      (handler.read (answers n)).1
    else handler
  { member with
    parameterHandlers := handlers
    params := if member.parameterHandlers.any (hasChanges newParams) then none else member.params }

/-- The loop over the members behind the writes. -/
def syncAll (newParams : Values V) (answers : ℕ → ℕ → BusAnswers V) (members : List (Member V)) :
    List (Member V) :=
  members.mapIdx fun place member =>
    if member.isInitialized then member.sync newParams (answers place) else member

/-- The arguments of the two tasks. -/
inductive BroadcastTask (V : Type) where
  /-- `_apply_group_parameters_task`, with the on/off setting of the group -/
  | group (newParams : Values V) (onOffParam : OnOffSettingsParam)
  /-- `_apply_bus_parameters_task` -/
  | bus (newParams : Values V)

/-- What goes on the bus; for a group these are the `gear_params_only`. -/
def BroadcastTask.gearParams : BroadcastTask V → Values V
  | .group newParams _ => newParams.erase "on_off"
  | .bus newParams => newParams

/-- What follows the writes of the handlers: a group writes its own on/off setting, which raises
where it is not valid. -/
def BroadcastTask.ownWriteRaises : BroadcastTask V → Bool
  | .group newParams onOffParam => (onOffParam.write newParams).2.toOption.isNone
  | .bus _ => false

/-- The members after a task, and whether it has raised. -/
def BroadcastTask.run (task : BroadcastTask V) (outcomes : ℕ → WriteOutcome V)
    (answers : ℕ → ℕ → BusAnswers V) (members : List (Member V)) : List (Member V) × Bool :=
  match writeAll (memberGroupHandlers members) outcomes members with
  | (members, true) => (members, true)
  | (members, false) =>
    if task.ownWriteRaises then (members, true)
    else (syncAll task.gearParams answers members, false)

/-! ### What it means that a member is not stale -/

/-- The parameters or the cache of a handler have a value for the key. -/
def Member.Shows (member : Member V) (key : String) (value : Value V) : Prop :=
  (∃ params, member.params = some params ∧ params.get? key = some value) ∨
    ∃ handler ∈ member.parameterHandlers, (cached handler).get? key = some value

/-- The parameters are read again before the next edit, or what there is for the keys of a request
is what the gear holds. -/
def Member.IsFresh (member : Member V) (gearParams : Values V) : Prop :=
  member.params = none ∨ ∀ key ∈ gearParams.keys, key ≠ "on_off" → ∀ value,
    member.Shows key value → member.gear key = some value

/-- All writes return. -/
def BroadcastTask.Completes (task : BroadcastTask V) (outcomes : ℕ → WriteOutcome V)
    (members : List (Member V)) : Prop :=
  (∀ n < (memberGroupHandlers members).length, (outcomes n).raises = false) ∧
    task.ownWriteRaises = false

/-- What the first writes make of the gear of one member, up to one that raises. -/
def landed (place : ℕ) : ℕ → (ℕ → WriteOutcome V) → Gear V → Gear V
  | 0, _, gear => gear
  | count + 1, outcomes, gear =>
    let gear := (outcomes 0).land place gear
    if (outcomes 0).raises then gear else landed place count (fun n => outcomes (n + 1)) gear

/-- The frames that have reached a member change nothing that it shows. -/
def Member.IsUntouched (member : Member V) (gearParams : Values V) (gear : Gear V) : Prop :=
  ∀ key ∈ gearParams.keys, key ≠ "on_off" → ∀ value, member.Shows key value →
    gear key = member.gear key

/-! ### The writes -/

omit [DecidableEq V] in
lemma getElem?_writeAll (place : ℕ) (handlers : List GroupHandler) (outcomes : ℕ → WriteOutcome V)
    (members : List (Member V)) : (writeAll handlers outcomes members).1[place]? =
      members[place]?.map fun member =>
        { member with gear := landed place handlers.length outcomes member.gear } := by
  induction handlers generalizing outcomes members with
  | nil =>
    show members[place]? = _
    cases members[place]? <;> rfl
  | cons handler handlers ih =>
    have hlanded : (landAll (outcomes 0) members)[place]? = members[place]?.map fun member =>
        { member with gear := (outcomes 0).land place member.gear } := List.getElem?_mapIdx
    simp only [writeAll, landed, List.length_cons]
    split
    · exact hlanded
    · rw [ih, hlanded, Option.map_map]
      rfl

omit [DecidableEq V] in
lemma writeAll_returns_iff (handlers : List GroupHandler) (outcomes : ℕ → WriteOutcome V)
    (members : List (Member V)) : (writeAll handlers outcomes members).2 = false ↔
      ∀ n < handlers.length, (outcomes n).raises = false := by
  induction handlers generalizing outcomes members with
  | nil => exact ⟨fun _ n hn => absurd hn n.not_lt_zero, fun _ => rfl⟩
  | cons handler handlers ih =>
    rw [writeAll]
    by_cases hraises : (outcomes 0).raises = true
    · rw [if_pos hraises]
      refine ⟨fun h => (nomatch h), fun h => ?_⟩
      have hreturns := h 0 (Nat.succ_pos _)
      rw [hraises] at hreturns
      cases hreturns
    · rw [if_neg hraises, ih]
      constructor
      · rintro h (_ | n) hn
        · exact Bool.eq_false_iff.2 hraises
        · exact h n (Nat.lt_of_succ_lt_succ hn)
      · exact fun h n hn => h (n + 1) (Nat.succ_lt_succ hn)

/-! ### The members behind the writes -/

/-- A member none of whose handlers sees a change is left alone. -/
lemma Member.sync_of_no_changes {member : Member V} {newParams : Values V}
    (h : ¬∃ handler ∈ member.parameterHandlers, hasChanges newParams handler = true)
    (answers : ℕ → BusAnswers V) : member.sync newParams answers = member := by
  have hnone : ∀ handler ∈ member.parameterHandlers, hasChanges newParams handler = false :=
    fun handler hhandler => Bool.eq_false_iff.2 fun hchanges => h ⟨handler, hhandler, hchanges⟩
  have hhandlers : (member.parameterHandlers.mapIdx fun n handler =>
      if hasChanges newParams handler && handler.requiresMqttControlsRefresh then
        (handler.read (answers n)).1
      else handler) = member.parameterHandlers := by
    refine List.ext_getElem? fun n => ?_
    rw [List.getElem?_mapIdx]
    cases hn : member.parameterHandlers[n]? with
    | none => rfl
    | some handler =>
      rw [Option.map_some, hnone handler (List.mem_of_getElem? hn)]
      rfl
  have hparams : member.parameterHandlers.any (hasChanges newParams) = false :=
    List.any_eq_false.2 fun handler hhandler => by
      rw [hnone handler hhandler]
      exact Bool.false_ne_true
  unfold Member.sync
  simp only [hhandlers, hparams, Bool.false_eq_true, if_false]

lemma Member.params_sync_of_changes {member : Member V} {newParams : Values V}
    (h : ∃ handler ∈ member.parameterHandlers, hasChanges newParams handler = true)
    (answers : ℕ → BusAnswers V) : (member.sync newParams answers).params = none :=
  if_pos (List.any_eq_true.2 h)

section Run

variable {task : BroadcastTask V} {outcomes : ℕ → WriteOutcome V} {answers : ℕ → ℕ → BusAnswers V}
  {members : List (Member V)} {place : ℕ} {member : Member V}

variable (task outcomes answers) in
/-- What has become of an initialised member. -/
lemma getElem?_run (hmember : members[place]? = some member) (hinit : member.isInitialized = true) :
    ∃ member', (task.run outcomes answers members).1[place]? = some member' ∧
      ((task.Completes outcomes members ∧
          (∃ handler ∈ member.parameterHandlers, hasChanges task.gearParams handler = true) ∧
          member'.params = none) ∨
        ¬(task.Completes outcomes members ∧
          ∃ handler ∈ member.parameterHandlers, hasChanges task.gearParams handler = true) ∧
        member' = { member with
          gear := landed place (memberGroupHandlers members).length outcomes member.gear }) := by
  have hwritten := getElem?_writeAll place (memberGroupHandlers members) outcomes members
  have hreturns := writeAll_returns_iff (memberGroupHandlers members) outcomes members
  rw [hmember, Option.map_some] at hwritten
  unfold BroadcastTask.run
  generalize writeAll (memberGroupHandlers members) outcomes members = written at hwritten hreturns
  obtain ⟨written, raised⟩ := written
  cases raised with
  -- a write that raises ends the task before the members are read again
  | true =>
    refine ⟨_, hwritten, .inr ⟨fun h => ?_, rfl⟩⟩
    cases hreturns.2 h.1.1
  | false =>
    dsimp only
    by_cases hown : task.ownWriteRaises = true
    · rw [if_pos hown]
      refine ⟨_, hwritten, .inr ⟨fun h => ?_, rfl⟩⟩
      rw [h.1.2] at hown
      cases hown
    · rw [if_neg hown]
      have hcompletes : task.Completes outcomes members :=
        ⟨hreturns.1 rfl, Bool.eq_false_iff.2 hown⟩
      have hsynced : (syncAll task.gearParams answers written)[place]? = written[place]?.map
          fun member => if member.isInitialized then member.sync task.gearParams (answers place)
            else member := List.getElem?_mapIdx
      rw [hwritten, Option.map_some, if_pos hinit] at hsynced
      generalize hafter : { member with
        gear := landed place (memberGroupHandlers members).length outcomes member.gear } = after
        at hsynced ⊢
      have hsame : after.parameterHandlers = member.parameterHandlers := by rw [← hafter]
      refine ⟨_, hsynced, ?_⟩
      by_cases hchanges :
          ∃ handler ∈ member.parameterHandlers, hasChanges task.gearParams handler = true
      · refine .inl ⟨hcompletes, hchanges, Member.params_sync_of_changes ?_ (answers place)⟩
        rwa [hsame]
      · refine .inr ⟨fun h => hchanges h.2, Member.sync_of_no_changes ?_ (answers place)⟩
        rwa [hsame]

/-- A task leaves a member fresh that was fresh, if its parameters were dropped already, or all
writes return and the member sees a change, or nothing that has landed changes what the member
shows; and in no other case. -/
theorem isFresh_run_iff (hmember : members[place]? = some member)
    (hinit : member.isInitialized = true) (hfresh : member.IsFresh task.gearParams) :
    (∃ member', (task.run outcomes answers members).1[place]? = some member' ∧
        member'.IsFresh task.gearParams) ↔
      member.params = none ∨
      (task.Completes outcomes members ∧
        ∃ handler ∈ member.parameterHandlers, hasChanges task.gearParams handler = true) ∨
      member.IsUntouched task.gearParams
        (landed place (memberGroupHandlers members).length outcomes member.gear) := by
  obtain ⟨member', hget, hbecomes⟩ := getElem?_run task outcomes answers hmember hinit
  have honly : (∃ member', (task.run outcomes answers members).1[place]? = some member' ∧
      member'.IsFresh task.gearParams) ↔ member'.IsFresh task.gearParams := by
    constructor
    · rintro ⟨other, hother, h⟩
      obtain rfl : other = member' := Option.some.inj (hother.symm.trans hget)
      exact h
    · exact fun h => ⟨member', hget, h⟩
  rw [honly]
  rcases hbecomes with ⟨hcompletes, hchanges, hparams⟩ | ⟨hnot, rfl⟩
  · exact ⟨fun _ => .inr (.inl ⟨hcompletes, hchanges⟩), fun _ => .inl hparams⟩
  · constructor
    · rintro (hparams | hshown)
      · exact .inl hparams
      · by_cases hparams : member.params = none
        · exact .inl hparams
        · refine .inr (.inr fun key hkey hgear value hshows => ?_)
          have hbefore := (hfresh.resolve_left hparams) key hkey hgear value hshows
          exact (hshown key hkey hgear value hshows).trans hbefore.symm
    · rintro (hparams | hcompletes | huntouched)
      · exact .inl hparams
      · exact absurd hcompletes hnot
      · rcases hfresh with hparams | hfresh
        · exact .inl hparams
        · refine .inr fun key hkey hgear value hshows => ?_
          have hsame : landed place (memberGroupHandlers members).length outcomes member.gear key =
              member.gear key := huntouched key hkey hgear value hshows
          exact hsame.trans (hfresh key hkey hgear value hshows)

end Run

end Tasks

/-! ### A gear with two settings -/

section Gear

def levelHandlers : List (Handler ℤ) :=
  [.settingsParam maxLevelParam { setting := ⟨false, true⟩, cache := Dict.set ∅ "max_level" 254 },
    .settingsParam minLevelParam { setting := ⟨false, true⟩, cache := Dict.set ∅ "min_level" 1 }]

def levelValues : Values ℤ :=
  (Dict.set ∅ "max_level" (.plain 254)).set "min_level" (.plain 1)

def levelMember : Member ℤ where
  isInitialized := true
  parameterHandlers := levelHandlers
  groupParameterHandlers := [⟨"MaxLevelParam", "max_level"⟩, ⟨"MinLevelParam", "min_level"⟩]
  params := some levelValues
  gear := levelValues.get?

/-- A request for another maximum and another minimum. -/
def narrowerLevels : Values ℤ :=
  (Dict.set ∅ "max_level" (.plain 200)).set "min_level" (.plain 10)

/-- The maximum is taken; the write of the minimum raises without a frame on the bus, or is taken
too. -/
def levelOutcomes (secondRaises : Bool) : ℕ → WriteOutcome ℤ
  | 0 => ⟨fun _ gear key => if key = "max_level" then some (.plain 200) else gear key, false⟩
  | _ => ⟨fun _ gear key =>
      if !secondRaises && key = "min_level" then some (.plain 10) else gear key, secondRaises⟩

def noReads : ℕ → ℕ → BusAnswers ℤ := fun _ _ =>
  { values := fun _ => .error .runtime, limits := .error .runtime }

lemma isFresh_levelMember : levelMember.IsFresh narrowerLevels := by
  refine .inr fun key hkey _ value hshows => ?_
  rcases hshows with ⟨params, hparams, hvalue⟩ | ⟨handler, hhandler, hvalue⟩
  · obtain rfl := Option.some.inj hparams
    exact hvalue
  · have hmax : handler = levelHandlers[0] ∨ handler = levelHandlers[1] := by
      simpa [levelMember, levelHandlers] using hhandler
    have hkeys : key = "max_level" ∨ key = "min_level" := by
      simpa using (show key ∈ ["max_level", "min_level"] from hkey)
    rcases hmax with rfl | rfl <;> rcases hkeys with rfl | rfl <;> first
      | exact hvalue
      | cases hvalue

/-- The first of two gear takes the maximum, the second has not heard the frame; then the write of
the minimum raises. -/
def missedBySecond : ℕ → WriteOutcome ℤ
  | 0 => ⟨fun place gear key =>
      if place = 0 ∧ key = "max_level" then some (.plain 200) else gear key, false⟩
  | _ => ⟨fun _ gear => gear, true⟩

/-- When both writes return, the members drop their parameters; when the second raises, the member
that the first has missed goes on to show what it holds. -/
theorem isFresh_run_missedBySecond :
    ((BroadcastTask.bus narrowerLevels).run missedBySecond noReads
        [levelMember, levelMember]).2 = true ∧
      (∃ member', ((BroadcastTask.bus narrowerLevels).run missedBySecond noReads
          [levelMember, levelMember]).1[1]? = some member' ∧ member'.IsFresh narrowerLevels) ∧
      ∃ member', ((BroadcastTask.bus narrowerLevels).run (levelOutcomes false) noReads
        [levelMember, levelMember]).1[0]? = some member' ∧ member'.IsFresh narrowerLevels := by
  refine ⟨by decide, (isFresh_run_iff rfl rfl isFresh_levelMember).2 (.inr (.inr ?_)),
    (isFresh_run_iff rfl rfl isFresh_levelMember).2 (.inr (.inl ⟨⟨by decide, rfl⟩, by decide⟩))⟩
  exact fun key _ _ value _ => rfl

/-- The maximum has reached the gear when the write of the minimum raises: the member goes on
to show the old one. -/
theorem exists_not_isFresh_run : ∃ (task : BroadcastTask ℤ) (outcomes : ℕ → WriteOutcome ℤ)
    (answers : ℕ → ℕ → BusAnswers ℤ) (member : Member ℤ),
    member.isInitialized = true ∧ member.IsFresh task.gearParams ∧
      (task.run outcomes answers [member]).2 = true ∧
      ∀ member', (task.run outcomes answers [member]).1[0]? = some member' →
        ¬member'.IsFresh task.gearParams := by
  refine ⟨.bus narrowerLevels, levelOutcomes true, noReads, levelMember, rfl,
    isFresh_levelMember, by decide, fun member' hmember' hfresh => ?_⟩
  obtain rfl := Option.some.inj hmember'
  rcases hfresh with hparams | hshown
  · cases hparams
  · have hheld := hshown "max_level" (by decide) (by decide) (.plain 254) (.inl ⟨_, rfl, rfl⟩)
    revert hheld
    decide

end Gear

end WbMqttDali.GroupParameters
