import Mathlib
import WbMqttDali.Settings.Params

/-!
# What a write that returns has set

A `write` that returns without raising has set every entry for which it sent
commands, and has left the others as they were.  So the gear equals the requested
value exactly if the entries that were left out, because the handler had read
them so, still have that value: a `write` that raised may have changed them
behind the back of the handler.
-/

namespace WbMqttDali.Settings

/-! ### The handlers -/

namespace ScenesParam

lemma writeCommands_ok {values : Fin 16 → ℕ} {indexes : List (Fin 16)}
    {batches : List (List Command)} (h : writeCommands values indexes = .ok batches) :
    batches = indexes.map fun i => [.dtr0 (values i), .setScene i, .querySceneLevel i] := by
  induction indexes generalizing batches with
  | nil => exact (Except.ok.inj h).symm
  | cons i indexes ih =>
    rw [writeCommands, mkDTR0] at h
    split at h
    case isTrue =>
      cases hrest : writeCommands values indexes with
      | error error =>
        rw [hrest] at h
        cases h
      | ok rest =>
        rw [hrest] at h
        rw [List.map_cons, ← ih hrest]
        exact (Except.ok.inj h).symm
    case isFalse => cases h

/-- The three commands of a scene set it. -/
lemma scenes_of_completes {gear gear' : Gear} {level : ℕ} {i : Fin 16} {responses : List Response}
    (h : Completes gear [Command.dtr0 level, .setScene i, .querySceneLevel i] gear' responses) :
    gear'.scenes i = level := by
  cases h with
  | cons _ h =>
    cases h with
    | cons _ h =>
      cases h with
      | cons _ h =>
        cases h
        exact Function.update_self _ _ _

/-- The commands of a scene leave the other scenes alone. -/
lemma scenes_execute_of_ne {gear : Gear} {level : ℕ} {i j : Fin 16} {command : Command}
    (hcommand : command ∈ [Command.dtr0 level, .setScene i, .querySceneLevel i]) (hne : j ≠ i) :
    (Device.execute gear command).scenes j = gear.scenes j := by
  simp only [List.mem_cons, List.not_mem_nil, or_false] at hcommand
  rcases hcommand with rfl | rfl | rfl
  · rfl
  · exact Function.update_of_ne hne _ _
  · rfl

lemma batchRule (values : Fin 16 → ℕ) {indexes : List (Fin 16)} (hnodup : indexes.Nodup) :
    BatchRule 3
      (indexes.map fun i => [Command.dtr0 (values i), .setScene i, .querySceneLevel i])
      fun n (gear : Gear) _ => ∀ i, indexes[n]? = some i → gear.scenes i = values i where
  length := by simp
  establish := fun n batch hbatch device device' responses hcompletes i hi => by
    rw [List.getElem?_map, hi] at hbatch
    obtain rfl := Option.some.inj hbatch
    exact scenes_of_completes hcompletes
  keep := fun n m batch hlt hbatch command hcommand device responses hdone i hi => by
    rw [List.getElem?_map] at hbatch
    obtain ⟨j, hj, rfl⟩ := Option.map_eq_some_iff.1 hbatch
    have hne : i ≠ j := by
      rintro rfl
      have hnm := (List.getElem?_inj (List.getElem?_eq_some_iff.1 hi).1 hnodup).1 (hi.trans hj.symm)
      omega
    rw [scenes_execute_of_ne hcommand hne]
    exact hdone i hi

/-- The gear has the requested scenes. -/
def Holds (gear : Gear) (scenes : Fin 16 → SceneSetting) : Prop :=
  ∀ i, gear.scenes i = valuesToSet scenes i

/-- The scenes that `write` leaves out are as requested. -/
def Agrees (param : ScenesParam) (gear : Gear) (scenes : Fin 16 → SceneSetting) : Prop :=
  ∀ i, param.scenes i = valuesToSet scenes i → gear.scenes i = valuesToSet scenes i

/-- A `write` that returns has set the scenes exactly if those left out are as requested. -/
theorem write_holds_iff {param param' : ScenesParam} {gear gear' : Gear}
    {scenes : Fin 16 → SceneSetting} {faults : Faults}
    {result : Option (Fin 16 → SceneSetting)} (hpresent : param.setting.isAbsent = false)
    (h : param.write gear (some scenes) faults = (param', gear', .ok result)) :
    (Holds gear' scenes ↔ Agrees param gear scenes) ∧ param'.setting = param.setting := by
  set values := valuesToSet scenes with hvalues
  set modified := param.modifiedSceneIndexes values with hmodified
  have hmem : ∀ i, i ∈ modified ↔ param.scenes i ≠ values i := by
    simp [hmodified, modifiedSceneIndexes]
  have hnodup : modified.Nodup := (List.nodup_finRange 16).filter _
  simp only [write, hpresent, Bool.false_eq_true, if_false, ← hvalues, ← hmodified] at h
  split at h
  case h_1 => cases (Prod.ext_iff.1 (Prod.ext_iff.1 h).2).2
  case h_2 batches hbatches =>
    obtain rfl := writeCommands_ok hbatches
    -- the scenes that are left out stay as they are
    have hkept : ∀ i, i ∉ modified → ∀ gear : Gear,
        (queryResponsesRetryFromFirstFailed gear (modified.map fun i =>
          [Command.dtr0 (values i), .setScene i, .querySceneLevel i]).flatten 3 faults).1.scenes i =
            gear.scenes i := by
      intro i hi gear
      refine retryFromFirstFailed_keeps (P := fun gear' : Gear => gear'.scenes i = gear.scenes i)
        (fun command hcommand gear' hgear' => ?_) rfl
      obtain ⟨batch, hbatch, hcommand⟩ := List.mem_flatten.1 hcommand
      obtain ⟨j, hj, rfl⟩ := List.mem_map.1 hbatch
      rw [scenes_execute_of_ne hcommand fun heq : i = j => hi (heq ▸ hj)]
      exact hgear'
    split at h
    case isTrue hempty =>
      obtain ⟨rfl, rfl, -⟩ := by simpa only [Prod.mk.injEq] using h
      have hnil : modified = [] := List.map_eq_nil_iff.1 hempty
      have hall : ∀ i, param.scenes i = values i := fun i =>
        not_not.1 fun hne => by simpa [hnil] using (hmem i).2 hne
      exact ⟨⟨fun hholds i _ => hholds i, fun hagrees i => hagrees i (hall i)⟩, rfl⟩
    case isFalse =>
      split at h
      case h_1 => cases (Prod.ext_iff.1 (Prod.ext_iff.1 h).2).2
      case h_2 device responses hreturns =>
        obtain ⟨rfl, rfl, -⟩ := by simpa only [Prod.mk.injEq] using h
        have hdone := (batchRule values hnodup).returns (by decide) hreturns
        -- the scenes that are written take their values, as the function has returned
        have hset : ∀ i, i ∈ modified → device.scenes i = values i := by
          intro i hi
          obtain ⟨n, hn⟩ := List.mem_iff_getElem?.1 hi
          refine hdone n ?_ i hn
          rw [List.length_map]
          exact (List.getElem?_eq_some_iff.1 hn).1
        have hsame : ∀ i, i ∉ modified → device.scenes i = gear.scenes i := fun i hi => by
          have hkept := hkept i hi gear
          rwa [hreturns] at hkept
        refine ⟨⟨fun hholds i hi => ?_, fun hagrees i => ?_⟩, rfl⟩
        · rw [← hsame i fun hmod => (hmem i).1 hmod hi]
          exact hholds i
        · by_cases hi : i ∈ modified
          · exact hset i hi
          · rw [hsame i hi]
            exact hagrees i (not_not.1 fun hne => hi ((hmem i).2 hne))

/-- `read` never finds the scenes absent once the gear has answered. -/
lemma setting_read {param param' : ScenesParam} {gear gear' : Gear} {faults : Faults}
    {result : Except Error (Option (Fin 16 → SceneSetting))}
    (hanswered : param.setting.everAnswered = true)
    (h : param.read gear faults = (param', gear', result)) :
    param'.setting = param.setting ∨ param'.setting = param.setting.noteAnswered := by
  have hscenes : (param.readScenes gear (List.finRange 16) faults).1.setting = param.setting := by
    rw [readScenes]
    split <;> rfl
  rw [read] at h
  split at h
  case h_1 heq =>
    rw [heq] at hscenes
    rw [OptionalSetting.noteAbsent, hscenes, if_pos hanswered] at h
    obtain ⟨rfl, -, -⟩ := by simpa only [Prod.mk.injEq] using h
    exact .inl hscenes
  case h_2 heq =>
    rw [heq] at hscenes
    obtain ⟨rfl, -, -⟩ := by simpa only [Prod.mk.injEq] using h
    exact .inl hscenes
  case h_3 heq =>
    rw [heq] at hscenes
    obtain ⟨rfl, -, -⟩ := by simpa only [Prod.mk.injEq] using h
    exact .inr rfl

end ScenesParam

namespace GroupsParam

/-- The command that `write` sends for a group. -/
def setGroup (groups : Fin 16 → Bool) (i : Fin 16) : Command :=
  if groups i then .addToGroup i else .removeFromGroup i

lemma groups_setGroup (gear : Gear) (groups : Fin 16 → Bool) (i j : Fin 16) :
    (Device.execute gear (setGroup groups i)).groups j =
      if j = i then groups i else gear.groups j := by
  rw [setGroup]
  cases hi : groups i <;> rw [← Function.update_apply] <;> rfl

lemma groups_query {gear : Gear} {command : Command} (h : command ∈ queryCommands) :
    (Device.execute gear command).groups = gear.groups := by
  simp only [queryCommands, List.mem_cons, List.not_mem_nil, or_false] at h
  rcases h with rfl | rfl <;> rfl

/-- The groups that differ from those that were read. -/
def modified (param : GroupsParam) (groups : Fin 16 → Bool) : List (Fin 16) :=
  (List.finRange 16).filter fun i => groups i ≠ param.groups i

lemma batchRule (groups : Fin 16 → Bool) {indexes : List (Fin 16)} (hnodup : indexes.Nodup) :
    BatchRule 1 ((indexes.map (setGroup groups) ++ queryCommands).map fun command => [command])
      fun n (gear : Gear) _ => ∀ i, indexes[n]? = some i → gear.groups i = groups i where
  length := fun batch hbatch => by
    obtain ⟨command, -, rfl⟩ := List.mem_map.1 hbatch
    rfl
  establish := fun n batch hbatch device device' responses hcompletes i hi => by
    have hget :
      (indexes.map (setGroup groups) ++ queryCommands)[n]? = some (setGroup groups i) := by
      rw [List.getElem?_append_left, List.getElem?_map, hi]
      · rfl
      · rw [List.length_map]
        exact (List.getElem?_eq_some_iff.1 hi).1
    rw [List.getElem?_map, hget] at hbatch
    obtain rfl := Option.some.inj hbatch
    cases hcompletes with
    | cons _ hrest =>
      cases hrest
      rw [groups_setGroup, if_pos rfl]
  keep := fun n m batch hlt hbatch command hcommand device responses hdone i hi => by
    rw [List.getElem?_map] at hbatch
    obtain ⟨command', hget, rfl⟩ := Option.map_eq_some_iff.1 hbatch
    obtain rfl := List.mem_singleton.1 hcommand
    rcases Nat.lt_or_ge m indexes.length with hm | hm
    · rw [List.getElem?_append_left (by simpa using hm), List.getElem?_map] at hget
      obtain ⟨j, hj, rfl⟩ := Option.map_eq_some_iff.1 hget
      have hne : i ≠ j := by
        rintro rfl
        have hnm :=
          (List.getElem?_inj (List.getElem?_eq_some_iff.1 hi).1 hnodup).1 (hi.trans hj.symm)
        omega
      rw [groups_setGroup, if_neg hne]
      exact hdone i hi
    · rw [List.getElem?_append_right (by simpa using hm)] at hget
      rw [groups_query (List.mem_of_getElem? hget)]
      exact hdone i hi

/-- The gear is in the requested groups. -/
def Holds (gear : Gear) (groups : Fin 16 → Bool) : Prop := gear.groups = groups

/-- The groups that `write` leaves out are as requested. -/
def Agrees (param : GroupsParam) (gear : Gear) (groups : Fin 16 → Bool) : Prop :=
  ∀ i, param.groups i = groups i → gear.groups i = groups i

/-- A `write` that returns has set the groups exactly if those left out are as requested. -/
theorem write_holds_iff {param param' : GroupsParam} {gear gear' : Gear}
    {groups : Fin 16 → Bool} {faults : Faults} {result : Option (Fin 16 → Bool)}
    (hpresent : param.setting.isAbsent = false)
    (h : param.write gear (some groups) faults = (param', gear', .ok result)) :
    (Holds gear' groups ↔ Agrees param gear groups) ∧ param'.setting = param.setting := by
  have hmem : ∀ i, i ∈ param.modified groups ↔ groups i ≠ param.groups i := by
    simp [modified]
  have hnodup : (param.modified groups).Nodup := (List.nodup_finRange 16).filter _
  have hcommands : param.writeCommands groups = (param.modified groups).map (setGroup groups) := rfl
  simp only [write, hpresent, Bool.false_eq_true, if_false] at h
  split at h
  case isTrue hequal =>
    obtain ⟨rfl, rfl, -⟩ := by simpa only [Prod.mk.injEq] using h
    refine ⟨⟨fun hholds i _ => congrFun hholds i, fun hagrees => funext fun i => ?_⟩, rfl⟩
    exact hagrees i (congrFun hequal i)
  case isFalse hdiffer =>
    split at h
    case isTrue hempty =>
      rw [hcommands, List.map_eq_nil_iff] at hempty
      refine absurd (funext fun i => ?_) hdiffer
      exact not_not.1 fun hne => by simpa [hempty] using (hmem i).2 (Ne.symm hne)
    case isFalse =>
      split at h
      case h_1 => cases (Prod.ext_iff.1 (Prod.ext_iff.1 h).2).2
      case h_2 device responses hreturns =>
        obtain ⟨rfl, rfl, -⟩ := by simpa only [Prod.mk.injEq] using h
        rw [hcommands] at hreturns
        have hflat : ((((param.modified groups).map (setGroup groups) ++ queryCommands).map
            fun command => [command]).flatten) =
            (param.modified groups).map (setGroup groups) ++ queryCommands := by
          rw [← List.flatMap_def, List.flatMap_singleton']
        have hdone := (batchRule groups hnodup).returns Nat.one_pos (hflat.symm ▸ hreturns)
        have hset : ∀ i, i ∈ param.modified groups → device.groups i = groups i := by
          intro i hi
          obtain ⟨n, hn⟩ := List.mem_iff_getElem?.1 hi
          refine hdone n ?_ i hn
          rw [List.length_map, List.length_append, List.length_map]
          have := (List.getElem?_eq_some_iff.1 hn).1
          omega
        have hsame : ∀ i, i ∉ param.modified groups → device.groups i = gear.groups i := by
          intro i hi
          have hkeep : (queryResponsesRetryFromFirstFailed gear
              ((param.modified groups).map (setGroup groups) ++ queryCommands) 1
                faults).1.groups i =
              gear.groups i := by
            refine @retryFromFirstFailed_keeps _ _ _ gear _ faults 1
              (fun gear' : Gear => gear'.groups i = gear.groups i)
              (fun command hcommand gear' hgear' => ?_) rfl
            rcases List.mem_append.1 hcommand with hcommand | hcommand
            · obtain ⟨j, hj, rfl⟩ := List.mem_map.1 hcommand
              rw [groups_setGroup, if_neg fun heq : i = j => hi (heq ▸ hj)]
              exact hgear'
            · rw [groups_query hcommand]
              exact hgear'
          rwa [hreturns] at hkeep
        refine ⟨⟨fun hholds i hi => ?_, fun hagrees => funext fun i => ?_⟩, rfl⟩
        · rw [← hsame i fun hmod => (hmem i).1 hmod hi.symm]
          exact congrFun hholds i
        · by_cases hi : i ∈ param.modified groups
          · exact hset i hi
          · rw [hsame i hi]
            exact hagrees i (not_not.1 fun hne => hi ((hmem i).2 (Ne.symm hne)))

/-- `read` never finds the groups absent once the gear has answered. -/
lemma setting_read {param param' : GroupsParam} {gear gear' : Gear} {faults : Faults}
    {result : Except Error (Option (Fin 16 → Bool))}
    (hanswered : param.setting.everAnswered = true)
    (h : param.read gear faults = (param', gear', result)) :
    param'.setting = param.setting ∨ param'.setting = param.setting.noteAnswered := by
  rw [read] at h
  split at h
  case h_1 =>
    rw [OptionalSetting.noteAbsent, if_pos hanswered] at h
    obtain ⟨rfl, -, -⟩ := by simpa only [Prod.mk.injEq] using h
    exact .inl rfl
  case h_2 =>
    obtain ⟨rfl, -, -⟩ := by simpa only [Prod.mk.injEq] using h
    exact .inl rfl
  case h_3 =>
    obtain ⟨rfl, -, -⟩ := by simpa only [Prod.mk.injEq] using h
    exact .inr rfl

end GroupsParam

namespace NumberSettingsParam

/-- The gear has the requested value in the register of the setting. -/
def Holds (param : NumberSettingsParam) (gear : Gear) (value : ℕ) : Prop :=
  gear.registers param.register = value

/-- Where `write` sends nothing, the register is as requested. -/
def Agrees (param : NumberSettingsParam) (gear : Gear) (value : ℕ) : Prop :=
  param.value = some value → gear.registers param.register = value

/-- A `write` that returns has set the register exactly if it had to, or the register
is as requested. -/
theorem write_holds_iff {param param' : NumberSettingsParam} {gear gear' : Gear} {value : ℕ}
    {faults : Faults} {result : Option ℕ} (hmultiplier : param.multiplier = 1)
    (h : param.write gear (some value) faults = (param', gear', .ok result)) :
    (Holds param gear' value ↔ Agrees param gear value) ∧
      param'.register = param.register ∧ param'.multiplier = param.multiplier := by
  simp only [write, hmultiplier] at h
  split at h
  case isTrue hequal =>
    obtain ⟨rfl, rfl, -⟩ := by simpa only [Prod.mk.injEq] using h
    exact ⟨⟨fun hholds _ => hholds, fun hagrees => hagrees hequal⟩, rfl, rfl⟩
  case isFalse hdiffer =>
    have hraw : (value + 1 / 2) / 1 = value := by simp
    rw [hraw, getWriteCommands, mkDTR0] at h
    split at h
    case h_1 => cases (Prod.ext_iff.1 (Prod.ext_iff.1 h).2).2
    case h_2 commands hcommands =>
      split at hcommands
      case isFalse => cases hcommands
      case isTrue =>
        obtain rfl := Except.ok.inj hcommands
        split at h
        case h_1 => cases (Prod.ext_iff.1 (Prod.ext_iff.1 h).2).2
        case h_2 device responses hreturns =>
          obtain ⟨rfl, rfl, -⟩ := by simpa only [Prod.mk.injEq] using h
          obtain ⟨mid, hcompletes⟩ := queryResponses_returns hreturns
          refine ⟨⟨fun _ hequal => absurd hequal hdiffer, fun _ => ?_⟩, rfl, hmultiplier.symm⟩
          cases hcompletes with
          | cons _ hrest =>
            cases hrest with
            | cons _ hrest =>
              cases hrest with
              | cons _ hrest =>
                cases hrest
                exact Function.update_self _ _ _

end NumberSettingsParam

/-! ### Histories of one handler -/

/-- A handler as its history sees it: whether a `read` was answered, and whether a `write`
returned without raising. -/
structure Handler (π ν : Type) where
  new : π
  read : π → Gear → Faults → π × Gear × Bool
  write : π → Gear → ν → Faults → π × Gear × Bool
  /-- the gear has the requested value -/
  Holds : π → Gear → ν → Prop
  /-- the entries that `write` would leave out are as requested -/
  Agrees : π → Gear → ν → Prop

structure History (π ν : Type) where
  param : π
  gear : Gear
  /-- the value of the last operation, if it was a `write` that returned -/
  written : Option ν := none

inductive Operation (ν : Type) where
  | read (faults : Faults)
  | write (value : ν) (faults : Faults)

section Histories

variable {π ν : Type} (handler : Handler π ν)

/-- The operations after a first `read` that was answered. -/
def Handler.histories : Transition (History π ν) (Operation ν) where
  init s := ∃ gear faults param,
    handler.read handler.new gear faults = (param, s.gear, true) ∧ s = { param, gear := s.gear }
  step s
    | .read faults =>
      let (param, gear, _) := handler.read s.param s.gear faults
      some { param, gear }
    | .write value faults =>
      let (param, gear, returned) := handler.write s.param s.gear value faults
      some { param, gear, written := if returned then some value else none }

/-- A `write` finds the entries that it leaves out as requested. -/
def Handler.WritesAgree (s : History π ν) : Operation ν → Prop
  | .read _ => True
  | .write value _ => handler.Agrees s.param s.gear value

/-- What the histories use of a handler that is `Ready` to write. -/
structure Handler.Law (Ready : π → Prop) : Prop where
  start : ∀ {gear faults param gear'},
    handler.read handler.new gear faults = (param, gear', true) → Ready param
  read : ∀ {param gear faults}, Ready param → Ready (handler.read param gear faults).1
  write : ∀ {param gear value faults}, Ready param →
    Ready (handler.write param gear value faults).1
  holds_iff : ∀ {param gear value faults param' gear'}, Ready param →
    handler.write param gear value faults = (param', gear', true) →
      (handler.Holds param' gear' value ↔ handler.Agrees param gear value)

variable {handler} {Ready : π → Prop}

lemma Handler.Law.ready (law : handler.Law Ready) {s : History π ν}
    (h : handler.histories.Reachable s) : Ready s.param := by
  refine h.invariant (I := fun s => Ready s.param) ?_ ?_
  · rintro s ⟨gear, faults, param, hread, hs⟩
    rw [hs]
    exact law.start hread
  · intro s e s' hready _ hstep
    cases e with
    | read faults =>
      obtain rfl := Option.some.inj hstep
      exact law.read hready
    | write value faults =>
      obtain rfl := Option.some.inj hstep
      exact law.write hready

/-- After any history, a `write` that returns has set the value exactly if the entries it
leaves out were as requested. -/
lemma Handler.Law.write_iff (law : handler.Law Ready) {s s' : History π ν} {value : ν}
    {faults : Faults} (h : handler.histories.Reachable s)
    (hstep : handler.histories.step s (.write value faults) = some s')
    (hreturned : s'.written = some value) :
    handler.Holds s'.param s'.gear value ↔ handler.Agrees s.param s.gear value := by
  rcases hwrite : handler.write s.param s.gear value faults with ⟨param, gear, returned⟩
  simp only [Handler.histories, hwrite, Option.some.injEq] at hstep
  subst hstep
  cases returned with
  | false => simp at hreturned
  | true => exact law.holds_iff (law.ready h) hwrite

/-- In a history whose writes all find the entries they leave out as requested, the gear
has the value of the last write. -/
lemma Handler.Law.holds (law : handler.Law Ready) {s : History π ν} {value : ν}
    (h : handler.histories.Reach handler.WritesAgree s) (hwritten : s.written = some value) :
    handler.Holds s.param s.gear value := by
  cases h with
  | init hinit =>
    obtain ⟨gear, faults, param, -, hs⟩ := hinit
    rw [hs] at hwritten
    cases hwritten
  | @step s₀ e s hreach hok hstep =>
    cases e with
    | read faults =>
      obtain rfl := Option.some.inj hstep
      cases hwritten
    | write value' faults =>
      rcases hwrite : handler.write s₀.param s₀.gear value' faults with ⟨param, gear, returned⟩
      have hstep' := hstep
      simp only [Handler.histories, hwrite, Option.some.injEq] at hstep'
      obtain rfl : value' = value := by
        subst hstep'
        cases returned with
        | false => simp at hwritten
        | true => exact Option.some.inj hwritten
      exact (law.write_iff hreach.reachable hstep hwritten).2 hok

end Histories

/-! ### The three handlers -/

/-- The result of a `write` that returned. -/
def returned {α : Type} : Except Error α → Bool
  | .ok _ => true
  | .error _ => false

/-- The result of a `read` that was answered. -/
def answered {α : Type} : Except Error (Option α) → Bool
  | .ok (some _) => true
  | _ => false

def scenesHandler : Handler ScenesParam (Fin 16 → SceneSetting) where
  new := {}
  read := fun param gear faults =>
    let (param, gear, result) := param.read gear faults
    (param, gear, answered result)
  write := fun param gear scenes faults =>
    let (param, gear, result) := param.write gear (some scenes) faults
    (param, gear, returned result)
  Holds := fun _ => ScenesParam.Holds
  Agrees := ScenesParam.Agrees

def groupsHandler : Handler GroupsParam (Fin 16 → Bool) where
  new := {}
  read := fun param gear faults =>
    let (param, gear, result) := param.read gear faults
    (param, gear, answered result)
  write := fun param gear groups faults =>
    let (param, gear, result) := param.write gear (some groups) faults
    (param, gear, returned result)
  Holds := fun _ => GroupsParam.Holds
  Agrees := GroupsParam.Agrees

def numberHandler (register : ℕ) : Handler NumberSettingsParam ℕ where
  new := { register }
  read := fun param gear faults =>
    let (param, gear, result) := param.read gear faults
    (param, gear, returned result)
  write := fun param gear value faults =>
    let (param, gear, result) := param.write gear (some value) faults
    (param, gear, returned result)
  Holds := NumberSettingsParam.Holds
  Agrees := NumberSettingsParam.Agrees

/-- The gear has answered, so that the setting is present. -/
def OptionalSetting.Present (setting : OptionalSetting) : Prop :=
  setting.isAbsent = false ∧ setting.everAnswered = true

lemma ScenesParam.setting_write (param : ScenesParam) (gear : Gear)
    (scenes : Option (Fin 16 → SceneSetting)) (faults : Faults) :
    (param.write gear scenes faults).1.setting = param.setting := by
  simp only [ScenesParam.write]
  repeat' split
  all_goals rfl

lemma GroupsParam.setting_write (param : GroupsParam) (gear : Gear)
    (groups : Option (Fin 16 → Bool)) (faults : Faults) :
    (param.write gear groups faults).1.setting = param.setting := by
  simp only [GroupsParam.write]
  repeat' split
  all_goals rfl

lemma scenesLaw : scenesHandler.Law fun param => param.setting.Present where
  start := fun {gear faults param gear'} h => by
    rcases hread : ({} : ScenesParam).read gear faults with ⟨param', gear'', result⟩
    simp only [scenesHandler, hread, Prod.mk.injEq] at h
    obtain ⟨rfl, rfl, hanswered⟩ := h
    rw [ScenesParam.read] at hread
    split at hread
    case h_1 heq =>
      split at hread <;> obtain ⟨-, -, rfl⟩ := by simpa only [Prod.mk.injEq] using hread
      all_goals cases hanswered
    case h_2 =>
      obtain ⟨-, -, rfl⟩ := by simpa only [Prod.mk.injEq] using hread
      cases hanswered
    case h_3 =>
      obtain ⟨rfl, -, -⟩ := by simpa only [Prod.mk.injEq] using hread
      exact ⟨rfl, rfl⟩
  read := fun {param gear faults} hready => by
    rcases @ScenesParam.setting_read param _ _ _ _ _ hready.2 rfl with hsame | hanswered
    · exact hsame.symm ▸ hready
    · exact hanswered.symm ▸ ⟨rfl, rfl⟩
  write := fun {param gear value faults} hready => by
    exact (param.setting_write gear (some value) faults).symm ▸ hready
  holds_iff := fun {param gear value faults param' gear'} hready h => by
    rcases hwrite : param.write gear (some value) faults with ⟨param₁, gear₁, _ | result⟩
    · simp [scenesHandler, hwrite, returned] at h
    · simp only [scenesHandler, hwrite, Prod.mk.injEq] at h
      obtain ⟨rfl, rfl, -⟩ := h
      exact (ScenesParam.write_holds_iff hready.1 hwrite).1

lemma groupsLaw : groupsHandler.Law fun param => param.setting.Present where
  start := fun {gear faults param gear'} h => by
    rcases hread : ({} : GroupsParam).read gear faults with ⟨param', gear'', result⟩
    simp only [groupsHandler, hread, Prod.mk.injEq] at h
    obtain ⟨rfl, rfl, hanswered⟩ := h
    rw [GroupsParam.read] at hread
    split at hread
    case h_1 heq =>
      split at hread <;> obtain ⟨-, -, rfl⟩ := by simpa only [Prod.mk.injEq] using hread
      all_goals cases hanswered
    case h_2 =>
      obtain ⟨-, -, rfl⟩ := by simpa only [Prod.mk.injEq] using hread
      cases hanswered
    case h_3 =>
      obtain ⟨rfl, -, -⟩ := by simpa only [Prod.mk.injEq] using hread
      exact ⟨rfl, rfl⟩
  read := fun {param gear faults} hready => by
    rcases @GroupsParam.setting_read param _ _ _ _ _ hready.2 rfl with hsame | hanswered
    · exact hsame.symm ▸ hready
    · exact hanswered.symm ▸ ⟨rfl, rfl⟩
  write := fun {param gear value faults} hready => by
    exact (param.setting_write gear (some value) faults).symm ▸ hready
  holds_iff := fun {param gear value faults param' gear'} hready h => by
    rcases hwrite : param.write gear (some value) faults with ⟨param₁, gear₁, _ | result⟩
    · simp [groupsHandler, hwrite, returned] at h
    · simp only [groupsHandler, hwrite, Prod.mk.injEq] at h
      obtain ⟨rfl, rfl, -⟩ := h
      exact (GroupsParam.write_holds_iff hready.1 hwrite).1

lemma NumberSettingsParam.frame_read (param : NumberSettingsParam) (gear : Gear)
    (faults : Faults) : (param.read gear faults).1.register = param.register ∧
      (param.read gear faults).1.multiplier = param.multiplier := by
  rw [NumberSettingsParam.read]
  split <;> exact ⟨rfl, rfl⟩

lemma NumberSettingsParam.frame_write (param : NumberSettingsParam) (gear : Gear)
    (value : Option ℕ) (faults : Faults) :
    (param.write gear value faults).1.register = param.register ∧
      (param.write gear value faults).1.multiplier = param.multiplier := by
  simp only [NumberSettingsParam.write]
  repeat' split
  all_goals exact ⟨rfl, rfl⟩

lemma numberLaw (register : ℕ) : (numberHandler register).Law fun param =>
    param.register = register ∧ param.multiplier = 1 where
  start := fun {gear faults param gear'} h => by
    have hframe := NumberSettingsParam.frame_read { register } gear faults
    have hparam : (({ register } : NumberSettingsParam).read gear faults).1 = param :=
      (Prod.ext_iff.1 h).1
    rwa [hparam] at hframe
  read := fun {param gear faults} hready => by
    have hframe := param.frame_read gear faults
    exact ⟨hframe.1.trans hready.1, hframe.2.trans hready.2⟩
  write := fun {param gear value faults} hready => by
    have hframe := param.frame_write gear (some value) faults
    exact ⟨hframe.1.trans hready.1, hframe.2.trans hready.2⟩
  holds_iff := fun {param gear value faults param' gear'} hready h => by
    rcases hwrite : param.write gear (some value) faults with ⟨param₁, gear₁, _ | result⟩
    · simp [numberHandler, hwrite, returned] at h
    · simp only [numberHandler, hwrite, Prod.mk.injEq] at h
      obtain ⟨rfl, rfl, -⟩ := h
      obtain ⟨hiff, hregister, -⟩ := NumberSettingsParam.write_holds_iff hready.2 hwrite
      refine Iff.trans ?_ hiff
      change gear₁.registers param₁.register = value ↔ gear₁.registers param.register = value
      rw [hregister]

/-- After a `write` that returned the gear has the requested value, in every history
whose writes find the entries they leave out as requested; and a single `write` that
returns, after any history, has set the value only then. -/
def Handler.SetsWhatItReturns {π ν : Type} (handler : Handler π ν) : Prop :=
  (∀ s, handler.histories.Reach handler.WritesAgree s → ∀ value, s.written = some value →
    handler.Holds s.param s.gear value) ∧
  ∀ s, handler.histories.Reachable s → ∀ value faults s',
    handler.histories.step s (.write value faults) = some s' → s'.written = some value →
      (handler.Holds s'.param s'.gear value ↔ handler.Agrees s.param s.gear value)

lemma Handler.Law.setsWhatItReturns {π ν : Type} {handler : Handler π ν} {Ready : π → Prop}
    (law : handler.Law Ready) : handler.SetsWhatItReturns :=
  ⟨fun _ hreach _ hwritten => law.holds hreach hwritten,
    fun _ hreach _ _ _ hstep hreturned => law.write_iff hreach hstep hreturned⟩

theorem write_sets_iff_agrees (register : ℕ) : scenesHandler.SetsWhatItReturns ∧
    groupsHandler.SetsWhatItReturns ∧ (numberHandler register).SetsWhatItReturns :=
  ⟨scenesLaw.setsWhatItReturns, groupsLaw.setsWhatItReturns,
    (numberLaw register).setsWhatItReturns⟩

/-- Every frame is received, and an answer at position `lost` is lost. -/
def losingAnswer (lost : ℕ) : Faults := fun _ pos => if pos = lost then .silent else .received

/-- The groups of the given numbers. -/
def groupsOf (numbers : List (Fin 16)) : Fin 16 → Bool := fun i => i ∈ numbers

/-- The groups of a gear that has none have been read. -/
def readGroups : History GroupsParam (Fin 16 → Bool) where
  param := (groupsHandler.read groupsHandler.new blankGear fun _ _ => .received).1
  gear := blankGear

/-- A `write` of group 3 reaches the gear and raises because the answers behind it are lost; then
a `write` of the groups 3 and 5, which leaves out the others, returns. -/
theorem write_sets_iff_agrees_afterRaise :
    ∃ failed s, groupsHandler.histories.Reach groupsHandler.WritesAgree failed ∧
      failed.written = none ∧ failed.gear.groups = groupsOf [3] ∧
      failed.param.groups = groupsOf [] ∧
      groupsHandler.histories.step failed (.write (groupsOf [3, 5]) fun _ _ => .received) = some s ∧
      s.written = some (groupsOf [3, 5]) ∧
      groupsHandler.Holds s.param s.gear (groupsOf [3, 5]) := by
  have hread : groupsHandler.histories.Reach groupsHandler.WritesAgree readGroups :=
    .init ⟨blankGear, fun _ _ => .received, _, rfl, rfl⟩
  have hagrees (s : History GroupsParam (Fin 16 → Bool)) (groups : Fin 16 → Bool)
      (h : ∀ i, s.param.groups i = groups i → s.gear.groups i = groups i) (faults : Faults) :
      groupsHandler.WritesAgree s (.write groups faults) := h
  have hfailed := hread.step (e := .write (groupsOf [3]) fun _ _ => .silent)
    (hagrees _ _ (by decide +kernel) _) rfl
  have hwritten := hfailed.step (e := .write (groupsOf [3, 5]) fun _ _ => .received)
    (hagrees _ _ (by decide +kernel) _) rfl
  exact ⟨_, _, hfailed, by decide +kernel, by decide +kernel, by decide +kernel, rfl,
    by decide +kernel, (write_sets_iff_agrees 0).2.1.1 _ hwritten _ (by decide +kernel)⟩

/-- A `write` of 5 raises because its last answer is lost; the register is 5 then, and a
`write` of the old value 0 sends nothing. -/
theorem exists_write_returns_without_setting :
    ∃ s, (numberHandler 0).histories.Reachable s ∧ s.written = some 0 ∧
      s.gear.registers 0 = 5 := by
  have hinit : (numberHandler 0).histories.Reachable
      { param := { register := 0, value := some 0 }, gear := blankGear } :=
    .init ⟨_, losingAnswer 1, _, rfl, rfl⟩
  have hraised := hinit.step (e := .write 5 (losingAnswer 2)) trivial rfl
  have hskipped := hraised.step (e := .write 0 (losingAnswer 2)) trivial rfl
  exact ⟨_, hskipped, rfl, rfl⟩

end WbMqttDali.Settings
