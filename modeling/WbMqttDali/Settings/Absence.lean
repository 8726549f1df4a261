import Mathlib
import WbMqttDali.Settings.Params

/-!
# Settings that a gear may not have

A setting is declared absent when a call of `query_responses_retry_only_failed`
ends in silence.  The function judges its last attempt alone, so a call in which
the gear answers some of the queries may end in silence too.
-/

namespace WbMqttDali.Settings

/-! ### The frames of a call -/

def FrameOutcome.isAborted : FrameOutcome → Bool
  | .aborted _ => true
  | _ => false

section Frames

variable {ι : Type*}

/-- The queries of an attempt with what happens to them, up to the one at which the driver
raises. -/
def sentFrames : List ι → (ℕ → FrameOutcome) → List (ι × FrameOutcome)
  | [], _ => []
  | query :: queries, outcomes =>
    (query, outcomes 0) ::
      if (outcomes 0).isAborted then [] else sentFrames queries fun k => outcomes (k + 1)

/-- The attempts of a call, each with the queries that were not answered before. -/
def queryFrames (outcomes : ℕ → ℕ → FrameOutcome) : ℕ → List ι → List (List (ι × FrameOutcome))
  | 0, _ => []
  | retries + 1, pending =>
    let frames := sentFrames pending (outcomes retries)
    let unanswered := (frames.filter fun frame => frame.2 ≠ .received).map Prod.fst
    frames ::
      if unanswered = [] ∨ frames.any (·.2.isAborted) then []
      else queryFrames outcomes retries unanswered

/-- How a call ends. -/
inductive Ending where
  | answered
  | silence
  | failed
  deriving DecidableEq

/-- How an attempt ends: silence where a query was not answered, and those that were not
were silent. -/
def attemptEnding (frames : List (ι × FrameOutcome)) : Ending :=
  if ∀ frame ∈ frames, frame.2 = .received then .answered
  else if ∀ frame ∈ frames, frame.2 = .received ∨ frame.2 = .silent then .silence
  else .failed

/-- The ending of the last attempt, or the given one where there is none. -/
def lastEnding (start : Ending) (attempts : List (List (ι × FrameOutcome))) : Ending :=
  (attempts.getLast?.map attemptEnding).getD start

lemma lastEnding_cons (start : Ending) (frames : List (ι × FrameOutcome))
    (attempts : List (List (ι × FrameOutcome))) :
    lastEnding start (frames :: attempts) = lastEnding (attemptEnding frames) attempts := by
  rw [lastEnding, lastEnding, List.getLast?_cons]
  cases attempts.getLast? <;> rfl

/-- The gear answered one of the queries. -/
def someAnswered (attempts : List (List (ι × FrameOutcome))) : Bool :=
  attempts.any fun frames => frames.any fun frame => frame.2 = .received

end Frames

/-- The ending that the result of a call stands for. -/
def endingOf {α : Type*} : Except Error α → Ending
  | .ok _ => .answered
  | .error .noAnswer => .silence
  | .error _ => .failed

section Loop

variable {γ κ : Type*} [Device γ κ]

/-- The failure that a query meets. -/
def FrameOutcome.failure : FrameOutcome → Option Error
  | .received => none
  | .silent => some .noAnswer
  | _ => some .runtime

variable {device device' : γ} {outcomes : ℕ → FrameOutcome} {pending : List (ℕ × κ)}
  {responses : List Response}

/-- The responses to an attempt fail as the frames say. -/
lemma answers_of_sendCommands (hquery : ∀ query ∈ pending, Device.isQuery γ query.2)
    (hsend : sendCommands device (pending.map Prod.snd) outcomes = (device', some responses)) :
    (pending.zip responses).map
        (fun answer => (answer.1, checkCommandFailed γ answer.1.2 answer.2)) =
      (sentFrames pending outcomes).map (fun frame => (frame.1, frame.2.failure)) ∧
    (sentFrames pending outcomes).any (·.2.isAborted) = false := by
  induction pending generalizing device outcomes responses with
  | nil => exact ⟨rfl, rfl⟩
  | cons query pending ih =>
    obtain ⟨response, rest, hrespond, hrest, rfl⟩ := sendCommands_cons.1 hsend
    have hisQuery := hquery query (by simp)
    obtain ⟨hanswers, haborted⟩ :=
      ih (fun other hother => hquery other (List.mem_cons_of_mem _ hother)) hrest
    have hhead : (outcomes 0).isAborted = false ∧
        checkCommandFailed γ query.2 response = (outcomes 0).failure := by
      cases houtcome : outcomes 0 <;> rw [houtcome, respond] at hrespond
      case aborted => cases hrespond
      all_goals
        obtain rfl := Option.some.inj hrespond
        simp [checkCommandFailed, hisQuery, FrameOutcome.isAborted, FrameOutcome.failure]
    rw [sentFrames, if_neg (by simp [hhead.1])]
    refine ⟨?_, ?_⟩
    · rw [List.zip_cons_cons, List.map_cons, List.map_cons, hanswers, hhead.2]
    · rw [List.any_cons, haborted, hhead.1]
      rfl

lemma isAborted_of_sendCommands
    (hsend : sendCommands device (pending.map Prod.snd) outcomes = (device', none)) :
    (sentFrames pending outcomes).any (·.2.isAborted) = true := by
  induction pending generalizing device device' outcomes with
  | nil => cases (Prod.ext_iff.1 hsend).2
  | cons query pending ih =>
    rw [sentFrames, List.any_cons]
    cases haborted : (outcomes 0).isAborted with
    | true => rfl
    | false =>
      rw [List.map_cons, sendCommands] at hsend
      split at hsend
      case h_1 hrespond =>
        cases houtcome : outcomes 0 <;> rw [houtcome] at hrespond haborted
        case aborted => cases haborted
        all_goals cases hrespond
      case h_2 =>
        rw [if_neg (by simp), Bool.false_or]
        refine @ih (transmit device query.2 (outcomes 0)) _ _ (Prod.ext rfl ?_)
        simpa using (Prod.ext_iff.1 hsend).2

lemma failure_eq_none_iff {outcome : FrameOutcome} :
    outcome.failure = none ↔ outcome = .received := by
  cases outcome <;> simp [FrameOutcome.failure]

lemma failure_eq_noAnswer_iff {outcome : FrameOutcome} :
    outcome.failure = some .noAnswer ↔ outcome = .silent := by
  cases outcome <;> simp [FrameOutcome.failure]

/-- The failures of an attempt are its unanswered queries. -/
lemma failed_map_fst {answers : List ((ℕ × κ) × Response)} {frames : List ((ℕ × κ) × FrameOutcome)}
    (h : answers.map (fun answer => (answer.1, checkCommandFailed γ answer.1.2 answer.2)) =
      frames.map (fun frame => (frame.1, frame.2.failure))) :
    (answers.filter fun answer => checkCommandFailed γ answer.1.2 answer.2 ≠ none).map Prod.fst =
      (frames.filter fun frame => frame.2 ≠ .received).map Prod.fst := by
  have hunanswered : (frames.filter fun frame => frame.2 ≠ .received) =
      frames.filter fun frame => frame.2.failure ≠ none := by
    refine List.filter_congr fun frame _ => ?_
    simp only [ne_eq, failure_eq_none_iff]
  have hfilter := congrArg (fun l => (l.filter fun entry => entry.2 ≠ none).map Prod.fst) h
  simp only [List.filter_map, List.map_map] at hfilter
  rw [hunanswered]
  exact hfilter

/-- An attempt without a failure ends answered, one that is given up ends as the errors of
its failures say. -/
lemma attemptEnding_of_answers {answers : List ((ℕ × κ) × Response)}
    {frames : List ((ℕ × κ) × FrameOutcome)}
    (h : answers.map (fun answer => (answer.1, checkCommandFailed γ answer.1.2 answer.2)) =
      frames.map (fun frame => (frame.1, frame.2.failure))) :
    let failed := answers.filter fun answer => checkCommandFailed γ answer.1.2 answer.2 ≠ none
    attemptEnding frames = if failed = [] then .answered else
      @endingOf Unit (.error (queryFailureError
        (failed.filterMap fun answer => checkCommandFailed γ answer.1.2 answer.2))) := by
  intro failed
  have herrors : (failed.filterMap fun answer => checkCommandFailed γ answer.1.2 answer.2) =
      frames.filterMap fun frame => frame.2.failure := by
    have hmap := congrArg (List.filterMap Prod.snd) h
    rw [List.filterMap_map, List.filterMap_map] at hmap
    refine Eq.trans ?_ hmap
    rw [List.filterMap_filter]
    refine List.filterMap_congr fun answer _ => ?_
    cases hcheck : checkCommandFailed γ answer.1.2 answer.2 <;> simp [hcheck]
  -- without a failure every frame was received
  have hempty : failed = [] ↔ ∀ frame ∈ frames, frame.2 = .received := by
    rw [← List.map_eq_nil_iff (f := Prod.fst), failed_map_fst h, List.map_eq_nil_iff,
      List.filter_eq_nil_iff]
    simp
  rw [attemptEnding]
  by_cases hall : ∀ frame ∈ frames, frame.2 = .received
  · rw [if_pos hall, if_pos (hempty.2 hall)]
  · rw [if_neg hall, if_neg (mt hempty.1 hall), herrors, queryFailureError]
    have hsome : (frames.filterMap fun frame => frame.2.failure) ≠ [] := by
      rw [Ne, List.filterMap_eq_nil_iff]
      exact fun hnone => hall fun frame hframe => failure_eq_none_iff.1 (hnone frame hframe)
    -- the error is about silence if the frames met with nothing else
    have hsilent : (∀ error ∈ frames.filterMap (fun frame => frame.2.failure), error = .noAnswer) ↔
        ∀ frame ∈ frames, frame.2 = .received ∨ frame.2 = .silent := by
      simp only [List.mem_filterMap, forall_exists_index, and_imp]
      constructor
      · intro hnoAnswer frame hframe
        cases hfailure : frame.2.failure with
        | none => exact .inl (failure_eq_none_iff.1 hfailure)
        | some error =>
          rw [hnoAnswer error frame hframe hfailure] at hfailure
          exact .inr (failure_eq_noAnswer_iff.1 hfailure)
      · intro houtcomes error frame hframe hfailure
        rcases houtcomes frame hframe with hreceived | hsilent
        · rw [failure_eq_none_iff.2 hreceived] at hfailure
          cases hfailure
        · rw [failure_eq_noAnswer_iff.2 hsilent] at hfailure
          exact (Option.some.inj hfailure).symm
    by_cases hquiet : ∀ frame ∈ frames, frame.2 = .received ∨ frame.2 = .silent
    · rw [if_pos hquiet, if_pos ⟨hsome, hsilent.2 hquiet⟩]
      rfl
    · rw [if_neg hquiet, if_neg fun hnoAnswer => hquiet (hsilent.1 hnoAnswer.2)]
      rfl

lemma attemptEnding_of_isAborted {ι : Type*} {frames : List (ι × FrameOutcome)}
    (h : frames.any (·.2.isAborted) = true) : attemptEnding frames = .failed := by
  obtain ⟨frame, hframe, haborted⟩ := List.any_eq_true.1 h
  rw [attemptEnding, if_neg, if_neg]
  · intro houtcomes
    rcases houtcomes frame hframe with houtcome | houtcome <;> rw [houtcome] at haborted <;>
      cases haborted
  · intro houtcomes
    rw [houtcomes frame hframe] at haborted
    cases haborted

/-- The result of the loop is the ending of its last attempt. -/
lemma endingOf_retryOnlyFailedLoop {faults : ℕ → ℕ → FrameOutcome} (retries : ℕ)
    (lastErrors : List Error) (device : γ) (full : List (Option Response))
    (pending : List (ℕ × κ)) (hquery : ∀ query ∈ pending, Device.isQuery γ query.2) :
    endingOf (retryOnlyFailedLoop faults retries lastErrors device full pending).2 =
      lastEnding (@endingOf Unit (.error (queryFailureError lastErrors)))
        (queryFrames faults retries pending) := by
  induction retries generalizing lastErrors device full pending with
  | zero =>
    rw [retryOnlyFailedLoop, queryFrames, lastEnding]
    cases queryFailureError lastErrors <;> rfl
  | succ retries ih =>
    rw [retryOnlyFailedLoop, queryFrames, lastEnding_cons]
    split
    case h_1 device' hsend =>
      have haborted := isAborted_of_sendCommands hsend
      rw [if_pos (.inr haborted), attemptEnding_of_isAborted haborted]
      rfl
    case h_2 device' responses hsend =>
      obtain ⟨hanswers, haborted⟩ := answers_of_sendCommands hquery hsend
      have hunanswered := failed_map_fst hanswers
      rw [attemptEnding_of_answers hanswers]
      set failed := (pending.zip responses).filter
        fun answer => checkCommandFailed γ answer.1.2 answer.2 ≠ none with hfailed
      by_cases hempty : failed = []
      · rw [if_pos hempty, if_pos hempty, if_pos]
        · rfl
        · rw [← hunanswered, hempty]
          exact .inl rfl
      · rw [if_neg hempty, if_neg hempty, if_neg, ih, hunanswered]
        · intro query hmem
          obtain ⟨answer, hanswer, rfl⟩ := List.mem_map.1 hmem
          exact hquery _ (List.of_mem_zip (List.mem_of_mem_filter hanswer)).1
        · rw [← hunanswered, List.map_eq_nil_iff, haborted]
          simpa using hempty

/-- The attempts of a call of `query_responses_retry_only_failed`. -/
def callFrames (commands : List κ) (faults : Faults) : List (List ((ℕ × κ) × FrameOutcome)) :=
  queryFrames faults maxCommandRetries ((List.range commands.length).zip commands)

lemma endingOf_queryResponsesRetryOnlyFailed (device : γ) {commands : List κ} (faults : Faults)
    (hne : commands ≠ []) (hquery : ∀ command ∈ commands, Device.isQuery γ command) :
    endingOf (queryResponsesRetryOnlyFailed device commands faults).2 =
      lastEnding .failed (callFrames commands faults) := by
  rw [queryResponsesRetryOnlyFailed, if_neg hne, endingOf_retryOnlyFailedLoop]
  · rfl
  · exact fun query hmem => hquery query.2 (List.of_mem_zip hmem).2

end Loop

/-! ### The settings -/

/-- What the ending of a call makes of a setting. -/
def OptionalSetting.afterCall (setting : OptionalSetting) : Ending → OptionalSetting
  | .answered => setting.noteAnswered
  | .silence => setting.noteAbsent.getD setting
  | .failed => setting

lemma GroupsParam.setting_noted_read (param : GroupsParam) (gear : Gear) (faults : Faults) :
    (param.read gear faults).1.setting =
      param.setting.afterCall (lastEnding .failed (callFrames queryCommands faults)) := by
  rw [← endingOf_queryResponsesRetryOnlyFailed gear faults (by decide) (by decide), read]
  rcases queryResponsesRetryOnlyFailed gear queryCommands faults with ⟨gear', error | responses⟩
  · cases error with
    | noAnswer =>
      simp only [endingOf, OptionalSetting.afterCall]
      cases param.setting.noteAbsent <;> rfl
    | runtime => rfl
    | other => rfl
  · rfl

namespace ScenesParam

/-- The scenes that the next call of `fetch` reads. -/
def fetchIndexes (param : ScenesParam) : List (Fin 16) :=
  (List.finRange 16).filter fun i =>
    param.fetchCursor ≤ i.val ∧ i.val < min (param.fetchCursor + 8) 16

/-- `fetch` -/
def fetch (param : ScenesParam) (gear : Gear) (faults : Faults) :
    ScenesParam × Gear × Except Error Bool :=
  if param.fetchCursor ≥ 16 then (param, gear, .ok true)
  else
    match param.readScenes gear param.fetchIndexes faults with
    | (param, gear, .error .noAnswer) =>
      match param.setting.noteAbsent with
      | none => (param, gear, .error .noAnswer)
      | some setting => ({ param with setting }, gear, .ok true)
    | (param, gear, .error error) => (param, gear, .error error)
    | (param, gear, .ok ()) =>
      let stop := min (param.fetchCursor + 8) 16
      let param := { param with setting := param.setting.noteAnswered, fetchCursor := stop }
      (param, gear, .ok (decide (stop ≥ 16)))

/-- `_read_scenes` leaves the note of the setting to its caller. -/
lemma readScenes_spec (param : ScenesParam) (gear : Gear) {indexes : List (Fin 16)}
    (faults : Faults) (hne : indexes ≠ []) :
    (param.readScenes gear indexes faults).1.setting = param.setting ∧
      endingOf (param.readScenes gear indexes faults).2.2 =
        lastEnding .failed (callFrames (indexes.map Command.querySceneLevel) faults) := by
  rw [← endingOf_queryResponsesRetryOnlyFailed gear faults (by simpa using hne)
    (by simp [Device.isQuery]), readScenes]
  rcases queryResponsesRetryOnlyFailed gear (indexes.map Command.querySceneLevel) faults with
    ⟨gear', error | responses⟩
  · cases error <;> exact ⟨rfl, rfl⟩
  · exact ⟨rfl, rfl⟩

lemma setting_noted_read (param : ScenesParam) (gear : Gear) (faults : Faults) :
    (param.read gear faults).1.setting = param.setting.afterCall
      (lastEnding .failed
        (callFrames ((List.finRange 16).map Command.querySceneLevel) faults)) := by
  obtain ⟨hsetting, hending⟩ := @readScenes_spec param gear (List.finRange 16) faults (by decide)
  rw [← hending, ← hsetting, read]
  rcases param.readScenes gear (List.finRange 16) faults with ⟨param', gear', error | _⟩
  · cases error with
    | noAnswer =>
      simp only [endingOf, OptionalSetting.afterCall]
      cases param'.setting.noteAbsent <;> rfl
    | runtime => rfl
    | other => rfl
  · rfl

lemma fetchIndexes_ne_nil {param : ScenesParam} (h : param.fetchCursor < 16) :
    param.fetchIndexes ≠ [] := by
  refine List.ne_nil_of_mem (a := ⟨param.fetchCursor, h⟩) ?_
  simp [fetchIndexes]

lemma setting_fetch {param : ScenesParam} (gear : Gear) (faults : Faults)
    (h : param.fetchCursor < 16) :
    (param.fetch gear faults).1.setting = param.setting.afterCall
      (lastEnding .failed
        (callFrames (param.fetchIndexes.map Command.querySceneLevel) faults)) := by
  obtain ⟨hsetting, hending⟩ := param.readScenes_spec gear faults (fetchIndexes_ne_nil h)
  rw [← hending, ← hsetting, fetch, if_neg (by omega)]
  rcases param.readScenes gear param.fetchIndexes faults with ⟨param', gear', error | _⟩
  · cases error with
    | noAnswer =>
      simp only [endingOf, OptionalSetting.afterCall]
      cases param'.setting.noteAbsent <;> rfl
    | runtime => rfl
    | other => rfl
  · rfl

end ScenesParam

/-! ### Reads of one gear -/

/-- The params of a gear, and whether it has answered a query of each. -/
structure Reads where
  groups : GroupsParam := {}
  scenes : ScenesParam := {}
  groupsAnswered : Bool := false
  scenesAnswered : Bool := false

/-- A call of a param, with the gear and the fate of the frames. -/
inductive ReadCall where
  | readGroups (gear : Gear) (faults : Faults)
  | readScenes (gear : Gear) (faults : Faults)
  | fetchScenes (gear : Gear) (faults : Faults)

namespace Reads

/-- The attempts of a call; a `fetch` behind the last scene sends nothing. -/
def frames (s : Reads) : ReadCall → List (List ((ℕ × Command) × FrameOutcome))
  | .readGroups _ faults => callFrames GroupsParam.queryCommands faults
  | .readScenes _ faults => callFrames ((List.finRange 16).map Command.querySceneLevel) faults
  | .fetchScenes _ faults =>
    if s.scenes.fetchCursor ≥ 16 then []
    else callFrames (s.scenes.fetchIndexes.map Command.querySceneLevel) faults

def step (s : Reads) (call : ReadCall) : Reads :=
  match call with
  | .readGroups gear faults =>
    { s with
      groups := (s.groups.read gear faults).1
      groupsAnswered := s.groupsAnswered || someAnswered (s.frames call) }
  | .readScenes gear faults =>
    { s with
      scenes := (s.scenes.read gear faults).1
      scenesAnswered := s.scenesAnswered || someAnswered (s.frames call) }
  | .fetchScenes gear faults =>
    { s with
      scenes := (s.scenes.fetch gear faults).1
      scenesAnswered := s.scenesAnswered || someAnswered (s.frames call) }

/-- Any calls of the params, which start without anything read. -/
def transition : Transition Reads ReadCall where
  init s := s = {}
  step s call := some (s.step call)

/-- No setting of which the gear has answered a query is declared absent. -/
def AbsentIfSilent (s : Reads) : Prop :=
  (s.groups.setting.isAbsent → s.groupsAnswered = false) ∧
    (s.scenes.setting.isAbsent → s.scenesAnswered = false)

end Reads

/-- A setting of which the gear has answered some query, but not yet all queries of a call:
the call does not end in silence, and the setting is not declared absent. -/
def PartlyAnsweredFails (setting : OptionalSetting) (answered : Bool)
    (attempts : List (List ((ℕ × Command) × FrameOutcome))) : Prop :=
  setting.everAnswered = false → lastEnding .failed attempts ≠ .answered →
    answered || someAnswered attempts →
    lastEnding .failed attempts ≠ .silence ∧ setting.isAbsent = false

/-- The condition on a call of a param. -/
def Reads.PartlyAnsweredFails (s : Reads) (call : ReadCall) : Prop :=
  match call with
  | .readGroups _ _ =>
    Settings.PartlyAnsweredFails s.groups.setting s.groupsAnswered (s.frames call)
  | .readScenes _ _ | .fetchScenes _ _ =>
    Settings.PartlyAnsweredFails s.scenes.setting s.scenesAnswered (s.frames call)

/-- A setting that is declared absent was never read. -/
def OptionalSetting.Consistent (setting : OptionalSetting) : Prop :=
  setting.isAbsent → setting.everAnswered = false

lemma OptionalSetting.Consistent.afterCall {setting : OptionalSetting} (h : setting.Consistent)
    (ending : Ending) : (setting.afterCall ending).Consistent := by
  cases ending with
  | answered => exact fun habsent => by cases habsent
  | silence =>
    rw [OptionalSetting.afterCall, noteAbsent]
    split
    · exact h
    · exact fun _ => Bool.eq_false_of_not_eq_true ‹_›
  | failed => exact h

/-- After a call the setting is declared absent only if nothing was answered, iff the call
meets the condition. -/
lemma OptionalSetting.Consistent.afterCall_iff {setting : OptionalSetting} {answered : Bool}
    {attempts : List (List ((ℕ × Command) × FrameOutcome))} (h : setting.Consistent) :
    ((setting.afterCall (lastEnding .failed attempts)).isAbsent →
        (answered || someAnswered attempts) = false) ↔
      PartlyAnsweredFails setting answered attempts := by
  rw [PartlyAnsweredFails]
  cases hending : lastEnding .failed attempts with
  | answered => simp [OptionalSetting.afterCall, noteAnswered]
  | silence =>
    rw [OptionalSetting.afterCall, noteAbsent]
    cases hever : setting.everAnswered with
    | true =>
      -- what was read once is not absent
      have habsent : setting.isAbsent ≠ true := fun habsent => by simp [h habsent] at hever
      simp [habsent]
    | false => simp
  | failed =>
    rw [OptionalSetting.afterCall]
    cases habsent : setting.isAbsent with
    | true => simp [h habsent]
    | false => simp

namespace Reads

/-- What every call keeps. -/
structure Consistent (s : Reads) : Prop where
  groups : s.groups.setting.Consistent
  scenes : s.scenes.setting.Consistent

/-- The setting of the scenes after a call of `fetch`, also of one that sends nothing. -/
lemma setting_fetch (s : Reads) (gear : Gear) (faults : Faults) :
    (s.scenes.fetch gear faults).1.setting = s.scenes.setting.afterCall
      (lastEnding .failed (s.frames (.fetchScenes gear faults))) := by
  rw [frames]
  by_cases h : s.scenes.fetchCursor ≥ 16
  · rw [ScenesParam.fetch, if_pos h, if_pos h]
    rfl
  · rw [if_neg h]
    exact ScenesParam.setting_fetch gear faults (by omega)

/-- A call keeps the law iff it meets the condition. -/
lemma Consistent.step {s : Reads} (h : Consistent s) (hlaw : AbsentIfSilent s) (call : ReadCall) :
    Consistent (s.step call) ∧ (AbsentIfSilent (s.step call) ↔ s.PartlyAnsweredFails call) := by
  cases call with
  | readGroups gear faults =>
    have hsetting := s.groups.setting_noted_read gear faults
    refine ⟨⟨?_, h.scenes⟩, ?_⟩
    · exact hsetting ▸ h.groups.afterCall _
    · refine (and_iff_left hlaw.2).trans ?_
      show ((s.groups.read gear faults).1.setting.isAbsent → _) ↔ _
      rw [hsetting]
      exact h.groups.afterCall_iff
  | readScenes gear faults =>
    have hsetting := s.scenes.setting_noted_read gear faults
    refine ⟨⟨h.groups, ?_⟩, ?_⟩
    · exact hsetting ▸ h.scenes.afterCall _
    · refine (and_iff_right hlaw.1).trans ?_
      show ((s.scenes.read gear faults).1.setting.isAbsent → _) ↔ _
      rw [hsetting]
      exact h.scenes.afterCall_iff
  | fetchScenes gear faults =>
    have hsetting := s.setting_fetch gear faults
    refine ⟨⟨h.groups, ?_⟩, ?_⟩
    · exact hsetting ▸ h.scenes.afterCall _
    · refine (and_iff_right hlaw.1).trans ?_
      show ((s.scenes.fetch gear faults).1.setting.isAbsent → _) ↔ _
      rw [hsetting]
      exact h.scenes.afterCall_iff

/-- In a run in which no partly answered call ends in silence or finds its setting declared
absent, a setting is declared absent only if the gear has answered none of its queries. -/
theorem absentIfSilent_of_reach {s : Reads} (h : transition.Reach PartlyAnsweredFails s) :
    AbsentIfSilent s := by
  suffices hboth : Consistent s ∧ AbsentIfSilent s from hboth.2
  refine h.invariant (I := fun s => Consistent s ∧ AbsentIfSilent s) ?_ ?_
  · rintro s rfl
    exact ⟨⟨fun _ => rfl, fun _ => rfl⟩, fun _ => rfl, fun _ => rfl⟩
  · rintro s call s' ⟨hconsistent, hlaw⟩ hok hstep
    obtain rfl := Option.some.inj hstep
    obtain ⟨hnext, hiff⟩ := hconsistent.step hlaw call
    exact ⟨hnext, hiff.2 hok⟩

/-- A gear that is silent about its groups. -/
theorem absentIfSilent_silentGear :
    ∃ s, transition.Reach PartlyAnsweredFails s ∧ s.groups.setting.isAbsent = true ∧
      AbsentIfSilent s := by
  have hreach : transition.Reach PartlyAnsweredFails
      (step {} (.readGroups blankGear fun _ _ => .silent)) := by
    refine (Transition.Reach.init (T := transition) rfl).step ?_ rfl
    intro _ _ hanswered
    exact absurd hanswered (by decide +kernel)
  exact ⟨_, hreach, by decide +kernel, absentIfSilent_of_reach hreach⟩

/-- The gear answers for the groups from zero to seven and is silent about the others. -/
theorem not_absentIfSilent_halfSilent : ¬ ∀ s, transition.Reachable s → AbsentIfSilent s := by
  intro h
  have hreach : transition.Reachable (step {} (.readGroups blankGear
      fun attempt pos => if attempt = 2 ∧ pos = 0 then .received else .silent)) :=
    (Transition.Reach.init (T := transition) rfl).step trivial rfl
  have hanswered := (h _ hreach).1 (by decide +kernel)
  revert hanswered
  decide +kernel

end Reads

end WbMqttDali.Settings
