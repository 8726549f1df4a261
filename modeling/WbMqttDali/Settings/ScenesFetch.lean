import Mathlib
import WbMqttDali.Settings.Absence

/-!
# Scenes that are read in portions

The background fetch reads the scenes of a gear in two portions, a load of the settings reads
them at once.  Both may stop at a silent gear and go on later.  What the handler has read is
what the gear holds, and a handler that is through with its portions is the one that a full
read leaves.
-/

namespace WbMqttDali.Settings

/-! ### Queries that are answered in several attempts -/

section Device

variable {γ κ : Type*} [Device γ κ] {device device' : γ} {commands : List κ}
  {outcomes : ℕ → FrameOutcome} {faults : Faults} {full : List (Option Response)}
  {pending : List (ℕ × κ)} {responses : List Response}

/-- Queries that leave the device as it is. -/
structure OnlyReads (device : γ) (commands : List κ) : Prop where
  isQuery : ∀ command ∈ commands, Device.isQuery γ command = true
  execute : ∀ command ∈ commands, Device.execute device command = device

lemma OnlyReads.transmit {command : κ} {outcome : FrameOutcome} (h : OnlyReads device commands)
    (hcommand : command ∈ commands) : transmit device command outcome = device := by
  rw [Settings.transmit]
  split
  · exact h.execute command hcommand
  · rfl

/-- A response that is no failure is the answer of the device. -/
lemma OnlyReads.sendCommands (h : OnlyReads device commands)
    (hpending : ∀ query ∈ pending, query.2 ∈ commands)
    (hsend : sendCommands device (pending.map Prod.snd) outcomes = (device', some responses)) :
    device' = device ∧ responses.length = pending.length ∧
      ∀ answer ∈ pending.zip responses, checkCommandFailed γ answer.1.2 answer.2 = none →
        answer.2 = .value (Device.answer device answer.1.2) := by
  induction pending generalizing outcomes responses with
  | nil =>
    simp only [List.map_nil, Settings.sendCommands, Prod.mk.injEq, Option.some.injEq] at hsend
    obtain ⟨rfl, rfl⟩ := hsend
    simp
  | cons query pending ih =>
    obtain ⟨response, rest, hrespond, hrest, rfl⟩ := sendCommands_cons.1 hsend
    have hquery := hpending query List.mem_cons_self
    rw [h.transmit hquery] at hrest
    obtain ⟨hdevice, hlength, hanswers⟩ :=
      ih (fun other hother => hpending other (List.mem_cons_of_mem _ hother)) hrest
    refine ⟨hdevice, by simp [hlength], ?_⟩
    intro answer hanswer hok
    rw [List.zip_cons_cons, List.mem_cons] at hanswer
    rcases hanswer with rfl | hanswer
    · exact (respond_of_not_failed hrespond hok).2 (h.isQuery query.2 hquery)
    · exact hanswers answer hanswer hok

/-- The response of the query at the index is the answer of the device. -/
def IsAnswered (device : γ) (commands : List κ) (full : List (Option Response)) (i : ℕ) : Prop :=
  ∀ command, commands[i]? = some command →
    full[i]? = some (some (.value (Device.answer device command)))

/-- The queries that are not pending are answered. -/
structure Filled (device : γ) (commands : List κ) (full : List (Option Response))
    (pending : List (ℕ × κ)) : Prop where
  length_eq : full.length = commands.length
  getElem? : ∀ query ∈ pending, commands[query.1]? = some query.2
  answered : ∀ i command, commands[i]? = some command →
    (i, command) ∈ pending ∨ IsAnswered device commands full i

/-- One response that is put in its place. -/
lemma isAnswered_set {index i : ℕ} {command : κ} (hlength : full.length = commands.length)
    (hcommand : commands[index]? = some command)
    (h : i = index ∨ IsAnswered device commands full i) :
    IsAnswered device commands
      (full.set index (some (.value (Device.answer device command)))) i := by
  intro other hother
  by_cases heq : i = index
  · subst heq
    cases Option.some.inj (hcommand.symm.trans hother)
    obtain ⟨hlt, -⟩ := List.getElem?_eq_some_iff.1 hcommand
    rw [List.getElem?_set_self (by omega)]
  · rw [List.getElem?_set_ne (Ne.symm heq)]
    exact (h.resolve_left heq) other hother

/-- The responses of an attempt are entered. -/
lemma isAnswered_foldl (answers : List ((ℕ × κ) × Response))
    (hlength : full.length = commands.length)
    (hindexes : ∀ answer ∈ answers, commands[answer.1.1]? = some answer.1.2)
    (hvalues : ∀ answer ∈ answers, checkCommandFailed γ answer.1.2 answer.2 = none →
      answer.2 = .value (Device.answer device answer.1.2)) :
    let entered := answers.foldl
      (fun full answer =>
        if checkCommandFailed γ answer.1.2 answer.2 = none then full.set answer.1.1 (some answer.2)
        else full) full
    entered.length = commands.length ∧ ∀ i,
      (IsAnswered device commands full i ∨ ∃ answer ∈ answers, answer.1.1 = i ∧
        checkCommandFailed γ answer.1.2 answer.2 = none) →
      IsAnswered device commands entered i := by
  induction answers generalizing full with
  | nil => exact ⟨hlength, fun i h => h.elim id fun ⟨_, hmem, _⟩ => absurd hmem List.not_mem_nil⟩
  | cons answer answers ih =>
    have hrest := fun (full : List (Option Response)) (hlength : full.length = commands.length) =>
      @ih full hlength (fun other hother => hindexes other (List.mem_cons_of_mem _ hother))
        fun other hother => hvalues other (List.mem_cons_of_mem _ hother)
    simp only [List.foldl_cons]
    by_cases hok : checkCommandFailed γ answer.1.2 answer.2 = none
    · rw [if_pos hok]
      have hvalue := hvalues answer List.mem_cons_self hok
      have hindex := hindexes answer List.mem_cons_self
      obtain ⟨hlength', hanswered⟩ :=
        hrest (full.set answer.1.1 (some answer.2)) (by simpa using hlength)
      refine ⟨hlength', fun i h => hanswered i ?_⟩
      rw [hvalue]
      rcases h with h | ⟨other, hother, hi, hnone⟩
      · exact .inl (isAnswered_set hlength hindex (.inr h))
      · rcases List.mem_cons.1 hother with rfl | hother
        · exact .inl (isAnswered_set hlength hindex (.inl hi.symm))
        · exact .inr ⟨other, hother, hi, hnone⟩
    · rw [if_neg hok]
      obtain ⟨hlength', hanswered⟩ := hrest full hlength
      refine ⟨hlength', fun i h => hanswered i ?_⟩
      rcases h with h | ⟨other, hother, hi, hnone⟩
      · exact .inl h
      · rcases List.mem_cons.1 hother with rfl | hother
        · exact absurd hnone hok
        · exact .inr ⟨other, hother, hi, hnone⟩

lemma mem_zip_of_mem {query : ℕ × κ} (hlength : responses.length = pending.length)
    (h : query ∈ pending) : ∃ response, (query, response) ∈ pending.zip responses := by
  obtain ⟨i, hlt, rfl⟩ := List.mem_iff_getElem.1 h
  have hlt' : i < responses.length := by omega
  refine ⟨responses[i], ?_⟩
  rw [List.mem_iff_getElem]
  exact ⟨i, by simp [hlength, hlt], by simp⟩

/-- The loop over the attempts returns the answers of the device. -/
lemma OnlyReads.retryOnlyFailedLoop (h : OnlyReads device commands) {errors : List Error}
    {results : List (Option Response)} (retries : ℕ) (hfilled : Filled device commands full pending)
    (hreturns : retryOnlyFailedLoop faults retries errors device full pending =
      (device', .ok results)) :
    device' = device ∧
      results = commands.map fun command => some (.value (Device.answer device command)) := by
  induction retries generalizing errors full pending with
  | zero => cases hreturns
  | succ retries ih =>
    rw [Settings.retryOnlyFailedLoop] at hreturns
    split at hreturns
    · cases hreturns
    · rename_i after responses hsend
      obtain ⟨hafter, hlength, hvalues⟩ := h.sendCommands
        (fun query hquery => List.mem_of_getElem? (hfilled.getElem? query hquery)) hsend
      subst hafter
      have hindexes : ∀ answer ∈ pending.zip responses,
          commands[answer.1.1]? = some answer.1.2 :=
        fun answer hanswer => hfilled.getElem? _ (List.of_mem_zip hanswer).1
      obtain ⟨hentered, hanswered⟩ :=
        isAnswered_foldl (pending.zip responses) hfilled.length_eq hindexes hvalues
      simp only at hreturns
      split at hreturns
      case isTrue hnone =>
        simp only [Prod.mk.injEq, Except.ok.injEq] at hreturns
        obtain ⟨rfl, rfl⟩ := hreturns
        refine ⟨rfl, List.ext_getElem? fun i => ?_⟩
        rw [List.getElem?_map]
        cases hcommand : commands[i]? with
        | none =>
          rw [Option.map_none, List.getElem?_eq_none_iff, hentered]
          exact List.getElem?_eq_none_iff.1 hcommand
        | some command =>
          refine hanswered i ?_ command hcommand
          rcases hfilled.answered i command hcommand with hmem | h
          · -- no response of this attempt is a failure
            obtain ⟨response, hzip⟩ := mem_zip_of_mem hlength hmem
            refine .inr ⟨_, hzip, rfl, ?_⟩
            by_contra hfailed
            have hmem : ((i, command), response) ∈ (pending.zip responses).filter fun answer =>
                checkCommandFailed γ answer.1.2 answer.2 ≠ none :=
              List.mem_filter.2 ⟨hzip, by simpa using hfailed⟩
            rw [hnone] at hmem
            cases hmem
          · exact .inl h
      case isFalse =>
        refine ih ⟨hentered, ?_, ?_⟩ hreturns
        · intro query hquery
          obtain ⟨answer, hanswer, rfl⟩ := List.mem_map.1 hquery
          exact hindexes answer (List.mem_filter.1 hanswer).1
        · intro i command hcommand
          rcases hfilled.answered i command hcommand with hmem | h
          · obtain ⟨response, hzip⟩ := mem_zip_of_mem hlength hmem
            by_cases hok : checkCommandFailed γ command response = none
            · exact .inr (hanswered i (.inr ⟨_, hzip, rfl, hok⟩))
            · left
              exact List.mem_map.2 ⟨_, List.mem_filter.2 ⟨hzip, by simpa using hok⟩, rfl⟩
          · exact .inr (hanswered i (.inl h))

/-- A call that returns has an answer of the device to each query, from one attempt or another. -/
theorem OnlyReads.queryResponsesRetryOnlyFailed (h : OnlyReads device commands)
    {results : List (Option Response)}
    (hreturns : queryResponsesRetryOnlyFailed device commands faults = (device', .ok results)) :
    device' = device ∧
      results = commands.map fun command => some (.value (Device.answer device command)) := by
  rw [Settings.queryResponsesRetryOnlyFailed] at hreturns
  split at hreturns
  case isTrue hnil =>
    simp only [Prod.mk.injEq, Except.ok.injEq] at hreturns
    obtain ⟨rfl, rfl⟩ := hreturns
    simp [hnil]
  case isFalse =>
    refine h.retryOnlyFailedLoop maxCommandRetries ⟨by simp, ?_, ?_⟩ hreturns
    · intro query hquery
      obtain ⟨i, hlt, rfl⟩ := List.mem_iff_getElem.1 hquery
      simp at hlt
      simp [hlt]
    · intro i command hcommand
      left
      obtain ⟨hlt, rfl⟩ := List.getElem?_eq_some_iff.1 hcommand
      rw [List.mem_iff_getElem]
      exact ⟨i, by simpa using hlt, by simp⟩

end Device

/-! ### The scenes of a gear -/

namespace ScenesParam

variable {param param' : ScenesParam} {gear gear' : Gear} {faults : Faults}

lemma onlyReads_querySceneLevel (gear : Gear) (indices : List (Fin 16)) :
    OnlyReads gear (indices.map Command.querySceneLevel) where
  isQuery command hcommand := by
    obtain ⟨i, -, rfl⟩ := List.mem_map.1 hcommand
    rfl
  execute command hcommand := by
    obtain ⟨i, -, rfl⟩ := List.mem_map.1 hcommand
    rfl

/-- The answers are entered at their scenes. -/
lemma foldl_update_answers (gear : Gear) (indices : List (Fin 16)) (scenes : Fin 16 → ℕ) :
    (indices.zip (indices.map fun i => some (Response.value (gear.scenes i)))).foldl
        (fun scenes (i, response) =>
          Function.update scenes i (response.getD .none).asInteger) scenes =
      fun i => if i ∈ indices then gear.scenes i else scenes i := by
  induction indices generalizing scenes with
  | nil => simp
  | cons first indices ih =>
    simp only [List.map_cons, List.zip_cons_cons, List.foldl_cons]
    rw [ih]
    ext i
    by_cases hi : i ∈ indices
    · simp [hi]
    · by_cases hfirst : i = first
      · subst hfirst
        simp [hi, Response.asInteger]
      · simp [hi, hfirst]

/-- A read that returns has entered what the gear holds. -/
lemma readScenes_ok {indices : List (Fin 16)}
    (h : param.readScenes gear indices faults = (param', gear', .ok ())) :
    gear' = gear ∧
      param' = { param with
        scenes := fun i => if i ∈ indices then gear.scenes i else param.scenes i } := by
  rw [readScenes] at h
  split at h
  · cases h
  · rename_i after responses hcall
    obtain ⟨rfl, rfl⟩ :=
      (onlyReads_querySceneLevel gear indices).queryResponsesRetryOnlyFailed hcall
    simp only [Prod.mk.injEq, and_true] at h
    obtain ⟨rfl, rfl⟩ := h
    refine ⟨rfl, ?_⟩
    rw [List.map_map]
    congr 1
    exact foldl_update_answers after indices param.scenes

/-- A read that fails leaves the handler as it was. -/
lemma readScenes_error {indices : List (Fin 16)} {error : Error}
    (h : param.readScenes gear indices faults = (param', gear', .error error)) :
    param' = param := by
  rw [readScenes] at h
  split at h
  · simp only [Prod.mk.injEq] at h
    exact h.1.symm
  · cases h

/-- The handler has what the gear holds of the scenes in front of its cursor, and a gear that
has answered is none without scenes. -/
structure Knows (gear : Gear) (param : ScenesParam) : Prop where
  cursor_le : param.fetchCursor ≤ 16
  scenes : ∀ i : Fin 16, i.val < param.fetchCursor → param.scenes i = gear.scenes i
  answered : 0 < param.fetchCursor → param.setting.everAnswered = true ∧
    param.setting.isAbsent = false

lemma Knows.start (gear : Gear) : Knows gear {} := ⟨by simp, by simp, by simp⟩

/-- A handler that has not got an answer may take the gear for one without scenes. -/
lemma Knows.noteAbsent (h : Knows gear param) {setting : OptionalSetting}
    (hnote : param.setting.noteAbsent = some setting) : Knows gear { param with setting } := by
  rw [OptionalSetting.noteAbsent] at hnote
  split at hnote
  case isTrue => cases hnote
  case isFalse hever =>
    refine ⟨h.cursor_le, h.scenes, fun hpos => ?_⟩
    exact absurd (h.answered hpos).1 hever

lemma Knows.fetch (h : Knows gear param) (faults : Faults) :
    Knows gear (param.fetch gear faults).1 := by
  rw [ScenesParam.fetch]
  split
  case isTrue => exact h
  case isFalse hlt =>
    split
    · rename_i param' gear' hread
      rw [readScenes_error hread] at *
      split
      · exact h
      · rename_i setting hnote
        exact h.noteAbsent hnote
    · rename_i param' gear' error _ hread
      rw [readScenes_error hread]
      exact h
    · rename_i param' gear' hread
      obtain ⟨-, rfl⟩ := readScenes_ok hread
      refine ⟨min_le_right _ _, fun i hi => ?_, fun _ => ⟨rfl, rfl⟩⟩
      simp only [fetchIndexes, List.mem_filter, List.mem_finRange, true_and, decide_eq_true_eq]
      split
      case isTrue => rfl
      case isFalse hout =>
        -- a scene in front of this portion
        refine h.scenes i ?_
        simp only at hi
        omega

lemma Knows.read (h : Knows gear param) (faults : Faults) :
    Knows gear (param.read gear faults).1 := by
  rw [ScenesParam.read]
  split
  · rename_i param' gear' hread
    rw [readScenes_error hread] at *
    split
    · exact h
    · rename_i setting hnote
      exact h.noteAbsent hnote
  · rename_i param' gear' error _ hread
    rw [readScenes_error hread]
    exact h
  · rename_i param' gear' hread
    obtain ⟨-, rfl⟩ := readScenes_ok hread
    exact ⟨le_rfl, fun i _ => by simp, fun _ => ⟨rfl, rfl⟩⟩

/-- The calls that read the scenes, with what happens to their frames. -/
inductive Call where
  | fetch (faults : Faults)
  | read (faults : Faults)

/-- The handler behind a call. -/
def call (gear : Gear) (param : ScenesParam) : Call → ScenesParam
  | .fetch faults => (param.fetch gear faults).1
  | .read faults => (param.read gear faults).1

lemma knows_calls (calls : List Call) (h : Knows gear param) :
    Knows gear (calls.foldl (call gear) param) := by
  induction calls generalizing param with
  | nil => exact h
  | cons first calls ih =>
    apply ih
    cases first with
    | fetch faults => exact h.fetch faults
    | read faults => exact h.read faults

/-- A full read that returns leaves this handler, whatever the handler was before. -/
lemma of_read_ok {scenes : Fin 16 → SceneSetting}
    (h : param.read gear faults = (param', gear', .ok (some scenes))) :
    param' = ⟨⟨false, true⟩, gear.scenes, 16⟩ ∧ scenes = param'.scenesToJson := by
  rw [ScenesParam.read] at h
  split at h
  · split at h <;> cases h
  · cases h
  · rename_i after gear'' hread
    obtain ⟨-, rfl⟩ := readScenes_ok hread
    simp only [Prod.mk.injEq, Except.ok.injEq, Option.some.injEq] at h
    obtain ⟨rfl, -, rfl⟩ := h
    refine ⟨?_, rfl⟩
    simp [OptionalSetting.noteAnswered]

/-- Whatever portions and full reads of a gear have been lost and made up for, the handler has what
the gear holds of the scenes in front of its cursor.  Once it is through, it is the handler that
any full read of the gear leaves that returns scenes, and it stands for these scenes. -/
theorem calls_agree_with_read (gear : Gear) (calls : List Call) :
    let param := calls.foldl (call gear) {}
    (∀ i : Fin 16, i.val < param.fetchCursor → param.scenes i = gear.scenes i) ∧
      (param.fetchCursor = 16 → ∀ other faults other' gear' scenes,
        ScenesParam.read other gear faults = (other', gear', .ok (some scenes)) →
        other' = param ∧ scenes = param.scenesToJson) := by
  intro param
  have hknows : Knows gear param := knows_calls calls (Knows.start gear)
  refine ⟨hknows.scenes, fun hcursor other faults other' gear' scenes hread => ?_⟩
  obtain ⟨rfl, rfl⟩ := of_read_ok hread
  obtain ⟨hever, habsent⟩ := hknows.answered (by omega)
  have hparam : param = ⟨⟨false, true⟩, gear.scenes, 16⟩ := by
    have hscenes : param.scenes = gear.scenes := by
      ext i
      exact hknows.scenes i (by omega)
    have hsetting : param.setting = ⟨false, true⟩ := by
      rw [← habsent, ← hever]
    rw [← hscenes, ← hsetting, ← hcursor]
  exact ⟨hparam.symm, by rw [hparam]⟩

end ScenesParam

end WbMqttDali.Settings
