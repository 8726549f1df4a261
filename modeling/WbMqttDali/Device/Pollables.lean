import WbMqttDali.Device.Polling
import WbMqttDali.EventSync.ColourRead

/-!
# Pollables

What a round polls: a single query, or a read that takes several ticks, such as the colour of a
DT8 gear or the energy of a DT51 gear.  A step of a pollable plans the commands of one tick, and
its coroutine goes on with the responses to them.
-/

namespace WbMqttDali.PollRound

open Device (EventPollSchedule)
open EventSync (ColourType ColourComponent componentsByColourType)
open ColourRead (decodeColourType)

/-- The raw values of the responses to the commands of a tick, or `none` where a command failed
for good. -/
abbrev ReadOutcome := Option (ℕ → ℕ)

inductive PollCoroutine
  | query
  | firstSubbatch
  | componentSubbatch
  | scaleChunk
  | chunk
  deriving DecidableEq, Repr

structure ControlsPollRequestResult where
  hasMore : Bool
  pollCoroutine : Option PollCoroutine := none
  commandsCount : ℕ := 0
  deriving DecidableEq, Repr

/-! ### The colour of a DT8 gear -/

/-- `_Type8ColourReadProgress`; a read that knows the colour type still has components to read. -/
structure Type8ColourReadProgress where
  colourType : Option ColourType
  pendingComponents : List ColourComponent
  pending_ne_nil : colourType ≠ none → pendingComponents ≠ []

structure Type8Parameters where
  schedule : EventPollSchedule
  currentColourType : Option ColourType
  readProgress : Option Type8ColourReadProgress

/-- A read that has not sent anything. -/
def Type8ColourReadProgress.new : Type8ColourReadProgress := ⟨none, [], fun h => absurd rfl h⟩

lemma componentsByColourType_ne_nil (colourType : ColourType) :
    componentsByColourType colourType ≠ [] := by
  cases colourType <;> decide

namespace Type8Parameters

variable (pollable : Type8Parameters)

def isPollDue (now : ℚ) : Bool :=
  if pollable.currentColourType = none then false
  -- a read in progress goes on whatever the interval is
  else if pollable.readProgress.isSome then true
  else pollable.schedule.isPollDue now

def cancelPendingPoll : Type8Parameters := { pollable with readProgress := none }

def peekNextSubbatchSize : ℕ :=
  if pollable.currentColourType = none then 0
  else
    match pollable.readProgress.bind (·.colourType) with
    | none => 3
    | some colourType => if colourType = .rgbwaf then 2 else 3

def nextPollStep (maxCommands : ℤ) (now uniform : ℚ) :
    ControlsPollRequestResult × Type8Parameters :=
  if pollable.isPollDue now = false then ({ hasMore := false }, pollable)
  else if pollable.peekNextSubbatchSize > maxCommands then ({ hasMore := true }, pollable)
  else
    let progress := pollable.readProgress.getD .new
    let pollable :=
      if pollable.readProgress.isSome then pollable
      else
        { pollable with
          readProgress := some progress
          schedule := pollable.schedule.scheduleNextPeriodicPoll now uniform }
    match progress.colourType with
    | none =>
      ({ hasMore := true, pollCoroutine := some .firstSubbatch, commandsCount := 3 }, pollable)
    | some colourType =>
      ({ hasMore := decide (progress.pendingComponents.length > 1)
         pollCoroutine := some .componentSubbatch
         commandsCount := if colourType = .rgbwaf then 2 else 3 }, pollable)

/-- `_do_first_subbatch`, after its commands were sent. -/
def doFirstSubbatch : ReadOutcome → Type8Parameters
  | none => pollable.cancelPendingPoll
  | some responses =>
    -- `MASK` is none of the colour types
    match decodeColourType (responses 2) with
    | none => pollable.cancelPendingPoll
    | some colourType =>
      if some colourType ≠ pollable.currentColourType then pollable.cancelPendingPoll
      else
        { pollable with
          readProgress := some
            ⟨some colourType, componentsByColourType colourType,
              fun _ => componentsByColourType_ne_nil colourType⟩ }

/-- `_do_component_subbatch`, after its commands were sent. -/
def doComponentSubbatch : ReadOutcome → Type8Parameters
  | none => pollable.cancelPendingPoll
  | some _ =>
    match pollable.readProgress with
    | none => pollable
    | some progress =>
      if h : progress.pendingComponents.tail = [] then { pollable with readProgress := none }
      else
        { pollable with
          readProgress := some ⟨progress.colourType, progress.pendingComponents.tail, fun _ => h⟩ }

end Type8Parameters

/-! ### The energy of a DT51 gear -/

def energyDataLen : ℕ := 6

def energyChunkSize : ℕ := 2

/-- `_Type51EnergyReadProgress`; the bytes come in chunks, and a read with all of them is over. -/
structure Type51EnergyReadProgress where
  bytesRead : List ℕ
  chunks : energyChunkSize ∣ bytesRead.length
  incomplete : bytesRead.length < energyDataLen

structure Type51Parameters where
  schedule : EventPollSchedule
  scaleByte : Option ℕ
  readProgress : Option Type51EnergyReadProgress

def Type51EnergyReadProgress.new : Type51EnergyReadProgress := ⟨[], by decide, by decide⟩

def Type51EnergyReadProgress.nextChunkIndex (progress : Type51EnergyReadProgress) : ℕ :=
  progress.bytesRead.length / energyChunkSize

namespace Type51Parameters

variable (pollable : Type51Parameters)

def isPollDue (now : ℚ) : Bool :=
  if pollable.readProgress.isSome then true else pollable.schedule.isPollDue now

def cancelPendingPoll : Type51Parameters := { pollable with readProgress := none }

def nextPollStep (maxCommands defaultMaxCommands : ℤ) (now uniform : ℚ) :
    ControlsPollRequestResult × Type51Parameters :=
  -- a chunk may overshoot the budget, but only where no other command was issued this tick
  if maxCommands < defaultMaxCommands then ({ hasMore := true }, pollable)
  else if pollable.isPollDue now = false then ({ hasMore := false }, pollable)
  else
    let progress := pollable.readProgress.getD .new
    let pollable :=
      if pollable.readProgress.isSome then pollable
      else
        { pollable with
          readProgress := some progress
          schedule := pollable.schedule.scheduleNextPeriodicPoll now uniform }
    if pollable.scaleByte = none ∧ progress.bytesRead = [] then
      ({ hasMore := true, pollCoroutine := some .scaleChunk, commandsCount := 4 }, pollable)
    else
      ({ hasMore := decide (progress.nextChunkIndex < energyDataLen / energyChunkSize - 1)
         pollCoroutine := some .chunk
         commandsCount := 4 }, pollable)

/-- `_do_scale_chunk`, after its commands were sent. -/
def doScaleChunk : ReadOutcome → Type51Parameters
  | none => pollable.cancelPendingPoll
  | some responses => { pollable with scaleByte := some (responses 2) }

/-- `_do_chunk`, after its commands were sent. -/
def doChunk : ReadOutcome → Type51Parameters
  | none => pollable.cancelPendingPoll
  | some responses =>
    match pollable.readProgress with
    | none => pollable
    | some progress =>
      if h : (progress.bytesRead ++ [responses 2, responses 3]).length < energyDataLen then
        { pollable with
          readProgress := some
            ⟨progress.bytesRead ++ [responses 2, responses 3],
              by simpa [energyChunkSize] using progress.chunks, h⟩ }
      else { pollable with readProgress := none }

end Type51Parameters

/-! ### Pollables of any kind -/

inductive Pollable
  | singleQueryControl (schedule : EventPollSchedule)
  | type8Parameters (pollable : Type8Parameters)
  | type51Parameters (pollable : Type51Parameters)

namespace Pollable

def isPollDue : Pollable → ℚ → Bool
  | singleQueryControl schedule, now => schedule.isPollDue now
  | type8Parameters pollable, now => pollable.isPollDue now
  | type51Parameters pollable, now => pollable.isPollDue now

def hasInProgressRead : Pollable → Bool
  | singleQueryControl _ => false
  | type8Parameters pollable => pollable.readProgress.isSome
  | type51Parameters pollable => pollable.readProgress.isSome

def cancelPendingPoll : Pollable → Pollable
  | singleQueryControl schedule => singleQueryControl schedule
  | type8Parameters pollable => type8Parameters pollable.cancelPendingPoll
  | type51Parameters pollable => type51Parameters pollable.cancelPendingPoll

/-- `uniform` is what `random.uniform` returns where the step schedules the next periodic poll. -/
def nextPollStep (maxCommands defaultMaxCommands : ℤ) (now uniform : ℚ) :
    Pollable → ControlsPollRequestResult × Pollable
  | singleQueryControl schedule =>
    if maxCommands < 1 then ({ hasMore := true }, singleQueryControl schedule)
    else
      ({ hasMore := false, pollCoroutine := some .query, commandsCount := 1 },
        singleQueryControl (schedule.scheduleNextPeriodicPoll now uniform))
  | type8Parameters pollable =>
    (pollable.nextPollStep maxCommands now uniform).map id type8Parameters
  | type51Parameters pollable =>
    (pollable.nextPollStep maxCommands defaultMaxCommands now uniform).map id type51Parameters

/-- What a coroutine that a step has planned leaves of its pollable. -/
def finish (outcome : ReadOutcome) : PollCoroutine → Pollable → Pollable
  | .firstSubbatch, type8Parameters pollable => type8Parameters (pollable.doFirstSubbatch outcome)
  | .componentSubbatch, type8Parameters pollable =>
    type8Parameters (pollable.doComponentSubbatch outcome)
  | .scaleChunk, type51Parameters pollable => type51Parameters (pollable.doScaleChunk outcome)
  | .chunk, type51Parameters pollable => type51Parameters (pollable.doChunk outcome)
  | _, pollable => pollable

end Pollable

/-! ### What a step does -/

/-- The coroutines of a DT51 gear, which alone may overshoot the budget. -/
def PollCoroutine.IsEnergyChunk (coroutine : PollCoroutine) : Prop :=
  coroutine = .scaleChunk ∨ coroutine = .chunk

/-- All that a step with the given result does to its pollable. -/
structure Steps (maxCommands defaultMaxCommands : ℤ) (now : ℚ) (before : Pollable)
    (result : ControlsPollRequestResult) (after : Pollable) : Prop where
  unchanged : result.pollCoroutine = none → after = before
  skipped : result.pollCoroutine = none → result.hasMore = false → before.isPollDue now = false
  blocked : result.pollCoroutine = none → result.hasMore = true → maxCommands < defaultMaxCommands
  fits : ∀ coroutine, result.pollCoroutine = some coroutine → 0 < result.commandsCount ∧
    ((result.commandsCount : ℤ) ≤ maxCommands ∨
      maxCommands = defaultMaxCommands ∧ result.commandsCount = 4 ∧ coroutine.IsEnergyChunk)
  goesOn : ∀ coroutine, result.pollCoroutine = some coroutine → ∀ outcome,
    (after.finish outcome coroutine).hasInProgressRead = true →
      result.hasMore = true ∧ ∀ later, (after.finish outcome coroutine).isPollDue later = true

section Steps

variable {maxCommands defaultMaxCommands : ℤ} {now uniform : ℚ}

/-- A step that plans nothing has nothing to poll or no commands left for it. -/
lemma Steps.of_none {before : Pollable} {hasMore : Bool}
    (hskipped : hasMore = false → before.isPollDue now = false)
    (hblocked : hasMore = true → maxCommands < defaultMaxCommands) :
    Steps maxCommands defaultMaxCommands now before { hasMore := hasMore } before :=
  ⟨fun _ => rfl, fun _ => hskipped, fun _ => hblocked, nofun, nofun⟩

lemma Steps.of_some {before after : Pollable} {hasMore : Bool} {coroutine : PollCoroutine}
    {commandsCount : ℕ} (hpos : 0 < commandsCount)
    (hfits : (commandsCount : ℤ) ≤ maxCommands ∨
      maxCommands = defaultMaxCommands ∧ commandsCount = 4 ∧ coroutine.IsEnergyChunk)
    (hgoesOn : ∀ outcome, (after.finish outcome coroutine).hasInProgressRead = true →
      hasMore = true ∧ ∀ later, (after.finish outcome coroutine).isPollDue later = true) :
    Steps maxCommands defaultMaxCommands now before
      { hasMore := hasMore, pollCoroutine := some coroutine, commandsCount := commandsCount }
      after := by
  refine ⟨nofun, nofun, nofun, ?_, ?_⟩
  · rintro _ ⟨⟩
    exact ⟨hpos, hfits⟩
  · rintro _ ⟨⟩
    exact hgoesOn

namespace Type8Parameters

variable {pollable : Type8Parameters}

lemma currentColourType_ne_none (h : pollable.isPollDue now = true) :
    pollable.currentColourType ≠ none := by
  intro hnone
  simp [isPollDue, hnone] at h

lemma isPollDue_of_inProgress (htype : pollable.currentColourType ≠ none)
    (hread : pollable.readProgress.isSome = true) : pollable.isPollDue now = true := by
  simp [isPollDue, htype, hread]

lemma peekNextSubbatchSize_le : pollable.peekNextSubbatchSize ≤ 3 := by
  rw [peekNextSubbatchSize]
  split_ifs
  · omega
  · cases pollable.readProgress.bind (·.colourType) with
    | none => simp
    | some colourType => by_cases h : colourType = .rgbwaf <;> simp [h]

@[simp] lemma currentColourType_doFirstSubbatch (outcome : ReadOutcome) :
    (pollable.doFirstSubbatch outcome).currentColourType = pollable.currentColourType := by
  cases outcome with
  | none => rfl
  | some responses =>
    simp only [doFirstSubbatch]
    cases decodeColourType (responses 2) with
    | none => rfl
    | some colourType =>
      by_cases h : some colourType ≠ pollable.currentColourType <;> simp [h, cancelPendingPoll]

@[simp] lemma currentColourType_doComponentSubbatch (outcome : ReadOutcome) :
    (pollable.doComponentSubbatch outcome).currentColourType = pollable.currentColourType := by
  cases outcome with
  | none => rfl
  | some responses =>
    simp only [doComponentSubbatch]
    cases pollable.readProgress with
    | none => rfl
    | some progress => by_cases h : progress.pendingComponents.tail = [] <;> simp [h]

/-- A component sub-batch that does not end its read leaves a component of several. -/
lemma pending_of_doComponentSubbatch {progress : Type8ColourReadProgress} {outcome : ReadOutcome}
    (hread : pollable.readProgress = some progress)
    (h : (pollable.doComponentSubbatch outcome).readProgress.isSome = true) :
    progress.pendingComponents.length > 1 := by
  cases outcome with
  | none => simp [doComponentSubbatch, cancelPendingPoll] at h
  | some responses =>
    by_cases htail : progress.pendingComponents.tail = []
    · simp [doComponentSubbatch, hread, htail] at h
    · have hlength := List.length_pos_of_ne_nil htail
      rw [List.length_tail] at hlength
      omega

/-- The pollable with a read in progress, a new one if there was none. -/
def started (pollable : Type8Parameters) (now uniform : ℚ) : Type8Parameters :=
  if pollable.readProgress.isSome then pollable
  else
    { pollable with
      readProgress := some (pollable.readProgress.getD .new)
      schedule := pollable.schedule.scheduleNextPeriodicPoll now uniform }

@[simp] lemma readProgress_started : (pollable.started now uniform).readProgress =
    some (pollable.readProgress.getD .new) := by
  cases h : pollable.readProgress <;> simp [started, h]

@[simp] lemma currentColourType_started :
    (pollable.started now uniform).currentColourType = pollable.currentColourType := by
  cases h : pollable.readProgress <;> simp [started, h]

/-- The next sub-batch of a gear that is due is of the size that was asked for. -/
lemma commandsCount_eq (htype : pollable.currentColourType ≠ none) :
    pollable.peekNextSubbatchSize =
      match (pollable.readProgress.getD .new).colourType with
      | none => 3
      | some colourType => if colourType = .rgbwaf then 2 else 3 := by
  rw [peekNextSubbatchSize, if_neg htype]
  cases h : pollable.readProgress <;> simp [Type8ColourReadProgress.new]

theorem steps (hdefault : 3 ≤ defaultMaxCommands) :
    Steps maxCommands defaultMaxCommands now (.type8Parameters pollable)
      (pollable.nextPollStep maxCommands now uniform).1
      (.type8Parameters (pollable.nextPollStep maxCommands now uniform).2) := by
  rw [nextPollStep]
  by_cases hdue : pollable.isPollDue now = false
  · rw [if_pos hdue]
    exact .of_none (fun _ => hdue) nofun
  rw [if_neg hdue]
  have hsize := pollable.peekNextSubbatchSize_le
  by_cases hbudget : pollable.peekNextSubbatchSize > maxCommands
  · rw [if_pos hbudget]
    exact .of_none nofun fun _ => by omega
  rw [if_neg hbudget]
  have htype := currentColourType_ne_none (by simpa using hdue)
  have hcount := commandsCount_eq htype
  simp only [← started.eq_1]
  cases hprogress : (pollable.readProgress.getD .new).colourType with
  | none =>
    simp only [hprogress] at hcount ⊢
    refine .of_some (by omega) (.inl (by omega)) fun outcome hread => ⟨rfl, fun _ => ?_⟩
    exact isPollDue_of_inProgress (by simpa using htype) hread
  | some colourType =>
    simp only [hprogress] at hcount ⊢
    rw [← hcount]
    have hpos : 0 < pollable.peekNextSubbatchSize := by
      rw [hcount]
      split_ifs <;> omega
    refine .of_some hpos (.inl (by omega)) fun outcome hread => ⟨?_, fun _ => ?_⟩
    · simpa using pending_of_doComponentSubbatch readProgress_started hread
    · exact isPollDue_of_inProgress (by simpa using htype) hread

end Type8Parameters

namespace Type51Parameters

variable {pollable : Type51Parameters}

lemma isPollDue_of_inProgress (hread : pollable.readProgress.isSome = true) :
    pollable.isPollDue now = true := by
  simp [isPollDue, hread]

/-- A chunk that does not end its read is not the last one. -/
lemma nextChunkIndex_of_doChunk {progress : Type51EnergyReadProgress} {outcome : ReadOutcome}
    (hread : pollable.readProgress = some progress)
    (h : (pollable.doChunk outcome).readProgress.isSome = true) :
    progress.nextChunkIndex < energyDataLen / energyChunkSize - 1 := by
  cases outcome with
  | none => simp [doChunk, cancelPendingPoll] at h
  | some responses =>
    by_cases hlength : (progress.bytesRead ++ [responses 2, responses 3]).length < energyDataLen
    · simp only [List.length_append, List.length_cons, List.length_nil, energyDataLen] at hlength
      simp only [Type51EnergyReadProgress.nextChunkIndex, energyDataLen, energyChunkSize]
      omega
    · simp only [doChunk, hread, hlength] at h
      simp at h

/-- The pollable with a read in progress, a new one if there was none. -/
def started (pollable : Type51Parameters) (now uniform : ℚ) : Type51Parameters :=
  if pollable.readProgress.isSome then pollable
  else
    { pollable with
      readProgress := some (pollable.readProgress.getD .new)
      schedule := pollable.schedule.scheduleNextPeriodicPoll now uniform }

@[simp] lemma readProgress_started : (pollable.started now uniform).readProgress =
    some (pollable.readProgress.getD .new) := by
  cases h : pollable.readProgress <;> simp [started, h]

theorem steps (hmax : maxCommands ≤ defaultMaxCommands) :
    Steps maxCommands defaultMaxCommands now (.type51Parameters pollable)
      (pollable.nextPollStep maxCommands defaultMaxCommands now uniform).1
      (.type51Parameters
        (pollable.nextPollStep maxCommands defaultMaxCommands now uniform).2) := by
  rw [nextPollStep]
  by_cases hbudget : maxCommands < defaultMaxCommands
  · rw [if_pos hbudget]
    exact .of_none nofun fun _ => hbudget
  rw [if_neg hbudget]
  by_cases hdue : pollable.isPollDue now = false
  · rw [if_pos hdue]
    exact .of_none (fun _ => hdue) nofun
  rw [if_neg hdue]
  simp only [← started.eq_1]
  have hfull : maxCommands = defaultMaxCommands := by omega
  split_ifs
  · refine .of_some (by omega) (.inr ⟨hfull, rfl, .inl rfl⟩) fun outcome hread => ⟨rfl, fun _ => ?_⟩
    exact isPollDue_of_inProgress hread
  · refine .of_some (by omega) (.inr ⟨hfull, rfl, .inr rfl⟩) fun outcome hread =>
      ⟨?_, fun _ => ?_⟩
    · simpa using nextChunkIndex_of_doChunk readProgress_started hread
    · exact isPollDue_of_inProgress hread

end Type51Parameters

namespace Pollable

variable {pollable : Pollable}

/-- The law of `next_poll_step` for every kind of pollable. -/
theorem steps (hdefault : 3 ≤ defaultMaxCommands) (hmax : maxCommands ≤ defaultMaxCommands) :
    Steps maxCommands defaultMaxCommands now pollable
      (pollable.nextPollStep maxCommands defaultMaxCommands now uniform).1
      (pollable.nextPollStep maxCommands defaultMaxCommands now uniform).2 := by
  cases pollable with
  | singleQueryControl schedule =>
    rw [nextPollStep]
    split_ifs with hbudget
    · exact .of_none nofun fun _ => by omega
    · exact .of_some (by omega) (.inl (by omega)) nofun
  | type8Parameters pollable => exact Type8Parameters.steps hdefault
  | type51Parameters pollable => exact Type51Parameters.steps hmax

/-- What is due stays due until it is polled. -/
lemma isPollDue_mono {later : ℚ} (hlater : now ≤ later) (h : pollable.isPollDue now = true) :
    pollable.isPollDue later = true := by
  have hschedule : ∀ schedule : EventPollSchedule, schedule.isPollDue now = true →
      schedule.isPollDue later = true := by
    intro schedule
    rw [EventPollSchedule.isPollDue_iff, EventPollSchedule.isPollDue_iff]
    exact fun hdue due hnext => (hdue due hnext).trans hlater
  cases pollable with
  | singleQueryControl schedule => exact hschedule schedule h
  | type8Parameters pollable =>
    have htype := Type8Parameters.currentColourType_ne_none h
    by_cases hread : pollable.readProgress.isSome = true
    · exact Type8Parameters.isPollDue_of_inProgress htype hread
    · simp only [isPollDue, Type8Parameters.isPollDue, htype, hread] at h ⊢
      exact hschedule _ h
  | type51Parameters pollable =>
    by_cases hread : pollable.readProgress.isSome = true
    · exact Type51Parameters.isPollDue_of_inProgress hread
    · simp only [isPollDue, Type51Parameters.isPollDue, hread] at h ⊢
      exact hschedule _ h

/-- Cancelling concerns a read in progress only. -/
lemma cancelPendingPoll_of_not_inProgress (h : pollable.hasInProgressRead = false) :
    pollable.cancelPendingPoll = pollable := by
  cases pollable with
  | singleQueryControl schedule => rfl
  | type8Parameters pollable =>
    obtain ⟨_, _, readProgress⟩ := pollable
    cases readProgress with
    | none => rfl
    | some progress => cases h
  | type51Parameters pollable =>
    obtain ⟨_, _, readProgress⟩ := pollable
    cases readProgress with
    | none => rfl
    | some progress => cases h

end Pollable

end Steps

end WbMqttDali.PollRound
