import Mathlib
import WbMqttDali.Lib.Dict

/-!
# Attempts to initialize devices

A device whose initialization has failed is tried again after a delay that doubles with every
failure, from 5 s to 60 s.  The delay counts from the start of the step or of the task that made
the attempt, and an attempt takes time.  The scheduler keeps the devices in the order in which
they were scheduled, and offers the first one whose delay is over.
-/

namespace WbMqttDali.InitScheduler

def initRetryInitialDelay : ℚ := 5

def initRetryMultiplier : ℚ := 2

def initRetryMaxDelay : ℚ := 60

structure DeviceInitState where
  nextRetryTime : ℚ := 0
  retryDelay : ℚ := 0
  deriving DecidableEq

def DeviceInitState.hasFailed (state : DeviceInitState) : Bool := 0 < state.retryDelay

/-- What has happened to the devices, the latest first. -/
inductive Happening (Id : Type) where
  | scheduled (mqttId : Id) (time : ℚ)
  /-- The polling loop begins an attempt that the scheduler has offered. -/
  | tried (mqttId : Id) (time : ℚ)
  /-- An attempt failed of a step or a task that had begun at the moment. -/
  | failed (mqttId : Id) (start : ℚ)
  /-- The device was initialized, or is not to be. -/
  | dropped (mqttId : Id)
  | cleared

structure DeviceInitScheduler (Id : Type) where
  pending : Dict Id DeviceInitState := ∅
  history : List (Happening Id) := []

namespace DeviceInitScheduler

variable {Id : Type} [DecidableEq Id] (s : DeviceInitScheduler Id) (mqttId : Id) (now : ℚ)

/-- `schedule` without a delay -/
def schedule : DeviceInitScheduler Id :=
  if mqttId ∈ s.pending.keys then s
  else
    { pending := s.pending.set mqttId { nextRetryTime := now }
      history := .scheduled mqttId now :: s.history }

/-- `remove` and `record_success` -/
def remove : DeviceInitScheduler Id where
  pending := s.pending.erase mqttId
  history := .dropped mqttId :: s.history

/-- The device is due for its first attempt. -/
def isFirstReady (now : ℚ) (state : DeviceInitState) : Bool :=
  !state.hasFailed && state.nextRetryTime ≤ now

/-- The device is due for another attempt. -/
def isRetryReady (now : ℚ) (state : DeviceInitState) : Bool :=
  state.hasFailed && state.nextRetryTime ≤ now

def getFirstAttemptReady : List Id :=
  (s.pending.entries.filter fun entry => isFirstReady now entry.2).map Prod.fst

def getOneRetryReady : Option Id :=
  (s.pending.entries.find? fun entry => isRetryReady now entry.2).map Prod.fst

/-- The delay behind one more failure. -/
def nextDelay (state : DeviceInitState) : ℚ :=
  min (if state.hasFailed then state.retryDelay * initRetryMultiplier else initRetryInitialDelay)
    initRetryMaxDelay

def recordFailure : DeviceInitScheduler Id :=
  match s.pending.get? mqttId with
  | none => s
  | some state =>
    { pending := s.pending.set mqttId
        { nextRetryTime := now + nextDelay state, retryDelay := nextDelay state }
      history := .failed mqttId now :: s.history }

/-- The attempt that was offered begins. -/
def begin : DeviceInitScheduler Id := { s with history := .tried mqttId now :: s.history }

def clear : DeviceInitScheduler Id where
  pending := ∅
  history := .cleared :: s.history

/-- An attempt that was offered, of a step that had begun at the moment `start`: the device is
done with, or fails once more. -/
def attempt (start now : ℚ) (isDone : Bool) : DeviceInitScheduler Id :=
  if isDone then (s.begin mqttId now).remove mqttId
  else (s.begin mqttId now).recordFailure mqttId start

/-! ### The delays -/

/-- The delay behind the given number of failures in a row. -/
def backoff : ℕ → ℚ
  | 0 => 0
  | failures + 1 => min (initRetryInitialDelay * initRetryMultiplier ^ failures) initRetryMaxDelay

lemma five_le_backoff (failures : ℕ) : 5 ≤ backoff (failures + 1) := by
  have hpow : (1 : ℚ) ≤ 2 ^ failures := one_le_pow₀ (by norm_num)
  simp only [backoff, initRetryInitialDelay, initRetryMultiplier, initRetryMaxDelay, le_min_iff]
  constructor
  · linarith
  · norm_num

lemma backoff_le (failures : ℕ) : backoff failures ≤ 60 := by
  cases failures with
  | zero => norm_num [backoff]
  | succ failures => exact min_le_right _ _

lemma backoff_pos_iff {failures : ℕ} : 0 < backoff failures ↔ 0 < failures := by
  cases failures with
  | zero => simp [backoff]
  | succ failures =>
    have hfive := five_le_backoff failures
    simp only [Nat.zero_lt_succ, iff_true]
    linarith

/-- One more failure doubles the delay, up to the highest one. -/
lemma backoff_succ (failures : ℕ) :
    backoff (failures + 1) =
      min (if 0 < failures then backoff failures * initRetryMultiplier else initRetryInitialDelay)
        initRetryMaxDelay := by
  cases failures with
  | zero => simp [backoff]
  | succ failures =>
    rw [if_pos (Nat.zero_lt_succ failures)]
    simp only [backoff, pow_succ, initRetryInitialDelay, initRetryMultiplier, initRetryMaxDelay]
    rcases le_total ((5 : ℚ) * 2 ^ failures) 60 with hle | hge
    · rw [min_eq_left hle, mul_assoc]
    · rw [min_eq_right hge, min_eq_right, min_eq_right]
      · norm_num
      · linarith

/-! ### What the history says -/

/-- The starts of the steps and tasks in which a device failed in a row, the latest first. -/
def failures (mqttId : Id) : List (Happening Id) → List ℚ
  | [] => []
  | .scheduled other _ :: history => if mqttId = other then [] else failures mqttId history
  | .tried _ _ :: history => failures mqttId history
  | .failed other start :: history =>
    if mqttId = other then start :: failures mqttId history else failures mqttId history
  | .dropped other :: history => if mqttId = other then [] else failures mqttId history
  | .cleared :: _ => []

variable {s mqttId now}

/-- The delay of a pending device is that of its failures in a row, and lies behind the last. -/
structure Inv (s : DeviceInitScheduler Id) : Prop where
  retryDelay : ∀ mqttId state, s.pending.get? mqttId = some state →
    state.retryDelay = backoff (failures mqttId s.history).length
  nextRetryTime : ∀ mqttId state, s.pending.get? mqttId = some state →
    ∀ time ∈ (failures mqttId s.history).head?, state.nextRetryTime = time + state.retryDelay

lemma Inv.start : Inv ({} : DeviceInitScheduler Id) where
  retryDelay _ _ h := by simp at h
  nextRetryTime _ _ h := by simp at h

lemma Inv.schedule (h : s.Inv) : (s.schedule mqttId now).Inv := by
  rw [DeviceInitScheduler.schedule]
  split
  case isTrue => exact h
  case isFalse =>
    constructor
    · intro other state hget
      simp only [Dict.get?_set] at hget
      split at hget
      case isTrue heq =>
        cases Option.some.inj hget
        simp [failures, heq, backoff]
      case isFalse hne =>
        rw [failures, if_neg hne]
        exact h.retryDelay other state hget
    · intro other state hget
      simp only [Dict.get?_set] at hget
      split at hget
      case isTrue heq => simp [failures, heq]
      case isFalse hne =>
        rw [failures, if_neg hne]
        exact h.nextRetryTime other state hget

lemma Inv.remove (h : s.Inv) : (s.remove mqttId).Inv := by
  constructor
  · intro other state hget
    simp only [DeviceInitScheduler.remove, Dict.get?_erase] at hget ⊢
    split at hget
    case isTrue => cases hget
    case isFalse hne =>
      rw [failures, if_neg hne]
      exact h.retryDelay other state hget
  · intro other state hget
    simp only [DeviceInitScheduler.remove, Dict.get?_erase] at hget ⊢
    split at hget
    case isTrue => cases hget
    case isFalse hne =>
      rw [failures, if_neg hne]
      exact h.nextRetryTime other state hget

lemma Inv.begin (h : s.Inv) : (s.begin mqttId now).Inv where
  retryDelay := h.retryDelay
  nextRetryTime := h.nextRetryTime

lemma Inv.clear : s.clear.Inv where
  retryDelay _ _ hget := by simp [DeviceInitScheduler.clear] at hget
  nextRetryTime _ _ hget := by simp [DeviceInitScheduler.clear] at hget

/-- The delay of a pending device behind one more failure. -/
lemma Inv.nextDelay_eq (h : s.Inv) {state : DeviceInitState}
    (hget : s.pending.get? mqttId = some state) :
    nextDelay state = backoff ((failures mqttId s.history).length + 1) := by
  have hdelay := h.retryDelay mqttId state hget
  rw [backoff_succ, nextDelay, DeviceInitState.hasFailed, hdelay]
  simp only [decide_eq_true_eq, backoff_pos_iff]

lemma Inv.recordFailure (h : s.Inv) : (s.recordFailure mqttId now).Inv := by
  rw [DeviceInitScheduler.recordFailure]
  split
  · exact h
  · rename_i state hstate
    have hnext := h.nextDelay_eq hstate
    constructor
    · intro other state' hget
      simp only [Dict.get?_set] at hget
      split at hget
      case isTrue heq =>
        cases Option.some.inj hget
        subst heq
        simp only [failures, if_true, List.length_cons]
        exact hnext
      case isFalse hne =>
        rw [failures, if_neg hne]
        exact h.retryDelay other state' hget
    · intro other state' hget
      simp only [Dict.get?_set] at hget
      split at hget
      case isTrue heq =>
        cases Option.some.inj hget
        subst heq
        simp [failures]
      case isFalse hne =>
        rw [failures, if_neg hne]
        exact h.nextRetryTime other state' hget

/-! ### Who is tried -/

/-- The device may be tried at the moment: it has not failed yet, or the delay behind its last
failure is over. -/
def MayTry (mqttId : Id) (now : ℚ) (history : List (Happening Id)) : Prop :=
  ∀ time ∈ (failures mqttId history).head?,
    time + backoff (failures mqttId history).length ≤ now

lemma MayTry.mono {later : ℚ} {history : List (Happening Id)} (h : MayTry mqttId now history)
    (hle : now ≤ later) : MayTry mqttId later history := by
  intro time htime
  have hdue := h time htime
  linarith

/-- The polling loop has tried devices only when they might be tried. -/
def RespectsDelays : List (Happening Id) → Prop
  | [] => True
  | .tried mqttId now :: history => MayTry mqttId now history ∧ RespectsDelays history
  | _ :: history => RespectsDelays history

lemma Inv.mayTry_of_le (h : s.Inv) {state : DeviceInitState}
    (hget : s.pending.get? mqttId = some state) (hle : state.nextRetryTime ≤ now) :
    MayTry mqttId now s.history := by
  intro time htime
  rw [← h.retryDelay mqttId state hget, ← h.nextRetryTime mqttId state hget time htime]
  exact hle

lemma mem_getFirstAttemptReady :
    mqttId ∈ s.getFirstAttemptReady now ↔
      ∃ state, s.pending.get? mqttId = some state ∧ isFirstReady now state = true := by
  simp only [getFirstAttemptReady, List.mem_map, List.mem_filter, Dict.get?_eq_some_iff]
  constructor
  · rintro ⟨⟨id, state⟩, ⟨hmem, hready⟩, rfl⟩
    exact ⟨state, hmem, hready⟩
  · rintro ⟨state, hmem, hready⟩
    exact ⟨(mqttId, state), ⟨hmem, hready⟩, rfl⟩

omit [DecidableEq Id] in
lemma nodup_getFirstAttemptReady : (s.getFirstAttemptReady now).Nodup :=
  s.pending.nodup.sublist (List.filter_sublist.map Prod.fst)

lemma of_getOneRetryReady (h : s.getOneRetryReady now = some mqttId) :
    ∃ state, s.pending.get? mqttId = some state ∧ isRetryReady now state = true := by
  obtain ⟨⟨id, state⟩, hfind, rfl⟩ := Option.map_eq_some_iff.1 h
  have hready := List.find?_some hfind
  exact ⟨state, Dict.get?_eq_some_iff.2 (List.mem_of_find?_eq_some hfind), by simpa using hready⟩

/-- Only devices that may be tried are offered. -/
lemma Inv.mayTry_first (h : s.Inv) (hmem : mqttId ∈ s.getFirstAttemptReady now) :
    MayTry mqttId now s.history := by
  obtain ⟨state, hget, hready⟩ := mem_getFirstAttemptReady.1 hmem
  simp only [isFirstReady, Bool.and_eq_true, decide_eq_true_eq] at hready
  exact h.mayTry_of_le hget hready.2

lemma Inv.mayTry_retry (h : s.Inv) (hretry : s.getOneRetryReady now = some mqttId) :
    MayTry mqttId now s.history := by
  obtain ⟨state, hget, hready⟩ := of_getOneRetryReady hretry
  simp only [isRetryReady, Bool.and_eq_true, decide_eq_true_eq] at hready
  exact h.mayTry_of_le hget hready.2

/-! ### An attempt -/

section Attempt

variable {other : Id} {start later : ℚ} {isDone : Bool} {state : DeviceInitState}

lemma get?_remove_of_ne (h : other ≠ mqttId) :
    (s.remove mqttId).pending.get? other = s.pending.get? other :=
  Dict.get?_erase_of_ne _ h

lemma get?_recordFailure_of_ne (h : other ≠ mqttId) :
    (s.recordFailure mqttId now).pending.get? other = s.pending.get? other := by
  rw [recordFailure]
  split
  · rfl
  · exact Dict.get?_set_of_ne _ _ h

/-- A failure puts the device off. -/
lemma get?_recordFailure_self (h : (s.recordFailure mqttId now).pending.get? mqttId = some state) :
    ∃ before, s.pending.get? mqttId = some before ∧
      state = { nextRetryTime := now + nextDelay before, retryDelay := nextDelay before } := by
  rw [recordFailure] at h
  split at h
  case h_1 hnone =>
    rw [hnone] at h
    cases h
  case h_2 before hbefore =>
    simp only [Dict.get?_set_self, Option.some.injEq] at h
    exact ⟨before, hbefore, h.symm⟩

lemma nextDelay_pos : 0 < nextDelay state := by
  simp only [nextDelay, DeviceInitState.hasFailed, initRetryMultiplier, initRetryInitialDelay,
    initRetryMaxDelay, decide_eq_true_eq, lt_min_iff]
  constructor
  · split
    · linarith
    · norm_num
  · norm_num

lemma hasFailed_recordFailure
    (h : (s.recordFailure mqttId now).pending.get? mqttId = some state) :
    state.hasFailed = true := by
  obtain ⟨before, -, rfl⟩ := get?_recordFailure_self h
  simpa [DeviceInitState.hasFailed] using nextDelay_pos

/-- The other devices do not notice an attempt. -/
lemma get?_attempt_of_ne (h : other ≠ mqttId) :
    (s.attempt mqttId start now isDone).pending.get? other = s.pending.get? other := by
  rw [attempt]
  split
  · exact get?_remove_of_ne (s := s.begin mqttId now) h
  · exact get?_recordFailure_of_ne (s := s.begin mqttId now) h

lemma hasFailed_attempt
    (h : (s.attempt mqttId start now isDone).pending.get? mqttId = some state) :
    state.hasFailed = true := by
  rw [attempt] at h
  split at h
  · simp [remove] at h
  · exact hasFailed_recordFailure h

/-- An attempted device is not due for its first attempt any more. -/
lemma mem_getFirstAttemptReady_attempt :
    other ∈ (s.attempt mqttId start now isDone).getFirstAttemptReady later ↔
      other ≠ mqttId ∧ other ∈ s.getFirstAttemptReady later := by
  rw [mem_getFirstAttemptReady, mem_getFirstAttemptReady]
  by_cases heq : other = mqttId
  · subst heq
    simp only [ne_eq, not_true_eq_false, false_and, iff_false, not_exists, not_and]
    intro state hget
    simp [isFirstReady, hasFailed_attempt hget]
  · rw [get?_attempt_of_ne heq]
    simp [heq]

lemma history_recordFailure (s : DeviceInitScheduler Id) (mqttId : Id) (now : ℚ) :
    (s.recordFailure mqttId now).history = s.history ∨
      (s.recordFailure mqttId now).history = .failed mqttId now :: s.history := by
  rw [recordFailure]
  split
  · exact .inl rfl
  · exact .inr rfl

/-- The failures of the other devices stay. -/
lemma failures_attempt_of_ne (h : other ≠ mqttId) :
    failures other (s.attempt mqttId start now isDone).history = failures other s.history := by
  rw [attempt]
  split
  · rw [remove, failures, if_neg h]
    rfl
  · rcases history_recordFailure (s.begin mqttId now) mqttId start with heq | heq
    · rw [heq]
      rfl
    · rw [heq, failures, if_neg h]
      rfl

lemma respectsDelays_recordFailure (h : RespectsDelays s.history) :
    RespectsDelays (s.recordFailure mqttId now).history := by
  rcases history_recordFailure s mqttId now with heq | heq
  · rwa [heq]
  · rwa [heq]

end Attempt

/-! ### The scheduler at a moment -/

/-- The delays of the devices are right, none ends later than its length from the moment, and
no device was tried before the end of its delay. -/
structure Punctual (s : DeviceInitScheduler Id) (now : ℚ) : Prop where
  inv : s.Inv
  due : ∀ mqttId state, s.pending.get? mqttId = some state →
    state.nextRetryTime ≤ now + state.retryDelay
  delays : RespectsDelays s.history

section Punctual

variable {later : ℚ} {isDone : Bool}

lemma Punctual.start : Punctual ({} : DeviceInitScheduler Id) now where
  inv := Inv.start
  due _ _ hget := by simp at hget
  delays := trivial

lemma Punctual.mono (h : s.Punctual now) (hle : now ≤ later) : s.Punctual later where
  inv := h.inv
  due mqttId state hget := by
    have hdue := h.due mqttId state hget
    linarith
  delays := h.delays

lemma Punctual.clear (h : s.Punctual now) : s.clear.Punctual later where
  inv := Inv.clear
  due _ _ hget := by simp [DeviceInitScheduler.clear] at hget
  delays := h.delays

lemma Punctual.schedule (h : s.Punctual now) : (s.schedule mqttId now).Punctual now where
  inv := h.inv.schedule
  due other state hget := by
    rw [DeviceInitScheduler.schedule] at hget
    split at hget
    · exact h.due other state hget
    · simp only [Dict.get?_set] at hget
      split at hget
      · cases Option.some.inj hget
        simp
      · exact h.due other state hget
  delays := by
    rw [DeviceInitScheduler.schedule]
    split
    · exact h.delays
    · exact h.delays

lemma Punctual.remove (h : s.Punctual now) : (s.remove mqttId).Punctual now where
  inv := h.inv.remove
  due other state hget := by
    simp only [DeviceInitScheduler.remove, Dict.get?_erase] at hget
    split at hget
    · cases hget
    · exact h.due other state hget
  delays := h.delays

lemma Punctual.recordFailure (h : s.Punctual now) : (s.recordFailure mqttId now).Punctual now where
  inv := h.inv.recordFailure
  due other state hget := by
    by_cases heq : other = mqttId
    · subst heq
      obtain ⟨before, -, rfl⟩ := get?_recordFailure_self hget
      exact le_rfl
    · rw [get?_recordFailure_of_ne heq] at hget
      exact h.due other state hget
  delays := respectsDelays_recordFailure h.delays

lemma Punctual.begin (h : s.Punctual now) (hmay : MayTry mqttId later s.history) :
    (s.begin mqttId later).Punctual now where
  inv := h.inv.begin
  due := h.due
  delays := ⟨hmay, h.delays⟩

/-- A device that has not failed yet is due at once. -/
lemma Punctual.isFirstReady (h : s.Punctual now) {state : DeviceInitState}
    (hget : s.pending.get? mqttId = some state) (hfirst : state.hasFailed = false) :
    isFirstReady now state = true := by
  have hdue := h.due mqttId state hget
  simp only [DeviceInitState.hasFailed, decide_eq_false_iff_not, not_lt] at hfirst
  simp only [DeviceInitScheduler.isFirstReady, DeviceInitState.hasFailed, Bool.and_eq_true,
    Bool.not_eq_true', decide_eq_false_iff_not, not_lt, decide_eq_true_eq]
  constructor
  · exact hfirst
  · linarith

/-- No other device is due for its first attempt later. -/
lemma Punctual.getFirstAttemptReady_eq (h : s.Punctual now) (hle : now ≤ later) :
    s.getFirstAttemptReady later = s.getFirstAttemptReady now := by
  rw [getFirstAttemptReady, getFirstAttemptReady]
  congr 1
  refine List.filter_congr fun entry hentry => ?_
  have hget := Dict.get?_eq_some_iff.2 hentry
  cases hfailed : entry.2.hasFailed with
  | true => simp [DeviceInitScheduler.isFirstReady, hfailed]
  | false => rw [h.isFirstReady hget hfailed, (h.mono hle).isFirstReady hget hfailed]

end Punctual

/-! ### How long a device waits -/

section Waiting

variable {x : Id} {wait limit : ℚ} {state : DeviceInitState}

/-- The entries in front of a device. -/
def inFront (x : Id) (entries : List (Id × DeviceInitState)) : List (Id × DeviceInitState) :=
  entries.takeWhile fun entry => entry.1 ≠ x

/-- How many of the entries are due before the given moment. -/
def dueBefore (limit : ℚ) (entries : List (Id × DeviceInitState)) : ℕ :=
  entries.countP fun entry => entry.2.nextRetryTime < limit

/-- How many devices in front of a device are due before the given moment. -/
def ahead (s : DeviceInitScheduler Id) (x : Id) (limit : ℚ) : ℕ :=
  dueBefore limit (inFront x s.pending.entries)

section Entries

variable {entries : List (Id × DeviceInitState)} {entry : Id × DeviceInitState}
  {ready : DeviceInitState → Bool} {new : DeviceInitState} {key : Id}

@[simp] lemma inFront_nil : inFront x [] = [] := rfl

lemma inFront_cons_self (h : entry.1 = x) : inFront x (entry :: entries) = [] := by
  simp [inFront, h]

lemma inFront_cons_of_ne (h : entry.1 ≠ x) :
    inFront x (entry :: entries) = entry :: inFront x entries := by
  simp [inFront, h]

omit [DecidableEq Id] in
lemma dueBefore_cons :
    dueBefore limit (entry :: entries) =
      dueBefore limit entries + if entry.2.nextRetryTime < limit then 1 else 0 := by
  simp [dueBefore, List.countP_cons]

/-- The device that is offered is the given one, or one in front of it. -/
lemma mem_inFront_of_find? (hnodup : (entries.map Prod.fst).Nodup) (hmem : (x, state) ∈ entries)
    (hready : ready state = true)
    (hfind : entries.find? (fun entry => ready entry.2) = some entry) :
    entry.1 = x ∨ entry ∈ inFront x entries := by
  obtain ⟨-, front, back, rfl, hfront⟩ := List.find?_eq_some_iff_append.1 hfind
  by_cases hx : entry.1 = x
  · exact .inl hx
  · right
    have hothers : ∀ other ∈ front, decide (other.1 ≠ x) = true := by
      intro other hother
      apply decide_eq_true
      intro hsame
      have heq := List.inj_on_of_nodup_map hnodup (List.mem_append_left _ hother) hmem hsame
      have hnot := hfront other hother
      rw [heq, hready] at hnot
      cases hnot
    rw [inFront, List.takeWhile_append_of_pos hothers, List.takeWhile_cons_of_pos (by simp [hx])]
    exact List.mem_append_right _ List.mem_cons_self

/-- A device that is put off is not due any more, and one in front leaves fewer that are. -/
lemma dueBefore_setEntries (hnodup : (entries.map Prod.fst).Nodup)
    (hkey : key ∈ entries.map Prod.fst) (hnew : ¬new.nextRetryTime < limit) :
    dueBefore limit (inFront x (Dict.setEntries key new entries)) ≤
        dueBefore limit (inFront x entries) ∧
      ∀ old, (key, old) ∈ inFront x entries → old.nextRetryTime < limit →
        dueBefore limit (inFront x (Dict.setEntries key new entries)) <
          dueBefore limit (inFront x entries) := by
  induction entries with
  | nil => cases hkey
  | cons first entries ih =>
    rw [List.map_cons, List.nodup_cons] at hnodup
    rw [Dict.setEntries]
    by_cases hfirst : first.1 = key
    · rw [if_pos hfirst]
      by_cases hx : key = x
      · rw [inFront_cons_self hx, inFront_cons_self (hfirst.trans hx)]
        exact ⟨le_rfl, fun old hold => absurd hold List.not_mem_nil⟩
      · have hx' : first.1 ≠ x := by rwa [hfirst]
        have hput : (key, new).1 ≠ x := hx
        rw [inFront_cons_of_ne hput, inFront_cons_of_ne hx', dueBefore_cons, dueBefore_cons,
          if_neg hnew]
        constructor
        · omega
        · intro old hold hdue
          -- the keys are different, so it is the first one
          have hsame : (key, old) = first := by
            rcases List.mem_cons.1 hold with heq | hrest
            · exact heq
            · have hmem :=
                List.mem_map_of_mem (f := Prod.fst) ((List.takeWhile_sublist _).subset hrest)
              rw [← hfirst] at hmem
              exact absurd hmem hnodup.1
          rw [← hsame, if_pos hdue]
          omega
    · rw [if_neg hfirst]
      have hrest : key ∈ entries.map Prod.fst := by
        rcases List.mem_cons.1 hkey with heq | hrest
        · exact absurd heq.symm hfirst
        · exact hrest
      obtain ⟨hle, hlt⟩ := ih hnodup.2 hrest
      by_cases hx : first.1 = x
      · rw [inFront_cons_self hx, inFront_cons_self hx]
        exact ⟨le_rfl, fun old hold => absurd hold List.not_mem_nil⟩
      · rw [inFront_cons_of_ne hx, inFront_cons_of_ne hx, dueBefore_cons, dueBefore_cons]
        constructor
        · omega
        · intro old hold hdue
          have hold' : (key, old) ∈ inFront x entries := by
            rcases List.mem_cons.1 hold with heq | hold'
            · exact absurd (congrArg Prod.fst heq).symm hfirst
            · exact hold'
          have hless := hlt old hold' hdue
          omega

/-- The devices in front of another one than the dropped one. -/
lemma inFront_filter (hne : key ≠ x) :
    inFront x (entries.filter fun e => e.1 ≠ key) =
      (inFront x entries).filter fun e => e.1 ≠ key := by
  induction entries with
  | nil => rfl
  | cons first entries ih =>
    by_cases hkey : first.1 = key
    · have hx : first.1 ≠ x := by rwa [hkey]
      rw [List.filter_cons_of_neg (by simp [hkey]), inFront_cons_of_ne hx,
        List.filter_cons_of_neg (by simp [hkey]), ih]
    · rw [List.filter_cons_of_pos (by simp [hkey])]
      by_cases hx : first.1 = x
      · rw [inFront_cons_self hx, inFront_cons_self hx, List.filter_nil]
      · rw [inFront_cons_of_ne hx, inFront_cons_of_ne hx,
          List.filter_cons_of_pos (by simp [hkey]), ih]

/-- A device in front that is dropped is not due any more. -/
lemma dueBefore_filter (hmem : entry ∈ entries) (hdue : entry.2.nextRetryTime < limit)
    (hkey : entry.1 = key) :
    dueBefore limit (entries.filter fun e => e.1 ≠ key) < dueBefore limit entries := by
  induction entries with
  | nil => cases hmem
  | cons first entries ih =>
    have hle : dueBefore limit (entries.filter fun e => e.1 ≠ key) ≤ dueBefore limit entries :=
      List.Sublist.countP_le List.filter_sublist
    rcases List.mem_cons.1 hmem with rfl | hrest
    · rw [List.filter_cons_of_neg (by simp [hkey]), dueBefore_cons, if_pos hdue]
      omega
    · have hless := ih hrest
      rw [List.filter_cons]
      split
      · rw [dueBefore_cons, dueBefore_cons]
        omega
      · rw [dueBefore_cons]
        omega

end Entries

/-- Every pending device waits at least the given time when it fails once more. -/
def WaitsAtLeast (s : DeviceInitScheduler Id) (wait : ℚ) : Prop :=
  ∀ mqttId state, s.pending.get? mqttId = some state → wait ≤ nextDelay state

/-- A device that has failed once more does not wait less. -/
lemma nextDelay_le_nextDelay (next : ℚ) :
    nextDelay state ≤ nextDelay { nextRetryTime := next, retryDelay := nextDelay state } := by
  have hpos : 0 < nextDelay state := nextDelay_pos
  have hmax : nextDelay state ≤ initRetryMaxDelay := min_le_right _ _
  rw [nextDelay.eq_def { nextRetryTime := next, retryDelay := nextDelay state }]
  refine le_min ?_ hmax
  rw [if_pos (by simpa [DeviceInitState.hasFailed] using hpos)]
  simp only [initRetryMultiplier]
  linarith

variable {start : ℚ} {isDone : Bool}

/-- A failure is followed by 5 s at least. -/
lemma Inv.waitsAtLeast_five (h : s.Inv) : s.WaitsAtLeast 5 := by
  intro mqttId state hget
  rw [h.nextDelay_eq hget]
  exact five_le_backoff _

lemma WaitsAtLeast.attempt (h : s.WaitsAtLeast wait) :
    (s.attempt mqttId start now isDone).WaitsAtLeast wait := by
  intro other state hget
  by_cases heq : other = mqttId
  · subst heq
    rw [DeviceInitScheduler.attempt] at hget
    split at hget
    · simp [remove] at hget
    · obtain ⟨before, hbefore, rfl⟩ := get?_recordFailure_self hget
      exact (h other before hbefore).trans (nextDelay_le_nextDelay _)
  · rw [get?_attempt_of_ne heq] at hget
    exact h other state hget

/-- An attempt of another device leaves no more devices in front that are due, and one less if it
was such a device. -/
lemma ahead_attempt (hne : mqttId ≠ x) (hwait : s.WaitsAtLeast wait)
    (hle : limit ≤ start + wait) :
    (s.attempt mqttId start now isDone).ahead x limit ≤ s.ahead x limit ∧
      ∀ old, (mqttId, old) ∈ inFront x s.pending.entries → old.nextRetryTime < limit →
        (s.attempt mqttId start now isDone).ahead x limit < s.ahead x limit := by
  rw [attempt]
  split
  · simp only [ahead, remove, Dict.erase, begin, inFront_filter hne]
    constructor
    · exact List.Sublist.countP_le List.filter_sublist
    · intro old hold hdue
      exact dueBefore_filter hold hdue rfl
  · rw [recordFailure]
    split
    case h_1 hnone =>
      constructor
      · exact le_rfl
      · intro old hold _
        have hget := Dict.get?_eq_some_iff.2 ((List.takeWhile_sublist _).subset hold)
        rw [begin, hget] at hnone
        cases hnone
    case h_2 before hbefore =>
      have hnew : ¬(⟨start + nextDelay before, nextDelay before⟩ :
          DeviceInitState).nextRetryTime < limit := by
        have hlong := hwait mqttId before hbefore
        simp only [not_lt]
        linarith
      exact dueBefore_setEntries s.pending.nodup (Dict.mem_keys_iff.2 ⟨before, hbefore⟩) hnew

/-- While a device is due, a device is offered: this one, or one in front of it that is due. -/
lemma exists_getOneRetryReady (hget : s.pending.get? x = some state)
    (hready : isRetryReady now state = true) :
    ∃ mqttId, s.getOneRetryReady now = some mqttId ∧
      (mqttId = x ∨ ∃ old, (mqttId, old) ∈ inFront x s.pending.entries ∧
        old.nextRetryTime ≤ now) := by
  have hmem := Dict.get?_eq_some_iff.1 hget
  cases hfind : s.pending.entries.find? fun entry => isRetryReady now entry.2 with
  | none =>
    have hnot := List.find?_eq_none.1 hfind _ hmem
    exact absurd hready hnot
  | some entry =>
    refine ⟨entry.1, by rw [getOneRetryReady, hfind, Option.map_some], ?_⟩
    refine (mem_inFront_of_find? s.pending.nodup hmem hready hfind).imp_right fun hfront => ?_
    have hentry := List.find?_some hfind
    simp only [isRetryReady, Bool.and_eq_true, decide_eq_true_eq] at hentry
    exact ⟨entry.2, hfront, hentry.2⟩

end Waiting

end DeviceInitScheduler

end WbMqttDali.InitScheduler
