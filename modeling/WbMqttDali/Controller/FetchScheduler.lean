import Mathlib
import WbMqttDali.Lib.RoundRobin
import WbMqttDali.Lib.Transition
import WbMqttDali.Settings.ScenesFetch

/-!
# The background fetch of settings

In its idle steps the polling loop reads settings of the initialized devices that commands are
predicted from, one portion at a time and around the devices in turn.  A setting that is read
to its end, or that fails, is not fetched again until its device is added again.
-/

namespace WbMqttDali.FetchScheduler

open RoundRobin

/-! ### Settings and their portions -/

inductive ParamClass where
  | maxLevel
  | minLevel
  | scenes
  | scenesSettings
  | upSwitchOnThreshold
  | upSwitchOffThreshold
  | downSwitchOnThreshold
  | downSwitchOffThreshold
  /-- any class that is not fetched in the background -/
  | other
  deriving DecidableEq, Repr

/-- `FETCH_PARAM_CLASSES` -/
def ParamClass.isFetchParam : ParamClass → Bool
  | .other => false
  | _ => true

/-- What comes of the queries of a `fetch`. -/
inductive FetchOutcome where
  | read
  /-- The device has never answered the query, and the setting takes this for its absence. -/
  | absent
  | raises
  deriving DecidableEq, Repr

def scenesTotal : ℕ := 16

def scenesFetchChunk : ℕ := 8

/-- `fetch` of a class, from the given `_fetch_cursor`: the cursor behind it and the result, which
is `none` where the call raises. -/
def ParamClass.fetch (cls : ParamClass) (cursor : ℕ) (outcome : FetchOutcome) :
    ℕ × Option Bool :=
  match cls with
  | .scenes =>
    if scenesTotal ≤ cursor then (cursor, some true)
    else
      match outcome with
      | .read =>
        let stop := min (cursor + scenesFetchChunk) scenesTotal
        (stop, some (scenesTotal ≤ stop))
      | .absent => (cursor, some true)
      | .raises => (cursor, none)
  | .scenesSettings =>
    if scenesTotal ≤ cursor then (cursor, some true)
    else
      match outcome with
      | .read => (cursor + 1, some (scenesTotal ≤ cursor + 1))
      -- these settings take no silence for an absence
      | .absent | .raises => (cursor, none)
  | _ =>
    match outcome with
    | .read | .absent => (cursor, some true)
    | .raises => (cursor, none)

/-- The portions of a class are those of its handler. -/
lemma exists_fetch_scenes (param : Settings.ScenesParam) (gear : Settings.Gear)
    (faults : Settings.Faults) :
    ∃ outcome, ParamClass.scenes.fetch param.fetchCursor outcome =
      ((param.fetch gear faults).1.fetchCursor, (param.fetch gear faults).2.2.toOption) := by
  rw [Settings.ScenesParam.fetch]
  by_cases hend : 16 ≤ param.fetchCursor
  · exact ⟨.read, by simp [ParamClass.fetch, scenesTotal, hend, Except.toOption]⟩
  · rw [if_neg hend]
    split
    · rename_i param' gear' hread
      rw [Settings.ScenesParam.readScenes_error hread]
      split
      · exact ⟨.raises, by simp [ParamClass.fetch, scenesTotal, hend, Except.toOption]⟩
      · exact ⟨.absent, by simp [ParamClass.fetch, scenesTotal, hend, Except.toOption]⟩
    · rename_i param' gear' error _ hread
      rw [Settings.ScenesParam.readScenes_error hread]
      exact ⟨.raises, by simp [ParamClass.fetch, scenesTotal, hend, Except.toOption]⟩
    · rename_i param' gear' hread
      obtain ⟨-, rfl⟩ := Settings.ScenesParam.readScenes_ok hread
      exact ⟨.read, by
        simp [ParamClass.fetch, scenesTotal, scenesFetchChunk, hend, Except.toOption]⟩

/-- A handler of a device, by its number there. -/
structure Param where
  number : ℕ
  cls : ParamClass
  deriving DecidableEq, Repr

structure FetchEntry where
  device : ℕ
  param : Param
  deriving DecidableEq, Repr

/-- The handler of the entry. -/
def FetchEntry.handler (entry : FetchEntry) : ℕ × ℕ := (entry.device, entry.param.number)

/-! ### The scheduler -/

/-- What has happened to the entries, the latest first. -/
inductive Happening where
  | added (device : ℕ) (params : List Param)
  | removed (device : ℕ)
  | fetched (entry : FetchEntry) (done : Bool)
  deriving DecidableEq, Repr

structure State where
  entries : List FetchEntry := []
  cursor : ℕ := 0
  /-- `_fetch_cursor` of the handlers of each device -/
  fetchCursor : ℕ → ℕ → ℕ := fun _ _ => 0
  history : List Happening := []

namespace State

variable (s : State)

/-- `remove_device` -/
def removeDevice (device : ℕ) : State :=
  { s with
    entries := s.entries.filter fun entry => entry.device ≠ device
    history := .removed device :: s.history }

/-- `add_device`, which removes the device first -/
def addDevice (device : ℕ) (params : List Param) : State :=
  let fetchParams := params.filter fun param => param.cls.isFetchParam
  { s with
    entries := (s.removeDevice device).entries ++ fetchParams.map (FetchEntry.mk device)
    history := .added device fetchParams :: s.history }

/-- The entry that the next step fetches. -/
def next? : Option FetchEntry := s.entries[s.cursor % s.entries.length]?

/-- The result of the fetch of an entry; one that raises counts as done. -/
def fetchEntry (entry : FetchEntry) (outcome : FetchOutcome) : ℕ × Bool :=
  let result := entry.param.cls.fetch (s.fetchCursor entry.device entry.param.number) outcome
  (result.1, result.2.getD true)

def setFetchCursor (device number cursor : ℕ) : State :=
  { s with
    fetchCursor :=
      Function.update s.fetchCursor device (Function.update (s.fetchCursor device) number cursor) }

/-- `fetch_step`, with whether a fetch was performed -/
def fetchStep (outcome : FetchOutcome) : State × Bool :=
  match s.next? with
  -- there are no entries
  | none => ({ s with cursor := 0 }, false)
  | some entry =>
    let index := s.cursor % s.entries.length
    let result := s.fetchEntry entry outcome
    let s := s.setFetchCursor entry.device entry.param.number result.1
    let s := { s with history := .fetched entry result.2 :: s.history }
    if result.2 then ({ s with entries := s.entries.eraseIdx index, cursor := index }, true)
    else ({ s with cursor := index + 1 }, true)

/-- A full read of a setting, on the way of another task. -/
def loaded (device number : ℕ) : State := s.setFetchCursor device number scenesTotal

end State

inductive Event where
  | addDevice (device : ℕ) (params : List Param)
  | removeDevice (device : ℕ)
  | fetchStep (outcome : FetchOutcome)
  | loaded (device number : ℕ)

def transition : Transition State Event where
  init s := s = {}
  step
    | s, .addDevice device params =>
      -- the handlers of a device are different objects
      if (params.map Param.number).Nodup then some (s.addDevice device params) else none
    | s, .removeDevice device => some (s.removeDevice device)
    | s, .fetchStep outcome => some (s.fetchStep outcome).1
    | s, .loaded device number => some (s.loaded device number)

namespace State

variable {s : State} {entry : FetchEntry} {outcome : FetchOutcome}

/-! ### The queue of the entries -/

/-- The entries in the order in which they come up. -/
def queue (s : State) : List FetchEntry := s.entries.rotate s.cursor

lemma next?_eq_head? : s.next? = s.queue.head? := getElem?_mod

@[simp] lemma length_queue : s.queue.length = s.entries.length := List.length_rotate _ _

@[simp] lemma mem_queue : entry ∈ s.queue ↔ entry ∈ s.entries := List.mem_rotate

/-- The next entry leaves the queue or goes to its end. -/
def leaves (s : State) (outcome : FetchOutcome) : Bool :=
  match s.next? with
  | none => true
  | some entry => (s.fetchEntry entry outcome).2

/-- A step serves the queue. -/
lemma queue_fetchStep : (s.fetchStep outcome).1.queue = serve (s.leaves outcome) s.queue := by
  cases hqueue : s.queue with
  | nil =>
    have hnone : s.next? = none := by rw [next?_eq_head?, hqueue, List.head?_nil]
    have hentries : s.entries = [] := by
      rw [← List.length_eq_zero_iff, ← length_queue, hqueue, List.length_nil]
    simp [fetchStep, hnone, queue, hentries]
  | cons entry rest =>
    have hnext : s.next? = some entry := by rw [next?_eq_head?, hqueue, List.head?_cons]
    have hdone : s.leaves outcome = (s.fetchEntry entry outcome).2 := by simp only [leaves, hnext]
    rw [serve_cons, hdone, fetchStep, hnext]
    simp only
    split
    case isTrue hdone => exact rotate_eraseIdx hqueue
    case isFalse hdone => exact rotate_succ hqueue

/-- The steps with the given outcomes of their fetches. -/
def fetchSteps : List FetchOutcome → State → State
  | [], s => s
  | outcome :: outcomes, s => fetchSteps outcomes (s.fetchStep outcome).1

/-- The entries that the steps fetch. -/
def fetched : List FetchOutcome → State → List FetchEntry
  | [], _ => []
  | outcome :: outcomes, s => s.next?.toList ++ fetched outcomes (s.fetchStep outcome).1

/-- Whether the entries of the steps leave. -/
def leavesAll : List FetchOutcome → State → List Bool
  | [], _ => []
  | outcome :: outcomes, s => s.leaves outcome :: leavesAll outcomes (s.fetchStep outcome).1

lemma length_leavesAll (outcomes : List FetchOutcome) :
    (leavesAll outcomes s).length = outcomes.length := by
  induction outcomes generalizing s with
  | nil => rfl
  | cons outcome outcomes ih => simp [leavesAll, ih]

/-- Steps in a row serve the queue as often. -/
lemma fetched_eq_served (outcomes : List FetchOutcome) :
    fetched outcomes s = served (leavesAll outcomes s) s.queue ∧
      (fetchSteps outcomes s).queue = serveAll (leavesAll outcomes s) s.queue := by
  induction outcomes generalizing s with
  | nil => exact ⟨rfl, rfl⟩
  | cons outcome outcomes ih =>
    obtain ⟨hfetched, hqueue⟩ := @ih (s.fetchStep outcome).1
    rw [queue_fetchStep] at hfetched hqueue
    constructor
    · rw [fetched, hfetched, leavesAll, served, next?_eq_head?]
    · rw [fetchSteps, hqueue, leavesAll, serveAll_cons]

/-- In as many steps as there are entries each entry is fetched once, in the order from the
cursor on, whatever comes of the fetches.  The entries that stay are in the same order then. -/
theorem fetched_round (outcomes : List FetchOutcome) (h : outcomes.length = s.entries.length) :
    fetched outcomes s = s.queue ∧
      (fetchSteps outcomes s).queue =
        ((s.queue.zip (leavesAll outcomes s)).filter fun entry => !entry.2).map Prod.fst := by
  obtain ⟨hfetched, hqueue⟩ := @fetched_eq_served s outcomes
  have hlength : (leavesAll outcomes s).length = s.queue.length := by
    rw [length_leavesAll, length_queue, h]
  rw [hfetched, hqueue]
  exact ⟨served_round _ hlength, serveAll_round _ hlength⟩

/-- One gear whose scenes take two portions and whose highest level takes one. -/
def oneGear : State :=
  State.addDevice {} 1 [⟨0, .scenes⟩, ⟨1, .other⟩, ⟨2, .maxLevel⟩]

theorem fetched_round_oneGear :
    fetched [.read, .raises] oneGear = oneGear.queue ∧
      (fetchSteps [.read, .raises] oneGear).queue =
        ((oneGear.queue.zip (leavesAll [.read, .raises] oneGear)).filter
          fun entry => !entry.2).map Prod.fst :=
  fetched_round [.read, .raises] (by decide)

lemma reachable_oneGear : transition.Reachable oneGear := by
  have hstart : transition.Reachable {} := .init rfl
  exact hstart.step (e := .addDevice 1 [⟨0, .scenes⟩, ⟨1, .other⟩, ⟨2, .maxLevel⟩]) trivial rfl

/-! ### Which entries there are -/

/-- The entry is one of a device that was added, and its fetch was not done since. -/
def IsRegistered (entry : FetchEntry) : List Happening → Prop
  | [] => False
  | .added device params :: history =>
    if entry.device = device then entry.param ∈ params else IsRegistered entry history
  | .removed device :: history => entry.device ≠ device ∧ IsRegistered entry history
  | .fetched other done :: history => ¬(entry = other ∧ done = true) ∧ IsRegistered entry history

/-- Every fetch was one of an entry that was registered then. -/
def FetchesRegistered : List Happening → Prop
  | [] => True
  | .fetched entry _ :: history => IsRegistered entry history ∧ FetchesRegistered history
  | _ :: history => FetchesRegistered history

/-- The scheduler has the registered entries, each handler once, and fetches no other ones. -/
structure Inv (s : State) : Prop where
  nodup : (s.entries.map FetchEntry.handler).Nodup
  mem_iff : ∀ entry, entry ∈ s.entries ↔ IsRegistered entry s.history
  fetches : FetchesRegistered s.history

lemma Inv.start : Inv {} where
  nodup := List.nodup_nil
  mem_iff entry := by simp [IsRegistered]
  fetches := trivial

lemma Inv.removeDevice (h : s.Inv) (device : ℕ) : (s.removeDevice device).Inv where
  nodup := h.nodup.sublist ((List.filter_sublist).map _)
  mem_iff entry := by
    simp only [State.removeDevice, List.mem_filter, decide_eq_true_eq, h.mem_iff, IsRegistered]
    exact and_comm
  fetches := h.fetches

lemma Inv.addDevice (h : s.Inv) (device : ℕ) {params : List Param}
    (hparams : (params.map Param.number).Nodup) : (s.addDevice device params).Inv where
  nodup := by
    have hfetch : ((params.filter fun param => param.cls.isFetchParam).map Param.number).Nodup :=
      hparams.sublist ((List.filter_sublist).map _)
    simp only [State.addDevice, List.map_append, List.map_map]
    apply List.nodup_append.2
    refine ⟨h.nodup.sublist ((List.filter_sublist).map _), ?_, ?_⟩
    · refine List.Nodup.of_map Prod.snd ?_
      rw [List.map_map]
      exact hfetch
    · intro handler hhandler other hother heq
      subst heq
      -- an entry that was left is of another device
      obtain ⟨entry, hentry, rfl⟩ := List.mem_map.1 hhandler
      have hne := (List.mem_filter.1 hentry).2
      obtain ⟨param, -, hparam⟩ := List.mem_map.1 hother
      have hdevice : device = entry.device := congrArg Prod.fst hparam
      simp [hdevice] at hne
  mem_iff entry := by
    simp only [State.addDevice, State.removeDevice, List.mem_append, List.mem_filter, List.mem_map,
      decide_eq_true_eq, h.mem_iff, IsRegistered]
    by_cases hdevice : entry.device = device
    · subst hdevice
      rw [if_pos rfl]
      constructor
      · rintro (⟨-, hne⟩ | ⟨param, hparam, heq⟩)
        · exact absurd rfl hne
        · rw [← heq]
          exact hparam
      · intro hparam
        exact .inr ⟨entry.param, hparam, rfl⟩
    · rw [if_neg hdevice]
      constructor
      · rintro (⟨hregistered, -⟩ | ⟨param, -, heq⟩)
        · exact hregistered
        · rw [← heq] at hdevice
          exact absurd rfl hdevice
      · intro hregistered
        exact .inl ⟨hregistered, hdevice⟩
  fetches := h.fetches

lemma mem_of_next? (h : s.next? = some entry) : entry ∈ s.entries := List.mem_of_getElem? h

/-- The entries behind a step without the one that is done. -/
lemma entries_fetchStep (outcome : FetchOutcome) (hnext : s.next? = some entry)
    (hhandlers : (s.entries.map FetchEntry.handler).Nodup) :
    ((s.fetchStep outcome).1.entries.map FetchEntry.handler).Nodup ∧ ∀ other,
      other ∈ (s.fetchStep outcome).1.entries ↔
        other ∈ s.entries ∧ ¬(other = entry ∧ (s.fetchEntry entry outcome).2 = true) := by
  have hnodup := hhandlers.of_map
  rw [fetchStep, hnext]
  simp only
  split
  case isTrue hdone =>
    obtain ⟨hlt, hget⟩ := List.getElem?_eq_some_iff.1 hnext
    refine ⟨hhandlers.sublist ((List.eraseIdx_sublist _ _).map _), fun other => ?_⟩
    show other ∈ s.entries.eraseIdx (s.cursor % s.entries.length) ↔ _
    rw [← hnodup.erase_getElem _ hlt, hget, hnodup.mem_erase_iff]
    simp [hdone, and_comm]
  case isFalse hdone =>
    refine ⟨hhandlers, fun other => ?_⟩
    show other ∈ s.entries ↔ _
    simp [hdone]

lemma Inv.fetchStep (h : s.Inv) (outcome : FetchOutcome) : (s.fetchStep outcome).1.Inv := by
  cases hnext : s.next? with
  | none =>
    have hstep : (s.fetchStep outcome).1 = { s with cursor := 0 } := by rw [State.fetchStep, hnext]
    rw [hstep]
    exact ⟨h.nodup, h.mem_iff, h.fetches⟩
  | some entry =>
    obtain ⟨hnodup, hmem⟩ := entries_fetchStep outcome hnext h.nodup
    have hhistory : (s.fetchStep outcome).1.history =
        .fetched entry (s.fetchEntry entry outcome).2 :: s.history := by
      rw [State.fetchStep, hnext]
      simp only
      split <;> rfl
    refine ⟨hnodup, fun other => ?_, ?_⟩
    · rw [hmem, hhistory, IsRegistered, h.mem_iff]
      exact and_comm
    · rw [hhistory]
      exact ⟨(h.mem_iff entry).1 (mem_of_next? hnext), h.fetches⟩

lemma Inv.of_reachable (h : transition.Reachable s) : s.Inv := by
  refine h.invariant ?_ ?_
  · rintro s rfl
    exact Inv.start
  · intro s event s' hinv _ hstep
    cases event with
    | addDevice device params =>
      simp only [transition] at hstep
      split at hstep
      case isTrue hparams =>
        cases hstep
        exact hinv.addDevice device hparams
      case isFalse => cases hstep
    | removeDevice device =>
      cases hstep
      exact hinv.removeDevice device
    | fetchStep outcome =>
      cases hstep
      exact hinv.fetchStep outcome
    | loaded device number =>
      cases hstep
      exact ⟨hinv.nodup, hinv.mem_iff, hinv.fetches⟩

/-- In every run the scheduler has exactly the entries of the devices that were added and not
removed since, less those whose fetch was done, each handler once, and it fetches no other
setting: not one of a removed device, and none again that was read to its end or has failed. -/
theorem fetches_registered (h : transition.Reachable s) :
    (s.entries.map FetchEntry.handler).Nodup ∧
      (∀ entry, entry ∈ s.entries ↔ IsRegistered entry s.history) ∧
        FetchesRegistered s.history := by
  have hinv := Inv.of_reachable h
  exact ⟨hinv.nodup, hinv.mem_iff, hinv.fetches⟩

/-- Two gear, the second of which fails; the first one is removed and added again before its scenes
are read to their end. -/
def readded : List Event :=
  [.addDevice 1 [⟨0, .scenes⟩, ⟨1, .maxLevel⟩], .addDevice 2 [⟨0, .maxLevel⟩],
    .fetchStep .read, .fetchStep .read, .fetchStep .raises, .removeDevice 1,
    .addDevice 1 [⟨0, .scenes⟩, ⟨1, .maxLevel⟩], .fetchStep .read]

theorem fetches_registered_readded : ∃ s : State,
    transition.run (fun _ _ => True) {} readded = some s ∧
      s.history.length = 8 ∧ s.entries = [⟨1, ⟨0, .scenes⟩⟩] ∧
      (s.entries.map FetchEntry.handler).Nodup ∧
      (∀ entry, entry ∈ s.entries ↔ IsRegistered entry s.history) ∧
      FetchesRegistered s.history := by
  have hrun : (transition.run (fun _ _ => True) {} readded).any (fun s =>
      s.history.length = 8 ∧ s.entries = [⟨1, ⟨0, .scenes⟩⟩]) = true := by
    decide +kernel
  obtain ⟨s, hs, hshape⟩ := (Option.any_eq_true _ _).1 hrun
  obtain ⟨hhistory, hentries⟩ := of_decide_eq_true hshape
  have hreach : transition.Reachable s := (Transition.Reach.init rfl).run hs
  exact ⟨s, hs, hhistory, hentries, fetches_registered hreach⟩

/-! ### How many fetches are left -/

/-- The most fetches that a setting needs from the given cursor on. -/
def fetchesLeft (cls : ParamClass) (cursor : ℕ) : ℕ :=
  match cls with
  | .scenes => max 1 ((scenesTotal - cursor + (scenesFetchChunk - 1)) / scenesFetchChunk)
  | .scenesSettings => max 1 (scenesTotal - cursor)
  | _ => 1

lemma fetchesLeft_pos (cls : ParamClass) (cursor : ℕ) : 0 < fetchesLeft cls cursor := by
  cases cls <;> simp [fetchesLeft]

/-- A fetch that is not done leaves fewer. -/
lemma fetchesLeft_fetch (outcome : FetchOutcome) {cls : ParamClass} {cursor : ℕ}
    (h : (cls.fetch cursor outcome).2 = some false) :
    fetchesLeft cls (cls.fetch cursor outcome).1 < fetchesLeft cls cursor := by
  cases cls with
  | scenes =>
    simp only [ParamClass.fetch] at h ⊢
    by_cases hend : scenesTotal ≤ cursor
    · simp [hend] at h
    · rw [if_neg hend] at h ⊢
      cases outcome with
      | read =>
        have hstop : ¬scenesTotal ≤ min (cursor + scenesFetchChunk) scenesTotal :=
          of_decide_eq_false (Option.some.inj h)
        simp only [scenesTotal, scenesFetchChunk] at hend hstop
        simp only [fetchesLeft, scenesTotal, scenesFetchChunk]
        omega
      | absent => cases h
      | raises => cases h
  | scenesSettings =>
    simp only [ParamClass.fetch] at h ⊢
    by_cases hend : scenesTotal ≤ cursor
    · simp [hend] at h
    · rw [if_neg hend] at h ⊢
      cases outcome with
      | read =>
        have hstop : ¬scenesTotal ≤ cursor + 1 := of_decide_eq_false (Option.some.inj h)
        simp only [scenesTotal] at hend hstop
        simp only [fetchesLeft, scenesTotal]
        omega
      | absent => cases h
      | raises => cases h
  | _ => cases outcome <;> cases h

/-- The most fetches that the entry needs. -/
def left (s : State) (entry : FetchEntry) : ℕ :=
  fetchesLeft entry.param.cls (s.fetchCursor entry.device entry.param.number)

/-- The most fetches that all the entries need. -/
def totalLeft (s : State) : ℕ := (s.entries.map s.left).sum

lemma left_pos (s : State) (entry : FetchEntry) : 0 < s.left entry := fetchesLeft_pos _ _

/-- What the step does to the fetches that are left. -/
lemma left_fetchStep (outcome : FetchOutcome) (hnext : s.next? = some entry) :
    (∀ other : FetchEntry, other.handler ≠ entry.handler →
      (s.fetchStep outcome).1.left other = s.left other) ∧
    ((s.fetchEntry entry outcome).2 = false →
      (s.fetchStep outcome).1.left entry < s.left entry) := by
  have hcursor : (s.fetchStep outcome).1.fetchCursor =
      Function.update s.fetchCursor entry.device
        (Function.update (s.fetchCursor entry.device) entry.param.number
          (s.fetchEntry entry outcome).1) := by
    rw [fetchStep, hnext]
    simp only
    split <;> rfl
  constructor
  · intro other hne
    rw [left, left, hcursor]
    by_cases hdevice : other.device = entry.device
    · have hnumber : other.param.number ≠ entry.param.number := by
        intro heq
        exact hne (Prod.ext hdevice heq)
      rw [hdevice, Function.update_self, Function.update_of_ne hnumber]
    · rw [Function.update_of_ne hdevice]
  · intro hdone
    rw [left, left, hcursor, Function.update_self, Function.update_self]
    refine fetchesLeft_fetch outcome ?_
    -- a call that raises counts as done
    rw [fetchEntry] at hdone
    simp only at hdone
    cases hresult :
      (entry.param.cls.fetch (s.fetchCursor entry.device entry.param.number) outcome).2
    · rw [hresult] at hdone
      cases hdone
    · rw [hresult, Option.getD_some] at hdone
      rw [hdone]

/-- The entries on both sides of the next one. -/
lemma exists_split_of_next? (h : s.next? = some entry) :
    s.entries = s.entries.take (s.cursor % s.entries.length) ++
      entry :: s.entries.drop (s.cursor % s.entries.length + 1) := by
  obtain ⟨hlt, hget⟩ := List.getElem?_eq_some_iff.1 h
  rw [← hget, ← List.drop_eq_getElem_cons hlt, List.take_append_drop]

lemma totalLeft_fetchStep (outcome : FetchOutcome) (h : s.Inv) (hne : s.entries ≠ []) :
    (s.fetchStep outcome).1.totalLeft < s.totalLeft := by
  obtain ⟨entry, hnext⟩ : ∃ entry, s.next? = some entry := by
    rw [next?_eq_head?]
    cases hqueue : s.queue with
    | nil => exact absurd (List.length_eq_zero_iff.1 (by rw [← length_queue, hqueue]; rfl)) hne
    | cons entry rest => exact ⟨entry, rfl⟩
  obtain ⟨hothers, hless⟩ := left_fetchStep outcome hnext
  have hsplit := exists_split_of_next? hnext
  have hpos := left_pos s entry
  let front := s.entries.take (s.cursor % s.entries.length)
  let back := s.entries.drop (s.cursor % s.entries.length + 1)
  have hnodup := h.nodup
  rw [hsplit, List.map_append, List.map_cons, List.nodup_append, List.nodup_cons] at hnodup
  have hfront : front.map (s.fetchStep outcome).1.left = front.map s.left := by
    refine List.map_congr_left fun other hother => hothers other fun heq => ?_
    exact hnodup.2.2 _ (List.mem_map_of_mem hother) _ List.mem_cons_self heq
  have hback : back.map (s.fetchStep outcome).1.left = back.map s.left := by
    refine List.map_congr_left fun other hother => hothers other fun heq => ?_
    exact hnodup.2.1.1 (heq ▸ List.mem_map_of_mem hother)
  have hbefore : s.totalLeft = (front.map s.left).sum + (s.left entry + (back.map s.left).sum) := by
    rw [totalLeft, hsplit, List.map_append, List.sum_append, List.map_cons, List.sum_cons]
  cases hdone : (s.fetchEntry entry outcome).2 with
  | true =>
    have hafter : (s.fetchStep outcome).1.entries = front ++ back := by
      rw [fetchStep, hnext]
      simp only [hdone, if_true]
      exact List.eraseIdx_eq_take_drop_succ _ _
    rw [hbefore, totalLeft, hafter, List.map_append, List.sum_append, hfront, hback]
    omega
  | false =>
    have hafter : (s.fetchStep outcome).1.entries = front ++ entry :: back := by
      rw [fetchStep, hnext]
      simp only [hdone, Bool.false_eq_true, if_false]
      exact hsplit
    have hlt := hless hdone
    rw [hbefore, totalLeft, hafter, List.map_append, List.sum_append, List.map_cons, List.sum_cons,
      hfront, hback]
    omega

/-! ### Until nothing is left to fetch -/

/-- Enough steps empty the scheduler. -/
lemma entries_fetchSteps (outcomes : List FetchOutcome) (h : s.Inv)
    (hle : s.totalLeft ≤ outcomes.length) : (fetchSteps outcomes s).entries = [] := by
  induction outcomes generalizing s with
  | nil =>
    by_contra hne
    have hlt := totalLeft_fetchStep .read h hne
    have hzero : s.totalLeft = 0 := Nat.le_zero.1 hle
    omega
  | cons outcome outcomes ih =>
    apply ih (h.fetchStep outcome)
    rw [List.length_cons] at hle
    by_cases hne : s.entries = []
    · have hnil : (s.fetchStep outcome).1.entries = [] := by
        have hnone : s.next? = none := by rw [next?, hne, List.getElem?_nil]
        rw [State.fetchStep, hnone, hne]
      rw [totalLeft, hnil, List.map_nil, List.sum_nil]
      exact Nat.zero_le _
    · have hlt := totalLeft_fetchStep outcome h hne
      omega

/-- An entry leaves by a fetch only. -/
lemma mem_fetched (outcomes : List FetchOutcome) (h : s.Inv) (hmem : entry ∈ s.entries)
    (hgone : entry ∉ (fetchSteps outcomes s).entries) : entry ∈ fetched outcomes s := by
  induction outcomes generalizing s with
  | nil => exact absurd hmem hgone
  | cons outcome outcomes ih =>
    rw [fetched, List.mem_append, Option.mem_toList]
    by_cases hnext : s.next? = some entry
    · exact .inl hnext
    · right
      refine ih (h.fetchStep outcome) ?_ hgone
      cases hother : s.next? with
      | none =>
        rw [State.fetchStep, hother]
        exact hmem
      | some other =>
        rw [(entries_fetchStep outcome hother h.nodup).2]
        refine ⟨hmem, fun heq => hnext ?_⟩
        rw [hother, heq.1]

/-- An entry is fetched no more often than its setting needs. -/
lemma count_fetched_le (entry : FetchEntry) (outcomes : List FetchOutcome) (h : s.Inv) :
    (fetched outcomes s).count entry ≤ if entry ∈ s.entries then s.left entry else 0 := by
  induction outcomes generalizing s with
  | nil => simp [fetched]
  | cons outcome outcomes ih =>
    have hrest := ih (h.fetchStep outcome)
    rw [fetched, List.count_append]
    cases hnext : s.next? with
    | none =>
      have hsame : (s.fetchStep outcome).1 = { s with cursor := 0 } := by
        rw [State.fetchStep, hnext]
      rw [hsame] at hrest ⊢
      simpa [left] using hrest
    | some other =>
      obtain ⟨hothers, hless⟩ := left_fetchStep outcome hnext
      have hmem := (entries_fetchStep outcome hnext h.nodup).2 entry
      -- the fetched entry needs fewer fetches now, and the others need as many as before
      by_cases heq : other = entry
      · subst heq
        have hin := mem_of_next? hnext
        have hpos := left_pos s other
        cases hdone : (s.fetchEntry other outcome).2 with
        | true =>
          rw [if_neg (by simp [hmem, hdone])] at hrest
          simp only [Option.toList_some, List.count_singleton_self, if_pos hin]
          omega
        | false =>
          have hlt := hless hdone
          rw [if_pos (by simp [hmem, hdone, hin])] at hrest
          simp only [Option.toList_some, List.count_singleton_self, if_pos hin]
          omega
      · have hcount : [other].count entry = 0 := by simp [heq]
        have hstay : entry ∈ (s.fetchStep outcome).1.entries ↔ entry ∈ s.entries := by
          rw [hmem]
          simp [Ne.symm heq]
        simp only [Option.toList_some, hcount, Nat.zero_add]
        by_cases hin : entry ∈ s.entries
        · have hne : entry.handler ≠ other.handler := by
            intro hhandler
            apply heq
            exact (List.inj_on_of_nodup_map h.nodup hin (mem_of_next? hnext) hhandler).symm
          rw [if_pos (hstay.2 hin), hothers entry hne] at hrest
          rw [if_pos hin]
          exact hrest
        · rw [if_neg (fun hmem => hin (hstay.1 hmem))] at hrest
          rw [if_neg hin]
          exact hrest

/-- From any state of a run, the idle steps that follow bring every entry to its end, whatever
comes of the fetches: after at most as many fetches as the settings need together, none is left,
and each entry was fetched once at least and no more often than its setting needs. -/
theorem fetchSteps_complete (h : transition.Reachable s) (outcomes : List FetchOutcome)
    (hle : s.totalLeft ≤ outcomes.length) :
    (fetchSteps outcomes s).entries = [] ∧
      ∀ entry ∈ s.entries, 1 ≤ (fetched outcomes s).count entry ∧
        (fetched outcomes s).count entry ≤ s.left entry := by
  have hinv := Inv.of_reachable h
  have hempty := entries_fetchSteps outcomes hinv hle
  refine ⟨hempty, fun entry hentry => ⟨?_, ?_⟩⟩
  · apply List.one_le_count_iff.2
    apply mem_fetched outcomes hinv hentry
    simp [hempty]
  · have hcount := count_fetched_le entry outcomes hinv
    rwa [if_pos hentry] at hcount

theorem fetchSteps_complete_oneGear :
    (fetchSteps [.read, .raises, .read] oneGear).entries = [] ∧
      ∀ entry ∈ oneGear.entries, 1 ≤ (fetched [.read, .raises, .read] oneGear).count entry ∧
        (fetched [.read, .raises, .read] oneGear).count entry ≤ oneGear.left entry :=
  fetchSteps_complete reachable_oneGear [.read, .raises, .read] (by decide)

end State

end WbMqttDali.FetchScheduler
