import Mathlib
import WbMqttDali.Driver.Callers

/-!
# One call of the internal sender

A call puts its commands with an `EnableDeviceType` before each device-type command,
and takes the responses of its own commands out of what it gets back.
-/

namespace WbMqttDali.Callers

open Driver (Response SendQueueItem FramePriority FutureState)

/-! ### The expanded commands -/

section Expansion

@[simp] lemma length_computeFramePriorities (commands : List DaliCommand)
    (callerPriority : FramePriority) :
    (computeFramePriorities commands callerPriority).length = commands.length := by
  cases commands <;> simp [computeFramePriorities]

@[simp] lemma commandsToSend_cons (cmd : DaliCommand) (commands : List DaliCommand) :
    commandsToSend (cmd :: commands) = cmd.expanded ++ commandsToSend commands := rfl

/-- Where the command `i` stands among the commands to send: one place further for every
device-type command up to it. -/
def position (commands : List DaliCommand) (i : ℕ) : ℕ :=
  i + (commands.take (i + 1)).countP fun cmd => cmd.devicetype ≠ 0

lemma position_zero (cmd : DaliCommand) (commands : List DaliCommand) :
    position (cmd :: commands) 0 = if cmd.devicetype ≠ 0 then 1 else 0 := by
  simp [position, List.countP_cons]

lemma position_succ (cmd : DaliCommand) (commands : List DaliCommand) (i : ℕ) :
    position (cmd :: commands) (i + 1) = cmd.expanded.length + position commands i := by
  by_cases hzero : cmd.devicetype = 0
  · simp [position, DaliCommand.expanded, hzero]
    omega
  · simp [position, DaliCommand.expanded, hzero]
    omega

/-- A device-type command stands right after its `EnableDeviceType`. -/
lemma getElem?_commandsToSend {commands : List DaliCommand} {i : ℕ} {cmd : DaliCommand}
    (hcmd : commands[i]? = some cmd) :
    (commandsToSend commands)[position commands i]? = some cmd ∧
      (cmd.devicetype ≠ 0 → ∃ j, position commands i = j + 1 ∧
        (commandsToSend commands)[j]? = some (enableDeviceType cmd.devicetype)) := by
  induction commands generalizing i with
  | nil => simp at hcmd
  | cons first commands ih =>
    cases i with
    | zero =>
      obtain rfl : first = cmd := by simpa using hcmd
      by_cases hzero : first.devicetype = 0
      · simp [position_zero, DaliCommand.expanded, hzero]
      · simp [position_zero, DaliCommand.expanded, hzero]
    | succ i =>
      obtain ⟨hown, henable⟩ := ih (by simpa using hcmd)
      rw [position_succ, commandsToSend_cons]
      constructor
      · rw [List.getElem?_append_right (by omega), Nat.add_sub_cancel_left]
        exact hown
      · intro hne
        obtain ⟨j, hj, hget⟩ := henable hne
        refine ⟨first.expanded.length + j, by omega, ?_⟩
        rw [List.getElem?_append_right (by omega), Nat.add_sub_cancel_left]
        exact hget

/-- With a response for every command to send, the loop finds one for every command. -/
lemma filterResponses_eq {β : Type*} {responses : List β} {commands : List DaliCommand} {i : ℕ}
    (hlength : i + (commandsToSend commands).length = responses.length) :
    ∃ filtered, filterResponses responses i commands = some filtered ∧
      filtered.length = commands.length ∧
      ∀ k < commands.length, filtered[k]? = responses[i + position commands k]? := by
  induction commands generalizing i with
  | nil => exact ⟨[], rfl, rfl, by simp⟩
  | cons cmd commands ih =>
    rw [commandsToSend_cons, List.length_append] at hlength
    have hskip : (if cmd.devicetype ≠ 0 then i + 1 else i) + 1 = i + cmd.expanded.length := by
      rw [DaliCommand.expanded]
      split <;> simp
    have hlt : (if cmd.devicetype ≠ 0 then i + 1 else i) < responses.length := by omega
    obtain ⟨filtered, hfiltered, hcount, hget⟩ := ih (i := i + cmd.expanded.length) (by omega)
    refine ⟨responses[if cmd.devicetype ≠ 0 then i + 1 else i] :: filtered, ?_, ?_, ?_⟩
    · rw [filterResponses]
      simp only [hskip, hfiltered, List.getElem?_eq_getElem hlt]
    · simp [hcount]
    · intro k hk
      cases k with
      | zero =>
        rw [position_zero, List.getElem?_cons_zero, ← List.getElem?_eq_getElem hlt]
        split <;> rfl
      | succ k =>
        rw [position_succ, List.getElem?_cons_succ, hget k (by simpa using hk), Nat.add_assoc]

end Expansion

/-! ### One call -/

lemma zipWith_concat {β γ δ : Type*} {f : β → γ → δ} {as : List β} {bs : List γ} {a : β} {b : γ}
    (hget : bs[as.length]? = some b) :
    List.zipWith f (as ++ [a]) bs = List.zipWith f as bs ++ [f a b] := by
  induction as generalizing bs with
  | nil =>
    cases bs with
    | nil => simp at hget
    | cons head bs =>
      obtain rfl : head = b := by simpa using hget
      simp
  | cons head as ih =>
    cases bs with
    | nil => simp at hget
    | cons head' bs => simpa using ih (by simpa using hget)

namespace SendCall

variable {call : SendCall} {driver driver' : Driver.State}

lemma frames_fst (call : SendCall) : call.frames.map Prod.fst = commandsToSend call.commands := by
  rw [frames, List.map_fst_zip]
  simp

lemma length_frames (call : SendCall) :
    call.frames.length = (commandsToSend call.commands).length := by
  rw [← frames_fst, List.length_map]

/-- The queued items carry the first of the commands to send. -/
lemma map_command_items (call : SendCall) : call.items.map SendQueueItem.command =
    ((commandsToSend call.commands).take call.responseFutures.length).map
      DaliCommand.toCommand := by
  rw [← frames_fst]
  apply List.ext_getElem?
  intro i
  by_cases hlt : i < call.responseFutures.length
  · cases hframe : call.frames[i]? with
    | none =>
      simp [items, List.getElem?_zipWith, hlt, hframe]
    | some frame =>
      simp [items, List.getElem?_zipWith, hlt, hframe, queueItem]
  · simp [items, hlt]

lemma length_items (hle : call.responseFutures.length ≤ call.frames.length) :
    call.items.length = call.responseFutures.length := by
  simpa [items] using hle

/-- The next frame is put at the end. -/
lemma items_put {future : ℕ} {frame : DaliCommand × FramePriority}
    (hframe : call.frames[call.responseFutures.length]? = some frame) :
    SendCall.items { call with responseFutures := call.responseFutures ++ [future] } =
      call.items ++ [call.queueItem future frame] :=
  zipWith_concat hframe

/-- How many frames a call has put when it stands at its place. -/
def Placed (call : SendCall) : Prop :=
  match call.place with
  | .acquire | .refused => call.responseFutures = []
  | .put => call.responseFutures.length < call.frames.length
  | .gather | .returned _ => call.responseFutures.length = call.frames.length
  | .indexError => False

/-- The invariant of a call; what it has returned are the results of its futures. -/
structure Sound (call : SendCall) (futures : ℕ → FutureState) : Prop where
  placed : call.Placed
  answered : ∀ responses, call.place = .returned responses → ∃ results : List Response,
    call.responseFutures.map futures = results.map FutureState.result ∧
      filterResponses results 0 call.commands = some responses

/-- Results stay. -/
lemma Sound.mono {futures futures' : ℕ → FutureState} (h : call.Sound futures)
    (hkept : ∀ f r, futures f = .result r → futures' f = .result r) : call.Sound futures' where
  placed := h.placed
  answered := fun responses hplace => by
    obtain ⟨results, hresults, hfiltered⟩ := h.answered responses hplace
    refine ⟨results, ?_, hfiltered⟩
    rw [← hresults]
    apply List.map_congr_left
    intro f hf
    obtain ⟨r, -, hr⟩ := List.mem_map.1 (hresults ▸ List.mem_map_of_mem (f := futures) hf)
    rw [← hr]
    exact hkept f r hr.symm

lemma Sound.next {futures : ℕ → FutureState}
    (hle : call.responseFutures.length ≤ call.frames.length) : call.next.Sound futures := by
  constructor
  · by_cases hlt : call.responseFutures.length < call.frames.length
    · simp only [Placed, SendCall.next, if_pos hlt]
      exact hlt
    · simp only [Placed, SendCall.next, if_neg hlt]
      exact le_antisymm hle (not_lt.1 hlt)
  · intro responses hplace
    by_cases hlt : call.responseFutures.length < call.frames.length
    · simp [SendCall.next, hlt] at hplace
    · simp [SendCall.next, hlt] at hplace

/-- `asyncio.gather` returns the results of the futures. -/
lemma gathered_eq_some {futures : ℕ → FutureState} {responses : List Response}
    (h : call.gathered futures = some responses) :
    call.responseFutures.map futures = responses.map FutureState.result := by
  rw [gathered] at h
  generalize call.responseFutures = fs at h ⊢
  induction fs generalizing responses with
  | nil =>
    obtain rfl : responses = [] := by simpa using h.symm
    rfl
  | cons f fs ih =>
    rw [List.mapM_cons] at h
    obtain ⟨first, hfirst, h⟩ := Option.bind_eq_some_iff.1 h
    obtain ⟨rest, hrest, h⟩ := Option.bind_eq_some_iff.1 h
    obtain rfl : first :: rest = responses := Option.some.inj h
    rw [List.map_cons, List.map_cons, ih hrest]
    congr 1
    split at hfirst
    · rename_i response hresult
      rw [hresult, Option.some.inj hfirst]
    · cases hfirst
    · cases hfirst

/-- All responses are there, so the loop over them does not run out of them. -/
lemma Sound.finish {futures : ℕ → FutureState} {responses : List Response}
    (h : call.Sound futures) (hplace : call.place = .gather)
    (hgathered : call.gathered futures = some responses) :
    (call.finish responses).Sound futures := by
  have hresults := gathered_eq_some hgathered
  have hlength : 0 + (commandsToSend call.commands).length = responses.length := by
    have hplaced := h.placed
    rw [Placed, hplace] at hplaced
    have := congrArg List.length hresults
    simp only [List.length_map] at this
    rw [Nat.zero_add, ← length_frames, ← hplaced, this]
  obtain ⟨filtered, hfiltered, -⟩ := filterResponses_eq hlength
  have hfinished : (call.finish responses).place = .returned filtered := by
    rw [SendCall.finish, hfiltered]
  constructor
  · have hplaced := h.placed
    rw [Placed, hplace] at hplaced
    rw [Placed, hfinished]
    exact hplaced
  · intro responses' hplace'
    rw [hfinished] at hplace'
    cases hplace'
    exact ⟨responses, hresults, hfiltered⟩

lemma Sound.ne_indexError {futures : ℕ → FutureState} (h : call.Sound futures) :
    call.place ≠ .indexError := by
  intro hplace
  have hplaced := h.placed
  rw [Placed, hplace] at hplaced
  exact hplaced

lemma Sound.length_le {futures : ℕ → FutureState} (h : call.Sound futures) :
    call.responseFutures.length ≤ call.frames.length := by
  have hplaced := h.placed
  rw [Placed] at hplaced
  split at hplaced
  · simp [hplaced]
  · simp [hplaced]
  · exact hplaced.le
  · exact hplaced.le
  · exact hplaced.le
  · exact hplaced.elim

end SendCall

/-! ### What a call shows -/

namespace SendCall

variable {call : SendCall} {futures : ℕ → FutureState}

/-- The queued frames are the commands in their order, each device-type command right after
its own `EnableDeviceType`; once the call waits for its futures, they are all there. -/
structure InOrder (call : SendCall) : Prop where
  commands : call.items.map SendQueueItem.command <+:
    (commandsToSend call.commands).map DaliCommand.toCommand
  all : call.place = .gather ∨ (∃ responses, call.place = .returned responses) →
    call.items.length = (commandsToSend call.commands).length
  own : ∀ i item cmd, call.items[position call.commands i]? = some item →
    call.commands[i]? = some cmd → item.command = cmd.toCommand ∧
      (cmd.devicetype ≠ 0 → ∃ j enable, position call.commands i = j + 1 ∧
        call.items[j]? = some enable ∧
        enable.command = (enableDeviceType cmd.devicetype).toCommand)

/-- The response `i` that a call has returned is the result of the future of its command `i`. -/
def Aligned (call : SendCall) (futures : ℕ → FutureState) : Prop :=
  ∀ responses, call.place = .returned responses →
    responses.length = call.commands.length ∧
    ∀ i cmd, call.commands[i]? = some cmd → ∃ item response,
      call.items[position call.commands i]? = some item ∧ item.command = cmd.toCommand ∧
      responses[i]? = some response ∧ futures item.future = .result response

lemma getElem?_items_command {k : ℕ} {item : SendQueueItem} (hitem : call.items[k]? = some item)
    {cmd : DaliCommand} (hcmd : (commandsToSend call.commands)[k]? = some cmd) :
    item.command = cmd.toCommand := by
  have hmap := congrArg (fun l => l[k]?) (map_command_items call)
  simp only [List.getElem?_map, hitem, Option.map_some, List.getElem?_take, hcmd] at hmap
  split at hmap
  · exact Option.some.inj hmap
  · cases hmap

lemma Sound.inOrder (h : call.Sound futures) : call.InOrder where
  commands := by
    rw [map_command_items, List.map_take]
    exact List.take_prefix _ _
  all := by
    intro hplace
    rw [length_items h.length_le, ← length_frames]
    have hplaced := h.placed
    rw [Placed] at hplaced
    rcases hplace with hplace | ⟨responses, hplace⟩
    · rw [hplace] at hplaced
      exact hplaced
    · rw [hplace] at hplaced
      exact hplaced
  own := by
    intro i item cmd hitem hcmd
    obtain ⟨hown, henable⟩ := getElem?_commandsToSend hcmd
    refine ⟨getElem?_items_command hitem hown, fun hne => ?_⟩
    obtain ⟨j, hj, hget⟩ := henable hne
    have hlt : j < call.items.length := by
      have := (List.getElem?_eq_some_iff.1 hitem).1
      omega
    refine ⟨j, call.items[j], hj, List.getElem?_eq_getElem hlt, ?_⟩
    exact getElem?_items_command (List.getElem?_eq_getElem hlt) hget

lemma getElem?_items_future {k : ℕ} {item : SendQueueItem} (hitem : call.items[k]? = some item) :
    call.responseFutures[k]? = some item.future := by
  rw [items, List.getElem?_zipWith] at hitem
  split at hitem
  · rename_i future frame hfuture hframe
    rw [hfuture, ← Option.some.inj hitem]
    rfl
  · cases hitem

lemma Sound.aligned (h : call.Sound futures) : call.Aligned futures := by
  intro responses hplace
  obtain ⟨results, hresults, hfiltered⟩ := h.answered responses hplace
  have hall := h.inOrder.all (.inr ⟨responses, hplace⟩)
  have hcount : call.responseFutures.length = results.length := by
    simpa using congrArg List.length hresults
  have hitems := length_items h.length_le
  obtain ⟨filtered, hfiltered', hlength, hget⟩ :=
    @filterResponses_eq _ results call.commands 0 (by omega)
  obtain rfl : filtered = responses := Option.some.inj (hfiltered'.symm.trans hfiltered)
  refine ⟨hlength, fun i cmd hcmd => ?_⟩
  obtain ⟨hown, -⟩ := getElem?_commandsToSend hcmd
  have hlt : position call.commands i < call.items.length := by
    rw [hall]
    exact (List.getElem?_eq_some_iff.1 hown).1
  have hitem := List.getElem?_eq_getElem hlt
  have hresult : position call.commands i < results.length := by omega
  refine ⟨_, results[position call.commands i], hitem, getElem?_items_command hitem hown, ?_, ?_⟩
  · rw [hget i (List.getElem?_eq_some_iff.1 hcmd).1, Nat.zero_add]
    exact List.getElem?_eq_getElem hresult
  · have hmap := congrArg (fun l => l[position call.commands i]?) hresults
    simpa [getElem?_items_future hitem, hresult] using hmap

end SendCall

end WbMqttDali.Callers
