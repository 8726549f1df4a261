import Mathlib
import WbMqttDali.Constants
import WbMqttDali.Driver.SendOrder
import WbMqttDali.Lib.Literals

/-!
# The batches of `Bus/SendCommand`

`_send_command_batch_task` sends the commands of a batch one by one, and repeats a
command whose transmission failed.  Every attempt is a call of `send` of its own,
which takes the lock of the send queue and gives it back, so other callers may put
their frames between two attempts.
-/

namespace WbMqttDali.SendCommandBatch

open Driver (Response Answer FramePriority BusTrafficSource WBDALIConfig
  isTransmissionErrorResponse)
open Callers (DaliCommand SendCall Caller Queued Kept)

/-! ### Results -/

/-- `SendCommandStatus` -/
inductive SendCommandStatus where
  | ok
  | error
  deriving DecidableEq

/-- `SendCommandResponse` -/
structure SendCommandResponse where
  raw : Option ℕ
  value : String
  deriving DecidableEq

/-- `SendCommandResult` -/
structure SendCommandResult where
  status : SendCommandStatus
  response : Option SendCommandResponse := none
  error : Option String := none
  deriving DecidableEq

/-- What python-dali knows of the response class of a command. -/
structure ResponseClasses where
  /-- `str(response)` -/
  str : DaliCommand → Option Answer → String
  /-- `response._error_acceptable` -/
  errorAcceptable : DaliCommand → Bool

/-- `raw_value` of a response that is no transmission error. -/
def rawValue : Response → Option Answer
  | .ofClass raw | .plain raw => raw
  | _ => none

/-- `as_integer` -/
def asInteger : Answer → ℕ
  | .backwardFrame byte | .backwardFrameError byte => byte

/-- The text of the error that `check_query_response` raises. -/
def checkQueryResponse (errorAcceptable : Bool) (raw : Option Answer) : Option String :=
  if errorAcceptable then none
  else
    match raw with
    | none => some "no response"
    | some (.backwardFrameError _) => some "framing error"
    | some (.backwardFrame _) => none

/-- The entry of the results for the final response to a command. -/
def resultOf (classes : ResponseClasses) (cmd : DaliCommand) (response : Response) :
    SendCommandResult :=
  match response.transmissionError with
  | some error => { status := .error, error := some error }
  | none =>
    if cmd.hasResponseClass then
      match checkQueryResponse (classes.errorAcceptable cmd) (rawValue response) with
      | some error => { status := .error, error := some error }
      | none => {
          status := .ok
          response := some {
            raw := (rawValue response).map asInteger
            value := classes.str cmd (rawValue response) } }
    else { status := .ok }

/-! ### The task -/

/-- A run of `_send_command_batch_task`: `current` is the call of `send` that it waits for,
the `attempt`-th one for its command.  `sends` records for which command a call was made. -/
structure Batch where
  commands : List DaliCommand
  results : List SendCommandResult := []
  attempt : ℕ := 1
  current : Option ℕ := none
  /-- the loop was left by `break` -/
  stopped : Bool := false
  sends : ℕ → Option ℕ := fun _ => none

namespace Batch

variable (batch : Batch)

/-- The command that is sent now. -/
def next : Option DaliCommand :=
  if batch.stopped then none else batch.commands[batch.results.length]?

/-- A call of `send` has returned: the command is sent again, or gets its result. -/
def onResponse (classes : ResponseClasses) (cmd : DaliCommand) (response : Response) : Batch :=
  if isTransmissionErrorResponse (some response) ∧ batch.attempt < maxCommandRetries then
    { batch with attempt := batch.attempt + 1, current := none }
  else
    { batch with
      results := batch.results ++ [resultOf classes cmd response]
      attempt := 1
      current := none
      stopped := isTransmissionErrorResponse (some response) }

end Batch

/-- The callers of the driver, and one batch among them. -/
structure State (α : Type) where
  callers : Callers.State α
  batch : Option Batch := none

inductive Event (α : Type) where
  /-- another caller does something, or a call of the batch goes on -/
  | callers (e : Callers.Event α)
  /-- the batch starts; `id` is its first call of `send` -/
  | start (id : ℕ) (commands : List DaliCommand)
  /-- the call that the batch waits for has returned; `id` is the next one, if there is one -/
  | returned (id : ℕ)

namespace State

variable {α : Type} (s : State α)

/-- The batch calls `send` for its next command, or is over. -/
def proceed (batch : Batch) (id : ℕ) : Option (State α) :=
  match batch.next with
  | none => some { s with batch := some batch }
  | some cmd =>
    (s.callers.sendCommands id [cmd] .wb .userAction).map fun callers =>
      { callers
        batch := some { batch with
          current := some id
          sends := Function.update batch.sends id (some batch.results.length) } }

def start (id : ℕ) (commands : List DaliCommand) : Option (State α) :=
  match s.batch with
  | none => s.proceed { commands } id
  | some _ => none

def returned (classes : ResponseClasses) (id : ℕ) : Option (State α) :=
  match s.batch with
  | none => none
  | some batch =>
    match batch.current, batch.next with
    | some sent, some cmd =>
      match s.callers.callers sent with
      | some (.sendCommands call) =>
        match call.answer with
        | some (response :: _) => s.proceed (batch.onResponse classes cmd response) id
        | _ => none
      | _ => none
    | _, _ => none

/-- For which command of the batch a caller sends; `none` for all other callers. -/
def indexOf (id : ℕ) : Option ℕ := s.batch.bind fun batch => batch.sends id

end State

section Steps

variable {α : Type}

def step (config : WBDALIConfig) (classes : ResponseClasses) (s : State α) :
    Event α → Option (State α)
  | .callers e => (Callers.step config s.callers e).map fun callers => { s with callers }
  | .start id commands => s.start id commands
  | .returned id => s.returned classes id

/-- One batch among other callers as a transition system. -/
def sendCommandBatch (config : WBDALIConfig) (classes : ResponseClasses) :
    Transition (State α) (Event α) where
  init s := ∃ callers, (Callers.callers config).init callers ∧ s = { callers }
  step := step config classes

end Steps

/-! ### The properties of a batch -/

section Properties

variable {α : Type} (s : State α)

/-- No frame of another caller stands in the queue between two frames of the batch. -/
def Together : Prop :=
  ∃ before mine after, s.callers.queued = before ++ mine ++ after ∧
    (∀ entry ∈ mine, s.indexOf entry.caller ≠ none) ∧
    ∀ entry ∈ before ++ after, s.indexOf entry.caller = none

/-- The frames in the queue belong to the commands of the batch in their order. -/
def InListOrder : Prop :=
  (s.callers.queued.filterMap fun entry => s.indexOf entry.caller).Pairwise (· ≤ ·) ∧
  ∀ id i, s.indexOf id = some i → ∃ batch cmd call, s.batch = some batch ∧
    batch.commands[i]? = some cmd ∧ s.callers.callers id = some (.sendCommands call) ∧
    call.commands = [cmd]

/-- The result `i` is made of a response that was returned for the command `i`. -/
def Outcomes (classes : ResponseClasses) : Prop :=
  ∀ batch, s.batch = some batch → ∀ i result, batch.results[i]? = some result →
    ∃ cmd id call response, batch.commands[i]? = some cmd ∧ s.indexOf id = some i ∧
      s.callers.callers id = some (.sendCommands call) ∧ call.commands = [cmd] ∧
      call.answer = some [response] ∧ result = resultOf classes cmd response

/-- When the batch takes the lock for a further frame, the last frame in the queue is still
its own: no other caller has put one since the batch gave the lock back. -/
def NothingPutBetween : Event α → Prop
  | .callers (.acquire id) =>
    s.indexOf id ≠ none → (∃ entry ∈ s.callers.queued, s.indexOf entry.caller ≠ none) →
      ∀ entry ∈ s.callers.queued.getLast?, s.indexOf entry.caller ≠ none
  | _ => True

end Properties

/-! ### The invariant -/

section Invariant

variable {α : Type} {config : WBDALIConfig} {classes : ResponseClasses} {s s' : State α}
  {callers callers' : Callers.State α} {batch batch' : Batch}

/-- Every call of the batch but the current one has returned, the queue holds its frames in
list order, and the results come from its calls. -/
structure Following (classes : ResponseClasses) (callers : Callers.State α)
    (batch : Batch) : Prop where
  calls : ∀ id i, batch.sends id = some i → ∃ cmd call, batch.commands[i]? = some cmd ∧
    callers.callers id = some (.sendCommands call) ∧ call.commands = [cmd] ∧
    (batch.current ≠ some id → call.answer ≠ none)
  le : ∀ id i, batch.sends id = some i → i ≤ batch.results.length
  current : ∀ id, batch.current = some id → batch.sends id = some batch.results.length
  order : (callers.queued.filterMap fun entry => batch.sends entry.caller).Pairwise (· ≤ ·)
  outcomes : ∀ i result, batch.results[i]? = some result → ∃ cmd id call response,
    batch.commands[i]? = some cmd ∧ batch.sends id = some i ∧
    callers.callers id = some (.sendCommands call) ∧ call.commands = [cmd] ∧
    call.answer = some [response] ∧ result = resultOf classes cmd response

/-- A caller that has not begun is no call of the batch, and has put no frame. -/
lemma Following.fresh (h : Following classes callers batch) {id : ℕ}
    (hnone : callers.callers id = none) : batch.sends id = none := by
  cases hsends : batch.sends id with
  | none => rfl
  | some i =>
    obtain ⟨cmd, call, -, hcaller, -⟩ := h.calls id i hsends
    rw [hnone] at hcaller
    cases hcaller

lemma caller_ne_of_none (hkept : Kept callers.itemsOf callers) {id : ℕ}
    (hnone : callers.callers id = none) : ∀ entry ∈ callers.queued, entry.caller ≠ id := by
  have hempty : callers.itemsOf id = [] := by rw [Callers.State.itemsOf, hnone]
  have hlock : callers.lock ≠ some id := fun hlock => hkept.held id hlock hnone
  obtain ⟨before, after, hqueued, hothers⟩ := hkept.contiguous id hlock
  rw [hqueued, hempty, List.map_nil, List.append_nil]
  exact hothers

/-- The callers go on. -/
lemma Following.callersStep (h : Following classes callers batch)
    (hkept : Kept callers.itemsOf callers) {e : Callers.Event α}
    (hstep : Callers.step config callers e = some callers') :
    Following classes callers' batch where
  calls := by
    intro id i hsends
    obtain ⟨cmd, call, hcmd, hcaller, hcommands, hanswer⟩ := h.calls id i hsends
    obtain ⟨call', hcaller', hcommands', hsame⟩ := Callers.step_sendCommands hstep hcaller
    refine ⟨cmd, call', hcmd, hcaller', hcommands'.trans hcommands, fun hne => ?_⟩
    rw [hsame (hanswer hne)]
    exact hanswer hne
  le := h.le
  current := h.current
  order := by
    rcases (Callers.step_queued hkept hstep).1 with heq | ⟨id, item, heq, -, hanswer⟩
    · rw [heq]
      exact h.order
    · rw [heq, List.filterMap_append, List.pairwise_append]
      cases hsends : batch.sends id with
      | none => simpa [hsends] using h.order
      | some i =>
        -- only the current call still puts frames, and no call is for a later command
        have hi : i = batch.results.length := by
          obtain ⟨cmd, call, -, hcaller, -, hreturned⟩ := h.calls id i hsends
          by_cases hcurrent : batch.current = some id
          · exact Option.some.inj (hsends.symm.trans (h.current id hcurrent))
          · exact absurd (hanswer call hcaller) (hreturned hcurrent)
        refine ⟨h.order, by simp [hsends], fun j hj j' hj' => ?_⟩
        obtain ⟨entry, -, hentry⟩ := List.mem_filterMap.1 hj
        obtain rfl : j' = i := by simpa [hsends] using hj'
        rw [hi]
        exact h.le entry.caller j hentry
  outcomes := by
    intro i result hresult
    obtain ⟨cmd, id, call, response, hcmd, hsends, hcaller, hcommands, hanswer, heq⟩ :=
      h.outcomes i result hresult
    obtain ⟨call', hcaller', -, hsame⟩ := Callers.step_sendCommands hstep hcaller
    obtain rfl := hsame (by simp [hanswer])
    exact ⟨cmd, id, call', response, hcmd, hsends, hcaller', hcommands, hanswer, heq⟩

/-- A new call of `send_commands` only adds a caller. -/
lemma sendCommands_frame {id : ℕ} {cmd : DaliCommand}
    (hsend : callers.sendCommands id [cmd] .wb .userAction = some callers') :
    callers.callers id = none ∧ callers'.queued = callers.queued ∧
      callers'.lock = callers.lock ∧ ∃ call, call.commands = [cmd] ∧
        callers'.callers = Function.update callers.callers id (some (.sendCommands call)) := by
  have hstep : Callers.step {} callers (.sendCommands id [cmd] .wb .userAction) = some callers' :=
    hsend
  cases Callers.happens_of_step hstep with
  | refused hsource hnone hunavailable => exact ⟨hnone, rfl, rfl, _, rfl, rfl⟩
  | sendCommands hsource hnone => exact ⟨hnone, rfl, rfl, _, rfl, rfl⟩

/-- The batch calls `send` once its last call has returned. -/
lemma Following.send (h : Following classes callers batch)
    (hkept : Kept callers.itemsOf callers) (hcurrent : batch.current = none) {id : ℕ}
    {cmd : DaliCommand} (hnext : batch.commands[batch.results.length]? = some cmd)
    (hsend : callers.sendCommands id [cmd] .wb .userAction = some callers') :
    Following classes callers' { batch with
      current := some id
      sends := Function.update batch.sends id (some batch.results.length) } := by
  obtain ⟨hnone, hqueued, -, call, hcommands, hcallers⟩ := sendCommands_frame hsend
  have hfresh := h.fresh hnone
  -- the call is a new one
  have hother : ∀ {id' i}, batch.sends id' = some i → id' ≠ id := by
    rintro id' i hsends rfl
    rw [hfresh] at hsends
    cases hsends
  constructor
  · intro id' i hsends
    by_cases hid : id' = id
    · subst hid
      obtain rfl : batch.results.length = i := by simpa using hsends
      exact ⟨cmd, call, hnext, by rw [hcallers, Function.update_self], hcommands,
        fun hne => absurd rfl hne⟩
    · obtain ⟨cmd', call', hcmd', hcaller', hcommands', hanswer'⟩ :=
        h.calls id' i (by simpa [hid] using hsends)
      refine ⟨cmd', call', hcmd', ?_, hcommands', fun _ => hanswer' (by simp [hcurrent])⟩
      rw [hcallers, Function.update_of_ne hid]
      exact hcaller'
  · intro id' i hsends
    by_cases hid : id' = id
    · subst hid
      obtain rfl : batch.results.length = i := by simpa using hsends
      exact le_rfl
    · exact h.le id' i (by simpa [hid] using hsends)
  · intro id' hid'
    obtain rfl : id = id' := Option.some.inj hid'
    simp
  · have hsame : ∀ entry ∈ callers.queued, Function.update batch.sends id
        (some batch.results.length) entry.caller = batch.sends entry.caller :=
      fun entry hentry => Function.update_of_ne (caller_ne_of_none hkept hnone entry hentry) _ _
    rw [hqueued, List.filterMap_congr hsame]
    exact h.order
  · intro i result hresult
    obtain ⟨cmd', id', call', response, hcmd', hsends, hcaller', hrest⟩ :=
      h.outcomes i result hresult
    have hne := hother hsends
    refine ⟨cmd', id', call', response, hcmd', ?_, ?_, hrest⟩
    · show Function.update batch.sends id _ id' = _
      rw [Function.update_of_ne hne]
      exact hsends
    · rw [hcallers, Function.update_of_ne hne]
      exact hcaller'

/-- The current call of the batch has returned. -/
lemma Following.onResponse (h : Following classes callers batch) {id : ℕ} {cmd : DaliCommand}
    {call : SendCall} {response : Response} (hcurrent : batch.current = some id)
    (hnext : batch.commands[batch.results.length]? = some cmd)
    (hcaller : callers.callers id = some (.sendCommands call))
    (hanswer : call.answer = some [response]) :
    Following classes callers (batch.onResponse classes cmd response) := by
  have hsends := h.current id hcurrent
  have hcommands : call.commands = [cmd] := by
    obtain ⟨cmd', call', hcmd', hcaller', hcommands', -⟩ := h.calls id _ hsends
    obtain rfl : call = call' := by simpa [hcaller] using hcaller'
    obtain rfl : cmd = cmd' := by simpa [hnext] using hcmd'
    exact hcommands'
  have hcalls : ∀ id' i, batch.sends id' = some i → ∃ cmd call, batch.commands[i]? = some cmd ∧
      callers.callers id' = some (.sendCommands call) ∧ call.commands = [cmd] ∧
      (none ≠ some id' → call.answer ≠ none) := by
    intro id' i hsends'
    obtain ⟨cmd', call', hcmd', hcaller', hcommands', hreturned⟩ := h.calls id' i hsends'
    refine ⟨cmd', call', hcmd', hcaller', hcommands', fun _ => ?_⟩
    by_cases hid : id' = id
    · subst hid
      obtain rfl : call = call' := by simpa [hcaller] using hcaller'
      simp [hanswer]
    · refine hreturned fun hcurrent' => hid ?_
      exact Option.some.inj (hcurrent'.symm.trans hcurrent)
  rw [Batch.onResponse]
  split
  · exact ⟨hcalls, h.le, by simp, h.order, h.outcomes⟩
  · refine ⟨hcalls, fun id' i hsends' => ?_, by simp, h.order, ?_⟩
    · have := h.le id' i hsends'
      simp only [List.length_append, List.length_singleton]
      omega
    · intro i result hresult
      by_cases hlt : i < batch.results.length
      · rw [List.getElem?_append_left hlt] at hresult
        exact h.outcomes i result hresult
      · -- the result that was just appended
        rw [List.getElem?_append_right (not_lt.1 hlt)] at hresult
        obtain ⟨hi, heq⟩ := List.getElem?_eq_some_iff.1 hresult
        have hlast : i = batch.results.length := by
          simp only [List.length_singleton] at hi
          omega
        subst hlast
        refine ⟨cmd, id, call, response, hnext, hsends, hcaller, hcommands, hanswer, ?_⟩
        simpa using heq.symm

/-! ### Steps -/

lemma proceed_cases {id : ℕ} (h : s.proceed batch id = some s') :
    (s' = { s with batch := some batch }) ∨ ∃ cmd callers,
      batch.commands[batch.results.length]? = some cmd ∧
      s.callers.sendCommands id [cmd] .wb .userAction = some callers ∧
      s' = { callers, batch := some { batch with
        current := some id
        sends := Function.update batch.sends id (some batch.results.length) } } := by
  rw [State.proceed] at h
  split at h
  case h_1 =>
    cases h
    exact .inl rfl
  case h_2 cmd hnext =>
    obtain ⟨callers, hsend, h⟩ := Option.map_eq_some_iff.1 h
    cases h
    rw [Batch.next] at hnext
    split at hnext
    · cases hnext
    · exact .inr ⟨cmd, callers, hnext, hsend, rfl⟩

/-- A call has returned one response for every command. -/
lemma answer_eq (hkept : Kept callers.itemsOf callers) {id : ℕ} {call : SendCall}
    (hcaller : callers.callers id = some (.sendCommands call)) {cmd : DaliCommand}
    (hcommands : call.commands = [cmd]) {response : Response} {rest : List Response}
    (hanswer : call.answer = some (response :: rest)) : call.answer = some [response] := by
  have hlength : (response :: rest).length = call.commands.length := by
    rw [SendCall.answer] at hanswer
    split at hanswer
    · rename_i responses hplace
      have haligned := (hkept.sound_of hcaller (by simp [Caller.calls] : call ∈ _)).aligned
      rw [← Option.some.inj hanswer]
      exact (haligned responses hplace).1
    · rw [← Option.some.inj hanswer, SendCall.refusal, List.length_map]
    all_goals cases hanswer
  obtain rfl : rest = [] := by simpa [hcommands] using hlength
  exact hanswer

/-- What holds of the callers and of the batch in every state. -/
structure Sending (classes : ResponseClasses) (s : State α) : Prop where
  kept : Kept s.callers.itemsOf s.callers
  following : ∀ batch, s.batch = some batch → Following classes s.callers batch

lemma Sending.proceed (h : Sending classes s) (hbatch : Following classes s.callers batch)
    (hcurrent : batch.current = none) {id : ℕ} (hstep : s.proceed batch id = some s') :
    Sending classes s' := by
  rcases proceed_cases hstep with rfl | ⟨cmd, callers, hnext, hsend, rfl⟩
  · refine ⟨h.kept, fun batch' hbatch' => ?_⟩
    rw [← Option.some.inj hbatch']
    exact hbatch
  · have hcallers : Callers.step {} s.callers (.sendCommands id [cmd] .wb .userAction) =
        some callers := hsend
    refine ⟨h.kept.step hcallers, fun batch' hbatch' => ?_⟩
    rw [← Option.some.inj hbatch']
    exact hbatch.send h.kept hcurrent hnext hsend

/-- What the step of a batch that waits for a call is. -/
lemma returned_eq_some {id : ℕ} (h : s.returned classes id = some s') :
    ∃ batch sent cmd call response rest, s.batch = some batch ∧ batch.current = some sent ∧
      batch.commands[batch.results.length]? = some cmd ∧
      s.callers.callers sent = some (.sendCommands call) ∧
      call.answer = some (response :: rest) ∧
      s.proceed (batch.onResponse classes cmd response) id = some s' := by
  rw [State.returned] at h
  split at h
  case h_1 => cases h
  case h_2 batch hbatch =>
    split at h
    case h_2 => cases h
    case h_1 sent cmd hcurrent hnext =>
      split at h
      case h_2 => cases h
      case h_1 call hcaller =>
        split at h
        case h_2 => cases h
        case h_1 response rest hanswer =>
          rw [Batch.next] at hnext
          split at hnext
          · cases hnext
          · exact ⟨batch, sent, cmd, call, response, rest, hbatch, hcurrent, hnext, hcaller,
              hanswer, h⟩

theorem Sending.step {e : Event α} (h : Sending classes s)
    (hstep : step config classes s e = some s') : Sending classes s' := by
  cases e with
  | callers e =>
    obtain ⟨callers, hcallers, hstep⟩ := Option.map_eq_some_iff.1 hstep
    cases hstep
    exact ⟨h.kept.step hcallers, fun batch hbatch =>
      (h.following batch hbatch).callersStep h.kept hcallers⟩
  | start id commands =>
    rw [SendCommandBatch.step, State.start] at hstep
    split at hstep
    case h_2 => cases hstep
    case h_1 =>
      refine h.proceed ⟨by simp, by simp, by simp, ?_, by simp⟩ rfl hstep
      simp
  | returned id =>
    obtain ⟨batch, sent, cmd, call, response, rest, hbatch, hcurrent, hnext, hcaller, hanswer,
      hproceed⟩ := returned_eq_some hstep
    have hfollowing := h.following batch hbatch
    obtain ⟨cmd', call', -, hcaller', hcommands, -⟩ :=
      hfollowing.calls sent _ (hfollowing.current sent hcurrent)
    obtain rfl : call = call' := by simpa [hcaller] using hcaller'
    refine h.proceed (hfollowing.onResponse hcurrent hnext hcaller
      (answer_eq h.kept hcaller hcommands hanswer)) ?_ hproceed
    rw [Batch.onResponse]
    split <;> rfl

lemma sending_of_reachable (h : (sendCommandBatch config classes).Reachable s) :
    Sending classes s := by
  refine h.invariant (I := fun s => Sending classes s) ?_ fun _ _ _ hsending _ hstep =>
    hsending.step hstep
  rintro s ⟨callers, hinit, rfl⟩
  exact ⟨Callers.kept_initial hinit, by simp⟩

lemma Sending.inListOrder (h : Sending classes s) : InListOrder s := by
  cases hbatch : s.batch with
  | none =>
    have hindex : ∀ id, s.indexOf id = none := fun id => by simp [State.indexOf, hbatch]
    refine ⟨?_, fun id i hid => ?_⟩
    · simp [hindex]
    · rw [hindex] at hid
      cases hid
  | some batch =>
    have hindex : ∀ id, s.indexOf id = batch.sends id := fun id => by
      simp [State.indexOf, hbatch]
    have hfollowing := h.following batch hbatch
    refine ⟨?_, fun id i hid => ?_⟩
    · simp only [hindex]
      exact hfollowing.order
    · obtain ⟨cmd, call, hcmd, hcaller, hcommands, -⟩ := hfollowing.calls id i (hindex id ▸ hid)
      exact ⟨batch, cmd, call, hbatch, hcmd, hcaller, hcommands⟩

lemma Sending.outcomes (h : Sending classes s) : Outcomes s classes := by
  intro batch hbatch i result hresult
  obtain ⟨cmd, id, call, response, hcmd, hsends, hrest⟩ :=
    (h.following batch hbatch).outcomes i result hresult
  refine ⟨cmd, id, call, response, hcmd, ?_, hrest⟩
  rw [State.indexOf, hbatch]
  exact hsends

/-! ### The frames of the batch stay together -/

/-- While a call of the batch holds the lock, the frames of the batch are the last ones. -/
def Block (s : State α) : Prop :=
  ∃ before mine after, s.callers.queued = before ++ mine ++ after ∧
    (∀ entry ∈ mine, s.indexOf entry.caller ≠ none) ∧
    (∀ entry ∈ before ++ after, s.indexOf entry.caller = none) ∧
    ∀ id, s.callers.lock = some id → s.indexOf id ≠ none → after = []

lemma Block.together (h : Block s) : Together s := by
  obtain ⟨before, mine, after, hqueued, hmine, hothers, -⟩ := h
  exact ⟨before, mine, after, hqueued, hmine, hothers⟩

/-- A new call of the batch has put no frame yet, and does not hold the lock. -/
lemma Block.send (h : Block s) (hkept : Kept s.callers.itemsOf s.callers) {id : ℕ}
    {cmd : DaliCommand} (hsend : s.callers.sendCommands id [cmd] .wb .userAction = some callers')
    (hindex : ∀ id', id' ≠ id → s'.indexOf id' = s.indexOf id')
    (hcallers : s'.callers = callers') : Block s' := by
  obtain ⟨before, mine, after, hqueued, hmine, hothers, hlast⟩ := h
  obtain ⟨hnone, hqueued', hlock, -⟩ := sendCommands_frame hsend
  have hsame : ∀ entry ∈ s.callers.queued, s'.indexOf entry.caller = s.indexOf entry.caller :=
    fun entry hentry => hindex _ (caller_ne_of_none hkept hnone entry hentry)
  rw [hqueued] at hsame
  refine ⟨before, mine, after, ?_, fun entry hentry => ?_, fun entry hentry => ?_,
    fun id' hlock' hown => ?_⟩
  · rw [hcallers, hqueued', hqueued]
  · rw [hsame entry (by simp [hentry])]
    exact hmine entry hentry
  · rcases List.mem_append.1 hentry with hbefore | hafter
    · rw [hsame entry (by simp [hbefore])]
      exact hothers entry hentry
    · rw [hsame entry (by simp [hafter])]
      exact hothers entry hentry
  · rw [hcallers, hlock] at hlock'
    have hne : id' ≠ id := by
      rintro rfl
      exact hkept.held id' hlock' hnone
    rw [hindex id' hne] at hown
    exact hlast id' hlock' hown

/-- The callers go on; when the batch takes the lock, nothing was put after its last frame. -/
lemma Block.callersStep (h : Block s) (hkept : Kept s.callers.itemsOf s.callers)
    {e : Callers.Event α} (hok : NothingPutBetween s (.callers e))
    (hstep : Callers.step config s.callers e = some callers') :
    Block { s with callers := callers' } := by
  obtain ⟨before, mine, after, hqueued, hmine, hothers, hlast⟩ := h
  obtain ⟨hput, hlock⟩ := Callers.step_queued hkept hstep
  rcases hput with heq | ⟨id, item, heq, hheld, -⟩
  · by_cases htaken : ∃ id, callers'.lock = some id ∧ s.callers.lock ≠ some id ∧
        s.indexOf id ≠ none
    · obtain ⟨id, hid, hne, hown⟩ := htaken
      obtain ⟨rfl, -⟩ := (hlock id hid).resolve_left hne
      by_cases hmineEmpty : mine = []
      · subst hmineEmpty
        refine ⟨before ++ after, [], [], ?_, by simp, ?_, fun _ _ _ => rfl⟩
        · show callers'.queued = _
          rw [heq, hqueued]
          simp
        · intro entry hentry
          exact hothers entry (by simpa using hentry)
      · -- the batch has frames in the queue, so the last frame is one of them
        obtain ⟨entry, hentry⟩ := List.exists_mem_of_ne_nil mine hmineEmpty
        have hlastOwn := hok hown ⟨entry, by simp [hqueued, hentry], hmine entry hentry⟩
        have hafter : after = [] := by
          by_contra hne'
          have hmem := List.getLast_mem hne'
          refine hlastOwn (after.getLast hne') ?_ (hothers _ (by simp [hmem]))
          rw [hqueued, List.getLast?_append_of_ne_nil _ hne', List.getLast?_eq_some_getLast hne']
          rfl
        exact ⟨before, mine, after, heq.trans hqueued, hmine, hothers, fun _ _ _ => hafter⟩
    · refine ⟨before, mine, after, heq.trans hqueued, hmine, hothers, fun id hid hown => ?_⟩
      by_cases hold : s.callers.lock = some id
      · exact hlast id hold hown
      · exact absurd ⟨id, hid, hold, hown⟩ htaken
  · have hsameLock : ∀ id', callers'.lock = some id' → id' = id := by
      intro id' hid'
      rcases hlock id' hid' with hold | ⟨-, hsame⟩
      · exact Option.some.inj (hold.symm.trans hheld)
      · rw [heq] at hsame
        simp at hsame
    by_cases hown : s.indexOf id = none
    · refine ⟨before, mine, after ++ [⟨id, item⟩], ?_, hmine, ?_, fun id' hid' hown' => ?_⟩
      · show callers'.queued = _
        rw [heq, hqueued]
        simp
      · intro entry hentry
        rw [← List.append_assoc] at hentry
        rcases List.mem_append.1 hentry with hentry | hentry
        · exact hothers entry hentry
        · rw [List.mem_singleton.1 hentry]
          exact hown
      · rw [hsameLock id' hid'] at hown'
        exact absurd hown hown'
    · obtain rfl := hlast id hheld hown
      refine ⟨before, mine ++ [⟨id, item⟩], [], ?_, ?_, hothers, fun _ _ _ => rfl⟩
      · show callers'.queued = _
        rw [heq, hqueued]
        simp
      · intro entry hentry
        rcases List.mem_append.1 hentry with hentry | hentry
        · exact hmine entry hentry
        · rw [List.mem_singleton.1 hentry]
          exact hown

lemma Block.proceed (h : Block s) (hkept : Kept s.callers.itemsOf s.callers)
    (hsends : ∀ id, batch.sends id = s.indexOf id) {id : ℕ}
    (hstep : s.proceed batch id = some s') : Block s' := by
  rcases proceed_cases hstep with rfl | ⟨cmd, callers, -, hsend, rfl⟩
  · have hindex : ∀ id, State.indexOf { s with batch := some batch } id = s.indexOf id := hsends
    obtain ⟨before, mine, after, hqueued, hmine, hothers, hlast⟩ := h
    refine ⟨before, mine, after, hqueued, ?_, ?_, ?_⟩
    · simpa only [hindex] using hmine
    · simpa only [hindex] using hothers
    · simpa only [hindex] using hlast
  · refine h.send hkept hsend (fun id' hne => ?_) rfl
    rw [← hsends id']
    exact Function.update_of_ne hne _ _

theorem Block.step {e : Event α} (h : Block s) (hsending : Sending classes s)
    (hok : NothingPutBetween s e) (hstep : step config classes s e = some s') : Block s' := by
  cases e with
  | callers e =>
    obtain ⟨callers, hcallers, hstep⟩ := Option.map_eq_some_iff.1 hstep
    cases hstep
    exact h.callersStep hsending.kept hok hcallers
  | start id commands =>
    rw [SendCommandBatch.step, State.start] at hstep
    split at hstep
    case h_2 => cases hstep
    case h_1 hnone =>
      refine h.proceed hsending.kept (fun id' => ?_) hstep
      simp [State.indexOf, hnone]
  | returned id =>
    obtain ⟨batch, sent, cmd, call, response, rest, hbatch, -, -, -, -, hproceed⟩ :=
      returned_eq_some hstep
    refine h.proceed hsending.kept (fun id' => ?_) hproceed
    rw [State.indexOf, hbatch, Batch.onResponse]
    split <;> rfl

/-- The commands of a batch reach the queue in list order and every result is the outcome of
its command, in every run; and where no other caller puts a frame between two attempts of
the batch, its frames stand together. -/
theorem together_of_nothingPutBetween (config : WBDALIConfig) (classes : ResponseClasses)
    (s : State α) (h : (sendCommandBatch config classes).Reachable s) :
    InListOrder s ∧ Outcomes s classes ∧ Callers.AtomicAndAligned s.callers ∧
    ((sendCommandBatch config classes).Reach NothingPutBetween s → Together s) := by
  have hsending := sending_of_reachable h
  refine ⟨hsending.inListOrder, hsending.outcomes, hsending.kept.atomicAndAligned,
    fun hreach => ?_⟩
  have hblock : Block s := by
    refine hreach.invariant_of (I := Sending classes) (J := Block)
      (fun _ hreach => sending_of_reachable hreach.reachable) ?_
      fun _ _ _ hsending hblock hok hstep => hblock.step hsending hok hstep
    rintro s ⟨callers, ⟨driver, -, rfl⟩, rfl⟩
    exact ⟨[], [], [], rfl, by simp, by simp, fun _ _ _ => rfl⟩
  exact hblock.together

/-- Between two frames of the batch there are only frames of the batch. -/
lemma Together.between (h : Together s) {i j k : ℕ} {first middle last : Queued} (hij : i ≤ j)
    (hjk : j ≤ k) (hfirst : s.callers.queued[i]? = some first)
    (hmiddle : s.callers.queued[j]? = some middle) (hlast : s.callers.queued[k]? = some last)
    (hfirstOwn : s.indexOf first.caller ≠ none) (hlastOwn : s.indexOf last.caller ≠ none) :
    s.indexOf middle.caller ≠ none := by
  obtain ⟨before, mine, after, hqueued, hmine, hothers⟩ := h
  rw [hqueued] at hfirst hmiddle hlast
  have hlow : before.length ≤ i := by
    by_contra hlt
    rw [List.append_assoc, List.getElem?_append_left (not_le.1 hlt)] at hfirst
    exact hfirstOwn (hothers first (by simp [List.mem_of_getElem? hfirst]))
  have hhigh : k < before.length + mine.length := by
    by_contra hle
    rw [List.getElem?_append_right (by simpa using hle)] at hlast
    exact hlastOwn (hothers last (by simp [List.mem_of_getElem? hlast]))
  rw [List.getElem?_append_left (by simp; omega), List.getElem?_append_right (by omega)] at hmiddle
  exact hmine middle (List.mem_of_getElem? hmiddle)

end Invariant

/-! ### Runs -/

instance {α : Type} (s : State α) : DecidablePred fun entry : Queued =>
    s.indexOf entry.caller ≠ none := fun _ => inferInstance

instance {α : Type} (s : State α) (e : Event α) : Decidable (NothingPutBetween s e) := by
  unfold NothingPutBetween
  split <;> infer_instance

/-- `DTR0(value)` -/
def dtr0 (value : Fin 256) : DaliCommand where
  frame := ⟨false, 16, 0xA300 + value, false⟩
  sendtwice := false
  hasResponseClass := false
  frame_length := .inl rfl
  commandClass := .gearDTR0

/-- `QueryContentDTR0(A0)` -/
def queryContentDTR0 : DaliCommand where
  frame := ⟨false, 16, 0x0198, false⟩
  sendtwice := false
  hasResponseClass := true
  frame_length := by decide

def numbers : ResponseClasses where
  str := fun _ raw =>
    match raw with
    | some answer => toString (asInteger answer)
    | none => "None"
  errorAcceptable := fun _ => false

/-- The frames in the queue, with their callers. -/
def State.frames (s : State Unit) : List (ℕ × ℕ) :=
  s.callers.queued.map fun entry => (entry.caller, entry.item.command.frame.data)

def idle : State Unit := { callers := Callers.idle }

lemma idle_init : (sendCommandBatch {} numbers).init idle := ⟨_, Callers.idle_init, rfl⟩

/-- A caller with one frame gets the lock and puts it. -/
def puts (id : ℕ) : List (Event Unit) := [.callers (.acquire id), .callers (.put id)]

/-- The sender writes one frame to the slot `index` at the time `now`, and gets the reply; `none`
is a failed transmission. -/
def replied (index : ℕ) (now : ℚ) (reply : Option ℤ) : List (Event Unit) :=
  ([.itemReceived, .tick now, .itemTimeout, .deliver, .publishReturns,
    .reply index false reply] : List Driver.Event).map fun e => .callers (.driver e)

/-- A Lunatone client puts one frame. -/
def lunatonePuts (id : ℕ) : List (Event Unit) :=
  .callers (.sendCommands id [dtr0 255] .lunatone .userAction) :: puts id

/-- A batch of two commands, the first of which is repeated, with a Lunatone client that puts a
frame in front of the batch and one behind it, before the last command is answered. -/
def batchRetried : List (Event Unit) :=
  [.start 0 [dtr0 5, queryContentDTR0]] ++ lunatonePuts 7 ++ replied 0 (1 / 100) (some 0x200) ++
    puts 0 ++ replied 1 (1 / 50) none ++ [.callers (.gather 0), .returned 1] ++
    puts 1 ++ replied 2 (3 / 100) (some 0x200) ++ [.callers (.gather 1), .returned 2] ++
    puts 2 ++ lunatonePuts 8 ++ replied 3 (1 / 25) (some 0x105) ++
    [.callers (.gather 2), .returned 3]

theorem together_of_nothingPutBetween_batchRetried :
    ∃ s : State Unit,
      (sendCommandBatch {} numbers).run NothingPutBetween idle batchRetried = some s ∧
      s.frames = [(7, 0xA3FF), (0, 0xA305), (1, 0xA305), (2, 0x0198), (8, 0xA3FF)] ∧
      s.batch.map (fun batch => batch.results.map SendCommandResult.status) = some [.ok, .ok] ∧
      InListOrder s ∧ Outcomes s numbers ∧ Callers.AtomicAndAligned s.callers ∧ Together s := by
  have hrun : ((sendCommandBatch {} numbers).run NothingPutBetween idle batchRetried).any (fun s =>
      s.frames = [(7, 0xA3FF), (0, 0xA305), (1, 0xA305), (2, 0x0198), (8, 0xA3FF)] ∧
        s.batch.map (fun batch => batch.results.map SendCommandResult.status) =
          some [.ok, .ok]) = true := by
    decide +kernel
  obtain ⟨s, hs, hshape⟩ := (Option.any_eq_true _ _).1 hrun
  obtain ⟨hframes, hresults⟩ := of_decide_eq_true hshape
  have hreach : (sendCommandBatch {} numbers).Reach NothingPutBetween s :=
    .run (.init idle_init) hs
  obtain ⟨horder, houtcomes, hatomic, htogether⟩ :=
    together_of_nothingPutBetween {} numbers s hreach.reachable
  exact ⟨s, hs, hframes, hresults, horder, houtcomes, hatomic, htogether hreach⟩

/-- While the batch waits for the reply to its first command, a Lunatone client puts another
`DTR0`, which the second command of the batch then reads. -/
def foreignBetween : List (Event Unit) :=
  [.start 0 [dtr0 5, queryContentDTR0]] ++ puts 0 ++
    lunatonePuts 7 ++
    ((Callers.exchange [0x200, 0x200]).map fun e => .callers (.driver e)) ++
    [.callers (.gather 0), .returned 1] ++ puts 1

theorem exists_not_together :
    ∃ s : State Unit, (sendCommandBatch {} numbers).Reachable s ∧
      s.frames = [(0, 0xA305), (7, 0xA3FF), (1, 0x0198)] ∧ ¬ Together s := by
  have hrun : ((sendCommandBatch {} numbers).run (fun _ _ => True) idle foreignBetween).any
      (fun s => s.frames = [(0, 0xA305), (7, 0xA3FF), (1, 0x0198)] ∧
        s.indexOf 0 ≠ none ∧ s.indexOf 1 ≠ none ∧ s.indexOf 7 = none) = true := by
    decide +kernel
  obtain ⟨s, hs, hshape⟩ := (Option.any_eq_true _ _).1 hrun
  obtain ⟨hframes, hfirst, hlast, hmiddle⟩ := of_decide_eq_true hshape
  refine ⟨s, .run (.init idle_init) hs, hframes, fun htogether => ?_⟩
  have hcallers : s.callers.queued.map Queued.caller = [0, 7, 1] := by
    have hmap := congrArg (List.map Prod.fst) hframes
    simpa [State.frames, Function.comp_def] using hmap
  have hget : ∀ k c : ℕ, ([0, 7, 1] : List ℕ)[k]? = some c → ∃ entry : Queued,
      s.callers.queued[k]? = some entry ∧ entry.caller = c := by
    intro k c hc
    rw [← hcallers, List.getElem?_map] at hc
    exact Option.map_eq_some_iff.1 hc
  obtain ⟨first, hqueued0, hcaller0⟩ := hget 0 0 rfl
  obtain ⟨middle, hqueued1, hcaller1⟩ := hget 1 7 rfl
  obtain ⟨last, hqueued2, hcaller2⟩ := hget 2 1 rfl
  refine htogether.between (by omega) (by omega) hqueued0 hqueued1 hqueued2 ?_ ?_ ?_
  · rwa [hcaller0]
  · rwa [hcaller2]
  · rwa [hcaller1]

end WbMqttDali.SendCommandBatch
