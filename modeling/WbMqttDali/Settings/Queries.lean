import Mathlib
import WbMqttDali.Constants

/-!
# Queries with retries

The functions of `wbdali_utils` that send commands to one device and repeat what
failed.  What happens to each frame is chosen by the surroundings: it may reach
the device or not, its answer may be lost or unreadable, and the call of the
driver may be aborted at it.
-/

namespace WbMqttDali.Settings

/-- What a frame does to the device that receives it, and what the device answers. -/
class Device (γ : Type*) (κ : outParam Type*) where
  /-- whether the command has a response -/
  isQuery : κ → Bool
  execute : γ → κ → γ
  answer : γ → κ → ℕ

/-- What happens to a frame. -/
inductive FrameOutcome where
  | received
  /-- its answer is lost -/
  | silent
  /-- its answer is unreadable -/
  | garbled
  /-- a transmission error, whether the device received the frame or not -/
  | failed (isReceived : Bool)
  /-- the call of the driver raises -/
  | aborted (isReceived : Bool)
  deriving DecidableEq

def FrameOutcome.isReceived : FrameOutcome → Bool
  | .received | .silent | .garbled => true
  | .failed isReceived | .aborted isReceived => isReceived

inductive Response where
  | value (rawValue : ℕ)
  | none
  | framingError
  | transmissionError
  deriving DecidableEq

/-- `raw_value.as_integer` of a response that was checked. -/
def Response.asInteger : Response → ℕ
  | .value rawValue => rawValue
  | _ => 0

/-- `NoAnswerError`, another `RuntimeError`, and any other exception. -/
inductive Error where
  | noAnswer
  | runtime
  | other
  deriving DecidableEq

section Device

variable {γ κ : Type*} [Device γ κ]

variable (γ) in
/-- `check_command_failed` -/
def checkCommandFailed (command : κ) (response : Response) : Option Error :=
  match response with
  | .transmissionError => some .runtime
  | .none => if Device.isQuery γ command then some .noAnswer else none
  | .framingError => if Device.isQuery γ command then some .runtime else none
  | .value _ => none

/-- The device after a frame. -/
def transmit (device : γ) (command : κ) (outcome : FrameOutcome) : γ :=
  if outcome.isReceived then Device.execute device command else device

/-- The response to a frame, unless the call of the driver raises. -/
def respond (device : γ) (command : κ) : FrameOutcome → Option Response
  | .received =>
    some (if Device.isQuery γ command then .value (Device.answer device command) else .none)
  | .silent => some .none
  | .garbled => some .framingError
  | .failed _ => some .transmissionError
  | .aborted _ => none

/-- `WBDALIDriver.send_commands`: the frames are sent in order, and a failed one does not
keep back the others. -/
def sendCommands (device : γ) : List κ → (ℕ → FrameOutcome) → γ × Option (List Response)
  | [], _ => (device, some [])
  | command :: commands, outcomes =>
    match respond device command (outcomes 0) with
    | none => (transmit device command (outcomes 0), none)
    | some response =>
      let (device', responses) :=
        sendCommands (transmit device command (outcomes 0)) commands fun k => outcomes (k + 1)
      (device', responses.map (response :: ·))

variable (γ) in
/-- The position of the first failed command and its error. -/
def firstFailed : List κ → List Response → Option (ℕ × Error)
  | command :: commands, response :: responses =>
    match checkCommandFailed γ command response with
    | some error => some (0, error)
    | none => (firstFailed commands responses).map fun (pos, error) => (pos + 1, error)
  | _, _ => none

/-- The loop of `query_responses_retry_from_first_failed`; `done` holds the responses of
the commands in front of the pending ones. -/
def retryFromFirstFailedLoop (batchSize : ℕ) (outcomes : ℕ → ℕ → FrameOutcome) :
    ℕ → Error → γ → List Response → List κ → γ × Except Error (List Response)
  | 0, lastError, device, _, _ => (device, .error lastError)
  | retries + 1, _, device, done, pending =>
    match sendCommands device pending (outcomes retries) with
    | (device, none) => (device, .error .other)
    | (device, some responses) =>
      match firstFailed γ pending responses with
      | none => (device, .ok (done ++ responses))
      | some (pos, error) =>
        retryFromFirstFailedLoop batchSize outcomes retries error device
          (done ++ responses.take (pos - pos % batchSize)) (pending.drop (pos - pos % batchSize))

/-- `query_responses_retry_from_first_failed` -/
def queryResponsesRetryFromFirstFailed (device : γ) (commands : List κ) (batchSize : ℕ)
    (outcomes : ℕ → ℕ → FrameOutcome) : γ × Except Error (List Response) :=
  if commands = [] then (device, .ok [])
  else if batchSize = 0 then (device, .error .other)
  else retryFromFirstFailedLoop batchSize outcomes maxCommandRetries .runtime device [] commands

/-- `_query_failure_error` -/
def queryFailureError (failures : List Error) : Error :=
  if failures ≠ [] ∧ ∀ failure ∈ failures, failure = .noAnswer then .noAnswer else .runtime

/-- The loop of `query_responses_retry_only_failed` over what is still pending. -/
def retryOnlyFailedLoop (outcomes : ℕ → ℕ → FrameOutcome) :
    ℕ → List Error → γ → List (Option Response) → List (ℕ × κ) →
      γ × Except Error (List (Option Response))
  | 0, lastErrors, device, _, _ => (device, .error (queryFailureError lastErrors))
  | retries + 1, _, device, fullResponses, pending =>
    match sendCommands device (pending.map Prod.snd) (outcomes retries) with
    | (device, none) => (device, .error .other)
    | (device, some responses) =>
      let answers := pending.zip responses
      let fullResponses := answers.foldl
        (fun full answer =>
          if checkCommandFailed γ answer.1.2 answer.2 = none then
            full.set answer.1.1 (some answer.2)
          else full) fullResponses
      let failed := answers.filter fun answer => checkCommandFailed γ answer.1.2 answer.2 ≠ none
      if failed = [] then (device, .ok fullResponses)
      else
        retryOnlyFailedLoop outcomes retries
          (failed.filterMap fun answer => checkCommandFailed γ answer.1.2 answer.2) device
          fullResponses (failed.map Prod.fst)

/-- `query_responses_retry_only_failed` -/
def queryResponsesRetryOnlyFailed (device : γ) (commands : List κ)
    (outcomes : ℕ → ℕ → FrameOutcome) : γ × Except Error (List (Option Response)) :=
  if commands = [] then (device, .ok [])
  else
    retryOnlyFailedLoop outcomes maxCommandRetries [] device (commands.map fun _ => none)
      ((List.range commands.length).zip commands)

/-- The loop of `query_responses`, which repeats all commands. -/
def queryResponsesLoop (outcomes : ℕ → ℕ → FrameOutcome) (commands : List κ) :
    ℕ → Error → γ → γ × Except Error (List Response)
  | 0, lastError, device => (device, .error lastError)
  | retries + 1, _, device =>
    match sendCommands device commands (outcomes retries) with
    | (device, none) => (device, .error .other)
    | (device, some responses) =>
      match firstFailed γ commands responses with
      | none => (device, .ok responses)
      | some (_, error) => queryResponsesLoop outcomes commands retries error device

/-- `query_responses` -/
def queryResponses (device : γ) (commands : List κ) (outcomes : ℕ → ℕ → FrameOutcome) :
    γ × Except Error (List Response) :=
  queryResponsesLoop outcomes commands maxCommandRetries .runtime device

/-- The loop of `send_commands_with_retry`, which repeats all commands. -/
def sendCommandsWithRetryLoop (outcomes : ℕ → ℕ → FrameOutcome) (commands : List κ) :
    ℕ → List Response → γ → γ × Option (List Response)
  | 0, responses, device => (device, some responses)
  | retries + 1, _, device =>
    match sendCommands device commands (outcomes retries) with
    | (device, none) => (device, none)
    | (device, some responses) =>
      if .transmissionError ∈ responses then
        sendCommandsWithRetryLoop outcomes commands retries responses device
      else (device, some responses)

/-- `send_commands_with_retry`: only transmission errors are repeated. -/
def sendCommandsWithRetry (device : γ) (commands : List κ) (outcomes : ℕ → ℕ → FrameOutcome) :
    γ × Option (List Response) :=
  sendCommandsWithRetryLoop outcomes commands maxCommandRetries [] device

/-- The number under which the outcomes of its last attempt are given. -/
def lastAttempt (outcomes : ℕ → ℕ → FrameOutcome) (commands : List κ) : ℕ → γ → ℕ
  | 0, _ => 0
  | retries + 1, device =>
    match sendCommands device commands (outcomes retries) with
    | (_, none) => retries
    | (device, some responses) =>
      if .transmissionError ∈ responses ∧ retries ≠ 0 then
        lastAttempt outcomes commands retries device
      else retries

/-- `query_int`, whose `query_response` repeats its one command. -/
def queryInt (device : γ) (command : κ) (outcomes : ℕ → ℕ → FrameOutcome) :
    γ × Except Error ℕ :=
  let (device, responses) := queryResponses device [command] outcomes
  (device, responses.map fun responses => (responses.headD .none).asInteger)

/-! ### What a completed call has done -/

variable {device device' : γ} {commands : List κ} {outcomes : ℕ → FrameOutcome}
  {faults : ℕ → ℕ → FrameOutcome} {responses : List Response}

/-- All commands were executed, and the queries answered. -/
inductive Completes : γ → List κ → γ → List Response → Prop
  | nil {device : γ} : Completes device [] device []
  | cons {device device' : γ} {command : κ} {commands : List κ} {response : Response}
      {responses : List Response}
      (hanswer : Device.isQuery γ command → response = .value (Device.answer device command))
      (hrest : Completes (Device.execute device command) commands device' responses) :
      Completes device (command :: commands) device' (response :: responses)

lemma sendCommands_cons {command : κ} :
    sendCommands device (command :: commands) outcomes = (device', some responses) ↔
      ∃ response rest, respond device command (outcomes 0) = some response ∧
        sendCommands (transmit device command (outcomes 0)) commands
          (fun k => outcomes (k + 1)) = (device', some rest) ∧ responses = response :: rest := by
  rw [sendCommands]
  cases hrespond : respond device command (outcomes 0) with
  | none => simp
  | some response =>
    rcases hsend : sendCommands (transmit device command (outcomes 0)) commands
      (fun k => outcomes (k + 1)) with ⟨mid, _ | rest⟩ <;>
    simp [Prod.ext_iff, eq_comm, and_comm, and_assoc]

/-- A frame whose response is no failure was received, and answered if it is a query. -/
lemma respond_of_not_failed {command : κ} {outcome : FrameOutcome} {response : Response}
    (h : respond device command outcome = some response)
    (hok : checkCommandFailed γ command response = none) :
    transmit device command outcome = Device.execute device command ∧
      (Device.isQuery γ command → response = .value (Device.answer device command)) := by
  cases outcome with
  | received =>
    refine ⟨rfl, fun hquery => ?_⟩
    rw [respond, if_pos hquery] at h
    exact (Option.some.inj h).symm
  | silent =>
    obtain rfl := Option.some.inj h
    refine ⟨rfl, fun hquery => ?_⟩
    rw [checkCommandFailed, if_pos hquery] at hok
    cases hok
  | garbled =>
    obtain rfl := Option.some.inj h
    refine ⟨rfl, fun hquery => ?_⟩
    rw [checkCommandFailed, if_pos hquery] at hok
    cases hok
  | failed =>
    obtain rfl := Option.some.inj h
    cases hok
  | aborted => cases h

lemma firstFailed_cons_eq_none {command : κ} {response : Response} :
    firstFailed γ (command :: commands) (response :: responses) = none ↔
      checkCommandFailed γ command response = none ∧ firstFailed γ commands responses = none := by
  rw [firstFailed]
  split
  case h_1 error herror => simp [herror]
  case h_2 hnone => simp [hnone]

/-- When no response is a failure, everything was executed. -/
lemma completes_of_firstFailed (hsend : sendCommands device commands outcomes =
    (device', some responses)) (hok : firstFailed γ commands responses = none) :
    Completes device commands device' responses := by
  induction commands generalizing device outcomes responses with
  | nil =>
    simp only [sendCommands, Prod.mk.injEq, Option.some.injEq] at hsend
    obtain ⟨rfl, rfl⟩ := hsend
    exact .nil
  | cons command commands ih =>
    obtain ⟨response, rest, hrespond, hrest, rfl⟩ := sendCommands_cons.1 hsend
    obtain ⟨hhead, htail⟩ := firstFailed_cons_eq_none.1 hok
    obtain ⟨htransmit, hanswer⟩ := respond_of_not_failed hrespond hhead
    rw [htransmit] at hrest
    exact .cons hanswer (ih hrest htail)

/-- What every command keeps is kept by every call of the driver, however it ends. -/
lemma sendCommands_keeps {P : γ → Prop}
    (hkeep : ∀ command ∈ commands, ∀ device, P device → P (Device.execute device command))
    (h : P device) : P (sendCommands device commands outcomes).1 := by
  induction commands generalizing device outcomes with
  | nil => exact h
  | cons command commands ih =>
    have htransmit : P (transmit device command (outcomes 0)) := by
      rw [transmit]
      split
      · exact hkeep command (by simp) device h
      · exact h
    rw [sendCommands]
    split
    · exact htransmit
    · exact ih (fun command hcommand => hkeep command (List.mem_cons_of_mem _ hcommand)) htransmit

lemma sendCommands_append {commands' : List κ} (hsend :
    sendCommands device (commands ++ commands') outcomes = (device', some responses)) :
    ∃ mid first rest, sendCommands device commands outcomes = (mid, some first) ∧
      sendCommands mid commands' (fun k => outcomes (k + commands.length)) =
        (device', some rest) ∧
      responses = first ++ rest ∧ first.length = commands.length := by
  induction commands generalizing device outcomes responses with
  | nil => exact ⟨device, [], responses, rfl, hsend, rfl, rfl⟩
  | cons command commands ih =>
    rw [List.cons_append] at hsend
    obtain ⟨response, rest, hrespond, hrest, rfl⟩ := sendCommands_cons.1 hsend
    obtain ⟨mid, first, rest', hfirst, hrest', rfl, hlength⟩ := ih hrest
    refine ⟨mid, response :: first, rest',
      sendCommands_cons.2 ⟨response, first, hrespond, hfirst, rfl⟩, ?_, rfl, by simp [hlength]⟩
    simpa [Nat.add_assoc, Nat.add_comm 1] using hrest'

lemma firstFailed_append {commands' : List κ} {responses' : List Response}
    (hlength : responses.length = commands.length) :
    firstFailed γ (commands ++ commands') (responses ++ responses') =
      match firstFailed γ commands responses with
      | some failure => some failure
      | none => (firstFailed γ commands' responses').map fun (pos, error) =>
          (pos + commands.length, error) := by
  induction commands generalizing responses with
  | nil =>
    obtain rfl := List.length_eq_zero_iff.1 hlength
    simp [firstFailed]
  | cons command commands ih =>
    obtain ⟨response, responses, rfl⟩ := List.exists_of_length_succ _ hlength
    rw [List.cons_append, List.cons_append, firstFailed, firstFailed, ih (by simpa using hlength)]
    cases checkCommandFailed γ command response with
    | some error => rfl
    | none =>
      cases firstFailed γ commands responses with
      | some failure => rfl
      | none => cases firstFailed γ commands' responses' <;> simp [Nat.add_assoc]

lemma firstFailed_lt {failure : ℕ × Error} (h : firstFailed γ commands responses = some failure) :
    failure.1 < commands.length := by
  induction commands generalizing responses failure with
  | nil => cases h
  | cons command commands ih =>
    cases responses with
    | nil => cases h
    | cons response responses =>
      rw [firstFailed] at h
      split at h
      · obtain rfl := Option.some.inj h
        simp
      · obtain ⟨failure', hfailure', rfl⟩ := Option.map_eq_some_iff.1 h
        simpa using ih hfailure'

/-! ### Commands that are repeated in batches -/

/-- A completed batch establishes what the commands of later batches keep. -/
structure BatchRule (batchSize : ℕ) (batches : List (List κ))
    (Done : ℕ → γ → List Response → Prop) : Prop where
  length : ∀ batch ∈ batches, batch.length = batchSize
  establish : ∀ n batch, batches[n]? = some batch → ∀ device device' responses,
    Completes device batch device' responses → Done n device' responses
  keep : ∀ n m batch, n < m → batches[m]? = some batch → ∀ command ∈ batch,
    ∀ device responses, Done n device responses → Done n (Device.execute device command) responses

section Batches

variable {batchSize : ℕ} {batch : List κ} {batches : List (List κ)}
  {Done : ℕ → γ → List Response → Prop}

lemma BatchRule.tail (h : BatchRule batchSize (batch :: batches) Done) :
    BatchRule batchSize batches fun n => Done (n + 1) where
  length := fun batch' hbatch' => h.length batch' (List.mem_cons_of_mem _ hbatch')
  establish := fun n => h.establish (n + 1)
  keep := fun n m batch' hlt => h.keep (n + 1) (m + 1) batch' (by omega)

lemma BatchRule.drop (h : BatchRule batchSize batches Done) (q : ℕ) :
    BatchRule batchSize (batches.drop q) fun n => Done (q + n) where
  length := fun batch' hbatch' => h.length batch' (List.mem_of_mem_drop hbatch')
  establish := fun n batch' hget => h.establish (q + n) batch' (by rwa [List.getElem?_drop] at hget)
  keep := fun n m batch' hlt hget =>
    h.keep (q + n) (q + m) batch' (by omega) (by rwa [List.getElem?_drop] at hget)

/-- The commands from batch `q` on keep what the batches in front have established. -/
lemma BatchRule.keep_drop (h : BatchRule batchSize batches Done) {n q : ℕ} (hlt : n < q)
    {command : κ} (hcommand : command ∈ (batches.drop q).flatten) (device : γ)
    (responses : List Response) (hdone : Done n device responses) :
    Done n (Device.execute device command) responses := by
  obtain ⟨batch, hbatch, hmem⟩ := List.mem_flatten.1 hcommand
  obtain ⟨m, hm⟩ := List.mem_iff_getElem?.1 hbatch
  rw [List.getElem?_drop] at hm
  exact h.keep n (q + m) batch (by omega) hm command hmem device responses hdone

/-- One call of the driver: the batches in front of the first failure are done. -/
lemma BatchRule.attempt (h : BatchRule batchSize batches Done)
    (hsend : sendCommands device batches.flatten outcomes = (device', some responses)) {n : ℕ}
    (hn : n < batches.length)
    (hbefore : ∀ failure, firstFailed γ batches.flatten responses = some failure →
      n * batchSize + batchSize ≤ failure.1) :
    Done n device' ((responses.drop (n * batchSize)).take batchSize) := by
  induction batches generalizing device outcomes responses n Done with
  | nil => simp at hn
  | cons batch batches ih =>
    rw [List.flatten_cons] at hsend hbefore
    obtain ⟨mid, first, rest, hfirst, hrest, rfl, hlength⟩ := sendCommands_append hsend
    have hsize := h.length batch (by simp)
    rw [firstFailed_append hlength] at hbefore
    have hok : firstFailed γ batch first = none := by
      cases hfailed : firstFailed γ batch first with
      | none => rfl
      | some failure =>
        have hle := hbefore failure (by rw [hfailed])
        have hlt := firstFailed_lt hfailed
        rw [hsize] at hlt
        exact absurd hle (by nlinarith [Nat.zero_le (n * batchSize)])
    cases n with
    | zero =>
      have hdone := h.establish 0 batch rfl _ _ _ (completes_of_firstFailed hfirst hok)
      have hkept : Done 0 (sendCommands mid batches.flatten
          fun k => outcomes (k + batch.length)).1 first :=
        sendCommands_keeps (fun command hcommand device =>
          h.keep_drop Nat.zero_lt_one (by simpa using hcommand) device first) hdone
      rw [hrest] at hkept
      simpa [← hsize, ← hlength] using hkept
    | succ n =>
      rw [hok] at hbefore
      have hdone := ih h.tail hrest (by simpa using hn) fun failure hfailure => by
        have hle := hbefore (failure.1 + batch.length, failure.2) (by rw [hfailure]; rfl)
        rw [hsize] at hle
        nlinarith
      have hdrop : (first ++ rest).drop ((n + 1) * batchSize) = rest.drop (n * batchSize) := by
        rw [List.drop_append, List.drop_eq_nil_of_le (by rw [hlength, hsize]; nlinarith), hlength,
          hsize, Nat.succ_mul, Nat.add_sub_cancel, List.nil_append]
      rwa [hdrop]

lemma flatten_drop (hlength : ∀ batch ∈ batches, batch.length = batchSize) (q : ℕ) :
    (batches.drop q).flatten = batches.flatten.drop (q * batchSize) := by
  induction batches generalizing q with
  | nil => simp
  | cons batch batches ih =>
    cases q with
    | zero => simp
    | succ q =>
      have hsize := hlength batch (by simp)
      have hnil : batch.drop ((q + 1) * batchSize) = [] :=
        List.drop_eq_nil_of_le (by rw [hsize]; nlinarith)
      rw [List.drop_succ_cons, List.flatten_cons, List.drop_append, hnil, hsize, Nat.succ_mul,
        Nat.add_sub_cancel, List.nil_append]
      exact ih (fun batch' hbatch' => hlength batch' (List.mem_cons_of_mem _ hbatch')) q

lemma sendCommands_length (hsend : sendCommands device commands outcomes =
    (device', some responses)) : responses.length = commands.length := by
  have happend : sendCommands device (commands ++ []) outcomes = (device', some responses) := by
    rwa [List.append_nil]
  obtain ⟨mid, first, rest, -, hrest, rfl, hlength⟩ := sendCommands_append happend
  simp only [sendCommands, Prod.mk.injEq, Option.some.injEq] at hrest
  simp [← hrest.2, hlength]

/-- The retries: when they return, every batch is done. -/
lemma BatchRule.loop (h : BatchRule batchSize batches Done) (hpos : 0 < batchSize)
    {retries q : ℕ} {error : Error} {done : List Response}
    (hdone : done.length = q * batchSize)
    (hbefore : ∀ n < q, Done n device ((done.drop (n * batchSize)).take batchSize))
    (hloop : retryFromFirstFailedLoop batchSize faults retries error device done
      (batches.drop q).flatten = (device', .ok responses)) :
    ∀ n < batches.length, Done n device' ((responses.drop (n * batchSize)).take batchSize) := by
  induction retries generalizing device q error done with
  | zero => cases (Prod.ext_iff.1 hloop).2
  | succ retries ih =>
    rw [retryFromFirstFailedLoop] at hloop
    split at hloop
    case h_1 => cases (Prod.ext_iff.1 hloop).2
    case h_2 mid answers hsend =>
      have hlength := sendCommands_length hsend
      -- what was done before is kept, whatever happens to the frames
      have hkept : ∀ n < q, Done n mid ((done.drop (n * batchSize)).take batchSize) := by
        intro n hn
        have hkeep := @sendCommands_keeps _ _ _ _ _ (faults retries)
          (fun device => Done n device ((done.drop (n * batchSize)).take batchSize))
          (fun command hcommand device => h.keep_drop hn hcommand device _) (hbefore n hn)
        rwa [hsend] at hkeep
      have hsplit : ∀ n < q, ∀ tail : List Response,
          ((done ++ tail).drop (n * batchSize)).take batchSize =
            (done.drop (n * batchSize)).take batchSize := by
        intro n hn tail
        have hle : n * batchSize + batchSize ≤ done.length := by
          rw [hdone]
          nlinarith [Nat.mul_le_mul_right batchSize hn]
        rw [List.drop_append_of_le_length (by omega),
          List.take_append_of_le_length (by rw [List.length_drop]; omega)]
      have hnew : ∀ n, q ≤ n → ∀ tail : List Response,
          ((done ++ tail).drop (n * batchSize)).take batchSize =
            (tail.drop ((n - q) * batchSize)).take batchSize := by
        intro n hn tail
        obtain ⟨j, rfl⟩ := Nat.exists_eq_add_of_le hn
        rw [Nat.add_mul, ← hdone, List.drop_append, List.drop_eq_nil_of_le (by omega),
          List.nil_append, Nat.add_sub_cancel_left, Nat.add_sub_cancel_left]
      split at hloop
      case h_1 hok =>
        simp only [Prod.mk.injEq, Except.ok.injEq] at hloop
        obtain ⟨rfl, rfl⟩ := hloop
        intro n hn
        rcases Nat.lt_or_ge n q with hlt | hge
        · rw [hsplit n hlt]
          exact hkept n hlt
        · rw [hnew n hge]
          have hattempt := (h.drop q).attempt hsend (n := n - q)
            (by rw [List.length_drop]; omega) fun failure hfailure => by
              rw [hok] at hfailure
              cases hfailure
          rwa [Nat.add_sub_cancel' hge] at hattempt
      case h_2 pos error' hfailed =>
        have hround : pos - pos % batchSize = pos / batchSize * batchSize := by
          have := Nat.div_add_mod pos batchSize
          rw [Nat.mul_comm]
          omega
        have hlt := firstFailed_lt hfailed
        rw [hround] at hloop
        have hle : pos / batchSize * batchSize ≤ pos := Nat.div_mul_le_self _ _
        have hpending : (batches.drop q).flatten.drop (pos / batchSize * batchSize) =
            (batches.drop (q + pos / batchSize)).flatten := by
          rw [← flatten_drop fun batch hbatch => h.length batch (List.mem_of_mem_drop hbatch),
            List.drop_drop]
        rw [hpending] at hloop
        refine ih ?_ (fun n hn => ?_) hloop
        · rw [List.length_append, hdone, List.length_take, Nat.add_mul]
          simp only at hlt
          omega
        · rcases Nat.lt_or_ge n q with hnq | hge
          · rw [hsplit n hnq]
            exact hkept n hnq
          · have hsub : (n - q) * batchSize + batchSize ≤ pos / batchSize * batchSize := by
              rw [← Nat.succ_mul]
              exact Nat.mul_le_mul_right _ (by omega)
            have hattempt := (h.drop q).attempt hsend (n := n - q) ?_ fun failure hfailure => ?_
            · rw [Nat.add_sub_cancel' hge] at hattempt
              rw [hnew n hge, List.drop_take, List.take_take, min_eq_left (by omega)]
              exact hattempt
            · have hflat := flatten_drop (fun batch hbatch => h.length batch hbatch) q
              have hmul : batches.flatten.length = batches.length * batchSize := by
                rw [List.length_flatten, List.eq_replicate_of_mem (l := batches.map List.length)
                  (a := batchSize) (by simpa using h.length), List.sum_replicate]
                simp
              rw [List.length_drop]
              simp only [hflat, List.length_drop, hmul] at hlt
              by_contra hle'
              have hq : batches.length ≤ n := by omega
              have hmul' :=
                Nat.mul_le_mul_right batchSize (show batches.length - q ≤ n - q by omega)
              rw [Nat.sub_mul] at hmul'
              omega
            · obtain rfl := Option.some.inj (hfailed.symm.trans hfailure)
              simp only
              omega

/-- `query_responses_retry_from_first_failed` over batches: when it returns, every batch is
done. -/
theorem BatchRule.returns (h : BatchRule batchSize batches Done) (hpos : 0 < batchSize)
    (hreturns : queryResponsesRetryFromFirstFailed device batches.flatten batchSize faults =
      (device', .ok responses)) :
    ∀ n < batches.length, Done n device' ((responses.drop (n * batchSize)).take batchSize) := by
  rw [queryResponsesRetryFromFirstFailed] at hreturns
  split at hreturns
  case isTrue hempty =>
    intro n hn
    have hbatch := h.length batches[n] (List.getElem_mem hn)
    rw [List.flatten_eq_nil_iff] at hempty
    rw [hempty _ (List.getElem_mem hn)] at hbatch
    simp only [List.length_nil] at hbatch
    omega
  case isFalse =>
    rw [if_neg hpos.ne'] at hreturns
    have hflat := flatten_drop (fun batch hbatch => h.length batch hbatch) 0
    rw [Nat.zero_mul, List.drop_zero] at hflat
    exact h.loop hpos (by simp) (fun n hn => absurd hn (Nat.not_lt_zero n)) (hflat ▸ hreturns)

end Batches

/-! ### What a call keeps -/

lemma retryFromFirstFailed_keeps {batchSize : ℕ} {P : γ → Prop}
    (hkeep : ∀ command ∈ commands, ∀ device, P device → P (Device.execute device command))
    (h : P device) : P (queryResponsesRetryFromFirstFailed device commands batchSize faults).1 := by
  have hloop : ∀ retries error device done pending, pending ⊆ commands → P device →
      P (retryFromFirstFailedLoop batchSize faults retries error device done pending).1 := by
    intro retries
    induction retries with
    | zero => exact fun _ _ _ _ _ h => h
    | succ retries ih =>
      intro error device done pending hsub h
      have hsent := @sendCommands_keeps _ _ _ _ _ (faults retries) P
        (fun command hcommand => hkeep command (hsub hcommand)) h
      rw [retryFromFirstFailedLoop]
      split
      case h_1 heq => rwa [heq] at hsent
      case h_2 heq =>
        rw [heq] at hsent
        split
        · exact hsent
        · exact ih _ _ _ _ (fun command hcommand => hsub (List.mem_of_mem_drop hcommand)) hsent
  rw [queryResponsesRetryFromFirstFailed]
  split
  · exact h
  · split
    · exact h
    · exact hloop _ _ _ _ _ (List.Subset.refl _) h

lemma queryResponses_keeps {P : γ → Prop}
    (hkeep : ∀ command ∈ commands, ∀ device, P device → P (Device.execute device command))
    (h : P device) : P (queryResponses device commands faults).1 := by
  have hloop : ∀ retries error device, P device →
      P (queryResponsesLoop faults commands retries error device).1 := by
    intro retries
    induction retries with
    | zero => exact fun _ _ h => h
    | succ retries ih =>
      intro error device h
      have hsent := @sendCommands_keeps _ _ _ _ _ (faults retries) P hkeep h
      rw [queryResponsesLoop]
      split
      case h_1 heq => rwa [heq] at hsent
      case h_2 heq =>
        rw [heq] at hsent
        split
        · exact hsent
        · exact ih _ _ hsent
  exact hloop _ _ _ h

/-- `send_commands_with_retry` ends with its last attempt, from where the earlier ones have led. -/
lemma exists_lastAttempt {P : γ → Prop}
    (hkeep : ∀ command ∈ commands, ∀ device, P device → P (Device.execute device command))
    (h : P device) : ∃ mid, P mid ∧ (sendCommandsWithRetry device commands faults).1 =
      (sendCommands mid commands
        (faults (lastAttempt faults commands maxCommandRetries device))).1 := by
  have hloop : ∀ retries responses device, P device → ∃ mid, P mid ∧
      (sendCommandsWithRetryLoop faults commands (retries + 1) responses device).1 =
        (sendCommands mid commands
          (faults (lastAttempt faults commands (retries + 1) device))).1 := by
    intro retries
    induction retries with
    | zero =>
      intro responses device h
      refine ⟨device, h, ?_⟩
      rcases hsend : sendCommands device commands (faults 0) with ⟨device', _ | answers⟩
      · simp [sendCommandsWithRetryLoop, lastAttempt, hsend]
      · simp only [sendCommandsWithRetryLoop, lastAttempt, hsend, ne_eq, not_true, and_false,
          ite_self]
    | succ retries ih =>
      intro responses device h
      rcases hsend : sendCommands device commands (faults (retries + 1)) with ⟨device', _ | answers⟩
      · exact ⟨device, h, by simp [sendCommandsWithRetryLoop, lastAttempt, hsend]⟩
      · have hsent := @sendCommands_keeps _ _ _ _ _ (faults (retries + 1)) P hkeep h
        rw [hsend] at hsent
        rw [sendCommandsWithRetryLoop, lastAttempt, hsend]
        by_cases herror : .transmissionError ∈ answers
        · simp only [herror, true_and, if_true, ne_eq, Nat.succ_ne_zero, not_false_eq_true]
          exact ih answers device' hsent
        · refine ⟨device, h, ?_⟩
          simp only [herror, false_and, if_false, hsend]
  exact hloop 2 [] device h

lemma sendCommandsWithRetry_keeps {P : γ → Prop}
    (hkeep : ∀ command ∈ commands, ∀ device, P device → P (Device.execute device command))
    (h : P device) : P (sendCommandsWithRetry device commands faults).1 := by
  obtain ⟨mid, hmid, hlast⟩ := @exists_lastAttempt _ _ _ _ _ faults P hkeep h
  rw [hlast]
  exact sendCommands_keeps hkeep hmid

/-- All frames of an attempt were received; a call that was aborted was at its last one. -/
def Transmitted (commands : List κ) (outcomes : ℕ → FrameOutcome) : Prop :=
  ∀ k < commands.length, (outcomes k).isReceived ∧
    ((∃ isReceived, outcomes k = .aborted isReceived) → k + 1 = commands.length)

lemma sendCommands_of_transmitted (h : Transmitted commands outcomes) :
    (sendCommands device commands outcomes).1 = commands.foldl Device.execute device := by
  induction commands generalizing device outcomes with
  | nil => rfl
  | cons command commands ih =>
    obtain ⟨hreceived, habort⟩ := h 0 (by simp)
    have htransmit : transmit device command (outcomes 0) = Device.execute device command := by
      rw [transmit, if_pos hreceived]
    rw [sendCommands, htransmit, List.foldl_cons]
    cases hrespond : respond device command (outcomes 0) with
    | none =>
      have hnil : commands = [] := by
        have haborted : ∃ isReceived, outcomes 0 = .aborted isReceived := by
          cases houtcome : outcomes 0 with
          | aborted isReceived => exact ⟨isReceived, rfl⟩
          | _ => rw [houtcome] at hrespond; cases hrespond
        simpa using habort haborted
      rw [hnil]
      rfl
    | some response =>
      refine ih fun k hk => ?_
      obtain ⟨hreceived, habort⟩ := h (k + 1) (by simpa using hk)
      exact ⟨hreceived, fun haborted => by simpa using habort haborted⟩

/-- `query_responses`: when it returns, its last attempt completed. -/
lemma queryResponses_returns (hreturns : queryResponses device commands faults =
    (device', .ok responses)) : ∃ mid, Completes mid commands device' responses := by
  have hloop : ∀ retries error device,
      queryResponsesLoop faults commands retries error device = (device', .ok responses) →
      ∃ mid, Completes mid commands device' responses := by
    intro retries
    induction retries with
    | zero => exact fun _ _ h => by cases (Prod.ext_iff.1 h).2
    | succ retries ih =>
      intro error device h
      rw [queryResponsesLoop] at h
      split at h
      case h_1 => cases (Prod.ext_iff.1 h).2
      case h_2 mid answers hsend =>
        split at h
        case h_1 hok =>
          simp only [Prod.mk.injEq, Except.ok.injEq] at h
          obtain ⟨rfl, rfl⟩ := h
          exact ⟨device, completes_of_firstFailed hsend hok⟩
        case h_2 => exact ih _ _ h
  exact hloop _ _ _ hreturns

end Device

end WbMqttDali.Settings
