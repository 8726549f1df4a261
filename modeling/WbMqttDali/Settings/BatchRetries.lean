import Mathlib
import WbMqttDali.Settings.Queries

/-!
# Batches that are sent again as a whole

`query_responses_retry_from_first_failed` with its own bookkeeping: responses
are written down at the index of their command, and what is sent again starts
at the batch of the first failed command.  The driver is any object that
returns a response for each command or raises.
-/

namespace WbMqttDali.Settings.BatchRetries

/-! ### Failures -/

/-- `raw_value` of a response. -/
inductive RawValue where
  | answer (asInteger : ℕ)
  | error
  deriving DecidableEq

/-- What the driver returns for a command; `missing` is `None`. -/
inductive SendResponse where
  | missing
  | transmissionError
  | response (errorAcceptable : Bool) (rawValue : Option RawValue)
  deriving DecidableEq

/-- `check_query_response` -/
def checkQueryResponse : SendResponse → Option Error
  | .missing => some .noAnswer
  | .transmissionError => some .runtime
  | .response true _ => none
  | .response false none => some .noAnswer
  | .response false (some .error) => some .runtime
  | .response false (some (.answer _)) => none

/-- `check_command_failed`; `hasResponse` tells whether the command has a response class. -/
def checkCommandFailed {κ : Type*} (hasResponse : κ → Bool) (cmd : κ) (resp : SendResponse) :
    Option Error :=
  if resp = .transmissionError then some .runtime
  else if hasResponse cmd then checkQueryResponse resp
  else none

/-- The gear did not answer a command that has a response. -/
def Silence {κ : Type*} (hasResponse : κ → Bool) (cmd : κ) (resp : SendResponse) : Prop :=
  hasResponse cmd ∧ (resp = .missing ∨ resp = .response false none)

lemma checkCommandFailed_eq_noAnswer_iff {κ : Type*} {hasResponse : κ → Bool} {cmd : κ}
    {resp : SendResponse} :
    checkCommandFailed hasResponse cmd resp = some .noAnswer ↔ Silence hasResponse cmd resp := by
  rw [checkCommandFailed, Silence]
  cases hasResponse cmd with
  | false => cases resp <;> simp
  | true =>
    rcases resp with _ | _ | ⟨_ | _, _ | _ | _⟩ <;> simp [checkQueryResponse]

/-! ### The loop -/

/-- The driver: it raises, or returns a response for each command. -/
structure Sender (σ κ ρ : Type*) where
  sendCommands : σ → List κ → σ × Option (List ρ)
  length_eq : ∀ {s s' commands responses}, sendCommands s commands = (s', some responses) →
    responses.length = commands.length

/-- A call of `send_commands`; it has no responses when it raised. -/
structure Sent (κ ρ : Type*) where
  indexes : List ℕ
  commands : List κ
  responses : Option (List ρ)

/-- What a call of the function has done. -/
structure Outcome (σ κ ρ : Type*) where
  driver : σ
  result : Except Error (List (Option ρ))
  sends : List (Sent κ ρ)

section Loop

variable {σ κ ρ : Type*}

/-- The commands with their indexes and responses. -/
def Sent.answers (sent : Sent κ ρ) : List (ℕ × κ × ρ) :=
  sent.indexes.zip (sent.commands.zip (sent.responses.getD []))

variable (failed : κ → ρ → Option Error)

/-- The first command that failed in a call, with its index and response. -/
def Sent.firstFailed (sent : Sent κ ρ) : Option (ℕ × κ × ρ) :=
  sent.answers.find? fun answer => (failed answer.2.1 answer.2.2).isSome

/-- The loop over the responses of one attempt, up to the first failed one. -/
def record : ℕ → List (Option ρ) → List (ℕ × κ × ρ) → List (Option ρ) × Option (ℕ × Error)
  | _, fullResponses, [] => (fullResponses, none)
  | pos, fullResponses, (index, cmd, resp) :: answers =>
    match failed cmd resp with
    | none => record (pos + 1) (fullResponses.set index (some resp)) answers
    | some failReason => (fullResponses, some (pos, failReason))

variable (sender : Sender σ κ ρ) (batchSize : ℕ)

/-- The loop over the attempts. -/
def attemptLoop : ℕ → σ → List (Option ρ) → List κ → List ℕ → Option Error → Outcome σ κ ρ
  | 0, driver, _, _, _, lastFailedReason =>
    ⟨driver, .error (queryFailureError lastFailedReason.toList), []⟩
  | attempts + 1, driver, fullResponses, pendingCommands, pendingIndexes, _ =>
    match sender.sendCommands driver pendingCommands with
    | (driver, none) => ⟨driver, .error .other, [⟨pendingIndexes, pendingCommands, none⟩]⟩
    | (driver, some responses) =>
      let sent : Sent κ ρ := ⟨pendingIndexes, pendingCommands, some responses⟩
      match record failed 0 fullResponses sent.answers with
      | (fullResponses, none) => ⟨driver, .ok fullResponses, [sent]⟩
      | (fullResponses, some (pos, failReason)) =>
        let firstFailedPos := pos - pos % batchSize
        let outcome := attemptLoop attempts driver fullResponses
          (pendingCommands.drop firstFailedPos) (pendingIndexes.drop firstFailedPos)
          (some failReason)
        { outcome with sends := sent :: outcome.sends }

/-- `query_responses_retry_from_first_failed` -/
def queryResponsesRetryFromFirstFailed (driver : σ) (commands : List κ) : Outcome σ κ ρ :=
  if commands = [] then ⟨driver, .ok [], []⟩
  else if batchSize = 0 then ⟨driver, .error .other, []⟩
  else attemptLoop failed sender batchSize maxCommandRetries driver
    (List.replicate commands.length none) commands (List.range commands.length) none

/-! ### One attempt -/

variable {failed}

/-- The responses in front of the first failed one are written down behind the first
`start`. -/
lemma record_spec {commands : List κ} {responses : List ρ} {full : List (Option ρ)}
    {start : ℕ} (pos : ℕ) (hlength : responses.length = commands.length)
    (hfull : full.length = start + commands.length) :
    let answers := (List.range' start commands.length).zip (commands.zip responses)
    ∃ stop ≤ commands.length,
      (record failed pos full answers).1 =
        full.take start ++ (responses.take stop).map some ++ full.drop (start + stop) ∧
      (∀ answer ∈ answers.take stop, failed answer.2.1 answer.2.2 = none) ∧
      (stop = commands.length ∧ (record failed pos full answers).2 = none ∨
        ∃ cmd resp reason, answers[stop]? = some (start + stop, cmd, resp) ∧
          failed cmd resp = some reason ∧
          (record failed pos full answers).2 = some (pos + stop, reason)) := by
  intro answers
  induction commands generalizing responses full start pos with
  | nil =>
    refine ⟨0, le_rfl, ?_, by simp, .inl ⟨rfl, rfl⟩⟩
    simp [answers, record]
  | cons cmd commands ih =>
    obtain ⟨resp, responses, rfl⟩ := List.exists_cons_of_length_eq_add_one hlength
    have hanswers : answers = (start, cmd, resp) ::
        (List.range' (start + 1) commands.length).zip (commands.zip responses) := rfl
    simp only [hanswers]
    rw [record]
    cases hfailed : failed cmd resp with
    | some reason =>
      refine ⟨0, Nat.zero_le _, ?_, by simp, .inr ⟨cmd, resp, reason, rfl, hfailed, rfl⟩⟩
      simp
    | none =>
      rw [List.length_cons] at hfull
      obtain ⟨stop, hstop, hrecord, hbefore, hend⟩ := @ih responses
        (full.set start (some resp)) (start + 1) (pos + 1) (by simpa using hlength)
        (by rw [List.length_set]; omega)
      refine ⟨stop + 1, by simpa using hstop, ?_, ?_, ?_⟩
      · show (record failed (pos + 1) _ _).1 = _
        have htake : (full.set start (some resp)).take (start + 1) =
            full.take start ++ [some resp] := by
          rw [List.take_add_one, List.take_set_of_le le_rfl, List.getElem?_set_self (by omega)]
          rfl
        rw [hrecord, htake, List.drop_set_of_lt (by omega)]
        simp [Nat.add_assoc, Nat.add_comm 1 stop]
      · intro answer hanswer
        rw [List.take_succ_cons, List.mem_cons] at hanswer
        rcases hanswer with rfl | hanswer
        · exact hfailed
        · exact hbefore answer hanswer
      · rcases hend with ⟨rfl, hnone⟩ | ⟨cmd', resp', reason, hget, hreason, hsome⟩
        · exact .inl ⟨rfl, hnone⟩
        · refine .inr ⟨cmd', resp', reason, ?_, hreason, ?_⟩
          · rw [List.getElem?_cons_succ, hget, Nat.add_assoc, Nat.add_comm 1 stop]
          · show (record failed (pos + 1) _ _).2 = _
            rw [hsome, Nat.add_assoc, Nat.add_comm 1 stop]

/-- A call with the commands from index `start` on. -/
def sentFrom (commands : List κ) (start : ℕ) (responses : Option (List ρ)) : Sent κ ρ :=
  ⟨List.range' start (commands.length - start), commands.drop start, responses⟩

/-- The loop over the responses of a call: those in front of the first failure are written
down at the indexes of their commands. -/
lemma record_sentFrom {commands : List κ} {responses : List ρ} {full : List (Option ρ)}
    {start : ℕ} (hstart : start ≤ commands.length)
    (hlength : responses.length = (commands.drop start).length)
    (hfull : full.length = commands.length) :
    let sent := sentFrom commands start (some responses)
    ∃ full' failure stop, record failed 0 full sent.answers = (full', failure) ∧
      full'.length = commands.length ∧ full'.take start = full.take start ∧
      (∀ i cmd, start ≤ i → i < start + stop → commands[i]? = some cmd →
        ∃ resp, (i, cmd, resp) ∈ sent.answers ∧ full'[i]? = some (some resp) ∧
          failed cmd resp = none) ∧
      (start + stop = commands.length ∧ failure = none ∨
        start + stop < commands.length ∧ ∃ cmd resp reason,
          sent.firstFailed failed = some (start + stop, cmd, resp) ∧
          failed cmd resp = some reason ∧ failure = some (stop, reason)) := by
  intro sent
  have hdrop : (commands.drop start).length = commands.length - start := List.length_drop
  have hanswers : sent.answers = (List.range' start (commands.drop start).length).zip
      ((commands.drop start).zip responses) := by
    rw [hdrop]
    rfl
  obtain ⟨stop, hstop, hrecord, hbefore, hend⟩ :=
    @record_spec κ ρ failed (commands.drop start) responses full start 0 hlength (by omega)
  rw [← hanswers] at hrecord hbefore hend
  have htake : (full.take start).length = start := by
    rw [List.length_take]
    omega
  -- up to the failure the indexes of the call have its responses
  have hget : ∀ i, start ≤ i → i < start + stop →
      (record failed 0 full sent.answers).1[i]? = (responses[i - start]?).map some := by
    intro i hle hlt
    rw [hrecord, List.append_assoc, List.getElem?_append_right (by omega), htake,
      List.getElem?_append_left (by rw [List.length_map, List.length_take]; omega),
      List.getElem?_map, List.getElem?_take_of_lt (by omega)]
  -- the answers of a call are its commands and responses under their indexes
  have hanswer : ∀ j cmd resp, commands[start + j]? = some cmd → responses[j]? = some resp →
      sent.answers[j]? = some (start + j, cmd, resp) := by
    intro j cmd resp hcmd hresp
    obtain ⟨hlt, -⟩ := List.getElem?_eq_some_iff.1 hcmd
    rw [hanswers, List.getElem?_zip_eq_some]
    refine ⟨?_, ?_⟩
    · rw [List.getElem?_range' (by omega)]
      simp
    · rw [List.getElem?_zip_eq_some, List.getElem?_drop]
      exact ⟨hcmd, hresp⟩
  refine ⟨_, _, stop, rfl, ?_, ?_, ?_, ?_⟩
  · rw [hrecord]
    simp only [List.length_append, List.length_map, List.length_take, List.length_drop]
    omega
  · rw [hrecord, List.append_assoc, List.take_left' htake]
  · intro i cmd hle hlt hcmd
    obtain ⟨j, rfl⟩ := Nat.exists_eq_add_of_le hle
    have hj : j < responses.length := by omega
    have hresp : responses[j]? = some responses[j] := List.getElem?_eq_getElem hj
    have hmem := hanswer j cmd _ hcmd hresp
    refine ⟨responses[j], List.mem_of_getElem? hmem, ?_, ?_⟩
    · rw [hget _ hle hlt, Nat.add_sub_cancel_left, hresp]
      rfl
    · refine hbefore (start + j, cmd, responses[j]) (List.mem_of_getElem? (i := j) ?_)
      rwa [List.getElem?_take_of_lt (by omega)]
  · rcases hend with ⟨rfl, hnone⟩ | ⟨cmd, resp, reason, hgetStop, hreason, hsome⟩
    · exact .inl ⟨by omega, hnone⟩
    · refine .inr ⟨?_, cmd, resp, reason, ?_, hreason, by rw [hsome, Nat.zero_add]⟩
      · obtain ⟨hlt, -⟩ := List.getElem?_eq_some_iff.1 hgetStop
        rw [hanswers, List.length_zip, List.length_zip, List.length_range'] at hlt
        omega
      · obtain ⟨hlt, hat⟩ := List.getElem?_eq_some_iff.1 hgetStop
        rw [Sent.firstFailed, List.find?_eq_some_iff_getElem]
        refine ⟨by simp [hreason], stop, hlt, hat, fun j hj => ?_⟩
        have hok := hbefore sent.answers[j] (List.mem_of_getElem? (i := j)
          (by rw [List.getElem?_take_of_lt hj, List.getElem?_eq_getElem]))
        simp [hok]

/-! ### All attempts -/

variable (failed)

/-- What the attempts that start with the command at index `start` do: the batches stay
whole. -/
structure KeepsBatches (commands : List κ) (start : ℕ) (full : List (Option ρ))
    (outcome : Outcome σ κ ρ) : Prop where
  /-- No call starts inside a batch. -/
  aligned : ∀ sent ∈ outcome.sends, ∃ k, start ≤ k * batchSize ∧
    sent.indexes = List.range' (k * batchSize) (commands.length - k * batchSize) ∧
    sent.commands = commands.drop (k * batchSize)
  /-- The batches before the first failed command are not sent again. -/
  later : outcome.sends.Pairwise fun sent sent' => ∃ answer ∈ sent.firstFailed failed,
    ∀ index ∈ sent'.indexes, answer.1 / batchSize ≤ index / batchSize
  /-- The responses to a batch come from one call, and none is a failure. -/
  returns : ∀ full', outcome.result = .ok full' → full'.length = commands.length ∧
    full'.take start = full.take start ∧
    ∀ k, start ≤ k * batchSize → k * batchSize < commands.length →
      ∃ sent ∈ outcome.sends, ∀ i cmd, i / batchSize = k → commands[i]? = some cmd →
        ∃ resp, (i, cmd, resp) ∈ sent.answers ∧ full'[i]? = some (some resp) ∧
          failed cmd resp = none

variable {failed} {batchSize} {sender}

/-- A call that ends in a failure, and the attempts from the batch of the failed command. -/
lemma KeepsBatches.cons {commands : List κ} {q stop : ℕ} {responses : List ρ}
    {full full' : List (Option ρ)} {cmd : κ} {resp : ρ} {outcome : Outcome σ κ ρ}
    (hpos : 0 < batchSize)
    (hkept : full'.take (q * batchSize) = full.take (q * batchSize))
    (hanswers : ∀ i cmd, q * batchSize ≤ i → i < q * batchSize + stop → commands[i]? = some cmd →
      ∃ resp, (i, cmd, resp) ∈ (sentFrom commands (q * batchSize) (some responses)).answers ∧
        full'[i]? = some (some resp) ∧ failed cmd resp = none)
    (hfailed : (sentFrom commands (q * batchSize) (some responses)).firstFailed failed =
      some (q * batchSize + stop, cmd, resp))
    (h : KeepsBatches failed batchSize commands ((q + stop / batchSize) * batchSize) full'
      outcome) :
    KeepsBatches failed batchSize commands (q * batchSize) full
      { outcome with
        sends := sentFrom commands (q * batchSize) (some responses) :: outcome.sends } where
  aligned sent hsent := by
    rcases List.mem_cons.1 hsent with rfl | hsent
    · exact ⟨q, le_rfl, rfl, rfl⟩
    · obtain ⟨k, hle, hindexes, hcommands⟩ := h.aligned sent hsent
      refine ⟨k, ?_, hindexes, hcommands⟩
      rw [Nat.add_mul] at hle
      omega
  later := by
    refine List.pairwise_cons.2 ⟨fun sent hsent => ⟨_, hfailed, fun index hindex => ?_⟩, h.later⟩
    obtain ⟨k, hle, hindexes, -⟩ := h.aligned sent hsent
    rw [hindexes, List.mem_range'_1] at hindex
    have hbatch : (q * batchSize + stop) / batchSize = q + stop / batchSize := by
      rw [Nat.mul_comm, Nat.mul_add_div hpos]
    show (q * batchSize + stop) / batchSize ≤ index / batchSize
    rw [hbatch, Nat.le_div_iff_mul_le hpos]
    omega
  returns final hresult := by
    obtain ⟨hlength, hprefix, hbatches⟩ := h.returns final hresult
    have hle : q * batchSize ≤ (q + stop / batchSize) * batchSize :=
      Nat.mul_le_mul_right _ (Nat.le_add_right _ _)
    have hstop : (q + stop / batchSize) * batchSize ≤ q * batchSize + stop := by
      rw [Nat.add_mul]
      exact Nat.add_le_add_left (Nat.div_mul_le_self _ _) _
    refine ⟨hlength, ?_, fun k hk hlt => ?_⟩
    · have htake := congrArg (List.take (q * batchSize)) hprefix
      rwa [List.take_take, List.take_take, min_eq_left hle, hkept] at htake
    · rcases Nat.lt_or_ge k (q + stop / batchSize) with hbefore | hafter
      · -- this call has the whole batch in front of its first failure
        refine ⟨_, List.mem_cons_self, fun i cmd' hi hcmd => ?_⟩
        have hik : k * batchSize ≤ i := by
          rw [← hi]
          exact Nat.div_mul_le_self _ _
        have hin : i < (q + stop / batchSize) * batchSize := by
          rw [← Nat.div_lt_iff_lt_mul hpos, hi]
          exact hbefore
        obtain ⟨resp', hmem, hget, hok⟩ := hanswers i cmd' (by omega) (by omega) hcmd
        refine ⟨resp', hmem, ?_, hok⟩
        have heq := congrArg (fun l : List (Option ρ) => l[i]?) hprefix
        simp only [List.getElem?_take_of_lt hin] at heq
        rw [heq, hget]
      · obtain ⟨sent, hsent, hbatch⟩ := hbatches k (Nat.mul_le_mul_right _ hafter) hlt
        exact ⟨sent, List.mem_cons_of_mem _ hsent, hbatch⟩

/-- What is sent again starts with the batch of the failed command. -/
lemma cut_pending {commands : List κ} {q stop : ℕ}
    (h : q * batchSize + stop ≤ commands.length) :
    (commands.drop (q * batchSize)).drop (stop - stop % batchSize) =
        commands.drop ((q + stop / batchSize) * batchSize) ∧
      (List.range' (q * batchSize) (commands.length - q * batchSize)).drop
          (stop - stop % batchSize) =
        List.range' ((q + stop / batchSize) * batchSize)
          (commands.length - (q + stop / batchSize) * batchSize) ∧
      (q + stop / batchSize) * batchSize ≤ commands.length := by
  have hround : stop - stop % batchSize = stop / batchSize * batchSize := by
    have := Nat.div_add_mod stop batchSize
    rw [Nat.mul_comm]
    omega
  have hle := Nat.div_mul_le_self stop batchSize
  rw [hround, Nat.add_mul]
  refine ⟨List.drop_drop, ?_, by omega⟩
  rw [List.drop_range', Nat.mul_one, Nat.sub_sub]

lemma keepsBatches_attemptLoop (hpos : 0 < batchSize) {commands : List κ} (attempts q : ℕ)
    (hq : q * batchSize ≤ commands.length) {driver : σ} {full : List (Option ρ)}
    (hfull : full.length = commands.length) (reason : Option Error) :
    KeepsBatches failed batchSize commands (q * batchSize) full
      (attemptLoop failed sender batchSize attempts driver full
        (commands.drop (q * batchSize))
        (List.range' (q * batchSize) (commands.length - q * batchSize)) reason) := by
  induction attempts generalizing q driver full reason with
  | zero =>
    rw [attemptLoop]
    exact ⟨by simp, List.Pairwise.nil, fun full' h => by cases h⟩
  | succ attempts ih =>
    rw [attemptLoop]
    split
    case h_1 =>
      refine ⟨?_, List.pairwise_singleton _ _, fun full' h => by cases h⟩
      intro sent hsent
      rw [List.mem_singleton.1 hsent]
      exact ⟨q, le_rfl, rfl, rfl⟩
    case h_2 driver' responses hsend =>
      obtain ⟨full', failure, stop, hrecord, hlength, hkept, hanswers, hend⟩ :=
        @record_sentFrom κ ρ failed commands responses full _ hq (sender.length_eq hsend) hfull
      replace hrecord : record failed 0 full (Sent.answers ⟨List.range' (q * batchSize)
        (commands.length - q * batchSize), commands.drop (q * batchSize), some responses⟩) =
        (full', failure) := hrecord
      simp only [hrecord]
      rcases hend with ⟨hstop, rfl⟩ | ⟨hstop, cmd, resp, reason', hfailed, -, rfl⟩
      · refine ⟨?_, List.pairwise_singleton _ _, ?_⟩
        · intro sent hsent
          rw [List.mem_singleton.1 hsent]
          exact ⟨q, le_rfl, rfl, rfl⟩
        · intro final hfinal
          obtain rfl := Except.ok.inj hfinal
          refine ⟨hlength, hkept, fun k hk hlt => ⟨_, List.mem_singleton_self _, ?_⟩⟩
          intro i cmd hi hcmd
          have hik : k * batchSize ≤ i := by
            rw [← hi]
            exact Nat.div_mul_le_self _ _
          obtain ⟨hin, -⟩ := List.getElem?_eq_some_iff.1 hcmd
          exact hanswers i cmd (by omega) (by omega) hcmd
      · obtain ⟨hcommands, hindexes, hle⟩ := @cut_pending κ batchSize commands q stop hstop.le
        simp only [hcommands, hindexes]
        exact KeepsBatches.cons hpos hkept hanswers hfailed
          (@ih (q + stop / batchSize) hle driver' full' hlength (some reason'))

/-- The failure that ended the last of the calls, or the one before them. -/
def lastFailure (failed : κ → ρ → Option Error) (before : Option Error) (sends : List (Sent κ ρ)) :
    Option Error :=
  match sends.getLast? with
  | none => before
  | some sent => (sent.firstFailed failed).bind fun answer => failed answer.2.1 answer.2.2

lemma lastFailure_cons (before : Option Error) (sent : Sent κ ρ) (sends : List (Sent κ ρ)) :
    lastFailure failed before (sent :: sends) =
      lastFailure failed ((sent.firstFailed failed).bind fun answer => failed answer.2.1 answer.2.2)
        sends := by
  rw [lastFailure, lastFailure, List.getLast?_cons]
  cases sends.getLast? <;> rfl

lemma queryFailureError_toList_eq_noAnswer_iff {reason : Option Error} :
    queryFailureError reason.toList = .noAnswer ↔ reason = some .noAnswer := by
  rcases reason with _ | _ | _ | _ <;> simp [queryFailureError]

/-- The attempts are at most as many as given, and the error says what ended the last. -/
lemma attemptLoop_raises {commands : List κ} (attempts q : ℕ)
    (hq : q * batchSize ≤ commands.length) {driver : σ} {full : List (Option ρ)}
    (hfull : full.length = commands.length) (reason : Option Error) :
    let outcome := attemptLoop failed sender batchSize attempts driver full
      (commands.drop (q * batchSize))
      (List.range' (q * batchSize) (commands.length - q * batchSize)) reason
    outcome.sends.length ≤ attempts ∧ ∀ error, outcome.result = .error error →
      (error = .noAnswer ↔ lastFailure failed reason outcome.sends = some .noAnswer) := by
  induction attempts generalizing q driver full reason with
  | zero =>
    refine ⟨le_rfl, fun error herror => ?_⟩
    obtain rfl := Except.error.inj herror
    exact queryFailureError_toList_eq_noAnswer_iff
  | succ attempts ih =>
    rw [attemptLoop]
    split
    case h_1 =>
      refine ⟨Nat.le_add_left _ _, fun error herror => ?_⟩
      obtain rfl := Except.error.inj herror
      simp [lastFailure, Sent.firstFailed, Sent.answers]
    case h_2 driver' responses hsend =>
      obtain ⟨full', failure, stop, hrecord, hlength, -, -, hend⟩ :=
        @record_sentFrom κ ρ failed commands responses full _ hq (sender.length_eq hsend) hfull
      replace hrecord : record failed 0 full (Sent.answers ⟨List.range' (q * batchSize)
        (commands.length - q * batchSize), commands.drop (q * batchSize), some responses⟩) =
        (full', failure) := hrecord
      simp only [hrecord]
      rcases hend with ⟨-, rfl⟩ | ⟨hstop, cmd, resp, reason', hfailed, hreason, rfl⟩
      · exact ⟨Nat.le_add_left _ _, fun error herror => by cases herror⟩
      · obtain ⟨hcommands, hindexes, hle⟩ := @cut_pending κ batchSize commands q stop hstop.le
        simp only [hcommands, hindexes]
        obtain ⟨hcount, herrors⟩ :=
          @ih (q + stop / batchSize) hle driver' full' hlength (some reason')
        refine ⟨Nat.succ_le_succ hcount, fun error herror => ?_⟩
        have hreason' : ((sentFrom commands (q * batchSize) (some responses)).firstFailed
            failed).bind (fun answer => failed answer.2.1 answer.2.2) = some reason' := by
          rw [hfailed]
          exact hreason
        rw [herrors error herror, lastFailure_cons]
        exact (congrArg (fun before => lastFailure failed before _ = some Error.noAnswer)
          hreason').symm.to_iff

end Loop

/-- `query_responses_retry_from_first_failed` keeps the batches whole, whatever the driver
returns, and raises a `NoAnswerError` iff the last call of the driver ended in silence. -/
theorem keepsBatches_retryFromFirstFailed {σ κ : Type*} (hasResponse : κ → Bool)
    (sender : Sender σ κ SendResponse) (driver : σ) (commands : List κ) {batchSize : ℕ}
    (hpos : 1 ≤ batchSize) :
    let failed := checkCommandFailed hasResponse
    let outcome := queryResponsesRetryFromFirstFailed failed sender batchSize driver commands
    outcome.sends.length ≤ maxCommandRetries ∧
      KeepsBatches failed batchSize commands 0 [] outcome ∧
      ∀ error, outcome.result = .error error →
        (error = .noAnswer ↔ ∃ last index cmd resp, outcome.sends.getLast? = some last ∧
          last.firstFailed failed = some (index, cmd, resp) ∧ Silence hasResponse cmd resp) := by
  intro failed outcome
  by_cases hempty : commands = []
  · have houtcome : outcome = ⟨driver, .ok [], []⟩ := if_pos hempty
    rw [houtcome]
    refine ⟨Nat.zero_le _, ⟨by simp, List.Pairwise.nil, fun full' hfull' => ?_⟩,
      fun error herror => by cases herror⟩
    obtain rfl := Except.ok.inj hfull'
    simp [hempty]
  · have houtcome : outcome = attemptLoop failed sender batchSize maxCommandRetries driver
        (List.replicate commands.length none) (commands.drop (0 * batchSize))
        (List.range' (0 * batchSize) (commands.length - 0 * batchSize)) none := by
      rw [Nat.zero_mul, Nat.sub_zero, List.drop_zero, ← List.range_eq_range']
      exact (if_neg hempty).trans (if_neg (by omega))
    have hstart : 0 * batchSize ≤ commands.length := by omega
    have hfull : (List.replicate commands.length (none : Option SendResponse)).length =
        commands.length := List.length_replicate
    have hkeeps := @keepsBatches_attemptLoop σ κ SendResponse failed sender batchSize hpos commands
      maxCommandRetries 0 hstart driver _ hfull none
    obtain ⟨hcount, herrors⟩ :=
      @attemptLoop_raises σ κ SendResponse failed sender batchSize commands
      maxCommandRetries 0 hstart driver _ hfull none
    rw [← houtcome] at hkeeps hcount herrors
    refine ⟨hcount, ⟨?_, hkeeps.later, ?_⟩, fun error herror => ?_⟩
    · simpa using hkeeps.aligned
    · intro full' hfull'
      obtain ⟨hlength, -, hbatches⟩ := hkeeps.returns full' hfull'
      exact ⟨hlength, rfl, by simpa using hbatches⟩
    · rw [herrors error herror, lastFailure]
      cases outcome.sends.getLast? with
      | none => simp
      | some last =>
        simp only [Option.bind_eq_some_iff, failed, checkCommandFailed_eq_noAnswer_iff,
          Option.some.injEq, exists_and_left, exists_eq_left', Prod.exists]

/-- A driver that fails to transmit command 3 in its first call. -/
def flakySender : Sender ℕ ℕ SendResponse where
  sendCommands calls commands :=
    (calls + 1, some (commands.map fun command =>
      if calls = 0 ∧ command = 3 then .transmissionError
      else .response false (some (.answer (10 + command)))))
  length_eq h := by
    simp only [Prod.mk.injEq, Option.some.injEq] at h
    rw [← h.2, List.length_map]

theorem keepsBatches_flaky :
    let failed := checkCommandFailed fun _ : ℕ => true
    let outcome := queryResponsesRetryFromFirstFailed failed flakySender 2 0 [0, 1, 2, 3]
    outcome.sends.map (·.commands) = [[0, 1, 2, 3], [2, 3]] ∧
      KeepsBatches failed 2 [0, 1, 2, 3] 0 [] outcome :=
  ⟨by decide +kernel, (@keepsBatches_retryFromFirstFailed ℕ ℕ (fun _ => true) flakySender 0
    [0, 1, 2, 3] 2 (by decide)).2.1⟩

/-! ### The model without indexes -/

section Device

variable {γ κ : Type*} [Device γ κ]

/-- A device behind frames with the given fates; the second component counts the attempts
that are left. -/
def deviceSender (outcomes : ℕ → ℕ → FrameOutcome) : Sender (γ × ℕ) κ Response where
  sendCommands s commands :=
    let sent := sendCommands s.1 commands (outcomes (s.2 - 1))
    ((sent.1, s.2 - 1), sent.2)
  length_eq h := sendCommands_length (Prod.ext rfl (Prod.ext_iff.1 h).2)

lemma record_snd (pos start : ℕ) (full : List (Option Response)) {commands : List κ}
    {responses : List Response} (hlength : responses.length = commands.length) :
    (record (Settings.checkCommandFailed γ) pos full
        ((List.range' start commands.length).zip (commands.zip responses))).2 =
      (firstFailed γ commands responses).map fun failure => (pos + failure.1, failure.2) := by
  induction commands generalizing pos start full responses with
  | nil => rfl
  | cons cmd commands ih =>
    obtain ⟨resp, responses, rfl⟩ := List.exists_cons_of_length_eq_add_one hlength
    have hzip : (List.range' start (cmd :: commands).length).zip
        ((cmd :: commands).zip (resp :: responses)) = (start, cmd, resp) ::
          (List.range' (start + 1) commands.length).zip (commands.zip responses) := rfl
    rw [hzip, record, firstFailed]
    cases Settings.checkCommandFailed γ cmd resp with
    | some error => rfl
    | none =>
      refine (@ih (pos + 1) (start + 1) _ responses (by simpa using hlength)).trans ?_
      cases firstFailed γ commands responses <;> simp [Nat.add_assoc, Nat.add_comm 1]

lemma queryFailureError_of_failed {cmd : κ} {resp : Response} {reason : Error}
    (h : Settings.checkCommandFailed γ cmd resp = some reason) :
    queryFailureError [reason] = reason := by
  have hreason : reason ≠ .other := by
    rintro rfl
    cases resp <;> simp [Settings.checkCommandFailed] at h
  cases reason <;> simp_all [queryFailureError]

/-- The loop with indexes and the one without do the same. -/
lemma attemptLoop_deviceSender (outcomes : ℕ → ℕ → FrameOutcome) {batchSize : ℕ} (attempts : ℕ)
    {device : γ} {full : List (Option Response)} {done : List Response} {pending : List κ}
    {reason : Option Error} (hfull : full.length = done.length + pending.length)
    (hdone : full.take done.length = done.map some) :
    let outcome := attemptLoop (Settings.checkCommandFailed γ) (deviceSender outcomes) batchSize
      attempts (device, attempts) full pending (List.range' done.length pending.length) reason
    let (device', result) := retryFromFirstFailedLoop batchSize outcomes attempts
      (queryFailureError reason.toList) device done pending
    outcome.driver.1 = device' ∧ outcome.result = result.map (List.map some) := by
  induction attempts generalizing device full done pending reason with
  | zero => exact ⟨rfl, rfl⟩
  | succ attempts ih =>
    have hsender : (deviceSender outcomes).sendCommands (device, attempts + 1) pending =
        (((sendCommands device pending (outcomes attempts)).1, attempts),
          (sendCommands device pending (outcomes attempts)).2) := rfl
    rw [attemptLoop, retryFromFirstFailedLoop, hsender]
    rcases hsend : sendCommands device pending (outcomes attempts) with ⟨device', _ | responses⟩
    · exact ⟨rfl, rfl⟩
    · have hlength := sendCommands_length hsend
      obtain ⟨stop, hstop, hrecord, -, hend⟩ := @record_spec κ Response
        (Settings.checkCommandFailed γ) pending responses full done.length 0 hlength hfull
      have hfirst := @record_snd γ κ _ 0 done.length full pending responses hlength
      -- the answers in front of the failure are written down behind those of the earlier attempts
      have hrecorded : ∀ r ≤ stop, (full.take done.length ++ (responses.take stop).map some ++
          full.drop (done.length + stop)).take (done ++ responses.take r).length =
            (done ++ responses.take r).map some := by
        intro r hr
        rw [hdone, ← List.map_append, List.take_append_of_le_length, ← List.map_take,
          List.length_append, List.take_length_add_append, List.take_take,
          List.length_take, min_eq_left (by omega), ← List.take_eq_take_min]
        simp only [List.length_append, List.length_map, List.length_take]
        omega
      have hsize : (record (Settings.checkCommandFailed γ) 0 full
          ((List.range' done.length pending.length).zip (pending.zip responses))).1.length =
            full.length := by
        rw [hrecord]
        simp only [List.length_append, List.length_map, List.length_take, List.length_drop]
        omega
      simp only [Sent.answers, Option.getD_some]
      rcases hsplit : record (Settings.checkCommandFailed γ) 0 full
        ((List.range' done.length pending.length).zip (pending.zip responses)) with ⟨full', failure⟩
      rw [hsplit] at hrecord hend hfirst hsize
      simp only at hrecord hend hfirst hsize
      rcases hend with ⟨rfl, rfl⟩ | ⟨cmd, resp, reason', -, hreason, rfl⟩
      · have hnone : firstFailed γ pending responses = none := by
          simpa using hfirst.symm
        simp only [hnone]
        refine ⟨trivial, congrArg Except.ok ?_⟩
        rw [hrecord, hdone, ← hlength, List.take_length, List.drop_eq_nil_of_le (by omega),
          List.append_nil, List.map_append]
      · have hsome : firstFailed γ pending responses = some (stop, reason') := by
          cases hfailure : firstFailed γ pending responses with
          | none => simp [hfailure] at hfirst
          | some failure =>
            simp only [hfailure, Option.map_some, Option.some.injEq, Prod.mk.injEq] at hfirst
            exact congrArg some (Prod.ext (by omega) hfirst.2.symm)
        -- both go on at the start of the batch with the failure
        have hcut : stop - stop % batchSize ≤ stop := Nat.sub_le _ _
        have hindexes : (List.range' done.length pending.length).drop (stop - stop % batchSize) =
            List.range' (done ++ responses.take (stop - stop % batchSize)).length
              (pending.drop (stop - stop % batchSize)).length := by
          rw [List.drop_range', Nat.mul_one, List.length_append, List.length_take,
            List.length_drop, min_eq_left (by omega)]
        have hnext := @ih device' full' (done ++ responses.take (stop - stop % batchSize))
          (pending.drop (stop - stop % batchSize)) (some reason')
          (by
            rw [hsize, hfull, List.length_append, List.length_take, List.length_drop]
            omega)
          (hrecord ▸ hrecorded _ hcut)
        simp only [hsome, Nat.zero_add, hindexes]
        rw [show (some reason').toList = [reason'] from rfl, queryFailureError_of_failed hreason]
          at hnext
        exact hnext

/-- Over a device, the bookkeeping by indexes does what the model without it does. -/
theorem retryFromFirstFailed_deviceSender (outcomes : ℕ → ℕ → FrameOutcome) (batchSize : ℕ)
    (device : γ) (commands : List κ) :
    let outcome := queryResponsesRetryFromFirstFailed (Settings.checkCommandFailed γ)
      (deviceSender outcomes) batchSize (device, maxCommandRetries) commands
    let (device', result) :=
      Settings.queryResponsesRetryFromFirstFailed device commands batchSize outcomes
    outcome.driver.1 = device' ∧ outcome.result = result.map (List.map some) := by
  rw [queryResponsesRetryFromFirstFailed, Settings.queryResponsesRetryFromFirstFailed]
  by_cases hempty : commands = []
  · simp only [if_pos hempty]
    exact ⟨trivial, rfl⟩
  · simp only [if_neg hempty]
    by_cases hzero : batchSize = 0
    · simp only [if_pos hzero]
      exact ⟨trivial, rfl⟩
    · simp only [if_neg hzero]
      have hloop := @attemptLoop_deviceSender γ κ _ outcomes batchSize maxCommandRetries device
        (List.replicate commands.length none) [] commands none (by simp) (by simp)
      rw [List.range_eq_range']
      exact hloop

end Device

end WbMqttDali.Settings.BatchRetries
