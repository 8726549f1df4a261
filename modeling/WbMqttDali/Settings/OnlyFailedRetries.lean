import Mathlib
import WbMqttDali.Lib.Dict
import WbMqttDali.Settings.BatchRetries

/-!
# Batches of which only the failures are sent again

`query_responses_retry_only_failed` with its own bookkeeping: the indexes and
the commands that are pending shrink together, and responses are written down
at the index of their command.
-/

namespace WbMqttDali.Settings.BatchRetries

section OnlyFailed

variable {σ κ ρ : Type*} (failed : κ → ρ → Option Error)

/-! ### The loop -/

/-- What the loop over the responses of one attempt leaves. -/
structure Collected (κ ρ : Type*) where
  fullResponses : List (Option ρ)
  nextPendingIndexes : List ℕ
  nextPendingCommands : List κ
  failedInfo : List (ℕ × Error)

/-- The loop over the responses of one attempt. -/
def collect : List (Option ρ) → List (ℕ × κ × ρ) → Collected κ ρ
  | fullResponses, [] => ⟨fullResponses, [], [], []⟩
  | fullResponses, (index, cmd, resp) :: answers =>
    match failed cmd resp with
    | none => collect (fullResponses.set index (some resp)) answers
    | some failReason =>
      let rest := collect fullResponses answers
      { rest with
        nextPendingIndexes := index :: rest.nextPendingIndexes
        nextPendingCommands := cmd :: rest.nextPendingCommands
        failedInfo := (index, failReason) :: rest.failedInfo }

variable (sender : Sender σ κ ρ)

/-- The loop over the attempts. -/
def onlyFailedLoop : ℕ → σ → List (Option ρ) → List ℕ → List κ → Dict ℕ Error → Outcome σ κ ρ
  | 0, driver, _, _, _, lastFailedReasons =>
    ⟨driver, .error (queryFailureError lastFailedReasons.values), []⟩
  | attempts + 1, driver, fullResponses, pendingIndexes, pendingCommands, _ =>
    match sender.sendCommands driver pendingCommands with
    | (driver, none) => ⟨driver, .error .other, [⟨pendingIndexes, pendingCommands, none⟩]⟩
    | (driver, some responses) =>
      let sent : Sent κ ρ := ⟨pendingIndexes, pendingCommands, some responses⟩
      let collected := collect failed fullResponses sent.answers
      if collected.nextPendingIndexes = [] then ⟨driver, .ok collected.fullResponses, [sent]⟩
      else
        let outcome := onlyFailedLoop attempts driver collected.fullResponses
          collected.nextPendingIndexes collected.nextPendingCommands
          (Dict.ofPairs collected.failedInfo)
        { outcome with sends := sent :: outcome.sends }

/-- `query_responses_retry_only_failed` -/
def queryResponsesRetryOnlyFailed (driver : σ) (commands : List κ) : Outcome σ κ ρ :=
  if commands = [] then ⟨driver, .ok [], []⟩
  else onlyFailedLoop failed sender maxCommandRetries driver
    (List.replicate commands.length none) (List.range commands.length) commands ∅

/-! ### One attempt -/

/-- The commands that failed in a call, with their indexes and responses. -/
def Sent.failures (sent : Sent κ ρ) : List (ℕ × κ × ρ) :=
  sent.answers.filter fun answer => (failed answer.2.1 answer.2.2).isSome

/-- The errors of the commands that failed in a call. -/
def Sent.reasons (sent : Sent κ ρ) : List Error :=
  (sent.failures failed).filterMap fun answer => failed answer.2.1 answer.2.2

/-- The indexes are those of the commands, in order. -/
structure Aligned (commands : List κ) (indexes : List ℕ) (pending : List κ) : Prop where
  increasing : indexes.Pairwise (· < ·)
  commands_eq : indexes.map (commands[·]?) = pending.map some

lemma aligned_range (commands : List κ) :
    Aligned commands (List.range commands.length) commands where
  increasing := List.pairwise_lt_range
  commands_eq := by
    refine List.ext_getElem? fun i => ?_
    by_cases hi : i < commands.length
    · simp [hi]
    · simp [hi]

section Attempt

variable {failed} {commands pending : List κ} {indexes : List ℕ} {responses : List ρ}
  {full : List (Option ρ)}

lemma Aligned.length_eq (h : Aligned commands indexes pending) :
    indexes.length = pending.length := by
  simpa using congrArg List.length h.commands_eq

/-- Every command of a call stands at its index in the batch. -/
lemma Aligned.getElem?_of_mem (h : Aligned commands indexes pending) {i : ℕ} {cmd : κ} {resp : ρ}
    (hmem : (i, cmd, resp) ∈ Sent.answers ⟨indexes, pending, some responses⟩) :
    commands[i]? = some cmd := by
  obtain ⟨j, hj⟩ := List.mem_iff_getElem?.1 hmem
  rw [Sent.answers, List.getElem?_zip_eq_some, List.getElem?_zip_eq_some] at hj
  obtain ⟨hindex, hcmd, -⟩ := hj
  have heq := congrArg (fun l : List (Option κ) => l[j]?) h.commands_eq
  simpa [hindex, hcmd] using heq

lemma Aligned.map_fst_answers (h : Aligned commands indexes pending)
    (hlength : responses.length = pending.length) :
    (Sent.answers ⟨indexes, pending, some responses⟩).map Prod.fst = indexes := by
  have hzip : (pending.zip responses).length = pending.length := by
    rw [List.length_zip]
    omega
  exact List.map_fst_zip (by rw [h.length_eq, ← hzip]; exact le_rfl)

/-- Each index has one answer. -/
lemma Aligned.nodup_answers (h : Aligned commands indexes pending)
    (hlength : responses.length = pending.length) :
    ((Sent.answers ⟨indexes, pending, some responses⟩).map Prod.fst).Nodup := by
  rw [h.map_fst_answers hlength]
  exact h.increasing.imp fun hlt => Nat.ne_of_lt hlt

/-- What is sent next is again in the order of the batch. -/
lemma Aligned.failures (h : Aligned commands indexes pending)
    (hlength : responses.length = pending.length) :
    let failures := Sent.failures failed ⟨indexes, pending, some responses⟩
    Aligned commands (failures.map Prod.fst) (failures.map fun answer => answer.2.1) := by
  intro failures
  have hsub : failures.Sublist (Sent.answers ⟨indexes, pending, some responses⟩) :=
    List.filter_sublist
  have hincreasing := h.increasing
  rw [← h.map_fst_answers hlength] at hincreasing
  refine ⟨hincreasing.sublist (hsub.map Prod.fst), ?_⟩
  · rw [List.map_map, List.map_map]
    exact List.map_congr_left fun answer hanswer => h.getElem?_of_mem (hsub.subset hanswer)

lemma collect_pending (full : List (Option ρ)) (answers : List (ℕ × κ × ρ)) :
    let failures := answers.filter fun answer => (failed answer.2.1 answer.2.2).isSome
    (collect failed full answers).nextPendingIndexes = failures.map Prod.fst ∧
      (collect failed full answers).nextPendingCommands = failures.map (fun answer => answer.2.1) ∧
      (collect failed full answers).failedInfo.map Prod.fst = failures.map Prod.fst ∧
      (collect failed full answers).failedInfo.map Prod.snd =
        failures.filterMap fun answer => failed answer.2.1 answer.2.2 := by
  induction answers generalizing full with
  | nil => exact ⟨rfl, rfl, rfl, rfl⟩
  | cons answer answers ih =>
    obtain ⟨index, cmd, resp⟩ := answer
    rw [collect]
    cases hfailed : failed cmd resp with
    | none => simpa [hfailed] using ih (full.set index (some resp))
    | some reason =>
      obtain ⟨hindexes, hcommands, hkeys, hreasons⟩ := ih full
      simp [hfailed, hindexes, hcommands, hkeys, hreasons]

/-- What is pending behind a call are its failures. -/
lemma collect_answers (full : List (Option ρ)) (sent : Sent κ ρ) :
    (collect failed full sent.answers).nextPendingIndexes = (sent.failures failed).map Prod.fst ∧
      (collect failed full sent.answers).nextPendingCommands =
        (sent.failures failed).map (fun answer => answer.2.1) ∧
      (collect failed full sent.answers).failedInfo.map Prod.fst =
        (sent.failures failed).map Prod.fst ∧
      (collect failed full sent.answers).failedInfo.map Prod.snd = sent.reasons failed :=
  collect_pending full sent.answers

lemma length_collect (full : List (Option ρ)) (answers : List (ℕ × κ × ρ)) :
    (collect failed full answers).fullResponses.length = full.length := by
  induction answers generalizing full with
  | nil => rfl
  | cons answer answers ih =>
    obtain ⟨index, cmd, resp⟩ := answer
    rw [collect]
    cases failed cmd resp with
    | none => simpa using ih (full.set index (some resp))
    | some reason => exact ih full

/-- Where no command succeeded, what was written down before stays. -/
lemma getElem?_collect_of_failed {answers : List (ℕ × κ × ρ)} {i : ℕ}
    (h : ∀ answer ∈ answers, answer.1 = i → (failed answer.2.1 answer.2.2).isSome) :
    (collect failed full answers).fullResponses[i]? = full[i]? := by
  induction answers generalizing full with
  | nil => rfl
  | cons answer answers ih =>
    obtain ⟨index, cmd, resp⟩ := answer
    obtain ⟨hhead, hrest⟩ := List.forall_mem_cons.1 h
    rw [collect]
    cases hfailed : failed cmd resp with
    | none =>
      have hne : index ≠ i := fun heq => by simp [hfailed] at hhead; exact hhead heq
      exact (ih hrest).trans (List.getElem?_set_ne hne)
    | some reason => exact ih hrest

/-- The response to a command that succeeded is written down at its index. -/
lemma getElem?_collect_of_ok {answers : List (ℕ × κ × ρ)} (hnodup : (answers.map Prod.fst).Nodup)
    {i : ℕ} {cmd : κ} {resp : ρ} (hmem : (i, cmd, resp) ∈ answers)
    (hok : failed cmd resp = none) (hi : i < full.length) :
    (collect failed full answers).fullResponses[i]? = some (some resp) := by
  induction answers generalizing full with
  | nil => cases hmem
  | cons answer answers ih =>
    obtain ⟨index, cmd', resp'⟩ := answer
    rw [List.map_cons, List.nodup_cons] at hnodup
    rw [collect]
    rcases List.mem_cons.1 hmem with heq | hmem
    · -- no later command has this index
      obtain ⟨rfl, rfl, rfl⟩ : i = index ∧ cmd = cmd' ∧ resp = resp' := by simpa using heq
      simp only [hok]
      rw [getElem?_collect_of_failed, List.getElem?_set_self hi]
      intro answer hanswer heq
      exact absurd (List.mem_map.2 ⟨answer, hanswer, heq⟩) hnodup.1
    · cases failed cmd' resp' with
      | none => exact ih hnodup.2 hmem (by simpa using hi)
      | some reason => exact ih hnodup.2 hmem hi

end Attempt

/-! ### All attempts -/

/-- What the attempts that start with the given pending commands do. -/
structure RetriesFailures (commands : List κ) (indexes : List ℕ) (pending : List κ)
    (full : List (Option ρ)) (outcome : Outcome σ κ ρ) : Prop where
  first : ∀ sent ∈ outcome.sends.head?, sent.indexes = indexes ∧ sent.commands = pending
  aligned : ∀ sent ∈ outcome.sends, Aligned commands sent.indexes sent.commands
  subset : ∀ sent ∈ outcome.sends, sent.indexes ⊆ indexes
  /-- A call holds the failures of the one before it, in order. -/
  next : outcome.sends.IsChain fun sent sent' =>
    sent'.indexes = (sent.failures failed).map Prod.fst ∧
      sent'.commands = (sent.failures failed).map fun answer => answer.2.1
  /-- What succeeded once is not sent again. -/
  settled : outcome.sends.Pairwise fun sent sent' => ∀ answer ∈ sent.answers,
    failed answer.2.1 answer.2.2 = none → answer.1 ∉ sent'.indexes
  returns : ∀ full', outcome.result = .ok full' → full'.length = full.length ∧
    (∀ i ∉ indexes, full'[i]? = full[i]?) ∧
    ∀ i ∈ indexes, ∃ sent ∈ outcome.sends, ∃ cmd resp, (i, cmd, resp) ∈ sent.answers ∧
      failed cmd resp = none ∧ full'[i]? = some (some resp)

variable {failed} {sender} {commands pending : List κ} {indexes : List ℕ} {responses : List ρ}
  {full : List (Option ρ)}

lemma exists_answer (haligned : Aligned commands indexes pending)
    (hlength : responses.length = pending.length) {i : ℕ} (hi : i ∈ indexes) :
    ∃ cmd resp, (i, cmd, resp) ∈ Sent.answers ⟨indexes, pending, some responses⟩ := by
  rw [← haligned.map_fst_answers hlength] at hi
  obtain ⟨⟨j, cmd, resp⟩, hmem, rfl⟩ := List.mem_map.1 hi
  exact ⟨cmd, resp, hmem⟩

/-- A command that succeeded is not among the failures. -/
lemma notMem_failures (haligned : Aligned commands indexes pending)
    (hlength : responses.length = pending.length) {answer : ℕ × κ × ρ}
    (hmem : answer ∈ Sent.answers ⟨indexes, pending, some responses⟩)
    (hok : failed answer.2.1 answer.2.2 = none) :
    answer.1 ∉ (Sent.failures failed ⟨indexes, pending, some responses⟩).map Prod.fst := by
  intro hfailure
  obtain ⟨answer', hmem', heq⟩ := List.mem_map.1 hfailure
  obtain ⟨hmem', hfailed⟩ := List.mem_filter.1 hmem'
  obtain rfl := List.inj_on_of_nodup_map (haligned.nodup_answers hlength) hmem' hmem heq
  simp [hok] at hfailed

lemma map_fst_failures_subset (haligned : Aligned commands indexes pending)
    (hlength : responses.length = pending.length) :
    (Sent.failures failed ⟨indexes, pending, some responses⟩).map Prod.fst ⊆ indexes := by
  have hsub : (Sent.failures failed ⟨indexes, pending, some responses⟩).Sublist
      (Sent.answers ⟨indexes, pending, some responses⟩) := List.filter_sublist
  have hmap := hsub.map Prod.fst
  rw [haligned.map_fst_answers hlength] at hmap
  exact hmap.subset

/-- What one call writes down. -/
lemma getElem?_collect (haligned : Aligned commands indexes pending)
    (hlength : responses.length = pending.length) (hfull : full.length = commands.length) :
    let sent : Sent κ ρ := ⟨indexes, pending, some responses⟩
    let full' := (collect failed full sent.answers).fullResponses
    (∀ i ∉ indexes, full'[i]? = full[i]?) ∧
      ∀ i ∈ indexes, i ∉ (sent.failures failed).map Prod.fst →
        ∃ cmd resp, (i, cmd, resp) ∈ sent.answers ∧ failed cmd resp = none ∧
          full'[i]? = some (some resp) := by
  intro sent full'
  refine ⟨fun i hi => getElem?_collect_of_failed fun answer hanswer heq => ?_,
    fun i hi hnext => ?_⟩
  · refine absurd ?_ hi
    rw [← haligned.map_fst_answers hlength, ← heq]
    exact List.mem_map_of_mem hanswer
  · obtain ⟨cmd, resp, hmem⟩ := exists_answer haligned hlength hi
    have hok : failed cmd resp = none := by
      by_contra hfailed
      exact hnext (List.mem_map.2 ⟨(i, cmd, resp), List.mem_filter.2
        ⟨hmem, Option.isSome_iff_ne_none.2 hfailed⟩, rfl⟩)
    obtain ⟨hlt, -⟩ := List.getElem?_eq_some_iff.1 (haligned.getElem?_of_mem hmem)
    exact ⟨cmd, resp, hmem, hok,
      getElem?_collect_of_ok (haligned.nodup_answers hlength) hmem hok (by omega)⟩

/-- A call that leaves something pending, and the attempts with what it leaves. -/
lemma RetriesFailures.cons {outcome : Outcome σ κ ρ} (haligned : Aligned commands indexes pending)
    (hlength : responses.length = pending.length) (hfull : full.length = commands.length)
    (h : let sent : Sent κ ρ := ⟨indexes, pending, some responses⟩
      RetriesFailures failed commands ((sent.failures failed).map Prod.fst)
        ((sent.failures failed).map fun answer => answer.2.1)
        (collect failed full sent.answers).fullResponses outcome) :
    RetriesFailures failed commands indexes pending full
      { outcome with sends := ⟨indexes, pending, some responses⟩ :: outcome.sends } := by
  have hsubset := @map_fst_failures_subset κ ρ failed commands pending indexes responses
    haligned hlength
  obtain ⟨hkept, hwritten⟩ := @getElem?_collect κ ρ failed commands pending indexes responses full
    haligned hlength hfull
  refine ⟨by simp, ?_, ?_, List.isChain_cons.2 ⟨h.first, h.next⟩,
    List.pairwise_cons.2 ⟨?_, h.settled⟩, fun full' hresult => ?_⟩
  · intro sent hsent
    rcases List.mem_cons.1 hsent with rfl | hsent
    · exact haligned
    · exact h.aligned sent hsent
  · intro sent hsent
    rcases List.mem_cons.1 hsent with rfl | hsent
    · exact List.Subset.refl _
    · exact List.Subset.trans (h.subset sent hsent) hsubset
  · intro sent hsent answer hanswer hok hmem
    exact notMem_failures haligned hlength hanswer hok (h.subset sent hsent hmem)
  · obtain ⟨hsize, hbefore, hnext⟩ := h.returns full' hresult
    refine ⟨hsize.trans (length_collect _ _), fun i hi => ?_, fun i hi => ?_⟩
    · rw [hbefore i fun hmem => hi (hsubset hmem), hkept i hi]
    · by_cases hfailed :
        i ∈ (Sent.failures failed ⟨indexes, pending, some responses⟩).map Prod.fst
      · obtain ⟨sent, hsent, hanswer⟩ := hnext i hfailed
        exact ⟨sent, List.mem_cons_of_mem _ hsent, hanswer⟩
      · obtain ⟨cmd, resp, hmem, hok, hget⟩ := hwritten i hi hfailed
        exact ⟨_, List.mem_cons_self, cmd, resp, hmem, hok, by rw [hbefore i hfailed, hget]⟩

lemma retriesFailures_loop (attempts : ℕ) {driver : σ} {reasons : Dict ℕ Error}
    (haligned : Aligned commands indexes pending) (hfull : full.length = commands.length) :
    RetriesFailures failed commands indexes pending full
      (onlyFailedLoop failed sender attempts driver full indexes pending reasons) := by
  induction attempts generalizing driver full indexes pending reasons with
  | zero =>
    rw [onlyFailedLoop]
    exact ⟨by simp, by simp, by simp, .nil, .nil, fun full' h => by cases h⟩
  | succ attempts ih =>
    rw [onlyFailedLoop]
    rcases hsend : sender.sendCommands driver pending with ⟨driver', _ | responses⟩
    · refine ⟨by simp, ?_, ?_, .singleton _, List.pairwise_singleton _ _,
        fun full' h => by cases h⟩
      · simpa using haligned
      · simp
    · have hlength := sender.length_eq hsend
      obtain ⟨hindexes, hcommands, -⟩ := @collect_answers κ ρ failed full
        ⟨indexes, pending, some responses⟩
      obtain ⟨hkept, hwritten⟩ := @getElem?_collect κ ρ failed commands pending indexes responses
        full haligned hlength hfull
      simp only [hindexes, hcommands]
      split
      case isTrue hnone =>
        refine ⟨by simp, by simpa using haligned, by simp, .singleton _,
          List.pairwise_singleton _ _, fun full' hresult => ?_⟩
        obtain rfl := Except.ok.inj hresult
        refine ⟨length_collect _ _, hkept, fun i hi => ⟨_, List.mem_singleton_self _, ?_⟩⟩
        refine hwritten i hi ?_
        rw [hnone]
        exact List.not_mem_nil
      case isFalse hsome =>
        refine RetriesFailures.cons haligned hlength hfull ?_
        exact @ih _ _ _ driver' _ (haligned.failures hlength)
          ((length_collect _ _).trans hfull)

/-- The errors that the last of the calls left, or those before it. -/
def lastReasons (failed : κ → ρ → Option Error) (before : List Error) (sends : List (Sent κ ρ)) :
    List Error :=
  match sends.getLast? with
  | none => before
  | some sent => sent.reasons failed

lemma lastReasons_cons (before : List Error) (sent : Sent κ ρ) (sends : List (Sent κ ρ)) :
    lastReasons failed before (sent :: sends) =
      lastReasons failed (sent.reasons failed) sends := by
  rw [lastReasons, lastReasons, List.getLast?_cons]
  cases sends.getLast? <;> rfl

/-- The errors are kept in the order of the commands. -/
lemma values_failedInfo (haligned : Aligned commands indexes pending)
    (hlength : responses.length = pending.length) :
    let sent : Sent κ ρ := ⟨indexes, pending, some responses⟩
    (Dict.ofPairs (collect failed full sent.answers).failedInfo).values = sent.reasons failed := by
  intro sent
  obtain ⟨-, -, hkeys, hreasons⟩ := @collect_answers κ ρ failed full sent
  rw [Dict.values, Dict.entries_ofPairs, hreasons]
  · rw [hkeys]
    exact (haligned.failures hlength).increasing.imp fun hlt => Nat.ne_of_lt hlt

/-- The function raises when the driver does or a command failed in every call; the error is
about silence if that is all the last call met. -/
lemma onlyFailedLoop_raises (attempts : ℕ) {driver : σ} {reasons : Dict ℕ Error}
    (haligned : Aligned commands indexes pending) (hfull : full.length = commands.length)
    (hne : indexes ≠ []) :
    let outcome := onlyFailedLoop failed sender attempts driver full indexes pending reasons
    outcome.sends.length ≤ attempts ∧
      ((∃ error, outcome.result = .error error) ↔
        (∃ sent ∈ outcome.sends, sent.responses = none) ∨
          outcome.sends.length = attempts ∧ ∃ i ∈ indexes, ∀ sent ∈ outcome.sends,
            i ∈ (sent.failures failed).map Prod.fst) ∧
      ∀ error, outcome.result = .error error →
        (error = .noAnswer ↔
          queryFailureError (lastReasons failed reasons.values outcome.sends) = .noAnswer) := by
  induction attempts generalizing driver full indexes pending reasons with
  | zero =>
    obtain ⟨i, hi⟩ := List.exists_mem_of_ne_nil _ hne
    refine ⟨le_rfl, iff_of_true ⟨_, rfl⟩ (.inr ⟨rfl, i, hi, by simp [onlyFailedLoop]⟩),
      fun error herror => ?_⟩
    obtain rfl := Except.error.inj herror
    rfl
  | succ attempts ih =>
    rw [onlyFailedLoop]
    rcases hsend : sender.sendCommands driver pending with ⟨driver', _ | responses⟩
    · refine ⟨by simp, iff_of_true ⟨_, rfl⟩ (.inl ⟨_, List.mem_singleton_self _, rfl⟩),
        fun error herror => ?_⟩
      obtain rfl := Except.error.inj herror
      simp [lastReasons, Sent.reasons, Sent.failures, Sent.answers, queryFailureError]
    · have hlength := sender.length_eq hsend
      obtain ⟨hindexes, hcommands, -⟩ := @collect_answers κ ρ failed full
        ⟨indexes, pending, some responses⟩
      simp only [hindexes, hcommands]
      split
      case isTrue hnone =>
        refine ⟨by simp, iff_of_false (by simp) ?_, fun error herror => by cases herror⟩
        rintro (⟨sent, hsent, hraised⟩ | ⟨-, i, -, hfailed⟩)
        · rw [List.mem_singleton.1 hsent] at hraised
          cases hraised
        · have hmem := hfailed _ (List.mem_singleton_self _)
          rw [hnone] at hmem
          cases hmem
      case isFalse hsome =>
        obtain ⟨hcount, hraises, herrors⟩ := @ih _ _ _ driver'
          (Dict.ofPairs (collect failed full
            (Sent.answers ⟨indexes, pending, some responses⟩)).failedInfo)
          (haligned.failures hlength) ((length_collect _ _).trans hfull) hsome
        refine ⟨Nat.succ_le_succ hcount, hraises.trans ?_, fun error herror => ?_⟩
        · rw [List.exists_mem_cons_iff, List.length_cons, Nat.add_right_cancel_iff]
          refine or_congr (by simp) (and_congr_right fun _ => ⟨?_, ?_⟩)
          -- what fails in the later calls was asked because it has failed in this one
          · rintro ⟨i, hi, hrest⟩
            exact ⟨i, map_fst_failures_subset haligned hlength hi,
              List.forall_mem_cons.2 ⟨hi, hrest⟩⟩
          · rintro ⟨i, -, hall⟩
            obtain ⟨hhead, hrest⟩ := List.forall_mem_cons.1 hall
            exact ⟨i, hhead, hrest⟩
        · rw [herrors error herror, lastReasons_cons, values_failedInfo haligned hlength]

lemma queryFailureError_reasons_eq_noAnswer_iff {sent : Sent κ ρ} :
    queryFailureError (sent.reasons failed) = .noAnswer ↔
      sent.failures failed ≠ [] ∧
        ∀ answer ∈ sent.failures failed, failed answer.2.1 answer.2.2 = some .noAnswer := by
  have hreason : ∀ answer ∈ sent.failures failed, ∃ reason,
      failed answer.2.1 answer.2.2 = some reason :=
    fun answer hanswer => Option.isSome_iff_exists.1 (List.mem_filter.1 hanswer).2
  have hnil : sent.reasons failed = [] ↔ sent.failures failed = [] := by
    rw [Sent.reasons, List.filterMap_eq_nil_iff, List.eq_nil_iff_forall_not_mem]
    refine forall_congr' fun answer => ⟨fun h hanswer => ?_, fun h hanswer => absurd hanswer h⟩
    obtain ⟨reason, hsome⟩ := hreason answer hanswer
    simp [h hanswer] at hsome
  have hall : (∀ reason ∈ sent.reasons failed, reason = .noAnswer) ↔
      ∀ answer ∈ sent.failures failed, failed answer.2.1 answer.2.2 = some .noAnswer := by
    constructor
    · intro h answer hanswer
      obtain ⟨reason, hsome⟩ := hreason answer hanswer
      rw [hsome, h reason (List.mem_filterMap.2 ⟨answer, hanswer, hsome⟩)]
    · intro h reason hmem
      obtain ⟨answer, hanswer, hsome⟩ := List.mem_filterMap.1 hmem
      rw [h answer hanswer] at hsome
      exact (Option.some.inj hsome).symm
  rw [queryFailureError]
  split
  case isTrue h => exact iff_of_true rfl ⟨mt hnil.2 h.1, hall.1 h.2⟩
  case isFalse h =>
    exact iff_of_false (by simp) fun hsilent => h ⟨mt hnil.1 hsilent.1, hall.2 hsilent.2⟩

end OnlyFailed

/-- `query_responses_retry_only_failed` sends again what failed and nothing else, whatever the
driver returns; it raises iff the driver does or a command failed in all attempts, and then a
`NoAnswerError` iff the last attempt failed by silence alone. -/
theorem retriesFailures_retryOnlyFailed {σ κ : Type*} (hasResponse : κ → Bool)
    (sender : Sender σ κ SendResponse) (driver : σ) (commands : List κ) :
    let failed := checkCommandFailed hasResponse
    let outcome := queryResponsesRetryOnlyFailed failed sender driver commands
    outcome.sends.length ≤ maxCommandRetries ∧
      RetriesFailures failed commands (List.range commands.length) commands
        (List.replicate commands.length none) outcome ∧
      ((∃ error, outcome.result = .error error) ↔
        (∃ sent ∈ outcome.sends, sent.responses = none) ∨
          outcome.sends.length = maxCommandRetries ∧ ∃ i < commands.length,
            ∀ sent ∈ outcome.sends, i ∈ (sent.failures failed).map Prod.fst) ∧
      ∀ error, outcome.result = .error error →
        (error = .noAnswer ↔ ∃ last, outcome.sends.getLast? = some last ∧
          last.failures failed ≠ [] ∧
          ∀ answer ∈ last.failures failed, Silence hasResponse answer.2.1 answer.2.2) := by
  intro failed outcome
  by_cases hempty : commands = []
  · have houtcome : outcome = ⟨driver, .ok [], []⟩ := if_pos hempty
    subst hempty
    rw [houtcome]
    refine ⟨Nat.zero_le _, ⟨by simp, by simp, by simp, .nil, .nil, fun full' hfull' => ?_⟩,
      by simp, fun error herror => by cases herror⟩
    obtain rfl := Except.ok.inj hfull'
    simp
  · have houtcome : outcome = onlyFailedLoop failed sender maxCommandRetries driver
        (List.replicate commands.length none) (List.range commands.length) commands ∅ :=
      if_neg hempty
    have hfull : (List.replicate commands.length (none : Option SendResponse)).length =
        commands.length := List.length_replicate
    have hne : List.range commands.length ≠ [] := by
      rw [Ne, List.range_eq_nil, List.length_eq_zero_iff]
      exact hempty
    have hretries := @retriesFailures_loop σ κ SendResponse failed sender commands commands _ _
      maxCommandRetries driver ∅ (aligned_range commands) hfull
    obtain ⟨hcount, hraises, herrors⟩ := @onlyFailedLoop_raises σ κ SendResponse failed sender
      commands commands _ _ maxCommandRetries driver ∅ (aligned_range commands) hfull hne
    rw [← houtcome] at hretries hcount hraises herrors
    refine ⟨hcount, hretries, ?_, fun error herror => ?_⟩
    · simpa only [List.mem_range] using hraises
    · rw [herrors error herror, lastReasons]
      cases outcome.sends.getLast? with
      | none => simp [queryFailureError]
      | some last =>
        simp only [queryFailureError_reasons_eq_noAnswer_iff, Option.some.injEq, exists_eq_left',
          failed, checkCommandFailed_eq_noAnswer_iff]

example : (queryResponsesRetryOnlyFailed (checkCommandFailed fun _ : ℕ => true) flakySender 0
    [0, 3, 1, 3]).sends.map (·.commands) = [[0, 3, 1, 3], [3, 3]] := by
  decide +kernel

/-! ### The model without the responses' indexes -/

section Device

variable {γ κ : Type*} [Device γ κ]

lemma zip_zip_eq {α β δ : Type*} (as : List α) (bs : List β) (ds : List δ) :
    (as.zip bs).zip ds = (as.zip (bs.zip ds)).map fun a => ((a.1, a.2.1), a.2.2) := by
  induction as generalizing bs ds with
  | nil => rfl
  | cons a as ih =>
    cases bs with
    | nil => rfl
    | cons b bs =>
      cases ds with
      | nil => rfl
      | cons d ds => simp [ih]

lemma collect_eq_foldl (full : List (Option Response)) (answers : List (ℕ × κ × Response)) :
    (collect (Settings.checkCommandFailed γ) full answers).fullResponses =
      (answers.map fun a => ((a.1, a.2.1), a.2.2)).foldl
        (fun full answer =>
          if Settings.checkCommandFailed γ answer.1.2 answer.2 = none then
            full.set answer.1.1 (some answer.2)
          else full) full := by
  induction answers generalizing full with
  | nil => rfl
  | cons answer answers ih =>
    obtain ⟨index, cmd, resp⟩ := answer
    rw [collect, List.map_cons, List.foldl_cons]
    cases hfailed : Settings.checkCommandFailed γ cmd resp with
    | none => simpa [hfailed] using ih (full.set index (some resp))
    | some reason => simpa [hfailed] using ih full

/-- The loop with two lists and the one over pairs do the same. -/
lemma onlyFailedLoop_deviceSender (outcomes : ℕ → ℕ → FrameOutcome) {commands : List κ}
    (attempts : ℕ) {device : γ} {full : List (Option Response)} {indexes : List ℕ}
    {pending : List κ} {reasons : Dict ℕ Error} (haligned : Aligned commands indexes pending) :
    let outcome := onlyFailedLoop (Settings.checkCommandFailed γ) (deviceSender outcomes) attempts
      (device, attempts) full indexes pending reasons
    let (device', result) :=
      retryOnlyFailedLoop outcomes attempts reasons.values device full (indexes.zip pending)
    outcome.driver.1 = device' ∧ outcome.result = result := by
  induction attempts generalizing device full indexes pending reasons with
  | zero => exact ⟨rfl, rfl⟩
  | succ attempts ih =>
    have hcommands : (indexes.zip pending).map Prod.snd = pending :=
      List.map_snd_zip haligned.length_eq.ge
    have hsender : (deviceSender outcomes).sendCommands (device, attempts + 1) pending =
        (((sendCommands device pending (outcomes attempts)).1, attempts),
          (sendCommands device pending (outcomes attempts)).2) := rfl
    rw [onlyFailedLoop, retryOnlyFailedLoop, hcommands, hsender]
    rcases hsend : sendCommands device pending (outcomes attempts) with ⟨device', _ | responses⟩
    · exact ⟨rfl, rfl⟩
    · have hlength := sendCommands_length hsend
      set sent : Sent κ Response := ⟨indexes, pending, some responses⟩ with hsent
      obtain ⟨hindexes, hpending, -⟩ :=
        @collect_answers κ Response (Settings.checkCommandFailed γ) full sent
      have hanswers : (indexes.zip pending).zip responses =
          sent.answers.map fun a => ((a.1, a.2.1), a.2.2) := zip_zip_eq indexes pending responses
      -- both go on with the failures of the call, with their indexes
      have hfailed : (((indexes.zip pending).zip responses).filter fun answer =>
          decide (Settings.checkCommandFailed γ answer.1.2 answer.2 ≠ none)) =
          (sent.failures (Settings.checkCommandFailed γ)).map
            fun a => ((a.1, a.2.1), a.2.2) := by
        rw [hanswers, List.filter_map, Sent.failures]
        refine congrArg _ (List.filter_congr fun answer _ => ?_)
        cases hcheck : Settings.checkCommandFailed γ answer.2.1 answer.2.2 <;> simp [hcheck]
      have hreasons := @values_failedInfo κ Response (Settings.checkCommandFailed γ) commands
        pending indexes responses full haligned hlength
      -- both write the other answers down
      have hfull : (collect (Settings.checkCommandFailed γ) full sent.answers).fullResponses =
          ((indexes.zip pending).zip responses).foldl
            (fun full answer =>
              if Settings.checkCommandFailed γ answer.1.2 answer.2 = none then
                full.set answer.1.1 (some answer.2)
              else full) full := by
        rw [hanswers]
        exact collect_eq_foldl full sent.answers
      have hpairs : ((sent.failures (Settings.checkCommandFailed γ)).map
          fun a => ((a.1, a.2.1), a.2.2)).map Prod.fst =
          ((sent.failures (Settings.checkCommandFailed γ)).map Prod.fst).zip
            ((sent.failures (Settings.checkCommandFailed γ)).map fun answer => answer.2.1) := by
        rw [List.map_map, List.zip_map']
        rfl
      have hnext := @ih device' (collect (Settings.checkCommandFailed γ) full
        sent.answers).fullResponses _ _ (Dict.ofPairs (collect (Settings.checkCommandFailed γ) full
          sent.answers).failedInfo)
        (@Aligned.failures κ Response (Settings.checkCommandFailed γ) commands pending indexes
          responses haligned hlength)
      simp only [← hsent] at hreasons hnext
      simp only [← hsent, hindexes, hpending, hfailed, List.map_eq_nil_iff, ← hfull, hpairs]
      by_cases hnone : sent.failures (Settings.checkCommandFailed γ) = []
      · simp only [if_pos hnone]
        exact ⟨trivial, trivial⟩
      · simp only [if_neg hnone]
        rw [hreasons] at hnext
        rw [List.filterMap_map]
        exact hnext

/-- Over a device, the bookkeeping by indexes does what the model without it does. -/
theorem retryOnlyFailed_deviceSender (outcomes : ℕ → ℕ → FrameOutcome) (device : γ)
    (commands : List κ) :
    let outcome := queryResponsesRetryOnlyFailed (Settings.checkCommandFailed γ)
      (deviceSender outcomes) (device, maxCommandRetries) commands
    let (device', result) := Settings.queryResponsesRetryOnlyFailed device commands outcomes
    outcome.driver.1 = device' ∧ outcome.result = result := by
  rw [queryResponsesRetryOnlyFailed, Settings.queryResponsesRetryOnlyFailed]
  by_cases hempty : commands = []
  · simp only [if_pos hempty]
    exact ⟨trivial, trivial⟩
  · simp only [if_neg hempty]
    have hloop := @onlyFailedLoop_deviceSender γ κ _ outcomes commands maxCommandRetries device
      (List.replicate commands.length none) _ _ ∅ (aligned_range commands)
    rw [List.map_const']
    exact hloop

end Device

end WbMqttDali.Settings.BatchRetries
