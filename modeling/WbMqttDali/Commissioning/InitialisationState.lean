import Mathlib
import WbMqttDali.Constants
import WbMqttDali.Lib.Coroutine

/-!
# INITIALISE and TERMINATE

`smart_extend` and `address_bus` send TERMINATE in the `finally` of their search.  They send
INITIALISE before its `try`, and `smart_extend` also RANDOMISE, a pause and queries after it:
an exception or a cancellation that arrives there leaves the devices initialised.  The parts
of the runs that are inside the `try` are arbitrary coroutines, apart from the loop that
randomises again.
-/

namespace WbMqttDali.Commissioning

/-- What the runs await. -/
inductive Request where
  /-- `_get_present_short_addresses` -/
  | presentShortAddresses
  /-- `get_random_address` of each of the devices. -/
  | randomAddresses (shorts : List ℕ)
  | terminate
  | initialise (short : Option ℕ)
  | randomise
  /-- For `RANDOMISE_SETTLE_TIME_S`. -/
  | sleep
  | other (request : ℕ)
  deriving DecidableEq, Repr

abbrev Request.Answer : Request → Type
  | presentShortAddresses => List ℕ
  | randomAddresses _ => List (Option ℕ)
  | other _ => ℕ
  | _ => Unit

abbrev Run (α : Type) : Type := Coroutine Request Request.Answer α

abbrev Log : Type := AwaitLog Request Request.Answer

open Coroutine (forEach)

def send (request : Request) : Run request.Answer := Coroutine.call request

/-! ### `smart_extend` -/

/-- The short addresses with the random addresses that have been read. -/
def knownRandomAddresses (shorts : List ℕ) (randoms : List (Option ℕ)) : List (ℕ × ℕ) :=
  (shorts.zip randoms).filterMap fun (short, random) => random.map (short, ·)

/-- Multiple devices share the random address, or it is not set. -/
def isRandomised (known : List (ℕ × ℕ)) (device : ℕ × ℕ) : Bool :=
  1 < (known.filter (·.2 = device.2)).length || device.2 = 0xFFFFFF

/-- The commands for one of the devices that are randomised after the poll. -/
def randomise (short : ℕ) : Run Unit := do
  send .terminate
  send (.initialise (some short))
  send .randomise

/-- `_randomise_by_short` -/
def randomiseByShort (short : Option ℕ) : Run Unit := do
  send .terminate
  send (.initialise short)
  send .randomise
  send .sleep

/-- The new random addresses of the devices that have been randomised. -/
def readAgain (shorts : List ℕ) : Run (List (Option ℕ)) :=
  if shorts = [] then pure [] else do
    send .sleep
    send (.randomAddresses shorts)

/-- `smart_extend` up to its `try`. -/
def pollBus : Run (List (ℕ × ℕ)) := do
  let present ← send .presentShortAddresses
  let randoms ← send (.randomAddresses present)
  let known := knownRandomAddresses present randoms
  let shorts := (known.filter (isRandomised known)).map Prod.fst
  forEach randomise shorts
  let again ← readAgain shorts
  send .terminate
  send (.initialise (some mask))
  return known.filter (!isRandomised known ·) ++ knownRandomAddresses shorts again

/-- The searches of `smart_extend`, of which each is given the conflicts that are known and returns
them with those that it has found. -/
def searchPasses (search : List (Option ℕ) → Run (List (Option ℕ))) :
    ℕ → List (Option ℕ) → Run Unit
  | 0, _ => pure ()
  | left + 1, conflicts => do
    let conflicts ← search conflicts
    if conflicts = [] ∨ left = 0 then pure () else do
      forEach randomiseByShort conflicts
      searchPasses search left []

/-- `smart_extend`, up to the classification of what it has found. -/
def smartExtend (withdrawKnown : List (ℕ × ℕ) → Run (List (Option ℕ)))
    (search : List (Option ℕ) → Run (List (Option ℕ))) : Run Unit := do
  let known ← pollBus
  Coroutine.tryFinally (do
    let conflicts ← withdrawKnown known
    searchPasses search 3 conflicts) (send .terminate)

/-- `address_bus` -/
def addressBus {α : Type} (addressGear : Run α) : Run α := do
  send .terminate
  send (.initialise (some mask))
  send .randomise
  send .sleep
  addressGear.tryFinally (send .terminate)

/-! ### The initialisation state -/

/-- Whether the request of an await has been made. -/
def isSent (e : Σ request, Outcome (Request.Answer request)) : Bool :=
  match e.2 with
  | .returns _ => true
  | .raises requested => requested

def initialisedAfter (initialised : Bool) (e : Σ request, Outcome (Request.Answer request)) :
    Bool :=
  match e.1 with
  | .initialise _ => initialised || isSent e
  | .terminate => initialised && !isSent e
  | _ => initialised

/-- Whether devices are left in the initialisation state. -/
def initialised (log : Log) : Bool := log.foldl initialisedAfter false

/-- If an INITIALISE was sent, a TERMINATE is sent after the last one. -/
def TerminatesAfterInitialise (log : Log) : Prop :=
  ∀ before short outcome after, log = before ++ ⟨.initialise short, outcome⟩ :: after →
    isSent ⟨.initialise short, outcome⟩ →
      ∃ answer, ⟨.terminate, answer⟩ ∈ after ∧ isSent ⟨.terminate, answer⟩

/-- Where a run may be interrupted for good: before it has initialised anything, at an INITIALISE
that is not sent yet and at a TERMINATE that is sent already or is not needed. -/
def IsHarmless (before : Log) : Request → Bool → Prop
  | .terminate, sent => sent ∨ initialised before = false
  | .initialise _, sent => ¬sent
  | .randomise, _ | .sleep, _ => False
  | .presentShortAddresses, _ | .randomAddresses _, _ | .other _, _ => initialised before = false

/-- The await with which the run ends is not interrupted, or it is a harmless one. -/
def EndsHarmlessly (log : Log) : Prop :=
  ∀ before request sent, log = before ++ [⟨request, .raises sent⟩] →
    IsHarmless before request sent

variable {log : Log}

@[simp] lemma initialised_append {e : Σ request, Outcome (Request.Answer request)} :
    initialised (log ++ [e]) = initialisedAfter (initialised log) e :=
  List.foldl_append

lemma initialisedAfter_eq_true {state : Bool} {e : Σ request, Outcome (Request.Answer request)} :
    initialisedAfter state e = true ↔
      (state = true ∧ ¬(e.1 = .terminate ∧ isSent e)) ∨ (∃ short, e.1 = .initialise short) ∧
        isSent e := by
  obtain ⟨request, outcome⟩ := e
  cases request <;> simp [initialisedAfter]

lemma initialised_eq_true_iff : initialised log = true ↔
    ∃ before short outcome after, log = before ++ ⟨.initialise short, outcome⟩ :: after ∧
      isSent ⟨.initialise short, outcome⟩ ∧
        ∀ answer, ⟨.terminate, answer⟩ ∈ after → ¬isSent ⟨.terminate, answer⟩ := by
  induction log using List.reverseRecOn with
  | nil =>
    refine iff_of_false nofun ?_
    rintro ⟨before, short, outcome, after, hlog, -⟩
    exact absurd hlog.symm (by simp)
  | append_singleton log e ih =>
    rw [initialised_append, initialisedAfter_eq_true, ih]
    constructor
    · rintro
        (⟨⟨before, short, outcome, after, rfl, hsent, hafter⟩, hnot⟩ | ⟨⟨short, hshort⟩, hsent⟩)
      · refine ⟨before, short, outcome, after ++ [e], by simp, hsent, fun answer hmem hanswer => ?_⟩
        rcases List.mem_append.1 hmem with hmem | hmem
        · exact hafter answer hmem hanswer
        · rw [← List.mem_singleton.1 hmem] at hnot
          exact hnot ⟨rfl, hanswer⟩
      · obtain ⟨request, outcome⟩ := e
        obtain rfl : request = .initialise short := hshort
        exact ⟨log, short, outcome, [], rfl, hsent, fun _ hmem => nomatch hmem⟩
    · rintro ⟨before, short, outcome, after, hlog, hsent, hafter⟩
      rcases List.eq_nil_or_concat after with rfl | ⟨after', e', rfl⟩
      · obtain ⟨rfl, heq⟩ := List.append_inj' hlog rfl
        obtain rfl := List.singleton_inj.1 heq
        exact .inr ⟨⟨short, rfl⟩, hsent⟩
      · rw [List.concat_eq_append] at hlog hafter
        rw [← List.cons_append, ← List.append_assoc] at hlog
        obtain ⟨rfl, heq⟩ := List.append_inj' hlog rfl
        obtain rfl := List.singleton_inj.1 heq
        refine .inl ⟨⟨before, short, outcome, after', rfl, hsent, fun answer hmem => ?_⟩, ?_⟩
        · exact hafter answer (List.mem_append_left _ hmem)
        · rintro ⟨hterminate, hanswer⟩
          obtain ⟨request, answer⟩ := e
          obtain rfl : request = .terminate := hterminate
          exact hafter answer (List.mem_append_right _ (List.mem_singleton_self _)) hanswer

lemma terminatesAfterInitialise_iff : TerminatesAfterInitialise log ↔ initialised log = false := by
  rw [← Bool.not_eq_true, initialised_eq_true_iff, TerminatesAfterInitialise]
  push Not
  rfl

/-! ### Interrupted runs -/

/-- The property and the condition under which a run has it agree on the log. -/
def Agrees (log : Log) : Prop := initialised log = false ↔ EndsHarmlessly log

lemma endsHarmlessly_append {request : Request} {outcome : Outcome request.Answer} :
    EndsHarmlessly (log ++ [⟨request, outcome⟩]) ↔
      ∀ sent, outcome = .raises sent → IsHarmless log request sent := by
  constructor
  · rintro h sent rfl
    exact h log request sent rfl
  · intro h before request' sent heq
    obtain ⟨rfl, hlast⟩ := List.append_inj' heq rfl
    cases List.singleton_inj.1 hlast
    exact h sent rfl

/-- An await that returns may be the last one if nothing is initialised after it. -/
lemma agrees_returns {request : Request} {answer : request.Answer}
    (h : initialised (log ++ [⟨request, .returns answer⟩]) = false) :
    Agrees (log ++ [⟨request, .returns answer⟩]) :=
  iff_of_true h (endsHarmlessly_append.2 nofun)

lemma agrees_raises {request : Request} {sent : Bool}
    (h : initialised (log ++ [⟨request, .raises sent⟩]) = false ↔ IsHarmless log request sent) :
    Agrees (log ++ [⟨request, .raises sent⟩]) := by
  refine h.trans (endsHarmlessly_append.trans ?_).symm
  constructor
  · exact fun hharmless => hharmless sent rfl
  · rintro hharmless sent' heq
    cases heq
    exact hharmless

/-- TERMINATE may be interrupted at any time. -/
lemma agrees_terminate (sent : Bool) : Agrees (log ++ [⟨.terminate, .raises sent⟩]) := by
  refine agrees_raises ?_
  rw [initialised_append]
  show (initialised log && !sent) = false ↔ sent = true ∨ initialised log = false
  cases sent <;> simp

/-- INITIALISE follows a TERMINATE. -/
lemma agrees_initialise {short : Option ℕ} (sent : Bool) (h : initialised log = false) :
    Agrees (log ++ [⟨.initialise short, .raises sent⟩]) := by
  refine agrees_raises ?_
  rw [initialised_append]
  show (initialised log || sent) = false ↔ ¬sent = true
  rw [h]
  cases sent <;> simp

lemma agrees_randomise (sent : Bool) (h : initialised log = true) :
    Agrees (log ++ [⟨.randomise, .raises sent⟩]) := by
  refine agrees_raises (iff_of_false ?_ id)
  rw [initialised_append]
  show ¬initialised log = false
  simp [h]

lemma agrees_sleep (sent : Bool) (h : initialised log = true) :
    Agrees (log ++ [⟨.sleep, .raises sent⟩]) := by
  refine agrees_raises (iff_of_false ?_ id)
  rw [initialised_append]
  show ¬initialised log = false
  simp [h]

/-- The `finally` ends a run as it should, whatever has been done before. -/
lemma ensures_tryFinally {α : Type} (body : Run α) : (body.tryFinally (send .terminate)).Ensures
    (fun _ log => Agrees log) Agrees log := by
  have hlast (log : Log) : (send .terminate).Ensures (fun _ log => Agrees log) Agrees log := by
    refine ⟨fun _ => agrees_returns ?_, agrees_terminate⟩
    rw [initialised_append]
    exact Bool.and_false _
  exact Coroutine.ensures_tryFinally.2
    (Coroutine.ensures_of_forall (fun _ log => hlast log) fun log => hlast log)

/-- TERMINATE and INITIALISE leave devices initialised. -/
lemma ensures_terminate_initialise {α : Type} {short : Option ℕ} {next : Run α}
    {Q : α → Log → Prop} (h : ∀ log, initialised log = true → next.Ensures Q Agrees log) :
    (do
      send .terminate
      send (.initialise short)
      next).Ensures Q Agrees log := by
  refine ⟨fun _ => ⟨fun _ => h _ ?_, fun sent => ?_⟩, agrees_terminate⟩
  · rw [initialised_append]
    exact Bool.or_true _
  · refine agrees_initialise sent ?_
    rw [initialised_append]
    exact Bool.and_false _

lemma ensures_randomise {short : ℕ} :
    (randomise short).Ensures (fun _ log => initialised log = true) Agrees log := by
  refine ensures_terminate_initialise fun log h =>
    ⟨fun _ => ?_, fun sent => agrees_randomise sent h⟩
  show initialised (log ++ _) = true
  rw [initialised_append]
  exact h

lemma ensures_readAgain {shorts : List ℕ} (h : shorts ≠ [] → initialised log = true) :
    (readAgain shorts).Ensures (fun _ _ => True) Agrees log := by
  unfold readAgain
  split
  case isTrue => exact trivial
  case isFalse hne =>
    refine ⟨fun _ => ⟨fun _ => trivial, fun sent => agrees_raises ?_⟩, fun sent =>
      agrees_sleep sent (h hne)⟩
    rw [initialised_append]
    rfl

/-- Each device that is randomised is terminated and initialised first, so that only an await that
is interrupted in between leaves it initialised. -/
lemma ensures_pollBus : pollBus.Ensures (fun _ _ => True) Agrees log := by
  have hread (request : Request) (sent : Bool) {log : Log}
      (hread : ∀ initialised, initialisedAfter initialised ⟨request, .raises sent⟩ = initialised)
      (hharmless : IsHarmless log request sent ↔ initialised log = false) :
      Agrees (log ++ [⟨request, .raises sent⟩]) := by
    refine agrees_raises ?_
    rw [initialised_append, hread]
    exact hharmless.symm
  refine ⟨fun present => ⟨fun randoms => ?_, fun sent => ?_⟩, fun sent => ?_⟩
  · show Coroutine.Ensures _ _ (Coroutine.bind (forEach randomise _) _) _
    refine Coroutine.ensures_bind.2 ((Coroutine.ensures_forEach
      (fun rest log => rest ≠ _ → initialised log = true) ?_ fun hne => absurd rfl hne).mono
        (fun _ log hlog => ?_) fun _ hagrees => hagrees)
    · exact fun short rest log _ => ensures_randomise.mono (fun _ _ h _ => h) fun _ h => h
    · refine Coroutine.ensures_bind.2 ((ensures_readAgain fun hne => hlog hne.symm).mono
        (fun _ log _ => ?_) fun _ hagrees => hagrees)
      exact ensures_terminate_initialise fun _ _ => trivial
  · exact hread _ sent (fun _ => rfl) Iff.rfl
  · exact hread _ sent (fun _ => rfl) Iff.rfl

lemma ensures_smartExtend {withdrawKnown : List (ℕ × ℕ) → Run (List (Option ℕ))}
    {search : List (Option ℕ) → Run (List (Option ℕ))} :
    (smartExtend withdrawKnown search).Ensures (fun _ log => Agrees log) Agrees [] :=
  Coroutine.ensures_bind.2 (ensures_pollBus.mono
    (fun _ _ _ => ensures_tryFinally _) fun _ hagrees => hagrees)

lemma ensures_addressBus {α : Type} {addressGear : Run α} :
    (addressBus addressGear).Ensures (fun _ log => Agrees log) Agrees [] := by
  refine ensures_terminate_initialise fun log h => ⟨fun _ => ⟨fun _ => ?_, fun sent => ?_⟩,
    fun sent => agrees_randomise sent h⟩
  · exact ensures_tryFinally _
  · refine agrees_sleep sent ?_
    rw [initialised_append]
    exact h

/-- A run that ends with a log on which the two agree. -/
lemma terminates_iff_of_ensures {α : Type} {run : Run α}
    (h : run.Ensures (fun _ log => Agrees log) Agrees [])
    (surroundings : Log → ∀ request : Request, Outcome request.Answer) :
    TerminatesAfterInitialise (run.run surroundings []).2 ↔
      EndsHarmlessly (run.run surroundings []).2 := by
  obtain ⟨hdone, hraised⟩ := h.run surroundings
  rw [terminatesAfterInitialise_iff]
  rcases hrun : run.run surroundings [] with ⟨_ | result, log⟩
  · exact hraised log hrun
  · exact hdone result log hrun

/-- A run leaves no device initialised exactly if the await at which it ends is not interrupted, or
harmlessly so: whatever the surroundings answer and where they interrupt it, and whatever is
done inside the `try`. -/
theorem terminatesAfterInitialise_iff_endsHarmlessly
    (withdrawKnown : List (ℕ × ℕ) → Run (List (Option ℕ)))
    (search : List (Option ℕ) → Run (List (Option ℕ))) {α : Type} (addressGear : Run α)
    (surroundings : Log → ∀ request : Request, Outcome request.Answer) :
    (TerminatesAfterInitialise ((smartExtend withdrawKnown search).run surroundings []).2 ↔
        EndsHarmlessly ((smartExtend withdrawKnown search).run surroundings []).2) ∧
      (TerminatesAfterInitialise ((addressBus addressGear).run surroundings []).2 ↔
        EndsHarmlessly ((addressBus addressGear).run surroundings []).2) :=
  ⟨terminates_iff_of_ensures ensures_smartExtend surroundings,
    terminates_iff_of_ensures ensures_addressBus surroundings⟩

/-- Two devices answer with one random address, and the run is cancelled in the pause after they
have been told to randomise. -/
def cancelledInPause : Log → ∀ request : Request, Outcome request.Answer
  | _, .presentShortAddresses => .returns [0, 1]
  | _, .randomAddresses shorts => .returns (shorts.map fun _ => some 0x14d1d4)
  | _, .sleep => .raises true
  | _, .other _ => .returns 0
  | _, .terminate | _, .initialise _ | _, .randomise => .returns ()

/-- Both runs leave devices initialised. -/
theorem not_terminatesAfterInitialise_cancelledInPause :
    ¬TerminatesAfterInitialise ((smartExtend (fun _ => pure []) pure).run cancelledInPause []).2 ∧
      ¬TerminatesAfterInitialise ((addressBus (pure ())).run cancelledInPause []).2 := by
  rw [terminatesAfterInitialise_iff, terminatesAfterInitialise_iff]
  constructor
  · decide
  · decide

end WbMqttDali.Commissioning
