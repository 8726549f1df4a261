import Mathlib
import WbMqttDali.Lib.Coroutine
import WbMqttDali.Lib.Literals

/-!
# The device types of control gear

`query_device_types_sequence` asks a gear for its device types: one query for
the first, and when there are several one for each next, until the gear answers
254 or stays silent.  Every query goes through `request_with_retry_sequence`.
-/

namespace WbMqttDali.Device.DeviceTypes

inductive Query where
  | queryDeviceType
  | queryNextDeviceType
  deriving DecidableEq

/-- What is sent into the generator for a query. -/
inductive Answer where
  | asInteger (value : Fin 256)
  | silence
  | garbled
  | transmissionError
  deriving DecidableEq

inductive Error where
  | noAnswer
  | runtime
  deriving DecidableEq

abbrev Sequence : Type → Type := Coroutine Query fun _ => Answer

abbrev Log : Type := AwaitLog Query fun _ => Answer

/-! ### The generators -/

/-- The loop of `request_with_retry_sequence`. -/
def retryLoop (cmd : Query) (retryFramingError : Bool) :
    ℕ → Bool → Sequence (Except Error (Fin 256))
  | 0, allSilent => .done (.error (if allSilent then .noAnswer else .runtime))
  | attempts + 1, allSilent => (Coroutine.call cmd).bind fun
    | .asInteger value => .done (.ok value)
    | .silence => retryLoop cmd retryFramingError attempts allSilent
    | .garbled =>
      if retryFramingError then retryLoop cmd retryFramingError attempts false
      else .done (.error .runtime)
    | .transmissionError => retryLoop cmd retryFramingError attempts false

/-- `request_with_retry_sequence` -/
def requestWithRetrySequence (cmd : Query) (retryFramingError : Bool) :
    Sequence (Except Error (Fin 256)) :=
  retryLoop cmd retryFramingError 3 true

/-- The `while True` of `query_device_types_sequence`; none if the fuel runs out. -/
def nextTypesLoop : ℕ → ℤ → List ℕ → Sequence (Option (Except Error (List ℕ)))
  | 0, _, _ => .done none
  | fuel + 1, lastSeen, result =>
    (requestWithRetrySequence .queryNextDeviceType false).bind fun
      | .error .noAnswer =>
        -- gear that stays silent instead of answering 254
        if result.length = 0 then .done (some (.error .noAnswer)) else .done (some (.ok result))
      | .error .runtime => .done (some (.error .runtime))
      | .ok value =>
        if value = 254 then
          if result.length = 0 then .done (some (.error .runtime)) else .done (some (.ok result))
        else if (value.val : ℤ) ≤ lastSeen then .done (some (.error .runtime))
        else nextTypesLoop fuel value.val (result ++ [value.val])

/-- `query_device_types_sequence` -/
def queryDeviceTypesSequence (fuel : ℕ) : Sequence (Option (Except Error (List ℕ))) :=
  (requestWithRetrySequence .queryDeviceType true).bind fun
    | .error error => .done (some (.error error))
    | .ok value =>
      if value.val < 254 then .done (some (.ok [value.val]))
      else if value = 254 then .done (some (.ok []))
      else if value ≠ 255 then .done (some (.error .runtime))
      else nextTypesLoop fuel (-1) []

/-- The types only grow, so with this much fuel the loop is the one without a bound. -/
lemma nextTypesLoop_fuel {fuel fuel' : ℕ} {lastSeen : ℤ} {result : List ℕ}
    (hle : lastSeen ≤ 255) (h : 255 < fuel + lastSeen) (h' : 255 < fuel' + lastSeen) :
    nextTypesLoop fuel lastSeen result = nextTypesLoop fuel' lastSeen result := by
  induction fuel generalizing fuel' lastSeen result with
  | zero => omega
  | succ fuel ih =>
    cases fuel' with
    | zero => omega
    | succ fuel' =>
      refine congrArg (Coroutine.bind _) (funext fun answer => ?_)
      rcases answer with (_ | _) | value
      · rfl
      · rfl
      · have hvalue := value.isLt
        by_cases hend : value = 254
        · simp only [if_pos hend]
        · by_cases hseen : (value.val : ℤ) ≤ lastSeen
          · simp only [if_neg hend, if_pos hseen]
          · simp only [if_neg hend, if_neg hseen]
            exact ih (by omega) (by omega) (by omega)

theorem queryDeviceTypesSequence_fuel (fuel : ℕ) :
    queryDeviceTypesSequence (257 + fuel) = queryDeviceTypesSequence 257 := by
  have hloop : nextTypesLoop (257 + fuel) (-1) [] = nextTypesLoop 257 (-1) [] :=
    nextTypesLoop_fuel (by omega) (by omega) (by omega)
  rw [queryDeviceTypesSequence, queryDeviceTypesSequence, hloop]

/-! ### What the answers list -/

/-- Answers after which a query is yielded again. -/
def Retried (retryFramingError : Bool) (answers : List Answer) : Prop :=
  answers.length < 3 ∧ ∀ answer ∈ answers, answer = .silence ∨ answer = .transmissionError ∨
    retryFramingError ∧ answer = .garbled

/-- The answers that end a list of types. -/
def EndsList (answers : List Answer) : Prop :=
  (∃ retried, Retried false retried ∧ answers = retried ++ [.asInteger 254]) ∨
    answers = List.replicate 3 .silence

/-- The types that a sequence of answers to `QueryNextDeviceType` lists, in order. -/
inductive Lists : ℤ → List Answer → List ℕ → Prop
  | ends {lastSeen : ℤ} {answers : List Answer} (h : EndsList answers) : Lists lastSeen answers []
  | type {lastSeen : ℤ} {retried answers : List Answer} {value : Fin 256} {types : List ℕ}
      (hretried : Retried false retried) (hlt : lastSeen < value.val) (hne : value ≠ 254)
      (h : Lists value.val answers types) :
      Lists lastSeen (retried ++ .asInteger value :: answers) (value.val :: types)

/-- The answers list 255 as the last type. -/
inductive ListsMask : ℤ → List Answer → Prop
  | mask {lastSeen : ℤ} {retried ending : List Answer} (hretried : Retried false retried)
      (hend : EndsList ending) : ListsMask lastSeen (retried ++ .asInteger 255 :: ending)
  | type {lastSeen : ℤ} {retried answers : List Answer} {value : Fin 256}
      (hretried : Retried false retried) (hlt : lastSeen < value.val) (hvalue : value.val < 254)
      (h : ListsMask value.val answers) :
      ListsMask lastSeen (retried ++ .asInteger value :: answers)

/-- The readable answers in front of the end of the list; a first 255 stands for several types. -/
def listed : List ℕ → List ℕ
  | 255 :: types => types.takeWhile (· ≠ 254)
  | types => types.takeWhile (· ≠ 254)

def Answer.readable : Answer → Option ℕ
  | .asInteger value => some value.val
  | _ => none

lemma filterMap_readable_retried {retryFramingError : Bool} {retried : List Answer}
    (h : Retried retryFramingError retried) : retried.filterMap Answer.readable = [] := by
  refine List.filterMap_eq_nil_iff.2 fun answer hanswer => ?_
  rcases h.2 answer hanswer with rfl | rfl | ⟨-, rfl⟩ <;> rfl

lemma Retried.garbled_notMem {retried : List Answer} (h : Retried false retried) :
    .garbled ∉ retried := by
  intro hmem
  rcases h.2 _ hmem with heq | heq | ⟨heq, -⟩ <;> cases heq

lemma EndsList.garbled_notMem {answers : List Answer} (h : EndsList answers) :
    .garbled ∉ answers := by
  rcases h with ⟨retried, hretried, rfl⟩ | rfl
  · simpa using hretried.garbled_notMem
  · simp

lemma EndsList.takeWhile {answers : List Answer} (h : EndsList answers) :
    (answers.filterMap Answer.readable).takeWhile (· ≠ 254) = [] := by
  rcases h with ⟨retried, hretried, rfl⟩ | rfl
  · rw [List.filterMap_append, filterMap_readable_retried hretried]
    rfl
  · rfl

section Lists

variable {lastSeen : ℤ} {answers : List Answer} {types : List ℕ}

lemma Lists.takeWhile (h : Lists lastSeen answers types) :
    (answers.filterMap Answer.readable).takeWhile (· ≠ 254) = types := by
  induction h with
  | ends h => exact h.takeWhile
  | @type lastSeen retried answers value types hretried hlt hne h ih =>
    have hvalue : value.val ≠ 254 := fun heq => hne (Fin.ext heq)
    have hreadable : (Answer.asInteger value).readable = some value.val := rfl
    rw [List.filterMap_append, filterMap_readable_retried hretried, List.nil_append,
      List.filterMap_cons_some hreadable, List.takeWhile_cons_of_pos (by simpa using hvalue), ih]

lemma Lists.garbled_notMem (h : Lists lastSeen answers types) : .garbled ∉ answers := by
  induction h with
  | ends h => exact h.garbled_notMem
  | type hretried hlt hne h ih =>
    simpa using ⟨hretried.garbled_notMem, ih⟩

/-- The types ascend from the last one seen. -/
lemma Lists.pairwise (h : Lists lastSeen answers types) :
    types.Pairwise (· < ·) ∧ ∀ type ∈ types, lastSeen < type := by
  induction h with
  | ends h => exact ⟨.nil, by simp⟩
  | @type lastSeen retried answers value types hretried hlt hne h ih =>
    obtain ⟨hpairwise, habove⟩ := ih
    refine ⟨List.pairwise_cons.2 ⟨fun type hmem => ?_, hpairwise⟩, fun type hmem => ?_⟩
    · exact_mod_cast habove type hmem
    · rcases List.mem_cons.1 hmem with rfl | hmem
      · exact hlt
      · exact hlt.trans (habove type hmem)

/-- Nothing can follow 255. -/
lemma Lists.endsList (h : Lists lastSeen answers types) (hlast : 255 ≤ lastSeen) :
    EndsList answers ∧ types = [] := by
  cases h with
  | ends h => exact ⟨h, rfl⟩
  | @type lastSeen retried answers value types hretried hlt hne h =>
    have hvalue := value.isLt
    omega

/-- A type beyond 253 is 255, and the last of the list. -/
lemma Lists.le_or_listsMask (h : Lists lastSeen answers types) :
    (∀ type ∈ types, type ≤ 253) ∨ ListsMask lastSeen answers := by
  induction h with
  | ends h => exact .inl (by simp)
  | @type lastSeen retried answers value types hretried hlt hne h ih =>
    by_cases hvalue : value.val < 254
    · rcases ih with hall | hmask
      · refine .inl fun type hmem => ?_
        rcases List.mem_cons.1 hmem with rfl | hmem
        · omega
        · exact hall type hmem
      · exact .inr (.type hretried hlt hvalue hmask)
    · have hbyte := value.isLt
      have h254 : value.val ≠ 254 := fun heq => hne (Fin.ext heq)
      obtain rfl : value = 255 := Fin.ext (by show value.val = 255; omega)
      exact .inr (.mask hretried (h.endsList le_rfl).1)

lemma ListsMask.exists_lists (h : ListsMask lastSeen answers) (hlast : lastSeen < 255) :
    ∃ types, Lists lastSeen answers types ∧ 255 ∈ types := by
  induction h with
  | mask hretried hend =>
    exact ⟨[255], .type hretried hlast (by decide) (.ends hend), List.mem_singleton_self _⟩
  | @type lastSeen retried answers value hretried hlt hvalue h ih =>
    obtain ⟨types, hlists, hmem⟩ := ih (by omega)
    have hne : value ≠ 254 := by
      rintro rfl
      exact absurd hvalue (by decide)
    exact ⟨value.val :: types, .type hretried hlt hne hlists, List.mem_cons_of_mem _ hmem⟩

end Lists

/-! ### What the generators do -/

/-- The log of a query that was given these answers. -/
def answered (cmd : Query) (answers : List Answer) : Log :=
  answers.map fun answer => ⟨cmd, .returns answer⟩

lemma answered_cons (cmd : Query) (answer : Answer) (answers : List Answer) :
    answered cmd (answer :: answers) = ⟨cmd, .returns answer⟩ :: answered cmd answers := rfl

lemma answered_append (cmd : Query) (answers answers' : List Answer) :
    answered cmd (answers ++ answers') = answered cmd answers ++ answered cmd answers' :=
  List.map_append

@[simp] lemma length_answered (cmd : Query) (answers : List Answer) :
    (answered cmd answers).length = answers.length := List.length_map _

/-- The generator was closed, or something else raised at a yield. -/
def Interrupted (log : Log) : Prop := ∃ cmd requested, ⟨cmd, .raises requested⟩ ∈ log

/-- How `request_with_retry_sequence` can end with so many attempts left. -/
def RetryEnds (retryFramingError : Bool) (attempts : ℕ) (allSilent : Bool)
    (answers : List Answer) : Except Error (Fin 256) → Prop
  | .ok value => ∃ retried, answers = retried ++ [.asInteger value] ∧ retried.length < attempts ∧
    ∀ answer ∈ retried, answer = .silence ∨ answer = .transmissionError ∨
      retryFramingError ∧ answer = .garbled
  | .error .noAnswer => allSilent ∧ answers = List.replicate attempts .silence
  | .error .runtime => True

lemma RetryEnds.cons {retryFramingError allSilent allSilent' : Bool} {attempts : ℕ}
    {answer : Answer} {answers : List Answer} {result : Except Error (Fin 256)}
    (hanswer : answer = .silence ∨ answer = .transmissionError ∨
      retryFramingError ∧ answer = .garbled)
    (hsilent : allSilent' = true → allSilent = true ∧ answer = .silence)
    (h : RetryEnds retryFramingError attempts allSilent' answers result) :
    RetryEnds retryFramingError (attempts + 1) allSilent (answer :: answers) result := by
  match result with
  | .ok value =>
    obtain ⟨retried, rfl, hlength, hretried⟩ := h
    refine ⟨answer :: retried, rfl, by simpa using hlength, fun answer' hmem => ?_⟩
    rcases List.mem_cons.1 hmem with rfl | hmem
    · exact hanswer
    · exact hretried answer' hmem
  | .error .noAnswer =>
    obtain ⟨hall, rfl⟩ := h
    obtain ⟨hall, rfl⟩ := hsilent hall
    exact ⟨hall, rfl⟩
  | .error .runtime => trivial

lemma ensures_retryLoop (cmd : Query) (retryFramingError : Bool) (attempts : ℕ) (allSilent : Bool)
    (log : Log) :
    (retryLoop cmd retryFramingError attempts allSilent).Ensures
      (fun result log' => ∃ answers, log' = log ++ answered cmd answers ∧
        answers.length ≤ attempts ∧ RetryEnds retryFramingError attempts allSilent answers result)
      Interrupted log := by
  induction attempts generalizing allSilent log with
  | zero =>
    refine ⟨[], by simp [answered], le_rfl, ?_⟩
    cases allSilent with
    | true => exact ⟨rfl, rfl⟩
    | false => trivial
  | succ attempts ih =>
    -- the answer to this attempt, in front of those to the attempts that are left
    have hretry : ∀ answer allSilent', (answer = .silence ∨ answer = .transmissionError ∨
          retryFramingError ∧ answer = .garbled) →
        (allSilent' = true → allSilent = true ∧ answer = .silence) →
        (retryLoop cmd retryFramingError attempts allSilent').Ensures
          (fun result log' => ∃ answers, log' = log ++ answered cmd answers ∧
            answers.length ≤ attempts + 1 ∧
            RetryEnds retryFramingError (attempts + 1) allSilent answers result)
          Interrupted (log ++ [⟨cmd, .returns answer⟩]) := by
      intro answer allSilent' hanswer hsilent
      refine (ih allSilent' _).mono ?_ fun _ hinterrupted => hinterrupted
      rintro result log' ⟨answers, rfl, hlength, hends⟩
      refine ⟨answer :: answers, ?_, by simpa using hlength, hends.cons hanswer hsilent⟩
      rw [answered_cons, List.append_assoc, List.singleton_append]
    rw [retryLoop, Coroutine.ensures_bind, Coroutine.ensures_call]
    refine ⟨fun answer => ?_, fun requested => ⟨cmd, requested, by simp⟩⟩
    cases answer with
    | asInteger value =>
      exact ⟨[.asInteger value], rfl, by simp, [], rfl, Nat.succ_pos _, by simp⟩
    | silence => exact hretry .silence allSilent (.inl rfl) fun h => ⟨h, rfl⟩
    | garbled =>
      by_cases hretryFraming : retryFramingError = true
      · simp only [if_pos hretryFraming]
        exact hretry .garbled false (.inr (.inr ⟨hretryFraming, rfl⟩)) (by simp)
      · simp only [if_neg hretryFraming]
        exact ⟨[.garbled], rfl, by simp, trivial⟩
    | transmissionError => exact hretry .transmissionError false (.inr (.inl rfl)) (by simp)

/-- A list that the loop returns is the one that its answers list, after at most three yields
for each type that may follow. -/
lemma ensures_nextTypesLoop {fuel : ℕ} {lastSeen : ℤ} (result : List ℕ) (log : Log)
    (hle : lastSeen ≤ 255) (hfuel : 255 < fuel + lastSeen) :
    (nextTypesLoop fuel lastSeen result).Ensures
      (fun ended log' => ∃ answers, log' = log ++ answered .queryNextDeviceType answers ∧
        (answers.length : ℤ) ≤ 3 * (256 - lastSeen) ∧ ended ≠ none ∧
        ∀ types, ended = some (.ok types) →
          ∃ rest, types = result ++ rest ∧ Lists lastSeen answers rest)
      Interrupted log := by
  induction fuel generalizing lastSeen result log with
  | zero => omega
  | succ fuel ih =>
    rw [nextTypesLoop, Coroutine.ensures_bind]
    refine (ensures_retryLoop _ _ _ _ log).mono ?_ fun _ hinterrupted => hinterrupted
    rintro answer log' ⟨answers, rfl, hlength, hends⟩
    have hcount : (answers.length : ℤ) ≤ 3 * (256 - lastSeen) := by omega
    rcases answer with (_ | _) | value
    · -- three silences
      obtain ⟨-, rfl⟩ := hends
      by_cases hresult : result.length = 0
      · simp only [if_pos hresult]
        exact ⟨_, rfl, hcount, by simp, fun types h => by cases h⟩
      · simp only [if_neg hresult]
        refine ⟨_, rfl, hcount, by simp, fun types h => ⟨[], ?_, .ends (.inr rfl)⟩⟩
        obtain rfl : result = types := by simpa using h
        simp
    · exact ⟨_, rfl, hcount, by simp, fun types h => by cases h⟩
    · obtain ⟨retried, rfl, hattempts, hretried⟩ := hends
      have hvalue := value.isLt
      by_cases hend : value = 254
      · subst hend
        simp only [if_true]
        by_cases hresult : result.length = 0
        · simp only [if_pos hresult]
          exact ⟨_, rfl, hcount, by simp, fun types h => by cases h⟩
        · simp only [if_neg hresult]
          refine ⟨_, rfl, hcount, by simp, fun types h =>
            ⟨[], ?_, .ends (.inl ⟨retried, ⟨hattempts, hretried⟩, rfl⟩)⟩⟩
          obtain rfl : result = types := by simpa using h
          simp
      · by_cases hseen : (value.val : ℤ) ≤ lastSeen
        · simp only [if_neg hend, if_pos hseen]
          exact ⟨_, rfl, hcount, by simp, fun types h => by cases h⟩
        · simp only [if_neg hend, if_neg hseen]
          refine (ih (result ++ [value.val]) _ (by omega) (by omega)).mono ?_
            fun _ hinterrupted => hinterrupted
          rintro ended log' ⟨answers, rfl, hlength', hnone, htypes⟩
          refine ⟨retried ++ .asInteger value :: answers, ?_, ?_, hnone, fun types h => ?_⟩
          · rw [List.append_assoc, ← answered_append, List.append_assoc, List.singleton_append]
          · rw [List.length_append, List.length_singleton] at hlength
            rw [List.length_append, List.length_cons]
            push_cast
            omega
          · obtain ⟨rest, rfl, hlists⟩ := htypes types h
            exact ⟨value.val :: rest, by simp,
              .type ⟨hattempts, hretried⟩ (by omega) hend hlists⟩

/-! ### Runs on a sequence of answers -/

/-- The surroundings that send in the answers of a sequence, one by one. -/
def fed (feed : ℕ → Answer) : Log → Query → Outcome Answer :=
  fun log _ => .returns (feed log.length)

/-- The sequence has these answers from an index on. -/
def Gives (feed : ℕ → Answer) : ℕ → List Answer → Prop
  | _, [] => True
  | k, answer :: answers => feed k = answer ∧ Gives feed (k + 1) answers

/-- The log holds the answers of the sequence from an index on. -/
def Logs (feed : ℕ → Answer) : ℕ → Log → Prop
  | _, [] => True
  | k, entry :: log => entry.2 = .returns (feed k) ∧ Logs feed (k + 1) log

section Fed

variable {feed : ℕ → Answer} {log : Log}

lemma gives_append {k : ℕ} {answers answers' : List Answer} :
    Gives feed k (answers ++ answers') ↔
      Gives feed k answers ∧ Gives feed (k + answers.length) answers' := by
  induction answers generalizing k with
  | nil => simp [Gives]
  | cons answer answers ih =>
    simp only [List.cons_append, Gives, ih, List.length_cons, and_assoc]
    rw [Nat.add_right_comm, Nat.add_assoc]

lemma logs_append {k : ℕ} {log' : Log} :
    Logs feed k (log ++ log') ↔ Logs feed k log ∧ Logs feed (k + log.length) log' := by
  induction log generalizing k with
  | nil => simp [Logs]
  | cons entry log ih =>
    simp only [List.cons_append, Logs, ih, List.length_cons, and_assoc]
    rw [Nat.add_right_comm, Nat.add_assoc]

lemma logs_answered {k : ℕ} {cmd : Query} {answers : List Answer} :
    Logs feed k (answered cmd answers) ↔ Gives feed k answers := by
  induction answers generalizing k with
  | nil => exact Iff.rfl
  | cons answer answers ih =>
    rw [answered_cons, Logs, Gives, ih]
    simp [eq_comm]

lemma Logs.not_interrupted {k : ℕ} (h : Logs feed k log) : ¬Interrupted log := by
  induction log generalizing k with
  | nil => simp [Interrupted]
  | cons entry log ih =>
    rintro ⟨cmd, requested, hmem⟩
    rcases List.mem_cons.1 hmem with rfl | hmem
    · cases h.1
    · exact ih h.2 ⟨cmd, requested, hmem⟩

/-- A run logs the answers in the order of the sequence. -/
lemma logs_run {α : Type} (sequence : Sequence α) (h : Logs feed 0 log) :
    Logs feed 0 (sequence.run (fed feed) log).2 := by
  induction sequence generalizing log with
  | done result => exact h
  | raised => exact h
  | await request answered interrupted ih ih' =>
    exact ih _ (logs_append.2 ⟨h, by rw [Nat.zero_add]; exact ⟨rfl, trivial⟩⟩)

lemma run_retryLoop_ok {cmd : Query} {retryFramingError : Bool} {attempts : ℕ} (allSilent : Bool)
    {retried : List Answer} {value : Fin 256} (hlength : retried.length < attempts)
    (hretried : ∀ answer ∈ retried, answer = .silence ∨ answer = .transmissionError ∨
      retryFramingError ∧ answer = .garbled)
    (hgives : Gives feed log.length (retried ++ [.asInteger value])) :
    (retryLoop cmd retryFramingError attempts allSilent).run (fed feed) log =
      (some (.ok value), log ++ answered cmd (retried ++ [.asInteger value])) := by
  induction retried generalizing attempts allSilent log with
  | nil =>
    cases attempts with
    | zero => cases hlength
    | succ attempts =>
      have hcall : (Coroutine.call cmd).run (fed feed) log =
          (some (.asInteger value), log ++ answered cmd [.asInteger value]) := by
        rw [← hgives.1]
        rfl
      rw [retryLoop, Coroutine.run_bind, hcall]
      rfl
  | cons answer retried ih =>
    cases attempts with
    | zero => cases hlength
    | succ attempts =>
      obtain ⟨hanswer, hrest⟩ := List.forall_mem_cons.1 hretried
      rw [List.cons_append, Gives] at hgives
      have hcall : (Coroutine.call cmd).run (fed feed) log =
          (some answer, log ++ [⟨cmd, .returns answer⟩]) := by
        rw [← hgives.1]
        rfl
      have hnext : ∀ allSilent, (retryLoop cmd retryFramingError attempts allSilent).run (fed feed)
          (log ++ [⟨cmd, .returns answer⟩]) =
            (some (.ok value), log ++ answered cmd (answer :: retried ++ [.asInteger value])) := by
        intro allSilent
        rw [ih allSilent (by simpa using hlength) hrest (by simpa using hgives.2)]
        simp [answered]
      rw [retryLoop, Coroutine.run_bind, hcall]
      rcases hanswer with rfl | rfl | ⟨hframing, rfl⟩
      · exact hnext allSilent
      · exact hnext false
      · simp only [if_pos hframing]
        exact hnext false

lemma run_retryLoop_silent {cmd : Query} {retryFramingError : Bool} {attempts : ℕ}
    (hgives : Gives feed log.length (List.replicate attempts .silence)) :
    (retryLoop cmd retryFramingError attempts true).run (fed feed) log =
      (some (.error .noAnswer), log ++ answered cmd (List.replicate attempts .silence)) := by
  induction attempts generalizing log with
  | zero => simp [retryLoop, Coroutine.run, answered]
  | succ attempts ih =>
    rw [List.replicate_succ, Gives] at hgives
    have hcall : (Coroutine.call cmd).run (fed feed) log =
        (some .silence, log ++ [⟨cmd, .returns .silence⟩]) := by
      rw [← hgives.1]
      rfl
    rw [retryLoop, Coroutine.run_bind, hcall]
    simp only
    rw [ih (by simpa using hgives.2)]
    simp [answered, List.replicate_succ]

/-- The loop returns what the answers list. -/
lemma run_nextTypesLoop {lastSeen : ℤ} {answers : List Answer} {rest : List ℕ}
    (h : Lists lastSeen answers rest) {fuel : ℕ} {result : List ℕ} (hle : lastSeen ≤ 255)
    (hfuel : 255 < fuel + lastSeen) (hne : result ++ rest ≠ [])
    (hgives : Gives feed log.length answers) :
    (nextTypesLoop fuel lastSeen result).run (fed feed) log =
      (some (some (.ok (result ++ rest))), log ++ answered .queryNextDeviceType answers) := by
  induction h generalizing fuel result log with
  | @ends lastSeen answers h =>
    cases fuel with
    | zero => omega
    | succ fuel =>
      have hresult : result.length ≠ 0 := by simpa using hne
      rw [nextTypesLoop, Coroutine.run_bind, requestWithRetrySequence]
      rcases h with ⟨retried, ⟨hlength, hretried⟩, rfl⟩ | rfl
      · rw [run_retryLoop_ok true hlength hretried hgives]
        simp [hresult, Coroutine.run]
      · rw [run_retryLoop_silent hgives]
        simp [hresult, Coroutine.run]
  | @type lastSeen retried answers value types hretried hlt hvalue h ih =>
    cases fuel with
    | zero => omega
    | succ fuel =>
      have hbyte := value.isLt
      have hsplit : retried ++ .asInteger value :: answers =
          (retried ++ [.asInteger value]) ++ answers := by simp
      rw [hsplit, gives_append] at hgives
      have hseen : ¬(value.val : ℤ) ≤ lastSeen := by omega
      rw [nextTypesLoop, Coroutine.run_bind, requestWithRetrySequence,
        run_retryLoop_ok true hretried.1 hretried.2 hgives.1]
      simp only [if_neg hvalue, if_neg hseen]
      rw [ih (by omega) (by omega) (by simp) (by simpa using hgives.2)]
      simp [answered]

end Fed

/-- The readable answers of a run, in order. -/
def readable (log : Log) : List ℕ :=
  log.filterMap fun entry =>
    match entry.2 with
    | .returns answer => answer.readable
    | .raises _ => none

/-- A run ends, and a list it returns holds device types only, all the readable answers in front
of the end of the list; none was skipped. -/
structure ReturnsTypes (run : Option (Option (Except Error (List ℕ))) × Log) : Prop where
  ends : ∃ ended, run.1 = some (some ended)
  length_le : run.2.length ≤ 3 * 258
  ascending : ∀ types, run.1 = some (some (.ok types)) → types.Pairwise (· < ·)
  le : ∀ types, run.1 = some (some (.ok types)) → ∀ type ∈ types, type ≤ 253
  exact : ∀ types, run.1 = some (some (.ok types)) → types = listed (readable run.2)
  unskipped : ∀ types, run.1 = some (some (.ok types)) →
    ⟨.queryNextDeviceType, .returns .garbled⟩ ∉ run.2

/-- The answers of a run that returns types. -/
inductive Returned : Log → List ℕ → Prop
  | one {retried : List Answer} {value : Fin 256} (hretried : Retried true retried)
      (h : value.val < 254) :
      Returned (answered .queryDeviceType (retried ++ [.asInteger value])) [value.val]
  | none {retried : List Answer} (hretried : Retried true retried) :
      Returned (answered .queryDeviceType (retried ++ [.asInteger 254])) []
  | several {retried answers : List Answer} {types : List ℕ} (hretried : Retried true retried)
      (h : Lists (-1) answers types) :
      Returned (answered .queryDeviceType (retried ++ [.asInteger 255]) ++
        answered .queryNextDeviceType answers) types

lemma readable_append (log log' : Log) : readable (log ++ log') = readable log ++ readable log' :=
  List.filterMap_append

lemma readable_answered (cmd : Query) (answers : List Answer) :
    readable (answered cmd answers) = answers.filterMap Answer.readable :=
  List.filterMap_map

lemma readable_first {cmd : Query} {retryFramingError : Bool} {retried : List Answer}
    {value : Fin 256} (h : Retried retryFramingError retried) :
    readable (answered cmd (retried ++ [.asInteger value])) = [value.val] := by
  rw [readable_answered, List.filterMap_append, filterMap_readable_retried h]
  rfl

lemma Returned.eq_listed {log : Log} {types : List ℕ} (h : Returned log types) :
    types = listed (readable log) := by
  cases h with
  | @one retried value hretried h =>
    rw [readable_first hretried]
    have hfirst : value.val ≠ 255 := by omega
    have hend : value.val ≠ 254 := by omega
    simp [listed, hfirst, hend]
  | none hretried => rw [readable_first hretried]; rfl
  | several hretried h =>
    rw [readable_append, readable_first hretried, readable_answered]
    exact h.takeWhile.symm

lemma Returned.garbled_notMem {log : Log} {types : List ℕ} (h : Returned log types) :
    ⟨.queryNextDeviceType, .returns .garbled⟩ ∉ log := by
  have hfirst : ∀ answers, (⟨.queryNextDeviceType, .returns .garbled⟩ :
      Σ _ : Query, Outcome Answer) ∉ answered .queryDeviceType answers := by
    simp [answered]
  cases h with
  | one hretried h => exact hfirst _
  | none hretried => exact hfirst _
  | several hretried h =>
    rw [List.mem_append, not_or]
    refine ⟨hfirst _, ?_⟩
    simpa [answered] using h.garbled_notMem

lemma Returned.pairwise {log : Log} {types : List ℕ} (h : Returned log types) :
    types.Pairwise (· < ·) := by
  cases h with
  | one hretried h => exact List.pairwise_singleton _ _
  | none hretried => exact .nil
  | several hretried h => exact h.pairwise.1

lemma ensures_queryDeviceTypesSequence (fuel : ℕ) :
    (queryDeviceTypesSequence (257 + fuel)).Ensures
      (fun ended log => ended ≠ none ∧ log.length ≤ 3 * 258 ∧
        ∀ types, ended = some (.ok types) → Returned log types)
      Interrupted [] := by
  rw [queryDeviceTypesSequence, Coroutine.ensures_bind]
  refine (ensures_retryLoop _ _ _ _ []).mono ?_ fun _ hinterrupted => hinterrupted
  rintro answer log ⟨answers, rfl, hlength, hends⟩
  have hcount : ([] ++ answered .queryDeviceType answers).length ≤ 3 * 258 := by
    simp
    omega
  rcases answer with error | value
  · exact ⟨by simp, hcount, fun types h => by cases h⟩
  · obtain ⟨retried, rfl, hattempts, hretried⟩ := hends
    by_cases hone : value.val < 254
    · simp only [if_pos hone]
      refine ⟨by simp, hcount, fun types h => ?_⟩
      obtain rfl : [value.val] = types := by simpa using h
      exact .one ⟨hattempts, hretried⟩ hone
    · by_cases hnone : value = 254
      · subst hnone
        simp only [if_neg hone, if_true]
        refine ⟨by simp, hcount, fun types h => ?_⟩
        obtain rfl : [] = types := by simpa using h
        exact .none ⟨hattempts, hretried⟩
      · by_cases hmask : value = 255
        · subst hmask
          simp only [if_neg hone, if_neg hnone, ne_eq, not_true_eq_false, if_false]
          refine (ensures_nextTypesLoop [] _ (by omega) (by push_cast; omega)).mono ?_
            fun _ hinterrupted => hinterrupted
          rintro ended log ⟨answers, rfl, hlength', hsome, htypes⟩
          refine ⟨hsome, ?_, fun types h => ?_⟩
          · rw [List.length_append, length_answered]
            simp only [List.nil_append, length_answered]
            omega
          · obtain ⟨rest, rfl, hlists⟩ := htypes types h
            exact .several ⟨hattempts, hretried⟩ hlists
        · simp only [if_neg hone, if_neg hnone, ne_eq, hmask, not_false_eq_true, if_true]
          exact ⟨by simp, hcount, fun types h => by cases h⟩

lemma Returned.le_or_listsMask {feed : ℕ → Answer} {log : Log} {types : List ℕ}
    (h : Returned log types) (hlogs : Logs feed 0 log) :
    (∀ type ∈ types, type ≤ 253) ∨ ∃ retried answers, Retried true retried ∧
      ListsMask (-1) answers ∧ Gives feed 0 (retried ++ .asInteger 255 :: answers) := by
  cases h with
  | one hretried h =>
    refine .inl fun type hmem => ?_
    rw [List.mem_singleton.1 hmem]
    omega
  | none hretried => exact .inl (by simp)
  | @several retried answers types hretried h =>
    refine h.le_or_listsMask.imp id fun hmask => ⟨retried, answers, hretried, hmask, ?_⟩
    rw [logs_append, logs_answered, logs_answered, length_answered] at hlogs
    rw [← List.singleton_append, ← List.append_assoc]
    exact gives_append.2 hlogs

/-- Answers that list 255 make the generator return it. -/
lemma run_queryDeviceTypesSequence {feed : ℕ → Answer} {retried answers : List Answer}
    (fuel : ℕ) (hretried : Retried true retried) (hmask : ListsMask (-1) answers)
    (hgives : Gives feed 0 (retried ++ .asInteger 255 :: answers)) :
    ∃ types, ((queryDeviceTypesSequence (257 + fuel)).run (fed feed) []).1 =
      some (some (.ok types)) ∧ 255 ∈ types := by
  obtain ⟨types, hlists, hmem⟩ := hmask.exists_lists (by decide)
  rw [← List.singleton_append, ← List.append_assoc, gives_append] at hgives
  have hfirst : (retryLoop .queryDeviceType true 3 true).run (fed feed) [] =
      (some (.ok 255), answered .queryDeviceType (retried ++ [.asInteger 255])) :=
    run_retryLoop_ok true hretried.1 hretried.2 hgives.1
  have hrest : (nextTypesLoop (257 + fuel) (-1) []).run (fed feed)
      (answered .queryDeviceType (retried ++ [.asInteger 255])) = (some (some (.ok ([] ++ types))),
        answered .queryDeviceType (retried ++ [.asInteger 255]) ++
          answered .queryNextDeviceType answers) :=
    run_nextTypesLoop hlists (by decide) (by push_cast; omega) (List.ne_nil_of_mem hmem)
      (by simpa using hgives.2)
  refine ⟨types, ?_, hmem⟩
  rw [queryDeviceTypesSequence, Coroutine.run_bind, requestWithRetrySequence, hfirst]
  exact congrArg Prod.fst hrest

/-- The generator ends after a bounded number of yields whatever it is sent, and what it returns
is a list of device types unless the answers list 255 as the last one. -/
theorem returnsTypes_iff (feed : ℕ → Answer) (fuel : ℕ) :
    ReturnsTypes ((queryDeviceTypesSequence (257 + fuel)).run (fed feed) []) ↔
      ¬∃ retried answers, Retried true retried ∧ ListsMask (-1) answers ∧
        Gives feed 0 (retried ++ .asInteger 255 :: answers) := by
  constructor
  · rintro htypes ⟨retried, answers, hretried, hmask, hgives⟩
    obtain ⟨types, hrun, hmem⟩ := run_queryDeviceTypesSequence fuel hretried hmask hgives
    have hle := htypes.le types hrun 255 hmem
    omega
  · intro hmask
    have hlogs : Logs feed 0 ((queryDeviceTypesSequence (257 + fuel)).run (fed feed) []).2 :=
      logs_run _ (show Logs feed 0 [] from trivial)
    obtain ⟨hreturns, hraises⟩ := (ensures_queryDeviceTypesSequence fuel).run (fed feed)
    rcases hrun : (queryDeviceTypesSequence (257 + fuel)).run (fed feed) [] with ⟨_ | ended, log⟩
    · rw [hrun] at hlogs
      exact absurd (hraises log hrun) hlogs.not_interrupted
    · rw [hrun] at hlogs
      obtain ⟨hended, hlength, htypes⟩ := hreturns ended log hrun
      obtain ⟨ended, rfl⟩ := Option.ne_none_iff_exists'.1 hended
      have hreturned : ∀ types, (some (some ended), log).1 = some (some (.ok types)) →
          Returned log types := fun types h => htypes types (Option.some.inj h)
      exact {
        ends := ⟨ended, rfl⟩
        length_le := hlength
        ascending := fun types h => (hreturned types h).pairwise
        le := fun types h => ((hreturned types h).le_or_listsMask hlogs).resolve_right hmask
        exact := fun types h => (hreturned types h).eq_listed
        unskipped := fun types h => (hreturned types h).garbled_notMem }

/-- The answers 255, 6, 255 and 254, and then silence. -/
def maskFeed (k : ℕ) : Answer :=
  ([.asInteger 255, .asInteger 6, .asInteger 255, .asInteger 254][k]?).getD .silence

theorem exists_not_returnsTypes :
    ((queryDeviceTypesSequence 257).run (fed maskFeed) []).1 = some (some (.ok [6, 255])) ∧
      ¬ReturnsTypes ((queryDeviceTypesSequence 257).run (fed maskFeed) []) := by
  have hrun : ((queryDeviceTypesSequence 257).run (fed maskFeed) []).1 =
      some (some (.ok [6, 255])) := by rfl
  refine ⟨hrun, fun htypes => ?_⟩
  have hle := htypes.le _ hrun 255 (by simp)
  omega

end WbMqttDali.Device.DeviceTypes
