import Mathlib
import WbMqttDali.Constants
import WbMqttDali.Lib.Coroutine
import WbMqttDali.Lib.Literals

/-!
# Writing a short address through INITIALISE

`set_short_address_sequence` is a generator: it yields commands, a list of them
or a pause, and is sent the responses, or an exception is thrown into it.  It
selects a device by its random address, writes the short address and reads it
back, and trusts an answer only when two reads agree.
-/

namespace WbMqttDali.ShortAddress

/-! ### Commands and responses -/

inductive Command where
  | terminate
  | initialise (short : ℕ)
  | setSearchAddrH (byte : ℕ)
  | setSearchAddrM (byte : ℕ)
  | setSearchAddrL (byte : ℕ)
  | programShortAddress (short : ℕ)
  | queryRandomAddressH (short : ℕ)
  | queryRandomAddressM (short : ℕ)
  | queryRandomAddressL (short : ℕ)
  | queryShortAddress
  deriving DecidableEq

/-- `missing` is `None`, `silence` a response without a `raw_value`. -/
inductive Response where
  | missing
  | transmissionError
  | silence
  | framingError
  | answer (byte : Fin 256)
  deriving DecidableEq

/-- The byte of a response to a query that `check_command_failed` lets pass. -/
def Response.byte? : Response → Option (Fin 256)
  | answer byte => some byte
  | _ => none

/-- What the generator yields: `[c, …]`, `c` or `seq_sleep(FLASH_WRITE_TIME_S)`. -/
inductive Yielded where
  | batch (commands : List Command)
  | single (command : Command)
  | sleep
  deriving DecidableEq

/-- The commands that are sent for what is yielded. -/
def Yielded.commands : Yielded → List Command
  | batch commands => commands
  | single command => [command]
  | sleep => []

abbrev Received : Yielded → Type
  | .batch commands => Fin commands.length → Response
  | .single _ => Response
  | .sleep => Unit

abbrev Sequence (α : Type) : Type := Coroutine Yielded Received α

abbrev Log : Type := AwaitLog Yielded Received

abbrev Entry : Type := Σ yielded, Outcome (Received yielded)

open Coroutine (done raised await call tryExcept)

/-! ### The generators -/

def maxReadAttempts : ℕ := 3

/-- `has_transmission_error` -/
def HasTransmissionError {n : ℕ} (responses : Fin n → Response) : Prop :=
  ∃ i, responses i = .transmissionError

instance {n : ℕ} (responses : Fin n → Response) : Decidable (HasTransmissionError responses) :=
  inferInstanceAs (Decidable (∃ i, responses i = .transmissionError))

section Generators

variable (commands : List Command)

/-- The loop of `_send_checked`. -/
def sendCheckedLoop : ℕ → Sequence (Received (.batch commands))
  | 0 => raised
  | retries + 1 => (call (.batch commands)).bind fun responses =>
    if HasTransmissionError responses then sendCheckedLoop retries else done responses

/-- `_send_checked` -/
def sendChecked : Sequence (Received (.batch commands)) :=
  sendCheckedLoop commands maxCommandRetries

variable (decode : Fin 256 → Option ℕ)

/-- The decoded values, if every query was answered and each answer can be decoded. -/
def decodeAll (responses : Received (.batch commands)) : Option (Fin commands.length → ℕ) :=
  if h : ∀ i, (((responses i).byte?).bind decode).isSome then
    some fun i => (((responses i).byte?).bind decode).get (h i)
  else none

/-- The loop of `_read_agreeing`. -/
def readAgreeingLoop :
    ℕ → List (Fin commands.length → ℕ) → Bool → Sequence (Option (Fin commands.length → ℕ))
  | 0, _, unreadable => if unreadable then raised else done none
  | attempts + 1, seen, unreadable => (sendChecked commands).bind fun responses =>
    -- a failure is recorded if the device answered something
    let unreadable' := unreadable || decide (∃ i, responses i = .framingError)
    match decodeAll commands decode responses with
    | none => readAgreeingLoop attempts seen unreadable'
    | some values =>
      if values ∈ seen then done (some values)
      else readAgreeingLoop attempts (seen ++ [values]) unreadable'

/-- `_read_agreeing` -/
def readAgreeing : Sequence (Option (Fin commands.length → ℕ)) :=
  readAgreeingLoop commands decode maxReadAttempts [] false

end Generators

/-- The batch that reads a random address. -/
abbrev randomAddressQueries (short : ℕ) : List Command :=
  [.queryRandomAddressH short, .queryRandomAddressM short, .queryRandomAddressL short]

/-- `QueryRandomAddressResponseValue` of an answer. -/
def queryRandomAddressResponseValue (byte : Fin 256) : Option ℕ := some byte

/-- `_read_random_address` -/
def readRandomAddress (short : ℕ) : Sequence (Option ℕ) :=
  (readAgreeing (randomAddressQueries short) queryRandomAddressResponseValue).bind fun values =>
    done (values.map fun values : Fin 3 → ℕ =>
      (values 0 <<< 16) ||| (values 1 <<< 8) ||| values 2)

/-- The command layer of control gear or of control devices: how it reads the byte of an answer
to QUERY SHORT ADDRESS. -/
structure DaliCommands where
  queryShortAddressResponseValue : Fin 256 → Option ℕ

variable (cmds : DaliCommands)

/-- `_read_short_address` -/
def readShortAddress : Sequence (Option ℕ) :=
  (readAgreeing [.queryShortAddress] cmds.queryShortAddressResponseValue).bind fun values =>
    done (values.map fun values : Fin 1 → ℕ => values 0)

/-- The batch that selects a device and writes its short address. -/
def programBatch (randomAddress newShort : ℕ) : List Command :=
  [.setSearchAddrH ((randomAddress >>> 16) &&& 0xFF),
    .setSearchAddrM ((randomAddress >>> 8) &&& 0xFF),
    .setSearchAddrL (randomAddress &&& 0xFF), .programShortAddress newShort]

/-- The body of the `try` of `set_short_address_sequence`. -/
def programSequence (randomAddress currentShort newShort : ℕ) : Sequence (Option ℕ) :=
  (sendChecked [.initialise currentShort]).bind fun _ =>
  (sendChecked (programBatch randomAddress newShort)).bind fun _ =>
  (call .sleep).bind fun _ =>
  readShortAddress cmds

/-- `yield cmds.Terminate()` -/
def yieldTerminate : Sequence Unit := (call (.single .terminate)).bind fun _ => done ()

/-- `set_short_address_sequence` -/
def setShortAddressSequence (currentShort newShort : ℕ) : Sequence (Option ℕ) :=
  (readRandomAddress currentShort).bind fun randomAddress? =>
    match randomAddress? with
    | none => done none
    | some randomAddress =>
      (sendChecked [.terminate]).bind fun _ =>
      (tryExcept (programSequence cmds randomAddress currentShort newShort) yieldTerminate).bind
        fun reported => yieldTerminate.bind fun _ => done reported

/-! ### What a log shows -/

section Logs

variable (commands : List Command)

/-- A yield of the batch, whatever came of it. -/
def IsBatch (e : Entry) : Prop := e.1 = .batch commands

/-- The gateway accepted the commands. -/
def Accepted (e : Entry) : Prop :=
  ∃ responses : Received (.batch commands),
    e = ⟨.batch commands, .returns responses⟩ ∧ ¬ HasTransmissionError responses

/-- The batch was read completely, with these values. -/
def Reads (decode : Fin 256 → Option ℕ) (values : Fin commands.length → ℕ) (e : Entry) : Prop :=
  ∃ responses : Received (.batch commands), e = ⟨.batch commands, .returns responses⟩ ∧
    ∀ i, ((responses i).byte?).bind decode = some (values i)

/-- Two reads of the batch agree on these values. -/
def ReadTwice (decode : Fin 256 → Option ℕ) (values : Fin commands.length → ℕ) (log : Log) : Prop :=
  ∃ first second, [first, second].Sublist log ∧ Reads commands decode values first ∧
    Reads commands decode values second

end Logs

lemma ReadTwice.mono {commands : List Command} {decode : Fin 256 → Option ℕ}
    {values : Fin commands.length → ℕ} {log log' : Log}
    (h : ReadTwice commands decode values log) (hsub : log.Sublist log') :
    ReadTwice commands decode values log' := by
  obtain ⟨first, second, hlog, hreads⟩ := h
  exact ⟨first, second, hlog.trans hsub, hreads⟩

/-! ### The nested generators -/

section Rules

variable {commands : List Command} {log : Log}

/-- `_send_checked` yields its batch again and again; it returns when the gateway has accepted
it. -/
lemma ensures_sendChecked {Q : Received (.batch commands) → Log → Prop} {R : Log → Prop}
    (hQ : ∀ responses tries last, (∀ e ∈ tries, IsBatch commands e) →
      last = ⟨.batch commands, .returns responses⟩ → Accepted commands last →
      Q responses (log ++ tries ++ [last]))
    (hR : ∀ tries, (∀ e ∈ tries, IsBatch commands e) → R (log ++ tries)) :
    (sendChecked commands).Ensures Q R log := by
  have hloop : ∀ retries tries, (∀ e ∈ tries, IsBatch commands e) →
      (sendCheckedLoop commands retries).Ensures Q R (log ++ tries) := by
    intro retries
    induction retries with
    | zero => exact hR
    | succ retries ih =>
      intro tries htries
      have hnext : ∀ outcome, ∀ e ∈ tries ++ [(⟨.batch commands, outcome⟩ : Entry)],
          IsBatch commands e := by
        intro outcome e he
        rcases List.mem_append.1 he with he | he
        · exact htries e he
        · rw [List.mem_singleton.1 he]
          rfl
      rw [sendCheckedLoop]
      refine Coroutine.ensures_bind.2 (Coroutine.ensures_call.2 ⟨fun responses => ?_, fun b => ?_⟩)
      · split
        case isTrue =>
          rw [List.append_assoc]
          exact ih _ (hnext _)
        case isFalse haccepted =>
          exact hQ responses tries _ htries rfl ⟨responses, rfl, haccepted⟩
      · rw [List.append_assoc]
        exact hR _ (hnext _)
  have hstart := hloop maxCommandRetries [] (by simp)
  rwa [List.append_nil] at hstart

/-- `_read_agreeing` yields its batch; the values that it returns were read twice. -/
lemma ensures_readAgreeing {decode : Fin 256 → Option ℕ}
    {Q : Option (Fin commands.length → ℕ) → Log → Prop} {R : Log → Prop}
    (hQ : ∀ result reads, (∀ e ∈ reads, IsBatch commands e) →
      (∀ values, result = some values → ReadTwice commands decode values reads) →
      Q result (log ++ reads))
    (hR : ∀ reads, (∀ e ∈ reads, IsBatch commands e) → R (log ++ reads)) :
    (readAgreeing commands decode).Ensures Q R log := by
  -- the values that were seen have a read each, and a value that is seen again has two
  have hloop : ∀ attempts seen unreadable reads, (∀ e ∈ reads, IsBatch commands e) →
      (∀ values ∈ seen, ∃ e ∈ reads, Reads commands decode values e) →
      (readAgreeingLoop commands decode attempts seen unreadable).Ensures Q R (log ++ reads) := by
    intro attempts
    induction attempts with
    | zero =>
      intro seen unreadable reads hreads _
      rw [readAgreeingLoop]
      split
      · exact hR reads hreads
      · exact hQ none reads hreads (by simp)
    | succ attempts ih =>
      intro seen unreadable reads hreads hseen
      rw [readAgreeingLoop]
      refine Coroutine.ensures_bind.2 (ensures_sendChecked ?_ ?_)
      · rintro responses tries last htries rfl haccepted
        have hall : ∀ e ∈ reads ++ (tries ++ [(⟨.batch commands, .returns responses⟩ : Entry)]),
            IsBatch commands e := by
          intro e he
          rcases List.mem_append.1 he with he | he
          · exact hreads e he
          · rcases List.mem_append.1 he with he | he
            · exact htries e he
            · rw [List.mem_singleton.1 he]
              rfl
        have hbefore : ∀ values ∈ seen, ∃ e ∈ reads ++ (tries ++
            [(⟨.batch commands, .returns responses⟩ : Entry)]), Reads commands decode values e := by
          intro values hvalues
          obtain ⟨e, he, hread⟩ := hseen values hvalues
          exact ⟨e, List.mem_append_left _ he, hread⟩
        rw [List.append_assoc, List.append_assoc]
        cases hdecode : decodeAll commands decode responses with
        | none => exact ih seen _ _ hall hbefore
        | some values =>
          have hread : Reads commands decode values ⟨.batch commands, .returns responses⟩ := by
            refine ⟨responses, rfl, fun i => ?_⟩
            rw [decodeAll] at hdecode
            split at hdecode
            · obtain rfl := Option.some.inj hdecode
              exact (Option.some_get _).symm
            · cases hdecode
          simp only
          split
          -- the same values as in an earlier read
          · rename_i hmem
            obtain ⟨e, he, hearlier⟩ := hseen values hmem
            refine hQ _ _ hall fun values' hvalues' => ?_
            obtain rfl := Option.some.inj hvalues'
            refine ⟨e, _, ?_, hearlier, hread⟩
            have hfirst : [e].Sublist reads := List.singleton_sublist.2 he
            have hsecond : [(⟨.batch commands, .returns responses⟩ : Entry)].Sublist (tries ++
              [⟨.batch commands, .returns responses⟩]) := List.sublist_append_right _ _
            exact hfirst.append hsecond
          · refine ih _ _ _ hall fun values' hvalues' => ?_
            rcases List.mem_append.1 hvalues' with hvalues' | hvalues'
            · exact hbefore values' hvalues'
            · rw [List.mem_singleton.1 hvalues']
              exact ⟨_, by simp, hread⟩
      · intro tries htries
        rw [List.append_assoc]
        refine hR _ fun e he => ?_
        rcases List.mem_append.1 he with he | he
        · exact hreads e he
        · exact htries e he
  have hstart := hloop maxReadAttempts [] false [] (by simp) (by simp)
  rwa [List.append_nil] at hstart

end Rules

/-! ### The law -/

section Law

variable (currentShort newShort : ℕ)

/-- A device was selected for what is yielded: the yield sets the search address to a random
address on which two reads agree, and an INITIALISE of the current short address was accepted. -/
def Selected (before : Log) (e : Entry) : Prop :=
  ∃ bytes : Fin 3 → Fin 256,
    e.1 = .batch [.setSearchAddrH (bytes 0), .setSearchAddrM (bytes 1), .setSearchAddrL (bytes 2),
      .programShortAddress newShort] ∧
    ReadTwice (randomAddressQueries currentShort) queryRandomAddressResponseValue
      (fun i => bytes i) before ∧
    ∃ initialised ∈ before, Accepted [.initialise currentShort] initialised

/-- PROGRAM SHORT ADDRESS is yielded only where a device was selected. -/
def ProgramsSelected (log : Log) : Prop :=
  ∀ before e after, log = before ++ e :: after →
    ∀ short, .programShortAddress short ∈ e.1.commands → Selected currentShort newShort before e

/-- If INITIALISE was yielded, TERMINATE is yielded last. -/
def EndsTerminated (log : Log) : Prop :=
  (∃ e ∈ log, ∃ short, .initialise short ∈ e.1.commands) →
    log.getLast?.map Sigma.fst = some (.single .terminate)

/-- A result was read twice after the write was accepted. -/
def ReportedTwice (result : Option ℕ) (log : Log) : Prop :=
  ∀ reported, result = some reported → ∃ before written after, log = before ++ written :: after ∧
    (∃ randomAddress, Accepted (programBatch randomAddress newShort) written) ∧
    ReadTwice [.queryShortAddress] cmds.queryShortAddressResponseValue (fun _ => reported) after

end Law

section Proof

variable {cmds} {currentShort newShort : ℕ} {log new : Log}

lemma Selected.append {e : Entry} (h : Selected currentShort newShort log e) (new : Log) :
    Selected currentShort newShort (log ++ new) e := by
  obtain ⟨bytes, he, hread, initialised, hmem, haccepted⟩ := h
  exact ⟨bytes, he, hread.mono (List.sublist_append_left _ _), initialised,
    List.mem_append_left _ hmem, haccepted⟩

lemma ProgramsSelected.concat {e : Entry} (h : ProgramsSelected currentShort newShort log)
    (he : ∀ short, .programShortAddress short ∈ e.1.commands →
      Selected currentShort newShort log e) :
    ProgramsSelected currentShort newShort (log ++ [e]) := by
  intro before e' after heq
  rcases List.eq_nil_or_concat after with rfl | ⟨after, last, rfl⟩
  · obtain ⟨rfl, hlast⟩ := List.append_inj' heq rfl
    obtain rfl := List.singleton_inj.1 hlast
    exact he
  · have heq' : log ++ [e] = (before ++ e' :: after) ++ [last] := by simpa using heq
    exact h before e' after (List.append_inj' heq' rfl).1

lemma ProgramsSelected.append (h : ProgramsSelected currentShort newShort log)
    (hnew : ∀ e ∈ new, ∀ short, .programShortAddress short ∈ e.1.commands →
      Selected currentShort newShort log e) :
    ProgramsSelected currentShort newShort (log ++ new) := by
  induction new using List.reverseRecOn with
  | nil => rwa [List.append_nil]
  | append_singleton new e ih =>
    rw [← List.append_assoc]
    refine (ih fun e' he' => hnew e' (List.mem_append_left _ he')).concat fun short hshort => ?_
    exact (hnew e (by simp) short hshort).append new

/-- Yields of batches that program nothing. -/
lemma ProgramsSelected.batches (h : ProgramsSelected currentShort newShort log)
    {commands : List Command} (hcommands : ∀ short, .programShortAddress short ∉ commands)
    (hnew : ∀ e ∈ new, IsBatch commands e) :
    ProgramsSelected currentShort newShort (log ++ new) := by
  refine h.append fun e he short hshort => absurd hshort ?_
  rw [show e.1 = .batch commands from hnew e he]
  exact hcommands short

lemma endsTerminated_concat (outcome : Outcome (Received (.single .terminate))) :
    EndsTerminated (log ++ [⟨.single .terminate, outcome⟩]) := by
  intro _
  simp

/-- The bytes of a random address are those that were read. -/
lemma programBatch_eq (bytes : Fin 3 → Fin 256) (newShort : ℕ) :
    programBatch (((bytes 0 : ℕ) <<< 16) ||| ((bytes 1 : ℕ) <<< 8) ||| (bytes 2 : ℕ)) newShort =
      [.setSearchAddrH (bytes 0), .setSearchAddrM (bytes 1), .setSearchAddrL (bytes 2),
        .programShortAddress newShort] := by
  have h0 := (bytes 0).isLt
  have h1 := (bytes 1).isLt
  have h2 := (bytes 2).isLt
  have hlow : ((bytes 1 : ℕ) <<< 8) ||| (bytes 2 : ℕ) = (bytes 1 : ℕ) * 256 + (bytes 2 : ℕ) := by
    rw [← Nat.shiftLeft_add_eq_or_of_lt (by omega), Nat.shiftLeft_eq]
  have hsum : ((bytes 0 : ℕ) <<< 16) ||| ((bytes 1 : ℕ) <<< 8) ||| (bytes 2 : ℕ) =
      (bytes 0 : ℕ) * 65536 + ((bytes 1 : ℕ) * 256 + (bytes 2 : ℕ)) := by
    rw [Nat.or_assoc, hlow, ← Nat.shiftLeft_add_eq_or_of_lt (by omega), Nat.shiftLeft_eq]
  have hmask : ∀ n : ℕ, n &&& 0xFF = n % 256 := fun n => Nat.and_two_pow_sub_one_eq_mod n 8
  rw [programBatch, hsum, hmask, hmask, hmask, Nat.shiftRight_eq_div_pow, Nat.shiftRight_eq_div_pow]
  have hhigh : ((bytes 0 : ℕ) * 65536 + ((bytes 1 : ℕ) * 256 + (bytes 2 : ℕ))) / 2 ^ 16 % 256 =
      (bytes 0 : ℕ) := by omega
  have hmid : ((bytes 0 : ℕ) * 65536 + ((bytes 1 : ℕ) * 256 + (bytes 2 : ℕ))) / 2 ^ 8 % 256 =
      (bytes 1 : ℕ) := by omega
  have hlast : ((bytes 0 : ℕ) * 65536 + ((bytes 1 : ℕ) * 256 + (bytes 2 : ℕ))) % 256 =
      (bytes 2 : ℕ) := by omega
  rw [hhigh, hmid, hlast]

/-- The random address comes from two reads that agree, or there is none. -/
lemma ensures_readRandomAddress {Q : Option ℕ → Log → Prop} {R : Log → Prop}
    (hQ : ∀ result reads, (∀ e ∈ reads, IsBatch (randomAddressQueries currentShort) e) →
      (∀ address, result = some address → ∃ bytes : Fin 3 → Fin 256,
        programBatch address newShort = [.setSearchAddrH (bytes 0), .setSearchAddrM (bytes 1),
          .setSearchAddrL (bytes 2), .programShortAddress newShort] ∧
        ReadTwice (randomAddressQueries currentShort) queryRandomAddressResponseValue
          (fun i => bytes i) reads) →
      Q result (log ++ reads))
    (hR : ∀ reads, (∀ e ∈ reads, IsBatch (randomAddressQueries currentShort) e) →
      R (log ++ reads)) :
    (readRandomAddress currentShort).Ensures Q R log := by
  refine Coroutine.ensures_bind.2 (ensures_readAgreeing (fun values reads hreads htwice => ?_) hR)
  refine hQ _ reads hreads fun address haddress => ?_
  obtain ⟨values, rfl, rfl⟩ := Option.map_eq_some_iff.1 haddress
  have hread := htwice values rfl
  obtain ⟨bytes, hbytes⟩ : ∃ bytes : Fin 3 → Fin 256, values = fun i => (bytes i : ℕ) := by
    obtain ⟨first, -, -, ⟨responses, -, hdecode⟩, -⟩ := hread
    have hbyte : ∀ i, ∃ byte : Fin 256, values i = byte := by
      intro i
      obtain ⟨byte, -, hbyte⟩ := Option.bind_eq_some_iff.1 (hdecode i)
      exact ⟨byte, (Option.some.inj hbyte).symm⟩
    exact ⟨fun i => (hbyte i).choose, funext fun i => (hbyte i).choose_spec⟩
  subst hbytes
  exact ⟨bytes, programBatch_eq bytes newShort, hread⟩

/-- The `try`: the device was selected for what it programs, and a result was read twice. -/
lemma ensures_programSequence {address : ℕ} {bytes : Fin 3 → Fin 256}
    (hlog : ProgramsSelected currentShort newShort log)
    (haddress : programBatch address newShort = [.setSearchAddrH (bytes 0),
      .setSearchAddrM (bytes 1), .setSearchAddrL (bytes 2), .programShortAddress newShort])
    (hread : ReadTwice (randomAddressQueries currentShort) queryRandomAddressResponseValue
      (fun i => bytes i) log) :
    (programSequence cmds address currentShort newShort).Ensures
      (fun result log => ProgramsSelected currentShort newShort log ∧
        ReportedTwice cmds newShort result log)
      (ProgramsSelected currentShort newShort) log := by
  have hinitialise : ∀ short, Command.programShortAddress short ∉ [.initialise currentShort] := by
    simp
  refine Coroutine.ensures_bind.2 (ensures_sendChecked ?_ fun tries htries =>
    hlog.batches hinitialise htries)
  intro responses tries initialised htries hinitialised haccepted
  have hlog₁ : ProgramsSelected currentShort newShort (log ++ tries ++ [initialised]) := by
    rw [List.append_assoc]
    refine hlog.batches hinitialise fun e he => ?_
    rcases List.mem_append.1 he with he | he
    · exact htries e he
    · rw [List.mem_singleton.1 he, hinitialised]
      rfl
  -- INITIALISE was accepted, and the search address is the one that was read twice
  have hselected : ∀ e, IsBatch (programBatch address newShort) e →
      Selected currentShort newShort (log ++ tries ++ [initialised]) e := by
    intro e he
    refine ⟨bytes, ?_, hread.mono ?_, initialised, by simp, haccepted⟩
    · rw [← haddress]
      exact he
    · rw [List.append_assoc]
      exact List.sublist_append_left _ _
  refine Coroutine.ensures_bind.2 (ensures_sendChecked ?_ fun tries htries =>
    hlog₁.append fun e he _ _ => hselected e (htries e he))
  intro responses' tries' written htries' hwritten haccepted'
  have hlog₂ : ProgramsSelected currentShort newShort
      (log ++ tries ++ [initialised] ++ tries' ++ [written]) := by
    rw [List.append_assoc _ tries']
    refine hlog₁.append fun e he _ _ => hselected e ?_
    rcases List.mem_append.1 he with he | he
    · exact htries' e he
    · rw [List.mem_singleton.1 he, hwritten]
      rfl
  generalize log ++ tries ++ [initialised] ++ tries' = before at hlog₂
  -- the reads of the new short address program nothing
  have hsleep : ∀ outcome, ProgramsSelected currentShort newShort
      (before ++ [written] ++ [⟨.sleep, outcome⟩]) :=
    fun outcome => hlog₂.concat fun short hshort => by cases hshort
  have hqueries : ∀ short, Command.programShortAddress short ∉ [.queryShortAddress] := by simp
  refine Coroutine.ensures_bind.2 (Coroutine.ensures_call.2
    ⟨fun answer => ?_, fun requested => hsleep _⟩)
  refine Coroutine.ensures_bind.2 (ensures_readAgreeing ?_ fun reads hreads =>
    (hsleep _).batches hqueries hreads)
  intro result reads hreads htwice
  refine ⟨(hsleep _).batches hqueries hreads, fun reported hreported => ?_⟩
  obtain ⟨values, rfl, rfl⟩ := Option.map_eq_some_iff.1 hreported
  refine ⟨before, written, ⟨.sleep, .returns answer⟩ :: reads, by simp, ⟨address, haccepted'⟩, ?_⟩
  have hvalues : values = fun _ => values 0 := funext fun i => congrArg values (Fin.eq_zero i)
  have hmono := (htwice values rfl).mono (List.sublist_cons_self (⟨.sleep, .returns answer⟩ : Entry)
    reads)
  rw [hvalues] at hmono
  exact hmono

lemma endsTerminated_of_batches {commands : List (List Command)}
    (hcommands : ∀ batch ∈ commands, ∀ short, Command.initialise short ∉ batch)
    (hlog : ∀ e ∈ log, ∃ batch ∈ commands, IsBatch batch e) : EndsTerminated log := by
  rintro ⟨e, he, short, hshort⟩
  obtain ⟨batch, hbatch, heq⟩ := hlog e he
  rw [show e.1 = .batch batch from heq] at hshort
  exact absurd hshort (hcommands batch hbatch short)

variable (cmds currentShort newShort) in
/-- Whatever is sent to the generator or thrown into it. -/
lemma ensures_setShortAddressSequence :
    (setShortAddressSequence cmds currentShort newShort).Ensures
      (fun result log => ProgramsSelected currentShort newShort log ∧ EndsTerminated log ∧
        ReportedTwice cmds newShort result log)
      (fun log => ProgramsSelected currentShort newShort log ∧ EndsTerminated log) [] := by
  have hempty : ProgramsSelected currentShort newShort [] := by
    intro before e after heq
    simp at heq
  have hqueries :
    ∀ short, Command.programShortAddress short ∉ randomAddressQueries currentShort := by
    simp
  have hterminate : ∀ short, Command.programShortAddress short ∉ [.terminate] := by simp
  have hquiet : ∀ batch ∈ [randomAddressQueries currentShort, [.terminate]], ∀ short,
      Command.initialise short ∉ batch := by simp
  refine Coroutine.ensures_bind.2 (@ensures_readRandomAddress currentShort newShort [] _ _ ?_ ?_)
  · intro result reads hreads haddress
    rw [List.nil_append]
    have hreadsSafe : ProgramsSelected currentShort newShort reads := by
      simpa using hempty.batches hqueries hreads
    cases result with
    | none =>
      refine ⟨hreadsSafe,
        endsTerminated_of_batches hquiet fun e he => ⟨_, by simp, hreads e he⟩, ?_⟩
      simp [ReportedTwice]
    | some address =>
      obtain ⟨bytes, hbatch, hread⟩ := haddress address rfl
      refine Coroutine.ensures_bind.2 (ensures_sendChecked ?_ fun tries htries => ?_)
      · intro responses tries last htries hlast haccepted
        have hlog : ProgramsSelected currentShort newShort (reads ++ tries ++ [last]) := by
          rw [List.append_assoc]
          refine hreadsSafe.batches hterminate fun e he => ?_
          rcases List.mem_append.1 he with he | he
          · exact htries e he
          · rw [List.mem_singleton.1 he, hlast]
            rfl
        have hread' : ReadTwice (randomAddressQueries currentShort) queryRandomAddressResponseValue
            (fun i => bytes i) (reads ++ tries ++ [last]) := by
          rw [List.append_assoc]
          exact hread.mono (List.sublist_append_left _ _)
        -- TERMINATE is sent however the programming ends
        refine Coroutine.ensures_bind.2 (Coroutine.ensures_tryExcept.2
          ((ensures_programSequence hlog hbatch hread').mono ?_ ?_))
        · rintro reported log ⟨hprograms, hreported⟩
          have hlast : ∀ outcome : Outcome (Received (.single .terminate)),
              ProgramsSelected currentShort newShort (log ++ [⟨.single .terminate, outcome⟩]) :=
            fun outcome => hprograms.concat fun short hshort => by simp [Yielded.commands] at hshort
          refine Coroutine.ensures_bind.2 (Coroutine.ensures_bind.2 (Coroutine.ensures_call.2
            ⟨fun answer => ⟨hlast _, endsTerminated_concat _, ?_⟩,
              fun requested => ⟨hlast _, endsTerminated_concat _⟩⟩))
          intro value hvalue
          obtain ⟨before, written, after, rfl, hwritten, htwice⟩ := hreported value hvalue
          exact ⟨before, written, after ++ [⟨.single .terminate, .returns answer⟩], by simp,
            hwritten, htwice.mono (List.sublist_append_left _ _)⟩
        · intro log hprograms
          have hlast : ∀ outcome : Outcome (Received (.single .terminate)),
              ProgramsSelected currentShort newShort (log ++ [⟨.single .terminate, outcome⟩]) :=
            fun outcome => hprograms.concat fun short hshort => by simp [Yielded.commands] at hshort
          exact Coroutine.ensures_bind.2 (Coroutine.ensures_call.2
            ⟨fun answer => ⟨hlast _, endsTerminated_concat _⟩,
              fun requested => ⟨hlast _, endsTerminated_concat _⟩⟩)
      · refine ⟨hreadsSafe.batches hterminate htries,
          endsTerminated_of_batches hquiet fun e he => ?_⟩
        rcases List.mem_append.1 he with he | he
        · exact ⟨_, by simp, hreads e he⟩
        · exact ⟨_, by simp, htries e he⟩
  · intro reads hreads
    rw [List.nil_append]
    refine ⟨by simpa using hempty.batches hqueries hreads,
      endsTerminated_of_batches hquiet fun e he => ⟨_, by simp, hreads e he⟩⟩

end Proof

/-- Whatever is sent to the generator or thrown into it: it programs only a device that it has
selected, it yields TERMINATE last if it has yielded INITIALISE, and it returns a short address
that was read twice after the write. -/
theorem setShortAddressSequence_safe (currentShort newShort : ℕ)
    (surroundings : Log → ∀ yielded, Outcome (Received yielded)) :
    let (result, log) := (setShortAddressSequence cmds currentShort newShort).run surroundings []
    ProgramsSelected currentShort newShort log ∧ EndsTerminated log ∧
      ReportedTwice cmds newShort result.join log := by
  obtain ⟨hreturns, hraises⟩ :=
    (ensures_setShortAddressSequence cmds currentShort newShort).run surroundings
  rcases hrun : (setShortAddressSequence cmds currentShort newShort).run surroundings [] with
    ⟨_ | result, log⟩
  · obtain ⟨hprograms, hends⟩ := hraises log hrun
    exact ⟨hprograms, hends, fun reported hreported => by cases hreported⟩
  · exact hreturns result log hrun

/-! ### The search address and the write in one batch -/

/-- PROGRAM SHORT ADDRESS is yielded only after commands that set the search address were
accepted. -/
def ProgramsAfterAccepted (log : Log) : Prop :=
  ∀ before e after, log = before ++ e :: after →
    ∀ short, .programShortAddress short ∈ e.1.commands →
      ∃ commands byte, .setSearchAddrH byte ∈ commands ∧ ∃ a ∈ before, Accepted commands a

/-- Surroundings in which all queries are answered alike. -/
def answerAll (_log : Log) : ∀ yielded, Outcome (Received yielded)
  | .batch _ => .returns fun _ => .answer 7
  | .single _ => .returns .silence
  | .sleep => .returns ()

/-- The search address is set in the batch that writes the short address. -/
theorem not_programsAfterAccepted :
    ¬ ∀ (cmds : DaliCommands) (currentShort newShort : ℕ)
      (surroundings : Log → ∀ yielded, Outcome (Received yielded)),
      ProgramsAfterAccepted
        ((setShortAddressSequence cmds currentShort newShort).run surroundings []).2 := by
  intro h
  have hlog := h ⟨fun byte => some byte⟩ 5 9 answerAll
  have hyields : ((setShortAddressSequence ⟨fun byte => some byte⟩ 5 9).run answerAll []).2.map
      Sigma.fst = [.batch (randomAddressQueries 5), .batch (randomAddressQueries 5),
        .batch [.terminate], .batch [.initialise 5]] ++ .batch (programBatch 0x070707 9) ::
        [.sleep, .batch [.queryShortAddress], .batch [.queryShortAddress], .single .terminate] := by
    decide +kernel
  obtain ⟨before, rest, hsplit, hbefore, hrest⟩ := List.map_eq_append_iff.1 hyields
  obtain ⟨e, after, rfl, he, -⟩ := List.map_eq_cons_iff.1 hrest
  obtain ⟨commands, byte, hbyte, a, ha, responses, rfl, -⟩ := hlog before e after hsplit 9
    (by rw [he]; decide)
  have hmem : Yielded.batch commands ∈ before.map Sigma.fst := List.mem_map.2 ⟨_, ha, rfl⟩
  rw [hbefore] at hmem
  simp only [List.mem_cons, Yielded.batch.injEq, List.not_mem_nil, or_false] at hmem
  rcases hmem with rfl | rfl | rfl | rfl <;> simp at hbyte

end WbMqttDali.ShortAddress
