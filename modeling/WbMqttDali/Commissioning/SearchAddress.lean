import Mathlib
import WbMqttDali.Constants
import WbMqttDali.Lib.Transition

/-!
# The search address on the bus

`SearchAddressWriter` remembers the search address that it has last sent and sends only the
bytes that differ from it.  It remembers an address before the frames are sent, and the
sending gives up after three attempts without saying so.  The devices hold the address that
is remembered as long as the last frame of each byte that gets through in a call is the last
one that the call sends.
-/

namespace WbMqttDali.Commissioning

inductive AddressPart where
  | high
  | medium
  | low
  deriving DecidableEq, Repr

instance : Fintype AddressPart where
  elems := {.high, .medium, .low}
  complete part := by cases part <;> decide

/-- `SearchAddress.from_int` -/
def addressByte (addr : ℕ) : AddressPart → ℕ
  | .high => (addr >>> 16) &&& 0xFF
  | .medium => (addr >>> 8) &&& 0xFF
  | .low => addr &&& 0xFF

inductive Frame where
  | setSearchAddr (part : AddressPart) (value : ℕ)
  | compare
  | queryShortAddress
  | withdraw
  deriving DecidableEq, Repr

/-- The byte of the search address that a frame carries. -/
def Frame.byte? (part : AddressPart) : Frame → Option ℕ
  | .setSearchAddr part' value => if part = part' then some value else none
  | _ => none

/-- The last byte for a part of the search address among the frames. -/
def lastByte (part : AddressPart) : List Frame → Option ℕ
  | [] => none
  | frame :: frames => (lastByte part frames).or (frame.byte? part)

lemma lastByte_append {part : AddressPart} {frames frames' : List Frame} :
    lastByte part (frames ++ frames') = (lastByte part frames').or (lastByte part frames) := by
  induction frames with
  | nil => exact Option.or_none.symm
  | cons frame frames ih =>
    show (lastByte part (frames ++ frames')).or _ = _
    rw [ih, Option.or_assoc]
    rfl

/-! ### The devices -/

/-- The search address that the devices hold, and the one they held when a COMPARE of the last
attempt to send something reached the bus. -/
structure SearchBus where
  held : AddressPart → ℕ
  comparedAt : Option (AddressPart → ℕ) := none
  deriving DecidableEq

namespace SearchBus

def receive (bus : SearchBus) : Frame → SearchBus
  | .setSearchAddr part value => { bus with held := Function.update bus.held part value }
  | .compare => { bus with comparedAt := some bus.held }
  | _ => bus

/-- The frames of one attempt that get through. -/
def attempt (bus : SearchBus) (frames : List Frame) : SearchBus :=
  frames.foldl receive { bus with comparedAt := none }

variable {bus : SearchBus} {frames : List Frame} {part : AddressPart}

lemma held_receive {frame : Frame} :
    (bus.receive frame).held part = (frame.byte? part).getD (bus.held part) := by
  cases frame with
  | setSearchAddr part' value =>
    show Function.update bus.held part' value part = _
    by_cases heq : part = part'
    · simp [Frame.byte?, heq]
    · simp [Frame.byte?, heq]
  | compare => rfl
  | queryShortAddress => rfl
  | withdraw => rfl

lemma held_foldl_receive :
    (frames.foldl receive bus).held part = (lastByte part frames).getD (bus.held part) := by
  induction frames generalizing bus with
  | nil => rfl
  | cons frame frames ih =>
    rw [List.foldl_cons, ih, held_receive]
    show _ = ((lastByte part frames).or (frame.byte? part)).getD _
    cases lastByte part frames with
    | none => rfl
    | some _ => rfl

lemma held_foldl_attempt {attempts : List (List Frame)} :
    (attempts.foldl attempt bus).held part =
      (lastByte part attempts.flatten).getD (bus.held part) := by
  induction attempts generalizing bus with
  | nil => rfl
  | cons frames attempts ih =>
    rw [List.foldl_cons, ih, List.flatten_cons, lastByte_append]
    show Option.getD _ ((frames.foldl receive { bus with comparedAt := none }).held part) = _
    rw [held_foldl_receive]
    cases lastByte part attempts.flatten with
    | none => rfl
    | some _ => rfl

lemma comparedAt_foldl_receive (h : Frame.compare ∉ frames) :
    (frames.foldl receive bus).comparedAt = bus.comparedAt := by
  induction frames generalizing bus with
  | nil => rfl
  | cons frame frames ih =>
    rw [List.mem_cons, not_or] at h
    rw [List.foldl_cons, ih h.2]
    cases frame with
    | compare => exact absurd rfl h.1
    | setSearchAddr part value => rfl
    | queryShortAddress => rfl
    | withdraw => rfl

end SearchBus

/-! ### Sending -/

/-- The frames at the indexes that the gateway gets through. -/
def transmitted (frames : List Frame) (passes : ℕ → Bool) : List Frame :=
  (frames.zipIdx.filter fun (_, index) => passes index).map Prod.fst

/-- What gets through of the attempts of `send_commands_with_retry`, of which each is made if
something of the one before it did not get through. -/
def sendAttempts (frames : List Frame) (passes : ℕ → ℕ → Bool) : ℕ → ℕ → List (List Frame)
  | _, 0 => []
  | attempt, left + 1 =>
    transmitted frames (passes attempt) ::
      if (List.range frames.length).all (passes attempt) then []
      else sendAttempts frames passes (attempt + 1) left

def sendCommandsWithRetry (frames : List Frame) (passes : ℕ → ℕ → Bool) : List (List Frame) :=
  sendAttempts frames passes 0 maxCommandRetries

/-- `send_with_retry`, for the frame with the given index. -/
def sendWithRetry (frame : Frame) (index : ℕ) (passes : ℕ → ℕ → Bool) : List (List Frame) :=
  sendCommandsWithRetry [frame] fun attempt _ => passes attempt index

/-! ### The writer -/

/-- The search address that the writer remembers, and the bus. -/
structure SearchAddressWriter where
  current : AddressPart → Option ℕ := fun _ => none
  bus : SearchBus

/-- The uses of the writer; in a batch, each address is followed by a query and WITHDRAW. -/
inductive SearchCall where
  | setSearchAddr (addr : ℕ)
  | compare (addr : ℕ)
  | batch (addrs : List ℕ)
  deriving DecidableEq, Repr

/-- The command for a part that is not remembered to be on the bus. -/
def partCommand (current : AddressPart → Option ℕ) (addr : ℕ) (part : AddressPart) :
    Option Frame :=
  if current part ≠ some (addressByte addr part) then
    some (.setSearchAddr part (addressByte addr part))
  else none

/-- `commands`, without remembering the address. -/
def commands (current : AddressPart → Option ℕ) (addr : ℕ) : List Frame :=
  [AddressPart.high, .medium, .low].filterMap (partCommand current addr)

/-- The commands of `smart_extend` that query and withdraw known random addresses. -/
def batchCommands : (AddressPart → Option ℕ) → List ℕ → List Frame
  | _, [] => []
  | current, addr :: addrs =>
    commands current addr ++ [.queryShortAddress, .withdraw] ++
      batchCommands (fun part => some (addressByte addr part)) addrs

namespace SearchCall

/-- The address that is remembered after a call. -/
def remembers (current : AddressPart → Option ℕ) : SearchCall → AddressPart → Option ℕ
  | .setSearchAddr addr | .compare addr => fun part => some (addressByte addr part)
  | .batch addrs => addrs.foldl (fun _ addr part => some (addressByte addr part)) current

def frames (current : AddressPart → Option ℕ) : SearchCall → List Frame
  | .setSearchAddr addr => commands current addr
  | .compare addr => commands current addr ++ [.compare]
  | .batch addrs => batchCommands current addrs

/-- What gets through of the attempts of a call. -/
def attempts (current : AddressPart → Option ℕ) (passes : ℕ → ℕ → Bool) :
    SearchCall → List (List Frame)
  | .setSearchAddr addr =>
    (commands current addr).zipIdx.flatMap fun (frame, index) => sendWithRetry frame index passes
  | .compare addr => sendCommandsWithRetry (commands current addr ++ [.compare]) passes
  | .batch addrs => sendCommandsWithRetry (batchCommands current addrs) passes

end SearchCall

namespace SearchAddressWriter

variable (writer : SearchAddressWriter)

def call (call : SearchCall) (passes : ℕ → ℕ → Bool) : SearchAddressWriter where
  current := call.remembers writer.current
  bus := (call.attempts writer.current passes).foldl SearchBus.attempt
    { writer.bus with comparedAt := none }

/-- A writer that has sent nothing does not know what the devices hold. -/
def transition : Transition SearchAddressWriter (SearchCall × (ℕ → ℕ → Bool)) where
  init writer := writer.current = fun _ => none
  step writer e := some (writer.call e.1 e.2)

/-- The last frame for each byte that gets through in the attempts of a call is the last one that
the call sends. -/
def Delivers (e : SearchCall × (ℕ → ℕ → Bool)) : Prop :=
  ∀ part, lastByte part (e.1.attempts writer.current e.2).flatten =
    lastByte part (e.1.frames writer.current)

instance : DecidablePred writer.Delivers := fun e =>
  inferInstanceAs (Decidable (∀ part, lastByte part (e.1.attempts writer.current e.2).flatten =
    lastByte part (e.1.frames writer.current)))

/-- The devices hold what the writer remembers. -/
def Truthful : Prop :=
  ∀ part value, writer.current part = some value → writer.bus.held part = value

end SearchAddressWriter

variable {current : AddressPart → Option ℕ} {addr : ℕ} {part : AddressPart}

lemma lastByte_partCommands {parts : List AddressPart} :
    lastByte part (parts.filterMap (partCommand current addr)) =
      if part ∈ parts ∧ current part ≠ some (addressByte addr part) then
        some (addressByte addr part)
      else none := by
  induction parts with
  | nil => simp [lastByte]
  | cons part' parts ih =>
    by_cases hsame : current part' = some (addressByte addr part')
    · rw [List.filterMap_cons_none (by simp [partCommand, hsame]), ih]
      by_cases heq : part = part'
      · subst heq
        simp [hsame]
      · simp [heq]
    · rw [List.filterMap_cons_some (b := .setSearchAddr part' (addressByte addr part'))
        (by simp [partCommand, hsame])]
      show (lastByte part _).or (if part = part' then some (addressByte addr part') else none) = _
      rw [ih]
      by_cases heq : part = part'
      · subst heq
        by_cases hmem : part ∈ parts <;> simp [hsame, hmem]
      · simp [heq]

lemma lastByte_commands : lastByte part (commands current addr) =
    if current part ≠ some (addressByte addr part) then some (addressByte addr part) else none := by
  have hmem : part ∈ [AddressPart.high, .medium, .low] := by cases part <;> decide
  rw [commands, lastByte_partCommands]
  simp [hmem]

/-- What a call leaves unsent is what is remembered already. -/
lemma or_lastByte_commands :
    (lastByte part (commands current addr)).or (current part) = some (addressByte addr part) := by
  rw [lastByte_commands]
  by_cases hsame : current part = some (addressByte addr part)
  · simp [hsame]
  · simp [hsame]

lemma or_lastByte_frames {call : SearchCall} :
    (lastByte part (call.frames current)).or (current part) = call.remembers current part := by
  cases call with
  | setSearchAddr addr => exact or_lastByte_commands
  | compare addr =>
    show (lastByte part (commands current addr ++ [.compare])).or (current part) = _
    rw [lastByte_append]
    exact or_lastByte_commands
  | batch addrs =>
    show (lastByte part (batchCommands current addrs)).or (current part) =
      addrs.foldl (fun _ addr part => some (addressByte addr part)) current part
    induction addrs generalizing current with
    | nil => rfl
    | cons addr addrs ih =>
      rw [List.foldl_cons, ← ih, batchCommands, lastByte_append, lastByte_append, Option.or_assoc]
      congr 1
      exact or_lastByte_commands

namespace SearchAddressWriter

variable {writer : SearchAddressWriter} {call : SearchCall} {passes : ℕ → ℕ → Bool}

lemma held_call : (writer.call call passes).bus.held part =
    (lastByte part (call.attempts writer.current passes).flatten).getD (writer.bus.held part) :=
  SearchBus.held_foldl_attempt

/-- A call whose bytes get through leaves what the devices hold as the writer remembers it. -/
lemma truthful_call (h : writer.Truthful) (hdelivers : writer.Delivers (call, passes)) :
    (writer.call call passes).Truthful := by
  intro part value hvalue
  have hremembers : (lastByte part (call.frames writer.current)).or (writer.current part) =
      some value := or_lastByte_frames.trans hvalue
  rw [held_call, hdelivers part]
  cases hlast : lastByte part (call.frames writer.current) with
  | some byte =>
    rw [hlast] at hremembers
    exact Option.some.inj hremembers
  | none =>
    rw [hlast] at hremembers
    exact h part value hremembers

/-! ### The address of a comparison -/

lemma transmitted_append_compare {frames : List Frame} {pass : ℕ → Bool} :
    transmitted (frames ++ [.compare]) pass =
      transmitted frames pass ++ if pass frames.length then [.compare] else [] := by
  unfold transmitted
  rw [List.zipIdx_append, List.filter_append, List.map_append]
  congr 1
  cases hpass : pass frames.length with
  | true => simp [hpass]
  | false => simp [hpass]

lemma compare_not_mem_transmitted {frames : List Frame} {pass : ℕ → Bool}
    (h : Frame.compare ∉ frames) : Frame.compare ∉ transmitted frames pass := by
  intro hmem
  obtain ⟨⟨frame, index⟩, hfilter, rfl⟩ := List.mem_map.1 hmem
  exact h (List.fst_mem_of_mem_zipIdx (List.mem_filter.1 hfilter).1)

lemma compare_not_mem_commands : Frame.compare ∉ commands current addr := by
  intro hmem
  obtain ⟨part, -, hpart⟩ := List.mem_filterMap.1 hmem
  unfold partCommand at hpart
  split at hpart <;> cases hpart

/-- A COMPARE at the end of an attempt meets the address that the attempt leaves. -/
lemma comparedAt_attempt {bus : SearchBus} {frames : List Frame} {pass : ℕ → Bool}
    {held : AddressPart → ℕ} (hframes : Frame.compare ∉ frames)
    (h : (bus.attempt (transmitted (frames ++ [.compare]) pass)).comparedAt = some held) :
    (bus.attempt (transmitted (frames ++ [.compare]) pass)).held = held := by
  rw [transmitted_append_compare, SearchBus.attempt, List.foldl_append] at h ⊢
  cases hpass : pass frames.length with
  | true =>
    rw [hpass] at h
    exact Option.some.inj h
  | false =>
    -- the COMPARE of this attempt does not get through
    rw [hpass] at h
    have hnone := @SearchBus.comparedAt_foldl_receive { bus with comparedAt := none } _
      (@compare_not_mem_transmitted _ pass hframes)
    exact absurd (hnone.symm.trans h) nofun

lemma comparedAt_sendAttempts {bus : SearchBus} {frames : List Frame} {held : AddressPart → ℕ}
    {attempt left : ℕ} (hframes : Frame.compare ∉ frames)
    (hbus : bus.comparedAt = some held → bus.held = held)
    (h : ((sendAttempts (frames ++ [.compare]) passes attempt left).foldl
      SearchBus.attempt bus).comparedAt = some held) :
    ((sendAttempts (frames ++ [.compare]) passes attempt left).foldl
      SearchBus.attempt bus).held = held := by
  induction left generalizing bus attempt with
  | zero => exact hbus h
  | succ left ih =>
    rw [sendAttempts, List.foldl_cons] at h ⊢
    split at h
    case isTrue hall =>
      rw [if_pos hall]
      exact comparedAt_attempt hframes h
    case isFalse hall =>
      rw [if_neg hall]
      exact ih (comparedAt_attempt hframes) h

/-- The answer of a comparison is that to the address that it leaves on the bus. -/
lemma comparedAt_compare {held : AddressPart → ℕ}
    (h : (writer.call (.compare addr) passes).bus.comparedAt = some held) :
    (writer.call (.compare addr) passes).bus.held = held :=
  comparedAt_sendAttempts compare_not_mem_commands nofun h

/-! ### What a single address takes -/

lemma exists_of_lastByte {frames : List Frame} {value : ℕ} (h : lastByte part frames = some value) :
    ∃ frame ∈ frames, frame.byte? part = some value := by
  induction frames with
  | nil => cases h
  | cons frame frames ih =>
    rcases Option.or_eq_some_iff.1 h with hlast | ⟨-, hbyte⟩
    · obtain ⟨frame', hmem, hbyte⟩ := ih hlast
      exact ⟨frame', List.mem_cons_of_mem _ hmem, hbyte⟩
    · exact ⟨frame, List.mem_cons_self, hbyte⟩

lemma mem_of_mem_sendAttempts {frames frames' : List Frame} {frame : Frame} {attempt left : ℕ}
    (h : frames' ∈ sendAttempts frames passes attempt left) (hframe : frame ∈ frames') :
    frame ∈ frames := by
  induction left generalizing attempt with
  | zero => cases h
  | succ left ih =>
    rw [sendAttempts, List.mem_cons] at h
    rcases h with rfl | h
    · obtain ⟨⟨frame', index⟩, hfilter, rfl⟩ := List.mem_map.1 hframe
      exact List.fst_mem_of_mem_zipIdx (List.mem_filter.1 hfilter).1
    · split at h
      · cases h
      · exact ih h

/-- Nothing gets through that the call does not send. -/
lemma mem_frames_of_mem_attempts {frame : Frame}
    (h : frame ∈ (call.attempts current passes).flatten) : frame ∈ call.frames current := by
  obtain ⟨frames, hattempt, hframe⟩ := List.mem_flatten.1 h
  cases call with
  | setSearchAddr addr =>
    obtain ⟨⟨frame', index⟩, hmem, hattempt⟩ := List.mem_flatMap.1 hattempt
    obtain rfl := List.mem_singleton.1 (mem_of_mem_sendAttempts hattempt hframe)
    exact List.fst_mem_of_mem_zipIdx hmem
  | compare addr => exact mem_of_mem_sendAttempts hattempt hframe
  | batch addrs => exact mem_of_mem_sendAttempts hattempt hframe

/-- The byte of a frame that a call for a single address sends is that of the address, and is not
remembered to be on the bus. -/
lemma byte?_eq_some_of_mem {frame : Frame} {value : ℕ}
    (hmem : frame ∈ commands current addr ++ [.compare]) (h : frame.byte? part = some value) :
    value = addressByte addr part ∧ current part ≠ some (addressByte addr part) := by
  rcases List.mem_append.1 hmem with hmem | hmem
  · obtain ⟨part', -, hpart⟩ := List.mem_filterMap.1 hmem
    unfold partCommand at hpart
    split at hpart
    case isTrue hne =>
      obtain rfl := Option.some.inj hpart
      obtain ⟨rfl, heq⟩ := Option.ite_none_right_eq_some.1 h
      exact ⟨(Option.some.inj heq).symm, hne⟩
    case isFalse => cases hpart
  · rw [List.mem_singleton.1 hmem] at h
    cases h

/-- A call for a single address keeps the memory of a writer that knows what the devices hold only
if it gets its bytes through. -/
lemma delivers_of_truthful (h : writer.Truthful) (hknown : ∀ part, writer.current part ≠ none)
    (hcall : call = .setSearchAddr addr ∨ call = .compare addr)
    (hafter : (writer.call call passes).Truthful) : writer.Delivers (call, passes) := by
  have hframes : ∀ frame ∈ call.frames writer.current,
      frame ∈ commands writer.current addr ++ [.compare] := by
    rcases hcall with rfl | rfl
    · exact fun frame hmem => List.mem_append_left _ hmem
    · exact fun frame hmem => hmem
  have hremembers : call.remembers writer.current = fun part => some (addressByte addr part) := by
    rcases hcall with rfl | rfl <;> rfl
  intro part
  show lastByte part (call.attempts writer.current passes).flatten =
    lastByte part (call.frames writer.current)
  have hor := @or_lastByte_frames writer.current part call
  rw [hremembers] at hor
  have hheld := hafter part (addressByte addr part) (congrFun hremembers part)
  rw [held_call] at hheld
  cases hsent : lastByte part (call.frames writer.current) with
  | none =>
    -- what the devices are not told cannot get through
    refine Option.eq_none_iff_forall_ne_some.2 fun value hvalue => ?_
    obtain ⟨frame, hmem, hbyte⟩ := exists_of_lastByte hvalue
    rw [hsent] at hor
    exact (byte?_eq_some_of_mem (hframes frame (mem_frames_of_mem_attempts hmem)) hbyte).2 hor
  | some value =>
    obtain ⟨frame, hmem, hbyte⟩ := exists_of_lastByte hsent
    obtain ⟨rfl, hne⟩ := byte?_eq_some_of_mem (hframes frame hmem) hbyte
    cases hgot : lastByte part (call.attempts writer.current passes).flatten with
    | some value =>
      obtain ⟨frame, hmem, hbyte⟩ := exists_of_lastByte hgot
      rw [(byte?_eq_some_of_mem (hframes frame (mem_frames_of_mem_attempts hmem)) hbyte).1]
    | none =>
      -- the devices still hold the byte that is remembered from before
      obtain ⟨value, hvalue⟩ := Option.ne_none_iff_exists'.1 (hknown part)
      rw [hgot, Option.getD_none, h part value hvalue] at hheld
      exact absurd (hheld ▸ hvalue) hne

/-- In a run whose calls get their bytes through, the devices hold what the writer remembers, and
the COMPARE whose answer `compare` returns meets the address that it is about.  A call for a
single address that does not get its bytes through ends that, once the writer knows the whole
address. -/
theorem truthful_of_delivers (writer : SearchAddressWriter)
    (h : transition.Reach Delivers writer) :
    writer.Truthful ∧
      (∀ addr passes, writer.Delivers (.compare addr, passes) →
        ∀ held, (writer.call (.compare addr) passes).bus.comparedAt = some held →
          held = addressByte addr) ∧
      ((∀ part, writer.current part ≠ none) → ∀ addr call passes,
        call = .setSearchAddr addr ∨ call = .compare addr →
          ((writer.call call passes).Truthful ↔ writer.Delivers (call, passes))) := by
  have htruthful : writer.Truthful := by
    refine Transition.Reach.invariant (I := Truthful) ?_ ?_ h
    · intro writer hinit part value hvalue
      rw [hinit] at hvalue
      cases hvalue
    · rintro writer ⟨call, passes⟩ writer' htruthful hdelivers hstep
      rw [← Option.some.inj hstep]
      exact truthful_call htruthful hdelivers
  refine ⟨htruthful, fun addr passes hdelivers held hcompared => ?_,
    fun hknown addr call passes hcall => ?_⟩
  · rw [← comparedAt_compare hcompared]
    funext part
    exact truthful_call htruthful hdelivers part _ rfl
  · exact ⟨delivers_of_truthful htruthful hknown hcall, truthful_call htruthful⟩

/-- The devices hold an address that the writer does not know. -/
def initialWriter : SearchAddressWriter where
  bus := { held := fun _ => 0 }

/-- The first comparison needs a second attempt. -/
theorem truthful_of_delivers_secondAttempt :
    ∃ writer, (writer.bus.held = addressByte 0x7FFFFF ∧ writer.Truthful) ∧
      transition.Reach Delivers writer := by
  have hrun : (transition.run Delivers initialWriter
      [(.compare 0xFFFFFF, fun attempt index => attempt = 1 || index = 2),
        (.compare 0x7FFFFF, fun _ _ => true)]).any
      (fun writer => writer.bus.held = addressByte 0x7FFFFF) = true := by decide +kernel
  obtain ⟨writer, hwriter, hheld⟩ := (Option.any_eq_true _ _).1 hrun
  have hinit : transition.Reach Delivers initialWriter := .init rfl
  have hreach := hinit.run hwriter
  exact ⟨writer, ⟨of_decide_eq_true hheld, (truthful_of_delivers writer hreach).1⟩, hreach⟩

/-- The high byte of the second address does not get through in three attempts, and the devices
compare with the first one. -/
theorem exists_compare_misdirected : ∃ writer, transition.Reachable writer ∧
    writer.current = (fun part => some (addressByte 0x7FFFFF part)) ∧
      writer.bus.comparedAt = some (addressByte 0xFFFFFF) ∧ ¬writer.Truthful := by
  have hrun : (transition.run (fun _ _ => True) initialWriter
      [(.compare 0xFFFFFF, fun _ _ => true), (.compare 0x7FFFFF, fun _ index => index = 1)]).any
      (fun writer => writer.current = (fun part => some (addressByte 0x7FFFFF part)) ∧
        writer.bus.held = addressByte 0xFFFFFF ∧
          writer.bus.comparedAt = some (addressByte 0xFFFFFF)) = true := by decide +kernel
  obtain ⟨writer, hwriter, hstate⟩ := (Option.any_eq_true _ _).1 hrun
  obtain ⟨hcurrent, hheld, hcompared⟩ := of_decide_eq_true hstate
  have hinit : transition.Reachable initialWriter := .init rfl
  refine ⟨writer, hinit.run hwriter, hcurrent, hcompared, fun htruthful => ?_⟩
  have hhigh := htruthful .high _ (congrFun hcurrent .high)
  rw [hheld] at hhigh
  exact absurd hhigh (by decide)

end SearchAddressWriter

end WbMqttDali.Commissioning
