import Mathlib
import WbMqttDali.Driver.Step

/-!
# The batches form a ring

Every batch that is handed to `publish` starts behind the last slot of the batch
handed over before it, whether that one was refused or not, or at slot 0 after a
reset of the queue pointer that the gateway got.

The indices of the sender advance when a batch is built, so a batch that fails
before it is handed over leaves a gap.  The reason it fails for, the gateway being
unavailable, makes a resync due, which the next batch starts with.
-/

namespace WbMqttDali.Driver

/-! ### The log of the Modbus RPCs -/

def isWrite (sent : SentRpc) : Bool := sent.rpc.function = writeFunction

def isReset (sent : SentRpc) : Bool := sent.rpc.function = resetFunction

/-- The first slot a write goes to. -/
def startSlot (config : WBDALIConfig) (sent : SentRpc) : ℕ :=
  (sent.rpc.address - config.queueAddress) / 2

/-- How many slots a write goes to. -/
def slotCount (sent : SentRpc) : ℕ := sent.rpc.count / 2

section Log

variable (config : WBDALIConfig) (counts : SentRpc → Bool)

/-- The slot behind the last write that counts. -/
def slotAfter (rpcs : List SentRpc) : ℕ :=
  match rpcs.find? counts with
  | none => 0
  | some last => (startSlot config last + slotCount last) % config.queueSize

/-- The gateway got a reset after the last write that counts. -/
def ResetSince (rpcs : List SentRpc) : Prop :=
  ∃ sent ∈ rpcs.takeWhile (fun sent => !counts sent), isReset sent ∧ sent.delivered

/-- Every write that counts starts behind the last one or, after a reset, at slot 0. -/
def Contiguous (rpcs : List SentRpc) : Prop :=
  ∀ later sent earlier, rpcs = later ++ sent :: earlier → counts sent →
    startSlot config sent = slotAfter config counts earlier ∨
      startSlot config sent = 0 ∧ ResetSince counts earlier

variable {config counts}

lemma contiguous_nil : Contiguous config counts [] := by
  intro later sent earlier h
  simp at h

lemma contiguous_cons {sent : SentRpc} {rpcs : List SentRpc} :
    Contiguous config counts (sent :: rpcs) ↔
      (counts sent → startSlot config sent = slotAfter config counts rpcs ∨
        startSlot config sent = 0 ∧ ResetSince counts rpcs) ∧ Contiguous config counts rpcs := by
  constructor
  · intro h
    refine ⟨h [] sent rpcs rfl, fun later sent' earlier heq => ?_⟩
    exact h (sent :: later) sent' earlier (by rw [heq, List.cons_append])
  · rintro ⟨hhead, hrest⟩ later sent' earlier heq
    cases later with
    | nil =>
      obtain ⟨rfl, rfl⟩ := List.cons.inj heq
      exact hhead
    | cons _ later =>
      obtain ⟨rfl, rfl⟩ := List.cons.inj heq
      exact hrest later sent' earlier rfl

instance (rpcs : List SentRpc) : Decidable (ResetSince counts rpcs) :=
  inferInstanceAs (Decidable (∃ sent ∈ _, _))

instance decidableContiguous : DecidablePred (Contiguous config counts)
  | [] => isTrue contiguous_nil
  | _ :: rpcs =>
    have := decidableContiguous rpcs
    decidable_of_iff _ contiguous_cons.symm

lemma slotAfter_cons_of_not {sent : SentRpc} {rpcs : List SentRpc} (h : counts sent = false) :
    slotAfter config counts (sent :: rpcs) = slotAfter config counts rpcs := by
  simp [slotAfter, h]

lemma slotAfter_cons {sent : SentRpc} {rpcs : List SentRpc} (h : counts sent) :
    slotAfter config counts (sent :: rpcs) =
      (startSlot config sent + slotCount sent) % config.queueSize := by
  simp [slotAfter, h]

end Log

/-! ### The invariant -/

section Ring

variable {config : WBDALIConfig} {s s' : State} {flush : Flush}

/-- The next batch starts with a reset, or fails and leaves this so. -/
def ResyncDue (s : State) : Prop :=
  s.pendingResync ∨ s.session ≠ s.syncedSession ∨ s.GatewayUnavailable

/-- The slot `index` is where the ring goes on, unless a resync is due. -/
def GoesOn (config : WBDALIConfig) (s : State) (index : ℕ) : Prop :=
  ResyncDue s ∨ index % config.queueSize = slotAfter config isWrite s.rpcs

/-- How far the batch of a flush may reach. -/
def Fits (config : WBDALIConfig) (index : ℕ) : Flush → Prop
  | .queueEnd => index ≤ config.queueSize
  | _ => index < config.queueSize

lemma Fits.le {index : ℕ} (h : Fits config index flush) : index ≤ config.queueSize := by
  cases flush with
  | slot => exact Nat.le_of_lt h
  | timeout => exact Nat.le_of_lt h
  | queueEnd => exact h

/-- The batch that a flush is about to send. -/
def Flushing (config : WBDALIConfig) (s : State) (flush : Flush) : Prop :=
  s.batch ≠ [] ∧ s.batchStartIndex + s.batch.length = s.nextQueueIndex ∧
    Fits config s.nextQueueIndex flush ∧ GoesOn config s s.batchStartIndex

/-- The indices as the sender knows them at its `await`. -/
def Indexed (config : WBDALIConfig) (s : State) : SenderAt → Prop
  | .get _ => s.batchStartIndex + s.batch.length = s.nextQueueIndex ∧
      s.nextQueueIndex < config.queueSize ∧ GoesOn config s s.batchStartIndex
  | .slot _ => s.batch = [] ∧ s.batchStartIndex = s.nextQueueIndex ∧
      s.nextQueueIndex < config.queueSize ∧ GoesOn config s s.batchStartIndex
  | .sleep flush _ => Flushing config s flush
  | .reset flush => Flushing config s flush ∧ s.pendingResync ∧
      ∃ sent rpcs, s.rpcs = sent :: rpcs ∧ isReset sent
  | .write flush => Fits config s.nextQueueIndex flush ∧ GoesOn config s s.nextQueueIndex

/-- What the sender keeps through a flush. -/
structure RingFlush (config : WBDALIConfig) (s : State) : Prop where
  contiguous : Contiguous config isWrite s.rpcs
  session : s.syncedSession ≤ s.session

/-- The invariant behind the ring. -/
structure RingKept (config : WBDALIConfig) (s : State) : Prop extends RingFlush config s where
  indexed : Indexed config s s.sender

/-- What a step may do to the invariant without touching an index: the resync stays due. -/
lemma RingKept.frame (h : RingKept config s)
    (hrpcs : s'.rpcs = s.rpcs) (hsession : s'.syncedSession ≤ s'.session)
    (hdue : ResyncDue s → ResyncDue s') (hpending : s.pendingResync → s'.pendingResync)
    (hstart : s'.batchStartIndex = s.batchStartIndex)
    (hnext : s'.nextQueueIndex = s.nextQueueIndex) (hbatch : s'.batch = s.batch)
    (hsender : s'.sender = s.sender) : RingKept config s' := by
  have hgoes : ∀ {index}, GoesOn config s index → GoesOn config s' index :=
    fun hg => hg.imp hdue fun heq => hrpcs ▸ heq
  refine ⟨⟨hrpcs ▸ h.contiguous, hsession⟩, ?_⟩
  have hindexed := h.indexed
  rw [hsender]
  revert hindexed
  cases s.sender <;>
    simp only [Indexed, Flushing, hrpcs, hstart, hnext, hbatch]
  case get => exact fun h => ⟨h.1, h.2.1, hgoes h.2.2⟩
  case slot => exact fun h => ⟨h.1, h.2.1, h.2.2.1, hgoes h.2.2.2⟩
  case sleep => exact fun h => ⟨h.1, h.2.1, h.2.2.1, hgoes h.2.2.2⟩
  case reset => exact fun h => ⟨⟨h.1.1, h.1.2.1, h.1.2.2.1, hgoes h.1.2.2.2⟩, hpending h.2.1, h.2.2⟩
  case write => exact fun h => ⟨h.1, hgoes h.2⟩

/-! ### The sender task -/

lemma RingFlush.waitForItem (h : RingFlush config s)
    (hnext : s.batchStartIndex + s.batch.length = s.nextQueueIndex)
    (hlt : s.nextQueueIndex < config.queueSize) (hgoes : GoesOn config s s.batchStartIndex) :
    RingKept config s.waitForItem :=
  ⟨⟨h.contiguous, h.session⟩, hnext, hlt, hgoes⟩

lemma RingFlush.waitForSlot (h : RingFlush config s) (w : WaitResponseItem)
    (hlt : s.nextQueueIndex < config.queueSize) (hgoes : GoesOn config s s.nextQueueIndex) :
    RingKept config (s.dropBatch.waitForSlot w) := by
  rw [State.waitForSlot]
  split
  · exact ⟨⟨h.contiguous, h.session⟩, rfl, rfl, hlt, hgoes⟩
  · exact RingFlush.waitForItem ⟨h.contiguous, h.session⟩ rfl hlt hgoes

lemma RingFlush.startOver (h : RingFlush config s) (hempty : s.batch = [])
    (hstart : s.batchStartIndex = s.nextQueueIndex) (hlt : s.nextQueueIndex < config.queueSize)
    (hgoes : GoesOn config s s.nextQueueIndex) : RingKept config s.startOver := by
  rw [State.startOver]
  split
  · exact h.waitForItem (by simp [hempty, hstart]) hlt (hstart ▸ hgoes)
  · exact h.waitForSlot _ hlt hgoes

lemma RingFlush.afterFlush (h : RingFlush config s) (hfits : Fits config s.nextQueueIndex flush)
    (hgoes : GoesOn config s s.nextQueueIndex) : RingKept config (s.afterFlush config flush) := by
  cases flush with
  | slot w => exact h.waitForSlot w hfits hgoes
  | timeout => exact RingFlush.startOver ⟨h.contiguous, h.session⟩ rfl rfl hfits hgoes
  | queueEnd =>
    simp only [State.afterFlush]
    split
    case isTrue heq =>
      refine RingFlush.startOver ⟨h.contiguous, h.session⟩ rfl rfl config.queueSize_pos ?_
      refine hgoes.imp id fun hslot => ?_
      rw [heq, Nat.mod_self] at hslot
      exact (Nat.zero_mod _).trans hslot
    case isFalse hne =>
      exact RingFlush.startOver ⟨h.contiguous, h.session⟩ rfl rfl (lt_of_le_of_ne hfits hne) hgoes

lemma RingFlush.onMqttError (h : RingFlush config s)
    (hfits : Fits config s.nextQueueIndex flush) (hgoes : GoesOn config s s.nextQueueIndex) :
    RingKept config (s.onMqttError config flush) :=
  RingFlush.afterFlush ⟨h.contiguous, h.session⟩ hfits hgoes

lemma startSlot_write (startIndex count : ℕ) (id : ℕ) (msg : String) (delivered : Bool) :
    startSlot config ⟨⟨id, writeFunction, config.queueAddress + startIndex * 2, count, msg⟩,
      delivered⟩ = startIndex := by
  simp [startSlot]

/-- A batch is written where the ring goes on, or to slot 0 after a reset. -/
lemma RingFlush.writeBatch (h : RingFlush config s)
    (hnext : s.batchStartIndex + s.batch.length = s.nextQueueIndex)
    (hfits : Fits config s.nextQueueIndex flush)
    (hstart : s.batchStartIndex = slotAfter config isWrite s.rpcs ∨
      s.batchStartIndex = 0 ∧ ResetSince isWrite s.rpcs) :
    RingKept config (s.writeBatch config flush) := by
  set sent : State := { s with
    toInFlight := s.toInFlight.register s.batchStartIndex s.batch
    }.writeBatchRpc config s.batchStartIndex with hsent
  have hflush : RingFlush config sent := by
    refine ⟨contiguous_cons.2 ⟨fun _ => ?_, h.contiguous⟩, h.session⟩
    rw [startSlot_write]
    exact hstart
  have hgoes : GoesOn config sent sent.nextQueueIndex := by
    refine .inr (.trans ?_ (slotAfter_cons rfl).symm)
    rw [startSlot_write, slotCount, Nat.mul_div_cancel _ (by decide), hnext]
    rfl
  rw [State.writeBatch, ← hsent]
  split
  · exact ⟨⟨hflush.contiguous, hflush.session⟩, hfits, hgoes⟩
  · exact hflush.onMqttError hfits hgoes

lemma RingFlush.afterReset (h : RingFlush config s) (hflush : Flushing config s flush)
    {sent : SentRpc} {rpcs : List SentRpc} (hrpcs : s.rpcs = sent :: rpcs) (hreset : isReset sent)
    (hdelivered : sent.delivered) : RingKept config (s.afterReset config flush) := by
  obtain ⟨-, hnext, hfits, -⟩ := hflush
  have hwrite : isWrite sent = false := by
    simp only [isReset, isWrite, decide_eq_true_eq, decide_eq_false_iff_not] at hreset ⊢
    rw [hreset]
    decide
  refine RingFlush.writeBatch ⟨h.contiguous, h.session⟩ (Nat.zero_add _) ?_ (.inr ⟨rfl, ?_⟩)
  · have hle : s.batch.length ≤ s.nextQueueIndex := by omega
    cases flush with
    | slot => exact hle.trans_lt hfits
    | timeout => exact hle.trans_lt hfits
    | queueEnd => exact hle.trans hfits
  · refine ⟨sent, ?_, hreset, hdelivered⟩
    change sent ∈ s.rpcs.takeWhile _
    rw [hrpcs, List.takeWhile_cons_of_pos (by simp [hwrite])]
    exact List.mem_cons_self

lemma RingFlush.syncWithBrokerSession (h : RingFlush config s) :
    RingFlush config s.syncWithBrokerSession ∧
      s.syncWithBrokerSession.session = s.syncWithBrokerSession.syncedSession := by
  rw [State.syncWithBrokerSession]
  split
  case isTrue heq => exact ⟨h, heq⟩
  case isFalse => exact ⟨⟨h.contiguous, le_rfl⟩, rfl⟩

/-- The sync keeps a resync due. -/
lemma Flushing.syncWithBrokerSession (h : Flushing config s flush) :
    Flushing config s.syncWithBrokerSession flush := by
  rw [State.syncWithBrokerSession]
  split
  · exact h
  · exact ⟨h.1, h.2.1, h.2.2.1, .inl (.inl rfl)⟩

lemma RingFlush.afterWait (h : RingFlush config s) (hflush : Flushing config s flush) :
    RingKept config (s.afterWait config flush) := by
  set s₀ : State :=
    { s with overheatRateLimiter := s.overheatRateLimiter.finishWait s.now } with hs₀
  have h₀ : RingFlush config s₀ := ⟨h.contiguous, h.session⟩
  obtain ⟨hring, hsession⟩ := h₀.syncWithBrokerSession
  have hflush' : Flushing config s₀.syncWithBrokerSession flush :=
    Flushing.syncWithBrokerSession (s := s₀) hflush
  rw [State.afterWait, ← hs₀]
  set s₁ := s₀.syncWithBrokerSession
  obtain ⟨hne, hnext, hfits, hgoes⟩ := hflush'
  simp only
  split
  case isTrue hunavailable =>
    exact RingFlush.afterFlush ⟨hring.contiguous, hring.session⟩ hfits
      (.inl (.inr (.inr hunavailable)))
  case isFalse havailable =>
    split
    case isTrue hresync =>
      refine ⟨⟨contiguous_cons.2 ⟨fun hw => ?_, hring.contiguous⟩, hring.session⟩,
        ⟨hne, hnext, hfits, .inl (.inl hresync)⟩, hresync, _, _, rfl, rfl⟩
      simp [isWrite, writeFunction, resetFunction] at hw
    case isFalse hresync =>
      refine hring.writeBatch hnext hfits (.inl ?_)
      have hpos : 0 < s₁.batch.length := List.length_pos_iff.2 hne
      have hle := hfits.le
      rcases hgoes with (hdue | hdue | hdue) | hslot
      · exact absurd hdue hresync
      · exact absurd hsession hdue
      · exact absurd hdue havailable
      · rwa [Nat.mod_eq_of_lt (by omega)] at hslot

lemma RingFlush.sendToGateway (h : RingFlush config s)
    (hnext : s.batchStartIndex + s.batch.length = s.nextQueueIndex)
    (hfits : Fits config s.nextQueueIndex flush) (hgoes : GoesOn config s s.batchStartIndex) :
    RingKept config (s.sendToGateway config flush) := by
  rw [State.sendToGateway]
  split
  case isTrue hempty =>
    have hstart : s.batchStartIndex = s.nextQueueIndex := by simpa [hempty] using hnext
    exact h.afterFlush hfits (hstart ▸ hgoes)
  case isFalse hne =>
    simp only
    split
    · exact ⟨⟨h.contiguous, h.session⟩, hne, hnext, hfits, hgoes⟩
    · exact h.afterWait ⟨hne, hnext, hfits, hgoes⟩

lemma RingFlush.loopTop (h : RingFlush config s)
    (hnext : s.batchStartIndex + s.batch.length = s.nextQueueIndex)
    (hlt : s.nextQueueIndex < config.queueSize) (hgoes : GoesOn config s s.batchStartIndex) :
    RingKept config (s.loopTop config) := by
  rw [State.loopTop]
  split
  · exact h.waitForItem hnext hlt hgoes
  · exact h.sendToGateway hnext hlt hgoes

lemma RingFlush.onItem (h : RingFlush config s)
    (hnext : s.batchStartIndex + s.batch.length = s.nextQueueIndex)
    (hlt : s.nextQueueIndex < config.queueSize) (hgoes : GoesOn config s s.batchStartIndex)
    (item : SendQueueItem) : RingKept config (s.onItem config item) := by
  rw [State.onItem]
  simp only
  split
  · exact RingFlush.loopTop ⟨h.contiguous, h.session⟩ hnext hlt hgoes
  · have hnext' : s.batchStartIndex + (s.batch ++ [item]).length = s.nextQueueIndex + 1 := by
      simp only [List.length_append, List.length_singleton]
      omega
    split
    case isTrue heq =>
      exact RingFlush.sendToGateway ⟨h.contiguous, h.session⟩ hnext' heq.le hgoes
    case isFalse hne =>
      exact RingFlush.loopTop ⟨h.contiguous, h.session⟩ hnext' (lt_of_le_of_ne hlt hne) hgoes

/-! ### Steps and runs -/

/-- A delivery changes neither what a write is nor where it goes. -/
lemma contiguous_markDelivered (h : Contiguous config isWrite s.rpcs) :
    Contiguous config isWrite s.markDelivered.rpcs ∧
      slotAfter config isWrite s.markDelivered.rpcs = slotAfter config isWrite s.rpcs := by
  rw [State.markDelivered]
  split
  case h_1 => exact ⟨h, rfl⟩
  case h_2 last rpcs hrpcs =>
    rw [hrpcs] at h ⊢
    rw [contiguous_cons] at h
    refine ⟨contiguous_cons.2 h, ?_⟩
    change slotAfter config isWrite (⟨last.rpc, true⟩ :: rpcs) = _
    cases hwrite : isWrite last with
    | false =>
      have hwrite' : isWrite ⟨last.rpc, true⟩ = false := hwrite
      rw [slotAfter_cons_of_not hwrite, slotAfter_cons_of_not hwrite']
    | true =>
      have hwrite' : isWrite ⟨last.rpc, true⟩ = true := hwrite
      rw [slotAfter_cons hwrite, slotAfter_cons hwrite']
      rfl

/-- Every step keeps the ring. -/
theorem RingKept.step {e : Event} (h : RingKept config s) (hstep : step config s e = some s') :
    RingKept config s' := by
  have hindexed := h.indexed
  cases happens_of_step hstep with
  | put => exact h.frame rfl h.session id id rfl rfl rfl rfl
  | sendUnavailable => exact h.frame rfl h.session id id rfl rfl rfl rfl
  | cancel => exact h.frame rfl h.session id id rfl rfl rfl rfl
  | setResponseTimeout => exact h.frame rfl h.session id id rfl rfl rfl rfl
  | replyRetained => exact h
  | replyUnknown => exact h.frame rfl h.session id id rfl rfl rfl rfl
  | reply => exact h.frame rfl h.session id id rfl rfl rfl rfl
  | metaIgnored => exact h
  | unreachable =>
    refine h.frame rfl h.session (fun hdue => ?_) id rfl rfl rfl rfl
    exact .inr (.inr (.inl rfl))
  | reachable => exact h.frame rfl h.session (fun _ => .inl rfl) (fun _ => rfl) rfl rfl rfl rfl
  | connectionLost =>
    exact h.frame rfl h.session (fun _ => .inr (.inr (.inr rfl))) id rfl rfl rfl rfl
  | connectionRestored =>
    -- a new session, so that the pointer of the gateway is to be reset
    have hlt : s.syncedSession < s.session + 1 := Nat.lt_succ_of_le h.session
    exact h.frame rfl hlt.le (fun _ => .inr (.inl hlt.ne')) id rfl rfl rfl rfl
  | tick => exact h.frame rfl h.session id id rfl rfl rfl rfl
  | timer => exact h.frame rfl h.session id id rfl rfl rfl rfl
  | busFrame => exact h.frame rfl h.session id id rfl rfl rfl rfl
  | register => exact h.frame rfl h.session id id rfl rfl rfl rfl
  | cleanup => exact h.frame rfl h.session id id rfl rfl rfl rfl
  | @itemReceived _ item sendQueue hsender =>
    rw [hsender] at hindexed
    obtain ⟨hnext, hlt, hgoes⟩ := hindexed
    exact RingFlush.onItem (s := { s with sendQueue })
      ⟨h.contiguous, h.session⟩ hnext hlt hgoes item
  | itemTimeout hsender =>
    rw [hsender] at hindexed
    obtain ⟨hnext, hlt, hgoes⟩ := hindexed
    exact h.toRingFlush.sendToGateway hnext hlt hgoes
  | slotDone hsender =>
    rw [hsender] at hindexed
    obtain ⟨hempty, hstart, hlt, hgoes⟩ := hindexed
    exact h.toRingFlush.waitForItem (by simp [hempty, hstart]) hlt hgoes
  | sleepDone hsender =>
    rw [hsender] at hindexed
    exact h.toRingFlush.afterWait hindexed
  | deliverReset hsender =>
    rw [hsender] at hindexed
    -- the reset is the last publish, and is delivered now
    obtain ⟨⟨hne, hnext, hfits, -⟩, hresync, sent, rpcs, hrpcs, hreset⟩ := hindexed
    obtain ⟨hcontiguous, -⟩ := contiguous_markDelivered h.contiguous
    have heq : s.markDelivered = { s with rpcs := { sent with delivered := true } :: rpcs } := by
      simp [State.markDelivered, hrpcs]
    rw [heq] at hcontiguous ⊢
    refine ⟨⟨hcontiguous, h.session⟩, ?_⟩
    change Indexed config _ s.sender
    rw [hsender]
    exact ⟨⟨hne, hnext, hfits, .inl (.inl hresync)⟩, hresync, _, _, rfl, hreset⟩
  | deliverWrite hsender =>
    rw [hsender] at hindexed
    obtain ⟨hcontiguous, hslot⟩ := contiguous_markDelivered h.contiguous
    obtain ⟨rpcs, heq⟩ := s.markDelivered_eq
    rw [heq] at hcontiguous hslot ⊢
    refine ⟨⟨hcontiguous, h.session⟩, ?_⟩
    change Indexed config _ s.sender
    rw [hsender]
    exact ⟨hindexed.1, hindexed.2.imp id fun hgoes => hgoes.trans hslot.symm⟩
  | resetReturns hsender hdelivered =>
    rw [hsender] at hindexed
    obtain ⟨hflush, -, sent, rpcs, hrpcs, hreset⟩ := hindexed
    refine h.toRingFlush.afterReset hflush hrpcs hreset ?_
    simpa [State.LastDelivered, hrpcs] using hdelivered
  | writeReturns hsender =>
    rw [hsender] at hindexed
    exact h.toRingFlush.afterFlush hindexed.1 hindexed.2
  | resetRaises hsender =>
    rw [hsender] at hindexed
    obtain ⟨⟨-, -, hfits, -⟩, hresync, -⟩ := hindexed
    exact h.toRingFlush.onMqttError hfits (.inl (.inl hresync))
  | writeRaises hsender =>
    rw [hsender] at hindexed
    exact h.toRingFlush.onMqttError hindexed.1 hindexed.2

lemma ringKept_initial (listeners : Finset ℕ) (connected : Bool) (session : ℕ)
    (resetDelivered : Bool) :
    RingKept config (initial config listeners connected session resetDelivered) := by
  have hcontiguous : ∀ sent : SentRpc, isWrite sent = false →
      Contiguous config isWrite [sent] := by
    intro sent hsent
    exact contiguous_cons.2 ⟨fun h => by simp [hsent] at h, contiguous_nil⟩
  cases resetDelivered with
  | false => exact ⟨⟨hcontiguous _ rfl, le_rfl⟩, rfl, config.queueSize_pos, .inl (.inl rfl)⟩
  | true => exact ⟨⟨hcontiguous _ rfl, le_rfl⟩, rfl, config.queueSize_pos, .inr (Nat.zero_mod _)⟩

end Ring

/-- In every run each batch that is handed to `publish` starts behind the last slot of the
one before it, or at slot 0 after a reset that was delivered. -/
theorem batches_contiguous (config : WBDALIConfig) (s : State)
    (h : (driver config).Reachable s) : Contiguous config isWrite s.rpcs := by
  have hkept : RingKept config s := by
    refine h.invariant ?_ fun s e s' hkept _ hstep => hkept.step hstep
    rintro s ⟨listeners, connected, session, resetDelivered, rfl⟩
    exact ringKept_initial listeners connected session resetDelivered
  exact hkept.contiguous

/-- The second of three batches is refused; the third is written behind its slot. -/
def refusedBatch : List Event :=
  List.flatten [queryStatusReceived, [.tick (1 / 100), .itemTimeout], published,
    queryStatusReceived, [.tick (2 / 100), .itemTimeout, .publishRaises],
    queryStatusReceived, [.tick (3 / 100), .itemTimeout], published]

theorem batches_contiguous_refusedBatch :
    ∃ s, after {} refusedBatch = some s ∧
      (s.rpcs.filter isWrite).map (fun sent => (sent.delivered, startSlot {} sent)) =
        [(true, 2), (false, 1), (true, 0)] ∧
      Contiguous {} isWrite s.rpcs := by
  have hrun : (after {} refusedBatch).any fun s =>
      (s.rpcs.filter isWrite).map (fun sent => (sent.delivered, startSlot {} sent)) =
        [(true, 2), (false, 1), (true, 0)] := by
    decide +kernel
  obtain ⟨s, hs, hwrites⟩ := (Option.any_eq_true _ _).1 hrun
  exact ⟨s, hs, of_decide_eq_true hwrites, batches_contiguous {} s (reachable_of_after hs)⟩

/-- The delivered batches alone need not be contiguous. -/
theorem exists_not_contiguous_delivered :
    ∃ s, (driver {}).Reachable s ∧
      ¬ Contiguous {} (fun sent => isWrite sent && sent.delivered) s.rpcs := by
  have hrun : (after {} refusedBatch).any (fun s =>
      ¬ Contiguous {} (fun sent => isWrite sent && sent.delivered) s.rpcs) := by
    decide +kernel
  obtain ⟨s, hafter, hs⟩ := (Option.any_eq_true _ _).1 hrun
  exact ⟨s, reachable_of_after hafter, of_decide_eq_true hs⟩

end WbMqttDali.Driver
