import Mathlib
import WbMqttDali.Driver.QueueOrder
import WbMqttDali.Driver.SendCalls

/-!
# What the callers find in the queue

The frames of a call stand in the send queue as one block, in the order of its
commands, and so do all frames of one sequence: a caller puts frames only while it
holds the lock, and it gets the lock once.  The responses of a call are the results
of its own commands.
-/

namespace WbMqttDali.Callers

open Driver (Response SendQueueItem FramePriority BusTrafficSource FutureState WBDALIConfig
  Written IsLined Lined)

/-! ### Callers -/

section Callers

variable {α : Type}

namespace Caller

/-- The calls of `_send_commands_internal` of a caller, in their order. -/
def calls : Caller α → List SendCall
  | .sendCommands call => [call]
  | .runSequence run => run.finished ++
    match run.place with
    | .sending _ call => [call]
    | _ => []

/-- Everything that a caller has put into the queue. -/
def items (caller : Caller α) : List SendQueueItem := caller.calls.flatMap SendCall.items

@[simp] lemma items_sendCommands (call : SendCall) :
    (Caller.sendCommands call : Caller α).items = call.items := by
  simp [items, calls]

def holdsLock : Caller α → Bool
  | .sendCommands call => call.place = .put
  | .runSequence run =>
    match run.place with
    | .resume | .sleep _ | .sending _ _ => true
    | .acquire | .returned _ | .raised => false

def waitsForLock : Caller α → Bool
  | .sendCommands call => call.place = .acquire
  | .runSequence run =>
    match run.place with
    | .acquire => true
    | _ => false

end Caller

namespace SequenceRun

variable (run : SequenceRun α) (single : Bool)

lemma calls_onResponses (responses : List Response) :
    (Caller.runSequence (run.onResponses single responses)).calls = run.finished ∧
      (Caller.runSequence (run.onResponses single responses)).waitsForLock = false := by
  cases single with
  | false => simp [onResponses, SequenceRun.reply, Caller.calls, Caller.waitsForLock]
  | true =>
    cases responses with
    | nil => simp [onResponses, Caller.calls, Caller.waitsForLock]
    | cons response responses =>
      simp [onResponses, SequenceRun.reply, Caller.calls, Caller.waitsForLock]

/-- A call that the sequence waits for, or has waited for, is among its calls. -/
lemma calls_onSent (call : SendCall) :
    (Caller.runSequence (run.onSent single call)).calls = run.finished ++ [call] ∧
      (Caller.runSequence (run.onSent single call)).waitsForLock = false := by
  rw [onSent]
  split
  · exact calls_onResponses { run with finished := run.finished ++ [call] } single _
  · exact calls_onResponses { run with finished := run.finished ++ [call] } single _
  · simp [Caller.calls, Caller.waitsForLock]
  · simp [Caller.calls, Caller.waitsForLock]
  · simp [Caller.calls, Caller.waitsForLock]
  · simp [Caller.calls, Caller.waitsForLock]

end SequenceRun

/-! ### The invariant -/

namespace State

variable (s : State α)

/-- What the caller `id` has put into the queue. -/
def itemsOf (id : ℕ) : List SendQueueItem :=
  match s.callers id with
  | none => []
  | some caller => caller.items

/-- All that `id` has put into the queue stands there in one block. -/
def Contiguous (id : ℕ) (items : List SendQueueItem) : Prop :=
  ∃ before after, s.queued = before ++ items.map (Queued.mk id) ++ after ∧
    ∀ entry ∈ before ++ after, entry.caller ≠ id

end State

/-- The invariant; `items` says for every caller what it has put into the queue. -/
structure Kept (items : ℕ → List SendQueueItem) (s : State α) : Prop where
  lined : IsLined s.driver.futures s.driver.nextFuture s.driver
  queued : s.queued.map (fun entry => entry.item.future) = List.range s.driver.nextFuture
  contiguous : ∀ id, s.lock ≠ some id → s.Contiguous id (items id)
  /-- the block of the holder of the lock is the last one -/
  last : ∀ id, s.lock = some id → ∃ before, s.queued = before ++ (items id).map (Queued.mk id) ∧
    ∀ entry ∈ before, entry.caller ≠ id
  holds : ∀ id caller, s.callers id = some caller → caller.holdsLock → s.lock = some id
  held : ∀ id, s.lock = some id → s.callers id ≠ none
  waits : ∀ id caller, s.callers id = some caller → caller.waitsForLock → items id = []
  sound : ∀ id caller, s.callers id = some caller →
    ∀ call ∈ caller.calls, call.Sound s.driver.futures

namespace Kept

variable {config : WBDALIConfig} {s s' : State α} {items : ℕ → List SendQueueItem} {id : ℕ}

/-- The driver does something of its own. -/
lemma driver (h : Kept items s) {driver : Driver.State}
    (hlined : IsLined s.driver.futures s.driver.nextFuture driver) :
    Kept items { s with driver } where
  lined := by
    have hnext := hlined.nextFuture
    exact ⟨rfl, hnext ▸ hlined.line, fun _ _ => id⟩
  queued := h.queued.trans (congrArg List.range hlined.nextFuture.symm)
  contiguous := h.contiguous
  last := h.last
  holds := h.holds
  held := h.held
  waits := h.waits
  sound := fun id caller hcaller call hcall =>
    (h.sound id caller hcaller call hcall).mono hlined.results

/-- The free lock is taken by a caller that has put nothing yet. -/
lemma takeLock (h : Kept items s) (hfree : s.lock = none) (hcaller : s.callers id ≠ none)
    (hempty : items id = []) :
    Kept items { s with lock := some id } where
  lined := h.lined
  queued := h.queued
  contiguous := fun id' _ => h.contiguous id' (by simp [hfree])
  last := by
    intro id' hid'
    obtain rfl : id = id' := Option.some.inj hid'
    obtain ⟨before, after, hqueued, hothers⟩ := h.contiguous id (by simp [hfree])
    refine ⟨s.queued, by simp [hempty], ?_⟩
    rw [hqueued, hempty, List.map_nil, List.append_nil]
    exact hothers
  holds := by
    intro id' caller hcaller hholds
    rw [h.holds id' caller hcaller hholds] at hfree
    cases hfree
  held := by
    intro id' hid'
    obtain rfl : id = id' := Option.some.inj hid'
    exact hcaller
  waits := h.waits
  sound := h.sound

/-- The lock is released by a caller that does not count as its holder any more. -/
lemma releaseLock (h : Kept items s) (hlock : s.lock = some id)
    (hholds : ∀ caller, s.callers id = some caller → caller.holdsLock = false) :
    Kept items { s with lock := none } where
  lined := h.lined
  queued := h.queued
  contiguous := by
    intro id' _
    by_cases hid : s.lock = some id'
    · obtain ⟨before, hqueued, hothers⟩ := h.last id' hid
      exact ⟨before, [], by simpa using hqueued, by simpa using hothers⟩
    · exact h.contiguous id' hid
  last := by simp
  holds := by
    intro id' caller hcaller hholds'
    obtain rfl : id = id' := by
      have := h.holds id' caller hcaller hholds'
      rw [hlock] at this
      exact Option.some.inj this
    rw [hholds caller hcaller] at hholds'
    cases hholds'
  held := by simp
  waits := h.waits
  sound := h.sound

/-- The holder of the lock puts a frame behind its others. -/
lemma putItem (h : Kept items s) (hlock : s.lock = some id) {item : SendQueueItem}
    {driver : Driver.State}
    (hput : s.driver.put config item.command item.source item.priority = some driver)
    (hfuture : item.future = s.driver.nextFuture)
    (hitems : ∀ caller, s.callers id = some caller → caller.waitsForLock = false) :
    Kept (Function.update items id (items id ++ [item]))
      { s with driver, queued := s.queued ++ [⟨id, item⟩] } where
  lined := by
    have hlined := h.lined.put hput
    exact ⟨rfl, hlined.nextFuture ▸ hlined.line, fun _ _ hr => hr⟩
  queued := by
    have hlined := h.lined.put hput
    show List.map _ (s.queued ++ _) = List.range driver.nextFuture
    rw [hlined.nextFuture, List.map_append, h.queued, List.range_succ]
    simp [hfuture]
  contiguous := by
    intro id' hid'
    have hne : id' ≠ id := by
      rintro rfl
      exact hid' hlock
    obtain ⟨before, after, hqueued, hothers⟩ := h.contiguous id' hid'
    rw [Function.update_of_ne hne]
    refine ⟨before, after ++ [⟨id, item⟩], by simp [hqueued], ?_⟩
    intro entry hentry
    rw [← List.append_assoc] at hentry
    rcases List.mem_append.1 hentry with hentry | hentry
    · exact hothers entry hentry
    · rw [List.mem_singleton.1 hentry]
      exact hne.symm
  last := by
    intro id' hid'
    obtain rfl : id = id' := by
      have : s.lock = some id' := hid'
      rw [hlock] at this
      exact Option.some.inj this
    obtain ⟨before, hqueued, hothers⟩ := h.last id hlock
    rw [Function.update_self]
    exact ⟨before, by simp [hqueued], hothers⟩
  holds := h.holds
  held := h.held
  waits := by
    intro id' caller hcaller hwaits
    have hne : id' ≠ id := by
      rintro rfl
      rw [hitems caller hcaller] at hwaits
      cases hwaits
    rw [Function.update_of_ne hne]
    exact h.waits id' caller hcaller hwaits
  sound := by
    have hlined := h.lined.put hput
    intro id' caller hcaller call hcall
    exact (h.sound id' caller hcaller call hcall).mono hlined.results

end Kept

/-! ### Steps -/

section Steps

variable {config : WBDALIConfig} {s s' : State α} {items : ℕ → List SendQueueItem} {id : ℕ}
  {call call' : SendCall} {run : SequenceRun α}

lemma itemsOf_eq {caller : Caller α} (hcaller : s.callers id = some caller) :
    s.itemsOf id = caller.items := by
  rw [State.itemsOf, hcaller]

lemma itemsOf_setCaller (s : State α) (id : ℕ) (caller : Caller α) :
    (s.setCaller id caller).itemsOf = Function.update s.itemsOf id caller.items := by
  ext1 id'
  by_cases hid : id' = id
  · subst hid
    simp [State.itemsOf, State.setCaller]
  · simp [State.itemsOf, State.setCaller, hid]

/-- A caller goes on. -/
lemma Kept.setCaller (h : Kept items s) (id : ℕ) (caller : Caller α)
    (hitems : Function.update s.itemsOf id caller.items = items)
    (hholds : caller.holdsLock → s.lock = some id)
    (hwaits : caller.waitsForLock → caller.items = [])
    (hsound : ∀ call ∈ caller.calls, call.Sound s.driver.futures) :
    Kept (s.setCaller id caller).itemsOf (s.setCaller id caller) := by
  rw [itemsOf_setCaller, hitems]
  refine ⟨h.lined, h.queued, h.contiguous, h.last, ?_, ?_, ?_, ?_⟩
  · intro id' caller' hcaller'
    by_cases hid : id' = id
    · subst hid
      obtain rfl : caller = caller' := by simpa [State.setCaller] using hcaller'
      exact hholds
    · exact h.holds id' caller' (by simpa [State.setCaller, hid] using hcaller')
  · intro id' hid'
    by_cases hid : id' = id
    · simp [State.setCaller, hid]
    · simpa [State.setCaller, hid] using h.held id' hid'
  · intro id' caller' hcaller' hwaits'
    by_cases hid : id' = id
    · subst hid
      obtain rfl : caller = caller' := by simpa [State.setCaller] using hcaller'
      rw [← hitems, Function.update_self]
      exact hwaits hwaits'
    · exact h.waits id' caller' (by simpa [State.setCaller, hid] using hcaller') hwaits'
  · intro id' caller' hcaller'
    by_cases hid : id' = id
    · subst hid
      obtain rfl : caller = caller' := by simpa [State.setCaller] using hcaller'
      exact hsound
    · exact h.sound id' caller' (by simpa [State.setCaller, hid] using hcaller')

/-- A call with the lock goes on to its next frame, or gives the lock back. -/
lemma Kept.setCall (h : Kept items s) (hlock : s.lock = some id)
    (hitems : Function.update s.itemsOf id call.items = items) (hplace : call.place ≠ .acquire)
    (hsound : call.Sound s.driver.futures) :
    Kept (s.setCall id call).itemsOf (s.setCall id call) := by
  have hset := h.setCaller id (.sendCommands call)
    (by rwa [Caller.items_sendCommands]) (fun _ => hlock)
    (fun hwaits => absurd (of_decide_eq_true hwaits) hplace)
    (by simpa [Caller.calls] using hsound)
  rw [State.setCall]
  split
  · rename_i hgather
    refine hset.releaseLock hlock fun caller hcaller => ?_
    obtain rfl : Caller.sendCommands call = caller := by simpa [State.setCaller] using hcaller
    simp [Caller.holdsLock, hgather]
  · exact hset

/-- A sequence goes on with the lock, or gives it back. -/
lemma Kept.setRun (h : Kept items s) (hlock : s.lock = some id)
    (hitems : Function.update s.itemsOf id (Caller.runSequence run).items = items)
    (hwaits : (Caller.runSequence run).waitsForLock = false)
    (hsound : ∀ call ∈ (Caller.runSequence run).calls, call.Sound s.driver.futures) :
    Kept (s.setRun id run).itemsOf (s.setRun id run) := by
  have hset := h.setCaller id (.runSequence run) hitems (fun _ => hlock)
    (fun hwaits' => by rw [hwaits] at hwaits'; cases hwaits') hsound
  rw [State.setRun]
  split
  · rename_i hover
    refine hset.releaseLock hlock fun caller hcaller => ?_
    obtain rfl : Caller.runSequence run = caller := by simpa [State.setCaller] using hcaller
    rw [SequenceRun.isOver] at hover
    rw [Caller.holdsLock]
    split at hover
    · rename_i hplace
      rw [hplace]
    · rename_i hplace
      rw [hplace]
    all_goals cases hover
  · exact hset

/-- The invariant of the call of a caller. -/
lemma Kept.sound_of (h : Kept items s) {caller : Caller α} (hcaller : s.callers id = some caller)
    (hcall : call ∈ caller.calls) : call.Sound s.driver.futures :=
  h.sound id caller hcaller call hcall

/-- One frame of a call goes into the queue. -/
lemma Kept.putNext (h : Kept s.itemsOf s) (hlock : s.lock = some id)
    (hwaits : ∀ caller, s.callers id = some caller → caller.waitsForLock = false)
    (hput : s.putNext config id call = some (s', call')) :
    s'.lock = some id ∧ s'.itemsOf = s.itemsOf ∧ call'.place ≠ .acquire ∧
      call'.Sound s'.driver.futures ∧
      (∀ f r, s.driver.futures f = .result r → s'.driver.futures f = .result r) ∧
      ∃ item, call'.items = call.items ++ [item] ∧
        Kept (Function.update s.itemsOf id (s.itemsOf id ++ [item])) s' := by
  obtain ⟨-, frame, driver, hframe, hdriver, rfl, rfl⟩ := putNext_eq_some hput
  have hlength : call.responseFutures.length + 1 ≤ call.frames.length :=
    (List.getElem?_eq_some_iff.1 hframe).1
  refine ⟨hlock, rfl, ?_, ?_, (h.lined.put hdriver).results,
    call.queueItem s.driver.nextFuture frame, SendCall.items_put hframe, ?_⟩
  · rw [SendCall.next]
    simp only
    split <;> simp
  · refine SendCall.Sound.next ?_
    rw [List.length_append]
    exact hlength
  · exact h.putItem hlock hdriver rfl hwaits

/-- A call refused by the unavailable gateway has put nothing. -/
lemma Kept.refuse (h : Kept items s) (commands : List DaliCommand) (source : BusTrafficSource) :
    Kept items (s.refuse commands source) :=
  h.driver (Lined.lasting h.lined (Driver.InFlight.lasting_refuseCommands _ _))

/-- A new caller that has put nothing. -/
lemma Kept.newCaller (hnone : s.callers id = none) {t : State α} (ht : Kept s.itemsOf t)
    (hsame : t.callers = s.callers) {caller : Caller α} (hempty : caller.items = [])
    (hholds : caller.holdsLock = false)
    (hsound : ∀ call ∈ caller.calls, call.Sound t.driver.futures) :
    Kept (t.setCaller id caller).itemsOf (t.setCaller id caller) := by
  have hitems : s.itemsOf id = [] := by rw [State.itemsOf, hnone]
  have hsame' : t.itemsOf = s.itemsOf := by
    ext1 id'
    rw [State.itemsOf, State.itemsOf, hsame]
  refine ht.setCaller id caller ?_ ?_ (fun _ => hempty) hsound
  · rw [hsame', hempty, ← hitems, Function.update_eq_self]
  · intro hholds'
    rw [hholds] at hholds'
    cases hholds'

lemma Kept.acquireCall (h : Kept s.itemsOf s) (hfree : s.lock = none)
    (hcaller : s.callers id = some (.sendCommands call)) (hplace : call.place = .acquire) :
    Kept ({ s with lock := some id }.setCall id call.next).itemsOf
      ({ s with lock := some id }.setCall id call.next) := by
  have hempty := h.waits id _ hcaller (by simp [Caller.waitsForLock, hplace])
  have hsound := h.sound_of hcaller (by simp [Caller.calls] : call ∈ _)
  refine (h.takeLock hfree (by simp [hcaller]) hempty).setCall rfl ?_ ?_ (.next hsound.length_le)
  · -- the next place does not change what was put
    have hitems : call.next.items = s.itemsOf id := by
      rw [itemsOf_eq hcaller, Caller.items_sendCommands]
      rfl
    show Function.update s.itemsOf id call.next.items = s.itemsOf
    rw [hitems, Function.update_eq_self]
  · rw [SendCall.next]
    simp only
    split <;> simp

lemma Kept.acquireRun (h : Kept s.itemsOf s) (hfree : s.lock = none)
    (hcaller : s.callers id = some (.runSequence run)) (hplace : run.place = .acquire) :
    Kept ({ s with lock := some id }.setRun id { run with place := .resume }).itemsOf
      ({ s with lock := some id }.setRun id { run with place := .resume }) := by
  have hempty := h.waits id _ hcaller (by simp [Caller.waitsForLock, hplace])
  have hcalls : (Caller.runSequence { run with place := .resume }).calls =
      (Caller.runSequence run).calls := by
    simp [Caller.calls, hplace]
  refine (h.takeLock hfree (by simp [hcaller]) hempty).setRun rfl ?_ rfl ?_
  · rw [Caller.items, hcalls, ← Caller.items, ← itemsOf_eq hcaller]
    exact Function.update_eq_self _ _
  · rw [hcalls]
    exact h.sound id _ hcaller

/-- A sequence that waits for a call holds the lock, and this call is its last one. -/
lemma calls_sending {single : Bool} (hplace : run.place = .sending single call) :
    (Caller.runSequence run).calls = run.finished ++ [call] ∧
      (Caller.runSequence run).holdsLock = true ∧
      (Caller.runSequence run).waitsForLock = false := by
  simp [Caller.calls, Caller.holdsLock, Caller.waitsForLock, hplace]

lemma Kept.putCall (h : Kept s.itemsOf s) {t : State α}
    (hcaller : s.callers id = some (.sendCommands call))
    (hput : s.putNext config id call = some (t, call')) :
    Kept (t.setCall id call').itemsOf (t.setCall id call') := by
  have hplace := (putNext_eq_some hput).1
  have hlock := h.holds id _ hcaller (by simp [Caller.holdsLock, hplace])
  have hwaits : ∀ caller, s.callers id = some caller → caller.waitsForLock = false := by
    intro caller hcaller'
    obtain rfl : Caller.sendCommands call = caller := Option.some.inj (hcaller ▸ hcaller')
    simp [Caller.waitsForLock, hplace]
  obtain ⟨hlock', hitems, hmoved, hsound, -, item, hitem, hkept⟩ := h.putNext hlock hwaits hput
  refine hkept.setCall hlock' ?_ hmoved hsound
  rw [hitems, hitem, itemsOf_eq hcaller, Caller.items_sendCommands]

lemma Kept.putRun (h : Kept s.itemsOf s) {t : State α} {single : Bool}
    (hcaller : s.callers id = some (.runSequence run))
    (hplace : run.place = .sending single call)
    (hput : s.putNext config id call = some (t, call')) :
    Kept (t.setRun id (run.onSent single call')).itemsOf
      (t.setRun id (run.onSent single call')) := by
  obtain ⟨hcalls, hholds, hwaiting⟩ := calls_sending hplace
  have hlock := h.holds id _ hcaller hholds
  have hwaits : ∀ caller, s.callers id = some caller → caller.waitsForLock = false := by
    intro caller hcaller'
    obtain rfl : Caller.runSequence run = caller := Option.some.inj (hcaller ▸ hcaller')
    exact hwaiting
  obtain ⟨hlock', hitems, -, hsound, hresults, item, hitem, hkept⟩ :=
    h.putNext hlock hwaits hput
  obtain ⟨hcalls', hwaiting'⟩ := run.calls_onSent single call'
  refine hkept.setRun hlock' ?_ hwaiting' ?_
  · rw [hitems, Caller.items, hcalls', itemsOf_eq hcaller, Caller.items, hcalls]
    simp [hitem]
  · rw [hcalls']
    intro call'' hcall''
    rcases List.mem_append.1 hcall'' with hfinished | hlast
    · exact (h.sound_of hcaller (hcalls ▸ List.mem_append_left _ hfinished)).mono hresults
    · rw [List.mem_singleton.1 hlast]
      exact hsound

lemma Kept.gatherCall (h : Kept s.itemsOf s) {responses : List Response}
    (hcaller : s.callers id = some (.sendCommands call)) (hplace : call.place = .gather)
    (hgathered : call.gathered s.driver.futures = some responses) :
    Kept (s.setCaller id (.sendCommands (call.finish responses))).itemsOf
      (s.setCaller id (.sendCommands (call.finish responses))) := by
  have hsound := h.sound_of hcaller (by simp [Caller.calls] : call ∈ _)
  have hfinish : (call.finish responses).place ≠ .acquire ∧
      (call.finish responses).place ≠ .put := by
    rw [SendCall.finish]
    simp only
    split <;> simp
  refine h.setCaller id _ ?_ ?_ ?_ ?_
  · rw [Caller.items_sendCommands]
    show Function.update s.itemsOf id call.items = s.itemsOf
    rw [← Caller.items_sendCommands (α := α), ← itemsOf_eq hcaller, Function.update_eq_self]
  · simp [Caller.holdsLock, hfinish.2]
  · simp [Caller.waitsForLock, hfinish.1]
  · simp only [Caller.calls, List.mem_singleton, forall_eq]
    exact hsound.finish hplace hgathered

lemma Kept.gatherRun (h : Kept s.itemsOf s) {single : Bool} {responses : List Response}
    (hcaller : s.callers id = some (.runSequence run)) (hrun : run.place = .sending single call)
    (hplace : call.place = .gather)
    (hgathered : call.gathered s.driver.futures = some responses) :
    Kept (s.setRun id (run.onSent single (call.finish responses))).itemsOf
      (s.setRun id (run.onSent single (call.finish responses))) := by
  obtain ⟨hcalls, hholds, -⟩ := calls_sending hrun
  obtain ⟨hcalls', hwaiting'⟩ := run.calls_onSent single (call.finish responses)
  refine h.setRun (h.holds id _ hcaller hholds) ?_ hwaiting' ?_
  · have hitems : (Caller.runSequence (run.onSent single (call.finish responses))).items =
        s.itemsOf id := by
      rw [itemsOf_eq hcaller, Caller.items, hcalls', Caller.items, hcalls]
      simp only [List.flatMap_append]
      rfl
    rw [hitems, Function.update_eq_self]
  · rw [hcalls']
    intro call'' hcall''
    rcases List.mem_append.1 hcall'' with hfinished | hlast
    · exact h.sound_of hcaller (hcalls ▸ List.mem_append_left _ hfinished)
    · rw [List.mem_singleton.1 hlast]
      exact (h.sound_of hcaller (hcalls ▸ by simp)).finish hplace hgathered

/-- A sequence between two calls goes on without a new one. -/
lemma Kept.setRun_of_calls (h : Kept s.itemsOf s) {run' : SequenceRun α}
    (hcaller : s.callers id = some (.runSequence run))
    (hholds : (Caller.runSequence run).holdsLock = true)
    (hcalls : (Caller.runSequence run').calls = (Caller.runSequence run).calls)
    (hwaits : (Caller.runSequence run').waitsForLock = false) :
    Kept (s.setRun id run').itemsOf (s.setRun id run') := by
  refine h.setRun (h.holds id _ hcaller hholds) ?_ hwaits ?_
  · rw [Caller.items, hcalls, ← Caller.items, ← itemsOf_eq hcaller, Function.update_eq_self]
  · rw [hcalls]
    exact h.sound id _ hcaller

lemma Kept.sendYielded (h : Kept s.itemsOf s) (hcaller : s.callers id = some (.runSequence run))
    (hplace : run.place = .resume) (single : Bool) (commands : List DaliCommand) :
    Kept (s.sendYielded id run single commands).itemsOf (s.sendYielded id run single commands) := by
  have hlock := h.holds id _ hcaller (by simp [Caller.holdsLock, hplace])
  have hcalls : (Caller.runSequence run).calls = run.finished := by simp [Caller.calls, hplace]
  have hsound : ∀ call ∈ run.finished, call.Sound s.driver.futures := by
    intro call hcall
    exact h.sound_of hcaller (hcalls ▸ hcall)
  have hitems : ∀ call : SendCall, call.items = [] → Function.update s.itemsOf id
      (Caller.runSequence (run.onSent single call)).items = s.itemsOf := by
    intro call hempty
    have hsame : (Caller.runSequence (run.onSent single call)).items = s.itemsOf id := by
      rw [itemsOf_eq hcaller, Caller.items, (run.calls_onSent single call).1, Caller.items, hcalls]
      simp [hempty]
    rw [hsame, Function.update_eq_self]
  rw [State.sendYielded]
  simp only
  split
  · refine (h.refuse commands .wb).setRun hlock (hitems _ rfl) (run.calls_onSent single _).2 ?_
    rw [(run.calls_onSent single _).1]
    intro call hcall
    rcases List.mem_append.1 hcall with hfinished | hlast
    · exact (hsound call hfinished).mono fun f r hr =>
        (Driver.InFlight.lasting_refuseCommands _ _).results hr
    · rw [List.mem_singleton.1 hlast]
      exact ⟨rfl, fun _ hplace => by cases hplace⟩
  · refine h.setRun hlock (hitems _ rfl) (run.calls_onSent single _).2 ?_
    rw [(run.calls_onSent single _).1]
    intro call hcall
    rcases List.mem_append.1 hcall with hfinished | hlast
    · exact hsound call hfinished
    · rw [List.mem_singleton.1 hlast]
      exact .next (Nat.zero_le _)

lemma Kept.onYield (h : Kept s.itemsOf s) (hcaller : s.callers id = some (.runSequence run))
    (hplace : run.place = .resume) (yielded : Yield α) :
    Kept (s.onYield id run yielded).itemsOf (s.onYield id run yielded) := by
  have hholds : (Caller.runSequence run).holdsLock = true := by simp [Caller.holdsLock, hplace]
  cases yielded with
  | stopIteration value =>
    exact h.setRun_of_calls hcaller hholds (by simp [Caller.calls, hplace]) rfl
  | raises => exact h.setRun_of_calls hcaller hholds (by simp [Caller.calls, hplace]) rfl
  | sleep delay => exact h.setRun_of_calls hcaller hholds (by simp [Caller.calls, hplace]) rfl
  | progress =>
    exact h.setRun_of_calls hcaller hholds (by simp [Caller.calls, SequenceRun.reply, hplace]) rfl
  | commands cmds => exact h.sendYielded hcaller hplace false cmds
  | command cmd => exact h.sendYielded hcaller hplace true [cmd]

/-- Every step keeps the invariant. -/
theorem Kept.step {e : Event α} (h : Kept s.itemsOf s) (hstep : step config s e = some s') :
    Kept s'.itemsOf s' := by
  cases happens_of_step hstep with
  | @driver e driver hcaller hdriver =>
    refine h.driver (h.lined.step ?_ hdriver)
    cases e <;> simp [ofCaller, Driver.Event.isPut] at hcaller ⊢
  | @refused id commands source priority hsource hnone hunavailable =>
    refine Kept.newCaller hnone (h.refuse commands source) rfl rfl ?_ ?_
    · simp [Caller.holdsLock]
    · simp only [Caller.calls, List.mem_singleton, forall_eq]
      exact ⟨rfl, fun _ hplace => by cases hplace⟩
  | sendCommands hsource hnone =>
    refine Kept.newCaller hnone h rfl rfl ?_ ?_
    · simp [Caller.holdsLock]
    · simp only [Caller.calls, List.mem_singleton, forall_eq]
      exact ⟨rfl, fun _ hplace => by cases hplace⟩
  | runSequence hnone =>
    refine Kept.newCaller hnone h rfl rfl ?_ ?_
    · simp [Caller.holdsLock]
    · simp [Caller.calls]
  | acquireCall hfree hcaller hplace => exact h.acquireCall hfree hcaller hplace
  | acquireRun hfree hcaller hplace => exact h.acquireRun hfree hcaller hplace
  | putCall hcaller hput => exact h.putCall hcaller hput
  | putRun hcaller hplace hput => exact h.putRun hcaller hplace hput
  | gatherCall hcaller hplace hgathered => exact h.gatherCall hcaller hplace hgathered
  | gatherRun hcaller hrun hplace hgathered => exact h.gatherRun hcaller hrun hplace hgathered
  | resume hcaller hplace => exact h.onYield hcaller hplace _
  | wake hcaller hplace hdue =>
    exact h.setRun_of_calls hcaller (by simp [Caller.holdsLock, hplace])
      (by simp [Caller.calls, SequenceRun.reply, hplace]) rfl

/-! ### What a step leaves alone -/

lemma onYield_frame (s : State α) (id : ℕ) (run : SequenceRun α) (yielded : Yield α) :
    (s.onYield id run yielded).queued = s.queued ∧
      ((s.onYield id run yielded).lock = s.lock ∨ (s.onYield id run yielded).lock = none) ∧
      ∀ id', id' ≠ id → (s.onYield id run yielded).callers id' = s.callers id' := by
  have hset : ∀ (t : State α) (run' : SequenceRun α), t.queued = s.queued → t.lock = s.lock →
      t.callers = s.callers → (t.setRun id run').queued = s.queued ∧
        ((t.setRun id run').lock = s.lock ∨ (t.setRun id run').lock = none) ∧
        ∀ id', id' ≠ id → (t.setRun id run').callers id' = s.callers id' := by
    intro t run' hqueued hlock hcallers
    refine ⟨hqueued, ?_, fun id' hne => ?_⟩
    · rw [State.setRun]
      simp only
      split
      · exact .inr rfl
      · exact .inl hlock
    · rw [← hcallers]
      exact Function.update_of_ne hne _ _
  cases yielded with
  | stopIteration value => exact hset s _ rfl rfl rfl
  | raises => exact hset s _ rfl rfl rfl
  | sleep delay => exact hset s _ rfl rfl rfl
  | progress => exact hset s _ rfl rfl rfl
  | commands | command =>
    rw [State.onYield, State.sendYielded]
    simp only
    split
    · exact hset (s.refuse _ _) _ rfl rfl rfl
    · exact hset s _ rfl rfl rfl

/-- A call of `send_commands` goes on by itself, until it has returned. -/
lemma step_sendCommands {e : Event α} (hstep : step config s e = some s')
    (hcaller : s.callers id = some (.sendCommands call)) :
    ∃ call', s'.callers id = some (.sendCommands call') ∧ call'.commands = call.commands ∧
      (call.answer ≠ none → call' = call) := by
  -- what other callers do leaves the call alone
  have hsame : ∀ {s' : State α}, s'.callers id = s.callers id → ∃ call',
      s'.callers id = some (.sendCommands call') ∧ call'.commands = call.commands ∧
        (call.answer ≠ none → call' = call) :=
    fun heq => ⟨call, heq.trans hcaller, rfl, fun _ => rfl⟩
  cases happens_of_step hstep with
  | driver => exact hsame rfl
  | @refused id' commands source priority hsource hnone
  | @sendCommands id' commands source priority hsource hnone
  | @runSequence id' seq priority hnone =>
    have hne : id ≠ id' := by
      rintro rfl
      rw [hcaller] at hnone
      cases hnone
    exact hsame (Function.update_of_ne hne _ _)
  | @acquireCall id' call' hfree hcaller' hplace =>
    by_cases hid : id = id'
    · subst hid
      obtain rfl : call' = call := by simpa [hcaller] using hcaller'.symm
      refine ⟨call'.next, by simp [State.setCall, State.setCaller], rfl, fun hanswer => ?_⟩
      simp [SendCall.answer, hplace] at hanswer
    · exact hsame (Function.update_of_ne hid _ _)
  | @putCall id' call' t call'' hcaller' hput =>
    obtain ⟨hplace, frame, driver, -, -, rfl, rfl⟩ := putNext_eq_some hput
    by_cases hid : id = id'
    · subst hid
      obtain rfl : call' = call := by simpa [hcaller] using hcaller'.symm
      refine ⟨_, Function.update_self _ _ _, rfl, fun hanswer => ?_⟩
      simp [SendCall.answer, hplace] at hanswer
    · exact hsame (Function.update_of_ne hid _ _)
  | @gatherCall id' call' responses hcaller' hplace =>
    by_cases hid : id = id'
    · subst hid
      obtain rfl : call' = call := by simpa [hcaller] using hcaller'.symm
      refine ⟨_, Function.update_self _ _ _, rfl, fun hanswer => ?_⟩
      simp [SendCall.answer, hplace] at hanswer
    · exact hsame (Function.update_of_ne hid _ _)
  | @acquireRun id' run hfree hcaller' | @gatherRun id' run single call' responses hcaller'
  | @wake id' run wakeAt hcaller' =>
    have hne : id ≠ id' := by
      rintro rfl
      simp [hcaller] at hcaller'
    exact hsame (Function.update_of_ne hne _ _)
  | @putRun id' run single call' t call'' hcaller' hplace hput =>
    obtain ⟨-, frame, driver, -, -, rfl, rfl⟩ := putNext_eq_some hput
    have hne : id ≠ id' := by
      rintro rfl
      simp [hcaller] at hcaller'
    exact hsame (Function.update_of_ne hne _ _)
  | @resume id' run hcaller' hplace =>
    have hne : id ≠ id' := by
      rintro rfl
      simp [hcaller] at hcaller'
    exact hsame ((onYield_frame s id' run _).2.2 id hne)

lemma lock_setCall {t : State α} {id' : ℕ} (hlock : (t.setCall id call).lock = some id') :
    t.lock = some id' := by
  rw [State.setCall] at hlock
  simp only at hlock
  split at hlock
  · cases hlock
  · exact hlock

lemma lock_setRun {t : State α} {id' : ℕ} (hlock : (t.setRun id run).lock = some id') :
    t.lock = some id' := by
  rw [State.setRun] at hlock
  simp only at hlock
  split at hlock
  · cases hlock
  · exact hlock

/-- Only the holder of the lock puts a frame, one at a time; and only an `acquire`
gives the lock to somebody else. -/
lemma step_queued {e : Event α} (h : Kept s.itemsOf s) (hstep : step config s e = some s') :
    (s'.queued = s.queued ∨ ∃ id item, s'.queued = s.queued ++ [⟨id, item⟩] ∧
      s.lock = some id ∧ ∀ call, s.callers id = some (.sendCommands call) → call.answer = none) ∧
    ∀ id, s'.lock = some id → s.lock = some id ∨ e = .acquire id ∧ s'.queued = s.queued := by
  cases happens_of_step hstep with
  | driver | refused | sendCommands | runSequence | gatherCall =>
    exact ⟨.inl rfl, fun _ => .inl⟩
  | @acquireCall id call =>
    refine ⟨.inl rfl, fun id' hlock => .inr ⟨?_, rfl⟩⟩
    rw [Option.some.inj (lock_setCall hlock)]
  | @acquireRun id run =>
    refine ⟨.inl rfl, fun id' hlock => .inr ⟨?_, rfl⟩⟩
    rw [Option.some.inj (lock_setRun hlock)]
  | @putCall id call t call' hcaller hput =>
    obtain ⟨hplace, frame, driver, -, -, rfl, rfl⟩ := putNext_eq_some hput
    refine ⟨.inr ⟨id, _, rfl, h.holds id _ hcaller (by simp [Caller.holdsLock, hplace]), ?_⟩,
      fun id' hlock => .inl (by simpa using lock_setCall hlock)⟩
    intro call'' hcaller''
    obtain rfl : call = call'' := by simpa [hcaller] using hcaller''
    simp [SendCall.answer, hplace]
  | @putRun id run single call t call' hcaller hplace hput =>
    obtain ⟨-, frame, driver, -, -, rfl, rfl⟩ := putNext_eq_some hput
    refine ⟨.inr ⟨id, _, rfl, h.holds id _ hcaller (calls_sending hplace).2.1, ?_⟩,
      fun id' hlock => .inl (by simpa using lock_setRun hlock)⟩
    intro call'' hcaller''
    simp [hcaller] at hcaller''
  | gatherRun | wake => exact ⟨.inl rfl, fun id' hlock => .inl (by simpa using lock_setRun hlock)⟩
  | @resume id run =>
    obtain ⟨hqueued, hlock, -⟩ := onYield_frame s id run (run.seq run.replies)
    refine ⟨.inl hqueued, fun id' hid' => ?_⟩
    rcases hlock with hlock | hlock
    · exact .inl (hlock.symm.trans hid')
    · rw [hlock] at hid'
      cases hid'

lemma kept_initial {s : State α} (hinit : (callers config).init s) : Kept s.itemsOf s := by
  obtain ⟨driver, ⟨listeners, connected, session, resetDelivered, rfl⟩, rfl⟩ := hinit
  have hlined := @Driver.isLined_initial config listeners connected session resetDelivered
  refine ⟨⟨rfl, hlined.nextFuture ▸ hlined.line, fun _ _ hr => hr⟩, ?_, ?_, ?_, ?_, ?_, ?_, ?_⟩
  · rw [hlined.nextFuture]
    rfl
  · intro id _
    exact ⟨[], [], rfl, by simp⟩
  · simp
  · simp
  · simp
  · simp
  · simp

lemma kept_of_reachable {s : State α} (h : (callers config).Reachable s) : Kept s.itemsOf s :=
  h.invariant (I := fun s => Kept s.itemsOf s) (fun _ hinit => kept_initial hinit)
    fun _ _ _ hkept _ hstep => hkept.step hstep

lemma Kept.isContiguous (h : Kept s.itemsOf s) {caller : Caller α}
    (hcaller : s.callers id = some caller) : s.Contiguous id caller.items := by
  rw [← itemsOf_eq hcaller]
  by_cases hlock : s.lock = some id
  · obtain ⟨before, hqueued, hothers⟩ := h.last id hlock
    exact ⟨before, [], by simpa using hqueued, by simpa using hothers⟩
  · exact h.contiguous id hlock

end Steps

/-! ### Runs -/

/-- The frames of a call, and those of a sequence, stand together and in order in the queue,
which the sender writes to the gateway in its order; and the responses are aligned. -/
structure AtomicAndAligned (s : State α) : Prop where
  nodup : (s.queued.map fun entry => entry.item.future).Nodup
  written : (s.driver.written.reverse.map Written.future ++
    s.driver.sendQueue.map SendQueueItem.future).Sublist
      (s.queued.map fun entry => entry.item.future)
  contiguous : ∀ id caller, s.callers id = some caller → s.Contiguous id caller.items
  inOrder : ∀ id caller, s.callers id = some caller → ∀ call ∈ caller.calls, call.InOrder
  aligned : ∀ id caller, s.callers id = some caller → ∀ call ∈ caller.calls,
    call.Aligned s.driver.futures ∧ call.place ≠ .indexError

lemma Kept.atomicAndAligned {s : State α} (h : Kept s.itemsOf s) : AtomicAndAligned s := by
  constructor
  · rw [h.queued]
    exact List.nodup_range
  · rw [h.queued]
    refine List.Sublist.trans ?_ h.lined.line
    exact (List.sublist_append_left _ _).append (List.Sublist.refl _)
  · intro id caller hcaller
    exact h.isContiguous hcaller
  · intro id caller hcaller call hcall
    exact (h.sound_of hcaller hcall).inOrder
  · intro id caller hcaller call hcall
    have hsound := h.sound_of hcaller hcall
    exact ⟨hsound.aligned, hsound.ne_indexError⟩

/-- Whatever the callers do, their sends are atomic and aligned. -/
theorem atomicAndAligned_of_reachable (config : WBDALIConfig) (s : State α)
    (h : (callers config).Reachable s) : AtomicAndAligned s :=
  (kept_of_reachable h).atomicAndAligned

end Callers

/-- `QueryStatus` to short address 0. -/
def queryStatus : DaliCommand := { Driver.queryStatus with }

lemma activate_length : (⟨false, 16, 0x01E2, false⟩ : BusMonitor.Frame).length = 16 ∨
    (⟨false, 16, 0x01E2, false⟩ : BusMonitor.Frame).length = 24 ∨
    (⟨false, 16, 0x01E2, false⟩ : BusMonitor.Frame).length = 25 := .inl rfl

/-- `Activate` of device type 8 for short address 0. -/
def activate : DaliCommand where
  frame := ⟨false, 16, 0x01E2, false⟩
  sendtwice := false
  hasResponseClass := false
  frame_length := activate_length
  devicetype := 8

/-- A sequence that sends one command. -/
def oneQuery : Sequence Unit
  | [] => .command queryStatus
  | _ => .stopIteration ()

/-- No caller, and an idle driver. -/
def idle : State Unit := { driver := Driver.initial {} ∅ true 0 true }

lemma idle_init : (callers {}).init idle := ⟨_, ⟨∅, true, 0, true, rfl⟩, rfl⟩

/-- The sender takes the commands, one for each reply, writes them and gets the replies. -/
def exchange (replies : List ℤ) : List Driver.Event :=
  replies.map (fun _ => .itemReceived) ++
    [.tick (1 / 100), .itemTimeout, .deliver, .publishReturns] ++
    replies.mapIdx fun i reply => .reply i false (some reply)

/-- Two calls at the same time: a list with a device-type command, and a sequence. -/
def twoCallers : List (Event Unit) :=
  [.sendCommands 0 [activate, queryStatus] .wb .userAction,
    .runSequence 1 oneQuery .periodicQuery, .acquire 0, .put 0, .put 0, .put 0, .acquire 1,
    .resume 1, .put 1] ++
  (exchange [0x200, 0x200, 0x1FF, 0x1AA]).map .driver ++ [.gather 0, .gather 1, .resume 1]

theorem atomicAndAligned_twoCallers :
    ∃ s : State Unit, (callers {}).run (fun _ _ => True) idle twoCallers = some s ∧
      s.queued.map (fun entry => (entry.caller, entry.item.command.frame.data)) =
        [(0, 0xC108), (0, 0x01E2), (0, 0x0190), (1, 0x0190)] ∧ AtomicAndAligned s := by
  have hrun : ((callers {}).run (fun _ _ => True) idle twoCallers).any (fun s =>
      s.queued.map (fun entry => (entry.caller, entry.item.command.frame.data)) =
        [(0, 0xC108), (0, 0x01E2), (0, 0x0190), (1, 0x0190)]) = true := by
    decide +kernel
  obtain ⟨s, hs, hqueued⟩ := (Option.any_eq_true _ _).1 hrun
  exact ⟨s, hs, of_decide_eq_true hqueued,
    atomicAndAligned_of_reachable {} s (.run (.init idle_init) hs)⟩

end WbMqttDali.Callers
