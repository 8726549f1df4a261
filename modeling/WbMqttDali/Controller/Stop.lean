import Mathlib
import WbMqttDali.Controller.CommissioningStatus

/-!
# Stopping a bus controller

`stop` cancels the handlers of the messages, then the commissioning, then the polling
loop, and then the tasks that are left in the queue, while the rest goes on at each of
its awaits.  The cancellation passes by the branches of the loop that resolve futures:
what the loop has at hand then is resolved by nobody.
-/

namespace WbMqttDali.Controller.Stop

/-- The await at which `stop` is suspended. -/
inductive Phase where
  /-- `stop` was not called. -/
  | ready
  /-- In `_one_shot_tasks.stop()`. -/
  | stoppingOneShotTasks
  /-- In `await current_commissioning_task`. -/
  | awaitingCommissioning
  /-- In `wait_for(self._polling_task, ..)`. -/
  | awaitingPollingTask
  /-- In `_device_publisher.cleanup()`. -/
  | cleaningUp
  /-- In `_dev.deinitialize()`. -/
  | deinitializing
  | stopped
  deriving DecidableEq, Repr

structure State where
  controller : ApplicationController := {}
  phase : Phase := .ready
  /-- The tasks whose handlers wait in `_one_shot_tasks`. -/
  oneShotTasks : List ApplicationControllerTask := []
  loopEnded : Bool := false

/-- What the polling loop has at hand. -/
def loopTasks : LoopPoint → List ApplicationControllerTask
  | .getting => []
  | .holding item | .executing item | .commissioning item => [item]
  | .polling item => item.toList
  | .executingControls controls item => controls ++ item.toList

inductive Event where
  /-- A step of the running controller. -/
  | running (event : Controller.Event)
  /-- `_handle_on_topic` puts a task and waits for it. -/
  | onMessage
  | stop
  | oneShotTasksStopped
  | commissioningStopped
  /-- The polling loop ends. -/
  | loopEnds
  | pollingTaskDone
  | cleanedUp
  | deinitialized
  /-- A stopped controller is started again. -/
  | start

/-- The awaits of the running controller end as the code has it: a batch of controls with one
outcome for each, and a future is resolved and not left as it was. -/
def IsComplete (controller : ApplicationController) : Controller.Event → Prop
  | .controlsDone outcomes _ =>
    ∀ controls item, controller.loop = .executingControls controls item →
      outcomes.length = controls.length ∧ Future.pending ∉ outcomes
  | .taskDone outcome _ => outcome ≠ .pending
  | _ => True

instance (controller : ApplicationController) (event : Controller.Event) :
    Decidable (IsComplete controller event) :=
  match event with
  | .controlsDone outcomes _ =>
    match h : controller.loop with
    | .executingControls controls item =>
      decidable_of_iff (outcomes.length = controls.length ∧ Future.pending ∉ outcomes)
        ⟨fun hall _ _ heq => by
          rw [h] at heq
          cases heq
          exact hall, fun hall => hall controls item h⟩
    | .getting | .holding _ | .polling _ | .executing _ | .commissioning _ =>
      .isTrue fun _ _ heq => by
        rw [h] at heq
        cases heq
  | .taskDone outcome _ => inferInstanceAs (Decidable (outcome ≠ .pending))
  | .startCommissioning | .cancelCommissioning _ | .putTask _ | .callerCancelled _
  | .startQuiescentMode | .stopQuiescentMode | .take | .timeout | .pollStepDone | .dispatch
  | .commissioningDone _ | .childStep _ _ _ | .searchProgress _ _ _ | .readProgress _ _ =>
    .isTrue trivial

namespace State

variable (state : State)

/-- `_stop_requested` -/
def stopRequested : Bool :=
  match state.phase with
  | .ready | .stoppingOneShotTasks | .awaitingCommissioning => false
  | .awaitingPollingTask | .cleaningUp | .deinitializing | .stopped => true

/-- The futures of the tasks are cancelled. -/
def cancelAll (controller : ApplicationController) :
    List ApplicationControllerTask → ApplicationController
  | [] => controller
  | task :: tasks => cancelAll (controller.settle task .cancelled) tasks

/-- `current_commissioning_task.cancel()` -/
def cancelChild (controller : ApplicationController) : ApplicationController :=
  { controller with
    currentCommissioningTask :=
      controller.currentCommissioningTask.map fun child => { child with cancelRequested := true } }

/-- The loop does not suspend between taking an item and looking at it. -/
def loopIsSuspended : Bool :=
  match state.controller.loop with
  | .holding _ => false
  | _ => true

/-- The polling task is cancelled: at the await of a child task this cancels the child. -/
def cancelLoop : State :=
  { state with
    phase := .awaitingPollingTask
    controller :=
      match state.controller.loop with
      | .commissioning _ => cancelChild state.controller
      | _ => state.controller }

/-- A step of the running controller, as long as it is possible. -/
def runningStep (event : Controller.Event) : Option State :=
  let next := (state.controller.step event).map fun controller => { state with controller }
  match event with
  | .startCommissioning => if state.phase = .ready then next else none
  -- a control is written by its message
  | .putTask taskType =>
    if state.phase = .ready ∧ taskType ≠ .executeControl then next else none
  | .take | .timeout | .dispatch | .pollStepDone | .controlsDone _ _ | .taskDone _ _ =>
    -- a loop that was cancelled gets no further
    if state.stopRequested ∨ state.loopEnded then none else next
  | .commissioningDone _ =>
    if state.loopEnded then none
    else if state.stopRequested then
      -- the cancellation was the child's; the loop ends at its top
      next.map fun state => { state with loopEnded := true }
    else next
  | .cancelCommissioning _ | .callerCancelled _ | .startQuiescentMode | .stopQuiescentMode
  | .childStep _ _ _ | .searchProgress _ _ _ | .readProgress _ _ => next

def step : Event → Option State
  | .running event =>
    if IsComplete state.controller event then state.runningStep event else none
  | .onMessage =>
    if state.phase = .deinitializing ∨ state.phase = .stopped then none
    else
      some
        { state with
          controller := state.controller.putTask .executeControl
          oneShotTasks := state.oneShotTasks ++ [⟨state.controller.nextTask, .executeControl⟩] }
  | .stop =>
    if state.phase = .ready then
      some
        { state with
          phase := .stoppingOneShotTasks
          controller := cancelAll state.controller state.oneShotTasks }
    else none
  | .oneShotTasksStopped =>
    if state.phase = .stoppingOneShotTasks ∧ state.loopIsSuspended then
      match state.controller.currentCommissioningTask with
      | none | some { point := .done _, .. } => some { state.cancelLoop with oneShotTasks := [] }
      | some _ =>
        some
          { state with
            phase := .awaitingCommissioning
            oneShotTasks := []
            controller := cancelChild state.controller }
    else none
  | .commissioningStopped =>
    if state.phase = .awaitingCommissioning ∧ state.loopIsSuspended then
      match state.controller.currentCommissioningTask with
      | none | some { point := .done _, .. } => some state.cancelLoop
      | some _ => none
    else none
  | .loopEnds =>
    if state.phase = .awaitingPollingTask ∧ state.loopEnded = false then
      match state.controller.loop with
      | .commissioning _ => none
      | _ => some { state with loopEnded := true }
    else none
  | .pollingTaskDone =>
    if state.phase = .awaitingPollingTask ∧ state.loopEnded = true then
      some
        { state with
          phase := .cleaningUp
          controller :=
            { cancelAll state.controller state.controller.tasksQueue with tasksQueue := [] } }
    else none
  | .cleanedUp =>
    if state.phase = .cleaningUp then some { state with phase := .deinitializing } else none
  | .deinitialized =>
    if state.phase = .deinitializing then some { state with phase := .stopped } else none
  | .start =>
    -- `_stop_requested` stays set, so that the new loop ends at once
    if state.phase = .stopped then some { state with phase := .ready, loopEnded := true } else none

end State

def transition : Transition State Event where
  init state := state = {}
  step := State.step

/-! ### Where the open futures are -/

section Covers

variable {controller next : ApplicationController} {task : ApplicationControllerTask}
  {tasks rest : List ApplicationControllerTask}

/-- Every future that is not done belongs to one of the tasks. -/
def Covers (controller : ApplicationController) (tasks : List ApplicationControllerTask) : Prop :=
  ∀ id < controller.nextTask, controller.futures id = .pending → ∃ task ∈ tasks, task.id = id

lemma Covers.mono (h : Covers controller tasks) (hsub : tasks ⊆ rest) : Covers controller rest :=
  fun id hid hpending => (h id hid hpending).imp fun _ htask => ⟨hsub htask.1, htask.2⟩

lemma Covers.congr (h : Covers controller tasks) (hfutures : next.futures = controller.futures)
    (hnext : next.nextTask = controller.nextTask) : Covers next tasks := by
  intro id hid hpending
  rw [hnext] at hid
  rw [hfutures] at hpending
  exact h id hid hpending

lemma Covers.settle (h : Covers controller tasks) (task : ApplicationControllerTask)
    (outcome : Future) : Covers (controller.settle task outcome) tasks :=
  fun id hid hpending => h id hid (TaskQueue.pending_of_settle hpending).1

/-- A task whose future is resolved need not be looked for any more. -/
lemma Covers.settle_done (h : Covers controller (task :: tasks)) (outcome : Future)
    (hdone : outcome ≠ .pending) : Covers (controller.settle task outcome) tasks := by
  intro id hid hpending
  obtain ⟨hbefore, hsame⟩ := TaskQueue.pending_of_settle hpending
  obtain ⟨other, hother, rfl⟩ := h id hid hbefore
  rcases List.mem_cons.1 hother with rfl | hother
  · exact absurd (hsame rfl) hdone
  · exact ⟨other, hother, rfl⟩

lemma Covers.settleAll {outcomes : List Future} (h : Covers controller (tasks ++ rest))
    (hlength : outcomes.length = tasks.length) (hdone : Future.pending ∉ outcomes) :
    Covers (controller.settleAll tasks outcomes) rest := by
  induction tasks generalizing controller outcomes with
  | nil => cases outcomes <;> exact h
  | cons task tasks ih =>
    cases outcomes with
    | nil => cases hlength
    | cons outcome outcomes =>
      obtain ⟨hfirst, hdone⟩ := not_or.1 (List.mem_cons.not.1 hdone)
      exact ih (h.settle_done _ (Ne.symm hfirst)) (Nat.succ.inj hlength) hdone

lemma Covers.cancelAll (h : Covers controller (tasks ++ rest)) :
    Covers (State.cancelAll controller tasks) rest := by
  induction tasks generalizing controller with
  | nil => exact h
  | cons task tasks ih => exact ih (h.settle_done _ Future.noConfusion)

lemma Covers.cancelAll_left (h : Covers controller rest) (tasks : List ApplicationControllerTask) :
    Covers (State.cancelAll controller tasks) rest :=
  Covers.cancelAll (h.mono (List.subset_append_right _ _))

lemma cancelAll_fields (controller : ApplicationController)
    (tasks : List ApplicationControllerTask) :
    (State.cancelAll controller tasks).tasksQueue = controller.tasksQueue ∧
      (State.cancelAll controller tasks).loop = controller.loop ∧
      (State.cancelAll controller tasks).nextTask = controller.nextTask := by
  induction tasks generalizing controller with
  | nil => exact ⟨rfl, rfl, rfl⟩
  | cons task tasks ih => exact ih _

lemma Covers.putTask (h : Covers controller (controller.tasksQueue ++ rest))
    (taskType : ApplicationControllerTaskType) :
    Covers (controller.putTask taskType) ((controller.putTask taskType).tasksQueue ++ rest) := by
  intro id hid hpending
  rcases Nat.lt_succ_iff_lt_or_eq.1 hid with hid | rfl
  · obtain ⟨task, htask, heq⟩ := h id hid hpending
    refine ⟨task, ?_, heq⟩
    rcases List.mem_append.1 htask with htask | htask
    · exact List.mem_append_left _ (List.mem_append_left _ htask)
    · exact List.mem_append_right _ htask
  · exact ⟨⟨controller.nextTask, taskType⟩,
      List.mem_append_left _ (List.mem_append_right _ (List.mem_singleton_self _)), rfl⟩

lemma Covers.removeQueuedCommissioningTask (h : Covers controller (controller.tasksQueue ++ rest)) :
    Covers controller.removeQueuedCommissioningTask.2
      (controller.removeQueuedCommissioningTask.2.tasksQueue ++ rest) := by
  unfold ApplicationController.removeQueuedCommissioningTask
  cases hfind : controller.tasksQueue.find? fun task => task.taskType = .commissioning with
  | none =>
    simp only [hfind]
    exact h
  | some task =>
    simp only [hfind]
    obtain ⟨htask, before, behind, hqueue, hbefore⟩ := List.find?_eq_some_iff_append.1 hfind
    have herase : controller.tasksQueue.eraseP (fun task => task.taskType = .commissioning) =
        before ++ behind := by
      rw [hqueue,
        List.eraseP_append_right _ fun other hother => by simpa using hbefore other hother,
        List.eraseP_cons_of_pos (by simpa using htask)]
    rw [herase]
    have hsub : controller.tasksQueue ++ rest ⊆ task :: (before ++ behind ++ rest) := by
      rw [hqueue]
      intro other
      simp only [List.mem_append, List.mem_cons]
      tauto
    exact ((h.mono hsub).settle_done .cancelled Future.noConfusion).congr rfl rfl

/-- The queue loses at most a task whose future is cancelled. -/
lemma Covers.cancelCommissioning (h : Covers controller (controller.tasksQueue ++ rest))
    (now : String) :
    Covers (controller.cancelCommissioning now).2
      ((controller.cancelCommissioning now).2.tasksQueue ++ rest) := by
  unfold ApplicationController.cancelCommissioning
  split
  · exact h
  · split
    · exact h.congr rfl rfl
    · have hremoved := h.removeQueuedCommissioningTask
      generalize controller.removeQueuedCommissioningTask = removed at hremoved ⊢
      obtain ⟨removed, controller⟩ := removed
      cases removed with
      | true => exact hremoved.congr rfl rfl
      | false => exact hremoved

lemma cancelCommissioning_frame (now : String) :
    (controller.cancelCommissioning now).2.loop = controller.loop ∧
      (controller.tasksQueue = [] → (controller.cancelCommissioning now).2.tasksQueue = []) := by
  unfold ApplicationController.cancelCommissioning
    ApplicationController.removeQueuedCommissioningTask
  split
  · exact ⟨rfl, id⟩
  · split
    · exact ⟨rfl, id⟩
    · cases hfind : controller.tasksQueue.find? fun task => task.taskType = .commissioning with
      | none => exact ⟨by simp [hfind], by simp [hfind]⟩
      | some task =>
        refine ⟨by simp [hfind, ApplicationController.settle], fun hempty => ?_⟩
        rw [hempty] at hfind
        cases hfind

/-- The child's steps leave the tasks and the loop alone. -/
lemma childStep_frame {child : Child} {raised : Option Raised}
    {summary : List CommissioningDeviceSummary} {now : String}
    (h : controller.childStep child raised summary now = some next) :
    next.futures = controller.futures ∧ next.nextTask = controller.nextTask ∧
      next.tasksQueue = controller.tasksQueue ∧ next.loop = controller.loop := by
  have hfinish (raised : Option Raised)
      (h : some (controller.finishCommissioning raised summary now) = some next) :
      next.futures = controller.futures ∧ next.nextTask = controller.nextTask ∧
        next.tasksQueue = controller.tasksQueue ∧ next.loop = controller.loop := by
    obtain rfl := Option.some.inj h
    rcases raised with _ | _ | _ <;> exact ⟨rfl, rfl, rfl, rfl⟩
  rw [ApplicationController.childStep.eq_def] at h
  split at h
  case h_1 =>
    split at h <;> obtain rfl := Option.some.inj h <;> exact ⟨rfl, rfl, rfl, rfl⟩
  case h_15 => cases h
  all_goals first
    | exact hfinish _ h
    | (obtain rfl := Option.some.inj h; exact ⟨rfl, rfl, rfl, rfl⟩)

lemma Covers.nextIteration {item : Option ApplicationControllerTask}
    (h : Covers controller (controller.tasksQueue ++ item.toList)) (intervalElapsed : Bool) :
    Covers (controller.nextIteration item intervalElapsed)
      ((controller.nextIteration item intervalElapsed).tasksQueue ++
        loopTasks (controller.nextIteration item intervalElapsed).loop) := by
  unfold ApplicationController.nextIteration
  split
  · exact h.congr rfl rfl
  · cases item with
    | none => exact h.congr rfl rfl
    | some item => exact h.congr rfl rfl

/-- A drained batch, the next item and the rest of the queue are the queue. -/
lemma mem_drain {α : Type*} {p : α → Bool} {items : List α} {a : α} (h : a ∈ items) :
    a ∈ (items.dropWhile p).tail ∨ a ∈ items.takeWhile p ∨
      (items.dropWhile p).head? = some a := by
  rw [← List.takeWhile_append_dropWhile (p := p) (l := items)] at h
  rcases List.mem_append.1 h with h | h
  · exact .inr (.inl h)
  · cases hrest : items.dropWhile p with
    | nil =>
      rw [hrest] at h
      cases h
    | cons first rest =>
      rw [hrest] at h
      rcases List.mem_cons.1 h with rfl | h
      · exact .inr (.inr rfl)
      · exact .inl h

/-- Looking at an item leaves it at hand, together with the others of its batch, or drops it. -/
lemma Covers.dispatch (h : Covers controller (controller.tasksQueue ++ [task])) :
    Covers (controller.dispatch task)
      ((controller.dispatch task).tasksQueue ++ loopTasks (controller.dispatch task).loop) := by
  unfold ApplicationController.dispatch
  split
  · have hmono : Covers controller (task :: controller.tasksQueue) :=
      h.mono fun other hother => by
        simpa [or_comm] using hother
    refine Covers.mono (Covers.congr (hmono.settle_done
      (.exception "Cannot execute tasks while in quiescent mode") Future.noConfusion) rfl rfl) ?_
    exact List.subset_append_left _ _
  · split
    · refine Covers.congr (h.mono fun other hother => ?_) rfl rfl
      simp only [loopTasks, List.mem_append, List.mem_cons, Option.mem_toList]
      rcases List.mem_append.1 hother with hother | hother
      · exact (mem_drain hother).elim .inl fun h => .inr (h.imp .inr id)
      · exact .inr (.inl (.inl (List.mem_singleton.1 hother)))
    · exact h.congr rfl rfl
    · exact h.congr rfl rfl

end Covers

/-! ### The run -/

section Run

variable {state next : State}

/-- The events at which the polling loop goes on. -/
def IsLoop : Controller.Event → Prop
  | .take | .timeout | .dispatch | .pollStepDone | .controlsDone _ _ | .taskDone _ _
  | .commissioningDone _ => True
  | _ => False

/-- Whatever is not the loop's leaves what the loop has at hand alone. -/
lemma covers_step_other {controller next : ApplicationController} {event : Controller.Event}
    {rest : List ApplicationControllerTask} (hother : ¬ IsLoop event)
    (h : Covers controller (controller.tasksQueue ++ rest))
    (hstep : controller.step event = some next) :
    Covers next (next.tasksQueue ++ rest) ∧ next.loop = controller.loop := by
  cases event with
  | startCommissioning =>
    cases hstep
    unfold ApplicationController.startCommissioning
    split
    · exact ⟨h, rfl⟩
    · have hqueued : Covers { controller with
          commissioningState := controller.commissioningState.markQueued }
          (controller.tasksQueue ++ rest) := h.congr rfl rfl
      exact ⟨hqueued.putTask .commissioning, rfl⟩
  | cancelCommissioning now =>
    cases hstep
    exact ⟨h.cancelCommissioning now, (cancelCommissioning_frame now).1⟩
  | putTask taskType =>
    rw [ApplicationController.step] at hstep
    split at hstep
    · cases hstep
    · split at hstep <;> cases hstep
      · exact ⟨h, rfl⟩
      · exact ⟨h.putTask taskType, rfl⟩
  | callerCancelled task =>
    cases hstep
    exact ⟨h.settle task .cancelled, rfl⟩
  | startQuiescentMode | stopQuiescentMode =>
    cases hstep
    exact ⟨h.congr rfl rfl, rfl⟩
  | childStep raised summary now =>
    rw [ApplicationController.step] at hstep
    obtain ⟨child, -, hchild⟩ := Option.bind_eq_some_iff.1 hstep
    obtain ⟨hfutures, hnext, hqueue, hloop⟩ := childStep_frame hchild
    rw [hqueue]
    exact ⟨h.congr hfutures hnext, hloop⟩
  | searchProgress stage progress deviceFound =>
    rw [ApplicationController.step] at hstep
    split at hstep <;> cases hstep
    all_goals exact ⟨h.congr rfl rfl, rfl⟩
  | readProgress done total =>
    rw [ApplicationController.step] at hstep
    split at hstep <;> cases hstep
    exact ⟨h.congr rfl rfl, rfl⟩
  | take | timeout | dispatch | pollStepDone | controlsDone | taskDone | commissioningDone =>
    exact absurd trivial hother

/-- The loop resolves the futures of what it puts out of its hands. -/
lemma covers_step_loop {controller next : ApplicationController} {event : Controller.Event}
    (hloop : IsLoop event) (hcomplete : IsComplete controller event)
    (h : Covers controller (controller.tasksQueue ++ loopTasks controller.loop))
    (hstep : controller.step event = some next) :
    Covers next (next.tasksQueue ++ loopTasks next.loop) := by
  cases event with
  | take =>
    rw [ApplicationController.step] at hstep
    split at hstep
    case h_1 item rest hgetting hqueue =>
      cases hstep
      rw [hgetting, hqueue] at h
      refine Covers.congr (h.mono fun task htask => ?_) rfl rfl
      simpa [loopTasks, or_comm] using htask
    case h_2 => cases hstep
  | timeout =>
    rw [ApplicationController.step] at hstep
    split at hstep
    case h_1 hgetting =>
      split at hstep <;> cases hstep
      · exact h
      · rw [hgetting] at h
        exact h.congr rfl rfl
    case h_2 => cases hstep
  | dispatch =>
    rw [ApplicationController.step] at hstep
    split at hstep
    case h_1 item hholding =>
      cases hstep
      rw [hholding] at h
      exact h.dispatch
    case h_2 => cases hstep
  | pollStepDone =>
    rw [ApplicationController.step] at hstep
    split at hstep
    case h_1 item hpolling =>
      cases hstep
      rw [hpolling] at h
      cases item <;> exact h.congr rfl rfl
    case h_2 => cases hstep
  | controlsDone outcomes intervalElapsed =>
    rw [ApplicationController.step] at hstep
    split at hstep
    case h_1 controls item hexecuting =>
      cases hstep
      -- each control that was executed has an outcome, and none of them is open
      obtain ⟨hlength, hdone⟩ := hcomplete controls item hexecuting
      rw [hexecuting] at h
      have hqueue : (controller.settleAll controls outcomes).tasksQueue =
          controller.tasksQueue := by
        obtain ⟨futures, heq⟩ := controller.settleAll_eq controls outcomes
        rw [heq]
      have hsettled : Covers (controller.settleAll controls outcomes)
          (controller.tasksQueue ++ item.toList) := by
        refine Covers.settleAll (h.mono fun task htask => ?_) hlength hdone
        simp only [loopTasks, List.mem_append] at htask ⊢
        tauto
      exact Covers.nextIteration (hqueue ▸ hsettled) intervalElapsed
    case h_2 => cases hstep
  | taskDone outcome intervalElapsed =>
    rw [ApplicationController.step] at hstep
    split at hstep
    case h_1 item hexecuting =>
      cases hstep
      rw [hexecuting] at h
      have hsettled : Covers (controller.settle item outcome)
          (controller.tasksQueue ++ (none : Option ApplicationControllerTask).toList) := by
        refine Covers.settle_done (h.mono fun task htask => ?_) outcome hcomplete
        simpa [loopTasks, or_comm] using htask
      exact Covers.nextIteration hsettled intervalElapsed
    case h_2 => cases hstep
  | commissioningDone intervalElapsed =>
    rw [ApplicationController.step] at hstep
    split at hstep
    case h_1 item cancelRequested cancelled hcommissioning hchild =>
      cases hstep
      rw [hcommissioning] at h
      have hsettled : Covers (({ controller with currentCommissioningTask := none } :
          ApplicationController).settle item .result)
          (controller.tasksQueue ++ (none : Option ApplicationControllerTask).toList) := by
        refine Covers.settle_done (Covers.congr (h.mono fun task htask => ?_) rfl rfl) _
          Future.noConfusion
        simpa [loopTasks, or_comm] using htask
      exact Covers.nextIteration hsettled intervalElapsed
    case h_2 => cases hstep
  | startCommissioning | cancelCommissioning | putTask | callerCancelled | startQuiescentMode
  | stopQuiescentMode | childStep | searchProgress | readProgress => exact hloop.elim

/-- What the polling loop still has at hand. -/
def State.atHand (state : State) : List ApplicationControllerTask :=
  if state.loopEnded then [] else loopTasks state.controller.loop

/-- `stop` is behind the drain of the queue. -/
def State.IsDrained (state : State) : Prop :=
  state.phase = .cleaningUp ∨ state.phase = .deinitializing ∨ state.phase = .stopped

structure Inv (state : State) : Prop where
  covers : Covers state.controller (state.controller.tasksQueue ++ state.atHand)
  drained : state.IsDrained → state.loopEnded = true ∧ state.controller.tasksQueue = []

/-- When the loop is cancelled every task that it has at hand is done, and no message puts a
task behind the drain of the queue. -/
def NothingLost (state : State) : Event → Prop
  | .loopEnds =>
    ∀ task ∈ loopTasks state.controller.loop, state.controller.futures task.id ≠ .pending
  | .onMessage => ¬ state.IsDrained
  | _ => True

/-- A step that leaves phase and loop alone. -/
lemma Inv.other {event : Controller.Event} (h : Inv state) (hother : ¬ IsLoop event)
    (hempty : ∀ controller, state.controller.step event = some controller → state.IsDrained →
      state.controller.tasksQueue = [] → controller.tasksQueue = [])
    (hstep : (state.controller.step event).map (fun controller => { state with controller }) =
      some next) : Inv next := by
  obtain ⟨controller, hcontroller, rfl⟩ := Option.map_eq_some_iff.1 hstep
  obtain ⟨hcovers, hloop⟩ := covers_step_other hother h.covers hcontroller
  refine ⟨?_, fun hdrained => ?_⟩
  · have hatHand : ({ state with controller } : State).atHand = state.atHand := by
      rw [State.atHand, State.atHand, hloop]
    rw [hatHand]
    exact hcovers
  · obtain ⟨hended, hqueue⟩ := h.drained hdrained
    exact ⟨hended, hempty controller hcontroller hdrained hqueue⟩

/-- A step of a loop that has not ended. -/
lemma Inv.loop {event : Controller.Event} (h : Inv state)
    (hcomplete : IsComplete state.controller event) (hrunning : state.loopEnded = false)
    (hstep : (state.controller.step event).map (fun controller => { state with controller }) =
      some next) (hloop : IsLoop event) : Inv next := by
  obtain ⟨controller, hcontroller, rfl⟩ := Option.map_eq_some_iff.1 hstep
  have hcovers := h.covers
  rw [State.atHand, hrunning] at hcovers
  refine ⟨?_, fun hdrained => ?_⟩
  · have hnext := covers_step_loop hloop hcomplete hcovers hcontroller
    rw [State.atHand]
    simpa [hrunning] using hnext
  · rw [(h.drained hdrained).1] at hrunning
    cases hrunning

/-- Behind a commissioning run the loop has nothing at hand. -/
lemma loopTasks_commissioningDone {controller next : ApplicationController} {intervalElapsed : Bool}
    (hstep : controller.step (.commissioningDone intervalElapsed) = some next) :
    loopTasks next.loop = [] := by
  rw [ApplicationController.step] at hstep
  split at hstep
  case h_1 =>
    cases hstep
    unfold ApplicationController.nextIteration
    split <;> rfl
  case h_2 => cases hstep

lemma Inv.runningStep {event : Controller.Event} (h : Inv state)
    (hcomplete : IsComplete state.controller event)
    (hstep : state.runningStep event = some next) : Inv next := by
  cases event with
  | startCommissioning =>
    simp only [State.runningStep] at hstep
    split at hstep
    case isTrue hready =>
      -- where the queue is drained already the controller is not ready any more
      refine h.other id (fun _ _ hdrained _ => ?_) hstep
      rcases hdrained with hphase | hphase | hphase <;> rw [hready] at hphase <;> cases hphase
    case isFalse => cases hstep
  | putTask taskType =>
    simp only [State.runningStep] at hstep
    split at hstep
    case isTrue hready =>
      refine h.other id (fun _ _ hdrained _ => ?_) hstep
      rcases hdrained with hphase | hphase | hphase <;> rw [hready.1] at hphase <;> cases hphase
    case isFalse => cases hstep
  | cancelCommissioning now =>
    simp only [State.runningStep] at hstep
    refine h.other id ?_ hstep
    rintro _ ⟨⟩ _ hqueue
    exact (cancelCommissioning_frame now).2 hqueue
  | callerCancelled | startQuiescentMode | stopQuiescentMode =>
    simp only [State.runningStep] at hstep
    refine h.other id ?_ hstep
    rintro _ ⟨⟩ _ hqueue
    exact hqueue
  | childStep raised summary now =>
    simp only [State.runningStep] at hstep
    refine h.other id (fun controller hcontroller _ hqueue => ?_) hstep
    rw [ApplicationController.step] at hcontroller
    obtain ⟨child, -, hchild⟩ := Option.bind_eq_some_iff.1 hcontroller
    rw [(childStep_frame hchild).2.2.1, hqueue]
  | searchProgress | readProgress =>
    simp only [State.runningStep] at hstep
    refine h.other id (fun controller hcontroller _ hqueue => ?_) hstep
    rw [ApplicationController.step] at hcontroller
    split at hcontroller <;> cases hcontroller
    all_goals exact hqueue
  | take | timeout | dispatch | pollStepDone | controlsDone | taskDone =>
    simp only [State.runningStep] at hstep
    split at hstep
    case isTrue => cases hstep
    case isFalse hgoesOn =>
      exact h.loop hcomplete (by simpa using (not_or.1 hgoesOn).2) hstep trivial
  | commissioningDone intervalElapsed =>
    simp only [State.runningStep] at hstep
    split at hstep
    case isTrue => cases hstep
    case isFalse hrunning =>
      have hrunning : state.loopEnded = false := by simpa using hrunning
      split at hstep
      case isTrue =>
        obtain ⟨between, hbetween, rfl⟩ := Option.map_eq_some_iff.1 hstep
        have hinv := h.loop hcomplete hrunning hbetween trivial
        obtain ⟨controller, hcontroller, rfl⟩ := Option.map_eq_some_iff.1 hbetween
        have hcovers := hinv.covers
        refine ⟨?_, fun hdrained => ⟨rfl, (hinv.drained hdrained).2⟩⟩
        simpa [State.atHand, hrunning, loopTasks_commissioningDone hcontroller] using hcovers
      case isFalse => exact h.loop hcomplete hrunning hstep trivial

/-- A cancellation of the polling task leaves everything where it is. -/
lemma Inv.cancelLoop (h : Inv state) : Inv state.cancelLoop := by
  refine ⟨?_, fun hdrained => ?_⟩
  · have hcovers := h.covers
    unfold State.cancelLoop
    cases hloop : state.controller.loop <;>
      (refine Covers.congr (hcovers.mono ?_) rfl rfl
       simp [State.atHand, State.cancelChild, hloop])
  · rcases hdrained with hphase | hphase | hphase <;> cases hphase

lemma Inv.step {event : Event} (h : Inv state) (hok : NothingLost state event)
    (hstep : state.step event = some next) : Inv next := by
  cases event with
  | running event =>
    rw [State.step] at hstep
    split at hstep
    case isTrue hcomplete => exact h.runningStep hcomplete hstep
    case isFalse => cases hstep
  | onMessage =>
    rw [State.step] at hstep
    split at hstep
    case isTrue => cases hstep
    case isFalse =>
      cases hstep
      exact ⟨h.covers.putTask .executeControl, fun hdrained => absurd hdrained hok⟩
  | stop =>
    rw [State.step] at hstep
    split at hstep
    case isTrue hready =>
      cases hstep
      obtain ⟨hqueue, hloop, -⟩ := cancelAll_fields state.controller state.oneShotTasks
      refine ⟨?_, fun hdrained => ?_⟩
      · have hcancelled := h.covers.cancelAll_left state.oneShotTasks
        simpa [State.atHand, hqueue, hloop] using hcancelled
      · rcases hdrained with hphase | hphase | hphase <;> cases hphase
    case isFalse => cases hstep
  | oneShotTasksStopped =>
    rw [State.step] at hstep
    split at hstep
    case isTrue hphase =>
      have hcancelled : Inv { state.cancelLoop with oneShotTasks := [] } :=
        ⟨h.cancelLoop.covers, h.cancelLoop.drained⟩
      split at hstep
      · cases hstep
        exact hcancelled
      · cases hstep
        exact hcancelled
      · cases hstep
        refine ⟨h.covers.congr rfl rfl, fun hdrained => ?_⟩
        rcases hdrained with hphase | hphase | hphase <;> cases hphase
    case isFalse => cases hstep
  | commissioningStopped =>
    rw [State.step] at hstep
    split at hstep
    case isTrue =>
      split at hstep
      · cases hstep
        exact h.cancelLoop
      · cases hstep
        exact h.cancelLoop
      · cases hstep
    case isFalse => cases hstep
  | loopEnds =>
    rw [State.step] at hstep
    split at hstep
    case isTrue hphase =>
      have hnext : next = { state with loopEnded := true } := by
        split at hstep <;> cases hstep
        rfl
      subst hnext
      -- what the loop had at hand is done, so that the queue has all that is open
      refine ⟨fun id hid hpending => ?_, fun hdrained => ?_⟩
      · obtain ⟨task, htask, rfl⟩ := h.covers id hid hpending
        rcases List.mem_append.1 htask with htask | htask
        · exact ⟨task, List.mem_append_left _ htask, rfl⟩
        · rw [State.atHand, hphase.2] at htask
          exact absurd hpending (hok task htask)
      · rcases hdrained with hdrained | hdrained | hdrained <;>
          exact absurd (hphase.1.symm.trans hdrained) (by decide)
    case isFalse => cases hstep
  | pollingTaskDone =>
    rw [State.step] at hstep
    split at hstep
    case isTrue hphase =>
      cases hstep
      refine ⟨?_, fun _ => ⟨hphase.2, rfl⟩⟩
      have hcovers := h.covers
      rw [State.atHand, hphase.2] at hcovers
      -- the rest of the queue is cancelled
      exact (Covers.congr hcovers.cancelAll rfl rfl).mono (List.nil_subset _)
    case isFalse => cases hstep
  | cleanedUp =>
    rw [State.step] at hstep
    split at hstep
    case isTrue hphase =>
      cases hstep
      exact ⟨h.covers, fun _ => h.drained (.inl hphase)⟩
    case isFalse => cases hstep
  | deinitialized =>
    rw [State.step] at hstep
    split at hstep
    case isTrue hphase =>
      cases hstep
      exact ⟨h.covers, fun _ => h.drained (.inr (.inl hphase))⟩
    case isFalse => cases hstep
  | start =>
    rw [State.step] at hstep
    split at hstep
    case isTrue hphase =>
      cases hstep
      have hended := (h.drained (.inr (.inr hphase))).1
      refine ⟨?_, fun hdrained => ?_⟩
      · have hcovers := h.covers
        rw [State.atHand, hended] at hcovers
        exact hcovers
      · rcases hdrained with hphase | hphase | hphase <;> cases hphase
    case isFalse => cases hstep

/-- Whenever `stop` has returned, the futures of all tasks that were ever put are done,
unless the loop was cancelled with an open task at hand or a message came too late. -/
theorem futures_done_of_stopped (h : transition.Reach NothingLost state)
    (hstopped : state.phase = .stopped) :
    ∀ id < state.controller.nextTask, state.controller.futures id ≠ .pending := by
  have hinv : Inv state := by
    refine Transition.Reach.invariant (I := Inv) ?_ (fun _ _ _ h hok hstep => h.step hok hstep) h
    rintro _ rfl
    refine ⟨?_, fun hdrained => ?_⟩
    · rintro id ⟨⟩
    · rcases hdrained with hphase | hphase | hphase <;> cases hphase
  intro id hid hpending
  obtain ⟨hended, hqueue⟩ := hinv.drained (.inr (.inr hstopped))
  obtain ⟨task, htask, -⟩ := hinv.covers id hid hpending
  rw [State.atHand, hended, hqueue] at htask
  cases htask

end Run

/-- A device's information is being read while the controller is stopped. -/
def loadInfoRun : List Event :=
  [.running (.putTask .loadInfo), .running .take, .running .dispatch, .stop, .oneShotTasksStopped,
    .loopEnds, .pollingTaskDone, .cleanedUp, .deinitialized]

/-- Its caller is left hanging. -/
theorem exists_pending_of_stopped :
    ∃ state : State, transition.Reachable state ∧ state.phase = .stopped ∧
      ∃ id < state.controller.nextTask, state.controller.futures id = .pending := by
  have hrun : (transition.run (fun _ _ => True) {} loadInfoRun).any (fun state =>
      state.phase = .stopped ∧ 0 < state.controller.nextTask ∧
        state.controller.futures 0 = .pending) = true := by
    decide +kernel
  obtain ⟨state, hstate, hall⟩ := (Option.any_eq_true _ _).1 hrun
  obtain ⟨hstopped, hput, hpending⟩ := of_decide_eq_true hall
  exact ⟨state, (Transition.Reach.init rfl).run hstate, hstopped, 0, hput, hpending⟩

instance (state : State) (event : Event) : Decidable (NothingLost state event) :=
  match event with
  | .loopEnds => inferInstanceAs (Decidable (∀ _ ∈ _, _))
  | .onMessage =>
    inferInstanceAs (Decidable (¬ (state.phase = .cleaningUp ∨ state.phase = .deinitializing ∨
      state.phase = .stopped)))
  | .running _ | .stop | .oneShotTasksStopped | .commissioningStopped | .pollingTaskDone
  | .cleanedUp | .deinitialized | .start => .isTrue trivial

/-- Two written controls and a commissioning are in progress or wait while the controller is
stopped. -/
def commissioningRun : List Event :=
  [.running .startCommissioning, .running .take, .running .dispatch, .onMessage, .onMessage,
    .running (.putTask .loadInfo), .running (.childStep none [] ""), .stop, .oneShotTasksStopped,
    .running (.childStep (some .cancelled) [] ""), .commissioningStopped,
    .running (.commissioningDone false), .pollingTaskDone, .cleanedUp, .deinitialized]

theorem futures_done_commissioning :
    ∃ state : State, state.phase = .stopped ∧ state.controller.nextTask = 4 ∧
      ∀ id < state.controller.nextTask, state.controller.futures id ≠ .pending := by
  have hrun : (transition.run NothingLost {} commissioningRun).any (fun state =>
      state.phase = .stopped ∧ state.controller.nextTask = 4) = true := by
    decide +kernel
  obtain ⟨state, hstate, hall⟩ := (Option.any_eq_true _ _).1 hrun
  obtain ⟨hstopped, hput⟩ := of_decide_eq_true hall
  exact ⟨state, hstopped, hput,
    futures_done_of_stopped ((Transition.Reach.init rfl).run hstate) hstopped⟩

end WbMqttDali.Controller.Stop
