import Mathlib
import WbMqttDali.Controller.Tasks

/-!
# The commissioning status of a bus

`start_commissioning` marks the status as queued and puts a task into the queue; the
polling loop takes the task and runs the scan in a child task, which reports its
stages and its end in the status.  `cancel_commissioning` drops the queued task or
cancels the child.  The status is thus changed from three places, and none of them
looks at what became of the task.
-/

namespace WbMqttDali.Controller.ApplicationController

/-- A controller that has just been started. -/
def transition : Transition ApplicationController Event where
  init := fun controller =>
    controller.commissioningState.isRunning = false ∧ controller.loop = .getting ∧
      controller.currentCommissioningTask = none
  step := step

/-- A commissioning task is in the queue, or is taken and not handled yet, or its child
task is not done. -/
def Underway (controller : ApplicationController) : Prop :=
  (∃ task ∈ controller.tasksQueue, task.taskType = .commissioning) ∨
    (∃ task ∈ controller.loop.held, task.taskType = .commissioning) ∨
    ∃ child ∈ controller.currentCommissioningTask, ∀ cancelled, child.point ≠ .done cancelled

def NotStuck (controller : ApplicationController) : Prop :=
  controller.commissioningState.isRunning = true → controller.Underway

/-- No commissioning task is taken up in quiescent mode, and none is cancelled between
its creation and its first step. -/
def Undisturbed (controller : ApplicationController) : Event → Prop
  | .dispatch =>
    ∀ task ∈ controller.loop.held, task.taskType = .commissioning →
      controller.inQuiescentMode = false
  | .cancelCommissioning _ =>
    ∀ child ∈ controller.currentCommissioningTask, child.point ≠ .created
  | _ => True

/-- A child that has not made its first step has not been cancelled either. -/
def FirstStepSafe (controller : ApplicationController) : Prop :=
  ∀ child ∈ controller.currentCommissioningTask, child.point = .created →
    child.cancelRequested = false

/-! ### What the operations leave alone -/

section Frame

variable {controller controller' : ApplicationController} {task : ApplicationControllerTask}
  {outcome : Future} {item : Option ApplicationControllerTask} {intervalElapsed : Bool}

lemma settleAll_eq (tasks : List ApplicationControllerTask) (outcomes : List Future) :
    ∃ futures, controller.settleAll tasks outcomes = { controller with futures } := by
  induction tasks generalizing controller outcomes with
  | nil => exact ⟨_, rfl⟩
  | cons task tasks ih =>
    cases outcomes with
    | nil => exact ⟨_, rfl⟩
    | cons outcome outcomes =>
      obtain ⟨futures, h⟩ := @ih (controller.settle task outcome) outcomes
      exact ⟨futures, h⟩

/-- The loop begins again with the item it holds. -/
lemma nextIteration_frame :
    (controller.nextIteration item intervalElapsed).tasksQueue = controller.tasksQueue ∧
      (controller.nextIteration item intervalElapsed).commissioningState =
        controller.commissioningState ∧
      (controller.nextIteration item intervalElapsed).currentCommissioningTask =
        controller.currentCommissioningTask ∧
      (controller.nextIteration item intervalElapsed).loop.held = item := by
  rw [nextIteration]
  split
  · exact ⟨rfl, rfl, rfl, rfl⟩
  · refine ⟨rfl, rfl, rfl, ?_⟩
    cases item <;> rfl

/-- The child has gone on to a later await, or it has ended and the status has as well. -/
def ChildMoved (controller controller' : ApplicationController) : Prop :=
  controller'.tasksQueue = controller.tasksQueue ∧ controller'.loop = controller.loop ∧
    ∃ child, controller'.currentCommissioningTask = some child ∧ child.point ≠ .created ∧
      (controller'.commissioningState.isRunning = true →
        ∀ cancelled, child.point ≠ .done cancelled)

/-- A child whose first step was not cancelled ends with an end of the status only. -/
lemma childMoved_of_childStep {child : Child} {raised : Option Raised}
    {summary : List CommissioningDeviceSummary} {now : String}
    (hfirst : child.point = .created → child.cancelRequested = false)
    (h : controller.childStep child raised summary now = some controller') :
    ChildMoved controller controller' := by
  have hfinish : ∀ raised, some (controller.finishCommissioning raised summary now) =
      some controller' → ChildMoved controller controller' := by
    rintro (_ | _ | text) hfinish <;> obtain rfl := Option.some.inj hfinish <;>
      exact ⟨rfl, rfl, _, rfl, nofun, nofun⟩
  have hsuspend : ∀ {point}, some (controller.suspendAt child point) = some controller' →
      point ≠ .created → (∀ cancelled, point ≠ .done cancelled) →
      ChildMoved controller controller' := by
    intro point hsuspend hcreated hdone
    obtain rfl := Option.some.inj hsuspend
    exact ⟨rfl, rfl, _, rfl, hcreated, fun _ => hdone⟩
  rw [childStep.eq_def] at h
  split at h
  case h_1 hpoint =>
    rw [hfirst hpoint, if_neg Bool.false_ne_true] at h
    exact hsuspend h nofun nofun
  case h_6 | h_8 =>
    obtain rfl := Option.some.inj h
    exact ⟨rfl, rfl, _, rfl, nofun, fun _ => nofun⟩
  case h_15 => cases h
  all_goals first
    | exact hsuspend h nofun nofun
    | exact hfinish _ h

end Frame

/-! ### The status over a run -/

section Run

variable {controller controller' : ApplicationController} {event : Event}

/-- What keeps the tasks where they are and the status as it is keeps it from getting stuck. -/
lemma NotStuck.keep (h : NotStuck controller)
    (hstatus : controller'.commissioningState = controller.commissioningState)
    (hqueue : controller'.tasksQueue = controller.tasksQueue)
    (hheld : controller'.loop.held = controller.loop.held)
    (hchild : controller'.currentCommissioningTask = controller.currentCommissioningTask) :
    NotStuck controller' := by
  intro hrunning
  rw [hstatus] at hrunning
  have hunderway := h hrunning
  rwa [Underway, hqueue, hheld, hchild]

/-- The items behind a drained batch are the next one and the rest of the queue. -/
lemma mem_drained {α : Type*} {p : α → Bool} {items : List α} {a : α} (h : a ∈ items)
    (hp : p a = false) :
    (items.dropWhile p).head? = some a ∨ a ∈ (items.dropWhile p).tail := by
  induction items with
  | nil => cases h
  | cons item items ih =>
    rw [List.dropWhile_cons]
    split
    case isTrue hitem =>
      refine ih ((List.mem_cons.1 h).resolve_left ?_)
      rintro rfl
      rw [hp] at hitem
      cases hitem
    case isFalse =>
      rcases List.mem_cons.1 h with rfl | h
      · exact .inl rfl
      · exact .inr h

/-- What the loop does with an item keeps every commissioning task, outside quiescent mode. -/
lemma underway_dispatch {item : ApplicationControllerTask}
    (hloop : controller.loop = .holding item)
    (hok : item.taskType = .commissioning → controller.inQuiescentMode = false)
    (h : controller.Underway) : (controller.dispatch item).Underway := by
  rw [Underway, hloop] at h
  rw [dispatch]
  split
  case isTrue hquiescent =>
    rcases h with hqueue | ⟨task, htask, htype⟩ | hchild
    · exact .inl hqueue
    · obtain rfl := Option.some.inj htask
      rw [hok htype] at hquiescent
      cases hquiescent
    · exact .inr (.inr hchild)
  case isFalse =>
    split
    case h_1 hcontrol =>
      rcases h with ⟨task, htask, htype⟩ | ⟨task, htask, htype⟩ | hchild
      · -- the drained items are controls, so the task is the next item or behind it
        have hnot : decide (task.taskType = .executeControl) = false := by rw [htype]; rfl
        rcases @mem_drained _
          (fun task : ApplicationControllerTask => decide (task.taskType = .executeControl))
          _ _ htask hnot with hnext | hrest
        · exact .inr (.inl ⟨task, hnext, htype⟩)
        · exact .inl ⟨task, hrest, htype⟩
      · obtain rfl := Option.some.inj htask
        rw [htype] at hcontrol
        cases hcontrol
      · exact .inr (.inr hchild)
    case h_2 => exact .inr (.inr ⟨{}, rfl, nofun⟩)
    case h_3 hnot =>
      rcases h with hqueue | ⟨task, htask, htype⟩ | hchild
      · exact .inl hqueue
      · obtain rfl := Option.some.inj htask
        exact absurd htype hnot
      · exact .inr (.inr hchild)

/-- Only together with the end of the status is a commissioning task removed. -/
lemma notStuck_cancelCommissioning {now : String} (h : NotStuck controller) :
    NotStuck (controller.cancelCommissioning now).2 := by
  rw [cancelCommissioning]
  split
  case isTrue => exact h
  case isFalse hrunning =>
    have hunderway := h (by simpa using hrunning)
    split
    case h_1 child hchild =>
      intro _
      rcases hunderway with hqueue | hheld | ⟨child', hchild', hdone⟩
      · exact .inl hqueue
      · exact .inr (.inl hheld)
      · obtain rfl := Option.some.inj (hchild ▸ hchild')
        exact .inr (.inr ⟨_, rfl, hdone⟩)
    case h_2 hnone =>
      cases hfind : controller.tasksQueue.find? fun task => task.taskType = .commissioning with
      | some task =>
        simp only [removeQueuedCommissioningTask, hfind]
        exact nofun
      | none =>
        simp only [removeQueuedCommissioningTask, hfind]
        exact h

lemma notStuck_take (h : NotStuck controller) (hstep : controller.step .take = some controller') :
    NotStuck controller' := by
  rw [step] at hstep
  split at hstep
  case h_1 item rest hloop hqueue =>
    obtain rfl := Option.some.inj hstep
    intro hrunning
    rcases h hrunning with ⟨task, htask, htype⟩ | ⟨task, htask, -⟩ | hchild
    · rw [hqueue] at htask
      rcases List.mem_cons.1 htask with rfl | htask
      · exact .inr (.inl ⟨_, rfl, htype⟩)
      · exact .inl ⟨task, htask, htype⟩
    · rw [hloop] at htask
      cases htask
    · exact .inr (.inr hchild)
  case h_2 => cases hstep

/-- The child that is taken down is done, so the status does not rest on it. -/
lemma notStuck_commissioningDone {intervalElapsed : Bool} (h : NotStuck controller)
    (hstep : controller.step (.commissioningDone intervalElapsed) = some controller') :
    NotStuck controller' := by
  rw [step] at hstep
  split at hstep
  case h_1 item cancelled cancelRequested hloop hchild =>
    obtain rfl := Option.some.inj hstep
    intro hrunning
    rw [nextIteration_frame.2.1] at hrunning
    rcases h hrunning with hqueue | ⟨task, htask, -⟩ | ⟨child, hchild', hdone⟩
    · refine .inl ?_
      rw [nextIteration_frame.1]
      exact hqueue
    · rw [hloop] at htask
      cases htask
    · rw [hchild] at hchild'
      obtain rfl := Option.some.inj hchild'
      exact absurd rfl (hdone cancelled)
  case h_2 => cases hstep

lemma notStuck_step (h : NotStuck controller) (hsafe : FirstStepSafe controller)
    (hok : Undisturbed controller event) (hstep : controller.step event = some controller') :
    NotStuck controller' := by
  cases event with
  | startCommissioning =>
    obtain rfl := Option.some.inj hstep
    rw [startCommissioning]
    split
    · exact h
    · exact fun _ => .inl ⟨_, List.mem_append_right _ (List.mem_singleton_self _), rfl⟩
  | cancelCommissioning now =>
    obtain rfl := Option.some.inj hstep
    exact notStuck_cancelCommissioning h
  | putTask taskType =>
    rw [step] at hstep
    split at hstep
    · cases hstep
    · split at hstep <;> obtain rfl := Option.some.inj hstep
      · exact h
      · intro hrunning
        rcases h hrunning with ⟨task, htask, htype⟩ | hrest
        · exact .inl ⟨task, List.mem_append_left _ htask, htype⟩
        · exact .inr hrest
  | callerCancelled | startQuiescentMode | stopQuiescentMode =>
    obtain rfl := Option.some.inj hstep
    exact h.keep rfl rfl rfl rfl
  | take => exact notStuck_take h hstep
  | timeout =>
    rw [step] at hstep
    split at hstep
    case h_1 hloop =>
      split at hstep <;> obtain rfl := Option.some.inj hstep
      · exact h
      · exact h.keep rfl rfl (by rw [hloop]; rfl) rfl
    case h_2 => cases hstep
  | pollStepDone =>
    rw [step] at hstep
    split at hstep
    case h_1 item hloop =>
      obtain rfl := Option.some.inj hstep
      exact h.keep rfl rfl (by rw [hloop]; cases item <;> rfl) rfl
    case h_2 => cases hstep
  | dispatch =>
    rw [step] at hstep
    split at hstep
    case h_1 item hloop =>
      obtain rfl := Option.some.inj hstep
      -- the dispatch of a task leaves the status as it is
      have hstatus : (controller.dispatch item).commissioningState =
          controller.commissioningState := by
        rw [dispatch]
        repeat' split
        all_goals rfl
      intro hrunning
      rw [hstatus] at hrunning
      exact underway_dispatch hloop (hok item (by rw [hloop]; rfl)) (h hrunning)
    case h_2 => cases hstep
  | controlsDone outcomes intervalElapsed =>
    rw [step] at hstep
    split at hstep
    case h_1 controls item hloop =>
      obtain rfl := Option.some.inj hstep
      obtain ⟨futures, hsettled⟩ := @settleAll_eq controller controls outcomes
      rw [hsettled]
      obtain ⟨hqueue, hstatus, hchild, hheld⟩ :=
        @nextIteration_frame { controller with futures } item intervalElapsed
      exact h.keep hstatus hqueue (by rw [hheld, hloop]; rfl) hchild
    case h_2 => cases hstep
  | taskDone outcome intervalElapsed =>
    rw [step] at hstep
    split at hstep
    case h_1 item hloop =>
      obtain rfl := Option.some.inj hstep
      obtain ⟨hqueue, hstatus, hchild, hheld⟩ :=
        @nextIteration_frame (controller.settle item outcome) none intervalElapsed
      exact h.keep hstatus hqueue (by rw [hheld, hloop]; rfl) hchild
    case h_2 => cases hstep
  | commissioningDone intervalElapsed => exact notStuck_commissioningDone h hstep
  | childStep raised summary now =>
    obtain ⟨child, hchild, hmoved⟩ := Option.bind_eq_some_iff.1 hstep
    obtain ⟨-, -, child', hchild', -, hdone⟩ :=
      childMoved_of_childStep (hsafe child hchild) hmoved
    exact fun hrunning => .inr (.inr ⟨child', hchild', hdone hrunning⟩)
  | searchProgress stage progress deviceFound =>
    rw [step] at hstep
    split at hstep
    case h_1 hchild | h_2 hchild =>
      obtain rfl := Option.some.inj hstep
      exact fun _ => .inr (.inr ⟨_, hchild, nofun⟩)
    case h_3 => cases hstep
  | readProgress done total =>
    rw [step] at hstep
    split at hstep
    case h_1 hchild =>
      obtain rfl := Option.some.inj hstep
      exact fun _ => .inr (.inr ⟨_, hchild, nofun⟩)
    case h_2 => cases hstep

/-- A child is created uncancelled, and a cancellation finds it past its first step. -/
lemma firstStepSafe_step (h : FirstStepSafe controller) (hok : Undisturbed controller event)
    (hstep : controller.step event = some controller') : FirstStepSafe controller' := by
  have hkeep : controller'.currentCommissioningTask = controller.currentCommissioningTask →
      FirstStepSafe controller' := fun hchild => by rwa [FirstStepSafe, hchild]
  cases event with
  | startCommissioning =>
    obtain rfl := Option.some.inj hstep
    refine hkeep ?_
    rw [startCommissioning]
    split <;> rfl
  | cancelCommissioning now =>
    obtain rfl := Option.some.inj hstep
    cases hchild : controller.currentCommissioningTask with
    | some child =>
      rw [cancelCommissioning, hchild]
      split
      · exact h
      · intro child' hchild' hcreated
        obtain rfl := Option.some.inj hchild'
        -- a child that is cancelled has made its first step
        exact absurd hcreated (hok child hchild)
    | none =>
      refine hkeep ?_
      simp only [cancelCommissioning, removeQueuedCommissioningTask, hchild]
      repeat' split
      all_goals exact hchild
  | childStep raised summary now =>
    obtain ⟨child, hchild, hmoved⟩ := Option.bind_eq_some_iff.1 hstep
    obtain ⟨-, -, child', hchild', hcreated, -⟩ := childMoved_of_childStep (h child hchild) hmoved
    intro child'' hchild'' hcreated'
    obtain rfl := Option.some.inj (hchild' ▸ hchild'')
    exact absurd hcreated' hcreated
  | dispatch =>
    rw [step] at hstep
    split at hstep
    case h_1 item hloop =>
      obtain rfl := Option.some.inj hstep
      rw [dispatch]
      split
      · exact h
      · split
        case h_2 =>
          intro child hchild _
          obtain rfl := Option.some.inj hchild
          rfl
        all_goals exact h
    case h_2 => cases hstep
  | controlsDone outcomes intervalElapsed =>
    rw [step] at hstep
    split at hstep
    case h_1 controls item hloop =>
      obtain rfl := Option.some.inj hstep
      obtain ⟨futures, hsettled⟩ := @settleAll_eq controller controls outcomes
      exact hkeep (by rw [nextIteration_frame.2.2.1, hsettled])
    case h_2 => cases hstep
  | taskDone outcome intervalElapsed =>
    rw [step] at hstep
    split at hstep
    case h_1 item hloop =>
      obtain rfl := Option.some.inj hstep
      exact hkeep nextIteration_frame.2.2.1
    case h_2 => cases hstep
  | commissioningDone intervalElapsed =>
    rw [step] at hstep
    split at hstep
    case h_1 =>
      obtain rfl := Option.some.inj hstep
      intro child hchild
      rw [nextIteration_frame.2.2.1] at hchild
      cases hchild
    case h_2 => cases hstep
  | putTask | timeout | take | pollStepDone | searchProgress | readProgress =>
    rw [step] at hstep
    repeat' split at hstep
    all_goals first
      | exact hkeep (Option.some.inj hstep ▸ rfl)
      | cases hstep
  | callerCancelled | startQuiescentMode | stopQuiescentMode =>
    exact hkeep (Option.some.inj hstep ▸ rfl)

/-- A new scan is refused only while the status is running. -/
lemma startCommissioning_eq_started :
    controller.startCommissioning.1 = .started ↔
      controller.commissioningState.isRunning = false := by
  rw [startCommissioning]
  split
  case isTrue hrunning => simp [hrunning]
  case isFalse hrunning => simpa using hrunning

end Run

/-- In a run whose scans are taken up outside quiescent mode and are not cancelled before
their first step, a running status has a task that will end it, and without such a task a
new scan is started. -/
theorem notStuck_of_undisturbed {controller : ApplicationController}
    (h : transition.Reach Undisturbed controller) :
    controller.NotStuck ∧
      (¬controller.Underway → controller.startCommissioning.1 = .started) := by
  have hsafe : ∀ controller, transition.Reach Undisturbed controller → FirstStepSafe controller :=
    fun _ h => h.invariant
      (fun _ hinit child hchild => by rw [hinit.2.2] at hchild; cases hchild)
      fun _ _ _ hsafe hok hstep => firstStepSafe_step hsafe hok hstep
  have hnot : controller.NotStuck := @Transition.Reach.invariant_of _ _ _ _ _ _ NotStuck hsafe
    (fun _ hinit hrunning => by rw [hinit.1] at hrunning; cases hrunning)
    (fun _ _ _ hsafe hnot hok hstep => notStuck_step hnot hsafe hok hstep) h
  refine ⟨hnot, fun hidle => startCommissioning_eq_started.2 ?_⟩
  rw [← Bool.not_eq_true]
  exact fun hrunning => hidle (hnot hrunning)

/-- A controller with an empty queue. -/
def started : ApplicationController := {}

lemma started_init : transition.init started := ⟨rfl, rfl, rfl⟩

instance (controller : ApplicationController) : DecidablePred (Undisturbed controller) :=
  fun event =>
    match event with
    | .dispatch => inferInstanceAs (Decidable (∀ _ ∈ _, _ → _))
    | .cancelCommissioning _ => inferInstanceAs (Decidable (∀ _ ∈ _, _))
    | .startCommissioning | .putTask _ | .callerCancelled _ | .startQuiescentMode
    | .stopQuiescentMode | .take | .timeout | .pollStepDone | .controlsDone _ _ | .taskDone _ _
    | .commissioningDone _ | .childStep _ _ _ | .searchProgress _ _ _ | .readProgress _ _ =>
      inferInstanceAs (Decidable True)

/-- A scan that is cancelled while it sleeps, and the end of its task. -/
def cancelledScan : List Event :=
  [.startCommissioning, .take, .dispatch, .childStep none [] "", .cancelCommissioning "",
    .childStep (some .cancelled) [] "2024-01-01T00:00:00Z", .commissioningDone false]

theorem notStuck_cancelledScan :
    ∃ controller : ApplicationController, (controller.NotStuck ∧
      (¬controller.Underway → controller.startCommissioning.1 = .started)) ∧
      controller.commissioningState.status = .cancelled := by
  have hrun : (transition.run Undisturbed started cancelledScan).any (fun controller =>
      controller.commissioningState.status = .cancelled) = true := by decide +kernel
  obtain ⟨controller, hcontroller, hany⟩ := (Option.any_eq_true _ _).1 hrun
  exact ⟨controller, notStuck_of_undisturbed ((Transition.Reach.init started_init).run hcontroller),
    of_decide_eq_true hany⟩

/-- Nothing is left of the scan, and its status is still running. -/
def Stuck (controller : ApplicationController) : Prop :=
  controller.commissioningState.isRunning = true ∧ controller.tasksQueue = [] ∧
    controller.loop = .getting ∧ controller.currentCommissioningTask = none

instance (controller : ApplicationController) : Decidable controller.Stuck :=
  inferInstanceAs (Decidable (_ ∧ _ ∧ _ ∧ _))

lemma not_notStuck_of_stuck {controller : ApplicationController} (h : controller.Stuck) :
    ¬controller.NotStuck := by
  obtain ⟨hrunning, hqueue, hloop, hchild⟩ := h
  intro hnot
  rcases hnot hrunning with ⟨task, htask, -⟩ | ⟨task, htask, -⟩ | ⟨child, hchild', -⟩
  · rw [hqueue] at htask
    cases htask
  · rw [hloop] at htask
    cases htask
  · rw [hchild] at hchild'
    cases hchild'

/-- A scan that is taken up in quiescent mode is dropped, and its status stays queued. -/
theorem exists_stuck :
    ∃ controller, transition.Reachable controller ∧ ¬controller.NotStuck := by
  have hrun : (transition.run (fun _ _ => True) started
      [.startQuiescentMode, .startCommissioning, .take, .dispatch]).any
      (fun controller => controller.Stuck) = true := by decide +kernel
  obtain ⟨controller, hcontroller, hany⟩ := (Option.any_eq_true _ _).1 hrun
  exact ⟨controller, (Transition.Reach.init started_init).run hcontroller,
    not_notStuck_of_stuck (of_decide_eq_true hany)⟩

/-- So does a scan that is cancelled before the first step of its child task. -/
theorem exists_stuck_cancelledBeforeFirstStep :
    ∃ controller, transition.Reachable controller ∧ ¬controller.NotStuck := by
  have hrun : (transition.run (fun _ _ => True) started
      [.startCommissioning, .take, .dispatch, .cancelCommissioning "", .childStep none [] "",
        .commissioningDone false]).any
      (fun controller => controller.Stuck) = true := by decide +kernel
  obtain ⟨controller, hcontroller, hany⟩ := (Option.any_eq_true _ _).1 hrun
  exact ⟨controller, (Transition.Reach.init started_init).run hcontroller,
    not_notStuck_of_stuck (of_decide_eq_true hany)⟩

end WbMqttDali.Controller.ApplicationController
