import Mathlib
import WbMqttDali.Controller.Tasks

/-!
# Messages to controls and the polling loop

A message on a control's `on` topic leaves its payload at the control; the first one
since the control was last looked at also puts a task into the queue.  The polling loop
takes the value off the control when it comes to the task.
-/

namespace WbMqttDali.Controller.ControlQueue

/-- A control object, known by its place, which is a device and a control id, and by how
many objects the place had before it: a device that is rebuilt gets new ones. -/
structure Control (τ : Type*) where
  place : τ
  generation : ℕ
  deriving DecidableEq

/-- A task, with the control of an `EXECUTE_CONTROL` task. -/
structure Task (τ : Type*) where
  id : ℕ
  control : Option (Control τ)
  deriving DecidableEq

/-- Where the polling loop is suspended, with its variable `item`. -/
inductive LoopPoint (τ : Type*) where
  /-- In `wait_for(queue.get(), ..)`, which is entered with an empty queue only: an item
  that is there already is returned at once. -/
  | getting
  | polling (item : Option (Task τ))
  /-- In the `gather` of a batch. -/
  | executingControls (controls : List (Task τ)) (item : Option (Task τ))
  | executing (item : Task τ)
  deriving DecidableEq

variable {τ : Type*}

def LoopPoint.item : LoopPoint τ → Option (Task τ)
  | .polling item | .executingControls _ item => item
  | .getting | .executing _ => none

/-- The tasks that are being executed. -/
def LoopPoint.inProgress : LoopPoint τ → List (Task τ)
  | .executingControls controls _ => controls
  | .executing item => [item]
  | .getting | .polling _ => []

/-- A record of a value that was taken off a control, to be executed or dropped. -/
structure Taken (τ : Type*) where
  task : ℕ
  control : Control τ
  value : Option String
  isExecuted : Bool
  deriving DecidableEq

/-- The controller, with records of what it received and of what the loop took. -/
structure ApplicationController (τ : Type*) extends TaskQueue (Task τ) where
  isInstalled : τ → Bool := fun _ => false
  generation : τ → ℕ := fun _ => 0
  valueToSet : Control τ → Option String := fun _ => none
  loop : LoopPoint τ := .getting
  received : List (Control τ × String) := []
  taken : List (Taken τ) := []

namespace ApplicationController

variable [DecidableEq τ] (controller : ApplicationController τ)

def IsDirty (control : Control τ) : Prop := (controller.valueToSet control).isSome = true

instance (control : Control τ) : Decidable (controller.IsDirty control) :=
  inferInstanceAs (Decidable (_ = true))

/-- `device.get_mqtt_control(control_id)` -/
def getMqttControl (place : τ) : Option (Control τ) :=
  if controller.isInstalled place then some ⟨place, controller.generation place⟩ else none

def settle (task : ℕ) (outcome : Future) : ApplicationController τ :=
  { controller with toTaskQueue := controller.toTaskQueue.settle task outcome }

def putTask (control : Option (Control τ)) : ApplicationController τ :=
  { controller with
    tasksQueue := controller.tasksQueue ++ [⟨controller.nextTask, control⟩]
    nextTask := controller.nextTask + 1 }

/-- `_handle_on_topic` up to its first await, of a message whose topic leads to the place. -/
def handleOnTopic (place : τ) (payload : String) : ApplicationController τ :=
  match controller.getMqttControl place with
  | none => controller
  | some control =>
    let changed : ApplicationController τ :=
      { controller with
        valueToSet := Function.update controller.valueToSet control (some payload)
        received := controller.received ++ [(control, payload)] }
    if controller.IsDirty control then changed else changed.putTask (some control)

/-- `control.value_to_set = None`, after its value was read to be executed or dropped. -/
def takeOff (isExecuted : Bool) (item : Task τ) : ApplicationController τ :=
  match item.control with
  | none => controller
  | some control =>
    { controller with
      valueToSet := Function.update controller.valueToSet control none
      taken := controller.taken ++
        [⟨item.id, control, controller.valueToSet control, isExecuted⟩] }

/-- An item is dropped in quiescent mode. -/
def drop (item : Task τ) : ApplicationController τ :=
  (controller.takeOff false item).settle item.id
    (.exception "Cannot execute tasks while in quiescent mode")

/-- The loop from its top to the next await, when it would take the items in this order. -/
def loopOver : ApplicationController τ → List (Task τ) → ApplicationController τ
  | controller, [] => { controller with tasksQueue := [], loop := .getting }
  | controller, item :: items =>
    if controller.inQuiescentMode then loopOver (controller.drop item) items
    else
      match item.control with
      | some _ =>
        let batch := (item :: items).takeWhile fun task => task.control.isSome
        let rest := (item :: items).dropWhile fun task => task.control.isSome
        { batch.foldl (takeOff · true) controller with
          tasksQueue := rest.tail
          loop := .executingControls batch rest.head? }
      | none => { controller with tasksQueue := items, loop := .executing item }

/-- The loop from its top with the variable `item`. -/
def loopTop (item : Option (Task τ)) : ApplicationController τ :=
  controller.loopOver (item.toList ++ controller.tasksQueue)

/-- The end of an iteration: a poll step is slipped in if the polling interval has elapsed
and nothing else is to be done. -/
def nextIteration (item : Option (Task τ)) (intervalElapsed : Bool) : ApplicationController τ :=
  if !controller.inQuiescentMode && controller.tasksQueue.isEmpty && intervalElapsed then
    { controller with loop := .polling item }
  else controller.loopTop item

end ApplicationController

inductive Event (τ : Type*) where
  | onMessage (place : τ) (payload : String)
  /-- A device is built or rebuilt, with new control objects. -/
  | install (place : τ)
  | uninstall (place : τ)
  /-- A request of another type. -/
  | putTask
  /-- `cancel_commissioning` takes its task out of the queue. -/
  | removeTask (id : ℕ)
  | startQuiescentMode
  | stopQuiescentMode
  /-- The queue has an item for the loop that waits for one. -/
  | wake
  /-- The loop stops waiting. -/
  | timeout
  | pollStepDone
  /-- The batch is done; `errors` are the exceptions of its tasks. -/
  | controlsDone (errors : ℕ → Option String) (intervalElapsed : Bool)
  | taskDone (error : Option String) (intervalElapsed : Bool)

/-- The polling loop goes on. -/
def Event.IsLoop : Event τ → Prop
  | .wake | .timeout | .pollStepDone | .controlsDone _ _ | .taskDone _ _ => True
  | .onMessage _ _ | .install _ | .uninstall _ | .putTask | .removeTask _
  | .startQuiescentMode | .stopQuiescentMode => False

/-- The future of a task that ended so. -/
def outcomeOf : Option String → Future
  | none => .result
  | some error => .exception error

namespace ApplicationController

variable [DecidableEq τ]

/-- The loop over the results of a batch. -/
def settleAll (controller : ApplicationController τ) (controls : List (Task τ))
    (errors : ℕ → Option String) : ApplicationController τ :=
  controls.foldl (fun controller task => controller.settle task.id (outcomeOf (errors task.id)))
    controller

def step (controller : ApplicationController τ) : Event τ → Option (ApplicationController τ)
  | .onMessage place payload => some (controller.handleOnTopic place payload)
  | .install place =>
    some
      { controller with
        isInstalled := Function.update controller.isInstalled place true
        generation :=
          Function.update controller.generation place (controller.generation place + 1) }
  | .uninstall place =>
    some { controller with isInstalled := Function.update controller.isInstalled place false }
  | .putTask => some (controller.putTask none)
  | .removeTask id =>
    some
      { controller with
        tasksQueue :=
          controller.tasksQueue.filter fun task => task.control.isSome || task.id ≠ id }
  | .startQuiescentMode => some { controller with inQuiescentMode := true }
  | .stopQuiescentMode => some { controller with inQuiescentMode := false }
  | .wake =>
    if controller.loop = .getting ∧ controller.tasksQueue ≠ [] then some (controller.loopTop none)
    else none
  | .timeout =>
    if controller.loop = .getting then
      if controller.inQuiescentMode then some (controller.loopTop none)
      else some { controller with loop := .polling none }
    else none
  | .pollStepDone =>
    match controller.loop with
    | .polling item => some (controller.loopTop item)
    | _ => none
  | .controlsDone errors intervalElapsed =>
    match controller.loop with
    | .executingControls controls item =>
      some ((controller.settleAll controls errors).nextIteration item intervalElapsed)
    | _ => none
  | .taskDone error intervalElapsed =>
    match controller.loop with
    | .executing item =>
      some ((controller.settle item.id (outcomeOf error)).nextIteration none intervalElapsed)
    | _ => none

end ApplicationController

def transition (τ : Type*) [DecidableEq τ] : Transition (ApplicationController τ) (Event τ) where
  init controller := controller = {}
  step := ApplicationController.step

/-! ### What the waiting tasks say -/

/-- The controls of the tasks. -/
def waiting (tasks : List (Task τ)) : List (Control τ) := tasks.filterMap Task.control

namespace ApplicationController

/-- The values that were handed to `execute_control`, in this order. -/
def executed (controller : ApplicationController τ) : List (Control τ × Option String) :=
  (controller.taken.filter (·.isExecuted)).map fun entry => (entry.control, entry.value)

/-- The values that the tasks would take, in this order. -/
def pending (controller : ApplicationController τ) (tasks : List (Task τ)) :
    List (Control τ × Option String) :=
  (waiting tasks).map fun control => (control, controller.valueToSet control)

/-- The received payloads, in this order. -/
def arrived (controller : ApplicationController τ) : List (Control τ × Option String) :=
  controller.received.map fun message => (message.1, some message.2)

end ApplicationController

/-- The values of a place. -/
def atPlace [DecidableEq τ] (place : τ) (values : List (Control τ × Option String)) :
    List (Control τ × Option String) :=
  values.filter fun value => value.1.place = place

section Waits

variable [DecidableEq τ] {controller : ApplicationController τ} {item : Task τ}
  {tasks rest : List (Task τ)}

/-- The last message of a control. -/
def ApplicationController.lastReceived (controller : ApplicationController τ)
    (control : Control τ) : Option String :=
  (controller.received.filter fun message => message.1 = control).getLast?.map Prod.snd

/-- The payload was the last value taken off the control; it was executed, or the task that
carried it ended with an error. -/
def ApplicationController.LastTaken (controller : ApplicationController τ) (control : Control τ)
    (payload : String) : Prop :=
  ∃ entry, (controller.taken.filter fun entry => entry.control = control).getLast? = some entry ∧
    entry.value = some payload ∧
      (entry.isExecuted = true ∨ ∃ error, controller.futures entry.task = .exception error)

/-- The values of the controls go with the tasks that wait for being looked at. -/
structure Waits (controller : ApplicationController τ) (tasks : List (Task τ)) : Prop where
  generation_le : ∀ control ∈ waiting tasks,
    control.generation ≤ controller.generation control.place
  increasing : (waiting tasks).Pairwise fun first later =>
    first.place = later.place → first.generation < later.generation
  dirty_iff : ∀ control, controller.IsDirty control ↔ control ∈ waiting tasks
  sublist : ∀ place, (atPlace place (controller.executed ++ controller.pending tasks)).Sublist
    (atPlace place controller.arrived)
  last : ∀ control payload, controller.lastReceived control = some payload →
    controller.valueToSet control = some payload ∨
      controller.valueToSet control = none ∧ controller.LastTaken control payload

/-- The futures of the tasks are open, and no two tasks share one. -/
structure Open (controller : ApplicationController τ) (tasks : List (Task τ)) : Prop where
  nodup : (tasks.map Task.id).Nodup
  lt : ∀ task ∈ tasks, task.id < controller.nextTask
  pending : ∀ task ∈ tasks, controller.futures task.id = .pending
  fresh : ∀ id, controller.nextTask ≤ id → controller.futures id = .pending

lemma Waits.update (h : Waits controller tasks) (isInstalled : τ → Bool)
    (tasksQueue : List (Task τ)) (nextTask : ℕ) (inQuiescentMode : Bool) (loop : LoopPoint τ) :
    Waits { controller with isInstalled, tasksQueue, nextTask, inQuiescentMode, loop } tasks :=
  ⟨h.generation_le, h.increasing, h.dirty_iff, h.sublist, h.last⟩

lemma Waits.waiting_eq (h : Waits controller tasks) (heq : waiting rest = waiting tasks) :
    Waits controller rest := by
  have hpending : controller.pending rest = controller.pending tasks := by
    rw [ApplicationController.pending, heq, ApplicationController.pending]
  exact ⟨heq ▸ h.generation_le, heq ▸ h.increasing, heq ▸ h.dirty_iff,
    fun place => hpending ▸ h.sublist place, h.last⟩

lemma Waits.futures (h : Waits controller tasks) {futures : ℕ → Future}
    (hkeep : ∀ id error, controller.futures id = .exception error →
      futures id = .exception error) :
    Waits { controller with futures } tasks := by
  refine ⟨h.generation_le, h.increasing, h.dirty_iff, h.sublist, fun control payload hlast => ?_⟩
  rcases h.last control payload hlast with hvalue | ⟨hnone, entry, hentry, hvalue, hend⟩
  · exact .inl hvalue
  · exact .inr ⟨hnone, entry, hentry, hvalue, hend.imp_right (Exists.imp fun _ => hkeep _ _)⟩

omit [DecidableEq τ] in
lemma waiting_cons_none (h : item.control = none) : waiting (item :: rest) = waiting rest := by
  simp [waiting, h]

omit [DecidableEq τ] in
lemma waiting_cons_some {control : Control τ} (h : item.control = some control) :
    waiting (item :: rest) = control :: waiting rest := by
  simp [waiting, h]

lemma takeOff_some {control : Control τ} (h : item.control = some control) (isExecuted : Bool) :
    controller.takeOff isExecuted item =
      { controller with
        valueToSet := Function.update controller.valueToSet control none
        taken := controller.taken ++
          [⟨item.id, control, controller.valueToSet control, isExecuted⟩] } := by
  rw [ApplicationController.takeOff, h]

omit [DecidableEq τ] in
lemma pending_congr {changed : ApplicationController τ}
    (h : ∀ control ∈ waiting rest, changed.valueToSet control = controller.valueToSet control) :
    changed.pending rest = controller.pending rest :=
  List.map_congr_left fun control hmem => by rw [h control hmem]

omit [DecidableEq τ] in
lemma pending_cons {control : Control τ} (h : item.control = some control) :
    controller.pending (item :: rest) =
      (control, controller.valueToSet control) :: controller.pending rest := by
  rw [ApplicationController.pending, waiting_cons_some h]
  rfl

/-- What was executed and what may still be executed lost at most a value. -/
lemma sublist_takeOff {control : Control τ} (h : item.control = some control)
    (hnot : control ∉ waiting rest) (isExecuted : Bool) :
    ((controller.takeOff isExecuted item).executed ++
        (controller.takeOff isExecuted item).pending rest).Sublist
      (controller.executed ++ controller.pending (item :: rest)) := by
  have hpending : (controller.takeOff isExecuted item).pending rest = controller.pending rest :=
    pending_congr fun other hother => by
      rw [takeOff_some h]
      exact Function.update_of_ne (ne_of_mem_of_not_mem hother hnot) _ _
  rw [hpending, pending_cons h, takeOff_some h]
  cases isExecuted with
  | true => simp [ApplicationController.executed]
  | false => simp [ApplicationController.executed]

lemma lastTaken_takeOff_self {control : Control τ} (h : item.control = some control)
    (isExecuted : Bool) {payload : String} (hvalue : controller.valueToSet control = some payload)
    (hend : isExecuted = true ∨ ∃ error, controller.futures item.id = .exception error) :
    (controller.takeOff isExecuted item).LastTaken control payload := by
  rw [takeOff_some h]
  exact ⟨⟨item.id, control, controller.valueToSet control, isExecuted⟩, by simp, hvalue, hend⟩

lemma lastTaken_takeOff_of_ne {control other : Control τ} (h : item.control = some control)
    (hother : other ≠ control) (isExecuted : Bool) {payload : String} :
    (controller.takeOff isExecuted item).LastTaken other payload ↔
      controller.LastTaken other payload := by
  rw [takeOff_some h]
  simp [ApplicationController.LastTaken, hother.symm]

/-- Only the control of the first task loses its value, and no other task waits for it. -/
lemma Waits.takeOff (h : Waits controller (item :: rest)) (isExecuted : Bool)
    (hend : isExecuted = true ∨ ∃ error, controller.futures item.id = .exception error) :
    Waits (controller.takeOff isExecuted item) rest := by
  cases hitem : item.control with
  | none =>
    rw [ApplicationController.takeOff, hitem]
    exact h.waiting_eq (waiting_cons_none hitem).symm
  | some control =>
    have hw : waiting (item :: rest) = control :: waiting rest := waiting_cons_some hitem
    obtain ⟨hlt, hincreasing⟩ := List.pairwise_cons.1 (hw ▸ h.increasing)
    -- a control waits in one task only
    have hnot : control ∉ waiting rest := fun hmem => lt_irrefl _ (hlt control hmem rfl)
    have hdirty : controller.IsDirty control := (h.dirty_iff control).2 (hw ▸ List.mem_cons_self)
    refine ⟨?_, hincreasing, ?_, ?_, ?_⟩
    · intro other hother
      rw [takeOff_some hitem]
      exact h.generation_le other (hw ▸ List.mem_cons_of_mem _ hother)
    · intro other
      rw [takeOff_some hitem]
      by_cases hother : other = control
      · subst hother
        simpa [ApplicationController.IsDirty] using hnot
      · have := h.dirty_iff other
        rw [hw, List.mem_cons, or_iff_right hother] at this
        simpa [ApplicationController.IsDirty, hother] using this
    · intro place
      have harrived : (controller.takeOff isExecuted item).arrived = controller.arrived := by
        rw [takeOff_some hitem]
        rfl
      rw [harrived]
      exact ((sublist_takeOff hitem hnot isExecuted).filter _).trans (h.sublist place)
    · intro other payload hlast
      have hlast : controller.lastReceived other = some payload := by
        rwa [takeOff_some hitem] at hlast
      by_cases hother : other = control
      · subst hother
        right
        refine ⟨by rw [takeOff_some hitem]; exact Function.update_self _ _ _, ?_⟩
        -- the value is the last one received, as it was not taken before
        have hvalue : controller.valueToSet other = some payload := by
          refine (h.last other payload hlast).resolve_right fun hnone => ?_
          rw [ApplicationController.IsDirty, hnone.1] at hdirty
          cases hdirty
        exact lastTaken_takeOff_self hitem isExecuted hvalue hend
      · rw [lastTaken_takeOff_of_ne hitem hother]
        have hvalue : (controller.takeOff isExecuted item).valueToSet other =
            controller.valueToSet other := by
          rw [takeOff_some hitem]
          exact Function.update_of_ne hother _ _
        rw [hvalue]
        exact h.last other payload hlast

lemma Waits.takeOffAll {batch : List (Task τ)} (h : Waits controller (batch ++ rest)) :
    Waits (batch.foldl (ApplicationController.takeOff · true) controller) rest := by
  induction batch generalizing controller with
  | nil => exact h
  | cons item batch ih => exact ih (h.takeOff true (.inl rfl))

lemma Waits.settle (h : Waits controller tasks) (task : ℕ) (outcome : Future) :
    Waits (controller.settle task outcome) tasks :=
  h.futures fun _ _ hdropped =>
    (TaskQueue.settle_of_done (by simp [hdropped])).trans hdropped

lemma Waits.settleAll (h : Waits controller tasks) (controls : List (Task τ))
    (errors : ℕ → Option String) : Waits (controller.settleAll controls errors) tasks := by
  induction controls generalizing controller with
  | nil => exact h
  | cons item controls ih => exact ih (h.settle _ _)

lemma drop_eq : controller.drop item =
    (controller.settle item.id (.exception "Cannot execute tasks while in quiescent mode")).takeOff
      false item := by
  unfold ApplicationController.drop ApplicationController.takeOff
  cases item.control <;> rfl

lemma Waits.drop (h : Waits controller (item :: rest))
    (hpending : controller.futures item.id = .pending) : Waits (controller.drop item) rest := by
  rw [drop_eq]
  refine (h.settle _ _).takeOff false
    (.inr ⟨"Cannot execute tasks while in quiescent mode", ?_⟩)
  exact TaskQueue.settle_self hpending

/-! ### What a message changes -/

/-- The control of the newest generation stands last among those of its place. -/
lemma filter_place_eq {controls : List (Control τ)} {control : Control τ}
    (hincreasing : controls.Pairwise fun first later =>
      first.place = later.place → first.generation < later.generation)
    (hle : ∀ other ∈ controls, other.place = control.place →
      other.generation ≤ control.generation)
    (hmem : control ∈ controls) :
    ∃ earlier, controls.filter (·.place = control.place) = earlier ++ [control] ∧
      control ∉ earlier := by
  induction controls with
  | nil => cases hmem
  | cons first controls ih =>
    obtain ⟨hfirst, hincreasing⟩ := List.pairwise_cons.1 hincreasing
    have hle' : ∀ other ∈ controls, other.place = control.place →
        other.generation ≤ control.generation := fun other hother =>
      hle other (List.mem_cons_of_mem _ hother)
    by_cases heq : first = control
    · subst heq
      refine ⟨[], ?_, List.not_mem_nil⟩
      have hnone : controls.filter (·.place = first.place) = [] := by
        rw [List.filter_eq_nil_iff]
        intro other hother hplace
        have hplace : other.place = first.place := of_decide_eq_true hplace
        exact absurd (hfirst other hother hplace.symm) (not_lt.2 (hle' other hother hplace))
      simp [hnone]
    · have hmem : control ∈ controls := (List.mem_cons.1 hmem).resolve_left (Ne.symm heq)
      obtain ⟨earlier, hfilter, hnot⟩ := ih hincreasing hle' hmem
      by_cases hplace : first.place = control.place
      · exact ⟨first :: earlier, by simp [hplace, hfilter], by simp [hnot, Ne.symm heq]⟩
      · exact ⟨earlier, by simp [hplace, hfilter], hnot⟩

lemma atPlace_append (place : τ) (first second : List (Control τ × Option String)) :
    atPlace place (first ++ second) = atPlace place first ++ atPlace place second :=
  List.filter_append _ _

lemma atPlace_pending (place : τ) :
    atPlace place (controller.pending tasks) =
      ((waiting tasks).filter (·.place = place)).map fun control =>
        (control, controller.valueToSet control) := by
  rw [atPlace, ApplicationController.pending, List.filter_map]
  rfl

/-- The state after the payload was left at the control. -/
def ApplicationController.leave (controller : ApplicationController τ) (control : Control τ)
    (payload : String) : ApplicationController τ :=
  { controller with
    valueToSet := Function.update controller.valueToSet control (some payload)
    received := controller.received ++ [(control, payload)] }

lemma arrived_leave (control : Control τ) (payload : String) :
    (controller.leave control payload).arrived = controller.arrived ++
    [(control, some payload)] := by
  simp [ApplicationController.arrived, ApplicationController.leave]

lemma lastReceived_leave (control other : Control τ) (payload : String) :
    (controller.leave control payload).lastReceived other =
      if other = control then some payload else controller.lastReceived other := by
  by_cases h : other = control
  · subst h
    simp [ApplicationController.lastReceived, ApplicationController.leave]
  · simp [ApplicationController.lastReceived, ApplicationController.leave, h, Ne.symm h]

/-- The clause on last messages, after a message. -/
lemma Waits.last_leave (h : Waits controller tasks) (control : Control τ) (payload : String)
    (other : Control τ) (value : String)
    (hlast : (controller.leave control payload).lastReceived other = some value) :
    (controller.leave control payload).valueToSet other = some value ∨
      (controller.leave control payload).valueToSet other = none ∧
        (controller.leave control payload).LastTaken other value := by
  rw [lastReceived_leave] at hlast
  split at hlast
  case isTrue heq =>
    left
    rw [heq, ← hlast]
    exact Function.update_self _ _ _
  case isFalse hne =>
    have hvalue : (controller.leave control payload).valueToSet other =
        controller.valueToSet other := Function.update_of_ne hne _ _
    rw [hvalue]
    exact h.last other value hlast

/-- A message for a control elsewhere changes nothing about the place. -/
lemma sublist_leave_of_ne {control : Control τ} (payload : String) {place : τ}
    (hne : control.place ≠ place)
    (h : (atPlace place (controller.executed ++ controller.pending tasks)).Sublist
      (atPlace place controller.arrived)) :
    (atPlace place ((controller.leave control payload).executed ++
        (controller.leave control payload).pending tasks)).Sublist
      (atPlace place (controller.leave control payload).arrived) := by
  have hpending : atPlace place ((controller.leave control payload).pending tasks) =
      atPlace place (controller.pending tasks) := by
    rw [atPlace_pending, atPlace_pending]
    refine List.map_congr_left fun other hother => ?_
    have hplace : other.place = place := of_decide_eq_true (List.mem_filter.1 hother).2
    have hother : other ≠ control := by
      rintro rfl
      exact hne hplace
    rw [show (controller.leave control payload).valueToSet other = controller.valueToSet other from
      Function.update_of_ne hother _ _]
  have harrived : atPlace place (controller.leave control payload).arrived =
      atPlace place controller.arrived := by
    rw [arrived_leave]
    simp [atPlace, hne]
  rw [atPlace_append] at h
  rw [harrived, atPlace_append, hpending]
  exact h

/-- A payload replaces the one that waits. -/
lemma Waits.replace (h : Waits controller tasks) {control : Control τ}
    (hgeneration : controller.generation control.place = control.generation)
    (hdirty : controller.IsDirty control) (payload : String) :
    Waits (controller.leave control payload) tasks := by
  have hmem := (h.dirty_iff control).1 hdirty
  refine ⟨h.generation_le, h.increasing, ?_, ?_, h.last_leave control payload⟩
  · intro other
    by_cases hother : other = control
    · subst hother
      refine iff_of_true ?_ hmem
      simp [ApplicationController.IsDirty, ApplicationController.leave]
    · have := h.dirty_iff other
      simpa [ApplicationController.IsDirty, ApplicationController.leave, hother] using this
  · intro place
    by_cases hplace : control.place = place
    · subst hplace
      obtain ⟨earlier, hfilter, hnot⟩ := filter_place_eq h.increasing
        (fun other hother hplace => by
          rw [← hgeneration, ← hplace]
          exact h.generation_le other hother) hmem
      have hold := h.sublist control.place
      have hearlier : earlier.map (fun other =>
          (other, (controller.leave control payload).valueToSet other)) =
            earlier.map fun other => (other, controller.valueToSet other) :=
        List.map_congr_left fun other hother => by
          rw [show (controller.leave control payload).valueToSet other =
            controller.valueToSet other from
            Function.update_of_ne (ne_of_mem_of_not_mem hother hnot) _ _]
      rw [atPlace_append, atPlace_pending, hfilter, List.map_append, ← List.append_assoc] at hold
      rw [atPlace_append, atPlace_pending, hfilter, List.map_append, hearlier,
        ← List.append_assoc, arrived_leave, atPlace_append]
      refine List.Sublist.append ((List.sublist_append_left _ _).trans hold) ?_
      simp [ApplicationController.leave, atPlace]
    · exact sublist_leave_of_ne payload hplace (h.sublist place)

/-- A payload is left at a control for which no task waits, and a task is put. -/
lemma Waits.put (h : Waits controller tasks) {control : Control τ}
    (hgeneration : controller.generation control.place = control.generation)
    (hdirty : ¬ controller.IsDirty control) (payload : String) (id : ℕ) :
    Waits (controller.leave control payload) (tasks ++ [⟨id, some control⟩]) := by
  have hnot : control ∉ waiting tasks := fun hmem => hdirty ((h.dirty_iff control).2 hmem)
  have hwaiting : waiting (tasks ++ [⟨id, some control⟩]) = waiting tasks ++ [control] := by
    simp [waiting]
  refine ⟨?_, ?_, ?_, ?_, h.last_leave control payload⟩
  · rw [hwaiting]
    intro other hother
    rcases List.mem_append.1 hother with hother | hother
    · exact h.generation_le other hother
    · obtain rfl := List.mem_singleton.1 hother
      exact hgeneration.ge
  · rw [hwaiting, List.pairwise_append]
    refine ⟨h.increasing, List.pairwise_singleton _ _, ?_⟩
    intro other hother last hlast hplace
    obtain rfl := List.mem_singleton.1 hlast
    have hle := h.generation_le other hother
    rw [hplace, hgeneration] at hle
    -- an older control of the place is another object, as this one is not waiting
    refine lt_of_le_of_ne hle fun heq => hnot ?_
    have hsame : other = last := by
      cases other
      cases last
      simp_all
    exact hsame ▸ hother
  · intro other
    rw [hwaiting, List.mem_append, List.mem_singleton]
    by_cases hother : other = control
    · subst hother
      refine iff_of_true ?_ (.inr rfl)
      simp [ApplicationController.IsDirty, ApplicationController.leave]
    · have := h.dirty_iff other
      simpa [ApplicationController.IsDirty, ApplicationController.leave, hother] using this
  · intro place
    by_cases hplace : control.place = place
    · subst hplace
      have hold := h.sublist control.place
      -- the new value comes last of those that wait at the place
      have hpending : (controller.leave control payload).pending (tasks ++ [⟨id, some control⟩]) =
          controller.pending tasks ++ [(control, some payload)] := by
        rw [ApplicationController.pending, hwaiting, List.map_append]
        congr 1
        · exact List.map_congr_left fun other hother => by
            rw [show (controller.leave control payload).valueToSet other =
              controller.valueToSet other from
              Function.update_of_ne (ne_of_mem_of_not_mem hother hnot) _ _]
        · simp [ApplicationController.leave]
      rw [hpending, arrived_leave, ← List.append_assoc, atPlace_append,
        atPlace_append _ controller.arrived]
      exact List.Sublist.append hold (List.Sublist.refl _)
    · have hold := sublist_leave_of_ne payload hplace (h.sublist place)
      have hpending : atPlace place ((controller.leave control payload).pending
          (tasks ++ [⟨id, some control⟩])) =
          atPlace place ((controller.leave control payload).pending tasks) := by
        rw [atPlace_pending, atPlace_pending, hwaiting]
        simp [hplace]
      rw [atPlace_append] at hold ⊢
      rw [hpending]
      exact hold

/-! ### Open futures -/

omit [DecidableEq τ] in
lemma Open.congr {changed : ApplicationController τ} (h : Open controller tasks)
    (hfutures : changed.futures = controller.futures)
    (hnext : changed.nextTask = controller.nextTask) : Open changed tasks := by
  obtain ⟨hnodup, hlt, hpending, hfresh⟩ := h
  rw [← hfutures] at hpending hfresh
  rw [← hnext] at hlt hfresh
  exact ⟨hnodup, hlt, hpending, hfresh⟩

omit [DecidableEq τ] in
lemma Open.sublist (h : Open controller tasks) (hsub : rest.Sublist tasks) :
    Open controller rest :=
  ⟨h.nodup.sublist (hsub.map _), fun task htask => h.lt task (hsub.subset htask),
    fun task htask => h.pending task (hsub.subset htask), h.fresh⟩

omit [DecidableEq τ] in
lemma Open.settle (h : Open controller (item :: rest)) (outcome : Future) :
    Open (controller.settle item.id outcome) rest := by
  obtain ⟨hnot, hnodup⟩ := List.nodup_cons.1 h.nodup
  refine ⟨hnodup, fun task htask => h.lt task (List.mem_cons_of_mem _ htask), ?_, ?_⟩
  · intro task htask
    have hne : task.id ≠ item.id := by
      intro heq
      rw [← heq] at hnot
      exact hnot (List.mem_map_of_mem htask)
    rw [ApplicationController.settle, TaskQueue.settle_of_ne hne]
    exact h.pending task (List.mem_cons_of_mem _ htask)
  · intro id hid
    have hlt := h.lt item List.mem_cons_self
    have hid : controller.nextTask ≤ id := hid
    rw [ApplicationController.settle, TaskQueue.settle_of_ne (by omega)]
    exact h.fresh id hid

omit [DecidableEq τ] in
lemma Open.settleAll {controls : List (Task τ)} (h : Open controller (controls ++ rest))
    (errors : ℕ → Option String) : Open (controller.settleAll controls errors) rest := by
  induction controls generalizing controller with
  | nil => exact h
  | cons item controls ih => exact ih (h.settle _)

omit [DecidableEq τ] in
lemma Open.putTask (h : Open controller tasks) (control : Option (Control τ)) :
    Open (controller.putTask control) (tasks ++ [⟨controller.nextTask, control⟩]) := by
  refine ⟨?_, ?_, ?_, fun id hid => h.fresh id (Nat.le_of_succ_le hid)⟩
  · rw [List.map_append, List.nodup_append]
    refine ⟨h.nodup, List.nodup_singleton _, ?_⟩
    intro id hid other hother
    obtain ⟨task, htask, rfl⟩ := List.mem_map.1 hid
    obtain rfl := List.mem_singleton.1 hother
    exact (h.lt task htask).ne
  · intro task htask
    rcases List.mem_append.1 htask with htask | htask
    · exact Nat.lt_succ_of_lt (h.lt task htask)
    · obtain rfl := List.mem_singleton.1 htask
      exact Nat.lt_succ_self _
  · intro task htask
    rcases List.mem_append.1 htask with htask | htask
    · exact h.pending task htask
    · obtain rfl := List.mem_singleton.1 htask
      exact h.fresh _ le_rfl

lemma takeOff_fields (isExecuted : Bool) :
    (controller.takeOff isExecuted item).futures = controller.futures ∧
      (controller.takeOff isExecuted item).nextTask = controller.nextTask := by
  unfold ApplicationController.takeOff
  cases item.control <;> exact ⟨rfl, rfl⟩

lemma Open.takeOffAll (h : Open controller tasks) (batch : List (Task τ)) :
    Open (batch.foldl (ApplicationController.takeOff · true) controller) tasks := by
  induction batch generalizing controller with
  | nil => exact h
  | cons item batch ih => exact ih (h.congr (takeOff_fields true).1 (takeOff_fields true).2)

lemma Open.drop (h : Open controller (item :: rest)) : Open (controller.drop item) rest := by
  rw [drop_eq]
  exact (h.settle _).congr (takeOff_fields false).1 (takeOff_fields false).2

end Waits

end WbMqttDali.Controller.ControlQueue
