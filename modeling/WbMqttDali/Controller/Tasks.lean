import Mathlib
import WbMqttDali.Lib.Transition

/-!
# The tasks of a bus controller

Requests put tasks into the queue of the controller, and its polling loop takes them
one after another: a batch of control writes, a commissioning run, which has a child
task of its own, or one of the other requests.  The loop drops every task while a
foreign quiescent mode is on.
-/

namespace WbMqttDali.Controller

/-! ### The status record -/

inductive CommissioningStage where
  | queryShortAddresses
  | binarySearch
  deriving DecidableEq, Repr

inductive CommissioningStatus where
  | idle
  | queued
  | queryShortAddresses
  | binarySearch
  | readDeviceInfo
  | completed
  | failed
  | cancelled
  deriving DecidableEq, Repr

/-- The status with the value of the stage. -/
def CommissioningStage.status : CommissioningStage → CommissioningStatus
  | .queryShortAddresses => .queryShortAddresses
  | .binarySearch => .binarySearch

inductive CommissioningStartResult where
  | started
  | alreadyRunning
  deriving DecidableEq, Repr

structure CommissioningDeviceSummary where
  id : String
  name : String
  groups : List ℕ := []
  deriving DecidableEq, Repr

structure CommissioningState where
  status : CommissioningStatus := .idle
  progress : ℤ := 0
  error : Option String := none
  deviceCount : ℕ := 0
  devices : List CommissioningDeviceSummary := []
  finishedAt : Option String := none
  dali2 : Bool := false
  deriving DecidableEq, Repr

namespace CommissioningState

variable (state : CommissioningState)

def markDali2 : CommissioningState :=
  { state with dali2 := true }

/-- Every field starts anew. -/
def markQueued (_ : CommissioningState) : CommissioningState where
  status := .queued
  progress := 3
  error := none
  deviceCount := 0
  devices := []
  finishedAt := none
  dali2 := false

def reportProgress (stage : CommissioningStage) (progress : ℤ) (deviceFound : Bool) :
    CommissioningState :=
  { state with
    status := stage.status
    progress := if state.dali2 then 50 + 30 * progress / 100 else 5 + 45 * progress / 100
    deviceCount := if deviceFound then state.deviceCount + 1 else state.deviceCount }

def markCompleted (devicesSummary : List CommissioningDeviceSummary) (now : String) :
    CommissioningState :=
  { state with
    status := .completed
    progress := 100
    error := none
    finishedAt := some now
    dali2 := false
    devices := devicesSummary }

def markFailed (error : String) (devicesSummary : List CommissioningDeviceSummary)
    (now : String) : CommissioningState :=
  { state with
    status := .failed
    error := some error
    finishedAt := some now
    dali2 := false
    devices := devicesSummary }

def markCancelled (now : String) : CommissioningState :=
  { state with
    status := .cancelled
    devices := []
    error := none
    finishedAt := some now
    dali2 := false }

def markReadingInfo : CommissioningState :=
  { state with status := .readDeviceInfo, progress := 81 }

def reportReadProgress (done total : ℤ) : CommissioningState :=
  { state with progress := 81 + 18 * done / total }

def isRunning : Bool :=
  match state.status with
  | .queued | .queryShortAddresses | .binarySearch | .readDeviceInfo => true
  | .idle | .completed | .failed | .cancelled => false

@[simp] lemma isRunning_markDali2 : state.markDali2.isRunning = state.isRunning := rfl

@[simp] lemma isRunning_markQueued : state.markQueued.isRunning = true := rfl

@[simp] lemma isRunning_reportProgress (stage : CommissioningStage) (progress : ℤ)
    (deviceFound : Bool) : (state.reportProgress stage progress deviceFound).isRunning = true := by
  cases stage <;> rfl

@[simp] lemma isRunning_markCompleted (summary : List CommissioningDeviceSummary) (now : String) :
    (state.markCompleted summary now).isRunning = false := rfl

@[simp] lemma isRunning_markFailed (error : String) (summary : List CommissioningDeviceSummary)
    (now : String) : (state.markFailed error summary now).isRunning = false := rfl

@[simp] lemma isRunning_markCancelled (now : String) :
    (state.markCancelled now).isRunning = false := rfl

@[simp] lemma isRunning_markReadingInfo : state.markReadingInfo.isRunning = true := rfl

@[simp] lemma isRunning_reportReadProgress (done total : ℤ) :
    (state.reportReadProgress done total).isRunning = state.isRunning := rfl

end CommissioningState

/-! ### The task queue, the polling loop and the child task -/

inductive ApplicationControllerTaskType where
  | applySetting
  | applyGroupSetting
  | commissioning
  | loadInfo
  | executeControl
  | applyBusSetting
  | identifyDevice
  | resetDeviceSettings
  | resetDevice
  | sendCommandBatch
  deriving DecidableEq, Repr

structure ApplicationControllerTask where
  id : ℕ
  taskType : ApplicationControllerTaskType
  deriving DecidableEq, Repr

inductive Future where
  | pending
  | result
  | exception (text : String)
  | cancelled
  deriving DecidableEq, Repr

/-- What leaves a coroutine other than its return. -/
inductive Raised where
  | cancelled
  | error (text : String)
  deriving DecidableEq, Repr

/-- The await at which `_commissioning_task` is suspended. -/
inductive ChildPoint where
  /-- The task exists, its first step has not run. -/
  | created
  | sleeping
  | startingQuiescentMode
  | searching
  | searchingDali2
  | readingDevicesInfo
  /-- In the `finally`, with what is in flight. -/
  | stoppingQuiescentMode (inFlight : Option Raised)
  | done (cancelled : Bool)
  deriving DecidableEq, Repr

structure Child where
  point : ChildPoint := .created
  cancelRequested : Bool := false
  deriving DecidableEq, Repr

/-- Where the polling loop is suspended, with its variable `item`. -/
inductive LoopPoint where
  /-- In `wait_for(queue.get(), ..)`. -/
  | getting
  /-- With an item it has not looked at yet. -/
  | holding (item : ApplicationControllerTask)
  /-- In `_poll_step`; after a batch of controls the next item may be held already. -/
  | polling (item : Option ApplicationControllerTask)
  | executingControls (controls : List ApplicationControllerTask)
      (item : Option ApplicationControllerTask)
  | executing (item : ApplicationControllerTask)
  /-- In `_run_commissioning_in_child_task`. -/
  | commissioning (item : ApplicationControllerTask)
  deriving DecidableEq, Repr

/-- The item that has been taken and not been looked at. -/
def LoopPoint.held : LoopPoint → Option ApplicationControllerTask
  | .getting | .executing _ | .commissioning _ => none
  | .holding item => some item
  | .polling item | .executingControls _ item => item

/-- What the polling loop shares with those who put tasks. -/
structure TaskQueue (α : Type*) where
  tasksQueue : List α := []
  nextTask : ℕ := 0
  futures : ℕ → Future := fun _ => .pending
  inQuiescentMode : Bool := false

/-- `set_result`, `set_exception` or `cancel` on the future of a task, unless it is done. -/
def TaskQueue.settle {α : Type*} (queue : TaskQueue α) (task : ℕ) (outcome : Future) :
    TaskQueue α :=
  { queue with
    futures :=
      if queue.futures task = .pending then Function.update queue.futures task outcome
      else queue.futures }

namespace TaskQueue

variable {α : Type*} {queue : TaskQueue α} {task id : ℕ} {outcome : Future}

lemma settle_self (h : queue.futures task = .pending) :
    (queue.settle task outcome).futures task = outcome := by
  simp only [settle, h, if_true, Function.update_self]

lemma settle_of_ne (hne : id ≠ task) :
    (queue.settle task outcome).futures id = queue.futures id := by
  simp only [settle]
  split
  · exact Function.update_of_ne hne _ _
  · rfl

/-- A future that is done stays as it is. -/
lemma settle_of_done (h : queue.futures id ≠ .pending) :
    (queue.settle task outcome).futures id = queue.futures id := by
  by_cases heq : id = task
  · subst heq
    simp only [settle, if_neg h]
  · exact settle_of_ne heq

/-- A future that is still pending was not resolved. -/
lemma pending_of_settle (h : (queue.settle task outcome).futures id = .pending) :
    queue.futures id = .pending ∧ (task = id → outcome = .pending) := by
  have hbefore : queue.futures id = .pending := by
    by_contra hdone
    exact hdone (settle_of_done hdone ▸ h)
  refine ⟨hbefore, ?_⟩
  rintro rfl
  rwa [settle_self hbefore] at h

end TaskQueue

/-- An initialised controller, as far as its tasks and its commissioning go. -/
structure ApplicationController extends TaskQueue ApplicationControllerTask where
  commissioningState : CommissioningState := {}
  loop : LoopPoint := .getting
  currentCommissioningTask : Option Child := none

namespace ApplicationController

variable (controller : ApplicationController)

def settle (task : ApplicationControllerTask) (outcome : Future) : ApplicationController :=
  { controller with toTaskQueue := controller.toTaskQueue.settle task.id outcome }

/-- `put_nowait` of a new task. -/
def putTask (taskType : ApplicationControllerTaskType) : ApplicationController :=
  { controller with
    tasksQueue := controller.tasksQueue ++ [⟨controller.nextTask, taskType⟩]
    nextTask := controller.nextTask + 1 }

def startCommissioning : CommissioningStartResult × ApplicationController :=
  if controller.commissioningState.isRunning then (.alreadyRunning, controller)
  else
    (.started,
      putTask
        { controller with commissioningState := controller.commissioningState.markQueued }
        .commissioning)

/-- Remove a single pending commissioning task; the others keep their order. -/
def removeQueuedCommissioningTask : Bool × ApplicationController :=
  let isCommissioning := fun task : ApplicationControllerTask => task.taskType = .commissioning
  match controller.tasksQueue.find? isCommissioning with
  | some task =>
    (true,
      { controller.settle task .cancelled with
        tasksQueue := controller.tasksQueue.eraseP isCommissioning })
  | none => (false, controller)

def cancelCommissioning (now : String) : Bool × ApplicationController :=
  if !controller.commissioningState.isRunning then (false, controller)
  else
    match controller.currentCommissioningTask with
    | some child =>
      (true,
        { controller with currentCommissioningTask := some { child with cancelRequested := true } })
    | none =>
      let (removed, controller) := controller.removeQueuedCommissioningTask
      if removed then
        (true,
          { controller with commissioningState := controller.commissioningState.markCancelled now })
      else (false, controller)

/-! ### The child task -/

/-- The end of the child task, with what its body raised. -/
def finishCommissioning (raised : Option Raised) (summary : List CommissioningDeviceSummary)
    (now : String) : ApplicationController :=
  match raised with
  | none =>
    { controller with
      commissioningState := controller.commissioningState.markCompleted summary now
      currentCommissioningTask := some { point := .done false } }
  | some .cancelled =>
    { controller with
      commissioningState := controller.commissioningState.markCancelled now
      currentCommissioningTask := some { point := .done true } }
  | some (.error text) =>
    { controller with
      commissioningState := controller.commissioningState.markFailed text summary now
      currentCommissioningTask := some { point := .done false } }

/-- The child task goes on to its next await. -/
def suspendAt (child : Child) (point : ChildPoint) : ApplicationController :=
  { controller with currentCommissioningTask := some { child with point } }

/-- The await at which the child is suspended returns or raises, and the child runs on to
the next one; `none` where it is done. -/
def childStep (child : Child) (raised : Option Raised)
    (summary : List CommissioningDeviceSummary) (now : String) : Option ApplicationController :=
  match child.point, raised with
  | .created, _ =>
    -- a task cancelled before its first step never enters the coroutine
    if child.cancelRequested then some (controller.suspendAt child (.done true))
    else some (controller.suspendAt child .sleeping)
  | .sleeping, none => some (controller.suspendAt child .startingQuiescentMode)
  | .sleeping, some raised => some (controller.finishCommissioning (some raised) summary now)
  | .startingQuiescentMode, none => some (controller.suspendAt child .searching)
  | .startingQuiescentMode, some raised =>
    some (controller.finishCommissioning (some raised) summary now)
  | .searching, none =>
    some
      { controller with
        commissioningState := controller.commissioningState.markDali2
        currentCommissioningTask := some { child with point := .searchingDali2 } }
  | .searching, some raised =>
    some (controller.suspendAt child (.stoppingQuiescentMode (some raised)))
  | .searchingDali2, none =>
    some
      { controller with
        commissioningState := controller.commissioningState.markReadingInfo
        currentCommissioningTask := some { child with point := .readingDevicesInfo } }
  | .searchingDali2, some raised =>
    some (controller.suspendAt child (.stoppingQuiescentMode (some raised)))
  | .readingDevicesInfo, none =>
    some (controller.suspendAt child (.stoppingQuiescentMode none))
  | .readingDevicesInfo, some .cancelled =>
    some (controller.suspendAt child (.stoppingQuiescentMode (some .cancelled)))
  | .readingDevicesInfo, some (.error _) =>
    -- only logged
    some (controller.suspendAt child (.stoppingQuiescentMode none))
  | .stoppingQuiescentMode inFlight, none =>
    some (controller.finishCommissioning inFlight summary now)
  | .stoppingQuiescentMode _, some raised =>
    some (controller.finishCommissioning (some raised) summary now)
  | .done _, _ => none

/-! ### The polling loop -/

/-- The branches of the loop on an item that it looks at. -/
def dispatch (item : ApplicationControllerTask) : ApplicationController :=
  if controller.inQuiescentMode then
    { controller with loop := .getting }.settle item
      (.exception "Cannot execute tasks while in quiescent mode")
  else
    match item.taskType with
    | .executeControl =>
      let isControl := fun task : ApplicationControllerTask => task.taskType = .executeControl
      let rest := controller.tasksQueue.dropWhile isControl
      { controller with
        tasksQueue := rest.tail
        loop := .executingControls (item :: controller.tasksQueue.takeWhile isControl) rest.head? }
    | .commissioning =>
      { controller with loop := .commissioning item, currentCommissioningTask := some {} }
    | _ => { controller with loop := .executing item }

/-- The end of an iteration: a poll step is slipped in if the polling interval has elapsed
and nothing else is to be done, and then the loop begins again with `item`. -/
def nextIteration (item : Option ApplicationControllerTask) (intervalElapsed : Bool) :
    ApplicationController :=
  if !controller.inQuiescentMode && controller.tasksQueue.isEmpty && intervalElapsed then
    { controller with loop := .polling item }
  else
    { controller with loop := item.elim .getting .holding }

end ApplicationController

inductive Event where
  | startCommissioning
  | cancelCommissioning (now : String)
  /-- A request that puts a task of another type into the queue. -/
  | putTask (taskType : ApplicationControllerTaskType)
  /-- The caller that waits for a task gives up. -/
  | callerCancelled (task : ApplicationControllerTask)
  | startQuiescentMode
  | stopQuiescentMode
  /-- `wait_for` returns with the first task of the queue. -/
  | take
  /-- `wait_for` times out. -/
  | timeout
  | pollStepDone
  | dispatch
  | controlsDone (outcomes : List Future) (intervalElapsed : Bool)
  | taskDone (outcome : Future) (intervalElapsed : Bool)
  /-- The child is done and the loop goes on. -/
  | commissioningDone (intervalElapsed : Bool)
  | childStep (raised : Option Raised) (summary : List CommissioningDeviceSummary) (now : String)
  /-- A search of the child reports its progress. -/
  | searchProgress (stage : CommissioningStage) (progress : ℤ) (deviceFound : Bool)
  /-- The child has read one more device. -/
  | readProgress (done total : ℤ)

namespace ApplicationController

/-- `zip(controls, results)` of a batch of controls. -/
def settleAll (controller : ApplicationController) :
    List ApplicationControllerTask → List Future → ApplicationController
  | task :: tasks, outcome :: outcomes => (controller.settle task outcome).settleAll tasks outcomes
  | _, _ => controller

def step (controller : ApplicationController) : Event → Option ApplicationController
  | .startCommissioning => some controller.startCommissioning.2
  | .cancelCommissioning now => some (controller.cancelCommissioning now).2
  | .putTask taskType =>
    if taskType = .commissioning then none
    else if taskType = .sendCommandBatch ∧ controller.commissioningState.isRunning then
      -- `send_command_batch` raises
      some controller
    else some (controller.putTask taskType)
  | .callerCancelled task => some (controller.settle task .cancelled)
  | .startQuiescentMode => some { controller with inQuiescentMode := true }
  | .stopQuiescentMode => some { controller with inQuiescentMode := false }
  | .take =>
    match controller.loop, controller.tasksQueue with
    | .getting, item :: rest =>
      some { controller with tasksQueue := rest, loop := .holding item }
    | _, _ => none
  | .timeout =>
    match controller.loop with
    | .getting =>
      if controller.inQuiescentMode then some controller
      else some { controller with loop := .polling none }
    | _ => none
  | .pollStepDone =>
    match controller.loop with
    | .polling item => some { controller with loop := item.elim .getting .holding }
    | _ => none
  | .dispatch =>
    match controller.loop with
    | .holding item => some (controller.dispatch item)
    | _ => none
  | .controlsDone outcomes intervalElapsed =>
    match controller.loop with
    | .executingControls controls item =>
      some ((controller.settleAll controls outcomes).nextIteration item intervalElapsed)
    | _ => none
  | .taskDone outcome intervalElapsed =>
    match controller.loop with
    | .executing item => some ((controller.settle item outcome).nextIteration none intervalElapsed)
    | _ => none
  | .commissioningDone intervalElapsed =>
    match controller.loop, controller.currentCommissioningTask with
    | .commissioning item, some { point := .done _, .. } =>
      some (({ controller with currentCommissioningTask := none }.settle item .result).nextIteration
        none intervalElapsed)
    | _, _ => none
  | .childStep raised summary now =>
    controller.currentCommissioningTask.bind fun child =>
      controller.childStep child raised summary now
  | .searchProgress stage progress deviceFound =>
    match controller.currentCommissioningTask with
    | some { point := .searching, .. } | some { point := .searchingDali2, .. } =>
      some
        { controller with
          commissioningState :=
            controller.commissioningState.reportProgress stage progress deviceFound }
    | _ => none
  | .readProgress done total =>
    match controller.currentCommissioningTask with
    | some { point := .readingDevicesInfo, .. } =>
      some
        { controller with
          commissioningState := controller.commissioningState.reportReadProgress done total }
    | _ => none

end ApplicationController

end WbMqttDali.Controller
