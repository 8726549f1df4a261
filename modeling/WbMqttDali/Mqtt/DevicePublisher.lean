import WbMqttDali.Lib.Transition
import WbMqttDali.Mqtt.Device

/-!
# The device publisher

Its operations take turns under a lock.  An operation runs one coroutine for each device that it
is about, and the publishes of these coroutines interleave; the table of devices changes when a
coroutine ends.  Whatever the operations and their order were, whenever the lock is free the
retained topics are exactly those of the devices and controls that were published and not
removed, with the values, errors and titles that were set last.
-/

namespace WbMqttDali.Publishing

/-- The id of a control is unique in its device. -/
structure ControlInfo where
  id : ControlId
  state : ControlState

structure DeviceInfo where
  id : DeviceId
  title : Option Title
  controls : List ControlInfo
  nodup : (controls.map ControlInfo.id).Nodup

/-- The id of a device is unique. -/
structure DeviceChange where
  added : List DeviceInfo
  removed : List DeviceId
  nodup_added : (added.map DeviceInfo.id).Nodup
  nodup_removed : removed.Nodup

inductive Operation
  /-- `initialize` -/
  | initialise
  | cleanup
  | rebuild (changes : DeviceChange)
  | addDevice (deviceInfo : DeviceInfo)
  | removeDevice (deviceId : DeviceId)
  | setDeviceTitle (deviceId : DeviceId) (title : Option Title)
  | setControlValue (deviceId : DeviceId) (controlId : ControlId) (value : String)
  | setControlTitle (deviceId : DeviceId) (controlId : ControlId) (title : Title)
  | setControlError (deviceId : DeviceId) (controlId : ControlId) (error : ControlError)
  | publishControlState (deviceId : DeviceId) (controlId : ControlId) (value : Option String)
      (error : ControlError) (title : Option Title)

/-- What a coroutine does to `_devices` when it ends. -/
inductive Ending
  /-- `self._devices[device_id] = device`, or the object that is there has changed -/
  | stores (device : Device)
  /-- `del self._devices[device_id]` -/
  | deletes

/-- A coroutine for one device, with the publishes that are left. -/
structure Task where
  device : DeviceId
  calls : List Call
  ending : Ending

/-- What the operation that has the lock does when its coroutines are done. -/
inductive Then
  | release
  /-- The second half of `rebuild`. -/
  | add (added : List DeviceInfo)
  /-- `self._initialized = True` -/
  | markInitialized
  /-- The end of `cleanup`. -/
  | clearDevices

/-- The publisher and the broker.  `holder` is what the operation that has the lock does last, and
`published` records what the operations asked for. -/
structure State where
  devices : Dict DeviceId Device := ∅
  initialized : Bool := false
  store : Store
  tasks : List Task := []
  holder : Option Then := none
  published : DeviceId → Option PublishedDevice := fun _ => none

/-- The task of a coroutine that changes a device. -/
def Publishes.task (result : Publishes) : Task := ⟨result.1.name, result.2, .stores result.1⟩

/-- `_add_control` -/
def addControl (controlInfo : ControlInfo) (device : Device) : Publishes :=
  let created := device.createControl controlInfo.id controlInfo.state.info
    (controlInfo.state.value.getD "") controlInfo.state.publishPolicy
  created.andThen fun device =>
    if controlInfo.state.error ≠ .none then
      device.setControlError controlInfo.id controlInfo.state.error
    else (device, [])

/-- `_add_device_internal` of a device that is not there yet. -/
def addDeviceInternal (initialized : Bool) (deviceInfo : DeviceInfo) : Publishes :=
  let device : Device := { name := deviceInfo.id, title := deviceInfo.title.map asTranslatedTitle }
  let introduced : Publishes := if initialized then device.initialise else (device, [])
  Publishes.forEach addControl deviceInfo.controls introduced

/-- A control as it was added. -/
def ControlInfo.published (controlInfo : ControlInfo) : PublishedControl :=
  ⟨controlInfo.state.info, controlInfo.state.value.getD "", controlInfo.state.error⟩

/-- A device as it was added. -/
def DeviceInfo.published (initialized : Bool) (deviceInfo : DeviceInfo) : PublishedDevice where
  title := deviceInfo.title.map asTranslatedTitle
  controls name := (deviceInfo.controls.find? (·.id = name)).map ControlInfo.published
  announced := initialized

namespace State

variable (s : State)

/-- The coroutines of an operation are started. -/
def start (tasks : List Task) (last : Then) : State :=
    { s with tasks := tasks, holder := some last }

/-- The coroutines that remove devices; a device that is unknown is only warned about. -/
def removalTasks (deviceIds : List DeviceId) : List Task :=
  deviceIds.filterMap fun id => (s.devices.get? id).map fun device =>
    ⟨id, device.removeDevice.2, .deletes⟩

def unpublish (deviceIds : List DeviceId) : DeviceId → Option PublishedDevice :=
  fun id => if id ∈ deviceIds then none else s.published id

def additionTasks (deviceInfos : List DeviceInfo) : List Task :=
  deviceInfos.map fun info => (addDeviceInternal s.initialized info).task

def publish (deviceInfos : List DeviceInfo) : DeviceId → Option PublishedDevice :=
  fun id => ((deviceInfos.find? (·.id = id)).map (·.published s.initialized)).or (s.published id)

/-- An operation on one device, which is only warned about where there is none. -/
def onDevice (deviceId : DeviceId) (f : Device → Publishes)
    (spec : PublishedDevice → PublishedDevice) : State :=
  match s.devices.get? deviceId with
  | none => s
  | some device =>
    { s.start [(f device).task] .release with
      published := Function.update s.published deviceId ((s.published deviceId).map spec) }

/-- The operation gets the lock and starts its coroutines. -/
def begin : Operation → State
  | .initialise =>
    if s.initialized then s
    else
      { s.start (s.devices.values.map fun device => device.initialise.task) .markInitialized with
        published := fun id => (s.published id).map PublishedDevice.announce }
  | .cleanup =>
    { s.start (s.devices.values.map fun device => device.removeDevice.task) .clearDevices with
      published := fun _ => none }
  | .rebuild changes =>
    { s.start (s.removalTasks changes.removed) (.add changes.added) with
      published := s.unpublish changes.removed }
  | .addDevice deviceInfo =>
    -- a device that is there raises `RuntimeError`
    if (s.devices.get? deviceInfo.id).isSome then s
    else
      { s.start (s.additionTasks [deviceInfo]) .release with published := s.publish [deviceInfo] }
  | .removeDevice deviceId =>
    { s.start (s.removalTasks [deviceId]) .release with published := s.unpublish [deviceId] }
  | .setDeviceTitle deviceId title =>
    s.onDevice deviceId (·.setDeviceTitle title) (·.setTitle title)
  | .setControlValue deviceId controlId value =>
    s.onDevice deviceId (·.setControlValue controlId (some value))
      (·.modifyControl controlId (·.setValue value))
  | .setControlTitle deviceId controlId title =>
    s.onDevice deviceId (·.setControlTitle controlId title)
      (·.modifyControl controlId (·.setTitle title))
  | .setControlError deviceId controlId error =>
    s.onDevice deviceId (·.setControlError controlId error)
      (·.modifyControl controlId (·.setError error))
  | .publishControlState deviceId controlId value error title =>
    s.onDevice deviceId (·.setControlState controlId value error title)
      (·.modifyControl controlId (·.setState value error title))

/-- The coroutines of the operation are done. -/
def proceed : Then → State
  | .release => { s with holder := none }
  | .add added =>
    { s.start (s.additionTasks added) .release with published := s.publish added }
  | .markInitialized => { s with initialized := true, holder := none }
  | .clearDevices => { s with devices := ∅, initialized := false, holder := none }

def endTask (task : Task) : State :=
  { s with
    devices := match task.ending with
      | .stores device => s.devices.set task.device device
      | .deletes => s.devices.erase task.device }

end State

inductive Event
  | begin (operation : Operation)
  /-- A coroutine makes its next publish. -/
  | publish (task : ℕ)
  | finish (task : ℕ)
  | proceed

def step (s : State) : Event → Option State
  | .begin operation => if s.holder.isSome then none else some (s.begin operation)
  | .publish i =>
    match s.tasks[i]? with
    | some ⟨device, call :: calls, ending⟩ =>
      some { s with store := s.store.apply call, tasks := s.tasks.set i ⟨device, calls, ending⟩ }
    | _ => none
  | .finish i =>
    match s.tasks[i]? with
    | some ⟨device, [], ending⟩ =>
      some { s.endTask ⟨device, [], ending⟩ with tasks := s.tasks.eraseIdx i }
    | _ => none
  | .proceed => if s.tasks = [] then s.holder.map s.proceed else none

/-- A new publisher, without anything on its topics. -/
structure State.IsInit (s : State) : Prop where
  devices : s.devices = ∅
  initialized : s.initialized = false
  store : ∀ topic, s.store topic = none
  tasks : s.tasks = []
  holder : s.holder = none
  published : ∀ id, s.published id = none

def publisher : Transition State Event where
  init := State.IsInit
  step := step

/-- The devices that a rebuild adds are new: they are not there, or it removes them first. -/
def AddsNewDevices (s : State) : Event → Prop
  | .begin (.rebuild changes) => ∀ info ∈ changes.added,
      s.devices.get? info.id = none ∨ info.id ∈ changes.removed
  | _ => True

/-- The retained topics are those of the devices that are there, with what was set last. -/
structure State.Exact (s : State) : Prop where
  topics : ∀ topic, s.store topic = (s.published topic.deviceId).bind (·.shows topic)
  devices : ∀ id, (s.devices.get? id).isSome = (s.published id).isSome
  /-- Once the publisher is initialized every device has its meta topic. -/
  announced : s.initialized = true → ∀ id device, s.published id = some device →
    device.announced = true
  removed : ∀ id, s.devices.get? id = none → ∀ topic, topic.deviceId = id → s.store topic = none

/-! ### The coroutine that adds a device -/

section Adding

variable {device : Device} {p : PublishedDevice} {store : Store}

lemma Represents.addControl (h : Represents device p store) {controlInfo : ControlInfo}
    (hp : p.controls controlInfo.id = none) :
    Does device store (addControl controlInfo device)
      (p.setControl controlInfo.id (some controlInfo.published)) := by
  have hcreated := h.createControl hp controlInfo.state.info (controlInfo.state.value.getD "")
    controlInfo.state.publishPolicy
  unfold Publishing.addControl
  refine hcreated.andThen ?_
  split
  · have herror := hcreated.represents.setControlError controlInfo.id controlInfo.state.error
    rwa [PublishedDevice.modifyControl_some PublishedDevice.setControl_controls,
      PublishedDevice.setControl_setControl] at herror
  · next hnone =>
    have hsame : (⟨controlInfo.state.info, controlInfo.state.value.getD "", .none⟩ :
        PublishedControl) = controlInfo.published := by
      rw [ControlInfo.published, not_not.1 hnone]
    rw [← hsame]
    exact .nothing hcreated.represents

/-- The controls are added one after the other. -/
lemma Represents.addControls {p : PublishedDevice} (h : Represents device p store)
    {controls : List ControlInfo} (hnodup : (controls.map ControlInfo.id).Nodup)
    (hp : ∀ name, p.controls name = none) :
    Does device store (Publishes.forEach Publishing.addControl controls (device, []))
      { p with controls := fun name =>
          (controls.find? (·.id = name)).map ControlInfo.published } := by
  -- the controls that are left, behind those that are there
  let Left (infos : List ControlInfo) (p' : PublishedDevice) : Prop :=
    (infos.map ControlInfo.id).Nodup ∧ (∀ info ∈ infos, p'.controls info.id = none) ∧
      (∀ name, ((infos.find? (·.id = name)).map ControlInfo.published).or (p'.controls name) =
        (controls.find? (·.id = name)).map ControlInfo.published) ∧
      p'.title = p.title ∧ p'.announced = p.announced
  obtain ⟨p', ⟨-, -, hcontrols, htitle, hannounced⟩, hdone⟩ : ∃ p', Left [] p' ∧
      Does device store (Publishes.forEach Publishing.addControl controls (device, [])) p' := by
    refine Does.forEach Left (fun info infos device p store hleft hrep => ?_)
      ⟨hnodup, fun info _ => hp info.id, fun name => by rw [hp, Option.or_none], rfl, rfl⟩
      (.nothing h)
    obtain ⟨hnodup, hnone, hcontrols, htitle, hannounced⟩ := hleft
    rw [List.map_cons, List.nodup_cons] at hnodup
    have hother : ∀ other ∈ infos, other.id ≠ info.id := fun other hmem heq =>
      hnodup.1 (heq ▸ List.mem_map_of_mem hmem)
    refine ⟨p.setControl info.id (some info.published),
      ⟨hnodup.2, fun other hmem => ?_, fun name => ?_, htitle, hannounced⟩,
      hrep.addControl (hnone info List.mem_cons_self)⟩
    · show Function.update p.controls info.id _ other.id = none
      rw [Function.update_of_ne (hother other hmem)]
      exact hnone other (List.mem_cons_of_mem _ hmem)
    · rw [← hcontrols name, List.find?_cons]
      by_cases hname : info.id = name
      · subst hname
        have hnot : infos.find? (·.id = info.id) = none :=
          List.find?_eq_none.2 fun other hmem => by simpa using hother other hmem
        simp [hnot]
      · simp [hname, PublishedDevice.setControl, Function.update_of_ne (Ne.symm hname)]
  have heq : p' = { p with controls := fun name =>
      (controls.find? (·.id = name)).map ControlInfo.published } := by
    obtain ⟨title, controls', announced⟩ := p'
    have hfun := funext hcontrols
    dsimp only at htitle hannounced hfun
    rw [← hfun, htitle, hannounced]
    rfl
  exact heq ▸ hdone

/-- A device that is added is introduced first once the publisher is initialized. -/
lemma Represents.addDeviceInternal {deviceInfo : DeviceInfo}
    (h : ∀ topic, topic.deviceId = deviceInfo.id → store topic = none) (initialized : Bool) :
    Does { name := deviceInfo.id, title := deviceInfo.title.map asTranslatedTitle } store
        (addDeviceInternal initialized deviceInfo) (deviceInfo.published initialized) ∧
      (initialized = true → (addDeviceInternal initialized deviceInfo).1.initialized = true) := by
  set device : Device :=
    { name := deviceInfo.id, title := deviceInfo.title.map asTranslatedTitle }
  have hnew : Represents device _ store := .new h
  have hintroduced : Does device store (if initialized then device.initialise else (device, []))
      ⟨deviceInfo.title.map asTranslatedTitle, fun _ => none, initialized⟩ := by
    cases initialized with
    | true => exact hnew.initialise
    | false => exact .nothing hnew
  have hcontrols := hintroduced.represents.addControls deviceInfo.nodup fun _ => rfl
  have heq : Publishing.addDeviceInternal initialized deviceInfo =
      Publishes.andThen (if initialized then device.initialise else (device, [])) fun device =>
        Publishes.forEach Publishing.addControl deviceInfo.controls (device, []) :=
    Publishes.forEach_eq_andThen ..
  rw [heq]
  refine ⟨hintroduced.andThen hcontrols, ?_⟩
  rintro rfl
  exact hcontrols.initialized rfl

end Adding

/-! ### What holds while coroutines run -/

/-- A device, what was asked of it and its topics agree; while everything is being cleared only
the topics matter. -/
def Settled (clearing : Prop) (id : DeviceId) (device? : Option Device)
    (published? : Option PublishedDevice) (store : Store) : Prop :=
  match published? with
  | some published => ∃ device, device? = some device ∧ device.name = id ∧
      Represents device published store
  | none => (device? = none ∨ clearing) ∧ ∀ topic, topic.deviceId = id → store topic = none

section Settled

variable {clearing : Prop} {id : DeviceId} {device? : Option Device}
  {published? : Option PublishedDevice} {store store' : Store}

lemma Settled.congr (h : Settled clearing id device? published? store)
    (hsame : ∀ topic, topic.deviceId = id → store' topic = store topic) :
    Settled clearing id device? published? store' := by
  unfold Settled at h ⊢
  cases published? with
  | some published =>
    obtain ⟨device, hdevice, hname, hrep⟩ := h
    exact ⟨device, hdevice, hname, hrep.congr fun topic htopic =>
      hsame topic (htopic.trans hname)⟩
  | none => exact ⟨h.1, fun topic htopic => (hsame topic htopic).trans (h.2 topic htopic)⟩

lemma Settled.mono {clearing' : Prop} (h : Settled clearing id device? published? store)
    (hclearing : clearing → clearing') : Settled clearing' id device? published? store := by
  unfold Settled at h ⊢
  cases published? with
  | some published => exact h
  | none => exact ⟨h.1.imp_right hclearing, h.2⟩

lemma Settled.of_false (h : Settled False id device? published? store) :
    Settled clearing id device? published? store := h.mono False.elim

/-- Once a device is there it was published. -/
lemma Settled.published {device : Device} (h : Settled False id (some device) published? store) :
    ∃ published, published? = some published ∧ device.name = id ∧
      Represents device published store := by
  cases published? with
  | some published =>
    obtain ⟨device', hdevice, hname, hrep⟩ := h
    cases hdevice
    exact ⟨published, rfl, hname, hrep⟩
  | none => exact absurd h.1 (by simp)

end Settled

/-- The device that a coroutine leaves. -/
def Task.outcome (task : Task) : Option Device :=
  match task.ending with
  | .stores device => some device
  | .deletes => none

namespace State

def IsClearing (s : State) : Prop := s.holder = some .clearDevices

/-- Each coroutine publishes under its own device, and will leave it settled; the devices without
a coroutine are settled. -/
structure Invariant (s : State) : Prop where
  nodup : (s.tasks.map Task.device).Nodup
  own : ∀ task ∈ s.tasks, ∀ call ∈ task.calls, call.topic.deviceId = task.device
  free : s.holder = none → s.tasks = []
  settled : ∀ id, (∀ task ∈ s.tasks, task.device ≠ id) →
    Settled s.IsClearing id (s.devices.get? id) (s.published id) s.store
  pending : ∀ task ∈ s.tasks, Settled s.IsClearing task.device task.outcome
    (s.published task.device) (s.store.applyAll task.calls)
  ready : s.initialized = true ∨ s.holder = some .markInitialized →
    (∀ id device, s.devices.get? id = some device → (∀ task ∈ s.tasks, task.device ≠ id) →
        device.initialized = true) ∧
      ∀ task ∈ s.tasks, ∀ device, task.ending = .stores device → device.initialized = true
  added : ∀ added, s.holder = some (.add added) →
    (added.map DeviceInfo.id).Nodup ∧ ∀ info ∈ added, s.published info.id = none
  cleared : s.IsClearing → ∀ id, s.published id = none

variable {s : State}

lemma IsInit.invariant (h : s.IsInit) : s.Invariant where
  nodup := by rw [h.tasks]; exact List.nodup_nil
  own task hmem := by rw [h.tasks] at hmem; cases hmem
  free _ := h.tasks
  settled id _ := by
    rw [h.devices, h.published]
    exact ⟨.inl rfl, fun topic _ => h.store topic⟩
  pending task hmem := by rw [h.tasks] at hmem; cases hmem
  ready _ := by
    rw [h.devices, h.tasks]
    exact ⟨fun _ _ hget => (nomatch hget), fun _ hmem => (nomatch hmem)⟩
  added _ hholder := by rw [h.holder] at hholder; cases hholder
  cleared hclearing := by
    cases h.holder.symm.trans hclearing

namespace Invariant

/-- What is free is exact. -/
lemma isExact (h : s.Invariant) (hfree : s.holder = none) : s.Exact := by
  have htasks := h.free hfree
  have hnot : ¬s.IsClearing := fun hclearing => by cases hfree.symm.trans hclearing
  have hsettled (id : DeviceId) :
      Settled s.IsClearing id (s.devices.get? id) (s.published id) s.store :=
    h.settled id fun task hmem => by rw [htasks] at hmem; cases hmem
  have hgone (id : DeviceId) (hnone : s.published id = none) :
      s.devices.get? id = none ∧ ∀ topic, topic.deviceId = id → s.store topic = none := by
    have hid := hsettled id
    rw [hnone] at hid
    exact ⟨hid.1.resolve_right hnot, hid.2⟩
  have hthere (id : DeviceId) (p : PublishedDevice) (hp : s.published id = some p) :
      ∃ device, s.devices.get? id = some device ∧ device.name = id ∧
        Represents device p s.store := by
    have hid := hsettled id
    rwa [hp] at hid
  refine ⟨fun topic => ?_, fun id => ?_, fun hinit id p hp => ?_, fun id hget topic htopic => ?_⟩
  · cases hp : s.published topic.deviceId with
    | none => exact (hgone _ hp).2 topic rfl
    | some p =>
      obtain ⟨device, -, hname, hrep⟩ := hthere _ p hp
      exact hrep.shown topic hname.symm
  · cases hp : s.published id with
    | none => rw [(hgone id hp).1]; rfl
    | some p =>
      obtain ⟨device, hget, -⟩ := hthere id p hp
      rw [hget]
      rfl
  · obtain ⟨device, hget, -, hrep⟩ := hthere id p hp
    exact hrep.announced ((h.ready (.inl hinit)).1 id device hget fun task hmem => by
      rw [htasks] at hmem
      cases hmem)
  · cases hp : s.published id with
    | none => exact (hgone id hp).2 topic htopic
    | some p =>
      obtain ⟨device, hsome, -⟩ := hthere id p hp
      cases hget.symm.trans hsome

/-! ### The steps of the coroutines -/

/-- The other coroutines are about other devices. -/
lemma split_tasks (h : s.Invariant) {i : ℕ} {task : Task} (htask : s.tasks[i]? = some task) :
    ∃ before after, s.tasks = before ++ task :: after ∧
      (∀ task', s.tasks.set i task' = before ++ task' :: after) ∧
      s.tasks.eraseIdx i = before ++ after ∧
      (∀ other ∈ before ++ after, other ∈ s.tasks ∧ other.device ≠ task.device) ∧
      ((before ++ after).map Task.device).Nodup := by
  obtain ⟨hlt, rfl⟩ := List.getElem?_eq_some_iff.1 htask
  have hsplit : s.tasks = s.tasks.take i ++ s.tasks[i] :: s.tasks.drop (i + 1) := by
    rw [List.getElem_cons_drop, List.take_append_drop]
  have hnodup := h.nodup
  rw [hsplit, List.map_append, List.map_cons, List.nodup_middle, ← List.map_append,
    List.nodup_cons] at hnodup
  refine ⟨s.tasks.take i, s.tasks.drop (i + 1), hsplit, fun task' => ?_,
    List.eraseIdx_eq_take_drop_succ .., fun other hother => ⟨?_, fun heq => ?_⟩, hnodup.2⟩
  · rw [List.set_eq_take_append_cons_drop, if_pos hlt]
  · rw [hsplit]
    rcases List.mem_append.1 hother with hbefore | hafter
    · exact List.mem_append_left _ hbefore
    · exact List.mem_append_right _ (List.mem_cons_of_mem _ hafter)
  · exact hnodup.1 (heq ▸ List.mem_map_of_mem hother)

/-- A coroutine publishes, which the other devices do not see. -/
lemma publish (h : s.Invariant) {i : ℕ} {device : DeviceId} {call : Call} {calls : List Call}
    {ending : Ending} (htask : s.tasks[i]? = some ⟨device, call :: calls, ending⟩) :
    Invariant { s with
      store := s.store.apply call, tasks := s.tasks.set i ⟨device, calls, ending⟩ } := by
  obtain ⟨before, after, hsplit, hset, -, hothers, -⟩ := h.split_tasks htask
  have hmem : ⟨device, call :: calls, ending⟩ ∈ s.tasks := List.mem_of_getElem? htask
  have hcall : call.topic.deviceId = device := h.own _ hmem call List.mem_cons_self
  have hcases : ∀ task ∈ s.tasks.set i ⟨device, calls, ending⟩,
      task = ⟨device, calls, ending⟩ ∨ task ∈ s.tasks ∧ task.device ≠ device := by
    intro task hmem'
    rw [hset, List.mem_append, List.mem_cons, or_left_comm, ← List.mem_append] at hmem'
    exact hmem'.imp_right (hothers task)
  -- the devices that have a coroutine are the same
  have hdevices (id : DeviceId)
      (hnone : ∀ task ∈ s.tasks.set i ⟨device, calls, ending⟩, task.device ≠ id) :
      id ≠ device ∧ ∀ task ∈ s.tasks, task.device ≠ id := by
    rw [hset] at hnone
    have hid : device ≠ id := hnone ⟨device, calls, ending⟩
      (List.mem_append_right _ List.mem_cons_self)
    refine ⟨hid.symm, fun task htask' => ?_⟩
    rw [hsplit, List.mem_append, List.mem_cons, or_left_comm, ← List.mem_append] at htask'
    rcases htask' with rfl | hother
    · exact hid
    · rw [List.mem_append] at hother
      exact hnone task (List.mem_append.2 (hother.imp_right (List.mem_cons_of_mem _)))
  have hstore (topic : Topic) (hne : topic.deviceId ≠ device) :
      s.store.apply call topic = s.store topic :=
    RetainedStore.Store.apply_of_ne fun heq => hne (heq ▸ hcall)
  refine ⟨?_, fun task htask' => ?_, fun hfree => ?_, fun id hnone => ?_, fun task htask' => ?_,
    fun hready => ⟨fun id d hget hnone => ?_, fun task htask' => ?_⟩, h.added, h.cleared⟩
  · have hnodup := h.nodup
    rw [hsplit] at hnodup
    dsimp only
    rw [hset]
    simpa using hnodup
  · rcases hcases task htask' with rfl | ⟨hold, -⟩
    · exact fun c hc => h.own _ hmem c (List.mem_cons_of_mem _ hc)
    · exact h.own task hold
  · rw [h.free hfree] at hmem
    cases hmem
  · obtain ⟨hne, hold⟩ := hdevices id hnone
    exact (h.settled id hold).congr fun topic htopic => hstore topic (htopic ▸ hne)
  · rcases hcases task htask' with rfl | ⟨hold, hne⟩
    · exact h.pending _ hmem
    · exact (h.pending task hold).congr fun topic htopic =>
        RetainedStore.Store.applyAll_congr (hstore topic (htopic ▸ hne))
  · exact (h.ready hready).1 id d hget (hdevices id hnone).2
  · rcases hcases task htask' with rfl | ⟨hold, -⟩
    · exact fun d hd => (h.ready hready).2 _ hmem d hd
    · exact (h.ready hready).2 task hold

/-- A coroutine ends and leaves its device settled. -/
lemma finish (h : s.Invariant) {i : ℕ} {device : DeviceId} {ending : Ending}
    (htask : s.tasks[i]? = some ⟨device, [], ending⟩) :
    Invariant { s.endTask ⟨device, [], ending⟩ with tasks := s.tasks.eraseIdx i } := by
  obtain ⟨before, after, hsplit, -, herase, hothers, hnodup⟩ := h.split_tasks htask
  have hmem : ⟨device, [], ending⟩ ∈ s.tasks := List.mem_of_getElem? htask
  have hget (id : DeviceId) : (s.endTask ⟨device, [], ending⟩).devices.get? id =
      if id = device then Task.outcome ⟨device, [], ending⟩ else s.devices.get? id := by
    unfold State.endTask Task.outcome
    cases ending with
    | stores device' => exact Dict.get?_set ..
    | deletes => exact Dict.get?_erase ..
  -- no other coroutine is under way for the device
  have hrest (id : DeviceId) (hne : id ≠ device)
      (hnone : ∀ task ∈ s.tasks.eraseIdx i, task.device ≠ id) :
      ∀ task ∈ s.tasks, task.device ≠ id := by
    intro task htask'
    rw [hsplit, List.mem_append, List.mem_cons, or_left_comm, ← List.mem_append] at htask'
    rcases htask' with rfl | hother
    · exact hne.symm
    · exact hnone task (herase ▸ hother)
  refine ⟨?_, fun task htask' => ?_, fun hfree => ?_, fun id hnone => ?_, fun task htask' => ?_,
    fun hready => ⟨fun id d hd hnone => ?_, fun task htask' => ?_⟩, h.added, h.cleared⟩
  · dsimp only
    rwa [herase]
  · exact h.own task (hothers task (herase ▸ htask')).1
  · rw [h.free hfree] at hmem
    cases hmem
  · dsimp only
    rw [hget]
    by_cases hid : id = device
    · subst hid
      rw [if_pos rfl]
      exact h.pending _ hmem
    · rw [if_neg hid]
      exact h.settled id (hrest id hid hnone)
  · exact h.pending task (hothers task (herase ▸ htask')).1
  · dsimp only at hd
    rw [hget] at hd
    by_cases hid : id = device
    · rw [if_pos hid] at hd
      refine (h.ready hready).2 _ hmem d ?_
      unfold Task.outcome at hd
      cases ending with
      | stores device' => exact congrArg Ending.stores (Option.some.inj hd)
      | deletes => cases hd
    · rw [if_neg hid] at hd
      exact (h.ready hready).1 id d hd (hrest id hid hnone)
  · exact (h.ready hready).2 task (hothers task (herase ▸ htask')).1

/-! ### The starts of the operations -/

/-- Nothing runs and nothing is being cleared, so each device is settled. -/
lemma settled_of_idle (h : s.Invariant) (htasks : s.tasks = []) (hnot : ¬s.IsClearing)
    (id : DeviceId) : Settled False id (s.devices.get? id) (s.published id) s.store := by
  have hid := h.settled id fun task hmem => by rw [htasks] at hmem; cases hmem
  unfold Settled at hid ⊢
  cases hp : s.published id with
  | some p =>
    rw [hp] at hid
    exact hid
  | none =>
    rw [hp] at hid
    exact ⟨hid.1.imp_right hnot, hid.2⟩

lemma ready_of_idle (h : s.Invariant) (htasks : s.tasks = []) (hinit : s.initialized = true)
    (id : DeviceId) (device : Device) (hget : s.devices.get? id = some device) :
    device.initialized = true :=
  (h.ready (.inl hinit)).1 id device hget fun task hmem => by rw [htasks] at hmem; cases hmem

/-- An operation on one device. -/
lemma onDevice (h : s.Invariant) (hfree : s.holder = none) (deviceId : DeviceId)
    {f : Device → Publishes} {spec : PublishedDevice → PublishedDevice}
    (hdoes : ∀ device p, Represents device p s.store → Does device s.store (f device) (spec p)) :
    (s.onDevice deviceId f spec).Invariant := by
  have htasks := h.free hfree
  have hnot : ¬s.IsClearing := fun hclearing => by cases hfree.symm.trans hclearing
  unfold State.onDevice
  split
  · exact h
  · next device hget =>
    have hidle := h.settled_of_idle htasks hnot
    have hid := hidle deviceId
    rw [hget] at hid
    obtain ⟨p, hp, hname, hrep⟩ := hid.published
    have hdone := hdoes device p hrep
    -- the coroutine publishes to topics of the device only
    have htask : (f device).task.device = deviceId := hdone.name.trans hname
    refine ⟨List.nodup_singleton _, fun task hmem => ?_, (fun hnone => nomatch hnone),
      fun id hne => ?_, fun task hmem => ?_, fun hready =>
        ⟨fun id d hd _ => ?_, fun task hmem d hd => ?_⟩,
      (fun added hholder => nomatch hholder), (fun hclearing => nomatch hclearing)⟩
    · cases List.mem_singleton.1 hmem
      exact fun call hcall => (hdone.own call hcall).trans hdone.name.symm
    · have hother : id ≠ deviceId := fun heq =>
        hne _ (List.mem_singleton_self _) (htask.trans heq.symm)
      dsimp only
      rw [Function.update_of_ne hother]
      exact (hidle id).of_false
    · cases List.mem_singleton.1 hmem
      dsimp only
      rw [htask, Function.update_self, hp]
      exact ⟨(f device).1, rfl, hdone.name.trans hname, hdone.represents⟩
    · rcases hready with hinit | hholder
      · exact h.ready_of_idle htasks hinit id d hd
      · cases hholder
    · cases List.mem_singleton.1 hmem
      cases hd
      rcases hready with hinit | hholder
      · exact hdone.initialized (h.ready_of_idle htasks hinit deviceId device hget)
      · cases hholder

/-- Devices are removed, each by a coroutine of its own. -/
lemma removal (h : s.Invariant) (hfree : s.holder = none) {deviceIds : List DeviceId}
    (hnodup : deviceIds.Nodup) {last : Then}
    (hlast : last = .release ∨ ∃ added, last = .add added ∧ (added.map DeviceInfo.id).Nodup ∧
      ∀ info ∈ added, s.devices.get? info.id = none ∨ info.id ∈ deviceIds) :
    Invariant { s.start (s.removalTasks deviceIds) last with
      published := s.unpublish deviceIds } := by
  have htasks := h.free hfree
  have hnot : ¬s.IsClearing := fun hclearing => by cases hfree.symm.trans hclearing
  have hidle := h.settled_of_idle htasks hnot
  have hnone {id : DeviceId} (hget : s.devices.get? id = none) : s.published id = none := by
    have hid := hidle id
    rw [hget] at hid
    cases hp : s.published id with
    | none => rfl
    | some p =>
      rw [hp] at hid
      obtain ⟨_, hsome, -⟩ := hid
      cases hsome
  have hmem_tasks {task : Task} (hmem : task ∈ s.removalTasks deviceIds) :
      ∃ device, task.device ∈ deviceIds ∧ s.devices.get? task.device = some device ∧
        task.calls = device.removeDevice.2 ∧ task.ending = .deletes := by
    obtain ⟨id, hid, hmap⟩ := List.mem_filterMap.1 hmem
    obtain ⟨device, hget, rfl⟩ := Option.map_eq_some_iff.1 hmap
    exact ⟨device, hid, hget, rfl, rfl⟩
  have hremoved {device : Device} {id : DeviceId} (hget : s.devices.get? id = some device) :
      device.name = id ∧ (∀ call ∈ device.removeDevice.2, call.topic.deviceId = device.name) ∧
        ∀ topic, topic.deviceId = device.name →
          s.store.applyAll device.removeDevice.2 topic = none := by
    have hid := hidle id
    rw [hget] at hid
    obtain ⟨p, -, hname, hrep⟩ := hid.published
    exact ⟨hname, hrep.removeDevice.2.2⟩
  refine ⟨?_, fun task hmem => ?_, (fun hnone => nomatch hnone), fun id hne => ?_,
    fun task hmem => ?_, fun hready => ⟨fun id d hd _ => ?_, fun task hmem d hd => ?_⟩,
    fun added hholder => ?_, fun hclearing => ?_⟩
  · -- each device has one coroutine at most
    refine hnodup.sublist ?_
    show (List.map Task.device (s.removalTasks deviceIds)).Sublist deviceIds
    unfold State.removalTasks
    clear hlast hnodup hmem_tasks
    induction deviceIds with
    | nil => exact .slnil
    | cons id ids ih =>
      rw [List.filterMap_cons]
      cases s.devices.get? id with
      | none => exact ih.cons id
      | some device => exact ih.cons_cons id
  · obtain ⟨device, -, hget, hcalls, -⟩ := hmem_tasks hmem
    obtain ⟨hname, hown, -⟩ := hremoved hget
    exact fun call hcall => (hown call (hcalls ▸ hcall)).trans hname
  · dsimp only [State.unpublish]
    split
    · next hid =>
      cases hget : s.devices.get? id with
      | none =>
        have hblank := hidle id
        rw [hnone hget] at hblank
        exact ⟨.inl hget, hblank.2⟩
      | some device =>
        exact absurd rfl (hne ⟨id, device.removeDevice.2, .deletes⟩
          (List.mem_filterMap.2 ⟨id, hid, by rw [hget]; rfl⟩))
    · exact (hidle id).of_false
  · obtain ⟨device, hid, hget, hcalls, hending⟩ := hmem_tasks hmem
    obtain ⟨hname, -, hblank⟩ := hremoved hget
    dsimp only [State.unpublish]
    rw [if_pos hid, hcalls]
    refine ⟨.inl ?_, fun topic htopic => hblank topic (htopic.trans hname.symm)⟩
    rw [Task.outcome, hending]
  · rcases hready with hinit | hholder
    · exact h.ready_of_idle htasks hinit id d hd
    · rcases hlast with rfl | ⟨_, rfl, -⟩ <;> cases hholder
  · obtain ⟨_, -, -, -, hending⟩ := hmem_tasks hmem
    cases hending.symm.trans hd
  · rcases hlast with rfl | ⟨added', rfl, hnodup', hnew⟩
    · cases hholder
    · cases hholder
      refine ⟨hnodup', fun info hinfo => ?_⟩
      dsimp only [State.unpublish]
      split
      · rfl
      · next hid => exact hnone ((hnew info hinfo).resolve_right hid)
  · rcases hlast with rfl | ⟨_, rfl, -⟩ <;> cases hclearing

/-- New devices are added, each by a coroutine of its own. -/
lemma addition (h : s.Invariant) (htasks : s.tasks = []) (hnot : ¬s.IsClearing)
    {deviceInfos : List DeviceInfo} (hnodup : (deviceInfos.map DeviceInfo.id).Nodup)
    (hnew : ∀ info ∈ deviceInfos, s.published info.id = none) :
    Invariant { s.start (s.additionTasks deviceInfos) .release with
      published := s.publish deviceInfos } := by
  have hidle := h.settled_of_idle htasks hnot
  have hdoes {info : DeviceInfo} (hinfo : info ∈ deviceInfos) :
      Does { name := info.id, title := info.title.map asTranslatedTitle } s.store
          (addDeviceInternal s.initialized info) (info.published s.initialized) ∧
        (s.initialized = true → (addDeviceInternal s.initialized info).1.initialized = true) := by
    have hid := hidle info.id
    rw [hnew info hinfo] at hid
    exact Represents.addDeviceInternal hid.2 s.initialized
  have hname {info : DeviceInfo} (hinfo : info ∈ deviceInfos) :
      (addDeviceInternal s.initialized info).task.device = info.id := (hdoes hinfo).1.name
  -- what the publisher is asked to show for a device that is added
  have hpublished {info : DeviceInfo} (hinfo : info ∈ deviceInfos) :
      s.publish deviceInfos info.id = some (info.published s.initialized) := by
    obtain ⟨found, hfound⟩ := Option.isSome_iff_exists.1
      (List.find?_isSome (p := fun other : DeviceInfo => decide (other.id = info.id)) |>.2
        ⟨info, hinfo, decide_eq_true rfl⟩)
    have hid : found.id = info.id := by simpa using List.find?_some hfound
    have heq : found = info := List.inj_on_of_nodup_map hnodup
      (List.mem_of_find?_eq_some hfound) hinfo hid
    rw [State.publish, hfound, heq]
    rfl
  refine ⟨?_, fun task hmem => ?_, (fun hnone => nomatch hnone), fun id hne => ?_,
    fun task hmem => ?_, fun hready => ⟨fun id d hd _ => ?_, fun task hmem d hd => ?_⟩,
    (fun added hholder => nomatch hholder), (fun hclearing => nomatch hclearing)⟩
  · have hmap : (s.additionTasks deviceInfos).map Task.device =
        deviceInfos.map DeviceInfo.id := by
      rw [State.additionTasks, List.map_map]
      exact List.map_congr_left fun info hinfo => hname hinfo
    show ((s.additionTasks deviceInfos).map Task.device).Nodup
    rwa [hmap]
  · obtain ⟨info, hinfo, rfl⟩ := List.mem_map.1 hmem
    exact fun call hcall => ((hdoes hinfo).1.own call hcall).trans (hname hinfo).symm
  · have hnotin : deviceInfos.find? (·.id = id) = none :=
      List.find?_eq_none.2 fun info hinfo heq =>
        hne _ (List.mem_map_of_mem hinfo) ((hname hinfo).trans (of_decide_eq_true heq))
    dsimp only [State.publish]
    rw [hnotin]
    exact (hidle id).of_false
  · obtain ⟨info, hinfo, rfl⟩ := List.mem_map.1 hmem
    dsimp only
    rw [hname hinfo, hpublished hinfo]
    exact ⟨_, rfl, hname hinfo, (hdoes hinfo).1.represents⟩
  · rcases hready with hinit | hholder
    · exact h.ready_of_idle htasks hinit id d hd
    · cases hholder
  · obtain ⟨info, hinfo, rfl⟩ := List.mem_map.1 hmem
    cases hd
    rcases hready with hinit | hholder
    · exact (hdoes hinfo).2 hinit
    · cases hholder

/-- Every device has a coroutine of its own. -/
lemma everyDevice (h : s.Invariant) (hfree : s.holder = none) {f : Device → Publishes}
    {last : Then} {published : DeviceId → Option PublishedDevice}
    (hlast : last = .markInitialized ∨ last = .clearDevices ∧ ∀ id, published id = none)
    (hnone : ∀ id, s.published id = none → published id = none)
    (hdone : ∀ id device p, device.name = id → s.published id = some p →
      Represents device p s.store → (f device).1.name = id ∧
        (last = .markInitialized ∨ device.initialized = true → (f device).1.initialized = true) ∧
        (∀ call ∈ (f device).2, call.topic.deviceId = id) ∧
        Settled (last = .clearDevices) id (some (f device).1) (published id)
          (s.store.applyAll (f device).2)) :
    Invariant { s.start (s.devices.values.map fun device => (f device).task) last with
      published := published } := by
  have htasks := h.free hfree
  have hnot : ¬s.IsClearing := fun hclearing => by cases hfree.symm.trans hclearing
  have hidle := h.settled_of_idle htasks hnot
  -- with the lock free each device is published, and the store shows it
  have hall {id : DeviceId} {device : Device} (hget : s.devices.get? id = some device) :
      ∃ p, device.name = id ∧ s.published id = some p ∧ Represents device p s.store := by
    have hid := hidle id
    rw [hget] at hid
    obtain ⟨p, hp, hname, hrep⟩ := hid.published
    exact ⟨p, hname, hp, hrep⟩
  have hspec {id : DeviceId} {device : Device} (hget : s.devices.get? id = some device) :
      (f device).1.name = id ∧
        (last = .markInitialized ∨ device.initialized = true → (f device).1.initialized = true) ∧
        (∀ call ∈ (f device).2, call.topic.deviceId = id) ∧
        Settled (last = .clearDevices) id (some (f device).1) (published id)
          (s.store.applyAll (f device).2) := by
    obtain ⟨p, hname, hp, hrep⟩ := hall hget
    exact hdone id device p hname hp hrep
  have hmem_tasks {task : Task} (hmem : task ∈ s.devices.values.map fun device => (f device).task) :
      ∃ id device, s.devices.get? id = some device ∧ task = (f device).task ∧
        task.device = id := by
    obtain ⟨device, hdevice, rfl⟩ := List.mem_map.1 hmem
    obtain ⟨id, hget⟩ := Dict.mem_values_iff.1 hdevice
    exact ⟨id, device, hget, rfl, (hspec hget).1⟩
  refine ⟨?_, fun task hmem => ?_, (fun hnone => nomatch hnone), fun id hne => ?_,
    fun task hmem => ?_, fun hready => ⟨fun id d hd hne => ?_, fun task hmem d hd => ?_⟩,
    fun added hholder => ?_, fun hclearing => ?_⟩
  · have hkeys : (s.devices.values.map fun device => (f device).task).map Task.device =
        s.devices.keys := by
      rw [Dict.values, Dict.keys, List.map_map, List.map_map]
      refine List.map_congr_left fun e he => ?_
      exact (hspec (Dict.get?_eq_some_iff.2 he)).1
    show ((s.devices.values.map fun device => (f device).task).map Task.device).Nodup
    rw [hkeys]
    exact s.devices.nodup_keys
  · obtain ⟨id, device, hget, rfl, hid⟩ := hmem_tasks hmem
    exact fun call hcall => ((hspec hget).2.2.1 call hcall).trans hid.symm
  · have hget : s.devices.get? id = none := by
      cases hget : s.devices.get? id with
      | none => rfl
      | some device =>
        exact absurd (hspec hget).1 (hne _ (List.mem_map_of_mem
          (Dict.mem_values_iff.2 ⟨id, hget⟩)))
    have hid := hidle id
    rw [hget] at hid
    cases hp : s.published id with
    | some p =>
      rw [hp] at hid
      obtain ⟨_, hsome, -⟩ := hid
      cases hsome
    | none =>
      rw [hp] at hid
      dsimp only
      rw [hnone id hp]
      exact ⟨.inl hget, hid.2⟩
  · obtain ⟨id, device, hget, rfl, hid⟩ := hmem_tasks hmem
    have hsettled := (hspec hget).2.2.2
    rw [hid]
    exact hsettled.mono fun heq => congrArg some heq
  · exact absurd (hspec hd).1 (hne _ (List.mem_map_of_mem (Dict.mem_values_iff.2 ⟨id, hd⟩)))
  · obtain ⟨id, device, hget, rfl, -⟩ := hmem_tasks hmem
    cases hd
    refine (hspec hget).2.1 ?_
    rcases hready with hinit | hholder
    · exact .inr (h.ready_of_idle htasks hinit id device hget)
    · exact .inl (Option.some.inj hholder)
  · rcases hlast with rfl | ⟨rfl, -⟩ <;> cases hholder
  · rcases hlast with rfl | ⟨rfl, hall⟩
    · cases hclearing
    · exact hall

/-- An operation gets the lock. -/
lemma begin (h : s.Invariant) (hfree : s.holder = none) {operation : Operation}
    (hnew : AddsNewDevices s (.begin operation)) : (s.begin operation).Invariant := by
  have htasks := h.free hfree
  have hnot : ¬s.IsClearing := fun hclearing => by cases hfree.symm.trans hclearing
  cases operation with
  | initialise =>
    show State.Invariant (if s.initialized = true then s else _)
    split
    · exact h
    · refine h.everyDevice hfree (.inl rfl) (fun id hnone => by rw [hnone]; rfl)
        fun id device p hname hp hrep => ?_
      have hdone := hrep.initialise
      refine ⟨hdone.name.trans hname, fun _ => ?_, fun call hcall =>
        (hdone.own call hcall).trans hname, ?_⟩
      · unfold Device.initialise
        split
        · next hinit => exact hinit
        · rfl
      · rw [hp]
        exact ⟨_, rfl, hdone.name.trans hname, hdone.represents⟩
  | cleanup =>
    refine h.everyDevice hfree (.inr ⟨rfl, fun _ => rfl⟩) (fun _ _ => rfl)
      fun id device p hname hp hrep => ?_
    obtain ⟨hsame, hinit, hown, hblank⟩ := hrep.removeDevice
    refine ⟨hsame.trans hname, fun hor => hinit (hor.resolve_left fun heq => nomatch heq),
      fun call hcall => (hown call hcall).trans hname, .inr rfl, fun topic htopic => ?_⟩
    exact hblank topic (htopic.trans hname.symm)
  | rebuild changes =>
    exact h.removal hfree changes.nodup_removed
      (.inr ⟨changes.added, rfl, changes.nodup_added, hnew⟩)
  | addDevice deviceInfo =>
    show State.Invariant (if (s.devices.get? deviceInfo.id).isSome = true then s else _)
    split
    · exact h
    · next hget =>
      refine h.addition htasks hnot (List.nodup_singleton _) fun info hinfo => ?_
      -- a device that is not known has nothing published
      obtain rfl := List.mem_singleton.1 hinfo
      have hid := h.settled_of_idle htasks hnot info.id
      rw [Option.not_isSome_iff_eq_none.1 hget] at hid
      cases hp : s.published info.id with
      | none => rfl
      | some p =>
        rw [hp] at hid
        obtain ⟨_, hsome, -⟩ := hid
        cases hsome
  | removeDevice deviceId => exact h.removal hfree (List.nodup_singleton deviceId) (.inl rfl)
  | setDeviceTitle deviceId title =>
    exact h.onDevice hfree deviceId fun _ _ hrep => hrep.setDeviceTitle title
  | setControlValue deviceId controlId value =>
    exact h.onDevice hfree deviceId fun _ _ hrep => hrep.setControlValue controlId value
  | setControlTitle deviceId controlId title =>
    exact h.onDevice hfree deviceId fun _ _ hrep => hrep.setControlTitle controlId title
  | setControlError deviceId controlId error =>
    exact h.onDevice hfree deviceId fun _ _ hrep => hrep.setControlError controlId error
  | publishControlState deviceId controlId value error title =>
    exact h.onDevice hfree deviceId fun _ _ hrep => hrep.setControlState controlId value error title

/-- The coroutines of the operation are done. -/
lemma proceed (h : s.Invariant) (htasks : s.tasks = []) {last : Then}
    (hholder : s.holder = some last) : (s.proceed last).Invariant := by
  have hempty {P : Task → Prop} : ∀ task ∈ s.tasks, P task := fun task hmem => by
    rw [htasks] at hmem
    cases hmem
  cases last with
  | release =>
    have hnot : ¬s.IsClearing := fun hclearing => by cases hholder.symm.trans hclearing
    refine ⟨h.nodup, hempty, fun _ => htasks, fun id _ => ?_, hempty, fun hready => ?_,
      (fun _ hadded => nomatch hadded), fun hclearing => nomatch hclearing⟩
    · exact (h.settled_of_idle htasks hnot id).of_false
    · rcases hready with hinit | hmark
      · exact h.ready (.inl hinit)
      · cases hmark
  | add added =>
    have hnot : ¬s.IsClearing := fun hclearing => by cases hholder.symm.trans hclearing
    obtain ⟨hnodup, hnew⟩ := h.added added hholder
    exact h.addition htasks hnot hnodup hnew
  | markInitialized =>
    have hnot : ¬s.IsClearing := fun hclearing => by cases hholder.symm.trans hclearing
    refine ⟨h.nodup, hempty, fun _ => htasks, fun id _ => ?_, hempty,
      fun _ => h.ready (.inr hholder), (fun _ hadded => nomatch hadded),
      fun hclearing => nomatch hclearing⟩
    exact (h.settled_of_idle htasks hnot id).of_false
  | clearDevices =>
    have hcleared := h.cleared hholder
    refine ⟨h.nodup, hempty, fun _ => htasks, fun id _ => ?_, hempty, fun hready => ?_,
      (fun _ hadded => nomatch hadded), fun hclearing => nomatch hclearing⟩
    · have hid := h.settled id hempty
      rw [hcleared id] at hid
      show Settled _ id none (s.published id) s.store
      rw [hcleared id]
      exact ⟨.inl rfl, hid.2⟩
    · rcases hready with hinit | hmark
      · cases hinit
      · cases hmark

/-- Every step keeps the invariant. -/
lemma step {s' : State} {e : Event} (h : s.Invariant) (hnew : AddsNewDevices s e)
    (hstep : Publishing.step s e = some s') : s'.Invariant := by
  cases e with
  | begin operation =>
    simp only [Publishing.step] at hstep
    split at hstep
    · cases hstep
    · next hfree =>
      rw [← Option.some.inj hstep]
      exact h.begin (Option.not_isSome_iff_eq_none.1 hfree) hnew
  | publish i =>
    simp only [Publishing.step] at hstep
    split at hstep
    · next htask =>
      rw [← Option.some.inj hstep]
      exact h.publish htask
    · cases hstep
  | finish i =>
    simp only [Publishing.step] at hstep
    split at hstep
    · next htask =>
      rw [← Option.some.inj hstep]
      exact h.finish htask
    · cases hstep
  | proceed =>
    simp only [Publishing.step] at hstep
    split at hstep
    · next htasks =>
      obtain ⟨last, hholder, rfl⟩ := Option.map_eq_some_iff.1 hstep
      exact h.proceed htasks hholder
    · cases hstep

end Invariant

end State

instance (s : State) (e : Event) : Decidable (AddsNewDevices s e) :=
  match e with
  | .begin operation =>
    match operation with
    | .rebuild changes => inferInstanceAs (Decidable (∀ info ∈ changes.added,
        s.devices.get? info.id = none ∨ info.id ∈ changes.removed))
    | .initialise | .cleanup | .addDevice _ | .removeDevice _ | .setDeviceTitle ..
    | .setControlValue .. | .setControlTitle .. | .setControlError ..
    | .publishControlState .. => inferInstanceAs (Decidable True)
  | .publish _ | .finish _ | .proceed => inferInstanceAs (Decidable True)

/-- A lamp with a level and a button. -/
def lamp : DeviceInfo where
  id := "lamp"
  title := some (.text "Lamp")
  controls := [⟨"level", { info := {}, value := some "0" }⟩,
    ⟨"reset", { info := { controlType := pushbuttonControlType } }⟩]
  nodup := by decide

/-- The same lamp with another level and no button. -/
def plainLamp : DeviceInfo where
  id := "lamp"
  title := none
  controls := [⟨"wanted", { info := {}, value := some "7", error := { read := true } }⟩]
  nodup := by decide

/-- The lamp is added, gets a level and is then rebuilt. -/
def rebuildRun : List Event :=
  [.begin .initialise, .proceed, .begin (.addDevice lamp), .publish 0, .publish 0, .publish 0,
    .publish 0, .finish 0, .proceed, .begin (.setControlValue "lamp" "level" "42"), .publish 0,
    .finish 0, .proceed,
    .begin (.rebuild ⟨[plainLamp], ["lamp"], by decide, by decide⟩), .publish 0, .publish 0,
    .publish 0, .publish 0, .publish 0, .publish 0, .finish 0, .proceed, .publish 0, .publish 0,
    .publish 0, .publish 0, .finish 0, .proceed]

end WbMqttDali.Publishing
