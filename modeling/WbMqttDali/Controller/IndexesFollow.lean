import Mathlib
import WbMqttDali.Controller.ApplyParameters

/-!
# When the indexes follow the devices

A change of a device is on its way to the indexes as long as some call that is still to
update them captured the short address or MQTT id that the device has given up.  The
indexes then show nothing but the current identities and the ones given up, and end
up exact.
-/

namespace WbMqttDali.ApplyParameters

open WbMqttDali.Device

/-! ### The calls that are still to update the indexes -/

namespace CallPoint

/-- The call has not updated the registry yet. -/
def updatesIndexes : CallPoint → Bool
  | .resolved _ | .removing | .adding _ | .registering _ | .settingTitle _ => true
  | .refreshing => false

/-- The call has not removed the old MQTT id yet. -/
def removes : CallPoint → Bool
  | .resolved _ | .removing => true
  | .adding _ | .registering _ | .settingTitle _ | .refreshing => false

/-- The call publishes the device anew. -/
def republishes : CallPoint → Bool
  | .removing | .adding _ | .registering _ => true
  | .resolved _ | .settingTitle _ | .refreshing => false

def isResolved : CallPoint → Bool
  | .resolved _ => true
  | .removing | .adding _ | .registering _ | .settingTitle _ | .refreshing => false

end CallPoint

namespace ApplicationController

variable (controller : ApplicationController)

/-- A call of the device that will update the registry captured this short address. -/
def ShortCovered (device : DeviceRef) (short : ℕ) : Prop :=
  ∃ call ∈ controller.calls.values, call.device = device ∧ call.point.updatesIndexes = true ∧
    call.oldShortAddress = short

/-- A call of the device that will update the registry captured another short address. -/
def ShortNoticed (device : DeviceRef) (short : ℕ) : Prop :=
  ∃ call ∈ controller.calls.values, call.device = device ∧ call.point.updatesIndexes = true ∧
    call.oldShortAddress ≠ short

/-- A call of the device that can still remove its old MQTT id captured this one. -/
def MqttIdCovered (device : DeviceRef) (mqttId : String) : Prop :=
  ∃ call ∈ controller.calls.values, call.device = device ∧ call.point.removes = true ∧
    call.oldMqttId = mqttId

/-- A call of the device publishes it anew, or will do so because of this MQTT id. -/
def MqttIdNoticed (device : DeviceRef) (mqttId : String) : Prop :=
  ∃ call ∈ controller.calls.values, call.device = device ∧
    (call.point.republishes = true ∨ call.point.isResolved = true ∧ call.oldMqttId ≠ mqttId)

/-- A change of the short address leads to an address that is free, and the calls under way,
this one included, know the address that is given up and notice the new one. -/
def ShortFollowed (task : ApplySetting) (short : ℕ) : Prop :=
  short ≠ (controller.device task.device).short →
    (∀ other ∈ controller.devices, other ≠ task.device →
      (controller.device other).kind = (controller.device task.device).kind →
      (controller.device other).short ≠ short) ∧
    (task.oldShortAddress = (controller.device task.device).short ∨
      controller.ShortCovered task.device (controller.device task.device).short) ∧
    (task.oldShortAddress ≠ short ∨ controller.ShortNoticed task.device short ∨
      (controller.deviceRegistry (controller.device task.device).kind).get? short =
        some task.device)

/-- The same for a change of the MQTT id. -/
def MqttIdFollowed (task : ApplySetting) (mqttId : String) : Prop :=
  mqttId ≠ (controller.device task.device).mqttId →
    (∀ other ∈ controller.devices, other ≠ task.device →
      (controller.device other).mqttId ≠ mqttId) ∧
    (task.oldMqttId = (controller.device task.device).mqttId ∨
      controller.MqttIdCovered task.device (controller.device task.device).mqttId) ∧
    (task.oldMqttId ≠ mqttId ∨ controller.MqttIdNoticed task.device mqttId ∨
      controller.devicesByMqttId.get? mqttId = some task.device)

def ChangeFollowed (task : ApplySetting) (change : CommonChange) (short : ℕ) : Prop :=
  controller.ShortFollowed task short ∧
    controller.MqttIdFollowed task ((controller.device task.device).mqttIdAt change short)

/-- While a call publishes its device anew, the MQTT id that it removes is not taken by
another device yet, and the one it adds is free and not outdated. -/
def PublishFollowed (call : Call) : Prop :=
  match call.point with
  | .removing =>
    ∀ other ∈ controller.devicesByMqttId.get? call.oldMqttId,
      other = call.device ∨ (controller.device other).mqttId ≠ call.oldMqttId
  | .adding mqttId =>
    controller.published.get? mqttId = none ∧
      (mqttId = (controller.device call.device).mqttId ∨
        controller.MqttIdCovered call.device mqttId)
  | .registering mqttId => mqttId ∉ controller.controlHandlers
  | .resolved _ | .settingTitle _ | .refreshing => True

/-- The changes and the calls of a run do not lose sight of each other. -/
def Follows (controller : ApplicationController) : Event → Prop
  | .applyCommon _ _ =>
    ∀ task ∈ controller.tasksQueue.head?,
      let device := controller.device task.device
      let change := device.commonChange task.newParams
      change.newShortAddress = device.short →
        controller.ChangeFollowed task change device.short
  | .sequenceReturns _ reported =>
    ∀ writing ∈ controller.writing,
      controller.ChangeFollowed writing.1 writing.2.1
        ((controller.device writing.1.device).addressAfter writing.2.1 reported)
  | .resume id => ∀ call ∈ controller.calls.get? id, controller.PublishFollowed call
  | .applyParameters _ _ | .taskRaises | .sequenceRaises => True

/-- What the indexes show of the short addresses, up to the calls under way. -/
structure RegistryFollows : Prop where
  known : ∀ kind short device, (controller.deviceRegistry kind).get? short = some device →
    device ∈ controller.devices ∧ (controller.device device).kind = kind
  distinct : ∀ device ∈ controller.devices, ∀ other ∈ controller.devices, other ≠ device →
    (controller.device other).kind = (controller.device device).kind →
    (controller.device other).short ≠ (controller.device device).short
  stale : ∀ kind short device, (controller.deviceRegistry kind).get? short = some device →
    short = (controller.device device).short ∨ controller.ShortCovered device short
  listed : ∀ device ∈ controller.devices,
    (controller.deviceRegistry (controller.device device).kind).get?
        (controller.device device).short = some device ∨
      controller.ShortNoticed device (controller.device device).short

/-- What the indexes show of the MQTT ids, up to the calls under way. -/
structure MqttIdsFollow : Prop where
  distinct : ∀ device ∈ controller.devices, ∀ other ∈ controller.devices, other ≠ device →
    (controller.device other).mqttId ≠ (controller.device device).mqttId
  stale : ∀ device ∈ controller.devices, ∀ mqttId,
    controller.devicesByMqttId.get? mqttId = some device →
    mqttId = (controller.device device).mqttId ∨ controller.MqttIdCovered device mqttId
  listed : ∀ device ∈ controller.devices,
    controller.devicesByMqttId.get? (controller.device device).mqttId = some device ∨
      controller.MqttIdNoticed device (controller.device device).mqttId
  published : ∀ device ∈ controller.devices, ∀ mqttId,
    controller.published.get? mqttId = some device →
    mqttId = (controller.device device).mqttId ∨ controller.MqttIdCovered device mqttId

/-- The tasks and the calls are about devices of the bus. -/
structure DevicesKnown : Prop where
  queued : ∀ task ∈ controller.tasksQueue, task.device ∈ controller.devices
  writing : ∀ writing ∈ controller.writing, writing.1.device ∈ controller.devices
  calls : ∀ call ∈ controller.calls.values, call.device ∈ controller.devices

structure IndexesFollow : Prop where
  registry : controller.RegistryFollows
  mqttIds : controller.MqttIdsFollow
  devices : controller.DevicesKnown

section Steps

variable {controller controller' : ApplicationController} {task : ApplySetting}
  {change : CommonChange} {short id : ℕ} {needsRefresh : Bool} {call : Call}

/-! ### A change takes effect -/

lemma device_finish_of_ne {device : DeviceRef} (h : device ≠ task.device) :
    (controller.finish id task change short needsRefresh).device device =
      controller.device device :=
  Function.update_of_ne h _ _

lemma device_finish_self :
    (controller.finish id task change short needsRefresh).device task.device =
      (controller.device task.device).applyChange change short :=
  Function.update_self _ _ _

lemma kind_finish (device : DeviceRef) :
    ((controller.finish id task change short needsRefresh).device device).kind =
      (controller.device device).kind := by
  by_cases h : device = task.device
  · rw [h, device_finish_self, Identity.applyChange_kind]
  · rw [device_finish_of_ne h]

/-- The calls that were under way still are. -/
lemma exists_call_finish {P : Call → Prop} (hid : controller.calls.get? id = none)
    (h : ∃ call ∈ controller.calls.values, P call) :
    ∃ call ∈ (controller.finish id task change short needsRefresh).calls.values, P call :=
  Dict.exists_mem_values_set h fun call hcall => by rw [hid] at hcall; cases hcall

/-- The call of the task is under way now. -/
lemma mem_calls_finish :
    ⟨task.device, task.oldMqttId, task.oldShortAddress, .resolved needsRefresh⟩ ∈
      (controller.finish id task change short needsRefresh).calls.values :=
  Dict.mem_values_iff.2 ⟨id, Dict.get?_set_self _ _ _⟩

lemma RegistryFollows.finish (h : controller.RegistryFollows)
    (hid : controller.calls.get? id = none) (htask : task.device ∈ controller.devices)
    (hfollowed : controller.ShortFollowed task short) :
    (controller.finish id task change short needsRefresh).RegistryFollows where
  known := fun kind key device hkey => by
    rw [kind_finish]
    exact h.known kind key device hkey
  distinct := by
    -- the changed device against any other one
    have hother : ∀ other ∈ controller.devices, other ≠ task.device →
        (controller.device other).kind = (controller.device task.device).kind →
        (controller.device other).short ≠ short := by
      intro other hother hne hkind
      by_cases hsame : short = (controller.device task.device).short
      · rw [hsame]
        exact h.distinct _ htask other hother hne hkind
      · exact (hfollowed hsame).1 other hother hne hkind
    intro device hdevice other hmem hne
    rw [kind_finish, kind_finish]
    intro hkind
    by_cases heq : device = task.device
    · subst heq
      rw [device_finish_self, device_finish_of_ne hne, Identity.applyChange_short]
      exact hother other hmem hne hkind
    · rw [device_finish_of_ne heq]
      by_cases heq' : other = task.device
      · subst heq'
        rw [device_finish_self, Identity.applyChange_short]
        exact (hother device hdevice heq hkind.symm).symm
      · rw [device_finish_of_ne heq']
        exact h.distinct device hdevice other hmem hne hkind
  stale := fun kind key device hkey => by
    have hstale := h.stale kind key device hkey
    by_cases heq : device = task.device
    · subst heq
      rw [device_finish_self, Identity.applyChange_short]
      rcases hstale with rfl | hcovered
      · by_cases hsame : short = (controller.device task.device).short
        · exact .inl hsame.symm
        · rcases (hfollowed hsame).2.1 with hold | hcovered
          · exact .inr ⟨_, mem_calls_finish, rfl, rfl, hold⟩
          · exact .inr (exists_call_finish hid hcovered)
      · exact .inr (exists_call_finish hid hcovered)
    · rw [device_finish_of_ne heq]
      exact hstale.imp_right (exists_call_finish hid)
  listed := fun device hdevice => by
    have hlisted := h.listed device hdevice
    rw [kind_finish]
    by_cases heq : device = task.device
    · subst heq
      rw [device_finish_self, Identity.applyChange_short]
      by_cases hsame : short = (controller.device task.device).short
      · rw [hsame]
        exact hlisted.imp_right (exists_call_finish hid)
      · rcases (hfollowed hsame).2.2 with hold | hnoticed | hkey
        · exact .inr ⟨_, mem_calls_finish, rfl, rfl, hold⟩
        · exact .inr (exists_call_finish hid hnoticed)
        · exact .inl hkey
    · rw [device_finish_of_ne heq]
      exact hlisted.imp_right (exists_call_finish hid)

/-- The MQTT id after the change. -/
lemma mqttId_finish_self :
    ((controller.finish id task change short needsRefresh).device task.device).mqttId =
      (controller.device task.device).mqttIdAt change short := by
  rw [device_finish_self, Identity.applyChange_mqttId]

lemma MqttIdsFollow.finish (h : controller.MqttIdsFollow)
    (hid : controller.calls.get? id = none) (htask : task.device ∈ controller.devices)
    (hfollowed : controller.MqttIdFollowed task
      ((controller.device task.device).mqttIdAt change short)) :
    (controller.finish id task change short needsRefresh).MqttIdsFollow := by
  -- a call that is about to publish the device anew covers the old id
  have hstale : ∀ device ∈ controller.devices, ∀ mqttId,
      mqttId = (controller.device device).mqttId ∨ controller.MqttIdCovered device mqttId →
      mqttId =
          ((controller.finish id task change short needsRefresh).device device).mqttId ∨
        (controller.finish id task change short needsRefresh).MqttIdCovered device mqttId := by
    intro device hdevice mqttId hstale
    by_cases heq : device = task.device
    · subst heq
      rw [mqttId_finish_self]
      rcases hstale with rfl | hcovered
      · by_cases hsame : (controller.device task.device).mqttIdAt change short =
            (controller.device task.device).mqttId
        · exact .inl hsame.symm
        · rcases (hfollowed hsame).2.1 with hold | hcovered
          · exact .inr ⟨_, mem_calls_finish, rfl, rfl, hold⟩
          · exact .inr (exists_call_finish hid hcovered)
      · exact .inr (exists_call_finish hid hcovered)
    · rw [device_finish_of_ne heq]
      exact hstale.imp_right (exists_call_finish hid)
  refine ⟨?_, fun device hdevice mqttId hkey => hstale device hdevice mqttId
    (h.stale device hdevice mqttId hkey), ?_, fun device hdevice mqttId hkey =>
    hstale device hdevice mqttId (h.published device hdevice mqttId hkey)⟩
  -- no other device has the id that the device gets
  · have hother : ∀ other ∈ controller.devices, other ≠ task.device →
        (controller.device other).mqttId ≠
          (controller.device task.device).mqttIdAt change short := by
      intro other hother hne
      by_cases hsame : (controller.device task.device).mqttIdAt change short =
          (controller.device task.device).mqttId
      · rw [hsame]
        exact h.distinct _ htask other hother hne
      · exact (hfollowed hsame).1 other hother hne
    intro device hdevice other hmem hne
    by_cases heq : device = task.device
    · subst heq
      rw [mqttId_finish_self, device_finish_of_ne hne]
      exact hother other hmem hne
    · rw [device_finish_of_ne heq]
      by_cases heq' : other = task.device
      · subst heq'
        rw [mqttId_finish_self]
        exact (hother device hdevice heq).symm
      · rw [device_finish_of_ne heq']
        exact h.distinct device hdevice other hmem hne
  · intro device hdevice
    have hlisted := h.listed device hdevice
    by_cases heq : device = task.device
    · subst heq
      rw [mqttId_finish_self]
      by_cases hsame : (controller.device task.device).mqttIdAt change short =
          (controller.device task.device).mqttId
      · rw [hsame]
        exact hlisted.imp_right (exists_call_finish hid)
      · rcases (hfollowed hsame).2.2 with hold | hnoticed | hkey
        · exact .inr ⟨_, mem_calls_finish, rfl, .inr ⟨rfl, hold⟩⟩
        · exact .inr (exists_call_finish hid hnoticed)
        · exact .inl hkey
    · rw [device_finish_of_ne heq]
      exact hlisted.imp_right (exists_call_finish hid)

/-! ### A call goes on -/

lemma RegistryFollows.of_calls (h : controller.RegistryFollows)
    (hdevices : controller'.devices = controller.devices)
    (hdevice : controller'.device = controller.device)
    (hregistry : controller'.deviceRegistry = controller.deviceRegistry)
    (hcovered : ∀ device short, controller.ShortCovered device short →
      controller'.ShortCovered device short)
    (hnoticed : ∀ device short, controller.ShortNoticed device short →
      controller'.ShortNoticed device short) : controller'.RegistryFollows where
  known := by
    rw [hdevices, hdevice, hregistry]
    exact h.known
  distinct := by
    rw [hdevices, hdevice]
    exact h.distinct
  stale := fun kind short device hkey => by
    rw [hregistry] at hkey
    rw [hdevice]
    exact (h.stale kind short device hkey).imp_right (hcovered _ _)
  listed := fun device hmem => by
    rw [hdevices] at hmem
    rw [hdevice, hregistry]
    exact (h.listed device hmem).imp_right (hnoticed _ _)

lemma RegistryFollows.suspendAt (h : controller.RegistryFollows)
    (hcall : controller.calls.get? id = some call) {point : CallPoint}
    (hpoint : point.updatesIndexes = true) :
    (controller.suspendAt id call point).RegistryFollows := by
  refine h.of_calls rfl rfl rfl (fun device short hcovered => ?_) fun device short hnoticed => ?_
  · refine Dict.exists_mem_values_set hcovered fun call' hcall' hP => ?_
    obtain rfl := Option.some.inj (hcall ▸ hcall')
    exact ⟨hP.1, hpoint, hP.2.2⟩
  · refine Dict.exists_mem_values_set hnoticed fun call' hcall' hP => ?_
    obtain rfl := Option.some.inj (hcall ▸ hcall')
    exact ⟨hP.1, hpoint, hP.2.2⟩

/-- The other calls are still under way. -/
lemma exists_call_updateIndexes {P : Call → Prop} (hcall : controller.calls.get? id = some call)
    (hex : ∃ call' ∈ controller.calls.values, P call') (hnot : ¬P call) :
    ∃ call' ∈ (controller.updateIndexes id call).calls.values, P call' := by
  have hnot' : ∀ call', controller.calls.get? id = some call' → ¬P call' :=
    fun call' hcall' => Option.some.inj (hcall ▸ hcall') ▸ hnot
  rw [updateIndexes]
  split
  all_goals split
  all_goals first
    | exact Dict.exists_mem_values_set hex fun call' hcall' hP => absurd hP (hnot' call' hcall')
    | exact Dict.exists_mem_values_erase hex hnot'

lemma updateIndexes_frame :
    (controller.updateIndexes id call).devices = controller.devices ∧
      (controller.updateIndexes id call).device = controller.device ∧
      (controller.updateIndexes id call).devicesByMqttId = controller.devicesByMqttId ∧
      (controller.updateIndexes id call).published = controller.published ∧
      (controller.updateIndexes id call).tasksQueue = controller.tasksQueue ∧
      (controller.updateIndexes id call).writing = controller.writing := by
  simp only [updateIndexes]
  split <;> split <;> exact ⟨rfl, rfl, rfl, rfl, rfl, rfl⟩

/-- After its update of the registry a call need not be counted on any more. -/
lemma RegistryFollows.updateIndexes (h : controller.RegistryFollows)
    (hcall : controller.calls.get? id = some call) (hmem : call.device ∈ controller.devices) :
    (controller.updateIndexes id call).RegistryFollows := by
  have hregistry : (controller.updateIndexes id call).deviceRegistry =
      if call.oldShortAddress ≠ (controller.device call.device).short then
        controller.deviceRegistry.updateShortAddress call.device
          (controller.device call.device).kind (controller.device call.device).short
          call.oldShortAddress
      else controller.deviceRegistry := by
    simp only [ApplicationController.updateIndexes]
    split <;> split <;> rfl
  obtain ⟨hdevices, hdevice, -⟩ := @updateIndexes_frame controller id call
  have hcovered : ∀ device short, controller.ShortCovered device short →
      (call.device = device → call.oldShortAddress ≠ short) →
      (controller.updateIndexes id call).ShortCovered device short :=
    fun device short hcovered hnot =>
      exists_call_updateIndexes hcall hcovered fun hP => hnot hP.1 hP.2.2
  have hnoticed : ∀ device short, controller.ShortNoticed device short →
      (call.device = device → call.oldShortAddress = short) →
      (controller.updateIndexes id call).ShortNoticed device short :=
    fun device short hnoticed hnot =>
      exists_call_updateIndexes hcall hnoticed fun hP => hP.2.2 (hnot hP.1)
  by_cases hmoved : call.oldShortAddress ≠ (controller.device call.device).short
  · rw [if_pos hmoved] at hregistry
    refine ⟨?_, ?_, ?_, ?_⟩
    · intro kind key device hkey
      rw [hregistry] at hkey
      rw [hdevices, hdevice]
      rcases DeviceRegistry.get?_updateShortAddress hkey with ⟨rfl, -, rfl⟩ | ⟨hkey, -, -⟩
      · exact ⟨hmem, rfl⟩
      · exact h.known kind key device hkey
    · rw [hdevices, hdevice]
      exact h.distinct
    · intro kind key device hkey
      rw [hregistry] at hkey
      rw [hdevice]
      rcases DeviceRegistry.get?_updateShortAddress hkey with ⟨-, rfl, rfl⟩ | ⟨hkey, -, hold⟩
      · exact .inl rfl
      · refine (h.stale kind key device hkey).imp_right fun hcov =>
          hcovered _ _ hcov fun heq hshort => ?_
        -- the address that the call captured is no longer listed
        have hkind := (h.known kind key device hkey).2
        exact hold heq.symm (by rw [heq, hkind]) hshort.symm
    · intro device hdev
      rw [hdevices] at hdev
      rw [hdevice, hregistry]
      by_cases heq : device = call.device
      · subst heq
        exact .inl DeviceRegistry.get?_updateShortAddress_self
      · refine (h.listed device hdev).imp (fun hlisted => ?_) fun hnot =>
          hnoticed _ _ hnot fun heq' => absurd heq'.symm heq
        exact DeviceRegistry.get?_updateShortAddress_of_ne hlisted heq
          (h.distinct _ hmem device hdev heq)
  · rw [if_neg hmoved] at hregistry
    rw [not_not] at hmoved
    refine ⟨?_, ?_, ?_, ?_⟩
    · rw [hdevices, hdevice, hregistry]
      exact h.known
    · rw [hdevices, hdevice]
      exact h.distinct
    · intro kind key device hkey
      rw [hregistry] at hkey
      rw [hdevice]
      rcases h.stale kind key device hkey with hshort | hcov
      · exact .inl hshort
      · by_cases hkey' : call.device = device ∧ call.oldShortAddress = key
        · obtain ⟨rfl, rfl⟩ := hkey'
          exact .inl hmoved
        · exact .inr (hcovered _ _ hcov fun heq hshort => hkey' ⟨heq, hshort⟩)
    · intro device hdev
      rw [hdevices] at hdev
      rw [hdevice, hregistry]
      refine (h.listed device hdev).imp_right fun hnot => hnoticed _ _ hnot ?_
      rintro rfl
      exact hmoved

lemma MqttIdsFollow.of_calls (h : controller.MqttIdsFollow)
    (hdevices : controller'.devices = controller.devices)
    (hdevice : controller'.device = controller.device)
    (hids : controller'.devicesByMqttId = controller.devicesByMqttId)
    (hpublished : controller'.published = controller.published)
    (hcovered : ∀ device mqttId, controller.MqttIdCovered device mqttId →
      mqttId = (controller.device device).mqttId ∨ controller'.MqttIdCovered device mqttId)
    (hnoticed : ∀ device, controller.MqttIdNoticed device (controller.device device).mqttId →
      controller'.MqttIdNoticed device (controller.device device).mqttId) :
    controller'.MqttIdsFollow where
  distinct := by
    rw [hdevices, hdevice]
    exact h.distinct
  stale := fun device hmem mqttId hkey => by
    rw [hdevices] at hmem
    rw [hids] at hkey
    rw [hdevice]
    exact (h.stale device hmem mqttId hkey).elim .inl (hcovered _ _)
  listed := fun device hmem => by
    rw [hdevices] at hmem
    rw [hdevice, hids]
    exact (h.listed device hmem).imp_right (hnoticed _)
  published := fun device hmem mqttId hkey => by
    rw [hdevices] at hmem
    rw [hpublished] at hkey
    rw [hdevice]
    exact (h.published device hmem mqttId hkey).elim .inl (hcovered _ _)

/-- A call that neither removes nor publishes any more need not be counted on. -/
lemma MqttIdsFollow.drop (h : controller.MqttIdsFollow)
    (hdevices : controller'.devices = controller.devices)
    (hdevice : controller'.device = controller.device)
    (hids : controller'.devicesByMqttId = controller.devicesByMqttId)
    (hpublished : controller'.published = controller.published)
    (hcalls : ∀ P : Call → Prop, (∃ call' ∈ controller.calls.values, P call') → ¬P call →
      ∃ call' ∈ controller'.calls.values, P call')
    (hremoves : call.point.removes = false) (hrepublishes : call.point.republishes = false)
    (hresolved : call.point.isResolved = false) : controller'.MqttIdsFollow := by
  refine h.of_calls hdevices hdevice hids hpublished (fun device mqttId hcovered => .inr ?_)
    fun device hnoticed => ?_
  · exact hcalls _ hcovered fun hP => by simp [hremoves] at hP
  · exact hcalls _ hnoticed fun hP => by simp [hrepublishes, hresolved] at hP

lemma removeDevice_frame {mqttId : String} :
    (controller.removeDevice mqttId).devices = controller.devices ∧
      (controller.removeDevice mqttId).device = controller.device ∧
      (controller.removeDevice mqttId).calls = controller.calls ∧
      (controller.removeDevice mqttId).deviceRegistry = controller.deviceRegistry ∧
      (controller.removeDevice mqttId).tasksQueue = controller.tasksQueue ∧
      (controller.removeDevice mqttId).writing = controller.writing := by
  rw [removeDevice]
  split <;> exact ⟨rfl, rfl, rfl, rfl, rfl, rfl⟩

lemma get?_published_removeDevice {mqttId key : String} {device : DeviceRef}
    (h : (controller.removeDevice mqttId).published.get? key = some device) :
    key ≠ mqttId ∧ controller.published.get? key = some device := by
  rw [removeDevice] at h
  split at h
  case isTrue =>
    rw [Dict.get?_erase] at h
    split at h
    case isTrue => cases h
    case isFalse hne => exact ⟨hne, h⟩
  case isFalse hnone =>
    refine ⟨?_, h⟩
    rintro rfl
    rw [h] at hnone
    exact hnone rfl

/-- A call that goes on keeps what can be said of it. -/
lemma exists_call_suspendAt {P : Call → Prop} {point : CallPoint}
    (hcall : controller.calls.get? id = some call)
    (hcalls : controller'.calls = controller.calls.set id { call with point })
    (hex : ∃ call' ∈ controller.calls.values, P call') (hP : P call → P { call with point }) :
    ∃ call' ∈ controller'.calls.values, P call' := by
  rw [hcalls]
  refine Dict.exists_mem_values_set hex fun call' hcall' => ?_
  obtain rfl := Option.some.inj (hcall ▸ hcall')
  exact hP

/-- The old MQTT id of the call is removed, and nothing else lost sight of. -/
lemma MqttIdsFollow.remove (h : controller.MqttIdsFollow)
    (hcall : controller.calls.get? id = some call) (hpoint : call.point = .removing)
    (hok : controller.PublishFollowed call) {mqttId : String}
    (hdevices : controller'.devices = controller.devices)
    (hdevice : controller'.device = controller.device)
    (hcalls : controller'.calls = controller.calls.set id { call with point := .adding mqttId })
    (hids : controller'.devicesByMqttId = controller.devicesByMqttId.erase call.oldMqttId)
    (hpublished : ∀ key device, controller'.published.get? key = some device →
      key ≠ call.oldMqttId ∧ controller.published.get? key = some device) :
    controller'.MqttIdsFollow := by
  rw [PublishFollowed, hpoint] at hok
  have hcovered : ∀ device key, key ≠ call.oldMqttId → controller.MqttIdCovered device key →
      controller'.MqttIdCovered device key := fun device key hne hcov =>
    exists_call_suspendAt hcall hcalls hcov fun hP => absurd hP.2.2.symm hne
  refine ⟨?_, fun device hmem key hkey => ?_, fun device hmem => ?_, fun device hmem key hkey => ?_⟩
  · rw [hdevices, hdevice]
    exact h.distinct
  · rw [hdevices] at hmem
    rw [hids, Dict.get?_erase] at hkey
    rw [hdevice]
    split at hkey
    case isTrue => cases hkey
    case isFalse hne => exact (h.stale device hmem key hkey).imp_right (hcovered device key hne)
  · rw [hdevices] at hmem
    rw [hdevice, hids]
    by_cases heq : device = call.device
    · subst heq
      refine .inr ⟨{ call with point := .adding mqttId }, ?_, rfl, .inl rfl⟩
      rw [hcalls]
      exact Dict.mem_values_iff.2 ⟨id, Dict.get?_set_self _ _ _⟩
    · refine (h.listed device hmem).imp (fun hkey => ?_) fun hnot =>
        exists_call_suspendAt hcall hcalls hnot fun hP => absurd hP.1.symm heq
      have hne : (controller.device device).mqttId ≠ call.oldMqttId := fun hid =>
        (hok device (hid ▸ hkey)).elim heq fun hne => hne hid
      rwa [Dict.get?_erase_of_ne _ hne]
  · rw [hdevices] at hmem
    rw [hdevice]
    obtain ⟨hne, hkey⟩ := hpublished key device hkey
    exact (h.published device hmem key hkey).imp_right (hcovered device key hne)

/-- The MQTT id that the call adds is the current one, or one that is still to be removed. -/
lemma MqttIdsFollow.add (h : controller.MqttIdsFollow)
    (hcall : controller.calls.get? id = some call) {mqttId mqttId' : String}
    (hpoint : call.point = .adding mqttId) (hok : controller.PublishFollowed call) :
    (suspendAt { controller with published := controller.published.set mqttId call.device }
      id call (.registering mqttId')).MqttIdsFollow := by
  rw [PublishFollowed, hpoint] at hok
  let added : ApplicationController :=
    suspendAt { controller with published := controller.published.set mqttId call.device }
      id call (.registering mqttId')
  have hcovered : ∀ device key, controller.MqttIdCovered device key →
      added.MqttIdCovered device key := fun device key hcov =>
    @exists_call_suspendAt controller added _ _ _ _ hcall rfl hcov fun hP => by
      simp [hpoint, CallPoint.removes] at hP
  show added.MqttIdsFollow
  refine ⟨h.distinct, fun device hmem key hkey => ?_, fun device hmem => ?_,
    fun device hmem key hkey => ?_⟩
  · exact (h.stale device hmem key hkey).imp_right (hcovered device key)
  · exact (h.listed device hmem).imp_right fun hnot =>
      @exists_call_suspendAt controller added _ _ _ _ hcall rfl hnot fun hP => ⟨hP.1, .inl rfl⟩
  · change (controller.published.set mqttId call.device).get? key = some device at hkey
    rw [Dict.get?_set] at hkey
    split at hkey
    case isTrue heq =>
      obtain rfl := Option.some.inj hkey
      rw [heq]
      exact hok.2.imp_right (hcovered _ _)
    case isFalse => exact (h.published device hmem key hkey).imp_right (hcovered device key)

/-- The device is listed under its current MQTT id. -/
lemma MqttIdsFollow.list (h : controller.MqttIdsFollow)
    (hcall : controller.calls.get? id = some call) {mqttId : String}
    (hpoint : call.point = .registering mqttId) (hmem : call.device ∈ controller.devices)
    {controlHandlers : List String} :
    (updateIndexes
      { controller with
        controlHandlers
        devicesByMqttId := controller.devicesByMqttId.set
          (controller.device call.device).mqttId call.device } id call).MqttIdsFollow := by
  let listed : ApplicationController :=
    { controller with
      controlHandlers
      devicesByMqttId := controller.devicesByMqttId.set
        (controller.device call.device).mqttId call.device }
  obtain ⟨hdevices, hdevice, hids, hpublished, -⟩ := @updateIndexes_frame listed id call
  have hcovered : ∀ device key, controller.MqttIdCovered device key →
      (listed.updateIndexes id call).MqttIdCovered device key := fun device key hcov =>
    @exists_call_updateIndexes listed _ _ _ hcall hcov
      fun hP => by simp [hpoint, CallPoint.removes] at hP
  show (listed.updateIndexes id call).MqttIdsFollow
  refine ⟨?_, fun device hdev key hkey => ?_, fun device hdev => ?_, fun device hdev key hkey => ?_⟩
  · rw [hdevices, hdevice]
    exact h.distinct
  · rw [hdevices] at hdev
    rw [hids, Dict.get?_set] at hkey
    rw [hdevice]
    split at hkey
    case isTrue heq =>
      obtain rfl := Option.some.inj hkey
      exact .inl heq
    case isFalse => exact (h.stale device hdev key hkey).imp_right (hcovered _ _)
  · rw [hdevices] at hdev
    rw [hdevice, hids]
    by_cases heq : device = call.device
    · subst heq
      exact .inl (Dict.get?_set_self _ _ _)
    · refine (h.listed device hdev).imp (fun hkey => ?_) fun hnot =>
        @exists_call_updateIndexes listed _ _ _ hcall hnot fun hP => absurd hP.1.symm heq
      rwa [Dict.get?_set_of_ne _ _ (h.distinct _ hmem device hdev heq)]
  · rw [hdevices] at hdev
    rw [hpublished] at hkey
    rw [hdevice]
    exact (h.published device hdev key hkey).imp_right (hcovered _ _)

/-- A resolved call decides whether to publish the device anew, or only to set its title. -/
lemma MqttIdsFollow.decide (h : controller.MqttIdsFollow)
    (hcall : controller.calls.get? id = some call) {needsRefresh : Bool}
    (hpoint : call.point = .resolved needsRefresh) : (controller.resume id call).MqttIdsFollow := by
  rw [resume, hpoint]
  simp only
  split
  case isTrue =>
    refine h.of_calls rfl rfl rfl rfl (fun device mqttId hcov => .inr ?_) fun device hnot => ?_
    · exact exists_call_suspendAt hcall rfl hcov fun hP => ⟨hP.1, rfl, hP.2.2⟩
    · exact exists_call_suspendAt hcall rfl hnot fun hP => ⟨hP.1, .inl rfl⟩
  case isFalse hnone =>
    -- the MQTT id that the call captured is still the current one
    have hsame : call.oldMqttId = (controller.device call.device).mqttId := by
      simp only [Bool.or_eq_true, decide_eq_true_eq, not_or, not_not] at hnone
      exact hnone.2
    refine h.of_calls rfl rfl rfl rfl (fun device mqttId hcov => ?_) fun device hnot => ?_
    · by_cases hkey : call.device = device ∧ call.oldMqttId = mqttId
      · obtain ⟨rfl, rfl⟩ := hkey
        exact .inl hsame
      · exact .inr (exists_call_suspendAt hcall rfl hcov fun hP => absurd ⟨hP.1, hP.2.2⟩ hkey)
    · refine exists_call_suspendAt hcall rfl hnot fun ⟨hdevice, hpublishes⟩ => ?_
      rcases hpublishes with hpublishes | ⟨-, hne⟩
      · rw [hpoint] at hpublishes
        cases hpublishes
      · subst hdevice
        exact absurd hsame hne

lemma MqttIdsFollow.updateIndexes (h : controller.MqttIdsFollow)
    (hcall : controller.calls.get? id = some call) {title : String}
    (hpoint : call.point = .settingTitle title) :
    (controller.updateIndexes id call).MqttIdsFollow := by
  obtain ⟨hdevices, hdevice, hids, hpublished, -⟩ := @updateIndexes_frame controller id call
  exact h.drop hdevices hdevice hids hpublished
    (fun P hex hnot => exists_call_updateIndexes hcall hex hnot) (by rw [hpoint]; rfl)
    (by rw [hpoint]; rfl) (by rw [hpoint]; rfl)

lemma MqttIdsFollow.endCall (h : controller.MqttIdsFollow)
    (hcall : controller.calls.get? id = some call) (hpoint : call.point = .refreshing) :
    (controller.endCall id).MqttIdsFollow :=
  h.drop rfl rfl rfl rfl
    (fun P hex hnot => Dict.exists_mem_values_erase hex fun call' hcall' =>
      Option.some.inj (hcall ▸ hcall') ▸ hnot)
    (by rw [hpoint]; rfl) (by rw [hpoint]; rfl) (by rw [hpoint]; rfl)

lemma RegistryFollows.endCall (h : controller.RegistryFollows)
    (hcall : controller.calls.get? id = some call) (hpoint : call.point = .refreshing) :
    (controller.endCall id).RegistryFollows := by
  have hdrop : ∀ call', controller.calls.get? id = some call' →
      ¬call'.point.updatesIndexes = true := by
    intro call' hcall'
    obtain rfl := Option.some.inj (hcall ▸ hcall')
    rw [hpoint]
    exact Bool.false_ne_true
  refine h.of_calls rfl rfl rfl (fun device short hcovered => ?_) fun device short hnoticed => ?_
  · exact Dict.exists_mem_values_erase hcovered fun call' hcall' hP => hdrop call' hcall' hP.2.1
  · exact Dict.exists_mem_values_erase hnoticed fun call' hcall' hP => hdrop call' hcall' hP.2.1

lemma RegistryFollows.resume (h : controller.RegistryFollows)
    (hcall : controller.calls.get? id = some call) (hmem : call.device ∈ controller.devices)
    (hok : controller.PublishFollowed call) : (controller.resume id call).RegistryFollows := by
  rw [ApplicationController.resume]
  split
  case h_1 =>
    split
    · exact h.suspendAt hcall rfl
    · exact h.suspendAt hcall rfl
  case h_2 =>
    obtain ⟨hdevices, hdevice, hcalls, hregistry, -⟩ :=
      @removeDevice_frame controller call.oldMqttId
    have hremoved : (controller.suspendAt id call
        (.adding (controller.device call.device).mqttId)).RegistryFollows := h.suspendAt hcall rfl
    refine hremoved.of_calls hdevices hdevice hregistry (fun device short hcov => ?_)
      fun device short hnot => ?_
    · rw [ShortCovered, ApplicationController.suspendAt, hcalls]
      exact hcov
    · rw [ShortNoticed, ApplicationController.suspendAt, hcalls]
      exact hnot
  case h_3 mqttId hpoint =>
    rw [PublishFollowed, hpoint] at hok
    rw [hok.1]
    exact (h.suspendAt hcall rfl).of_calls rfl rfl rfl (fun _ _ h => h) fun _ _ h => h
  case h_4 mqttId hpoint =>
    rw [PublishFollowed, hpoint] at hok
    rw [if_neg hok]
    refine RegistryFollows.updateIndexes ?_ hcall hmem
    exact h.of_calls rfl rfl rfl (fun _ _ h => h) fun _ _ h => h
  case h_5 => exact h.updateIndexes hcall hmem
  case h_6 hpoint => exact h.endCall hcall hpoint

lemma MqttIdsFollow.resume (h : controller.MqttIdsFollow)
    (hcall : controller.calls.get? id = some call) (hmem : call.device ∈ controller.devices)
    (hok : controller.PublishFollowed call) : (controller.resume id call).MqttIdsFollow := by
  cases hpoint : call.point with
  | resolved => exact h.decide hcall hpoint
  | removing =>
    obtain ⟨hdevices, hdevice, hcalls, -⟩ := @removeDevice_frame controller call.oldMqttId
    have hnext : (controller.resume id call).calls =
        controller.calls.set id
          { call with point := .adding (controller.device call.device).mqttId } := by
      rw [ApplicationController.resume, hpoint]
      simp only [suspendAt, hcalls]
    rw [ApplicationController.resume, hpoint] at hnext ⊢
    exact h.remove hcall hpoint hok hdevices hdevice hnext rfl fun key device hkey =>
      get?_published_removeDevice hkey
  | adding mqttId =>
    have hfree := hok
    rw [PublishFollowed, hpoint] at hfree
    rw [ApplicationController.resume, hpoint]
    simp only [hfree.1, Option.isSome_none, Bool.false_eq_true, if_false]
    exact h.add hcall hpoint hok
  | registering mqttId =>
    rw [PublishFollowed, hpoint] at hok
    rw [ApplicationController.resume, hpoint]
    simp only [if_neg hok]
    exact h.list hcall hpoint hmem
  | settingTitle =>
    rw [ApplicationController.resume, hpoint]
    exact h.updateIndexes hcall hpoint
  | refreshing =>
    rw [ApplicationController.resume, hpoint]
    exact h.endCall hcall hpoint

/-- What a call that goes on leaves alone. -/
lemma resume_frame :
    (controller.resume id call).devices = controller.devices ∧
      (controller.resume id call).tasksQueue = controller.tasksQueue ∧
      (controller.resume id call).writing = controller.writing ∧
      ∀ call' ∈ (controller.resume id call).calls.values,
        call'.device = call.device ∨ call' ∈ controller.calls.values := by
  have hset : ∀ {point : CallPoint} {call' : Call},
      call' ∈ (controller.calls.set id { call with point }).values →
      call'.device = call.device ∨ call' ∈ controller.calls.values := fun hmem =>
    (Dict.mem_values_set hmem).imp_left fun heq => by rw [heq]
  have herase : ∀ {call' : Call}, call' ∈ (controller.calls.erase id).values →
      call'.device = call.device ∨ call' ∈ controller.calls.values := fun hmem =>
    .inr (Dict.mem_values_erase hmem)
  obtain ⟨hdevices, -, hcalls, -, hqueue, hwriting⟩ :=
    @removeDevice_frame controller call.oldMqttId
  rw [resume]
  split
  case h_1 => split <;> exact ⟨rfl, rfl, rfl, fun call' => hset⟩
  case h_2 =>
    refine ⟨hdevices, hqueue, hwriting, fun call' hmem => ?_⟩
    simp only [suspendAt, hcalls] at hmem
    exact hset hmem
  case h_3 =>
    split
    · exact ⟨rfl, rfl, rfl, fun call' => herase⟩
    · exact ⟨rfl, rfl, rfl, fun call' => hset⟩
  case h_4 =>
    split
    · exact ⟨rfl, rfl, rfl, fun call' => herase⟩
    · simp only [updateIndexes]
      split <;> split
      all_goals first
        | exact ⟨rfl, rfl, rfl, fun call' => hset⟩
        | exact ⟨rfl, rfl, rfl, fun call' => herase⟩
  case h_5 =>
    simp only [updateIndexes]
    split <;> split
    all_goals first
      | exact ⟨rfl, rfl, rfl, fun call' => hset⟩
      | exact ⟨rfl, rfl, rfl, fun call' => herase⟩
  case h_6 => exact ⟨rfl, rfl, rfl, fun call' => herase⟩

lemma IndexesFollow.finish (h : controller.IndexesFollow)
    (hid : controller.calls.get? id = none) (htask : task.device ∈ controller.devices)
    (hfollowed : controller.ChangeFollowed task change short) :
    (controller.finish id task change short needsRefresh).IndexesFollow where
  registry := h.registry.finish hid htask hfollowed.1
  mqttIds := h.mqttIds.finish hid htask hfollowed.2
  devices :=
    { queued := h.devices.queued
      writing := h.devices.writing
      calls := fun call hcall => by
        rcases Dict.mem_values_set hcall with rfl | hcall
        · exact htask
        · exact h.devices.calls call hcall }

/-- The queue and the task being applied do not matter to the indexes. -/
lemma IndexesFollow.of_tasks (h : controller.IndexesFollow)
    {tasksQueue : List ApplySetting} {writing : Option (ApplySetting × CommonChange × Bool)}
    (hqueued : ∀ task ∈ tasksQueue, task.device ∈ controller.devices)
    (hwriting : ∀ w ∈ writing, w.1.device ∈ controller.devices) :
    IndexesFollow { controller with tasksQueue, writing } where
  registry := h.registry.of_calls rfl rfl rfl (fun _ _ h => h) fun _ _ h => h
  mqttIds := h.mqttIds.of_calls rfl rfl rfl rfl (fun _ _ h => .inr h) fun _ h => h
  devices :=
    { queued := hqueued
      writing := hwriting
      calls := h.devices.calls }

lemma IndexesFollow.step {event : Event} (h : controller.IndexesFollow)
    (hok : controller.Follows event) (hstep : controller.step event = some controller') :
    controller'.IndexesFollow := by
  cases event with
  | applyParameters device newParams =>
    simp only [ApplicationController.step] at hstep
    split at hstep
    case isTrue hdevice =>
      obtain rfl := Option.some.inj hstep
      refine h.of_tasks (fun task htask => ?_) h.devices.writing
      rcases List.mem_append.1 htask with htask | htask
      · exact h.devices.queued task htask
      · rw [List.mem_singleton.1 htask]
        exact hdevice
    case isFalse => cases hstep
  | taskRaises =>
    simp only [ApplicationController.step] at hstep
    split at hstep
    case h_1 task rest hwriting hqueue =>
      obtain rfl := Option.some.inj hstep
      exact h.of_tasks (fun task htask => h.devices.queued task
        (hqueue ▸ List.mem_cons_of_mem _ htask)) h.devices.writing
    case h_2 => cases hstep
  | applyCommon call needsRefresh =>
    simp only [ApplicationController.step] at hstep
    split at hstep
    case h_1 task rest hwriting hqueue =>
      have htask : task.device ∈ controller.devices :=
        h.devices.queued task (hqueue ▸ List.mem_cons_self)
      have hrest : ∀ task ∈ rest, task.device ∈ controller.devices := fun task htask =>
        h.devices.queued task (hqueue ▸ List.mem_cons_of_mem _ htask)
      have htaken := h.of_tasks hrest h.devices.writing
      repeat' split at hstep
      -- without a new short address the call goes on at once
      case isTrue.isTrue.isTrue hsame hid =>
        obtain rfl := Option.some.inj hstep
        exact htaken.finish (Option.isNone_iff_eq_none.1 hid) htask
          (hok task (by rw [hqueue]; rfl) hsame)
      case isTrue.isFalse =>
        obtain rfl := Option.some.inj hstep
        exact h.of_tasks hrest fun writing hmem => Option.some.inj hmem ▸ htask
      all_goals cases hstep
    case h_2 => cases hstep
  | sequenceRaises =>
    simp only [ApplicationController.step] at hstep
    split at hstep
    case h_1 =>
      obtain rfl := Option.some.inj hstep
      exact h.of_tasks h.devices.queued (by simp)
    case h_2 => cases hstep
  | sequenceReturns call reported =>
    simp only [ApplicationController.step] at hstep
    split at hstep
    case h_1 task change needsRefresh hwriting =>
      split at hstep
      case isTrue hid =>
        obtain rfl := Option.some.inj hstep
        -- the device is taken on where the sequence has confirmed the new short address
        have hwritten : IndexesFollow { controller with writing := none } :=
          h.of_tasks h.devices.queued (by simp)
        exact hwritten.finish (Option.isNone_iff_eq_none.1 hid)
          (h.devices.writing _ hwriting) (hok _ hwriting)
      case isFalse => cases hstep
    case h_2 => cases hstep
  | resume id =>
    obtain ⟨call, hcall, rfl⟩ := Option.map_eq_some_iff.1 hstep
    have hmem := h.devices.calls call (Dict.mem_values_iff.2 ⟨id, hcall⟩)
    obtain ⟨hdevices, hqueue, hwriting, hcalls⟩ := @resume_frame controller id call
    refine ⟨h.registry.resume hcall hmem (hok call hcall),
      h.mqttIds.resume hcall hmem (hok call hcall), ?_, ?_, ?_⟩
    · rw [hqueue, hdevices]
      exact h.devices.queued
    · rw [hwriting, hdevices]
      exact h.devices.writing
    · intro call' hcall'
      rw [hdevices]
      rcases hcalls call' hcall' with heq | hcall'
      · exact heq ▸ hmem
      · exact h.devices.calls call' hcall'

lemma IndexesExact.follow (h : controller.IndexesExact) (hreturned : controller.Returned) :
    controller.IndexesFollow := by
  obtain ⟨hregistry, hids⟩ := h
  obtain ⟨hqueue, hwriting, hcalls⟩ := hreturned
  refine ⟨⟨?_, ?_, ?_, ?_⟩, ⟨?_, ?_, ?_, ?_⟩, ?_, ?_, ?_⟩
  · exact fun kind short device hkey => ⟨((hregistry ..).1 hkey).1, ((hregistry ..).1 hkey).2.1⟩
  · intro device hdevice other hother hne hkind hshort
    have hdevice' := (hregistry _ _ device).2 ⟨hdevice, rfl, rfl⟩
    have hother' := (hregistry _ _ other).2 ⟨hother, hkind, hshort⟩
    exact hne (Option.some.inj (hother'.symm.trans hdevice'))
  · exact fun kind short device hkey => .inl ((hregistry ..).1 hkey).2.2.symm
  · exact fun device hdevice => .inl ((hregistry ..).2 ⟨hdevice, rfl, rfl⟩)
  · intro device hdevice other hother hne hid
    have hdevice' := (hids device hdevice _).1.2 rfl
    have hother' := (hids other hother _).1.2 hid
    exact hne (Option.some.inj (hother'.symm.trans hdevice'))
  · exact fun device hdevice mqttId hkey => .inl ((hids device hdevice mqttId).1.1 hkey).symm
  · exact fun device hdevice => .inl ((hids device hdevice _).1.2 rfl)
  · exact fun device hdevice mqttId hkey => .inl ((hids device hdevice mqttId).2 hkey).symm
  · rw [hqueue]
    exact nofun
  · rw [hwriting]
    exact nofun
  · rw [hcalls]
    exact nofun

/-- With no call under way there is nothing left that the indexes do not show. -/
lemma IndexesFollow.exact (h : controller.IndexesFollow) (hreturned : controller.Returned) :
    controller.IndexesExact := by
  have hnone : ∀ P : Call → Prop, ¬∃ call ∈ controller.calls.values, P call := by
    rintro P ⟨call, hcall, -⟩
    rw [hreturned.2.2] at hcall
    cases hcall
  refine ⟨fun kind short device => ⟨fun hkey => ?_, ?_⟩, fun device hdevice mqttId =>
    ⟨⟨fun hkey => ?_, ?_⟩, fun hkey => ?_⟩⟩
  · obtain ⟨hdevice, hkind⟩ := h.registry.known kind short device hkey
    exact ⟨hdevice, hkind, ((h.registry.stale kind short device hkey).resolve_right (hnone _)).symm⟩
  · rintro ⟨hdevice, rfl, rfl⟩
    exact (h.registry.listed device hdevice).resolve_right (hnone _)
  · exact ((h.mqttIds.stale device hdevice mqttId hkey).resolve_right (hnone _)).symm
  · rintro rfl
    exact (h.mqttIds.listed device hdevice).resolve_right (hnone _)
  · exact ((h.mqttIds.published device hdevice mqttId hkey).resolve_right (hnone _)).symm

end Steps

/-- Once all calls have returned the indexes are exact, in a run whose changes and calls
do not lose sight of each other. -/
theorem indexesExact_of_follows {controller : ApplicationController}
    (h : transition.Reach Follows controller) (hreturned : controller.Returned) :
    controller.IndexesExact := by
  have hfollow : controller.IndexesFollow :=
    Transition.Reach.invariant (T := transition) (I := IndexesFollow)
      (fun _ hinit => hinit.1.follow hinit.2)
      (fun _ _ _ hfollow hok hstep => hfollow.step hok hstep) h
  exact hfollow.exact hreturned

section Decidable

variable (controller : ApplicationController) (device : DeviceRef) (task : ApplySetting)
  (short : ℕ) (mqttId : String)

instance : Decidable (controller.ShortCovered device short) :=
  inferInstanceAs (Decidable (∃ _ ∈ _, _ ∧ _ ∧ _))

instance : Decidable (controller.ShortNoticed device short) :=
  inferInstanceAs (Decidable (∃ _ ∈ _, _ ∧ _ ∧ _))

instance : Decidable (controller.MqttIdCovered device mqttId) :=
  inferInstanceAs (Decidable (∃ _ ∈ _, _ ∧ _ ∧ _))

instance : Decidable (controller.MqttIdNoticed device mqttId) :=
  inferInstanceAs (Decidable (∃ _ ∈ _, _ ∧ (_ ∨ _ ∧ _)))

instance : Decidable (controller.ShortFollowed task short) :=
  inferInstanceAs (Decidable (_ → (∀ _ ∈ _, _ → _ → _) ∧ _ ∧ _))

instance : Decidable (controller.MqttIdFollowed task mqttId) :=
  inferInstanceAs (Decidable (_ → (∀ _ ∈ _, _ → _) ∧ _ ∧ _))

instance (change : CommonChange) : Decidable (controller.ChangeFollowed task change short) :=
  inferInstanceAs (Decidable (_ ∧ _))

instance : DecidablePred controller.PublishFollowed :=
  fun ⟨_, _, _, point⟩ =>
    match point with
    | .removing => inferInstanceAs (Decidable (∀ _ ∈ _, _))
    | .adding _ => inferInstanceAs (Decidable (_ ∧ (_ ∨ _)))
    | .registering _ => inferInstanceAs (Decidable (_ ∉ _))
    | .resolved _ | .settingTitle _ | .refreshing => inferInstanceAs (Decidable True)

instance : DecidablePred controller.Follows := fun event =>
  match event with
  | .applyCommon _ _ => inferInstanceAs (Decidable (∀ _ ∈ _, _ → _))
  | .sequenceReturns _ _ => inferInstanceAs (Decidable (∀ _ ∈ _, _))
  | .resume _ => inferInstanceAs (Decidable (∀ _ ∈ _, _))
  | .applyParameters _ _ | .taskRaises | .sequenceRaises => inferInstanceAs (Decidable True)

instance : Decidable controller.Returned :=
  inferInstanceAs (Decidable (_ ∧ _ ∧ _))

end Decidable

/-- A bus with two published control gear. -/
def twoDevices (first second : Identity) : ApplicationController where
  devices := [0, 1]
  device := fun device => if device = 0 then first else second
  deviceRegistry := fun kind =>
    match kind with
    | .dali => ((∅ : Dict ℕ DeviceRef).set first.short 0).set second.short 1
    | .dali2 => ∅
  devicesByMqttId := ((∅ : Dict String DeviceRef).set first.mqttId 0).set second.mqttId 1
  published := ((∅ : Dict String DeviceRef).set first.mqttId 0).set second.mqttId 1
  controlHandlers := [first.mqttId, second.mqttId]

lemma twoDevices_init {first second : Identity} (hfirst : first.kind = .dali)
    (hsecond : second.kind = .dali) (hshort : first.short ≠ second.short)
    (hmqttId : first.mqttId ≠ second.mqttId) : transition.init (twoDevices first second) := by
  have hset {κ : Type} [DecidableEq κ] {k k' key : κ} {device : DeviceRef} (hne : k ≠ k') :
      (((∅ : Dict κ DeviceRef).set k 0).set k' 1).get? key = some device ↔
        device = 0 ∧ k = key ∨ device = 1 ∧ k' = key := by
    rw [Dict.get?_set, Dict.get?_set, Dict.get?_empty]
    by_cases hk' : key = k'
    · subst hk'
      simp [hne, eq_comm]
    · by_cases hk : key = k
      · subst hk
        simp [hne, Ne.symm hne, eq_comm]
      · simp [hk, hk', Ne.symm hk, Ne.symm hk']
  refine ⟨⟨fun kind short device => ?_, fun device hdevice mqttId => ?_⟩, rfl, rfl, rfl⟩
  · cases kind with
    | dali =>
      show (((∅ : Dict ℕ DeviceRef).set first.short 0).set second.short 1).get? short =
        some device ↔ device ∈ [0, 1] ∧ _
      rw [hset hshort, List.mem_pair]
      constructor
      · rintro (⟨rfl, rfl⟩ | ⟨rfl, rfl⟩)
        · exact ⟨.inl rfl, hfirst, rfl⟩
        · exact ⟨.inr rfl, hsecond, rfl⟩
      · rintro ⟨rfl | rfl, -, rfl⟩
        · exact .inl ⟨rfl, rfl⟩
        · exact .inr ⟨rfl, rfl⟩
    | dali2 =>
      refine ⟨fun h => (by cases h), ?_⟩
      rintro ⟨hdevice, hkind, -⟩
      rcases List.mem_pair.1 hdevice with rfl | rfl
      · cases hfirst.symm.trans hkind
      · cases hsecond.symm.trans hkind
  · have hget : ((twoDevices first second).devicesByMqttId.get? mqttId = some device) ↔
        ((twoDevices first second).device device).mqttId = mqttId := by
      refine (hset hmqttId).trans ?_
      rcases List.mem_pair.1 hdevice with rfl | rfl
      · simp [twoDevices]
      · simp [twoDevices]
    exact ⟨hget, hget.1⟩

/-- A control gear with an automatic name and MQTT id. -/
def gear : Identity where
  kind := .dali
  busId := "gw_bus_1"
  short := 5

/-- A control gear with a name and an MQTT id of its own. -/
def lamp : Identity where
  kind := .dali
  busId := "gw_bus_1"
  short := 6
  customMqttId := some "lamp"
  customName := some "Lamp"

lemma gearAndLamp_init : transition.init (twoDevices gear lamp) :=
  twoDevices_init rfl rfl (by decide) (by decide +kernel)

/-- A request for another short address, with the name and the MQTT id sent back. -/
def readdress (device : DeviceRef) (identity : Identity) (short : ℕ) : Event :=
  .applyParameters device ⟨some short, some identity.name, some identity.mqttId⟩

/-- The next task is applied, and the device reports the new short address. -/
def applied (call short : ℕ) : List Event :=
  [.applyCommon call false, .sequenceReturns call (some short)]

/-- The calls go on by turns. -/
def resumed (calls : List ℕ) : List Event := calls.map .resume

/-- The lamp goes on to a third short address while its first call has not returned yet, and the
gear gets another MQTT id on the way. -/
def overlappingCalls : List Event :=
  List.flatten [[readdress 1 lamp 7], applied 0 7, [readdress 1 lamp 9, readdress 0 gear 8],
    applied 1 9, applied 2 8, resumed [2, 0, 2, 1, 2, 0, 1, 2, 0, 2, 1]]

theorem indexesExact_overlappingCalls :
    ∃ controller : ApplicationController, controller.IndexesExact ∧
      (controller.device 0).mqttId = "gw_bus_1_8" ∧ (controller.device 1).short = 9 := by
  have hrun : (transition.run Follows (twoDevices gear lamp) overlappingCalls).any
      (fun controller => controller.Returned ∧
        (controller.device 0).mqttId = "gw_bus_1_8" ∧ (controller.device 1).short = 9) = true := by
    decide +kernel
  obtain ⟨controller, hcontroller, hany⟩ := (Option.any_eq_true _ _).1 hrun
  obtain ⟨hreturned, hidentity⟩ := of_decide_eq_true hany
  exact ⟨controller, indexesExact_of_follows
    ((Transition.Reach.init gearAndLamp_init).run hcontroller) hreturned, hidentity⟩

/-- Two requests are queued before the first one is applied, so the second call knows the
device at its first address and MQTT id only: the registry keeps the second address, and
the device stays published under the second MQTT id. -/
theorem exists_indexes_stale :
    ∃ controller, transition.Reachable controller ∧ controller.Returned ∧
      ¬controller.IndexesExact := by
  have hrun : (transition.run (fun _ _ => True) (twoDevices gear lamp)
      (List.flatten [[readdress 0 gear 7, readdress 0 gear 9], applied 0 7,
        resumed [0, 0, 0, 0, 0], applied 1 9, resumed [1, 1, 1]])).any
      (fun controller => controller.Returned ∧
        (controller.deviceRegistry .dali).get? 7 = some 0 ∧
        (controller.device 0).short = 9) = true := by decide +kernel
  obtain ⟨controller, hcontroller, hany⟩ := (Option.any_eq_true _ _).1 hrun
  obtain ⟨hreturned, hkey, hshort⟩ := of_decide_eq_true hany
  refine ⟨controller, (Transition.Reach.init gearAndLamp_init).run hcontroller, hreturned,
    fun hexact => ?_⟩
  obtain ⟨-, -, hshort'⟩ := (hexact.1 .dali 7 0).1 hkey
  rw [hshort] at hshort'
  cases hshort'

end ApplicationController

end WbMqttDali.ApplyParameters
