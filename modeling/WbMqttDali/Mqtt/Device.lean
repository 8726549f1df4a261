import WbMqttDali.Lib.Dict
import WbMqttDali.Lib.RetainedStore

/-!
# The topics of an MQTT device

A device publishes its meta topic, and for each control a meta topic, an error topic and a
value topic.  It keeps what it has published of a control, and publishes a value, an error or a
title only where it changes.  `PublishedDevice` says what the topics of a device are to show,
without any such cache.
-/

namespace WbMqttDali.Publishing

open RetainedStore (EmptyPayload retainedOf)
open RetainedStore.Store
  (applyAll_append applyAll_cons applyAll_nil apply_not_retained apply_of_ne apply_self)

abbrev DeviceId := String
abbrev ControlId := String

structure TranslatedTitle where
  en : Option String := none
  ru : Option String := none
  deriving DecidableEq, Repr

/-- `not text`, for a text that may be missing. -/
def isBlank (text : Option String) : Bool := text.getD "" = ""

def TranslatedTitle.isEmpty (title : TranslatedTitle) : Bool :=
  isBlank title.en && isBlank title.ru

/-- `Union[str, TranslatedTitle]` -/
inductive Title
  | text (en : String)
  | translated (title : TranslatedTitle)
  deriving DecidableEq, Repr

def asTranslatedTitle : Title → TranslatedTitle
  | .text en => { en := some en }
  | .translated title => title

structure ControlMeta where
  controlType : String := "value"
  title : Option TranslatedTitle := none
  readOnly : Bool := false
  order : Option ℤ := none
  enum : Option (Dict String (Option TranslatedTitle)) := none
  minimum : Option ℚ := none
  maximum : Option ℚ := none
  units : Option String := none
  deriving DecidableEq

/-- The members of the flag that are set. -/
structure ControlError where
  read : Bool := false
  write : Bool := false
  deriving DecidableEq, Repr

def ControlError.none : ControlError := {}

def ControlError.toMqtt (error : ControlError) : String :=
  (if error.read then "r" else "") ++ (if error.write then "w" else "")

def pushbuttonControlType : String := "pushbutton"

def valueIsRetained (info : ControlMeta) : Bool := info.controlType ≠ pushbuttonControlType

inductive PublishPolicy
  | onChange | always
  deriving DecidableEq, Repr

structure ControlState where
  info : ControlMeta
  value : Option String := none
  error : ControlError := .none
  publishPolicy : PublishPolicy := .onChange
  deriving DecidableEq

def publishesEveryUpdate (control : ControlState) : Bool :=
  control.publishPolicy = .always || !valueIsRetained control.info

/-! ### Payloads and topics -/

/-- The dictionary that `_publish_control_meta` dumps; `none` stands for a missing key. -/
structure MetaDict where
  type : String
  readonly : Bool
  title : Option TranslatedTitle
  order : Option ℤ
  min : Option ℚ
  max : Option ℚ
  units : Option String
  enum : Option (List (String × List (String × String)))
  deriving DecidableEq

inductive Payload
  | text (text : String)
  /-- The JSON text of a device's meta. -/
  | deviceMeta (driver : String) (title : Option TranslatedTitle)
  | controlMeta (dict : MetaDict)
  deriving DecidableEq

instance : EmptyPayload Payload := ⟨.text ""⟩

@[simp] lemma text_eq_empty_iff {text : String} :
    Payload.text text = EmptyPayload.empty ↔ text = "" :=
  ⟨Payload.text.inj, congrArg Payload.text⟩

inductive ControlTopic
  /-- `/devices/{device}/controls/{control}` -/
  | value
  /-- `/devices/{device}/controls/{control}/meta` -/
  | info
  /-- `/devices/{device}/controls/{control}/meta/error` -/
  | error
  deriving DecidableEq, Repr

/-- The topics under `/devices/{device}/`; neither id has a slash in it. -/
inductive Topic
  /-- `/devices/{device}/meta` -/
  | device (device : DeviceId)
  | control (device : DeviceId) (control : ControlId) (topic : ControlTopic)
  deriving DecidableEq, Repr

def Topic.deviceId : Topic → DeviceId
  | .device id => id
  | .control id _ _ => id

/-- A publish of the dispatcher. -/
abbrev Call := RetainedStore.Call Topic Payload

/-- The retained payloads of the broker. -/
abbrev Store := RetainedStore.Store Topic Payload

/-! ### The device -/

structure Device where
  name : DeviceId
  title : Option TranslatedTitle
  controls : Dict ControlId ControlState := ∅
  initialized : Bool := false

def driverName : String := "wb-mqtt-dali"

/-- What a coroutine of the device does: the device after it and its publishes, in order. -/
abbrev Publishes := Device × List Call

/-- One coroutine after the other. -/
def Publishes.andThen (first : Publishes) (second : Device → Publishes) : Publishes :=
  ((second first.1).1, first.2 ++ (second first.1).2)

/-- `for x in xs: await body(x)` -/
def Publishes.forEach {ι : Type} (body : ι → Device → Publishes) : List ι → Publishes → Publishes
  | [], done => done
  | i :: is, done => forEach body is (done.andThen (body i))

/-- The title as a key of a meta dictionary. -/
def titleKey (title : Option TranslatedTitle) : Option TranslatedTitle :=
  title.filter fun title => !title.isEmpty

/-- The translations of an enum value; without any it has its own name. -/
def enumTranslations (key : String) (value : Option TranslatedTitle) : List (String × String) :=
  let translations := (value.map fun value =>
    [("en", value.en), ("ru", value.ru)].filterMap fun e =>
      if isBlank e.2 then none else some (e.1, e.2.getD "")).getD []
  if translations = [] then [("en", key)] else translations

def metaDict (info : ControlMeta) : MetaDict where
  type := info.controlType
  readonly := info.readOnly
  title := titleKey info.title
  order := info.order
  min := info.minimum
  max := info.maximum
  units := info.units
  enum := (info.enum.map fun enum => enum.entries.map fun e =>
    (e.1, enumTranslations e.1 e.2)).filter (· ≠ [])

namespace Device

variable (device : Device)

def setControl (name : ControlId) (control : ControlState) : Device :=
  { device with controls := device.controls.set name control }

/-- The attributes of a control's object are set. -/
def modifyControl (name : ControlId) (f : ControlState → ControlState) : Device :=
  match device.controls.get? name with
  | none => device
  | some control => device.setControl name (f control)

def publishDeviceMeta : Call :=
  ⟨.device device.name, some (.deviceMeta driverName (titleKey device.title)), true⟩

def publishControlMeta (name : ControlId) (info : ControlMeta) : Call :=
  ⟨.control device.name name .info, some (.controlMeta (metaDict info)), true⟩

def publishValue (name : ControlId) (info : ControlMeta) (value : Option String) : Call :=
  ⟨.control device.name name .value, value.map .text, valueIsRetained info⟩

/-- A missing payload clears the error. -/
def publishError (name : ControlId) (error : ControlError) : Call :=
  ⟨.control device.name name .error,
    if error = .none then none else some (.text error.toMqtt), true⟩

/-- `initialize` -/
def initialise : Publishes :=
  if device.initialized then (device, [])
  else ({ device with initialized := true }, [device.publishDeviceMeta])

def setDeviceTitle (title : Option Title) : Publishes :=
  let titleObj := title.map asTranslatedTitle
  if device.title ≠ titleObj then
    let device := { device with title := titleObj }
    (device, [device.publishDeviceMeta])
  else (device, [])

/-- The error is published and kept. -/
def writeError (name : ControlId) (error : ControlError) : Publishes :=
  (device.modifyControl name fun control => { control with error := error },
    [device.publishError name error])

/-- The value is published and kept. -/
def writeValue (name : ControlId) (info : ControlMeta) (value : Option String) : Publishes :=
  (device.modifyControl name fun control => { control with value := value },
    [device.publishValue name info value])

def setControlError (name : ControlId) (error : ControlError) : Publishes :=
  match device.controls.get? name with
  | none => (device, [])
  | some control =>
    if control.error ≠ error then device.writeError name error else (device, [])

def setControlValue (name : ControlId) (value : Option String) : Publishes :=
  match device.controls.get? name with
  | none => (device, [])
  | some control =>
    let published : Publishes :=
      if control.value ≠ value ∨ publishesEveryUpdate control then
        device.writeValue name control.info value
      else (device, [])
    published.andThen fun device =>
      if control.error ≠ .none then device.setControlError name .none else (device, [])

def setControlTitle (name : ControlId) (title : Title) : Publishes :=
  match device.controls.get? name with
  | none => (device, [])
  | some control =>
    let titleObj := some (asTranslatedTitle title)
    if control.info.title ≠ titleObj then
      let info := { control.info with title := titleObj }
      (device.modifyControl name fun control => { control with info := info },
        [device.publishControlMeta name info])
    else (device, [])

/-- `set_control_state`, after the title. -/
def setControlStateTail (name : ControlId) (value : Option String) (error : ControlError) :
    Publishes :=
  match device.controls.get? name with
  | none => (device, [])
  | some control =>
    let publishValue := value ≠ none ∧ (control.value ≠ value ∨ publishesEveryUpdate control)
    let publishError := control.error ≠ error
    let cleared : Publishes :=
      if publishError ∧ error = .none then device.writeError name error else (device, [])
    let valued := cleared.andThen fun device =>
      if publishValue then device.writeValue name control.info value else (device, [])
    valued.andThen fun device =>
      if publishError ∧ error ≠ .none then device.writeError name error else (device, [])

def setControlState (name : ControlId) (value : Option String) (error : ControlError)
    (title : Option Title) : Publishes :=
  let titled : Publishes :=
    match title with
    | none => (device, [])
    | some title => device.setControlTitle name title
  titled.andThen fun device => device.setControlStateTail name value error

def createControl (name : ControlId) (info : ControlMeta) (value : String)
    (publishPolicy : PublishPolicy) : Publishes :=
  let created : Publishes :=
    (device.setControl name { info := info, publishPolicy := publishPolicy },
      [device.publishControlMeta name info])
  if valueIsRetained info then
    created.andThen fun device => device.setControlValue name (some value)
  else created

def removeControl (name : ControlId) : Publishes :=
  match device.controls.get? name with
  | none => (device, [])
  | some control =>
    ({ device with controls := device.controls.erase name },
      (if valueIsRetained control.info then
        [device.publishValue name control.info none] else []) ++
      [device.publishError name .none, ⟨.control device.name name .info, none, true⟩])

def removeDevice : Publishes :=
  (Publishes.forEach (fun name device => device.removeControl name) device.controls.keys
    (device, [])).andThen fun device => (device, [⟨.device device.name, none, true⟩])

end Device

/-! ### What the topics are to show -/

/-- A control with the value and the error that were set last. -/
structure PublishedControl where
  info : ControlMeta
  value : String
  error : ControlError

namespace PublishedControl

variable (control : PublishedControl)

def setValue (value : String) : PublishedControl := { control with value := value, error := .none }

def setError (error : ControlError) : PublishedControl := { control with error := error }

def setTitle (title : Title) : PublishedControl :=
  { control with info := { control.info with title := some (asTranslatedTitle title) } }

def setState (value : Option String) (error : ControlError) (title : Option Title) :
    PublishedControl :=
  let titled := (title.map control.setTitle).getD control
  { titled with value := value.getD control.value, error := error }

def shows : ControlTopic → Option Payload
  | .value =>
    if valueIsRetained control.info ∧ control.value ≠ "" then some (.text control.value) else none
  | .info => some (.controlMeta (metaDict control.info))
  | .error => if control.error = .none then none else some (.text control.error.toMqtt)

end PublishedControl

/-- A device with the title that was set last. -/
structure PublishedDevice where
  title : Option TranslatedTitle
  controls : ControlId → Option PublishedControl
  /-- Its own meta was published. -/
  announced : Bool

namespace PublishedDevice

variable (device : PublishedDevice)

def announce : PublishedDevice := { device with announced := true }

/-- A title that changes is published. -/
def setTitle (title : Option Title) : PublishedDevice :=
  { device with
    title := title.map asTranslatedTitle
    announced := device.announced || device.title ≠ title.map asTranslatedTitle }

def setControl (name : ControlId) (control : Option PublishedControl) : PublishedDevice :=
  { device with controls := Function.update device.controls name control }

def modifyControl (name : ControlId) (f : PublishedControl → PublishedControl) : PublishedDevice :=
  device.setControl name ((device.controls name).map f)

/-- What the topics under the device show. -/
def shows : Topic → Option Payload
  | .device _ =>
    if device.announced then some (.deviceMeta driverName (titleKey device.title)) else none
  | .control _ name topic => (device.controls name).bind (·.shows topic)

end PublishedDevice

lemma toMqtt_ne_empty {error : ControlError} (h : error ≠ .none) : error.toMqtt ≠ "" := by
  obtain ⟨read, write⟩ := error
  cases read <;> cases write <;> first | exact absurd rfl h | decide

/-! ### What the device keeps of its topics -/

/-- The device keeps a control as it was published; it does not know the initial empty value. -/
structure TracksControl (control : ControlState) (published : PublishedControl) : Prop where
  info : control.info = published.info
  error : control.error = published.error
  value : valueIsRetained published.info = true →
    control.value = some published.value ∨ control.value = none ∧ published.value = ""

/-- The device keeps what was published, and its topics show it. -/
structure Represents (device : Device) (published : PublishedDevice) (store : Store) : Prop where
  title : device.title = published.title
  announced : device.initialized = true → published.announced = true
  controls : ∀ name, Option.Rel TracksControl (device.controls.get? name) (published.controls name)
  shown : ∀ topic, topic.deviceId = device.name → store topic = published.shows topic

/-- What a coroutine of the device does to the device and to the topics. -/
structure Does (device : Device) (store : Store) (result : Publishes)
    (published : PublishedDevice) : Prop where
  name : result.1.name = device.name
  initialized : device.initialized = true → result.1.initialized = true
  own : ∀ call ∈ result.2, call.topic.deviceId = device.name
  represents : Represents result.1 published (store.applyAll result.2)

section Does

variable {device : Device} {p p' : PublishedDevice} {store store' : Store} {name : ControlId}
  {control : ControlState} {pc pc' : PublishedControl}

lemma Does.nothing (h : Represents device p store) : Does device store (device, []) p :=
  ⟨rfl, fun hinit => hinit, fun _ hmem => (nomatch hmem), h⟩

lemma Does.andThen {first : Publishes} {second : Device → Publishes}
    (hfirst : Does device store first p)
    (hsecond : Does first.1 (store.applyAll first.2) (second first.1) p') :
    Does device store (first.andThen second) p' where
  name := hsecond.name.trans hfirst.name
  initialized hinit := hsecond.initialized (hfirst.initialized hinit)
  own call hmem := by
    rcases List.mem_append.1 hmem with hmem | hmem
    · exact hfirst.own call hmem
    · exact (hsecond.own call hmem).trans hfirst.name
  represents := by
    unfold Publishes.andThen
    rw [applyAll_append]
    exact hsecond.represents

/-- The invariant rule of a loop, whose invariant may mention what is left to do. -/
lemma Does.forEach {ι : Type} {body : ι → Device → Publishes} {is : List ι} {done : Publishes}
    (I : List ι → PublishedDevice → Prop)
    (hbody : ∀ i is device p store, I (i :: is) p → Represents device p store →
      ∃ p', I is p' ∧ Does device store (body i device) p')
    (hI : I is p) (h : Does device store done p) :
    ∃ p', I [] p' ∧ Does device store (Publishes.forEach body is done) p' := by
  induction is generalizing done p with
  | nil => exact ⟨p, hI, h⟩
  | cons i is ih =>
    obtain ⟨p', hI', hbody'⟩ := hbody i is _ p _ hI h.represents
    exact ih hI' (h.andThen hbody')

/-- A loop goes on from where the coroutine is. -/
lemma Publishes.forEach_eq_andThen {ι : Type} (body : ι → Device → Publishes) (is : List ι)
    (done : Publishes) :
    Publishes.forEach body is done =
      done.andThen fun device => Publishes.forEach body is (device, []) := by
  induction is generalizing done with
  | nil => exact Prod.ext rfl (List.append_nil _).symm
  | cons i is ih =>
    show Publishes.forEach body is (done.andThen (body i)) =
      done.andThen fun device => Publishes.forEach body is (Publishes.andThen (device, []) (body i))
    rw [ih]
    refine Prod.ext ?_ ?_
    · show _ = (Publishes.forEach body is _).1
      rw [ih]
      rfl
    · show _ = done.2 ++ (Publishes.forEach body is _).2
      rw [ih]
      exact List.append_assoc ..

/-! ### A single control -/

lemma PublishedDevice.setControl_same {control : Option PublishedControl}
    (h : p.controls name = control) : p.setControl name control = p := by
  unfold PublishedDevice.setControl
  rw [← h, Function.update_eq_self]

@[simp] lemma PublishedDevice.setControl_setControl {control control' : Option PublishedControl} :
    (p.setControl name control).setControl name control' = p.setControl name control' := by
  unfold PublishedDevice.setControl
  rw [Function.update_idem]

@[simp] lemma PublishedDevice.setControl_controls {control : Option PublishedControl} :
    (p.setControl name control).controls name = control := Function.update_self ..

lemma PublishedDevice.modifyControl_some {f : PublishedControl → PublishedControl}
    (h : p.controls name = some pc) : p.modifyControl name f = p.setControl name (some (f pc)) := by
  rw [modifyControl, h]
  rfl

lemma PublishedDevice.modifyControl_none {f : PublishedControl → PublishedControl}
    (h : p.controls name = none) : p.modifyControl name f = p := by
  rw [modifyControl, h]
  exact setControl_same h

/-- Only the topics of one control change. -/
lemma Represents.setControl {device' : Device} {control? : Option ControlState}
    {pc? : Option PublishedControl} (h : Represents device p store)
    (hdevice : device'.name = device.name ∧ device'.title = device.title ∧
      device'.initialized = device.initialized)
    (hget : ∀ n, device'.controls.get? n =
      if n = name then control? else device.controls.get? n)
    (htracks : Option.Rel TracksControl control? pc?)
    (hshown : ∀ topic, store' (.control device.name name topic) = pc?.bind (·.shows topic))
    (hframe : ∀ topic, (∀ t, topic ≠ .control device.name name t) → store' topic = store topic) :
    Represents device' (p.setControl name pc?) store' where
  title := hdevice.2.1.trans h.title
  announced hinit := h.announced (hdevice.2.2 ▸ hinit)
  controls n := by
    rw [hget]
    by_cases hn : n = name
    · subst hn
      rwa [if_pos rfl, PublishedDevice.setControl_controls]
    · rw [if_neg hn]
      show Option.Rel _ _ (Function.update p.controls name pc? n)
      rw [Function.update_of_ne hn]
      exact h.controls n
  shown topic htopic := by
    rw [hdevice.1] at htopic
    cases topic with
    | device id =>
      have hsame := hframe (.device id) fun _ heq => by cases heq
      exact hsame.trans (h.shown _ htopic)
    | control id n topic =>
      obtain rfl : id = device.name := htopic
      show _ = (Function.update p.controls name pc? n).bind _
      by_cases hn : n = name
      · subst hn
        rw [hshown, Function.update_self]
      · rw [Function.update_of_ne hn, hframe _ fun t heq => by cases heq; exact hn rfl]
        exact h.shown _ rfl

lemma Represents.control_some (h : Represents device p store) (hp : p.controls name = some pc) :
    ∃ control, device.controls.get? name = some control ∧ TracksControl control pc := by
  have hrel := h.controls name
  rw [hp] at hrel
  generalize device.controls.get? name = control? at hrel
  cases hrel with
  | some htracks => exact ⟨_, rfl, htracks⟩

lemma Represents.published_some (h : Represents device p store)
    (hget : device.controls.get? name = some control) :
    ∃ pc, p.controls name = some pc ∧ TracksControl control pc := by
  have hrel := h.controls name
  rw [hget] at hrel
  generalize p.controls name = pc? at hrel
  cases hrel with
  | some htracks => exact ⟨_, rfl, htracks⟩

lemma Represents.published_none (h : Represents device p store)
    (hget : device.controls.get? name = none) : p.controls name = none := by
  have hrel := h.controls name
  rw [hget] at hrel
  generalize p.controls name = pc? at hrel
  cases hrel
  rfl

lemma Device.modifyControl_fields (device : Device) (name : ControlId)
    (f : ControlState → ControlState) :
    (device.modifyControl name f).name = device.name ∧
      (device.modifyControl name f).title = device.title ∧
      (device.modifyControl name f).initialized = device.initialized := by
  unfold Device.modifyControl
  split <;> exact ⟨rfl, rfl, rfl⟩

lemma Device.get?_modifyControl {f : ControlState → ControlState}
    (hget : device.controls.get? name = some control) (n : ControlId) :
    (device.modifyControl name f).controls.get? n =
      if n = name then some (f control) else device.controls.get? n := by
  rw [modifyControl, hget]
  exact Dict.get?_set ..

/-- One topic of a control is published. -/
lemma Represents.publish (h : Represents device p store) (hp : p.controls name = some pc)
    {f : ControlState → ControlState} {topic : ControlTopic} {payload : Option Payload}
    {retain : Bool} (htracks : ∀ control, TracksControl control pc → TracksControl (f control) pc')
    (hshown : if retain then retainedOf payload = pc'.shows topic
      else pc.shows topic = pc'.shows topic)
    (hother : ∀ t, t ≠ topic → pc.shows t = pc'.shows t) :
    Does device store
      (device.modifyControl name f, [⟨.control device.name name topic, payload, retain⟩])
      (p.setControl name (some pc')) := by
  obtain ⟨control, hget, hcontrol⟩ := h.control_some hp
  have hfields := device.modifyControl_fields name f
  refine ⟨hfields.1, fun hinit => hfields.2.2 ▸ hinit, fun call hmem => ?_, ?_⟩
  · cases List.mem_singleton.1 hmem
    rfl
  · refine h.setControl hfields (Device.get?_modifyControl hget) (.some (htracks control hcontrol))
      (fun t => ?_) fun t hne => ?_
    · have hbefore : store (.control device.name name t) = pc.shows t := by
        rw [h.shown _ rfl]
        show (p.controls name).bind _ = _
        rw [hp]
        rfl
      rw [applyAll_cons, applyAll_nil]
      show _ = pc'.shows t
      by_cases ht : t = topic
      · subst ht
        cases retain with
        | true => exact (apply_self rfl).trans hshown
        | false =>
          rw [apply_not_retained rfl, hbefore]
          exact hshown
      · rw [apply_of_ne fun heq => by cases heq; exact ht rfl, hbefore]
        exact hother t ht
    · exact apply_of_ne (hne topic)

lemma Represents.writeError (h : Represents device p store) (hp : p.controls name = some pc)
    (error : ControlError) :
    Does device store (device.writeError name error)
      (p.setControl name (some (pc.setError error))) := by
  refine h.publish hp (fun control hcontrol => ⟨hcontrol.info, rfl, hcontrol.value⟩) ?_
    fun t ht => ?_
  · rw [if_pos rfl]
    show retainedOf (if error = .none then none else some (Payload.text error.toMqtt)) =
      if error = .none then none else some (Payload.text error.toMqtt)
    split
    · rfl
    · next hne => simp [retainedOf, toMqtt_ne_empty hne]
  · cases t with
    | error => exact absurd rfl ht
    | value | info => rfl

lemma Represents.writeValue (h : Represents device p store) (hp : p.controls name = some pc)
    (value : String) :
    Does device store (device.writeValue name pc.info (some value))
      (p.setControl name (some { pc with value := value })) := by
  refine h.publish hp (fun control hcontrol => ⟨hcontrol.info, hcontrol.error, fun _ => .inl rfl⟩)
    ?_ fun t ht => ?_
  · show if valueIsRetained pc.info then retainedOf (some (Payload.text value)) =
        (if valueIsRetained pc.info ∧ value ≠ "" then some (Payload.text value) else none)
      else
        (if valueIsRetained pc.info ∧ pc.value ≠ "" then some (Payload.text pc.value) else none) =
        if valueIsRetained pc.info ∧ value ≠ "" then some (Payload.text value) else none
    cases valueIsRetained pc.info with
    | true => by_cases hempty : value = "" <;> simp [retainedOf, hempty]
    | false => simp
  · cases t with
    | value => exact absurd rfl ht
    | error | info => rfl

/-! ### The coroutines of a device -/

/-- The meta of the device is published. -/
lemma Represents.publishDeviceMeta {device' : Device} (h : Represents device p store)
    (hname : device'.name = device.name) (hcontrols : device'.controls = device.controls)
    (hinit : device.initialized = true → device'.initialized = true) (hp : p'.announced = true)
    (hp' : p'.title = device'.title ∧ p'.controls = p.controls) :
    Does device store (device', [device'.publishDeviceMeta]) p' := by
  refine ⟨hname, hinit, fun call hmem => ?_, hp'.1.symm, fun _ => hp, fun name => ?_,
    fun topic htopic => ?_⟩
  · cases List.mem_singleton.1 hmem
    exact hname
  · rw [hcontrols, hp'.2]
    exact h.controls name
  · cases topic with
    | device id =>
      obtain rfl : id = device'.name := htopic
      show (store.apply device'.publishDeviceMeta) device'.publishDeviceMeta.topic = _
      rw [apply_self rfl, PublishedDevice.shows, if_pos hp, hp'.1]
      rfl
    | control id n t =>
      have hne : Topic.control id n t ≠ device'.publishDeviceMeta.topic := fun heq => nomatch heq
      show store.apply device'.publishDeviceMeta (.control id n t) = (p'.controls n).bind _
      rw [apply_of_ne hne, hp'.2]
      exact h.shown _ (htopic.trans hname)

lemma Represents.initialise (h : Represents device p store) :
    Does device store device.initialise p.announce := by
  unfold Device.initialise
  split
  · next hinit =>
    have hsame : p.announce = p := by
      unfold PublishedDevice.announce
      rw [← h.announced hinit]
    rw [hsame]
    exact .nothing h
  · exact h.publishDeviceMeta rfl rfl (fun _ => rfl) rfl ⟨h.title.symm, rfl⟩

lemma Represents.setDeviceTitle (h : Represents device p store) (title : Option Title) :
    Does device store (device.setDeviceTitle title) (p.setTitle title) := by
  unfold Device.setDeviceTitle
  dsimp only
  split
  · next hne =>
    refine h.publishDeviceMeta rfl rfl (fun hinit => hinit) ?_ ⟨rfl, rfl⟩
    unfold PublishedDevice.setTitle
    simp [← h.title, hne]
  · next heq =>
    have hset : p.setTitle title = p := by
      unfold PublishedDevice.setTitle
      rw [← not_not.1 heq, h.title]
      simp
    rw [hset]
    exact .nothing h

lemma Represents.writeErrorIf (h : Represents device p store) (hp : p.controls name = some pc)
    (error error' : ControlError) {c : Prop} [Decidable c] (hpublished : c → error' = error)
    (hskipped : ¬c → error' = pc.error) :
    Does device store (if c then device.writeError name error else (device, []))
      (p.setControl name (some (pc.setError error'))) := by
  split
  · next hc =>
    rw [hpublished hc]
    exact h.writeError hp error
  · next hc =>
    have hsame : p.setControl name (some (pc.setError pc.error)) = p :=
      PublishedDevice.setControl_same hp
    rw [hskipped hc, hsame]
    exact .nothing h

lemma Represents.writeValueIf (h : Represents device p store) (hp : p.controls name = some pc)
    (value : Option String) (value' : String) {c : Prop} [Decidable c]
    (hpublished : c → value = some value') (hskipped : ¬c → value' = pc.value) :
    Does device store (if c then device.writeValue name pc.info value else (device, []))
      (p.setControl name (some { pc with value := value' })) := by
  split
  · next hc =>
    rw [hpublished hc]
    exact h.writeValue hp value'
  · next hc =>
    have hsame : p.setControl name (some { pc with value := pc.value }) = p :=
      PublishedDevice.setControl_same hp
    rw [hskipped hc, hsame]
    exact .nothing h

lemma Represents.setControlError (h : Represents device p store) (name : ControlId)
    (error : ControlError) : Does device store (device.setControlError name error)
      (p.modifyControl name (·.setError error)) := by
  unfold Device.setControlError
  split
  · next hget =>
    rw [PublishedDevice.modifyControl_none (h.published_none hget)]
    exact .nothing h
  · next control hget =>
    obtain ⟨pc, hp, htracks⟩ := h.published_some hget
    rw [PublishedDevice.modifyControl_some hp]
    split
    · exact h.writeError hp error
    · next heq =>
      have hsame : pc.setError error = pc := by
        rw [← not_not.1 heq, htracks.error]
        rfl
      rw [hsame, PublishedDevice.setControl_same hp]
      exact .nothing h

/-- A value that is not published is the one that the topic has. -/
lemma TracksControl.value_of_skipped (h : TracksControl control pc) {value : String}
    (hskip : ¬(control.value ≠ some value ∨ publishesEveryUpdate control = true)) :
    pc.value = value := by
  rw [not_or, not_not, Bool.not_eq_true] at hskip
  have hretained : valueIsRetained pc.info = true := by
    have hevery := hskip.2
    unfold publishesEveryUpdate at hevery
    simpa [h.info] using (Bool.or_eq_false_iff.1 hevery).2
  rcases h.value hretained with heq | ⟨hnone, -⟩
  · exact Option.some.inj (heq.symm.trans hskip.1)
  · cases hskip.1.symm.trans hnone

lemma Represents.setControlValue (h : Represents device p store) (name : ControlId)
    (value : String) : Does device store (device.setControlValue name (some value))
      (p.modifyControl name (·.setValue value)) := by
  unfold Device.setControlValue
  split
  · next hget =>
    rw [PublishedDevice.modifyControl_none (h.published_none hget)]
    exact .nothing h
  · next control hget =>
    obtain ⟨pc, hp, htracks⟩ := h.published_some hget
    rw [PublishedDevice.modifyControl_some hp]
    -- first the value, published or known to be there
    have hvalued : Does device store
        (if control.value ≠ some value ∨ publishesEveryUpdate control then
          device.writeValue name pc.info (some value) else (device, []))
        (p.setControl name (some { pc with value := value })) :=
      h.writeValueIf hp _ _ (fun _ => rfl) fun hskip => (htracks.value_of_skipped hskip).symm
    rw [htracks.info]
    refine hvalued.andThen ?_
    by_cases herror : control.error = .none
    · have hsame : pc.setValue value = { pc with value := value } := by
        unfold PublishedControl.setValue
        rw [← herror, htracks.error]
      rw [if_neg (not_not.2 herror), hsame]
      exact .nothing hvalued.represents
    · -- then the error is cleared
      have hcleared := hvalued.represents.setControlError name .none
      rw [PublishedDevice.modifyControl_some PublishedDevice.setControl_controls,
        PublishedDevice.setControl_setControl] at hcleared
      rw [if_pos herror]
      exact hcleared

lemma Represents.setControlTitle (h : Represents device p store) (name : ControlId)
    (title : Title) : Does device store (device.setControlTitle name title)
      (p.modifyControl name (·.setTitle title)) := by
  unfold Device.setControlTitle
  split
  · next hget =>
    rw [PublishedDevice.modifyControl_none (h.published_none hget)]
    exact .nothing h
  · next control hget =>
    obtain ⟨pc, hp, htracks⟩ := h.published_some hget
    rw [PublishedDevice.modifyControl_some hp]
    dsimp only
    rw [htracks.info]
    split
    · refine h.publish hp (fun control hcontrol => ⟨rfl, hcontrol.error, hcontrol.value⟩) ?_
        fun t ht => ?_
      · rfl
      · cases t with
        | info => exact absurd rfl ht
        | value | error => rfl
    · next heq =>
      have hsame : pc.setTitle title = pc := by
        unfold PublishedControl.setTitle
        rw [← not_not.1 heq]
      rw [hsame, PublishedDevice.setControl_same hp]
      exact .nothing h

lemma Represents.setControlStateTail (h : Represents device p store) (name : ControlId)
    (value : Option String) (error : ControlError) :
    Does device store (device.setControlStateTail name value error)
      (p.modifyControl name fun pc =>
        { pc with value := value.getD pc.value, error := error }) := by
  unfold Device.setControlStateTail
  split
  · next hget =>
    rw [PublishedDevice.modifyControl_none (h.published_none hget)]
    exact .nothing h
  · next control hget =>
    obtain ⟨pc, hp, htracks⟩ := h.published_some hget
    rw [PublishedDevice.modifyControl_some hp]
    dsimp only
    rw [htracks.error, htracks.info]
    -- the error after the first step
    obtain ⟨cleared, hcleared, hkept⟩ : ∃ cleared : ControlError,
        (pc.error ≠ error ∧ error = .none → cleared = error) ∧
          (¬(pc.error ≠ error ∧ error = .none) → cleared = pc.error) := by
      by_cases hclear : pc.error ≠ error ∧ error = .none
      · exact ⟨error, fun _ => rfl, fun hnot => absurd hclear hnot⟩
      · exact ⟨pc.error, fun hyes => absurd hyes hclear, fun _ => rfl⟩
    have hfirst := h.writeErrorIf hp _ _ hcleared hkept
    have hsecond : Does device store
        (Publishes.andThen
          (if pc.error ≠ error ∧ error = .none then device.writeError name error else (device, []))
          fun device =>
            if value ≠ none ∧ (control.value ≠ value ∨ publishesEveryUpdate control = true) then
              device.writeValue name pc.info value else (device, []))
        (p.setControl name (some { pc with value := value.getD pc.value, error := cleared })) := by
      refine hfirst.andThen ?_
      have hvalue := hfirst.represents.writeValueIf PublishedDevice.setControl_controls value
        (value.getD pc.value)
        (c := value ≠ none ∧ (control.value ≠ value ∨ publishesEveryUpdate control = true))
        (fun hpublish => by
          obtain ⟨value, rfl⟩ := Option.ne_none_iff_exists'.1 hpublish.1
          rfl)
        fun hskip => by
          cases value with
          | none => rfl
          | some value =>
            rw [not_and] at hskip
            exact (htracks.value_of_skipped (hskip (Option.some_ne_none value))).symm
      rw [PublishedDevice.setControl_setControl] at hvalue
      exact hvalue
    refine hsecond.andThen ?_
    have herror := hsecond.represents.writeErrorIf PublishedDevice.setControl_controls error error
      (c := pc.error ≠ error ∧ error ≠ .none) (fun _ => rfl)
      fun hskip => by
        by_cases hclear : pc.error ≠ error ∧ error = .none
        · exact (hcleared hclear).symm
        · rw [hkept hclear]
          by_contra hne
          exact hskip ⟨Ne.symm hne, fun hnone => hclear ⟨Ne.symm hne, hnone⟩⟩
    rw [PublishedDevice.setControl_setControl] at herror
    exact herror

lemma Represents.setControlState (h : Represents device p store) (name : ControlId)
    (value : Option String) (error : ControlError) (title : Option Title) :
    Does device store (device.setControlState name value error title)
      (p.modifyControl name (·.setState value error title)) := by
  unfold Device.setControlState
  dsimp only
  cases title with
  | none => exact (Does.nothing h).andThen (h.setControlStateTail name value error)
  | some title =>
    have htitled := h.setControlTitle name title
    have htail : Does device store
        ((device.setControlTitle name title).andThen fun device =>
          device.setControlStateTail name value error) _ :=
      htitled.andThen (htitled.represents.setControlStateTail name value error)
    cases hp : p.controls name with
    | none =>
      rw [PublishedDevice.modifyControl_none hp] at htail ⊢
      rwa [PublishedDevice.modifyControl_none hp] at htail
    | some pc =>
      rw [PublishedDevice.modifyControl_some hp] at htail ⊢
      rwa [PublishedDevice.modifyControl_some PublishedDevice.setControl_controls,
        PublishedDevice.setControl_setControl] at htail

/-- A control that is not there yet is created. -/
lemma Represents.createControl (h : Represents device p store) (hp : p.controls name = none)
    (info : ControlMeta) (value : String) (publishPolicy : PublishPolicy) :
    Does device store (device.createControl name info value publishPolicy)
      (p.setControl name (some ⟨info, value, .none⟩)) := by
  have hempty (t : ControlTopic) : store (.control device.name name t) = none := by
    rw [h.shown _ rfl]
    show (p.controls name).bind _ = none
    rw [hp]
    rfl
  -- the meta is published, and the value is empty
  have hcreated (value : String) (hvalue : valueIsRetained info = true → value = "") :
      Does device store
        (device.setControl name { info := info, publishPolicy := publishPolicy },
          [device.publishControlMeta name info])
        (p.setControl name (some ⟨info, value, .none⟩)) := by
    refine ⟨rfl, fun hinit => hinit, fun call hmem => ?_, h.setControl ⟨rfl, rfl, rfl⟩
      (fun n => Dict.get?_set ..) (.some ⟨rfl, rfl, fun hretained => .inr ⟨rfl, hvalue hretained⟩⟩)
      (fun t => ?_) fun t hne => ?_⟩
    · cases List.mem_singleton.1 hmem
      rfl
    · have hother (t : ControlTopic) (ht : t ≠ .info) :
          store.apply (device.publishControlMeta name info) (.control device.name name t) = none :=
        (apply_of_ne fun heq => ht (by cases heq; rfl)).trans (hempty t)
      cases t with
      | info => exact @apply_self _ _ _ _ _ store (device.publishControlMeta name info) rfl
      | value =>
        refine (hother .value (by decide)).trans ?_
        show none = if valueIsRetained info ∧ value ≠ "" then some (Payload.text value) else none
        rw [if_neg fun hboth => hboth.2 (hvalue hboth.1)]
      | error => exact hother .error (by decide)
    · exact @apply_of_ne _ _ _ _ _ store (device.publishControlMeta name info) t (hne .info)
  unfold Device.createControl
  split
  · have hfirst := hcreated "" fun _ => rfl
    have hvalued := hfirst.represents.setControlValue name value
    rw [PublishedDevice.modifyControl_some PublishedDevice.setControl_controls,
      PublishedDevice.setControl_setControl] at hvalued
    exact hfirst.andThen hvalued
  · next hnot => exact hcreated value fun hretained => absurd hretained hnot

lemma Represents.removeControl (h : Represents device p store) (name : ControlId) :
    Does device store (device.removeControl name) (p.setControl name none) := by
  unfold Device.removeControl
  split
  · next hget =>
    rw [PublishedDevice.setControl_same (h.published_none hget)]
    exact .nothing h
  · next control hget =>
    obtain ⟨pc, hp, htracks⟩ := h.published_some hget
    rw [htracks.info]
    refine ⟨rfl, fun hinit => hinit, fun call hmem => ?_, h.setControl ⟨rfl, rfl, rfl⟩
      (fun n => Dict.get?_erase ..) .none (fun t => ?_) fun topic hne => ?_⟩
    · rcases List.mem_append.1 hmem with hmem | hmem
      · split at hmem
        · cases List.mem_singleton.1 hmem
          rfl
        · cases hmem
      · rcases List.mem_cons.1 hmem with rfl | hmem
        · rfl
        · cases List.mem_singleton.1 hmem
          rfl
    · rw [applyAll_append]
      set store₁ := store.applyAll
        (if valueIsRetained pc.info then [device.publishValue name pc.info none] else [])
        with hstore₁
      -- the value is cleared, or it was never retained
      have hvalue : store₁ (.control device.name name .value) = none := by
        rw [hstore₁]
        split
        · next hretained =>
          have hself :=
            @apply_self _ _ _ _ _ store (device.publishValue name pc.info none) hretained
          exact hself
        · next hnot =>
          refine (h.shown _ rfl).trans ?_
          show (p.controls name).bind _ = none
          rw [hp]
          show (if valueIsRetained pc.info ∧ pc.value ≠ "" then some (Payload.text pc.value)
            else none) = none
          rw [if_neg fun hboth => hnot hboth.1]
      show ((store₁.apply (device.publishError name .none)).apply
        ⟨.control device.name name .info, none, true⟩) _ = none
      cases t with
      | info => exact apply_self rfl
      | value =>
        rw [apply_of_ne (by simp), apply_of_ne (by simp [Device.publishError])]
        exact hvalue
      | error =>
        rw [apply_of_ne (by simp)]
        exact @apply_self _ _ _ _ _ store₁ (device.publishError name .none) rfl
    · rw [applyAll_append]
      show ((RetainedStore.Store.apply _ (device.publishError name .none)).apply
        ⟨.control device.name name .info, none, true⟩) topic = _
      rw [apply_of_ne (hne .info), apply_of_ne (hne .error)]
      split
      · exact @apply_of_ne _ _ _ _ _ store (device.publishValue name pc.info none) topic
          (hne .value)
      · rfl

/-- A device that is removed leaves nothing on its topics. -/
lemma Represents.removeDevice (h : Represents device p store) :
    device.removeDevice.1.name = device.name ∧
      (device.initialized = true → device.removeDevice.1.initialized = true) ∧
      (∀ call ∈ device.removeDevice.2, call.topic.deviceId = device.name) ∧
      ∀ topic, topic.deviceId = device.name →
        store.applyAll device.removeDevice.2 topic = none := by
  -- the controls go one after the other
  obtain ⟨p', hnone, hdone⟩ : ∃ p', (∀ name, p'.controls name ≠ none → name ∈ []) ∧
      Does device store (Publishes.forEach (fun name device => device.removeControl name)
        device.controls.keys (device, [])) p' := Does.forEach
    (fun names p => ∀ name, p.controls name ≠ none → name ∈ names)
    (fun name names device p store hleft hrep => by
      refine ⟨p.setControl name none, fun n hn => ?_, hrep.removeControl name⟩
      have hne : n ≠ name := by
        rintro rfl
        exact hn PublishedDevice.setControl_controls
      rw [PublishedDevice.setControl] at hn
      dsimp only at hn
      rw [Function.update_of_ne hne] at hn
      exact (List.mem_cons.1 (hleft n hn)).resolve_left hne)
    (fun name hname => by
      obtain ⟨pc, hp⟩ := Option.ne_none_iff_exists'.1 hname
      obtain ⟨control, hget, -⟩ := h.control_some hp
      exact Dict.mem_keys_iff.2 ⟨control, hget⟩) (.nothing h)
  unfold Device.removeDevice Publishes.andThen
  dsimp only
  set removed := Publishes.forEach (fun name device => device.removeControl name)
    device.controls.keys (device, [])
  refine ⟨hdone.name, hdone.initialized, fun call hmem => ?_, fun topic htopic => ?_⟩
  · rcases List.mem_append.1 hmem with hmem | hmem
    · exact hdone.own call hmem
    · cases List.mem_singleton.1 hmem
      exact hdone.name
  · rw [applyAll_append]
    show (RetainedStore.Store.apply _ ⟨.device removed.1.name, none, true⟩) topic = none
    cases topic with
    | device id =>
      obtain rfl : id = removed.1.name := htopic.trans hdone.name.symm
      exact apply_self rfl
    | control id n t =>
      rw [apply_of_ne (by simp), hdone.represents.shown _ (htopic.trans hdone.name.symm)]
      show (p'.controls n).bind _ = none
      cases hcontrol : p'.controls n with
      | none => rfl
      | some pc => cases hnone n (hcontrol ▸ Option.some_ne_none pc)

/-- A device that was just built has nothing on its topics. -/
lemma Represents.new {title : Option TranslatedTitle} {id : DeviceId}
    (h : ∀ topic, topic.deviceId = id → store topic = none) :
    Represents { name := id, title := title } ⟨title, fun _ => none, false⟩ store where
  title := rfl
  announced hinit := nomatch hinit
  controls _ := .none
  shown topic htopic := by
    rw [h topic htopic]
    cases topic <;> rfl

/-- What is shown and tracked depends on the topics of the device only. -/
lemma Represents.congr (h : Represents device p store)
    (hsame : ∀ topic, topic.deviceId = device.name → store' topic = store topic) :
    Represents device p store' where
  title := h.title
  announced := h.announced
  controls := h.controls
  shown topic htopic := (hsame topic htopic).trans (h.shown topic htopic)

end Does

end WbMqttDali.Publishing
