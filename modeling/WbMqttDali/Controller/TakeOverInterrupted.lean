import Mathlib
import WbMqttDali.Controller.TakeOver

/-!
# Interruptions of the take-over

At each await of `_read_devices_info` the views are those of a completed part of the work,
but for the ids that are removed already or the devices that are in the index already.
-/

namespace WbMqttDali.TakeOver

open WbMqttDali.Device

namespace State

variable {views : Views} {results : DeviceKind → CommissioningResult} {state state' : State}
  {event : Event}

/-- The views when the devices of a kind begin to be taken over. -/
def start (views : Views) (results : DeviceKind → CommissioningResult) : DeviceKind → Views
  | .dali => views
  | .dali2 => views.takenOver .dali (results .dali)

/-- The views while removals are under way. -/
def withoutIds (views : Views) (gone : List String) : Views :=
  { views with published := fun id => views.published id && id ∉ gone }

lemma unpublish_withoutIds {gone : List String} {id : String} :
    (withoutIds views gone).unpublish id = withoutIds views (id :: gone) := by
  have hpublished : Function.update (withoutIds views gone).published id false =
      (withoutIds views (id :: gone)).published := by
    ext other : 1
    by_cases heq : other = id
    · simp [withoutIds, heq]
    · simp [withoutIds, heq]
  rw [Views.unpublish, hpublished]
  rfl

/-- The views while created devices are initialised: the index has those up to the present one,
and all but this one are published. -/
structure Initializing (base views : Views) (kind : DeviceKind) (result : CommissioningResult)
    (indexed published : List Device) (except : String → Prop) : Prop where
  eq : views = { (base.popIds (base.removedIds kind result)).index indexed with
    published := views.published }
  published : ∀ id, ¬except id → views.published id =
    (published.any (·.mqttId = id) || base.published id && id ∉ base.removedIds kind result)

/-- What the views are at each await. -/
def Inv (initial : Views) (results : DeviceKind → CommissioningResult) (state : State) : Prop :=
  match state.point with
  | .resolvingNames kind => state.views = start initial results kind
  | .rebuilding kind left => ∃ gone,
    (left ++ gone).Perm ((start initial results kind).removedIds kind (results kind)) ∧
      left.Sublist ((start initial results kind).removedIds kind (results kind)) ∧
      state.views = withoutIds (start initial results kind) gone
  | .initializing kind device rest => ∃ initialized,
    (start initial results kind).createdDevices kind (results kind) =
        initialized ++ device :: rest ∧
      Initializing (start initial results kind) state.views kind (results kind)
        (initialized ++ [device]) initialized (· = device.mqttId)
  | .refreshing => state.views = initial.takenOver .dali (results .dali)
  | .done => True

lemma Initializing.update {base views : Views} {kind : DeviceKind} {result : CommissioningResult}
    {indexed initialized : List Device} {device : Device} {isPublished : Bool}
    (h : Initializing base views kind result indexed initialized (· = device.mqttId)) :
    Initializing base
      { views with published := Function.update views.published device.mqttId isPublished } kind
      result indexed initialized (· = device.mqttId) where
  eq := by
    conv_lhs => rw [h.eq]
  published id hid := (Function.update_of_ne hid _ _).trans (h.published id hid)

/-- The device is published when it is initialised. -/
lemma Initializing.initialized {base views : Views} {kind : DeviceKind}
    {result : CommissioningResult} {indexed initialized : List Device} {device : Device}
    (h : Initializing base views kind result indexed initialized (· = device.mqttId))
    (hpublished : views.published device.mqttId = true) :
    Initializing base views kind result indexed (initialized ++ [device]) fun _ => False where
  eq := h.eq
  published id _ := by
    by_cases heq : id = device.mqttId
    · rw [heq, hpublished]
      simp
    · rw [h.published id heq]
      simp [Ne.symm heq]

lemma index_append {base views : Views} {kind : DeviceKind} {result : CommissioningResult}
    {indexed : List Device} {device : Device} {except : String → Prop}
    (h : Initializing base views kind result indexed indexed except)
    (hexcept : ∀ id, except id → id = device.mqttId) :
    Initializing base (views.index [device]) kind result (indexed ++ [device]) indexed
      (· = device.mqttId) where
  eq := by
    rw [h.eq]
    simp only [Views.index, assign_append]
  published id hid := h.published id (mt (hexcept id) hid)

/-- The next created device, or the end. -/
lemma inv_nextDevice {kind : DeviceKind} {current : Views} (indexed : List Device)
    {rest : List Device}
    (hcreated : (start views results kind).createdDevices kind (results kind) = indexed ++ rest)
    (h : Initializing (start views results kind) current kind (results kind) indexed indexed
      fun _ => False) :
    Inv views results (nextDevice results current kind rest) := by
  cases rest with
  | cons device rest => exact ⟨indexed, hcreated, index_append h nofun⟩
  | nil =>
    cases kind with
    | dali =>
      rw [List.append_nil] at hcreated
      subst hcreated
      show current.replace .dali (results .dali) = views.takenOver .dali (results .dali)
      have hpublished : current.published = (views.takenOver .dali (results .dali)).published :=
        funext fun id => h.published id not_false
      rw [h.eq, hpublished]
      rfl
    | dali2 => trivial

lemma Inv.step (h : Inv views results state) (hstep : step results state event = some state') :
    Inv views results state' := by
  obtain ⟨current, point⟩ := state
  cases point with
  | resolvingNames kind =>
    cases event <;> simp only [State.step, reduceCtorEq] at hstep
    obtain rfl := Option.some.inj hstep
    obtain rfl : current = start views results kind := h
    refine ⟨[], by simp, List.Sublist.refl _, ?_⟩
    simp [withoutIds]
  | rebuilding kind left =>
    obtain ⟨gone, hperm, hsub, hviews⟩ := h
    obtain rfl : current = withoutIds (start views results kind) gone := hviews
    cases event with
    | removed id =>
      simp only [State.step] at hstep
      split at hstep
      case isTrue hid =>
        obtain rfl := Option.some.inj hstep
        refine ⟨id :: gone, ?_, List.erase_sublist.trans hsub, ?_⟩
        · refine List.Perm.trans ?_ hperm
          exact List.perm_middle.trans ((List.perm_cons_erase hid).symm.append_right gone)
        · exact unpublish_withoutIds
      case isFalse => cases hstep
    | rebuilt =>
      cases left with
      | cons id left => simp [State.step] at hstep
      | nil =>
        obtain rfl := Option.some.inj hstep
        refine inv_nextDevice [] rfl ⟨rfl, fun id _ => ?_⟩
        -- all removed ids are gone
        have hmem : id ∈ gone ↔ id ∈ (start views results kind).removedIds kind (results kind) :=
          hperm.mem_iff
        show ((start views results kind).published id && decide (id ∉ gone)) = _
        simp [hmem]
    | namesResolved | unpublished | published | initialized | refreshed =>
      cases left <;> simp [State.step] at hstep
  | initializing kind device rest =>
    obtain ⟨initialized, hcreated, hviews⟩ := h
    cases event with
    | unpublished | published =>
      obtain rfl := Option.some.inj hstep
      exact ⟨initialized, hcreated, hviews.update⟩
    | initialized =>
      simp only [State.step] at hstep
      split at hstep
      case isTrue hpublished =>
        obtain rfl := Option.some.inj hstep
        refine inv_nextDevice (initialized ++ [device]) ?_ (hviews.initialized hpublished)
        rw [hcreated, List.append_assoc]
        rfl
      case isFalse => cases hstep
    | namesResolved | removed id | rebuilt | refreshed => simp [State.step] at hstep
  | refreshing =>
    cases event <;> simp only [State.step, reduceCtorEq] at hstep
    obtain rfl := Option.some.inj hstep
    exact h
  | done => cases event <;> simp [State.step] at hstep

/-! ### Where an interruption does no harm -/

/-- While removals are under way the views agree as long as none is done. -/
lemma agree_withoutIds {gone : List String} {kind : DeviceKind} {result : CommissioningResult}
    (hgone : ∀ id ∈ gone, id ∈ views.removedIds kind result) :
    (withoutIds views gone).Agree ↔ views.Agree ∧ gone = [] := by
  constructor
  · intro h
    have hnil : gone = [] := by
      refine List.eq_nil_iff_forall_not_mem.2 fun id hid => ?_
      -- the device of a removed id is still in its list
      obtain ⟨device, hremoved, rfl⟩ := List.mem_map.1 (hgone id hid)
      have hall : device ∈ (withoutIds views gone).all :=
        Views.mem_all.2 ⟨kind, (List.mem_filter.1 hremoved).1⟩
      have := (h.published device.mqttId).2 ⟨device, hall, rfl⟩
      simp [withoutIds, hid] at this
    subst hnil
    refine ⟨?_, rfl⟩
    simpa [withoutIds] using h
  · rintro ⟨h, rfl⟩
    simpa [withoutIds] using h

/-- While a created device is initialised the index has it and no list does. -/
lemma not_agree_of_initializing {base : Views} {kind : DeviceKind} {result : CommissioningResult}
    {initialized rest : List Device} {device : Device} {except : String → Prop}
    (hcreated : base.createdDevices kind result = initialized ++ device :: rest)
    (h : Initializing base views kind result (initialized ++ [device]) initialized except) :
    ¬views.Agree := by
  intro hagree
  have hmem : device ∈ base.createdDevices kind result := by
    rw [hcreated]
    exact List.mem_append_right _ List.mem_cons_self
  refine Views.not_mem_all_of_created hmem ?_
  have hindex : views.devicesByMqttId device.mqttId = some device := by
    rw [h.eq]
    show assign _ _ (initialized ++ [device]) device.mqttId = some device
    rw [assign_append]
    exact Function.update_self _ _ _
  have hall := ((hagree.index _ _).1 hindex).1
  rw [h.eq] at hall
  exact hall

lemma inv_of_reachable (h : (transition results views).Reachable state) :
    Inv views results state :=
  Transition.Reach.invariant (I := Inv views results) (fun _ hinit => by subst hinit; rfl)
    (fun _ _ _ hinv _ hstep => hinv.step hstep) h

/-- An interruption at an await of `_read_devices_info` leaves views that agree exactly if it is
one that does no harm: before a device is removed or created, or between the control gear and
the DALI-2 devices if the control gear could be taken over. -/
theorem agree_iff_harmless (hagree : views.Agree)
    (h : (transition results views).Reachable state) (hpoint : state.point ≠ .done) :
    state.views.Agree ↔ views.Harmless results state.point := by
  obtain ⟨current, point⟩ := state
  have hinv := inv_of_reachable h
  have hstart : (start views results .dali2).Agree ↔ views.CanTakeOver .dali (results .dali) :=
    hagree.takenOver_iff
  cases point with
  | resolvingNames kind =>
    obtain rfl : current = start views results kind := hinv
    cases kind with
    | dali => exact iff_of_true hagree trivial
    | dali2 => exact hstart
  | rebuilding kind left =>
    obtain ⟨gone, hperm, hsub, hviews⟩ := hinv
    obtain rfl : current = withoutIds (start views results kind) gone := hviews
    have hnil : gone = [] ↔ left = (start views results kind).removedIds kind (results kind) := by
      have hlength := hperm.length_eq
      rw [List.length_append] at hlength
      constructor
      · rintro rfl
        exact hsub.eq_of_length (by simpa using hlength)
      · rintro rfl
        exact List.length_eq_zero_iff.1 (by omega)
    rw [agree_withoutIds fun id hid => hperm.mem_iff.1 (List.mem_append_right _ hid), hnil]
    cases kind with
    | dali => exact and_iff_right hagree
    | dali2 => exact and_congr_left fun _ => hstart
  | initializing kind device rest =>
    obtain ⟨initialized, hcreated, hviews⟩ := hinv
    exact iff_of_false (not_agree_of_initializing hcreated hviews) not_false
  | refreshing =>
    obtain rfl : current = views.takenOver .dali (results .dali) := hinv
    exact hagree.takenOver_iff
  | done => exact absurd rfl hpoint

/-! ### Runs on a bus with one gear -/

def gear (short : ℕ) : Device where
  ref := 0
  identity := { kind := .dali, busId := "gw_bus_1", short }
  random := 17

/-- The views of a bus with one gear. -/
def oneGear : Views where
  busUid := "gw_bus_1"
  devices kind := if kind = .dali then [gear 0] else []
  registry kind short := if kind = .dali ∧ short = 0 then some (gear 0) else none
  devicesByMqttId id := if id = (gear 0).mqttId then some (gear 0) else none
  published id := id = (gear 0).mqttId
  nextRef := 1
  fresh kind := by cases kind <;> decide
  kinds kind := by cases kind <;> decide

lemma agree_oneGear : oneGear.Agree where
  index id device := by
    show (if id = (gear 0).mqttId then some (gear 0) else none) = some device ↔
      device ∈ [gear 0] ∧ device.mqttId = id
    rw [List.mem_singleton]
    constructor
    · intro h
      split at h
      case isTrue heq => exact ⟨(Option.some.inj h).symm, by rw [heq, ← Option.some.inj h]⟩
      case isFalse => cases h
    · rintro ⟨rfl, rfl⟩
      rw [if_pos rfl]
  published id := by
    show decide (id = (gear 0).mqttId) = true ↔ ∃ device ∈ [gear 0], device.mqttId = id
    simp [eq_comm]
  registry kind short device := by
    show (if kind = .dali ∧ short = 0 then some (gear 0) else none) = some device ↔
      device ∈ (if kind = .dali then [gear 0] else []) ∧ device.short = short
    cases kind with
    | dali =>
      simp only [true_and, if_true, List.mem_singleton]
      constructor
      · intro h
        split at h
        case isTrue heq =>
          obtain rfl := Option.some.inj h
          exact ⟨rfl, heq.symm⟩
        case isFalse => cases h
      · rintro ⟨rfl, rfl⟩
        rfl
    | dali2 => simp

/-- The gear is gone, and there is a new one. -/
def replaced : DeviceKind → CommissioningResult
  | .dali => { missing := [⟨0, 17⟩], new := [⟨1, 42⟩] }
  | .dali2 => {}

instance (views : Views) (kind : DeviceKind) (result : CommissioningResult) :
    Decidable (views.CanTakeOver kind result) :=
  decidable_of_iff
    ((∀ device ∈ views.unchangedDevices kind result, device ∉ views.removedDevices kind result) ∧
      (∀ device ∈ views.devices kind, device ∉ views.unchangedDevices kind result →
        device ∉ views.removedDevices kind result →
        ∃ created ∈ views.createdDevices kind result, created.mqttId = device.mqttId) ∧
      (∀ created ∈ views.createdDevices kind result,
        ∀ other ∈ views.createdDevices kind result, created.mqttId = other.mqttId →
        created = other) ∧
      (∀ created ∈ views.createdDevices kind result, ∀ device ∈ views.all,
        (device ∈ views.devices kind → device ∈ views.unchangedDevices kind result) →
        created.mqttId ≠ device.mqttId) ∧
      ∀ device ∈ views.unchangedDevices kind result ++ views.createdDevices kind result,
        ∀ other ∈ views.unchangedDevices kind result ++ views.createdDevices kind result,
        device.short = other.short → device = other)
    ⟨fun h => ⟨h.1, h.2.1, h.2.2.1, h.2.2.2.1, h.2.2.2.2⟩, fun h => ⟨h.1, h.2, h.3, h.4, h.5⟩⟩

theorem agree_replaced :
    ∃ state, (transition replaced oneGear).Reachable state ∧ state.point = .refreshing ∧
      state.views.Agree := by
  have hrun : ((transition replaced oneGear).run (fun _ _ => True) { views := oneGear }
      [.namesResolved, .removed "gw_bus_1_0", .rebuilt, .published, .initialized]).any
      (fun state => state.point = .refreshing) = true := by decide +kernel
  obtain ⟨state, hstate, hany⟩ := (Option.any_eq_true _ _).1 hrun
  have hpoint : state.point = .refreshing := of_decide_eq_true hany
  have hreach := (Transition.Reach.init (T := transition replaced oneGear) rfl).run hstate
  refine ⟨state, hreach, hpoint, (agree_iff_harmless agree_oneGear hreach ?_).2 ?_⟩
  · rw [hpoint]
    decide
  · rw [hpoint]
    show oneGear.CanTakeOver .dali (replaced .dali)
    decide +kernel

/-- A cancellation after the gear that is gone was removed from the publisher: it stays in the
list, and nobody publishes it any more. -/
theorem exists_not_agree :
    ∃ views results state, Views.Agree views ∧ (transition results views).Reachable state ∧
      state.point ≠ .done ∧ ¬state.views.Agree := by
  have hrun : ((transition replaced oneGear).run (fun _ _ => True) { views := oneGear }
      [.namesResolved, .removed "gw_bus_1_0"]).any
      (fun state => state.point ≠ .done ∧ gear 0 ∈ state.views.all ∧
        state.views.published (gear 0).mqttId = false) = true := by decide +kernel
  obtain ⟨state, hstate, hany⟩ := (Option.any_eq_true _ _).1 hrun
  obtain ⟨hpoint, hall, hpublished⟩ := of_decide_eq_true hany
  refine ⟨oneGear, replaced, state, agree_oneGear,
    (Transition.Reach.init (T := transition replaced oneGear) rfl).run hstate, hpoint, fun h => ?_⟩
  rw [(h.published _).2 ⟨gear 0, hall, rfl⟩] at hpublished
  cases hpublished

end State

end WbMqttDali.TakeOver
