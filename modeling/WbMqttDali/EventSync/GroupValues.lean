import WbMqttDali.EventSync.MemberControls
import WbMqttDali.EventSync.StateSource
import WbMqttDali.Lib.Transition

/-!
# A value and its setpoints on a group card

A group shows for each state control what the member that leads it has answered.  In the
events of its members and the changes of its candidates, the setpoints of a state control and
the group's on_off follow the same member.  The on_off does not: it refuses a predicted level
while it shows an error, although the group takes the level.
-/

namespace WbMqttDali.EventSync

/-! ### What a member answers -/

/-- The control of a member in its new state, when it answers an event. -/
def answered (member : Controls) (event : BusEvent) (id : ControlId) : Option Control :=
  (member.get? id).bind fun control =>
    if (control.notify event).2 = .publishState then some (control.notify event).1 else none

/-- The value that a member answers with. -/
def answer (member : Controls) (event : BusEvent) (id : ControlId) : Option String :=
  (answered member event id).bind fun control => control.state.value

lemma answered_eq_some_iff {member : Controls} {event : BusEvent} {id : ControlId}
    {control' : Control} : answered member event id = some control' ↔
      ∃ control, member.get? id = some control ∧ (control.notify event).2 = .publishState ∧
        (control.notify event).1 = control' := by
  simp only [answered, Option.bind_eq_some_iff, Option.ite_none_right_eq_some, Option.some.injEq]

/-- The controls are those of a member after it has handled an event. -/
def Notified (member : Controls) (event : BusEvent) (controls : Controls) : Prop :=
  ∀ id, controls.get? id = (member.get? id).map fun control => (control.notify event).1

section Ask

variable {member controls : Controls} {event : BusEvent} {id : ControlId}

/-- The group is answered as the member was, and its question changes nothing. -/
lemma Notified.askMember (h : Notified member event controls) (hbuilt : member.WellBuilt)
    (hevent : event.NamesColours) (hid : id ∈ askedIds) :
    (GroupVirtualDevice.askMember controls event id).2 = answered member event id ∧
      Notified member event (GroupVirtualDevice.askMember controls event id).1 := by
  unfold GroupVirtualDevice.askMember answered
  rw [h id]
  cases hget : member.get? id with
  | none => exact ⟨rfl, h⟩
  | some control =>
    have htwice := Control.notify_twice (hbuilt.asked id hid control hget) hevent
    rw [Option.map_some]
    dsimp only
    rw [htwice]
    refine ⟨rfl, fun id' => ?_⟩
    rw [Controls.get?_put, h id]
    split
    · next heq =>
      rw [heq, hget]
      rfl
    · exact h id'

end Ask

/-! ### What an answer does to the pin -/

namespace GroupStateSource

variable {source : GroupStateSource} {uid other : Uid} {id id' : ControlId} {success : Bool}

lemma get?_recordAnswer_of_ne (h : id' ≠ id) :
    (source.recordAnswer uid id success).1.get? id' = source.get? id' := by
  cases hbook : source.get? id with
  | none => simp [recordAnswer, hbook]
  | some book =>
    rw [recordAnswer_eq hbook]
    split
    · exact Dict.get?_set_of_ne _ _ h
    · rfl

lemma pinnedSource_of_take (h : (source.recordAnswer uid id success).2 = .take) :
    success = true ∧ (source.recordAnswer uid id success).1.pinnedSource id = some uid := by
  cases hbook : source.get? id with
  | none => simp [recordAnswer, hbook] at h
  | some book =>
    rw [recordAnswer_eq hbook] at h ⊢
    split at h
    case isFalse => cases h
    case isTrue hkey =>
      rw [if_pos hkey, pinnedSource, Dict.get?_set_self]
      rcases PerControlState.record_cases book uid success with
        ⟨-, -, -, -, -, hhold⟩ | ⟨hsuccess, hpinned, -, -⟩ |
        ⟨-, -, ⟨-, -, -, hshow⟩ | ⟨-, -, hhold⟩⟩
      · cases hhold.symm.trans h
      · exact ⟨hsuccess, hpinned⟩
      · cases hshow.symm.trans h
      · cases hhold.symm.trans h

lemma pinnedSource_of_not_take (h : (source.recordAnswer uid id success).2 ≠ .take)
    (hpinned : (source.recordAnswer uid id success).1.pinnedSource id = some other) :
    source.pinnedSource id = some other := by
  cases hbook : source.get? id with
  | none => simpa [recordAnswer, hbook] using hpinned
  | some book =>
    rw [recordAnswer_eq hbook] at h hpinned
    split at hpinned
    case isFalse => exact hpinned
    case isTrue hkey =>
      rw [if_pos hkey] at h
      rw [pinnedSource, Dict.get?_set_self] at hpinned
      rw [pinnedSource, hbook]
      rcases PerControlState.record_cases book uid success with
        ⟨lead, -, hlead, hlead', -, -⟩ | ⟨-, -, -, htake⟩ | ⟨-, hnone, -⟩
      · exact hlead.trans (hlead'.symm.trans hpinned)
      · exact absurd htake h
      · cases hnone.symm.trans hpinned

lemma success_of_showError {source' : GroupStateSource}
    (h : source.recordAnswer uid id success = (source', .showError)) : success = false := by
  cases hbook : source.get? id with
  | none => simp [recordAnswer, hbook] at h
  | some book =>
    rw [recordAnswer_eq hbook] at h
    split at h
    case isFalse => cases h
    case isTrue hkey =>
      have hshow := (Prod.mk.inj h).2
      rcases PerControlState.record_cases book uid success with
        ⟨-, -, -, -, -, hhold⟩ | ⟨-, -, -, htake⟩ | ⟨hfailed, -⟩
      · cases hhold.symm.trans hshow
      · cases htake.symm.trans hshow
      · exact hfailed

/-- A candidate whose answer is taken leads the control, or nothing does. -/
lemma candidate_of_take (h : (source.recordAnswer uid id success).2 = .take) :
    ∃ book, source.get? id = some book ∧ uid ∈ book.candidateStatuses.keys ∧
      (book.pinnedSource = none ∨ book.pinnedSource = some uid) := by
  cases hbook : source.get? id with
  | none => simp [recordAnswer, hbook] at h
  | some book =>
    rw [recordAnswer_eq hbook] at h
    split at h
    case isFalse => cases h
    case isTrue hkey =>
      refine ⟨book, rfl, hkey, ?_⟩
      by_contra hother
      rw [not_or] at hother
      have hhold : (book.record uid success).2 = .hold := by
        rw [PerControlState.record, if_pos hother]
      cases hhold.symm.trans h

end GroupStateSource

/-! ### The pass over the state controls -/

namespace GroupVirtualDevice

variable (group : GroupVirtualDevice)

/-- The value that a control of the group shows. -/
def shown (id : ControlId) : Option (Option String) :=
  (group.controls.get? id).map fun control => control.state.value

/-- The group takes the answer for its state control `id`. -/
def takes (uid : Uid) (member : Controls) (event : BusEvent) (id : ControlId) : Bool :=
  (group.controls.get? id).isSome && (answered member event id).any fun control =>
    (group.stateSource.recordAnswer uid id (control.state.error = .none)).2 = .take

/-- An on_off control that is handed a level event. -/
def followLevel (event : BusEvent) (control : Control) : Control :=
  match control.cls with
  | .onOff => (onOffNotify control.state event).1
  | _ => control

/-- The group's on_off holds another state with the same value, or is missing in both. -/
def KeepsOnOff (group group' : GroupVirtualDevice) : Prop :=
  ∀ state, group'.controls.get? ControlId.onOff = some ⟨.onOff, state⟩ →
    ∃ state', group.controls.get? ControlId.onOff = some ⟨.onOff, state'⟩ ∧
      state'.value = state.value

/-- What the pass over the state controls `ids` does to a group. -/
structure StatesTaken (uid : Uid) (member : Controls) (event : BusEvent) (ids : List ControlId)
    (group group' : GroupVirtualDevice) : Prop where
  source_other : ∀ id ∉ ids, group'.stateSource.get? id = group.stateSource.get? id
  controls_other : ∀ id ∉ ids, id ≠ ControlId.onOff →
    group'.controls.get? id = group.controls.get? id
  shown : ∀ id ∈ ids, group'.shown id = (group.shown id).map fun value =>
    if group.takes uid member event id then answer member event id else value
  pinned : ∀ id ∈ ids, group.takes uid member event id →
    group'.stateSource.pinnedSource id = some uid
  kept : ∀ id ∈ ids, group.takes uid member event id = false → ∀ other,
    group'.stateSource.pinnedSource id = some other →
      group.stateSource.pinnedSource id = some other
  onOff_other : ControlId.actualLevel ∉ ids →
    group'.controls.get? ControlId.onOff = group.controls.get? ControlId.onOff
  onOff : ControlId.actualLevel ∈ ids → group.takes uid member event ControlId.actualLevel →
    group'.controls.get? ControlId.onOff =
      (group.controls.get? ControlId.onOff).map (followLevel event)
  onOff_kept : ControlId.actualLevel ∈ ids →
    group.takes uid member event ControlId.actualLevel = false →
    group.KeepsOnOff group'

variable {group} {group' group'' : GroupVirtualDevice} {uid : Uid} {member controls : Controls}
  {event : BusEvent} {id : ControlId} {ids ids' : List ControlId}

lemma get?_takeOnOff : (group.takeOnOff event).controls.get? ControlId.onOff =
    (group.controls.get? ControlId.onOff).map (followLevel event) := by
  unfold takeOnOff
  split
  · next state hget =>
    show (group.controls.put ControlId.onOff _).get? ControlId.onOff = _
    rw [Controls.get?_put, if_pos rfl, hget]
    rfl
  · next hother =>
    cases hget : group.controls.get? ControlId.onOff with
    | none => rfl
    | some control =>
      obtain ⟨cls, state⟩ := control
      cases cls with
      | onOff => exact absurd hget (hother state)
      | _ => rfl

lemma get?_takeOnOff_of_ne (h : id ≠ ControlId.onOff) :
    (group.takeOnOff event).controls.get? id = group.controls.get? id := by
  unfold takeOnOff
  split
  · show (group.controls.put ControlId.onOff _).get? id = _
    rw [Controls.get?_put, if_neg h]
  · rfl

/-- Whether an answer is taken depends on the book of its control alone. -/
lemma recordAnswer_congr {source source' : GroupStateSource} {success : Bool}
    (h : source'.get? id = source.get? id) :
    (source'.recordAnswer uid id success).2 = (source.recordAnswer uid id success).2 := by
  cases hbook : source.get? id with
  | none =>
    rw [hbook] at h
    simp [GroupStateSource.recordAnswer, hbook, h]
  | some book =>
    rw [hbook] at h
    rw [GroupStateSource.recordAnswer_eq hbook, GroupStateSource.recordAnswer_eq h]
    split <;> rfl

lemma takes_congr (hcontrols : group'.controls.get? id = group.controls.get? id)
    (hsource : group'.stateSource.get? id = group.stateSource.get? id) :
    group'.takes uid member event id = group.takes uid member event id := by
  unfold takes
  simp only [hcontrols, recordAnswer_congr hsource]

/-- What it means for an answer to be taken. -/
lemma takes_iff : group.takes uid member event id = true ↔ (group.controls.get? id).isSome ∧
    ∃ control, answered member event id = some control ∧
      (group.stateSource.recordAnswer uid id (control.state.error = .none)).2 = .take := by
  simp [takes, Option.any_eq_true]

lemma keys_of_takes (h : group.takes uid member event id = true) :
    ∃ book, group.stateSource.get? id = some book := by
  obtain ⟨-, control, -, htake⟩ := takes_iff.1 h
  obtain ⟨book, hbook, -⟩ := GroupStateSource.candidate_of_take htake
  exact ⟨book, hbook⟩

lemma statesTaken_nil : StatesTaken uid member event [] group group where
  source_other _ _ := rfl
  controls_other _ _ _ := rfl
  shown _ h := nomatch h
  pinned _ h := nomatch h
  kept _ h := nomatch h
  onOff_other _ := rfl
  onOff h := nomatch h
  onOff_kept h := nomatch h

/-- One state control after the other. -/
lemma StatesTaken.append (h : StatesTaken uid member event ids group group')
    (h' : StatesTaken uid member event ids' group' group'') (hdisjoint : ids.Disjoint ids')
    (honOff : ControlId.onOff ∉ ids ++ ids') :
    StatesTaken uid member event (ids ++ ids') group group'' := by
  have hne {id : ControlId} (hmem : id ∈ ids ++ ids') : id ≠ ControlId.onOff := by
    rintro rfl
    exact honOff hmem
  -- the controls of one pass are as they were for the other one
  have hbefore {id : ControlId} (hmem : id ∈ ids') :
      group'.controls.get? id = group.controls.get? id ∧
        group'.stateSource.get? id = group.stateSource.get? id :=
    have hnot : id ∉ ids := fun hmem' => hdisjoint hmem' hmem
    ⟨h.controls_other id hnot (hne (List.mem_append_right _ hmem)), h.source_other id hnot⟩
  have hafter {id : ControlId} (hmem : id ∈ ids) :
      group''.controls.get? id = group'.controls.get? id ∧
        group''.stateSource.get? id = group'.stateSource.get? id :=
    have hnot : id ∉ ids' := fun hmem' => hdisjoint hmem hmem'
    ⟨h'.controls_other id hnot (hne (List.mem_append_left _ hmem)), h'.source_other id hnot⟩
  have htakes {id : ControlId} (hmem : id ∈ ids') :
      group'.takes uid member event id = group.takes uid member event id :=
    takes_congr (hbefore hmem).1 (hbefore hmem).2
  refine ⟨fun id hnot => ?_, fun id hnot hid => ?_, fun id hmem => ?_, fun id hmem htake => ?_,
    fun id hmem htake other hpinned => ?_, fun hnot => ?_, fun hmem htake => ?_,
    fun hmem htake => ?_⟩
  · rw [List.mem_append, not_or] at hnot
    exact (h'.source_other id hnot.2).trans (h.source_other id hnot.1)
  · rw [List.mem_append, not_or] at hnot
    exact (h'.controls_other id hnot.2 hid).trans (h.controls_other id hnot.1 hid)
  · rcases List.mem_append.1 hmem with hmem | hmem
    · rw [GroupVirtualDevice.shown, (hafter hmem).1]
      exact h.shown id hmem
    · rw [h'.shown id hmem, htakes hmem, GroupVirtualDevice.shown, GroupVirtualDevice.shown,
        (hbefore hmem).1]
  · rcases List.mem_append.1 hmem with hmem | hmem
    · rw [GroupStateSource.pinnedSource, (hafter hmem).2]
      exact h.pinned id hmem htake
    · exact h'.pinned id hmem ((htakes hmem).trans htake)
  · rcases List.mem_append.1 hmem with hmem | hmem
    · rw [GroupStateSource.pinnedSource, (hafter hmem).2] at hpinned
      exact h.kept id hmem htake other hpinned
    · have := h'.kept id hmem ((htakes hmem).trans htake) other hpinned
      rwa [GroupStateSource.pinnedSource, (hbefore hmem).2] at this
  · rw [List.mem_append, not_or] at hnot
    exact (h'.onOff_other hnot.2).trans (h.onOff_other hnot.1)
  · rcases List.mem_append.1 hmem with hmem | hmem
    · exact (h'.onOff_other fun hmem' => hdisjoint hmem hmem').trans (h.onOff hmem htake)
    · rw [h'.onOff hmem ((htakes hmem).trans htake),
        h.onOff_other fun hmem' => hdisjoint hmem' hmem]
  · intro state hstate
    rcases List.mem_append.1 hmem with hmem | hmem
    · rw [h'.onOff_other fun hmem' => hdisjoint hmem hmem'] at hstate
      exact h.onOff_kept hmem htake state hstate
    · rw [← h.onOff_other fun hmem' => hdisjoint hmem' hmem]
      exact h'.onOff_kept hmem ((htakes hmem).trans htake) state hstate

lemma get?_putState {control : Control} {state : ControlState} {id' : ControlId} :
    (group.putState id control state).controls.get? id' =
      if id' = id then (group.controls.get? id).map fun _ => { control with state := state }
      else group.controls.get? id' :=
  Controls.get?_put

/-- The on_off is handed the events of the level. -/
def followsOnOff (event : BusEvent) (id : ControlId) (group : GroupVirtualDevice) :
    GroupVirtualDevice :=
  if id = ControlId.actualLevel then group.takeOnOff event else group

lemma stateSource_followsOnOff :
    (group.followsOnOff event id).stateSource = group.stateSource := by
  unfold followsOnOff takeOnOff
  split
  · split <;> rfl
  · rfl

lemma get?_followsOnOff_of_ne {id' : ControlId} (h : id' ≠ ControlId.onOff) :
    (group.followsOnOff event id).controls.get? id' = group.controls.get? id' := by
  unfold followsOnOff
  split
  · exact get?_takeOnOff_of_ne h
  · rfl

lemma get?_followsOnOff :
    (group.followsOnOff event id).controls.get? ControlId.onOff =
      if id = ControlId.actualLevel then
        (group.controls.get? ControlId.onOff).map (followLevel event)
      else group.controls.get? ControlId.onOff := by
  unfold followsOnOff
  split
  · exact get?_takeOnOff
  · rfl

lemma takeState_unanswered {controls' : Controls}
    (hask : askMember controls event id = (controls', none)) {control : Control}
    (hget : group.controls.get? id = some control) :
    group.takeState uid controls event id = (group, controls') := by
  rw [takeState, hget]
  dsimp only
  rw [hask]

section Answered

variable {control asked : Control} {controls' : Controls} {source : GroupStateSource}
  (hget : group.controls.get? id = some control)
  (hask : askMember controls event id = (controls', some asked))
include hget hask

lemma takeState_take
    (hrecord :
      group.stateSource.recordAnswer uid id (asked.state.error = .none) = (source, .take)) :
    group.takeState uid controls event id =
      ((({ group with stateSource := source } : GroupVirtualDevice).putState id control
        ⟨asked.state.value, .none⟩).followsOnOff event id, controls') := by
  rw [takeState, hget]
  dsimp only
  rw [hask]
  dsimp only
  rw [hrecord]
  rfl

lemma takeState_showError
    (hrecord : group.stateSource.recordAnswer uid id (asked.state.error = .none) =
      (source, .showError)) :
    group.takeState uid controls event id =
      ((({ group with stateSource := source } : GroupVirtualDevice).putState id control
        control.state.failRead).followsOnOff event id, controls') := by
  rw [takeState, hget]
  dsimp only
  rw [hask]
  dsimp only
  rw [hrecord]
  rfl

lemma takeState_hold
    (hrecord : group.stateSource.recordAnswer uid id (asked.state.error = .none) =
      (source, .hold)) :
    group.takeState uid controls event id = ({ group with stateSource := source }, controls') := by
  rw [takeState, hget]
  dsimp only
  rw [hask]
  dsimp only
  rw [hrecord]

end Answered

lemma error_actualLevel_notify {c : ActualLevel} {state : ControlState} {rawLevel : Option ℕ}
    {eventSource : EventSource}
    (h : (c.notify state (.levelChanged rawLevel eventSource false)).2 = .publishState) :
    (c.notify state (.levelChanged rawLevel eventSource false)).1.state.error = .none := by
  unfold ActualLevel.notify at h ⊢
  dsimp only at h ⊢
  rw [if_neg Bool.false_ne_true] at h ⊢
  split at h
  · cases h
  · next haccept =>
    cases rawLevel with
    | none => cases h
    | some raw =>
      rw [if_neg haccept]
      rfl

/-- A level control that answers with an error has not read a level. -/
lemma value_onOffNotify_of_error {control : Control} {state : ControlState}
    (h : ∃ c, control.cls = .actualLevel c) (hpublish : (control.notify event).2 = .publishState)
    (herror : (control.notify event).1.state.error ≠ .none) :
    (onOffNotify state event).1.state.value = state.value := by
  cases event with
  | colourChanged components source failed => rfl
  | levelChanged rawLevel source failed =>
    cases failed with
    | true => rfl
    | false =>
      obtain ⟨cls, state'⟩ := control
      obtain ⟨c, rfl⟩ := h
      exact absurd (error_actualLevel_notify hpublish) herror

/-! ### One state control -/

/-- The group keeps what it shows when it does not take the answer. -/
lemma statesTaken_hold {source : GroupStateSource}
    (h : group.takes uid member event id = false)
    (hother : ∀ id' ≠ id, source.get? id' = group.stateSource.get? id')
    (hkept : ∀ other, source.pinnedSource id = some other →
      group.stateSource.pinnedSource id = some other) :
    StatesTaken uid member event [id] group { group with stateSource := source } where
  source_other id' hid' := hother id' (List.mem_singleton.not.1 hid')
  controls_other _ _ _ := rfl
  shown id' hid' := by
    rw [List.mem_singleton.1 hid', h]
    simp only [Bool.false_eq_true, if_false, Option.map_id']
    rfl
  pinned id' hid' htake := by
    rw [List.mem_singleton.1 hid', h] at htake
    cases htake
  kept id' hid' _ other hpinned := by
    rw [List.mem_singleton.1 hid'] at hpinned ⊢
    exact hkept other hpinned
  onOff_other _ := rfl
  onOff hmem htake := by
    rw [List.mem_singleton.1 hmem, h] at htake
    cases htake
  onOff_kept _ _ state hstate := ⟨state, hstate, rfl⟩

/-- The group shows a new state. -/
lemma statesTaken_put {source : GroupStateSource} {control : Control} {state : ControlState}
    (hne : id ≠ ControlId.onOff) (hget : group.controls.get? id = some control)
    (hother : ∀ id' ≠ id, source.get? id' = group.stateSource.get? id')
    (hvalue : state.value =
      if group.takes uid member event id then answer member event id else control.state.value)
    (hpinned : group.takes uid member event id → source.pinnedSource id = some uid)
    (hkept : group.takes uid member event id = false → ∀ other,
      source.pinnedSource id = some other → group.stateSource.pinnedSource id = some other)
    (honOff : id = ControlId.actualLevel → group.takes uid member event id = false → ∀ state,
      (onOffNotify state event).1.state.value = state.value) :
    StatesTaken uid member event [id] group
      ((({ group with stateSource := source } : GroupVirtualDevice).putState id control
        state).followsOnOff event id) where
  source_other id' hid' := by
    rw [stateSource_followsOnOff]
    exact hother id' (List.mem_singleton.not.1 hid')
  controls_other id' hid' hne' := by
    rw [get?_followsOnOff_of_ne hne', get?_putState, if_neg (List.mem_singleton.not.1 hid')]
  shown id' hid' := by
    rw [List.mem_singleton.1 hid', GroupVirtualDevice.shown, get?_followsOnOff_of_ne hne,
      get?_putState, if_pos rfl, GroupVirtualDevice.shown, hget]
    exact congrArg some hvalue
  pinned id' hid' htake := by
    rw [List.mem_singleton.1 hid'] at htake ⊢
    rw [stateSource_followsOnOff]
    exact hpinned htake
  kept id' hid' htake other hother' := by
    rw [List.mem_singleton.1 hid'] at htake hother' ⊢
    rw [stateSource_followsOnOff] at hother'
    exact hkept htake other hother'
  onOff_other hmem := by
    rw [get?_followsOnOff, if_neg fun heq => hmem (List.mem_singleton.2 heq.symm), get?_putState,
      if_neg hne.symm]
  onOff hmem _ := by
    rw [get?_followsOnOff, if_pos (List.mem_singleton.1 hmem).symm, get?_putState,
      if_neg hne.symm]
  onOff_kept hmem htake state' hstate' := by
    obtain rfl := List.mem_singleton.1 hmem
    rw [get?_followsOnOff, if_pos rfl, get?_putState, if_neg hne.symm] at hstate'
    obtain ⟨⟨cls, before⟩, hbefore, heq⟩ := Option.map_eq_some_iff.1 hstate'
    have hvalue := honOff rfl htake before
    cases cls with
    | onOff =>
      rw [show (onOffNotify before event).1 = ⟨.onOff, state'⟩ from heq] at hvalue
      exact ⟨before, hbefore, hvalue.symm⟩
    | _ => cases heq

section TakeState

variable (hnotified : Notified member event controls) (hbuilt : member.WellBuilt)
  (hevent : event.NamesColours)
include hnotified hbuilt hevent

lemma statesTaken_takeState (hid : id ∈ groupStateIds) :
    StatesTaken uid member event [id] group (group.takeState uid controls event id).1 ∧
      Notified member event (group.takeState uid controls event id).2 := by
  obtain ⟨hasked, hafter⟩ :
      (askMember controls event id).2 = answered member event id ∧
        Notified member event (askMember controls event id).1 :=
    hnotified.askMember hbuilt hevent (List.mem_append_left _ hid)
  have hne : id ≠ ControlId.onOff := by
    rintro rfl
    revert hid
    decide
  cases hget : group.controls.get? id with
  | none =>
    have htake : group.takes uid member event id = false := by simp [takes, hget]
    have heq : group.takeState uid controls event id = (group, controls) := by
      rw [takeState, hget]
    rw [heq]
    exact ⟨statesTaken_hold htake (fun _ _ => rfl) fun _ h => h, hnotified⟩
  | some control =>
    rcases hask : askMember controls event id with ⟨controls', asked?⟩
    rw [hask] at hasked hafter
    dsimp only at hasked hafter
    cases asked? with
    | none =>
      have htake : group.takes uid member event id = false := by simp [takes, ← hasked]
      rw [takeState_unanswered hask hget]
      exact ⟨statesTaken_hold htake (fun _ _ => rfl) fun _ h => h, hafter⟩
    | some asked =>
      rcases hrecord : group.stateSource.recordAnswer uid id (asked.state.error = .none) with
        ⟨source, recorded⟩
      have htakes : group.takes uid member event id = true ↔ recorded = .take := by
        simp [takes, hget, ← hasked, hrecord]
      -- the books of the other controls stay as they are
      have hother (id' : ControlId) (hid' : id' ≠ id) :
          source.get? id' = group.stateSource.get? id' := by
        have := @GroupStateSource.get?_recordAnswer_of_ne group.stateSource uid id id'
          (asked.state.error = .none) hid'
        rwa [hrecord] at this
      have hkept (hnot : recorded ≠ .take) (other : Uid)
          (hpinned : source.pinnedSource id = some other) :
          group.stateSource.pinnedSource id = some other := by
        refine @GroupStateSource.pinnedSource_of_not_take group.stateSource uid other id
          (asked.state.error = .none) ?_ ?_
        · rwa [hrecord]
        · rwa [hrecord]
      cases recorded with
      -- the answer of the member is shown, and the member is the pinned source then
      | take =>
        rw [takeState_take hget hask hrecord]
        have htake := htakes.2 rfl
        refine ⟨statesTaken_put hne hget hother ?_ (fun _ => ?_) (fun hnot => ?_) fun _ hnot => ?_,
          hafter⟩
        · rw [if_pos htake, answer, ← hasked]
          rfl
        · have := @GroupStateSource.pinnedSource_of_take group.stateSource uid id
            (asked.state.error = .none) (by rw [hrecord])
          rw [hrecord] at this
          exact this.2
        · cases htake.symm.trans hnot
        · cases htake.symm.trans hnot
      | showError =>
        rw [takeState_showError hget hask hrecord]
        have htake : group.takes uid member event id = false :=
          Bool.eq_false_iff.2 fun h => nomatch htakes.1 h
        refine ⟨statesTaken_put hne hget hother ?_ (fun h => ?_) (fun _ => hkept nofun)
          fun hlevel _ state => ?_, hafter⟩
        · rw [htake]
          rfl
        · cases htake.symm.trans h
        · subst hlevel
          obtain ⟨control', hcontrol', hpublish, rfl⟩ := answered_eq_some_iff.1 hasked.symm
          refine value_onOffNotify_of_error (hbuilt.level control' hcontrol') hpublish
            fun herror => ?_
          have hsuccess := GroupStateSource.success_of_showError hrecord
          rw [herror] at hsuccess
          cases hsuccess
      | hold =>
        rw [takeState_hold hget hask hrecord]
        exact ⟨statesTaken_hold (Bool.eq_false_iff.2 fun h => nomatch htakes.1 h) hother
          (hkept nofun), hafter⟩

lemma statesTaken_foldl (hnodup : ids.Nodup) (hids : ∀ id ∈ ids, id ∈ groupStateIds) :
    StatesTaken uid member event ids group (ids.foldl (fun (g : GroupVirtualDevice × Controls) id =>
        g.1.takeState uid g.2 event id) (group, controls)).1 ∧
      Notified member event (ids.foldl (fun (g : GroupVirtualDevice × Controls) id =>
        g.1.takeState uid g.2 event id) (group, controls)).2 := by
  induction ids generalizing group controls with
  | nil => exact ⟨statesTaken_nil, hnotified⟩
  | cons id ids ih =>
    obtain ⟨hnot, hnodup⟩ := List.nodup_cons.1 hnodup
    obtain ⟨hstate, hnotified⟩ := @statesTaken_takeState group uid member controls event id
      hnotified hbuilt hevent (hids id List.mem_cons_self)
    obtain ⟨hstates, hnotified⟩ := @ih (group.takeState uid controls event id).1 _ hnotified hnodup
      fun id' hid' => hids id' (List.mem_cons_of_mem _ hid')
    refine ⟨hstate.append hstates (List.singleton_disjoint.2 hnot) fun honOff => ?_, hnotified⟩
    have := hids ControlId.onOff honOff
    revert this
    decide

end TakeState

/-! ### The pass over the setpoints -/

/-- What the pass over the setpoints does to a group. -/
structure SetpointsTaken (uid : Uid) (member : Controls) (event : BusEvent)
    (pairs : List (ControlId × ControlId)) (group group' : GroupVirtualDevice) : Prop where
  stateSource : group'.stateSource = group.stateSource
  controls_other : ∀ id ∉ pairs.map Prod.fst, group'.controls.get? id = group.controls.get? id
  shown : ∀ pair ∈ pairs, group'.shown pair.1 = (group.shown pair.1).map fun value =>
    if group.stateSource.pinnedSource pair.2 = some uid then
      (answer member event pair.1).or value
    else value

lemma setpointsTaken_same {pair : ControlId × ControlId}
    (h : group.shown pair.1 = none ∨ group.stateSource.pinnedSource pair.2 ≠ some uid ∨
      answer member event pair.1 = none) :
    SetpointsTaken uid member event [pair] group group where
  stateSource := rfl
  controls_other _ _ := rfl
  shown pair' hpair' := by
    rw [List.mem_singleton.1 hpair']
    rcases h with hnone | hpinned | hnone
    · rw [hnone]
      rfl
    · simp only [if_neg hpinned, Option.map_id']
    · simp only [hnone, Option.none_or, ite_self, Option.map_id']

section TakeSetpoint

variable (hnotified : Notified member event controls) (hbuilt : member.WellBuilt)
  (hevent : event.NamesColours)
include hnotified hbuilt hevent

lemma setpointsTaken_takeSetpoint {pair : ControlId × ControlId} (hpair : pair ∈ setpointState) :
    SetpointsTaken uid member event [pair] group
        (group.takeSetpoint uid controls event pair.1 pair.2).1 ∧
      Notified member event (group.takeSetpoint uid controls event pair.1 pair.2).2 := by
  obtain ⟨hasked, hafter⟩ :
      (askMember controls event pair.1).2 = answered member event pair.1 ∧
        Notified member event (askMember controls event pair.1).1 :=
    hnotified.askMember hbuilt hevent
      (List.mem_append_right _ (List.mem_map_of_mem hpair))
  unfold takeSetpoint
  cases hget : group.controls.get? pair.1 with
  | none => exact ⟨setpointsTaken_same (.inl (by simp [GroupVirtualDevice.shown, hget])), hnotified⟩
  | some control =>
    dsimp only
    by_cases hpinned : group.stateSource.pinnedSource pair.2 = some uid
    · rw [if_neg (not_not.2 hpinned)]
      rcases hask : askMember controls event pair.1 with ⟨controls', asked?⟩
      rw [hask] at hasked hafter
      dsimp only at hasked hafter
      cases asked? with
      | none => exact ⟨setpointsTaken_same (.inr (.inr (by rw [answer, ← hasked]; rfl))), hafter⟩
      | some asked =>
        dsimp only
        cases hvalue : asked.state.value with
        | none =>
          exact ⟨setpointsTaken_same (.inr (.inr (by rw [answer, ← hasked]; exact hvalue))), hafter⟩
        | some value =>
          refine ⟨⟨rfl, fun id hid => ?_, fun pair' hpair' => ?_⟩, hafter⟩
          · rw [List.map_singleton, List.mem_singleton] at hid
            rw [get?_putState, if_neg hid]
          · have hanswer : answer member event pair.1 = some value := by
              rw [answer, ← hasked]
              exact hvalue
            rw [List.mem_singleton.1 hpair', GroupVirtualDevice.shown, get?_putState, if_pos rfl,
              GroupVirtualDevice.shown, hget, hanswer]
            simp only [if_pos hpinned]
            rfl
    · rw [if_pos hpinned]
      exact ⟨setpointsTaken_same (.inr (.inl hpinned)), hnotified⟩

lemma setpointsTaken_foldl {pairs : List (ControlId × ControlId)}
    (hnodup : (pairs.map Prod.fst).Nodup) (hpairs : ∀ pair ∈ pairs, pair ∈ setpointState) :
    SetpointsTaken uid member event pairs group
        (pairs.foldl (fun (g : GroupVirtualDevice × Controls) pair =>
          g.1.takeSetpoint uid g.2 event pair.1 pair.2) (group, controls)).1 ∧
      Notified member event (pairs.foldl (fun (g : GroupVirtualDevice × Controls) pair =>
          g.1.takeSetpoint uid g.2 event pair.1 pair.2) (group, controls)).2 := by
  induction pairs generalizing group controls with
  | nil => exact ⟨⟨rfl, fun _ _ => rfl, fun _ h => nomatch h⟩, hnotified⟩
  | cons pair pairs ih =>
    obtain ⟨hnot, hnodup⟩ := List.nodup_cons.1 hnodup
    obtain ⟨hfirst, hnotified⟩ := @setpointsTaken_takeSetpoint group uid member controls event
      hnotified hbuilt hevent pair (hpairs pair List.mem_cons_self)
    obtain ⟨hrest, hnotified⟩ := @ih (group.takeSetpoint uid controls event pair.1 pair.2).1 _
      hnotified hnodup fun pair' hpair' => hpairs pair' (List.mem_cons_of_mem _ hpair')
    refine ⟨⟨hrest.stateSource.trans hfirst.stateSource, fun id hid => ?_, fun pair' hpair' => ?_⟩,
      hnotified⟩
    · rw [List.map_cons, List.mem_cons, not_or] at hid
      exact (hrest.controls_other id hid.2).trans
        (hfirst.controls_other id (List.mem_singleton.not.2 hid.1))
    · rcases List.mem_cons.1 hpair' with rfl | hpair'
      · -- the other setpoints leave this one
        exact (congrArg (Option.map _) (hrest.controls_other pair'.1 hnot)).trans
          (hfirst.shown pair' List.mem_cons_self)
      · have hne : pair'.1 ∉ [pair].map Prod.fst := by
          rintro hmem
          rw [List.map_singleton, List.mem_singleton] at hmem
          exact hnot (hmem ▸ List.mem_map_of_mem hpair')
        have hbefore : (group.takeSetpoint uid controls event pair.1 pair.2).1.shown pair'.1 =
            group.shown pair'.1 :=
          congrArg (Option.map _) (hfirst.controls_other pair'.1 hne)
        have hshown := hrest.shown pair' hpair'
        rw [hfirst.stateSource, hbefore] at hshown
        exact hshown

end TakeSetpoint

/-! ### An event of a member -/

/-- What `notify_all` does to a group. -/
structure Handled (uid : Uid) (member : Controls) (event : BusEvent)
    (group group' : GroupVirtualDevice) : Prop where
  keys : ∀ id ∉ group.stateSource.keys, id ∉ group'.stateSource.keys
  states : ∀ id ∈ groupStateIds, group'.shown id = (group.shown id).map fun value =>
    if group.takes uid member event id then answer member event id else value
  pinned : ∀ id, group.takes uid member event id → group'.stateSource.pinnedSource id = some uid
  kept : ∀ id, group.takes uid member event id = false → ∀ other,
    group'.stateSource.pinnedSource id = some other →
      group.stateSource.pinnedSource id = some other
  setpoints : ∀ pair ∈ setpointState, group'.shown pair.1 = (group.shown pair.1).map fun value =>
    if group'.stateSource.pinnedSource pair.2 = some uid then
      (answer member event pair.1).or value
    else value
  onOff : group.takes uid member event ControlId.actualLevel →
    group'.controls.get? ControlId.onOff =
      (group.controls.get? ControlId.onOff).map (followLevel event)
  onOff_kept : group.takes uid member event ControlId.actualLevel = false → group.KeepsOnOff group'

lemma setpointState_disjoint :
    (∀ id ∈ ControlId.onOff :: groupStateIds, id ∉ setpointState.map Prod.fst) ∧
      (setpointState.map Prod.fst).Nodup := by
  decide

lemma handled_notifyAll (hbuilt : member.WellBuilt) (hevent : event.NamesColours)
    (hkeys : ∀ id ∈ group.stateSource.keys, id ∈ groupStateIds) :
    Handled uid member event group
        (group.notifyAll event uid (notifyControls member event).1).1 ∧
      Notified member event (group.notifyAll event uid (notifyControls member event).1).2 := by
  have hnotified : Notified member event (notifyControls member event).1 :=
    fun id => get?_notifyControls
  obtain ⟨hstates, hnotified⟩ := @statesTaken_foldl group uid member _ event
    group.stateSource.keys hnotified hbuilt hevent group.stateSource.nodup_keys hkeys
  obtain ⟨⟨middle, controls⟩, hpass⟩ : ∃ pass, group.stateSource.keys.foldl
      (fun (g : GroupVirtualDevice × Controls) id => g.1.takeState uid g.2 event id)
      (group, (notifyControls member event).1) = pass := ⟨_, rfl⟩
  rw [hpass] at hstates hnotified
  rw [notifyAll, hpass]
  obtain ⟨hsetpoints, hnotified⟩ := @setpointsTaken_foldl middle uid member controls event hnotified
    hbuilt hevent setpointState setpointState_disjoint.2 fun _ h => h
  have honOff :=
    hsetpoints.controls_other ControlId.onOff (setpointState_disjoint.1 _ List.mem_cons_self)
  -- behind the states the setpoints follow, which leave the states and on_off alone
  refine ⟨⟨fun id hid => ?_, fun id hid => ?_, fun id htake => ?_, fun id htake other hpinned => ?_,
    fun pair hpair => ?_, fun htake => ?_, fun htake => ?_⟩, hnotified⟩
  · rw [hsetpoints.stateSource, ← Dict.get?_eq_none_iff, hstates.source_other id hid]
    exact Dict.get?_eq_none_iff.2 hid
  · have hafter := hsetpoints.controls_other id
      (setpointState_disjoint.1 id (List.mem_cons_of_mem _ hid))
    refine (congrArg (Option.map _) hafter).trans ?_
    by_cases hkey : id ∈ group.stateSource.keys
    · exact hstates.shown id hkey
    · have hne : id ≠ ControlId.onOff := by
        rintro rfl
        revert hid
        decide
      have htake : group.takes uid member event id = false := by
        refine Bool.eq_false_iff.2 fun htake => ?_
        obtain ⟨book, hbook⟩ := keys_of_takes htake
        exact hkey (Dict.mem_keys_iff.2 ⟨book, hbook⟩)
      rw [hstates.controls_other id hkey hne, htake]
      simp only [Bool.false_eq_true, if_false, Option.map_id']
      rfl
  · obtain ⟨book, hbook⟩ := keys_of_takes htake
    rw [hsetpoints.stateSource]
    exact hstates.pinned id (Dict.mem_keys_iff.2 ⟨book, hbook⟩) htake
  · rw [hsetpoints.stateSource] at hpinned
    by_cases hid : id ∈ group.stateSource.keys
    · exact hstates.kept id hid htake other hpinned
    · rwa [GroupStateSource.pinnedSource, hstates.source_other id hid] at hpinned
  · have hpair' : pair.1 ∉ ControlId.onOff :: groupStateIds := fun hmem =>
      setpointState_disjoint.1 _ hmem (List.mem_map_of_mem hpair)
    rw [List.mem_cons, not_or] at hpair'
    have := hstates.controls_other pair.1 (fun hid => hpair'.2 (hkeys _ hid)) hpair'.1
    rw [hsetpoints.shown pair hpair, hsetpoints.stateSource]
    exact congrArg (Option.map _) (congrArg (Option.map _) this)
  · obtain ⟨book, hbook⟩ := keys_of_takes htake
    rw [honOff]
    exact hstates.onOff (Dict.mem_keys_iff.2 ⟨book, hbook⟩) htake
  · intro state hstate
    rw [honOff] at hstate
    by_cases hlevel : ControlId.actualLevel ∈ group.stateSource.keys
    · exact hstates.onOff_kept hlevel htake state hstate
    · rw [hstates.onOff_other hlevel] at hstate
      exact ⟨state, hstate, rfl⟩

end GroupVirtualDevice

/-! ### Runs of a group card -/

/-- An event of a member that the group has been handed. -/
structure HandledEvent where
  uid : Uid
  event : BusEvent
  /-- The values that the controls of the member have answered. -/
  answers : ControlId → Option String
  /-- The state controls for which the group has taken them. -/
  taken : List ControlId

/-- A group, the controls of all gear devices and the events that the group has been handed, with
the last one first. -/
structure GroupCard where
  group : GroupVirtualDevice
  members : Uid → Controls
  handled : List HandledEvent

inductive CardEvent
  | member (uid : Uid) (event : BusEvent)
  /-- An event of a device that is not in the group. -/
  | outside (uid : Uid) (event : BusEvent)
  /-- The members have changed. -/
  | update (newCandidates : Dict ControlId (List Uid))

namespace GroupCard

/-- The member handles the event first. -/
def handle (card : GroupCard) (uid : Uid) (event : BusEvent) : GroupCard :=
  let member := card.members uid
  let notified := card.group.notifyAll event uid (notifyControls member event).1
  { group := notified.1
    members := Function.update card.members uid notified.2
    handled := ⟨uid, event, answer member event, card.group.stateSource.keys.filter
      (card.group.takes uid member event)⟩ :: card.handled }

def step (card : GroupCard) : CardEvent → Option GroupCard
  | .member uid event => some (card.handle uid event)
  | .outside uid event =>
    some { card with
      members := Function.update card.members uid (notifyControls (card.members uid) event).1 }
  | .update newCandidates =>
    some { card with
      group := { card.group with
        stateSource := card.group.stateSource.updateCandidates newCandidates } }

/-- The members have been built, and the group has been made over some of them. -/
structure IsInit (card : GroupCard) : Prop where
  members : ∀ uid, ∃ gear : GearControls, card.members uid = gear.buildMqttControls
  stateSource : ∃ candidates : Dict ControlId (List Uid),
    card.group.stateSource = .make candidates ∧ ∀ id ∈ candidates.keys, id ∈ groupStateIds
  handled : card.handled = []

end GroupCard

def groupCard : Transition GroupCard CardEvent where
  init := GroupCard.IsInit
  step := GroupCard.step

/-- The event that a state control has last taken a value from, and the later ones. -/
def lastTaken (id : ControlId) : List HandledEvent → Option (HandledEvent × List HandledEvent)
  | [] => none
  | handled :: earlier =>
    if id ∈ handled.taken then some (handled, [])
    else (lastTaken id earlier).map fun found => (found.1, handled :: found.2)

/-- What a group shows for a state control, after it has taken a value for it. -/
structure AgreesWith (group : GroupVirtualDevice) (id : ControlId) (taken : HandledEvent)
    (later : List HandledEvent) : Prop where
  state : ∀ value, group.shown id = some value → value = taken.answers id
  setpoint : ∀ setpointId, (setpointId, id) ∈ setpointState → ∀ value,
    group.shown setpointId = some value →
      ∃ handled ∈ taken :: later, handled.uid = taken.uid ∧
        (handled.answers setpointId).isSome ∧ value = handled.answers setpointId
  onOff : id = ControlId.actualLevel →
    ∀ state, group.controls.get? ControlId.onOff = some ⟨.onOff, state⟩ →
    ∃ handled ∈ taken :: later, handled.uid = taken.uid ∧ (handled.answers id).isSome ∧
      ∃ raw source, handled.event = .levelChanged (some raw) source false ∧
        state.value = some (if raw = 0 then "0" else "1")

/-- The value and the setpoints of every state control come from one member. -/
def GroupCard.Agrees (card : GroupCard) : Prop :=
  ∀ id taken later, lastTaken id card.handled = some (taken, later) →
    AgreesWith card.group id taken later

/-- The controls that the group asks answer a repeated event in the same way. -/
def GroupCard.AnswersTwice (card : GroupCard) : Prop :=
  ∀ uid, ∀ id ∈ askedIds, ∀ control, (card.members uid).get? id = some control →
    ∀ event : BusEvent, event.IsMade →
      (control.notify event).1.notify event = control.notify event

/-- The group would take a predicted level of a member. -/
def GroupCard.WouldTakeLevel (card : GroupCard) (uid : Uid) : Prop :=
  (card.group.controls.get? ControlId.actualLevel).isSome ∧
    (∃ control, (card.members uid).get? ControlId.actualLevel = some control ∧
      control.state.error = .none) ∧
    ∃ book, card.group.stateSource.get? ControlId.actualLevel = some book ∧
      uid ∈ book.candidateStatuses.keys ∧
      (book.pinnedSource = none ∨ book.pinnedSource = some uid)

/-- The events are made as the code makes them. -/
def CardEvent.IsMade : CardEvent → Prop
  | .member _ event | .outside _ event => event.IsMade
  | .update _ => True

/-- A predicted level that the group takes does not find its on_off with an error, or the on_off
shows it already. -/
def FindsOnOff (card : GroupCard) (cardEvent : CardEvent) : Prop :=
  cardEvent.IsMade ∧ ∀ uid raw, cardEvent = .member uid (.levelChanged (some raw) .observed false) →
    card.WouldTakeLevel uid →
      ∀ state, card.group.controls.get? ControlId.onOff = some ⟨.onOff, state⟩ →
      state.error = .none ∨ state.value = some (if raw = 0 then "0" else "1")

namespace GroupCard

structure Inv (card : GroupCard) : Prop where
  keys : ∀ id ∈ card.group.stateSource.keys, id ∈ groupStateIds
  taken : ∀ handled ∈ card.handled, ∀ id ∈ handled.taken, id ∈ groupStateIds
  built : ∀ uid, (card.members uid).WellBuilt
  agrees : card.Agrees
  pinned : ∀ id uid, card.group.stateSource.pinnedSource id = some uid →
    ∃ taken later, lastTaken id card.handled = some (taken, later) ∧ taken.uid = uid

variable {card card' : GroupCard} {uid : Uid} {event : BusEvent} {id : ControlId}

lemma pinnedSource_make {candidates : Dict ControlId (List Uid)} :
    (GroupStateSource.make candidates).pinnedSource id = none := by
  rw [GroupStateSource.pinnedSource, GroupStateSource.make, Dict.get?_mapValues]
  cases candidates.get? id <;> rfl

lemma IsInit.inv (h : card.IsInit) : card.Inv where
  keys := by
    obtain ⟨candidates, hsource, hids⟩ := h.stateSource
    intro id hid
    obtain ⟨book, hbook⟩ := Dict.mem_keys_iff.1 hid
    rw [hsource, GroupStateSource.make, Dict.get?_mapValues] at hbook
    obtain ⟨uids, huids, -⟩ := Option.map_eq_some_iff.1 hbook
    exact hids id (Dict.mem_keys_iff.2 ⟨uids, huids⟩)
  taken handled hmem := by
    rw [h.handled] at hmem
    cases hmem
  built uid := by
    obtain ⟨gear, hgear⟩ := h.members uid
    rw [hgear]
    exact wellBuilt_buildMqttControls
  agrees id taken later hlast := by
    rw [h.handled] at hlast
    cases hlast
  pinned id uid hpinned := by
    obtain ⟨candidates, hsource, -⟩ := h.stateSource
    rw [hsource, pinnedSource_make] at hpinned
    cases hpinned

lemma Inv.outside (h : card.Inv) :
    Inv { card with
      members :=
        Function.update card.members uid (notifyControls (card.members uid) event).1 } where
  keys := h.keys
  taken := h.taken
  built other := by
    show Controls.WellBuilt (Function.update card.members uid _ other)
    by_cases hother : other = uid
    · subst hother
      rw [Function.update_self]
      exact (h.built other).notifyControls
    · rw [Function.update_of_ne hother]
      exact h.built other
  agrees := h.agrees
  pinned := h.pinned

lemma Inv.update (h : card.Inv) (newCandidates : Dict ControlId (List Uid)) :
    Inv { card with
      group := { card.group with
        stateSource := card.group.stateSource.updateCandidates newCandidates } } where
  keys id hid := by
    obtain ⟨book, hbook⟩ := Dict.mem_keys_iff.1 hid
    rw [GroupStateSource.updateCandidates, Dict.get?_mapWithKey] at hbook
    obtain ⟨book', hbook', -⟩ := Option.map_eq_some_iff.1 hbook
    exact h.keys id (Dict.mem_keys_iff.2 ⟨book', hbook'⟩)
  taken := h.taken
  built := h.built
  agrees id taken later hlast := by
    obtain ⟨hstate, hsetpoint, honOff⟩ := h.agrees id taken later hlast
    exact ⟨hstate, hsetpoint, honOff⟩
  pinned id uid hpinned := by
    refine h.pinned id uid ?_
    change ((card.group.stateSource.updateCandidates newCandidates).get? id).bind _ = _ at hpinned
    rw [GroupStateSource.updateCandidates, Dict.get?_mapWithKey] at hpinned
    obtain ⟨book, hbook, hpinned⟩ := Option.bind_eq_some_iff.1 hpinned
    obtain ⟨book', hbook', rfl⟩ := Option.map_eq_some_iff.1 hbook
    rw [GroupStateSource.pinnedSource, hbook']
    exact (Option.filter_eq_some_iff.1 hpinned).1

/-- A level control refuses a prediction while it shows an error. -/
lemma error_of_observed {control : Control} {raw : ℕ} (h : ∃ c, control.cls = .actualLevel c)
    (hpublish : (control.notify (.levelChanged (some raw) .observed false)).2 = .publishState) :
    control.state.error = .none := by
  by_contra herror
  obtain ⟨cls, state⟩ := control
  obtain ⟨c, rfl⟩ := h
  change state.error ≠ .none at herror
  simp [Control.notify, ActualLevel.notify, herror] at hpublish

/-- The group takes a level that its on_off takes as well. -/
lemma onOff_of_takes (hevent : FindsOnOff card (.member uid event))
    (hbuilt : (card.members uid).WellBuilt)
    (htake : card.group.takes uid (card.members uid) event ControlId.actualLevel = true) :
    ∃ raw source, event = .levelChanged (some raw) source false ∧
      ∀ state, card.group.controls.get? ControlId.onOff = some ⟨.onOff, state⟩ →
        (onOffNotify state event).1.state.value = some (if raw = 0 then "0" else "1") := by
  obtain ⟨hpresent, control', hanswered, hrecord⟩ := GroupVirtualDevice.takes_iff.1 htake
  obtain ⟨control, hget, hpublish, rfl⟩ := answered_eq_some_iff.1 hanswered
  have hlevel := hbuilt.level control hget
  have herror := of_decide_eq_true (GroupStateSource.pinnedSource_of_take hrecord).1
  have hraw : ∃ raw source, event = .levelChanged (some raw) source false := by
    obtain ⟨cls, state⟩ := control
    obtain ⟨c, rfl⟩ := hlevel
    exact exists_rawLevel hpublish herror
  obtain ⟨raw, source, rfl⟩ := hraw
  refine ⟨raw, source, rfl, fun state hstate => ?_⟩
  simp only [onOffNotify, Bool.false_eq_true, if_false]
  split
  case isTrue hrefused =>
    obtain ⟨rfl, herr⟩ := hrefused
    refine (hevent.2 uid raw rfl ?_ state hstate).resolve_left herr
    exact ⟨hpresent, ⟨control, hget, error_of_observed hlevel hpublish⟩,
      GroupStateSource.candidate_of_take hrecord⟩
  case isFalse => rfl

lemma isSome_actualLevel_notify {c : ActualLevel} {state : ControlState} {raw : ℕ}
    {source : EventSource}
    (h : (c.notify state (.levelChanged (some raw) source false)).2 = .publishState) :
    (c.notify state (.levelChanged (some raw) source false)).1.state.value.isSome := by
  unfold ActualLevel.notify at h ⊢
  dsimp only at h ⊢
  rw [if_neg Bool.false_ne_true] at h ⊢
  split at h
  · cases h
  · next haccept =>
    rw [if_neg haccept]
    rfl

lemma isSome_answer_level {member : Controls} (hbuilt : member.WellBuilt) {control : Control}
    (hanswered : answered member event ControlId.actualLevel = some control)
    (herror : control.state.error = .none) :
    (answer member event ControlId.actualLevel).isSome := by
  rw [answer, hanswered]
  obtain ⟨before, hget, hpublish, rfl⟩ := answered_eq_some_iff.1 hanswered
  obtain ⟨cls, state⟩ := before
  obtain ⟨c, rfl⟩ := hbuilt.level _ hget
  obtain ⟨raw, source, rfl⟩ := exists_rawLevel hpublish herror
  exact isSome_actualLevel_notify hpublish

/-- A setpoint is answered with the state control that drives it. -/
lemma isSome_answer_setpoint {member : Controls} {setpointId : ControlId} {control : Control}
    (hbuilt : member.WellBuilt) (hpair : (setpointId, id) ∈ setpointState)
    (hid : id ∈ groupStateIds) (hanswered : answered member event id = some control)
    (herror : control.state.error = .none) : (answer member event setpointId).isSome := by
  obtain ⟨before, hget, hpublish, rfl⟩ := answered_eq_some_iff.1 hanswered
  obtain ⟨setpoint, hsetpoint, hmirrors⟩ := hbuilt.mirrors _ hpair hid before hget
  obtain ⟨hpublish', hvalue⟩ := hmirrors.answers hpublish herror
  rw [answer, answered_eq_some_iff.2 ⟨setpoint, hsetpoint, hpublish', rfl⟩]
  exact hvalue

/-- The events that the group has taken last for a control. -/
lemma mem_of_lastTaken {handled : List HandledEvent} {taken : HandledEvent}
    {later : List HandledEvent} (h : lastTaken id handled = some (taken, later)) :
    taken ∈ handled ∧ id ∈ taken.taken := by
  induction handled generalizing later with
  | nil => cases h
  | cons first earlier ih =>
    rw [lastTaken] at h
    split at h
    · next hmem =>
      cases h
      exact ⟨List.mem_cons_self, hmem⟩
    · obtain ⟨⟨taken', later'⟩, hfound, heq⟩ := Option.map_eq_some_iff.1 h
      cases heq
      exact ⟨List.mem_cons_of_mem _ (ih hfound).1, (ih hfound).2⟩

section Handle

variable {group' : GroupVirtualDevice} {controls : Controls}
  (hhandled : card.group.Handled uid (card.members uid) event group')
  (h : card.Inv) (hevent : FindsOnOff card (.member uid event))
include hhandled h

include hevent in
/-- The event is taken for the control. -/
lemma agreesWith_taken {ids : List ControlId} (hid : id ∈ groupStateIds)
    (htake : card.group.takes uid (card.members uid) event id = true) :
    AgreesWith group' id ⟨uid, event, answer (card.members uid) event, ids⟩ [] := by
  obtain ⟨-, control, hanswered, hrecord⟩ := GroupVirtualDevice.takes_iff.1 htake
  have herror := of_decide_eq_true (GroupStateSource.pinnedSource_of_take hrecord).1
  refine ⟨fun value hvalue => ?_, fun setpointId hpair value hvalue => ?_,
    fun hlevel state hstate => ?_⟩
  · rw [hhandled.states id hid] at hvalue
    obtain ⟨before, -, rfl⟩ := Option.map_eq_some_iff.1 hvalue
    exact if_pos htake
  · rw [hhandled.setpoints _ hpair] at hvalue
    obtain ⟨before, -, rfl⟩ := Option.map_eq_some_iff.1 hvalue
    have hanswer := isSome_answer_setpoint (h.built uid) hpair hid hanswered herror
    refine ⟨_, List.mem_cons_self, rfl, hanswer, ?_⟩
    rw [if_pos (hhandled.pinned id htake), Option.or_of_isSome hanswer]
  · subst hlevel
    obtain ⟨raw, source, rfl, honOff⟩ := onOff_of_takes hevent (h.built uid) htake
    rw [hhandled.onOff htake] at hstate
    obtain ⟨⟨cls, before⟩, hbefore, heq⟩ := Option.map_eq_some_iff.1 hstate
    refine ⟨_, List.mem_cons_self, rfl, isSome_answer_level (h.built uid) hanswered herror, raw,
      source, rfl, ?_⟩
    cases cls with
    | onOff =>
      have hvalue := honOff before hbefore
      rwa [show (onOffNotify before _).1 = ⟨.onOff, state⟩ from heq] at hvalue
    | _ => cases heq

/-- The event is not taken for the control, but it may be for its setpoints. -/
lemma agreesWith_kept {ids : List ControlId} {taken : HandledEvent} {later : List HandledEvent}
    (htake : card.group.takes uid (card.members uid) event id = false)
    (hlast : lastTaken id card.handled = some (taken, later)) :
    AgreesWith group' id taken (⟨uid, event, answer (card.members uid) event, ids⟩ :: later) := by
  obtain ⟨hmem, hmemId⟩ := mem_of_lastTaken hlast
  obtain ⟨hvalues, hsetpoint, honOff⟩ := h.agrees id taken later hlast
  have hweaken {handled new : HandledEvent} (hmem : handled ∈ taken :: later) :
      handled ∈ taken :: new :: later := by
    rcases List.mem_cons.1 hmem with rfl | hmem
    · exact List.mem_cons_self
    · exact List.mem_cons_of_mem _ (List.mem_cons_of_mem _ hmem)
  refine ⟨fun value hvalue => ?_, fun setpointId hpair value hvalue => ?_,
    fun hlevel state hstate => ?_⟩
  · rw [hhandled.states id (h.taken taken hmem id hmemId), htake] at hvalue
    simp only [Bool.false_eq_true, if_false, Option.map_id'] at hvalue
    exact hvalues value hvalue
  · rw [hhandled.setpoints _ hpair] at hvalue
    obtain ⟨before, hbefore, rfl⟩ := Option.map_eq_some_iff.1 hvalue
    obtain ⟨handled, hhandledMem, huid, hanswer, rfl⟩ := hsetpoint setpointId hpair before hbefore
    by_cases hfollows : group'.stateSource.pinnedSource id = some uid ∧
        (answer (card.members uid) event setpointId).isSome
    · -- the member still leads the state control
      obtain ⟨taken', later', hlast', huid'⟩ :=
        h.pinned id uid (hhandled.kept id htake uid hfollows.1)
      obtain ⟨rfl, rfl⟩ := Prod.mk.inj (Option.some.inj (hlast.symm.trans hlast'))
      refine ⟨_, List.mem_cons_of_mem _ List.mem_cons_self, huid'.symm, hfollows.2, ?_⟩
      rw [if_pos hfollows.1, Option.or_of_isSome hfollows.2]
    · refine ⟨handled, hweaken hhandledMem, huid, hanswer, ?_⟩
      split
      · next hpinned =>
        rw [Option.not_isSome_iff_eq_none.1 fun hsome => hfollows ⟨hpinned, hsome⟩, Option.none_or]
      · rfl
  · subst hlevel
    obtain ⟨before, hbefore, heq⟩ := hhandled.onOff_kept htake state hstate
    obtain ⟨handled, hhandledMem, huid, hanswer, raw, source, hlevel, hvalue⟩ :=
      honOff rfl before hbefore
    exact ⟨handled, hweaken hhandledMem, huid, hanswer, raw, source, hlevel, heq ▸ hvalue⟩

end Handle

lemma Inv.member (h : card.Inv) (hevent : FindsOnOff card (.member uid event)) :
    (card.handle uid event).Inv := by
  obtain ⟨hhandled, hnotified⟩ := @GroupVirtualDevice.handled_notifyAll card.group uid
    (card.members uid) event (h.built uid) hevent.1.namesColours h.keys
  unfold GroupCard.handle
  dsimp only
  obtain ⟨⟨group', controls⟩, hpass⟩ : ∃ notified, card.group.notifyAll event uid
    (notifyControls (card.members uid) event).1 = notified := ⟨_, rfl⟩
  rw [hpass] at hhandled hnotified ⊢
  dsimp only at hhandled hnotified ⊢
  -- only controls of the group take an answer
  have hids {id : ControlId} : id ∈ card.group.stateSource.keys.filter
      (card.group.takes uid (card.members uid) event) ↔
        card.group.takes uid (card.members uid) event id = true := by
    rw [List.mem_filter]
    refine ⟨And.right, fun htake => ⟨?_, htake⟩⟩
    obtain ⟨book, hbook⟩ := GroupVirtualDevice.keys_of_takes htake
    exact Dict.mem_keys_iff.2 ⟨book, hbook⟩
  refine ⟨fun id hid => ?_, fun handled hmem id hid => ?_, fun other => ?_,
    fun id taken later hlast => ?_, fun id other hpinned => ?_⟩
  · by_contra hnot
    exact hhandled.keys id (fun hkey => hnot (h.keys id hkey)) hid
  · rcases List.mem_cons.1 hmem with rfl | hmem
    · exact h.keys id (List.mem_filter.1 hid).1
    · exact h.taken handled hmem id hid
  · show Controls.WellBuilt (Function.update card.members uid controls other)
    by_cases hother : other = uid
    · subst hother
      rw [Function.update_self]
      exact (h.built other).notifyControls.congr fun id =>
        (hnotified id).trans get?_notifyControls.symm
    · rw [Function.update_of_ne hother]
      exact h.built other
  · dsimp only at hlast ⊢
    rw [lastTaken] at hlast
    dsimp only at hlast
    split at hlast
    case isTrue hmem =>
      cases hlast
      -- the control shows the answer of this member, and otherwise what it showed before
      exact agreesWith_taken hhandled h hevent (h.keys id (List.mem_filter.1 hmem).1) (hids.1 hmem)
    case isFalse hmem =>
      obtain ⟨⟨taken', later'⟩, hfound, heq⟩ := Option.map_eq_some_iff.1 hlast
      cases heq
      exact agreesWith_kept hhandled h (Bool.eq_false_iff.2 fun htake => hmem (hids.2 htake)) hfound
  · dsimp only at hpinned ⊢
    rw [lastTaken]
    dsimp only
    cases htake : card.group.takes uid (card.members uid) event id with
    | true =>
      rw [hhandled.pinned id htake] at hpinned
      rw [if_pos (hids.2 htake)]
      exact ⟨_, _, rfl, Option.some.inj hpinned⟩
    | false =>
      rw [if_neg fun hmem => Bool.false_ne_true (htake.symm.trans (hids.1 hmem))]
      obtain ⟨taken, later, hlast, huid⟩ := h.pinned id other (hhandled.kept id htake other hpinned)
      rw [hlast]
      exact ⟨_, _, rfl, huid⟩

lemma Inv.of_reach (h : groupCard.Reach FindsOnOff card) : card.Inv := by
  refine h.invariant (fun _ => IsInit.inv) fun card cardEvent card' h hevent hstep => ?_
  cases cardEvent with
  | member uid event => exact Option.some.inj hstep ▸ h.member hevent
  | outside uid event => exact Option.some.inj hstep ▸ h.outside
  | update newCandidates => exact Option.some.inj hstep ▸ h.update newCandidates

end GroupCard

/-- On a group card a value, its setpoints and the on_off come from one member, as long as no
predicted level is taken that the on_off refuses. -/
theorem agrees_of_findsOnOff {card : GroupCard} (h : groupCard.Reach FindsOnOff card) :
    card.Agrees ∧ card.AnswersTwice := by
  have hinv := GroupCard.Inv.of_reach h
  exact ⟨hinv.agrees, fun uid id hid control hget event hevent =>
    Control.notify_twice ((hinv.built uid).asked id hid control hget) hevent.namesColours⟩

section TwoLamps

/-- A lamp that shows raw levels and has no on_off of its own. -/
def lampControls : GearControls where
  dimmingCurveState := ⟨fun raw => toString raw, fun raw => toString raw⟩
  maxLevel := some 254
  minLevel := some 1
  sceneLevel _ := none
  hasOnOff := false
  colourType := none
  tcKelvinMirek := id
  wantedTemperature := "4000"
  others := []
  others_ids _ h := nomatch h

/-- A group whose first lamp is on. -/
def lampsCard : GroupCard where
  group :=
    { controls :=
        [(ControlId.onOff, ⟨.onOff, ⟨some "1", .none⟩⟩),
          (ControlId.actualLevel, ⟨.base, ⟨some "254", .none⟩⟩),
          ("wanted_level", ⟨.wantedLevel lampControls.dimmingCurveState, ⟨some "254", .none⟩⟩),
          ("dapc", ⟨.dapc, ⟨some "254", .none⟩⟩)]
      stateSource := .make ((∅ : Dict ControlId (List Uid)).set ControlId.actualLevel ["lamp1"]) }
  members _ := lampControls.buildMqttControls
  handled := []

lemma isInit_lampsCard : lampsCard.IsInit :=
  ⟨fun _ => ⟨lampControls, rfl⟩, ⟨_, rfl, by decide⟩, rfl⟩

/-- The first lamp is switched off. -/
theorem agrees_switchedOff :
    (lampsCard.handle "lamp1" (.levelChanged (some 0) .observed false)).group.shown
      ControlId.actualLevel =
        some (some "0") ∧
      (lampsCard.handle "lamp1" (.levelChanged (some 0) .observed false)).Agrees ∧
      (lampsCard.handle "lamp1" (.levelChanged (some 0) .observed false)).AnswersTwice := by
  refine ⟨by decide +kernel, agrees_of_findsOnOff (.step (.init isInit_lampsCard) ?_
    (show groupCard.step lampsCard (.member "lamp1" (.levelChanged (some 0) .observed false)) = _
      from rfl))⟩
  refine ⟨nofun, fun uid raw _ _ state hstate => ?_⟩
  cases (show lampsCard.group.controls.get? ControlId.onOff = some ⟨.onOff, ⟨some "1", .none⟩⟩
    from rfl).symm.trans hstate
  exact .inl rfl

/-- The first lamp does not answer. -/
def unansweredCard : GroupCard := lampsCard.handle "lamp1" (.levelChanged none .read true)

/-- A second lamp joins the group. -/
def joinedCard : GroupCard :=
  { unansweredCard with
    group := { unansweredCard.group with
      stateSource := unansweredCard.group.stateSource.updateCandidates
        ((∅ : Dict ControlId (List Uid)).set ControlId.actualLevel ["lamp1", "lamp2"]) } }

/-- The second lamp is switched off. -/
def refusedCard : GroupCard := joinedCard.handle "lamp2" (.levelChanged (some 0) .observed false)

lemma reach_refusedCard : groupCard.Reach (fun _ cardEvent => cardEvent.IsMade) refusedCard := by
  have hunanswered : groupCard.Reach (fun _ cardEvent => cardEvent.IsMade) unansweredCard :=
    .step (.init isInit_lampsCard)
      (show (CardEvent.member "lamp1" (.levelChanged none .read true)).IsMade from nofun) rfl
  have hjoined : groupCard.Reach (fun _ cardEvent => cardEvent.IsMade) joinedCard :=
    .step hunanswered (show (CardEvent.update
      ((∅ : Dict ControlId (List Uid)).set ControlId.actualLevel ["lamp1", "lamp2"])).IsMade from
        trivial) rfl
  exact .step hjoined
    (show (CardEvent.member "lamp2" (.levelChanged (some 0) .observed false)).IsMade from nofun) rfl

/-- The group shows the level of the second lamp, and its on_off is still on. -/
theorem not_agrees_refusedCard :
    ¬∀ card : GroupCard, groupCard.Reach (fun _ cardEvent => cardEvent.IsMade) card →
      card.Agrees ∧ card.AnswersTwice := by
  intro h
  obtain ⟨hagrees, -⟩ := h refusedCard reach_refusedCard
  have htaken : ControlId.actualLevel ∈ joinedCard.group.stateSource.keys.filter
      (joinedCard.group.takes "lamp2" (joinedCard.members "lamp2")
        (.levelChanged (some 0) .observed false)) := by
    decide +kernel
  have honOff : refusedCard.group.controls.get? ControlId.onOff =
      some ⟨.onOff, ⟨some "1", .read⟩⟩ := by
    rfl
  obtain ⟨handled, hmem, -, -, raw, source, hevent, hvalue⟩ :=
    (hagrees ControlId.actualLevel _ [] (if_pos htaken)).onOff rfl _ honOff
  rw [List.mem_singleton.1 hmem] at hevent
  cases hevent
  exact absurd hvalue (by decide)

end TwoLamps

end WbMqttDali.EventSync
