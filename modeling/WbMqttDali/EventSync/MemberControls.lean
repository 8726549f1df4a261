import WbMqttDali.EventSync.Controls

/-!
# What the controls of a group's member answer

A group asks the controls of a member again with an event that the member has handled.  The
controls that it asks give a repeated event the same answer, and the setpoint of a state
control answers whenever the state control answers with a value.
-/

namespace WbMqttDali.EventSync

/-! ### Lists of controls -/

namespace Controls

variable {controls : Controls} {id id' : ControlId} {control : Control}

lemma get?_put : (controls.put id control).get? id' =
    if id' = id then (controls.get? id).map fun _ => control else controls.get? id' := by
  unfold put get?
  induction controls with
  | nil => simp
  | cons e controls ih =>
    obtain ⟨id'', c⟩ := e
    rw [List.map_cons]
    by_cases hid : id'' = id
    · subst hid
      by_cases heq : id' = id''
      · simp [heq]
      · simp only [if_true, List.lookup_cons, beq_eq_false_iff_ne.2 heq, ih, if_neg heq]
    · by_cases heq : id' = id''
      · subst heq
        simp [hid]
      · have hbeq : (id' == id'') = false := beq_eq_false_iff_ne.2 heq
        have hbeq' : (id == id'') = false := beq_eq_false_iff_ne.2 (Ne.symm hid)
        simp only [if_neg hid, List.lookup_cons, hbeq, hbeq', ih]

lemma mem_of_get? (h : controls.get? id = some control) : (id, control) ∈ controls := by
  induction controls with
  | nil => cases h
  | cons e controls ih =>
    obtain ⟨id', c⟩ := e
    rw [get?, List.lookup_cons] at h
    split at h
    · next heq =>
      obtain rfl := Option.some.inj h
      exact eq_of_beq heq ▸ List.mem_cons_self
    · exact List.mem_cons_of_mem _ (ih h)

end Controls

/-! ### Repeated events -/

/-- A predicted colour has a value for each of its components. -/
def BusEvent.NamesColours : BusEvent → Prop
  | .colourChanged components .observed _ => ∀ component raw?,
      components.get? component = some raw? →
        ∃ raw, raw? = some raw ∧ isUnsetComponentValue component raw = false
  | _ => True

/-- Colours are predicted by `apply_observed_colour` alone. -/
def BusEvent.IsMade (event : BusEvent) : Prop :=
  ∀ components failed, event = .colourChanged components .observed failed →
    ∃ (handler : Type8Parameters) (observed : Dict ColourComponent ℕ),
      (handler.applyObservedColour observed).2 = some event

lemma namesColours_applyObservedColour {handler : Type8Parameters}
    {observed : Dict ColourComponent ℕ} {event : BusEvent}
    (h : (handler.applyObservedColour observed).2 = some event) : event.NamesColours := by
  unfold Type8Parameters.applyObservedColour at h
  split at h
  · cases h
  · split at h
    · cases h
    · dsimp only at h
      split at h
      · cases h
      · obtain rfl := Option.some.inj h
        intro component raw? hget
        rw [Dict.get?_foldl_set_last Prod.fst (fun e => some e.2), Dict.get?_empty, Option.or_none]
          at hget
        obtain ⟨e, hfind, rfl⟩ := Option.map_eq_some_iff.1 hget
        have hknown := (List.mem_filter.1 (List.mem_reverse.1 (List.mem_of_find?_eq_some hfind))).2
        have heq := List.find?_some hfind
        obtain rfl : e.1 = component := by simpa using heq
        exact ⟨e.2, rfl, by simpa using hknown⟩

lemma BusEvent.IsMade.namesColours {event : BusEvent} (h : event.IsMade) : event.NamesColours := by
  cases event with
  | levelChanged rawLevel source failed => trivial
  | colourChanged components source failed =>
    cases source with
    | read => trivial
    | observed =>
      obtain ⟨handler, observed, hobserved⟩ := h components failed rfl
      exact namesColours_applyObservedColour hobserved

namespace Control

variable {control : Control} {event : BusEvent}

/-- The controls that follow a crossing of thresholds answer it once. -/
def IsAsked (control : Control) : Prop := ∀ c, control.cls ≠ .lastActed c

lemma actualLevel_notify_twice (c : ActualLevel) (state : ControlState) :
    (c.notify state event).1.notify event = c.notify state event := by
  cases event with
  | colourChanged components source failed => rfl
  | levelChanged rawLevel source failed =>
    cases failed with
    | true => rfl
    | false =>
      by_cases hrefused : source = .observed ∧ state.error ≠ .none
      · simp [ActualLevel.notify, notify, hrefused]
      · cases rawLevel with
        | none => simp [ActualLevel.notify, notify]
        | some raw =>
          simp only [ActualLevel.notify, notify, if_neg hrefused, Bool.false_eq_true, if_false,
            ControlState.ofValue]
          by_cases hraw : raw ≤ maxGearLevel
          · simp [hraw]
          · simp [hraw]

lemma onOff_notify_twice (state : ControlState) :
    (onOffNotify state event).1.notify event = onOffNotify state event := by
  cases event with
  | colourChanged components source failed => rfl
  | levelChanged rawLevel source failed =>
    cases failed with
    | true => rfl
    | false =>
      cases rawLevel with
      | none => rfl
      | some raw =>
        by_cases hrefused : source = .observed ∧ state.error ≠ .none
        · simp [onOffNotify, notify, hrefused]
        · simp only [onOffNotify, notify, if_neg hrefused, Bool.false_eq_true, if_false,
            ControlState.ofValue]
          simp

/-- A component is carried that is empty or names no colour. -/
def hasUnset (c : ColourComponents) (components : Dict ColourComponent (Option ℕ)) : Bool :=
  (c.components.filterMap fun component => (components.get? component).map (component, ·)).any
    fun e => e.2.all (isUnsetComponentValue e.1)

lemma colour_notify_twice (c : ColourComponents) (state : ControlState)
    (h : ∀ components failed, event = .colourChanged components .observed failed →
      hasUnset c components = false) :
    (c.notify state event).1.notify event = c.notify state event := by
  cases event with
  | levelChanged rawLevel source failed => rfl
  | colourChanged components source failed =>
    unfold ColourComponents.notify
    dsimp only
    split
    case isTrue hfew => simp [notify, ColourComponents.notify, hfew]
    case isFalse hfew =>
      split
      case isTrue hrefused => simp [notify, ColourComponents.notify, hfew, hrefused]
      case isFalse hrefused =>
        split
        case isTrue hunset =>
          have hread : source ≠ .observed := fun hobserved =>
            absurd hunset (by simpa [hasUnset] using h components failed (hobserved ▸ rfl))
          cases hwritable : c.writable with
          | true => simp [notify, ColourComponents.notify, hfew, hwritable, hunset]
          | false =>
            simp [notify, ColourComponents.notify, hfew, hwritable, hunset, hread,
              ControlState.failRead]
        case isFalse hunset =>
          cases hwritable : c.writable with
          | true =>
            simp [notify, ColourComponents.notify, hfew, hwritable, hunset, ControlState.setValue]
          | false =>
            simp [notify, ColourComponents.notify, hfew, hwritable, hunset, ControlState.ofValue]

/-- A repeated event is answered in the same way and leaves the control as it is. -/
theorem notify_twice (h : control.IsAsked) (hevent : event.NamesColours) :
    (control.notify event).1.notify event = control.notify event := by
  obtain ⟨cls, state⟩ := control
  cases cls with
  | actualLevel c => exact actualLevel_notify_twice c state
  | wantedLevel curve => rcases event with ⟨_ | raw, source, failed⟩ | _ <;> rfl
  | dapc => rcases event with ⟨_ | raw, source, failed⟩ | _ <;> rfl
  | onOff => exact onOff_notify_twice state
  | lastActed c => exact absurd rfl (h c)
  | colour c =>
    refine colour_notify_twice c state ?_
    rintro components failed rfl
    refine List.any_eq_false.2 fun e hmem hunset => ?_
    obtain ⟨component, -, hcomponent⟩ := List.mem_filterMap.1 hmem
    obtain ⟨raw?, hget, rfl⟩ := Option.map_eq_some_iff.1 hcomponent
    obtain ⟨raw, rfl, hset⟩ := hevent component raw? hget
    rw [Option.all_some, hset] at hunset
    cases hunset
  | base => rfl

/-! ### Classes -/

lemma cls_actualLevel_notify (c : ActualLevel) (state : ControlState) :
    ∃ c', (c.notify state event).1.cls = .actualLevel c' := by
  unfold ActualLevel.notify
  split
  · exact ⟨_, rfl⟩
  · split
    · exact ⟨_, rfl⟩
    · split
      · exact ⟨_, rfl⟩
      · split <;> exact ⟨_, rfl⟩

lemma cls_wantedLevelNotify (curve : DimmingCurveState) (state : ControlState) :
    (wantedLevelNotify curve state event).1.cls = .wantedLevel curve := by
  rcases event with ⟨_ | raw, source, failed⟩ | _ <;> rfl

lemma cls_dapcNotify (state : ControlState) : (dapcNotify state event).1.cls = .dapc := by
  rcases event with ⟨_ | raw, source, failed⟩ | _ <;> rfl

lemma cls_onOffNotify (state : ControlState) : (onOffNotify state event).1.cls = .onOff := by
  unfold onOffNotify
  split
  · rfl
  · split
    · rfl
    · split
      · rfl
      · split <;> rfl

lemma cls_colour_notify (c : ColourComponents) (state : ControlState) :
    (c.notify state event).1.cls = .colour c := by
  unfold ColourComponents.notify
  split
  · rfl
  · dsimp only
    split
    · rfl
    · split
      · rfl
      · split
        · split <;> rfl
        · rfl

lemma IsAsked.notify (h : control.IsAsked) : (control.notify event).1.IsAsked := by
  intro c' hcls
  obtain ⟨cls, state⟩ := control
  cases cls with
  | actualLevel c =>
    obtain ⟨c'', hc''⟩ := @cls_actualLevel_notify event c state
    cases hc''.symm.trans hcls
  | wantedLevel curve => cases (cls_wantedLevelNotify curve state).symm.trans hcls
  | dapc => cases (cls_dapcNotify state).symm.trans hcls
  | onOff => cases (cls_onOffNotify state).symm.trans hcls
  | lastActed c => exact h c rfl
  | colour c => cases (cls_colour_notify c state).symm.trans hcls
  | base => cases hcls

end Control

/-! ### Setpoints -/

/-- A setpoint of the same quantity as a state control. -/
inductive Mirrors : ControlClass → ControlClass → Prop
  | wantedLevel (c : ActualLevel) (curve : DimmingCurveState) :
    Mirrors (.actualLevel c) (.wantedLevel curve)
  | dapc (c : ActualLevel) : Mirrors (.actualLevel c) .dapc
  | colour (c c' : ColourComponents) (hstate : c.writable = false) (hsetpoint : c'.writable = true)
    (hcomponents : c'.components = c.components) : Mirrors (.colour c) (.colour c')

variable {control setpoint : Control} {event : BusEvent}

lemma Mirrors.notify (h : Mirrors control.cls setpoint.cls) :
    Mirrors (control.notify event).1.cls (setpoint.notify event).1.cls := by
  obtain ⟨cls, state⟩ := control
  obtain ⟨cls', state'⟩ := setpoint
  cases h with
  | wantedLevel c curve =>
    obtain ⟨c', hc'⟩ := @Control.cls_actualLevel_notify event c state
    show Mirrors (c.notify state event).1.cls (wantedLevelNotify curve state' event).1.cls
    rw [hc', Control.cls_wantedLevelNotify]
    exact .wantedLevel c' curve
  | dapc c =>
    obtain ⟨c', hc'⟩ := @Control.cls_actualLevel_notify event c state
    show Mirrors (c.notify state event).1.cls (dapcNotify state' event).1.cls
    rw [hc', Control.cls_dapcNotify]
    exact .dapc c'
  | colour c c' hstate hsetpoint hcomponents =>
    show Mirrors (c.notify state event).1.cls (c'.notify state' event).1.cls
    rw [Control.cls_colour_notify, Control.cls_colour_notify]
    exact .colour c c' hstate hsetpoint hcomponents

/-- A state control that answers with a level names it. -/
lemma exists_rawLevel {c : ActualLevel} {state : ControlState}
    (hpublish : (c.notify state event).2 = .publishState)
    (herror : (c.notify state event).1.state.error = .none) :
    ∃ raw source, event = .levelChanged (some raw) source false := by
  unfold ActualLevel.notify at hpublish herror
  split at hpublish
  case h_1 => cases hpublish
  case h_2 rawLevel source failed =>
    cases failed with
    | true => cases herror
    | false =>
      rw [if_neg Bool.false_ne_true] at hpublish
      split at hpublish
      · cases hpublish
      · split at hpublish
        · cases hpublish
        · exact ⟨_, _, rfl⟩

/-- The setpoint of a state control answers an event that the state control answers with a
value. -/
theorem Mirrors.answers (h : Mirrors control.cls setpoint.cls)
    (hpublish : (control.notify event).2 = .publishState)
    (herror : (control.notify event).1.state.error = .none) :
    (setpoint.notify event).2 = .publishState ∧
      ((setpoint.notify event).1.state.value).isSome := by
  obtain ⟨cls, state⟩ := control
  obtain ⟨cls', state'⟩ := setpoint
  cases h with
  | wantedLevel c curve =>
    obtain ⟨raw, source, rfl⟩ := exists_rawLevel hpublish herror
    exact ⟨rfl, rfl⟩
  | dapc c =>
    obtain ⟨raw, source, rfl⟩ := exists_rawLevel hpublish herror
    exact ⟨rfl, rfl⟩
  | colour c c' hstate hsetpoint hcomponents =>
    change (c.notify state event).2 = .publishState at hpublish
    change (c.notify state event).1.state.error = .none at herror
    show (c'.notify state' event).2 = .publishState ∧
      ((c'.notify state' event).1.state.value).isSome
    unfold ColourComponents.notify at hpublish herror ⊢
    rw [hcomponents]
    cases event with
    | levelChanged rawLevel source failed => cases hpublish
    | colourChanged components source failed =>
      dsimp only at hpublish herror ⊢
      split at hpublish
      case isTrue => cases hpublish
      case isFalse hfew =>
        split at hpublish
        case isTrue => cases hpublish
        case isFalse hrefused =>
          rw [if_neg hfew, if_neg hrefused] at herror
          split at hpublish
          case isTrue hunset =>
            rw [if_pos hunset, hstate] at herror
            cases herror
          case isFalse hunset =>
            rw [if_neg hfew, if_neg (by simp [hsetpoint]), if_neg hunset, hsetpoint]
            exact ⟨rfl, rfl⟩

/-! ### The controls of a gear device -/

/-- The controls with `is_group_state_control`. -/
def groupStateIds : List ControlId :=
  [ControlId.actualLevel, "current_rgb", "current_white", "current_colour_temperature"]

/-- What the controls of a gear device are made from. -/
structure GearControls where
  dimmingCurveState : DimmingCurveState
  maxLevel : Option ℕ
  minLevel : Option ℕ
  sceneLevel : ℕ → Option ℕ
  hasOnOff : Bool
  colourType : Option ColourType
  tcKelvinMirek : ℕ → ℕ
  /-- The default of the wanted colour temperature, from the limits. -/
  wantedTemperature : String
  /-- The controls of the other device types, and the buttons. -/
  others : Controls
  others_ids : ∀ e ∈ others, ∀ pair ∈ setpointState, e.1 ≠ pair.1 ∧ e.1 ≠ pair.2

namespace GearControls

variable (gear : GearControls)

def colourControl (id : ControlId) (components : List ColourComponent) (format : ColourFormat)
    (writable : Bool) (value : String) : ControlId × Control :=
  (id, ⟨.colour ⟨components, writable, format⟩, ⟨some value, .none⟩⟩)

/-- `get_mqtt_controls` of the DT8 handler. -/
def colourControls : Controls :=
  match gear.colourType with
  | none => []
  | some .rgbwaf =>
    [colourControl "current_rgb" [.red, .green, .blue] .rgb false "0;0;0",
      colourControl "set_rgb" [.red, .green, .blue] .rgb true "0;0;0",
      colourControl "current_white" [.white] (.single .white) false "0",
      colourControl "set_white" [.white] (.single .white) true "0"]
  | some .colourTemperature =>
    [colourControl "current_colour_temperature" [.colourTemperature]
        (.temperature gear.tcKelvinMirek) false "4000",
      colourControl "set_colour_temperature" [.colourTemperature]
        (.temperature gear.tcKelvinMirek) true gear.wantedTemperature]
  | some .primaryN => (List.finRange 6).flatMap fun i =>
    [colourControl s!"current_primary_n{i}" [.primaryN i] (.single (.primaryN i)) false "0",
      colourControl s!"set_primary_n{i}" [.primaryN i] (.single (.primaryN i)) true "0"]
  | some .xy =>
    [colourControl "current_x_coordinate" [.xCoordinate] (.single .xCoordinate) false "0",
      colourControl "current_y_coordinate" [.yCoordinate] (.single .yCoordinate) false "0",
      colourControl "set_x_coordinate" [.xCoordinate] (.single .xCoordinate) true "0",
      colourControl "set_y_coordinate" [.yCoordinate] (.single .yCoordinate) true "0"]

/-- The controls that follow level and colour events, with those of the device itself first. -/
def ownControls : Controls :=
  (if gear.hasOnOff then [(ControlId.onOff, ⟨.onOff, ⟨some "0", .read⟩⟩)] else []) ++
    [(ControlId.actualLevel, ⟨.actualLevel ⟨gear.dimmingCurveState, gear.maxLevel, gear.minLevel,
        gear.sceneLevel, none⟩, ⟨some "0", .none⟩⟩),
      ("wanted_level", ⟨.wantedLevel gear.dimmingCurveState, ⟨some "0", .none⟩⟩),
      ("dapc", ⟨.dapc, ⟨some "0", .none⟩⟩)] ++
    gear.colourControls

/-- `_build_mqtt_controls` -/
def buildMqttControls : Controls := gear.ownControls ++ gear.others

end GearControls

/-- What a group may ask of a member. -/
def askedIds : List ControlId := groupStateIds ++ setpointState.map Prod.fst

/-- The controls of a member as its group counts on them. -/
structure Controls.WellBuilt (controls : Controls) : Prop where
  asked : ∀ id ∈ askedIds, ∀ control, controls.get? id = some control → control.IsAsked
  mirrors : ∀ pair ∈ setpointState, pair.2 ∈ groupStateIds → ∀ control,
    controls.get? pair.2 = some control →
      ∃ setpoint, controls.get? pair.1 = some setpoint ∧ Mirrors control.cls setpoint.cls
  level : ∀ control, controls.get? ControlId.actualLevel = some control →
    ∃ c, control.cls = .actualLevel c

section WellBuilt

variable {gear : GearControls} {id : ControlId}

lemma exists_pair_of_mem_askedIds (h : id ∈ askedIds) :
    ∃ pair ∈ setpointState, id = pair.1 ∨ id = pair.2 := by
  rcases List.mem_append.1 h with hstate | hsetpoint
  · have hstates : ∀ id ∈ groupStateIds, ∃ pair ∈ setpointState, id = pair.2 := by decide
    obtain ⟨pair, hpair, heq⟩ := hstates id hstate
    exact ⟨pair, hpair, .inr heq⟩
  · obtain ⟨pair, hpair, rfl⟩ := List.mem_map.1 hsetpoint
    exact ⟨pair, hpair, .inl rfl⟩

/-- The other controls have other identifiers. -/
lemma get?_buildMqttControls (h : ∃ pair ∈ setpointState, id = pair.1 ∨ id = pair.2) :
    gear.buildMqttControls.get? id = gear.ownControls.get? id := by
  obtain ⟨pair, hpair, hid⟩ := h
  have hnone : gear.others.lookup id = none := by
    refine List.lookup_eq_none_iff.2 fun e he => ?_
    obtain ⟨hfst, hsnd⟩ := gear.others_ids e he pair hpair
    rcases hid with rfl | rfl
    · exact bne_iff_ne.2 hfst.symm
    · exact bne_iff_ne.2 hsnd.symm
  show (gear.ownControls ++ gear.others).lookup id = gear.ownControls.lookup id
  rw [List.lookup_append, hnone, Option.or_none]

lemma isAsked_colourControls : ∀ e ∈ gear.colourControls, e.2.IsAsked := by
  intro e he c
  unfold GearControls.colourControls at he
  split at he
  · cases he
  · simp only [List.mem_cons, List.not_mem_nil, or_false] at he
    rcases he with rfl | rfl | rfl | rfl <;> exact nofun
  · simp only [List.mem_cons, List.not_mem_nil, or_false] at he
    rcases he with rfl | rfl <;> exact nofun
  · obtain ⟨i, -, hi⟩ := List.mem_flatMap.1 he
    simp only [List.mem_cons, List.not_mem_nil, or_false] at hi
    rcases hi with rfl | rfl <;> exact nofun
  · simp only [List.mem_cons, List.not_mem_nil, or_false] at he
    rcases he with rfl | rfl | rfl | rfl <;> exact nofun

lemma isAsked_ownControls : ∀ e ∈ gear.ownControls, e.2.IsAsked := by
  intro e he
  rcases List.mem_append.1 he with hown | hcolour
  · rcases List.mem_append.1 hown with honOff | hlevel
    · split at honOff
      · rw [List.mem_singleton.1 honOff]
        exact nofun
      · cases honOff
    · simp only [List.mem_cons, List.not_mem_nil, or_false] at hlevel
      rcases hlevel with rfl | rfl | rfl <;> exact nofun
  · exact isAsked_colourControls e hcolour

/-- A colour control is among those of the colour type. -/
lemma get?_ownControls_colour
    (h : id ∉ [ControlId.onOff, ControlId.actualLevel, "wanted_level", "dapc"]) :
    gear.ownControls.get? id = Controls.get? gear.colourControls id := by
  simp only [List.mem_cons, List.not_mem_nil, or_false, not_or] at h
  obtain ⟨honOff, hlevel, hwanted, hdapc⟩ := h
  show List.lookup id (_ ++ _ ++ _) = List.lookup id gear.colourControls
  have hnone : List.lookup id (if gear.hasOnOff = true then
      [(ControlId.onOff, (⟨.onOff, ⟨some "0", .read⟩⟩ : Control))] else []) = none := by
    split
    · rw [List.lookup_cons, beq_eq_false_iff_ne.2 honOff]
      rfl
    · rfl
  rw [List.append_assoc, List.lookup_append, hnone, Option.none_or]
  simp only [List.cons_append, List.nil_append, List.lookup_cons, beq_eq_false_iff_ne.2 hlevel,
    beq_eq_false_iff_ne.2 hwanted, beq_eq_false_iff_ne.2 hdapc]

/-- A colour that is shown can be set. -/
lemma mirrors_colourControls {pair : ControlId × ControlId} {control : Control}
    (hpair : pair ∈ [("set_rgb", "current_rgb"), ("set_white", "current_white"),
      ("set_colour_temperature", "current_colour_temperature")])
    (h : Controls.get? gear.colourControls pair.2 = some control) :
    ∃ setpoint, Controls.get? gear.colourControls pair.1 = some setpoint ∧
      Mirrors control.cls setpoint.cls := by
  unfold GearControls.colourControls at h ⊢
  simp only [List.mem_cons, List.not_mem_nil, or_false] at hpair
  split at h
  · cases h
  · rcases hpair with rfl | rfl | rfl
    · obtain rfl := Option.some.inj h
      exact ⟨_, rfl, .colour _ _ rfl rfl rfl⟩
    · obtain rfl := Option.some.inj h
      exact ⟨_, rfl, .colour _ _ rfl rfl rfl⟩
    · cases h
  · rcases hpair with rfl | rfl | rfl
    · cases h
    · cases h
    · obtain rfl := Option.some.inj h
      exact ⟨_, rfl, .colour _ _ rfl rfl rfl⟩
  · rcases hpair with rfl | rfl | rfl <;> cases h
  · rcases hpair with rfl | rfl | rfl <;> cases h

lemma wellBuilt_buildMqttControls : gear.buildMqttControls.WellBuilt where
  asked id hid control hget := by
    rw [get?_buildMqttControls (exists_pair_of_mem_askedIds hid)] at hget
    exact isAsked_ownControls _ (Controls.mem_of_get? hget)
  mirrors pair hpair hstate control hget := by
    rw [get?_buildMqttControls ⟨pair, hpair, .inr rfl⟩] at hget
    rw [get?_buildMqttControls ⟨pair, hpair, .inl rfl⟩]
    -- the setpoints of the level, and those of the colours
    have hpairs : ∀ pair ∈ setpointState, pair.2 ∈ groupStateIds →
        pair ∈ [("wanted_level", ControlId.actualLevel), ("dapc", ControlId.actualLevel)] ∨
        pair ∈ [("set_rgb", "current_rgb"), ("set_white", "current_white"),
          ("set_colour_temperature", "current_colour_temperature")] := by
      decide
    rcases hpairs pair hpair hstate with hlevel | hcolour
    · simp only [List.mem_cons, List.not_mem_nil, or_false] at hlevel
      unfold GearControls.ownControls at hget ⊢
      cases hasOnOff : gear.hasOnOff with
      | true =>
        rw [hasOnOff] at hget
        rcases hlevel with rfl | rfl
        · obtain rfl := Option.some.inj hget
          exact ⟨_, rfl, .wantedLevel _ _⟩
        · obtain rfl := Option.some.inj hget
          exact ⟨_, rfl, .dapc _⟩
      | false =>
        rw [hasOnOff] at hget
        rcases hlevel with rfl | rfl
        · obtain rfl := Option.some.inj hget
          exact ⟨_, rfl, .wantedLevel _ _⟩
        · obtain rfl := Option.some.inj hget
          exact ⟨_, rfl, .dapc _⟩
    · have hids : ∀ pair ∈ [("set_rgb", "current_rgb"), ("set_white", "current_white"),
          ("set_colour_temperature", "current_colour_temperature")],
          pair.1 ∉ [ControlId.onOff, ControlId.actualLevel, "wanted_level", "dapc"] ∧
            pair.2 ∉ [ControlId.onOff, ControlId.actualLevel, "wanted_level", "dapc"] := by
        decide
      rw [get?_ownControls_colour (hids pair hcolour).2] at hget
      rw [get?_ownControls_colour (hids pair hcolour).1]
      exact mirrors_colourControls hcolour hget
  level control hget := by
    rw [get?_buildMqttControls
      ⟨("wanted_level", ControlId.actualLevel), by decide, .inr rfl⟩] at hget
    unfold GearControls.ownControls at hget
    cases hasOnOff : gear.hasOnOff with
    | true =>
      rw [hasOnOff] at hget
      obtain rfl := Option.some.inj hget
      exact ⟨_, rfl⟩
    | false =>
      rw [hasOnOff] at hget
      obtain rfl := Option.some.inj hget
      exact ⟨_, rfl⟩

variable {controls : Controls} {event : BusEvent}

lemma get?_notifyControls : Controls.get? (notifyControls controls event).1 id =
    (controls.get? id).map fun control => (control.notify event).1 := by
  show List.lookup id (controls.map _) = (List.lookup id controls).map _
  induction controls with
  | nil => rfl
  | cons e controls ih =>
    rw [List.map_cons, List.lookup_cons, List.lookup_cons]
    split
    · rfl
    · exact ih

lemma Controls.WellBuilt.congr {controls' : Controls} (h : controls.WellBuilt)
    (heq : ∀ id, controls'.get? id = controls.get? id) : controls'.WellBuilt where
  asked id hid control hget := h.asked id hid control (heq id ▸ hget)
  mirrors pair hpair hstate control hget := by
    rw [heq]
    exact h.mirrors pair hpair hstate control (heq pair.2 ▸ hget)
  level control hget := h.level control (heq ControlId.actualLevel ▸ hget)

lemma Controls.WellBuilt.notifyControls (h : controls.WellBuilt) :
    Controls.WellBuilt (notifyControls controls event).1 where
  asked id hid control hget := by
    rw [get?_notifyControls] at hget
    obtain ⟨control', hcontrol', rfl⟩ := Option.map_eq_some_iff.1 hget
    exact (h.asked id hid control' hcontrol').notify
  mirrors pair hpair hstate control hget := by
    rw [get?_notifyControls] at hget
    obtain ⟨control', hcontrol', rfl⟩ := Option.map_eq_some_iff.1 hget
    obtain ⟨setpoint, hsetpoint, hmirrors⟩ := h.mirrors pair hpair hstate control' hcontrol'
    refine ⟨(setpoint.notify event).1, ?_, hmirrors.notify⟩
    rw [get?_notifyControls, hsetpoint]
    rfl
  level control hget := by
    rw [get?_notifyControls] at hget
    obtain ⟨control', hcontrol', rfl⟩ := Option.map_eq_some_iff.1 hget
    obtain ⟨cls, state⟩ := control'
    obtain ⟨c, rfl⟩ := h.level _ hcontrol'
    exact Control.cls_actualLevel_notify c state

end WellBuilt

end WbMqttDali.EventSync
