import WbMqttDali.EventSync.Controls
import WbMqttDali.Lib.Transition
import WbMqttDali.Settings.Params

/-!
# Predicted levels and the limits of the gear

The step and recall predictions stay within the minimum and maximum level of
the gear.  `DAPC` and `GoToScene` predict the level that they name, limits or
not, and the next steps go on from there.  So the predictions are levels the
gear can have iff the levels named on the bus and stored in the scenes are.
-/

namespace WbMqttDali.EventSync

/-! ### Scene levels -/

def ScenesSettings.sceneLevel (s : ScenesSettings) (index : ℕ) : Option ℕ :=
  (s.sceneColour index).map (·.level)

/-- `_scene_level_source`: DT8 gear keeps scene levels on its colour scenes. -/
inductive SceneLevelSource
  | scenesSettings (settings : ScenesSettings)
  | scenesParam (scenes : Settings.ScenesParam)

def SceneLevelSource.sceneLevel : SceneLevelSource → ℕ → Option ℕ
  | .scenesSettings settings => settings.sceneLevel
  | .scenesParam scenes => scenes.sceneLevel

/-! ### The levels of a gear -/

/-- The gear is off or lit within its limits. -/
def IsGearLevel (minimum maximum level : ℕ) : Prop := level = 0 ∨ level ∈ Set.Icc minimum maximum

instance (minimum maximum level : ℕ) : Decidable (IsGearLevel minimum maximum level) :=
  inferInstanceAs (Decidable (level = 0 ∨ level ∈ Set.Icc minimum maximum))

section Limits

variable {minimum maximum level : ℕ} {c : ActualLevel}

lemma IsGearLevel.stepUp (h : IsGearLevel minimum maximum level) (hpos : level ≠ 0) :
    IsGearLevel minimum maximum (min (level + 1) maximum) := by
  obtain ⟨hmin, hmax⟩ := h.resolve_left hpos
  exact .inr ⟨by omega, by omega⟩

lemma IsGearLevel.stepDown (h : IsGearLevel minimum maximum level) (hpos : level ≠ 0) :
    IsGearLevel minimum maximum (max (level - 1) minimum) := by
  obtain ⟨hmin, hmax⟩ := h.resolve_left hpos
  exact .inr ⟨by omega, by omega⟩

/-- `_predict_step` keeps to the limits. -/
lemma IsGearLevel.predictStep (h : IsGearLevel minimum maximum level) (hle : minimum ≤ maximum)
    (hmin : c.minLevel = some minimum) (hmax : c.maxLevel = some maximum) (command : LevelCommand) :
    ∀ predicted ∈ c.predictStep level command, IsGearLevel minimum maximum predicted := by
  intro predicted hpredicted
  cases command with
  | stepUp =>
    simp only [ActualLevel.predictStep, stepUpLevel, hmax] at hpredicted
    split at hpredicted
    · exact .inl (Option.some.inj hpredicted).symm
    · next hpos => exact Option.some.inj hpredicted ▸ h.stepUp hpos
  | stepDown =>
    simp only [ActualLevel.predictStep, hmin] at hpredicted
    split at hpredicted
    · exact .inl (Option.some.inj hpredicted).symm
    · next hpos => exact Option.some.inj hpredicted ▸ h.stepDown hpos
  | stepDownAndOff =>
    simp only [ActualLevel.predictStep, hmin] at hpredicted
    obtain rfl := Option.some.inj hpredicted
    show IsGearLevel minimum maximum (if level ≤ minimum then 0 else level - 1)
    split
    · exact .inl rfl
    · next hlt =>
      obtain ⟨-, hle⟩ := h.resolve_left (by omega)
      exact .inr ⟨by omega, by omega⟩
  | _ =>
    simp only [ActualLevel.predictStep, stepUpLevel, hmin, hmax] at hpredicted
    split at hpredicted
    · exact .inr (Option.some.inj hpredicted ▸ ⟨le_refl _, hle⟩)
    · next hpos => exact Option.some.inj hpredicted ▸ h.stepUp hpos

end Limits

namespace PredictedLevels

/-! ### The history of a control -/

structure State where
  control : ActualLevel
  state : ControlState
  /-- The levels predicted so far. -/
  predicted : List ℕ

inductive Event
  | read (rawLevel : ℕ)
  | failedRead
  | observe (command : LevelCommand)
  | readScenes (source : SceneLevelSource)

/-- The control is notified of an event. -/
def State.notify (s : State) (event : BusEvent) : State :=
  match (s.control.notify s.state event).1 with
  | ⟨.actualLevel control, state⟩ => { s with control := control, state := state }
  | _ => s

/-- The level part of `_apply_level`. -/
def State.observe (s : State) (command : LevelCommand) : State :=
  match s.control.predictLevel command with
  | none => s
  | some predicted =>
    { s.notify (.levelChanged (some predicted) .observed false) with
      predicted := s.predicted ++ [predicted] }

/-- The control of a gear with known limits, whose reads give levels the gear can have. -/
def transition (minimum maximum : ℕ) : Transition State Event where
  init s := minimum ≤ maximum ∧ s.control.minLevel = some minimum ∧
    s.control.maxLevel = some maximum ∧ s.control.level = none ∧ s.predicted = []
  step s
    | .read rawLevel =>
      if rawLevel = mask ∨ IsGearLevel minimum maximum rawLevel then
        some (s.notify (.levelChanged (some rawLevel) .read false))
      else none
    | .failedRead => some (s.notify (.levelChanged none .read true))
    | .observe command => some (s.observe command)
    | .readScenes source =>
      some { s with control := { s.control with sceneLevel := source.sceneLevel } }

/-- The predicted levels and the level the control keeps are levels the gear can have. -/
def Attainable (minimum maximum : ℕ) (s : State) : Prop :=
  (∀ level ∈ s.predicted, IsGearLevel minimum maximum level) ∧
    ∀ level ∈ s.control.level, IsGearLevel minimum maximum level

/-- A `DAPC` names mask or a level the gear can have, and so does the stored level of a scene
that is gone to. -/
def WithinLimits (minimum maximum : ℕ) (s : State) : Event → Prop
  | .observe (.dapc power) => power = mask ∨ IsGearLevel minimum maximum power
  | .observe (.goToScene param) =>
    ∀ level ∈ s.control.sceneLevel param, IsGearLevel minimum maximum level
  | _ => True

instance (minimum maximum : ℕ) (s : State) (e : Event) :
    Decidable (WithinLimits minimum maximum s e) := by
  unfold WithinLimits
  split <;> infer_instance

section Steps

variable {minimum maximum : ℕ} {s s' : State}

/-- An event only moves the level, to the one it carries. -/
lemma notify_control (s : State) (event : BusEvent) :
    ∃ level, (s.notify event).control = { s.control with level } ∧
      (s.notify event).predicted = s.predicted ∧
      (level = s.control.level ∨ ∃ raw source failed,
        event = .levelChanged (some raw) source failed ∧ level = some raw ∧
          raw ≤ maxGearLevel) := by
  cases event with
  | colourChanged => exact ⟨s.control.level, rfl, rfl, .inl rfl⟩
  | levelChanged rawLevel source failed =>
    simp only [State.notify, ActualLevel.notify]
    split_ifs with hfailed hobserved
    · exact ⟨s.control.level, rfl, rfl, .inl rfl⟩
    · exact ⟨s.control.level, rfl, rfl, .inl rfl⟩
    · cases rawLevel with
      | none => exact ⟨s.control.level, rfl, rfl, .inl rfl⟩
      | some raw =>
        refine ⟨_, rfl, rfl, ?_⟩
        split_ifs with hraw
        · exact .inr ⟨raw, source, failed, rfl, rfl, hraw⟩
        · exact .inl rfl

/-- The limits stay, and what is predicted and kept are levels of the gear. -/
structure Invariant (minimum maximum : ℕ) (s : State) : Prop where
  le : minimum ≤ maximum
  minLevel : s.control.minLevel = some minimum
  maxLevel : s.control.maxLevel = some maximum
  attainable : Attainable minimum maximum s

lemma Invariant.notify (h : Invariant minimum maximum s) {event : BusEvent}
    (hraw : ∀ raw source failed, event = .levelChanged (some raw) source failed →
      raw ≤ maxGearLevel → IsGearLevel minimum maximum raw) :
    Invariant minimum maximum (s.notify event) := by
  obtain ⟨level, hcontrol, hpredicted, hlevel⟩ := notify_control s event
  refine ⟨h.le, by rw [hcontrol]; exact h.minLevel, by rw [hcontrol]; exact h.maxLevel, ?_, ?_⟩
  · rw [hpredicted]
    exact h.attainable.1
  · rw [hcontrol]
    intro kept hkept
    change level = some kept at hkept
    rcases hlevel with rfl | ⟨raw, source, failed, hevent, rfl, hle⟩
    · exact h.attainable.2 kept hkept
    · exact Option.some.inj hkept ▸ hraw raw source failed hevent hle

/-- Everything but `DAPC` and `GoToScene` is predicted within the limits. -/
lemma Invariant.predictLevel (h : Invariant minimum maximum s) {command : LevelCommand}
    (hok : WithinLimits minimum maximum s (.observe command)) :
    ∀ predicted ∈ s.control.predictLevel command, IsGearLevel minimum maximum predicted := by
  intro predicted hpredicted
  cases command with
  | dapc power =>
    simp only [ActualLevel.predictLevel] at hpredicted
    split at hpredicted
    · cases hpredicted
    · next hne => exact Option.some.inj hpredicted ▸ hok.resolve_left hne
  | goToScene param => exact hok predicted hpredicted
  | off => exact .inl (Option.some.inj hpredicted).symm
  | recallMaxLevel =>
    have hpredicted : s.control.maxLevel = some predicted := hpredicted
    rw [h.maxLevel] at hpredicted
    exact .inr (Option.some.inj hpredicted ▸ ⟨h.le, le_refl _⟩)
  | recallMinLevel =>
    have hpredicted : s.control.minLevel = some predicted := hpredicted
    rw [h.minLevel] at hpredicted
    exact .inr (Option.some.inj hpredicted ▸ ⟨le_refl _, h.le⟩)
  | goToLastActiveLevel | up | down => cases hpredicted
  | stepUp | stepDown | stepDownAndOff | onAndStepUp =>
    obtain ⟨level, hlevel, hstep⟩ := Option.bind_eq_some_iff.1 hpredicted
    exact (h.attainable.2 level hlevel).predictStep h.le h.minLevel h.maxLevel _ predicted hstep

lemma Invariant.observe (h : Invariant minimum maximum s) {command : LevelCommand}
    (hok : WithinLimits minimum maximum s (.observe command)) :
    Invariant minimum maximum (s.observe command) := by
  have hpredict := h.predictLevel hok
  rw [State.observe]
  cases hpredicted : s.control.predictLevel command with
  | none => exact h
  | some predicted =>
    have hlevel := hpredict predicted hpredicted
    have hnotify : Invariant minimum maximum
        (s.notify (.levelChanged (some predicted) .observed false)) := by
      refine h.notify fun raw source failed hevent _ => ?_
      cases hevent
      exact hlevel
    refine ⟨hnotify.le, hnotify.minLevel, hnotify.maxLevel, fun level hmem => ?_,
      hnotify.attainable.2⟩
    rcases List.mem_append.1 hmem with hmem | hmem
    · exact h.attainable.1 level hmem
    · exact List.mem_singleton.1 hmem ▸ hlevel

lemma Invariant.step (h : Invariant minimum maximum s) {e : Event}
    (hok : WithinLimits minimum maximum s e)
    (hstep : (transition minimum maximum).step s e = some s') : Invariant minimum maximum s' := by
  cases e with
  | read rawLevel =>
    simp only [transition, Option.ite_none_right_eq_some, Option.some.injEq] at hstep
    obtain ⟨hread, rfl⟩ := hstep
    refine h.notify fun raw source failed hevent hle => ?_
    cases hevent
    -- a read of mask leaves the level
    exact hread.resolve_left fun hmask => by simp [hmask, mask, maxGearLevel] at hle
  | failedRead =>
    obtain rfl := Option.some.inj hstep
    exact h.notify fun raw source failed hevent => nomatch hevent
  | observe command =>
    obtain rfl := Option.some.inj hstep
    exact h.observe hok
  | readScenes source =>
    obtain rfl := Option.some.inj hstep
    exact ⟨h.le, h.minLevel, h.maxLevel, h.attainable⟩

end Steps

/-- In a history whose `DAPC` commands and scenes keep to the limits of the gear, so do the
predicted levels and the level kept for later predictions. -/
theorem attainable_of_withinLimits {minimum maximum : ℕ} {s : State}
    (h : (transition minimum maximum).Reach (WithinLimits minimum maximum) s) :
    Attainable minimum maximum s := by
  refine (h.invariant (I := Invariant minimum maximum) ?_ fun s e s' hs hok hstep =>
    hs.step hok hstep).attainable
  rintro s ⟨hle, hmin, hmax, hlevel, hpredicted⟩
  exact ⟨hle, hmin, hmax, by simp [hpredicted], by simp [hlevel]⟩

/-- A gear with the given limits of which nothing was read yet. -/
def unreadGear (minimum maximum : ℕ) : State :=
  ⟨⟨⟨toString, toString⟩, some maximum, some minimum, fun _ => none, none⟩, ⟨some "0", .none⟩, []⟩

lemma init_unreadGear {minimum maximum : ℕ} (h : minimum ≤ maximum) :
    (transition minimum maximum).init (unreadGear minimum maximum) :=
  ⟨h, rfl, rfl, rfl, rfl⟩

theorem attainable_stepUp :
    ∃ s, (transition 10 200).Reach (WithinLimits 10 200) s ∧ s.predicted = [200, 200, 199] ∧
      Attainable 10 200 s := by
  have hrun : ((transition 10 200).run (WithinLimits 10 200) (unreadGear 10 200)
      [.read 199, .observe .stepUp, .observe .stepUp, .observe .stepDown]).any
        (fun s => s.predicted = [200, 200, 199]) = true := by decide +kernel
  obtain ⟨s, hs, hpredicted⟩ := (Option.any_eq_true _ _).1 hrun
  have hreach : (transition 10 200).Reach (WithinLimits 10 200) s :=
    (Transition.Reach.init (init_unreadGear (by decide))).run hs
  exact ⟨s, hreach, of_decide_eq_true hpredicted, attainable_of_withinLimits hreach⟩

/-- A direct level beyond the maximum is predicted as it is, and the next step from there. -/
theorem not_attainable_dapc :
    ¬ ∀ minimum maximum s, (transition minimum maximum).Reachable s →
      Attainable minimum maximum s := by
  intro h
  have hrun : ((transition 10 200).run (fun _ _ => True) (unreadGear 10 200)
      [.observe (.dapc 254), .observe .stepDown]).any (fun s => 253 ∈ s.predicted) = true := by
    decide +kernel
  obtain ⟨s, hs, hpredicted⟩ := (Option.any_eq_true _ _).1 hrun
  have hreach : (transition 10 200).Reachable s :=
    (Transition.Reach.init (init_unreadGear (by decide))).run hs
  have hlevel := (h 10 200 s hreach).1 253 (of_decide_eq_true hpredicted)
  revert hlevel
  decide

/-- One command beyond the limits is enough. -/
theorem not_attainable_of_beyondLimits {minimum maximum : ℕ} {s s' : State} {e : Event}
    (hstep : (transition minimum maximum).step s e = some s')
    (hbeyond : ¬ WithinLimits minimum maximum s e) : ¬ Attainable minimum maximum s' := by
  have hnew : ∀ command predicted, s.control.predictLevel command = some predicted →
      ¬ IsGearLevel minimum maximum predicted → s.observe command = s' →
        ¬ Attainable minimum maximum s' := by
    rintro command predicted hpredicted hlevel rfl ⟨hall, -⟩
    refine hlevel (hall predicted ?_)
    simp [State.observe, hpredicted]
  cases e with
  | observe command =>
    cases command with
    | dapc power =>
      obtain ⟨hmask, hpower⟩ := not_or.1 hbeyond
      exact hnew (.dapc power) power (by simp [ActualLevel.predictLevel, hmask]) hpower
        (Option.some.inj hstep)
    | goToScene param =>
      simp only [WithinLimits, not_forall] at hbeyond
      obtain ⟨level, hscene, hlevel⟩ := hbeyond
      exact hnew (.goToScene param) level hscene hlevel (Option.some.inj hstep)
    | _ => exact absurd trivial hbeyond
  | _ => exact absurd trivial hbeyond

end PredictedLevels

end WbMqttDali.EventSync
