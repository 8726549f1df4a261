import Mathlib
import WbMqttDali.Controller.ControlQueue
import WbMqttDali.Lib.Fairness

/-!
# The last write of a control wins

What the waiting tasks say of the controls holds in every run, and a loop that keeps
going comes to every task.
-/

namespace WbMqttDali.Controller.ControlQueue

/-! ### The invariant -/

variable {τ : Type*} [DecidableEq τ] {controller : ApplicationController τ}

/-- The tasks that are not done: those in progress, the item at hand, and the queue. -/
def ApplicationController.located (controller : ApplicationController τ) : List (Task τ) :=
  controller.loop.inProgress ++ (controller.loop.item.toList ++ controller.tasksQueue)

structure Inv (controller : ApplicationController τ) : Prop where
  waits : Waits controller controller.tasksQueue
  isOpen : Open controller controller.located
  /-- The drain of a batch ends at a task of another kind. -/
  item : ∀ item, controller.loop.item = some item → item.control = none

lemma Inv.loopOver {items : List (Task τ)} (hwaits : Waits controller items)
    (hopen : Open controller items) : Inv (controller.loopOver items) := by
  induction items generalizing controller with
  | nil =>
    exact ⟨hwaits.update _ _ _ _ _, hopen.congr rfl rfl, fun _ h => nomatch h⟩
  | cons item items ih =>
    rw [ApplicationController.loopOver]
    split
    case isTrue => exact ih (hwaits.drop (hopen.pending item List.mem_cons_self)) hopen.drop
    case isFalse =>
      split
      case h_1 control hcontrol =>
        have hsplit := List.takeWhile_append_dropWhile (p := fun task : Task τ =>
          task.control.isSome) (l := item :: items)
        generalize (item :: items).takeWhile (fun task => task.control.isSome) = batch at hsplit ⊢
        cases hrest : (item :: items).dropWhile (fun task => task.control.isSome) with
        | nil =>
          rw [hrest] at hsplit
          refine ⟨?_, ?_, fun _ h => nomatch h⟩
          · exact Waits.update (Waits.takeOffAll (hsplit ▸ hwaits)) _ _ _ _ _
          · exact ((hsplit ▸ hopen).takeOffAll batch).congr rfl rfl
        | cons next rest =>
          rw [hrest] at hsplit
          have hnext : next.control = none := by
            have := List.head?_dropWhile_not (fun task : Task τ => task.control.isSome)
              (item :: items)
            rw [hrest] at this
            simpa using this
          refine ⟨?_, ?_, ?_⟩
          · have hall := Waits.takeOffAll (hsplit ▸ hwaits)
            exact Waits.update (hall.waiting_eq (waiting_cons_none hnext).symm) _ _ _ _ _
          · exact ((hsplit ▸ hopen).takeOffAll batch).congr rfl rfl
          · rintro _ ⟨⟩
            exact hnext
      case h_2 hcontrol =>
        refine ⟨?_, hopen.congr rfl rfl, fun _ h => nomatch h⟩
        exact Waits.update (hwaits.waiting_eq (waiting_cons_none hcontrol).symm) _ _ _ _ _

omit [DecidableEq τ] in
lemma settleAll_tasksQueue (controls : List (Task τ)) (errors : ℕ → Option String) :
    (controller.settleAll controls errors).tasksQueue = controller.tasksQueue := by
  induction controls generalizing controller with
  | nil => rfl
  | cons item controls ih => exact ih

lemma Inv.loopTop (hwaits : Waits controller controller.tasksQueue) {item : Option (Task τ)}
    (hitem : ∀ task, item = some task → task.control = none)
    (hopen : Open controller (item.toList ++ controller.tasksQueue)) :
    Inv (controller.loopTop item) := by
  refine Inv.loopOver ?_ hopen
  cases item with
  | none => exact hwaits
  | some task => exact hwaits.waiting_eq (waiting_cons_none (hitem task rfl))

lemma Inv.nextIteration (hwaits : Waits controller controller.tasksQueue)
    {item : Option (Task τ)} (hitem : ∀ task, item = some task → task.control = none)
    (hopen : Open controller (item.toList ++ controller.tasksQueue)) (intervalElapsed : Bool) :
    Inv (controller.nextIteration item intervalElapsed) := by
  unfold ApplicationController.nextIteration
  split
  case isTrue => exact ⟨hwaits.update _ _ _ _ _, hopen.congr rfl rfl, hitem⟩
  case isFalse => exact Inv.loopTop hwaits hitem hopen

lemma Inv.handleOnTopic (h : Inv controller) (place : τ) (payload : String) :
    Inv (controller.handleOnTopic place payload) := by
  unfold ApplicationController.handleOnTopic ApplicationController.getMqttControl
  by_cases hinstalled : controller.isInstalled place = true
  case neg => simpa [hinstalled] using h
  case pos =>
    simp only [hinstalled, if_true]
    split
    case isTrue hdirty => exact ⟨h.waits.replace rfl hdirty payload, h.isOpen.congr rfl rfl, h.item⟩
    case isFalse hdirty =>
      refine ⟨Waits.update (h.waits.put rfl hdirty payload controller.nextTask) _ _ _ _ _, ?_,
        h.item⟩
      have hput := h.isOpen.putTask (some ⟨place, controller.generation place⟩)
      rw [ApplicationController.located, List.append_assoc, List.append_assoc] at hput
      exact hput.congr rfl rfl

lemma Inv.step {e : Event τ} {next : ApplicationController τ} (h : Inv controller)
    (hstep : controller.step e = some next) : Inv next := by
  have hqueue : Open controller (controller.loop.item.toList ++ controller.tasksQueue) :=
    h.isOpen.sublist (List.sublist_append_right _ _)
  cases e with
  | onMessage place payload =>
    cases hstep
    exact h.handleOnTopic place payload
  | install place =>
    cases hstep
    refine ⟨⟨?_, h.waits.increasing, h.waits.dirty_iff, h.waits.sublist, h.waits.last⟩,
      h.isOpen.congr rfl rfl, h.item⟩
    -- a task that waits knows its place in a generation that is not newer
    intro control hcontrol
    refine (h.waits.generation_le control hcontrol).trans ?_
    by_cases hplace : control.place = place
    · subst hplace
      show _ ≤ Function.update controller.generation _ _ control.place
      rw [Function.update_self]
      exact Nat.le_succ _
    · exact (Function.update_of_ne hplace _ _).ge
  | uninstall place =>
    cases hstep
    exact ⟨h.waits.update _ _ _ _ _, h.isOpen.congr rfl rfl, h.item⟩
  | putTask =>
    cases hstep
    have hput := h.isOpen.putTask none
    rw [ApplicationController.located, List.append_assoc, List.append_assoc] at hput
    refine ⟨Waits.update (h.waits.waiting_eq ?_) _ _ _ _ _, hput, h.item⟩
    simp [waiting, ApplicationController.putTask]
  | removeTask id =>
    cases hstep
    refine ⟨Waits.update (h.waits.waiting_eq ?_) _ _ _ _ _, ?_, h.item⟩
    -- only tasks without a control are taken out of the queue
    · generalize controller.tasksQueue = queue
      induction queue with
      | nil => rfl
      | cons task queue ih =>
        cases hcontrol : task.control with
        | none =>
          rw [waiting_cons_none hcontrol, ← ih, List.filter_cons]
          split
          · exact waiting_cons_none hcontrol
          · rfl
        | some control =>
          rw [waiting_cons_some hcontrol, ← ih, List.filter_cons_of_pos (by simp [hcontrol])]
          exact waiting_cons_some hcontrol
    · refine Open.congr (h.isOpen.sublist ?_) rfl rfl
      exact List.Sublist.append (List.Sublist.refl _)
        (List.Sublist.append (List.Sublist.refl _) List.filter_sublist)
  | startQuiescentMode =>
    cases hstep
    exact ⟨h.waits.update _ _ _ _ _, h.isOpen.congr rfl rfl, h.item⟩
  | stopQuiescentMode =>
    cases hstep
    exact ⟨h.waits.update _ _ _ _ _, h.isOpen.congr rfl rfl, h.item⟩
  | wake =>
    rw [ApplicationController.step] at hstep
    split at hstep
    case isTrue hloop =>
      cases hstep
      exact Inv.loopTop h.waits (by simp)
        (hqueue.sublist (List.sublist_append_right _ _))
    case isFalse => cases hstep
  | timeout =>
    rw [ApplicationController.step] at hstep
    split at hstep
    case isTrue hloop =>
      have hopen := hqueue.sublist (List.sublist_append_right _ _)
      split at hstep <;> cases hstep
      · exact Inv.loopTop h.waits (by simp) hopen
      · exact ⟨h.waits.update _ _ _ _ _, hopen.congr rfl rfl, by simp [LoopPoint.item]⟩
    case isFalse => cases hstep
  | pollStepDone =>
    rw [ApplicationController.step] at hstep
    split at hstep
    case h_1 item hloop =>
      cases hstep
      have hitem := h.item
      rw [hloop] at hitem hqueue
      exact Inv.loopTop h.waits hitem hqueue
    case h_2 => cases hstep
  | controlsDone errors intervalElapsed =>
    rw [ApplicationController.step] at hstep
    split at hstep
    case h_1 controls item hloop =>
      cases hstep
      have hitem := h.item
      have hopen := h.isOpen
      rw [ApplicationController.located, hloop] at hopen
      rw [hloop] at hitem
      refine Inv.nextIteration ?_ hitem ?_ intervalElapsed
      · rw [settleAll_tasksQueue]
        exact h.waits.settleAll controls errors
      · rw [settleAll_tasksQueue]
        exact hopen.settleAll errors
    case h_2 => cases hstep
  | taskDone error intervalElapsed =>
    rw [ApplicationController.step] at hstep
    split at hstep
    case h_1 item hloop =>
      cases hstep
      have hopen := h.isOpen
      rw [ApplicationController.located, hloop] at hopen
      refine Inv.nextIteration (h.waits.settle _ _) ?_ (hopen.settle _) intervalElapsed
      rintro _ ⟨⟩
    case h_2 => cases hstep

theorem inv_of_reachable (h : (transition τ).Reachable controller) : Inv controller := by
  refine Transition.Reach.invariant (I := Inv) ?_ (fun _ _ _ h _ => h.step) h
  rintro _ rfl
  refine ⟨⟨?_, List.Pairwise.nil, ?_, fun place => List.Sublist.refl _, ?_⟩,
    ⟨List.nodup_nil, ?_, ?_, fun _ _ => rfl⟩, fun _ h => nomatch h⟩
  · rintro control ⟨⟩
  · intro control
    simp [ApplicationController.IsDirty, waiting]
  · rintro control payload ⟨⟩
  · rintro task ⟨⟩
  · rintro task ⟨⟩

/-! ### Progress -/

/-- The tasks ahead of the control's. -/
def ahead (control : Control τ) (tasks : List (Task τ)) : ℕ :=
  (tasks.takeWhile fun task => task.control ≠ some control).length

/-- How far the control's task is from being looked at; a loop that waits for an item may
once more stop waiting. -/
def distance (control : Control τ) (controller : ApplicationController τ) : ℕ :=
  2 * ahead control (controller.loop.item.toList ++ controller.tasksQueue) +
    if controller.loop = .getting then 1 else 0

omit [DecidableEq τ] in
lemma mem_waiting {control : Control τ} {tasks : List (Task τ)} :
    control ∈ waiting tasks ↔ ∃ task ∈ tasks, task.control = some control :=
  List.mem_filterMap

lemma ahead_append {control : Control τ} {tasks : List (Task τ)} (h : control ∈ waiting tasks)
    (more : List (Task τ)) : ahead control (tasks ++ more) = ahead control tasks := by
  induction tasks with
  | nil => cases h
  | cons task tasks ih =>
    by_cases hcontrol : task.control = some control
    · simp [ahead, hcontrol]
    · have hmem : control ∈ waiting tasks := by
        obtain ⟨other, hother, heq⟩ := mem_waiting.1 h
        rcases List.mem_cons.1 hother with rfl | hother
        · exact absurd heq hcontrol
        · exact mem_waiting.2 ⟨other, hother, heq⟩
      simpa [ahead, hcontrol] using ih hmem

lemma ahead_append_of_notMem {control : Control τ} {batch : List (Task τ)}
    (h : control ∉ waiting batch) (tasks : List (Task τ)) :
    ahead control (batch ++ tasks) = batch.length + ahead control tasks := by
  rw [ahead, List.takeWhile_append_of_pos, List.length_append, ahead]
  intro task htask
  exact decide_eq_true fun heq => h (mem_waiting.2 ⟨task, htask, heq⟩)

lemma ahead_filter_le (control : Control τ) (kept : Task τ → Bool)
    (hkept : ∀ task, kept task = false → task.control = none) (tasks : List (Task τ)) :
    ahead control (tasks.filter kept) ≤ ahead control tasks := by
  induction tasks with
  | nil => exact le_rfl
  | cons task tasks ih =>
    by_cases hcontrol : task.control = some control
    · have hkeep : kept task = true := by
        by_contra hnot
        rw [hkept task (by simpa using hnot)] at hcontrol
        cases hcontrol
      simp [ahead, hkeep, hcontrol]
    · have hcons : ahead control (task :: tasks) = ahead control tasks + 1 := by
        simp [ahead, hcontrol]
      rw [hcons, List.filter_cons]
      split
      · simpa [ahead, hcontrol] using ih
      · exact ih.trans (Nat.le_succ _)

lemma loopOver_quiescent {items : List (Task τ)} (h : controller.inQuiescentMode = true) :
    (controller.loopOver items).tasksQueue = [] := by
  induction items generalizing controller with
  | nil => rfl
  | cons item items ih =>
    rw [ApplicationController.loopOver, if_pos h]
    refine ih ?_
    unfold ApplicationController.drop ApplicationController.takeOff
    cases item.control <;> exact h

/-- The loop takes at least the first of the items. -/
lemma distance_loopOver {items : List (Task τ)} (hwaits : Waits controller items)
    (hopen : Open controller items) {control : Control τ}
    (hdirty : (controller.loopOver items).IsDirty control) :
    distance control (controller.loopOver items) < 2 * ahead control items := by
  have hinv := Inv.loopOver hwaits hopen
  have hmem := (hinv.waits.dirty_iff control).1 hdirty
  by_cases hquiescent : controller.inQuiescentMode = true
  · rw [loopOver_quiescent hquiescent] at hmem
    cases hmem
  · cases items with
    | nil => cases hmem
    | cons item items =>
      have hincreasing := hwaits.increasing
      rw [ApplicationController.loopOver, if_neg hquiescent] at hmem ⊢
      split at hmem
      case h_1 first hfirst =>
        have hsplit := List.takeWhile_append_dropWhile (p := fun task : Task τ =>
          task.control.isSome) (l := item :: items)
        have hbatch : 0 < ((item :: items).takeWhile fun task => task.control.isSome).length := by
          simp [hfirst]
        generalize (item :: items).takeWhile (fun task => task.control.isSome) = batch at *
        generalize (item :: items).dropWhile (fun task => task.control.isSome) = rest at *
        have hrest : rest.head?.toList ++ rest.tail = rest := by cases rest <;> rfl
        have hmem : control ∈ waiting rest := by
          obtain ⟨task, htask, heq⟩ := mem_waiting.1 hmem
          exact mem_waiting.2 ⟨task, List.mem_of_mem_tail htask, heq⟩
        have hnot : control ∉ waiting batch := by
          intro hin
          rw [← hsplit, waiting, List.filterMap_append, List.pairwise_append] at hincreasing
          exact lt_irrefl _ (hincreasing.2.2 control hin control hmem rfl)
        rw [← hsplit, ahead_append_of_notMem hnot]
        simp only [distance, LoopPoint.item, hrest, reduceCtorEq, if_false]
        omega
      case h_2 hfirst =>
        have hcons : ahead control (item :: items) = ahead control items + 1 := by
          simp [ahead, hfirst]
        rw [hcons]
        simp only [distance, LoopPoint.item, Option.toList, List.nil_append, reduceCtorEq, if_false]
        omega

lemma distance_loopTop (hwaits : Waits controller controller.tasksQueue) {item : Option (Task τ)}
    (hitem : ∀ task, item = some task → task.control = none)
    (hopen : Open controller (item.toList ++ controller.tasksQueue)) {control : Control τ}
    (hdirty : (controller.loopTop item).IsDirty control) :
    distance control (controller.loopTop item) <
      2 * ahead control (item.toList ++ controller.tasksQueue) := by
  refine distance_loopOver ?_ hopen hdirty
  cases item with
  | none => exact hwaits
  | some task => exact hwaits.waiting_eq (waiting_cons_none (hitem task rfl))

lemma distance_nextIteration (hwaits : Waits controller controller.tasksQueue)
    {item : Option (Task τ)} (hitem : ∀ task, item = some task → task.control = none)
    (hopen : Open controller (item.toList ++ controller.tasksQueue)) (intervalElapsed : Bool)
    {control : Control τ}
    (hdirty : (controller.nextIteration item intervalElapsed).IsDirty control) :
    distance control (controller.nextIteration item intervalElapsed) <
      2 * ahead control (item.toList ++ controller.tasksQueue) := by
  unfold ApplicationController.nextIteration at hdirty ⊢
  split at hdirty
  case isTrue hpoll =>
    -- a poll step is slipped in only while nothing waits
    have hmem := (hwaits.dirty_iff control).1 hdirty
    simp only [Bool.and_eq_true, List.isEmpty_iff] at hpoll
    rw [hpoll.1.2] at hmem
    cases hmem
  case isFalse hpoll =>
    rw [if_neg hpoll]
    exact distance_loopTop hwaits hitem hopen hdirty

/-- Whenever the loop goes on, it comes closer to every control that stays dirty. -/
lemma Inv.distance_lt (h : Inv controller) {e : Event τ} (hloop : e.IsLoop)
    {next : ApplicationController τ} (hstep : controller.step e = some next) {control : Control τ}
    (hdirty : next.IsDirty control) : distance control next < distance control controller := by
  have hqueue : Open controller (controller.loop.item.toList ++ controller.tasksQueue) :=
    h.isOpen.sublist (List.sublist_append_right _ _)
  -- the place of the loop only adds to what the tasks in front count
  have hdistance : 2 * ahead control (controller.loop.item.toList ++ controller.tasksQueue) ≤
      distance control controller := Nat.le_add_right _ _
  cases e with
  | wake =>
    rw [ApplicationController.step] at hstep
    split at hstep
    case isTrue hgetting =>
      cases hstep
      rw [hgetting.1] at hqueue hdistance
      exact (distance_loopTop h.waits (by rintro _ ⟨⟩) hqueue hdirty).trans_le hdistance
    case isFalse => cases hstep
  | timeout =>
    rw [ApplicationController.step] at hstep
    split at hstep
    case isTrue hgetting =>
      split at hstep <;> cases hstep
      · rw [hgetting] at hqueue hdistance
        exact (distance_loopTop h.waits (by rintro _ ⟨⟩) hqueue hdirty).trans_le hdistance
      · simp [distance, hgetting, LoopPoint.item]
    case isFalse => cases hstep
  | pollStepDone =>
    rw [ApplicationController.step] at hstep
    split at hstep
    case h_1 item hpolling =>
      cases hstep
      have hitem := h.item
      rw [hpolling] at hitem hqueue hdistance
      exact (distance_loopTop h.waits hitem hqueue hdirty).trans_le hdistance
    case h_2 => cases hstep
  | controlsDone errors intervalElapsed =>
    rw [ApplicationController.step] at hstep
    split at hstep
    case h_1 controls item hexecuting =>
      cases hstep
      have hitem := h.item
      have hopen := h.isOpen
      rw [ApplicationController.located, hexecuting] at hopen
      rw [hexecuting] at hitem hdistance
      have hwaits : Waits (controller.settleAll controls errors)
          (controller.settleAll controls errors).tasksQueue := by
        rw [settleAll_tasksQueue]
        exact h.waits.settleAll controls errors
      have hlt := distance_nextIteration hwaits hitem
        (by rw [settleAll_tasksQueue]; exact hopen.settleAll errors) intervalElapsed hdirty
      rw [settleAll_tasksQueue] at hlt
      exact hlt.trans_le hdistance
    case h_2 => cases hstep
  | taskDone error intervalElapsed =>
    rw [ApplicationController.step] at hstep
    split at hstep
    case h_1 item hexecuting =>
      cases hstep
      have hopen := h.isOpen
      rw [ApplicationController.located, hexecuting] at hopen
      rw [hexecuting] at hdistance
      have hnone : ∀ task : Task τ, none = some task → task.control = none := by rintro _ ⟨⟩
      have hlt := distance_nextIteration (h.waits.settle item.id (outcomeOf error)) hnone
        (hopen.settle _) intervalElapsed hdirty
      exact hlt.trans_le hdistance
    case h_2 => cases hstep
  | onMessage | install | uninstall | putTask | removeTask | startQuiescentMode
  | stopQuiescentMode => exact hloop.elim

/-- Nothing takes a place in front of a task that waits. -/
lemma Inv.distance_le (h : Inv controller) {e : Event τ}
    {next : ApplicationController τ} (hstep : controller.step e = some next) {control : Control τ}
    (hbefore : controller.IsDirty control) (hdirty : next.IsDirty control) :
    distance control next ≤ distance control controller := by
  by_cases hloop : e.IsLoop
  · exact (h.distance_lt hloop hstep hdirty).le
  have hmem : control ∈ waiting (controller.loop.item.toList ++ controller.tasksQueue) := by
    rw [waiting, List.filterMap_append]
    exact List.mem_append_right _ ((h.waits.dirty_iff control).1 hbefore)
  have happend (more : List (Task τ)) :
      ahead control (controller.loop.item.toList ++ (controller.tasksQueue ++ more)) =
        ahead control (controller.loop.item.toList ++ controller.tasksQueue) := by
    rw [← List.append_assoc, ahead_append hmem]
  cases e with
  | onMessage place payload =>
    cases hstep
    unfold ApplicationController.handleOnTopic
    split
    · exact le_rfl
    · split
      · exact le_rfl
      · exact Nat.add_le_add_right (Nat.mul_le_mul_left 2 (happend _).le) _
  | putTask =>
    cases hstep
    exact Nat.add_le_add_right (Nat.mul_le_mul_left 2 (happend _).le) _
  | removeTask id =>
    cases hstep
    have hitem : control ∉ waiting controller.loop.item.toList := by
      intro hin
      obtain ⟨task, htask, heq⟩ := mem_waiting.1 hin
      rw [h.item task (Option.mem_toList.1 htask)] at heq
      cases heq
    refine Nat.add_le_add_right (Nat.mul_le_mul_left 2 ?_) _
    simp only [ahead_append_of_notMem hitem]
    refine Nat.add_le_add_left (ahead_filter_le control _ (fun task hdrop => ?_) _) _
    simp only [Bool.or_eq_false_iff, Option.isSome_eq_false_iff, Option.isNone_iff_eq_none] at hdrop
    exact hdrop.1
  | install | uninstall | startQuiescentMode | stopQuiescentMode =>
    cases hstep
    exact le_rfl
  | wake | timeout | pollStepDone | controlsDone | taskDone => exact absurd trivial hloop

/-! ### The last write wins -/

/-- The values that were executed for the place's controls, in this order. -/
def ApplicationController.executedOn (controller : ApplicationController τ) (place : τ) :
    List (Option String) :=
  (atPlace place controller.executed).map Prod.snd

/-- The payloads that the place's controls received, in this order. -/
def ApplicationController.receivedOn (controller : ApplicationController τ) (place : τ) :
    List (Option String) :=
  (atPlace place controller.arrived).map Prod.snd

/-- The values that were executed for the control, in this order. -/
def ApplicationController.executedFor (controller : ApplicationController τ)
    (control : Control τ) : List (Option String) :=
  (controller.executed.filter fun value => value.1 = control).map Prod.snd

/-- The payloads that the control received, in this order. -/
def ApplicationController.receivedFor (controller : ApplicationController τ)
    (control : Control τ) : List (Option String) :=
  (controller.arrived.filter fun value => value.1 = control).map Prod.snd

structure LastWriteWins (controller : ApplicationController τ) : Prop where
  /-- A control is dirty exactly while one task for it is in the queue. -/
  dirty : ∀ control,
    (controller.tasksQueue.filter fun task => task.control = some control).length =
      if controller.IsDirty control then 1 else 0
  executed_on : ∀ place, (controller.executedOn place).Sublist (controller.receivedOn place)
  executed_for :
    ∀ control, (controller.executedFor control).Sublist (controller.receivedFor control)
  /-- The last payload waits at the control, or it was executed, or its task failed. -/
  last : ∀ control payload, controller.lastReceived control = some payload →
    controller.valueToSet control = some payload ∨
      ¬ controller.IsDirty control ∧ controller.LastTaken control payload

lemma Waits.length_filter (h : Waits controller controller.tasksQueue) (control : Control τ) :
    (controller.tasksQueue.filter fun task => task.control = some control).length =
      if controller.IsDirty control then 1 else 0 := by
  have hnodup : (waiting controller.tasksQueue).Nodup := by
    refine List.Pairwise.imp ?_ h.increasing
    rintro first _ hlt rfl
    exact lt_irrefl _ (hlt rfl)
  have hcount : (controller.tasksQueue.filter fun task => task.control = some control).length =
      (waiting controller.tasksQueue).count control := by
    generalize controller.tasksQueue = queue
    induction queue with
    | nil => rfl
    | cons task queue ih =>
      cases hcontrol : task.control with
      | none => simpa [waiting_cons_none hcontrol, hcontrol] using ih
      | some other =>
        rw [waiting_cons_some hcontrol, List.count_cons, ← ih]
        by_cases heq : other = control <;> simp [hcontrol, heq]
  rw [hcount]
  split
  case isTrue hdirty => exact List.count_eq_one_of_mem hnodup ((h.dirty_iff control).1 hdirty)
  case isFalse hdirty =>
    exact List.count_eq_zero.2 fun hmem => hdirty ((h.dirty_iff control).2 hmem)

lemma lastWriteWins_of_inv (h : Inv controller) : LastWriteWins controller := by
  have hexecuted (place : τ) :
      (atPlace place controller.executed).Sublist (atPlace place controller.arrived) := by
    have hall := h.waits.sublist place
    rw [atPlace_append] at hall
    exact (List.sublist_append_left _ _).trans hall
  refine ⟨h.waits.length_filter, fun place => (hexecuted place).map _, fun control => ?_, ?_⟩
  · have hfor (values : List (Control τ × Option String)) :
        values.filter (fun value => value.1 = control) =
          (atPlace control.place values).filter fun value => value.1 = control := by
      rw [atPlace, List.filter_filter]
      refine List.filter_congr fun value _ => ?_
      by_cases heq : value.1 = control <;> simp [heq]
    rw [ApplicationController.executedFor, ApplicationController.receivedFor, hfor,
      hfor controller.arrived]
    exact ((hexecuted control.place).filter _).map _
  · intro control payload hlast
    refine (h.waits.last control payload hlast).imp_right fun htaken => ⟨?_, htaken.2⟩
    simp [ApplicationController.IsDirty, htaken.1]

/-- One message to a lamp, and then a loop that only polls. -/
def lampEvent : ℕ → Event Unit
  | 0 => .install ()
  | 1 => .onMessage () "1"
  | 2 => .wake
  | 3 => .controlsDone (fun _ => none) false
  | n + 4 => if n % 2 = 0 then .timeout else .pollStepDone

def lampState : ℕ → ApplicationController Unit
  | 0 => {}
  | n + 1 => ((lampState n).step (lampEvent n)).getD {}

lemma lampState_polls (k : ℕ) : lampState (2 * k + 4) = lampState 4 := by
  induction k with
  | zero => rfl
  | succ k ih =>
    have htimeout : lampEvent (2 * k + 4) = .timeout := by simp [lampEvent]
    have hpollStepDone : lampEvent (2 * k + 5) = .pollStepDone := by
      show (if (2 * k + 1) % 2 = 0 then _ else _) = _
      rw [if_neg (by omega)]
    show (ApplicationController.step (lampState (2 * k + 5)) (lampEvent (2 * k + 5))).getD {} = _
    rw [hpollStepDone]
    show (ApplicationController.step ((ApplicationController.step (lampState (2 * k + 4))
      (lampEvent (2 * k + 4))).getD {}) .pollStepDone).getD {} = _
    rw [ih, htimeout]
    rfl

/-- The run that goes on for ever with it. -/
def lampRun : (transition Unit).FairRun Event.IsLoop where
  state := lampState
  event := lampEvent
  init := rfl
  step n := by
    match n with
    | 0 | 1 | 2 | 3 => rfl
    | n + 4 =>
      show (lampState (n + 4)).step (lampEvent (n + 4)) =
        some (((lampState (n + 4)).step (lampEvent (n + 4))).getD {})
      obtain ⟨k, rfl | rfl⟩ := n.even_or_odd'
      · rw [lampState_polls, show lampEvent (2 * k + 4) = .timeout by simp [lampEvent]]
        rfl
      · have hevent : lampEvent (2 * k + 1 + 4) = .pollStepDone := by
          show (if (2 * k + 1) % 2 = 0 then _ else _) = _
          rw [if_neg (by omega)]
        have hstate : lampState (2 * k + 1 + 4) =
            ((lampState 4).step .timeout).getD {} := by
          show ((lampState (2 * k + 4)).step (lampEvent (2 * k + 4))).getD {} = _
          rw [lampState_polls, show lampEvent (2 * k + 4) = .timeout by simp [lampEvent]]
        rw [hevent, hstate]
        rfl
  fair n := ⟨2 * n + 4, by omega, by simp [lampEvent, Event.IsLoop]⟩

end WbMqttDali.Controller.ControlQueue
