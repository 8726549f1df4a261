import WbMqttDali.EventSync.Coordinator

/-!
# Frames take effect in bus order

A segment of a task touches the controls of one device, those of the groups the
device is in, and the registers it reads or writes.  Segments that touch
different things commute.  So the tasks end as if the frames had been applied
one after another when no task, going on after an await, runs a segment that
touches what a later frame has already touched.
-/

namespace WbMqttDali.EventSync

open Interleaving

/-! ### What a segment touches -/

/-- The parts of the shared state. -/
inductive Cell
  | dtr
  | freshDtr
  | captured (uid : Uid)
  | fadeTime (uid : Uid)
  | device (uid : Uid)
  | groupDevice (number : ℕ)

/-- Two states agree on a part. -/
def Sync.cell : Cell → Setoid Sync
  | .dtr => Setoid.ker Sync.dtr
  | .freshDtr => Setoid.ker (·.colour.freshDtr)
  | .captured uid => Setoid.ker (·.colour.pending uid)
  | .fadeTime uid => Setoid.ker (·.fadeTimes uid)
  | .device uid => Setoid.ker (·.devices uid)
  | .groupDevice number => Setoid.ker (·.groupDevices number)

lemma Sync.ext_of_cells {s t : Sync} (h : ∀ c, (Sync.cell c).r s t) : s = t := by
  obtain ⟨dtr, ⟨pending, freshDtr⟩, fadeTimes, devices, groupDevices⟩ := s
  obtain ⟨dtr', ⟨pending', freshDtr'⟩, fadeTimes', devices', groupDevices'⟩ := t
  obtain rfl : dtr = dtr' := h .dtr
  obtain rfl : freshDtr = freshDtr' := h .freshDtr
  obtain rfl : pending = pending' := funext fun uid => h (.captured uid)
  obtain rfl : fadeTimes = fadeTimes' := funext fun uid => h (.fadeTime uid)
  obtain rfl : devices = devices' := funext fun uid => h (.device uid)
  obtain rfl : groupDevices = groupDevices' := funext fun number => h (.groupDevice number)
  rfl

/-- The controls that an event of a device can change. -/
def Gear.cells (gear : Gear) : Set Cell :=
  insert (.device gear.uid) {c | ∃ number ∈ gear.groups, c = .groupDevice number}

/-- What a segment only reads. -/
def Segment.reads : Segment → Set Cell
  | .setFadeTime _ => {.dtr}
  | .setTemporary _ _ => {.dtr, .freshDtr}
  | _ => ∅

/-- What a segment can change. -/
def Segment.changes : Segment → Set Cell
  | .recordDtr _ _ => {.dtr, .freshDtr} ∪ Set.range .captured
  | .setFadeTime devices => {c | ∃ device ∈ devices, c = .fadeTime device.uid}
  | .setTemporary _ devices => {c | ∃ device ∈ devices, c = .captured device.uid}
  | .level _ device | .sceneColour _ device => device.cells
  | .activate device => insert (.captured device.uid) device.cells
  | .endActivate => {.freshDtr}

/-- Neither segment changes what the other touches.  Ending an `Activate` twice
is ending it once. -/
def Segment.Independent (a b : Segment) : Prop :=
  (a = .endActivate ∧ b = .endActivate) ∨
    (Disjoint a.changes (b.reads ∪ b.changes) ∧ Disjoint b.changes (a.reads ∪ a.changes))

/-! ### Dispatching an event -/

section Dispatch

variable {uid : Uid} {event : BusEvent} {numbers : List ℕ} {member : Controls}
  {groupDevices groupDevices' : ℕ → Option GroupVirtualDevice} {number : ℕ}

lemma notifyGroups_frame (h : number ∉ numbers) :
    (notifyGroups uid event numbers member groupDevices).2 number = groupDevices number := by
  induction numbers generalizing member groupDevices with
  | nil => rfl
  | cons n numbers ih =>
    rw [List.mem_cons, not_or] at h
    cases hn : groupDevices n with
    | none => simpa only [notifyGroups, hn] using ih h.2
    | some group =>
      simp only [notifyGroups, hn]
      rw [ih h.2, Function.update_of_ne h.1]

lemma notifyGroups_congr (h : ∀ n ∈ numbers, groupDevices n = groupDevices' n) :
    (notifyGroups uid event numbers member groupDevices).1 =
        (notifyGroups uid event numbers member groupDevices').1 ∧
      ∀ n ∈ numbers, (notifyGroups uid event numbers member groupDevices).2 n =
        (notifyGroups uid event numbers member groupDevices').2 n := by
  induction numbers generalizing member groupDevices groupDevices' with
  | nil => exact ⟨rfl, by simp⟩
  | cons n numbers ih =>
    -- a group number outside the rest keeps what the first notification left
    have hrest : ∀ (m : Controls) (g g' : ℕ → Option GroupVirtualDevice),
        (∀ k ∈ n :: numbers, g k = g' k) →
        (notifyGroups uid event numbers m g).1 = (notifyGroups uid event numbers m g').1 ∧
          ∀ k ∈ n :: numbers, (notifyGroups uid event numbers m g).2 k =
            (notifyGroups uid event numbers m g').2 k := by
      intro m g g' hg
      obtain ⟨hmember, hgroups⟩ := @ih m g g' fun k hk => hg k (List.mem_cons_of_mem n hk)
      refine ⟨hmember, fun k hk => ?_⟩
      by_cases hkn : k ∈ numbers
      · exact hgroups k hkn
      · rw [notifyGroups_frame hkn, notifyGroups_frame hkn, hg k hk]
    have hn := h n (by simp)
    cases hgroup : groupDevices n with
    | none => simpa only [notifyGroups, hgroup, ← hn] using hrest member _ _ h
    | some group =>
      simp only [notifyGroups, hgroup, ← hn]
      refine hrest _ _ _ fun k hk => ?_
      by_cases hkn : k = n
      · subst hkn
        rw [Function.update_self, Function.update_self]
      · rw [Function.update_of_ne hkn, Function.update_of_ne hkn, h k hk]

end Dispatch

/-- A dispatch touches the device and its groups only. -/
lemma Sync.dispatch_footprint (gear : Gear) (event : BusEvent) :
    Footprint Sync.cell (fun s => (s.dispatch gear event).1) ∅ gear.cells where
  frame s c hc := by
    have hdevice : c ≠ .device gear.uid := fun h => hc (h ▸ Set.mem_insert _ _)
    have hgroup : ∀ number ∈ gear.groups, c ≠ .groupDevice number := fun number hnumber h =>
      hc (Set.mem_insert_of_mem _ ⟨number, hnumber, h⟩)
    simp only [dispatch]
    split
    · cases c with
      | device uid =>
        exact Function.update_of_ne (fun h => hdevice (by rw [h])) _ _
      | _ => rfl
    · cases c with
      | device uid =>
        exact Function.update_of_ne (fun h => hdevice (by rw [h])) _ _
      | groupDevice number =>
        exact notifyGroups_frame fun hnumber => hgroup number hnumber rfl
      | _ => rfl
  locality s t h c hc := by
    have hdevice : s.devices gear.uid = t.devices gear.uid :=
      h (.device gear.uid) (Or.inr (Set.mem_insert _ _))
    have hgroups : ∀ number ∈ gear.groups, s.groupDevices number = t.groupDevices number :=
      fun number hnumber =>
        h (.groupDevice number) (Or.inr (Set.mem_insert_of_mem _ ⟨number, hnumber, rfl⟩))
    simp only [dispatch, hdevice]
    split
    · rcases hc with rfl | ⟨number, hnumber, rfl⟩
      · show Function.update s.devices gear.uid _ gear.uid =
          Function.update t.devices gear.uid _ gear.uid
        rw [Function.update_self, Function.update_self]
      · exact hgroups number hnumber
    · obtain ⟨hmember, hrest⟩ := @notifyGroups_congr gear.uid event gear.groups
        (notifyControls (t.devices gear.uid).controls event).1 s.groupDevices t.groupDevices hgroups
      rcases hc with rfl | ⟨number, hnumber, rfl⟩
      · show Function.update s.devices gear.uid _ gear.uid =
          Function.update t.devices gear.uid _ gear.uid
        rw [Function.update_self, Function.update_self, hmember]
      · exact hrest number hnumber

/-- Handing a command to a device touches the device and its groups only. -/
lemma Sync.react_footprint (gear : Gear) (reaction : DaliDevice → DaliDevice × Option BusEvent) :
    Footprint Sync.cell (fun s => (s.react gear reaction).1) ∅ gear.cells := by
  have hput : ∀ (s : Sync) (device : DaliDevice), ∀ c ∉ gear.cells,
      (Sync.cell c).r (s.putDevice gear.uid device) s := by
    intro s device c hc
    cases c with
    | device uid =>
      exact Function.update_of_ne (fun h => hc (by rw [h]; exact Set.mem_insert _ _)) _ _
    | _ => rfl
  have hagree : ∀ (s t : Sync) (device : DaliDevice),
      (∀ c ∈ ∅ ∪ gear.cells, (Sync.cell c).r s t) → ∀ c ∈ ∅ ∪ gear.cells,
        (Sync.cell c).r (s.putDevice gear.uid device) (t.putDevice gear.uid device) := by
    intro s t device h c hc
    rcases hc with hc | rfl | ⟨number, hnumber, rfl⟩
    · exact hc.elim
    · show Function.update s.devices gear.uid device gear.uid =
        Function.update t.devices gear.uid device gear.uid
      rw [Function.update_self, Function.update_self]
    · exact h (.groupDevice number) (Or.inr (Set.mem_insert_of_mem _ ⟨number, hnumber, rfl⟩))
  constructor
  · intro s c hc
    simp only [react]
    split
    · exact hput s _ c hc
    · exact (Sync.cell c).trans ((dispatch_footprint gear _).frame _ c hc) (hput s _ c hc)
  · intro s t h c hc
    have hdevice : s.devices gear.uid = t.devices gear.uid :=
      h (.device gear.uid) (Or.inr (Set.mem_insert _ _))
    simp only [react, hdevice]
    split
    · exact hagree s t _ h c (Or.inr hc)
    · exact (dispatch_footprint gear _).locality _ _ (hagree s t _ h) c hc

/-! ### The segments -/

section Folds

variable {β : Type} {devices : List Gear} {uid : Uid}

/-- Writing one value for each device leaves the other entries. -/
lemma foldl_update_of_forall_ne (value : β) (g : Uid → β) (h : ∀ d ∈ devices, uid ≠ d.uid) :
    devices.foldl (fun g d => Function.update g d.uid value) g uid = g uid := by
  induction devices generalizing g with
  | nil => rfl
  | cons d devices ih =>
    rw [List.foldl_cons, ih _ fun d' hd' => h d' (by simp [hd']),
      Function.update_of_ne (h d (by simp))]

lemma foldl_update_of_mem (value : β) (g : Uid → β) (h : ∃ d ∈ devices, uid = d.uid) :
    devices.foldl (fun g d => Function.update g d.uid value) g uid = value := by
  induction devices generalizing g with
  | nil => simp at h
  | cons d devices ih =>
    rw [List.foldl_cons]
    by_cases hrest : ∃ d ∈ devices, uid = d.uid
    · exact ih _ hrest
    · obtain rfl : uid = d.uid := by simpa [hrest] using h
      rw [foldl_update_of_forall_ne _ _ fun d' hd' heq => hrest ⟨d', hd', heq⟩,
        Function.update_self]

end Folds

section Recording

variable {kind : SetTemporary} {snapshot : DtrSnapshot} {devices : List Gear} {uid : Uid}
  {tracker tracker' : ColourSequenceTracker}

/-- `record` for each of the devices. -/
def recordAll (kind : SetTemporary) (snapshot : DtrSnapshot) (devices : List Gear)
    (tracker : ColourSequenceTracker) : ColourSequenceTracker :=
  devices.foldl (fun colour device => colour.record device.uid kind snapshot) tracker

@[simp] lemma recordAll_freshDtr :
    (recordAll kind snapshot devices tracker).freshDtr = tracker.freshDtr := by
  induction devices generalizing tracker with
  | nil => rfl
  | cons d devices ih => exact ih

lemma recordAll_pending_of_forall_ne (h : ∀ d ∈ devices, uid ≠ d.uid) :
    (recordAll kind snapshot devices tracker).pending uid = tracker.pending uid := by
  induction devices generalizing tracker with
  | nil => rfl
  | cons d devices ih =>
    refine (@ih (tracker.record d.uid kind snapshot) fun d' hd' => h d' (by simp [hd'])).trans ?_
    exact Function.update_of_ne (h d (by simp)) _ _

lemma recordAll_pending_congr (hpending : tracker.pending uid = tracker'.pending uid)
    (hfresh : tracker.freshDtr = tracker'.freshDtr) :
    (recordAll kind snapshot devices tracker).pending uid =
      (recordAll kind snapshot devices tracker').pending uid := by
  induction devices generalizing tracker tracker' with
  | nil => exact hpending
  | cons d devices ih =>
    refine @ih (tracker.record d.uid kind snapshot) (tracker'.record d.uid kind snapshot) ?_ hfresh
    by_cases huid : uid = d.uid
    · subst huid
      simp only [ColourSequenceTracker.record, Function.update_self, hpending, hfresh]
    · simp only [ColourSequenceTracker.record, Function.update_of_ne huid, hpending]

end Recording

/-- A segment reads and changes what is said of it. -/
lemma Segment.footprint (segment : Segment) :
    Footprint Sync.cell segment.act segment.reads segment.changes := by
  cases segment with
  | recordDtr register param =>
    constructor
    · intro s c hc
      cases c with
      | dtr => exact absurd (Or.inl (Or.inl rfl)) hc
      | freshDtr => exact absurd (Or.inl (Or.inr rfl)) hc
      | captured uid => exact absurd (Or.inr ⟨uid, rfl⟩) hc
      | _ => rfl
    · intro s t h c hc
      have hdtr : s.dtr = t.dtr := h .dtr (Or.inr (Or.inl (Or.inl rfl)))
      have hfresh : s.colour.freshDtr = t.colour.freshDtr :=
        h .freshDtr (Or.inr (Or.inl (Or.inr rfl)))
      have hpending : s.colour.pending = t.colour.pending :=
        funext fun uid => h (.captured uid) (Or.inr (Or.inr ⟨uid, rfl⟩))
      rcases hc with (rfl | rfl) | ⟨uid, rfl⟩
      · show s.dtr.record register param = t.dtr.record register param
        rw [hdtr]
      · show insert register s.colour.freshDtr = insert register t.colour.freshDtr
        rw [hfresh]
      · show (s.colour.noteDtr register).pending uid = (t.colour.noteDtr register).pending uid
        simp only [ColourSequenceTracker.noteDtr, hfresh, hpending]
  | setFadeTime devices =>
    constructor
    · intro s c hc
      cases c with
      | fadeTime uid =>
        exact foldl_update_of_forall_ne _ _ fun d hd heq => hc ⟨d, hd, by rw [heq]⟩
      | _ => rfl
    · rintro s t h c ⟨d, hd, rfl⟩
      have hdtr : s.dtr = t.dtr := h .dtr (Or.inl rfl)
      refine (foldl_update_of_mem _ _ ⟨d, hd, rfl⟩).trans ?_
      rw [hdtr]
      exact (foldl_update_of_mem _ _ ⟨d, hd, rfl⟩).symm
  | setTemporary kind devices =>
    constructor
    · intro s c hc
      cases c with
      | freshDtr => exact recordAll_freshDtr
      | captured uid =>
        exact recordAll_pending_of_forall_ne fun d hd heq =>
          hc ⟨d, List.mem_of_mem_filter hd, by rw [heq]⟩
      | _ => rfl
    · rintro s t h c ⟨d, hd, rfl⟩
      have hdtr : s.dtr = t.dtr := h .dtr (Or.inl (Or.inl rfl))
      have hfresh : s.colour.freshDtr = t.colour.freshDtr := h .freshDtr (Or.inl (Or.inr rfl))
      have hpending : s.colour.pending d.uid = t.colour.pending d.uid :=
        h (.captured d.uid) (Or.inr ⟨d, hd, rfl⟩)
      refine (recordAll_pending_congr hpending hfresh).trans ?_
      rw [hdtr]
      rfl
  | level command device => exact Sync.react_footprint device _
  | sceneColour sceneIndex device => exact Sync.react_footprint device _
  | activate device =>
    constructor
    · intro s c hc
      rw [changes, Set.mem_insert_iff, not_or] at hc
      refine (Sync.cell c).trans ((Sync.react_footprint device _).frame _ c hc.2) ?_
      cases c with
      | captured uid => exact Function.update_of_ne (fun h => hc.1 (by rw [h])) _ _
      | _ => rfl
    · intro s t h c hc
      have hpending : s.colour.pending device.uid = t.colour.pending device.uid :=
        h (.captured device.uid) (Or.inr (Set.mem_insert _ _))
      have htaken : ∀ c ∈ ∅ ∪ device.cells,
          (Sync.cell c).r { s with colour := s.colour.take device.uid }
            { t with colour := t.colour.take device.uid } := by
        intro c hc
        have hst := h c (Or.inr (Set.mem_insert_of_mem _ (hc.resolve_left id)))
        cases c with
        | captured uid =>
          rcases hc with hc | hc | ⟨_, _, hc⟩ <;> cases hc
        | _ => exact hst
      simp only [act, exec, hpending]
      -- the capture of the device is taken away, and its reaction does not bring one back
      rcases hc with rfl | hc
      · have hframe : ∀ u : Sync, (Sync.cell (.captured device.uid)).r
            (u.react device (·.applyCapture device (t.colour.pending device.uid))).1 u := by
          intro u
          refine (Sync.react_footprint device _).frame u _ fun hmem => ?_
          rcases hmem with hmem | ⟨_, _, hmem⟩ <;> cases hmem
        refine (Sync.cell _).trans (hframe _)
          ((Sync.cell _).trans ?_ ((Sync.cell _).symm (hframe _)))
        show Function.update s.colour.pending device.uid none device.uid =
          Function.update t.colour.pending device.uid none device.uid
        rw [Function.update_self, Function.update_self]
      · exact (Sync.react_footprint device _).locality _ _ htaken c hc
  | endActivate =>
    constructor
    · intro s c hc
      cases c with
      | freshDtr => exact absurd rfl hc
      | _ => rfl
    · rintro s t - c rfl
      rfl

/-- Segments that touch different things may change places. -/
theorem Segment.Independent.commute {a b : Segment} (h : a.Independent b) :
    Function.Commute a.act b.act := by
  rcases h with ⟨rfl, rfl⟩ | ⟨hab, hba⟩
  · exact Function.Commute.refl _
  · exact a.footprint.commute (fun _ _ => Sync.ext_of_cells) b.footprint hab hba

/-! ### Runs -/

lemma advance_append (segments : List Segment) (s : Sync) :
    (advance segments s).2.1 ++ (advance segments s).2.2 = segments := by
  induction segments generalizing s with
  | nil => rfl
  | cons segment segments ih =>
    simp only [advance]
    split
    · rfl
    · next s' _ => exact congrArg (segment :: ·) (ih s')

lemma advance_sync (segments : List Segment) (s : Sync) :
    (advance segments s).1 = performAll Segment.act (advance segments s).2.1 s := by
  induction segments generalizing s with
  | nil => rfl
  | cons segment segments ih =>
    simp only [advance]
    split
    · next s' h => simp [Segment.act, h]
    · next s' h => simp [Segment.act, h, ih s']

variable {registry : DeviceRegistry} {start : Sync} {s s' : State}

/-- A task that goes on touches nothing that a later frame has touched already. -/
def Undisturbed (s : State) : Event → Prop
  | .start _ => True
  | .resume task => ∀ segments, s.tasks[task]? = some segments →
      ∀ segment ∈ (advance segments s.sync).2.1, ∀ entry ∈ s.log, task < entry.1 →
        segment.Independent entry.2

/-- The log explains the shared state, the tasks are what the log leaves of
their frames, and what overtook an earlier frame commutes with it. -/
structure Tracked (registry : DeviceRegistry) (start : Sync) (s : State) : Prop where
  length : s.tasks.length = s.frames.length
  bounded : ∀ entry ∈ s.log, entry.1 < s.tasks.length
  sync_eq : s.sync = performAll Segment.act (s.log.map Prod.snd) start
  rest : ∀ i command segments, s.frames[i]? = some command → s.tasks[i]? = some segments →
    ofTask i s.log ++ segments = command.segments registry
  overtaking : Overtaking Segment.act s.log

lemma Tracked.init : Tracked registry start ⟨start, [], [], []⟩ where
  length := rfl
  bounded := by simp
  sync_eq := rfl
  rest := by simp
  overtaking := List.Pairwise.nil

/-- A frame is added with all of its segments still to run. -/
lemma Tracked.observe (h : Tracked registry start s) (command : Command) :
    Tracked registry start { s with
      frames := s.frames ++ [command], tasks := s.tasks ++ [command.segments registry] } where
  length := by simp [h.length]
  bounded entry hentry := by simpa using Nat.lt_succ_of_lt (h.bounded entry hentry)
  sync_eq := h.sync_eq
  rest i command' segments hcommand hsegments := by
    rcases lt_trichotomy i s.tasks.length with hi | rfl | hi
    · rw [List.getElem?_append_left (h.length ▸ hi)] at hcommand
      rw [List.getElem?_append_left hi] at hsegments
      exact h.rest i command' segments hcommand hsegments
    · have hnone : ofTask s.tasks.length s.log = [] :=
        ofTask_eq_nil fun entry hentry => (h.bounded entry hentry).ne
      rw [h.length] at hcommand
      obtain rfl : command = command' := by simpa using hcommand
      obtain rfl : command.segments registry = segments := by simpa using hsegments
      simp [hnone]
    · rw [List.getElem?_eq_none (by simp; omega)] at hsegments
      cases hsegments
  overtaking := h.overtaking

/-- A task goes on without touching what later frames touched. -/
lemma Tracked.run {task : ℕ} {segments : List Segment} (h : Tracked registry start s)
    (htask : s.tasks[task]? = some segments)
    (happart : ∀ segment ∈ (advance segments s.sync).2.1, ∀ entry ∈ s.log, task < entry.1 →
      segment.Independent entry.2) :
    Tracked registry start (s.run task segments) := by
  have hlt : task < s.tasks.length := (List.getElem?_eq_some_iff.1 htask).1
  constructor
  · show (s.tasks.set task _).length = _
    rw [List.length_set, h.length]
    rfl
  · intro entry hentry
    show entry.1 < (s.tasks.set task _).length
    rw [List.length_set]
    rcases List.mem_append.1 hentry with hold | hnew
    · exact h.bounded entry hold
    · obtain ⟨segment, -, rfl⟩ := List.mem_map.1 hnew
      exact hlt
  · show (advance segments s.sync).1 =
      performAll Segment.act ((s.log ++ _).map Prod.snd) start
    rw [advance_sync, List.map_append, performAll_append, ← h.sync_eq, List.map_map]
    simp [Function.comp_def]
  · intro i command rest hcommand hrest
    show ofTask i (s.log ++ (advance segments s.sync).2.1.map (task, ·)) ++ rest = _
    rw [ofTask_append]
    replace hrest : (s.tasks.set task (advance segments s.sync).2.2)[i]? = some rest := hrest
    by_cases hi : i = task
    · subst hi
      obtain rfl : (advance segments s.sync).2.2 = rest := by
        simpa [List.getElem?_set_self hlt] using hrest
      rw [ofTask_map_self, List.append_assoc, advance_append]
      exact h.rest i command segments hcommand htask
    · rw [List.getElem?_set_ne (Ne.symm hi)] at hrest
      rw [ofTask_map_of_ne (Ne.symm hi), List.append_nil]
      exact h.rest i command rest hcommand hrest
  · show Overtaking Segment.act (s.log ++ _)
    refine List.pairwise_append.2 ⟨h.overtaking, ?_, ?_⟩
    · -- one task keeps its own order
      refine List.pairwise_map.2 (List.pairwise_of_forall fun a b hlt => ?_)
      exact absurd hlt (lt_irrefl _)
    · intro entry hentry new hnew hovertaken
      obtain ⟨segment, hsegment, rfl⟩ := List.mem_map.1 hnew
      exact (happart segment hsegment entry hentry hovertaken).commute.symm

/-- One turn of the event loop. -/
lemma Tracked.step {event : Event} (h : Tracked registry start s)
    (hundisturbed : Undisturbed s event) (hstep : EventSync.step registry s event = some s') :
    Tracked registry start s' := by
  cases event with
  | start command =>
    obtain rfl := Option.some.inj hstep
    refine (h.observe command).run (by simp) fun segment _ entry hentry hlater => ?_
    -- nothing of a later frame has run
    exact absurd hlater (h.bounded entry hentry).not_gt
  | resume task =>
    simp only [EventSync.step] at hstep
    split at hstep
    · cases hstep
    · cases hstep
    · next segment segments htask =>
      obtain rfl := Option.some.inj hstep
      exact h.run htask (hundisturbed _ htask)

/-- The whole run: every state of a run of undisturbed tasks is explained by its log. -/
lemma tracked_of_reachable (h : (eventSync registry start).Reach Undisturbed s) :
    Tracked registry start s := by
  refine Transition.Reach.invariant (I := Tracked registry start) ?_ ?_ h
  · rintro _ rfl
    exact Tracked.init
  · intro s event s' htracked hundisturbed hstep
    exact htracked.step hundisturbed hstep

/-- When all tasks have ended the shared state is the one of applying the
frames in order. -/
lemma Tracked.eq_applyInOrder (h : Tracked registry start s) (hfinished : s.Finished) :
    s.sync = applyInOrder registry s.frames start := by
  rw [h.sync_eq, performAll_inOrder h.overtaking h.bounded, applyInOrder, List.flatMap_def,
    List.flatMap_def]
  congr 2
  refine List.ext_getElem (by simp [h.length]) fun i hi hi' => ?_
  have hlt : i < s.frames.length := by simpa using hi'
  have htask : s.tasks[i]? = some [] := by
    rw [List.getElem?_eq_getElem (h.length ▸ hlt)]
    exact congrArg some (hfinished _ (List.getElem_mem _))
  simpa using h.rest i s.frames[i] [] (List.getElem?_eq_getElem hlt) htask

/-! ### The values of the controls -/

/-- What the controls of a device show. -/
def Sync.deviceStates (s : Sync) (uid : Uid) : List (ControlId × ControlState) :=
  (s.devices uid).controls.map fun c => (c.1, c.2.state)

/-- What the controls of a group show. -/
def Sync.groupStates (s : Sync) (number : ℕ) : Option (List (ControlId × ControlState)) :=
  (s.groupDevices number).map fun group => group.controls.map fun c => (c.1, c.2.state)

/-- Once all tasks have ended, every control shows what it would show had the
frames been applied strictly one after another. -/
def State.FollowsBusOrder (registry : DeviceRegistry) (start : Sync) (s : State) : Prop :=
  s.Finished →
    (∀ uid, s.sync.deviceStates uid = (applyInOrder registry s.frames start).deviceStates uid) ∧
    ∀ number, s.sync.groupStates number =
      (applyInOrder registry s.frames start).groupStates number

/-- Event sync follows bus order in every run in which no task goes on with
something that a later frame has already touched. -/
theorem followsBusOrder_of_undisturbed (registry : DeviceRegistry) (start : Sync) (s : State)
    (h : (eventSync registry start).Reach Undisturbed s) : s.FollowsBusOrder registry start := by
  intro hfinished
  have heq := (tracked_of_reachable h).eq_applyInOrder hfinished
  constructor
  · intro uid
    rw [heq]
  · intro number
    rw [heq]

/-! ### A broadcast and a frame for one device -/

/-- Devices that share no group can be served in either order. -/
lemma Gear.disjoint_cells {gear gear' : Gear} (huid : gear.uid ≠ gear'.uid)
    (hgroups : gear.groups.Disjoint gear'.groups) : Disjoint gear.cells gear'.cells := by
  refine Set.disjoint_left.2 ?_
  rintro c (rfl | ⟨number, hnumber, rfl⟩) (heq | ⟨number', hnumber', heq⟩)
  · exact huid (Cell.device.inj heq)
  · cases heq
  · cases heq
  · obtain rfl := Cell.groupDevice.inj heq
    exact hgroups hnumber hnumber'

/-- A device with an actual level and a DAPC setpoint. -/
def lamp : DaliDevice where
  controls :=
    [(ControlId.actualLevel,
      ⟨.actualLevel ⟨⟨fun _ => "", fun _ => ""⟩, some 254, some 1, fun _ => none, none⟩,
      ⟨some "0", .none⟩⟩),
    ("dapc", ⟨.dapc, ⟨some "0", .none⟩⟩)]
  dt8Handler := ⟨none, 1, 65534, ∅, none⟩

/-- Two lamps at the short addresses 0 and 1. -/
def twoLamps : DeviceRegistry where
  gearByShort := (Dict.set ∅ 0 ⟨"a", [], false⟩).set 1 ⟨"b", [], false⟩

/-- Nothing seen on the bus yet. -/
def quietSync : Sync where
  dtr := ⟨0, 0, 0⟩
  colour := ⟨fun _ => none, ∅⟩
  fadeTimes _ := none
  devices _ := lamp
  groupDevices _ := none

/-- The broadcast DAPC 100 waits for the publishing of the first lamp while
DAPC 50 for the lamp `address` starts. -/
def overtakenBroadcast (address : ℕ) : List Event :=
  [.start (.level (.dapc 100) .broadcast), .start (.level (.dapc 50) (.short address)), .resume 0]

/-- Frames start, and no task goes on yet. -/
def Event.isStart : Event → Bool
  | .start _ => true
  | .resume _ => false

/-- The broadcast goes on with the second lamp after a frame for the first one. -/
theorem followsBusOrder_otherLamp :
    ∃ s : State, s.Finished ∧ s.log.map Prod.fst = [0, 1, 0] ∧
      s.FollowsBusOrder twoLamps quietSync := by
  have hrun : ((eventSync twoLamps quietSync).run (fun _ event => event.isStart)
      ⟨quietSync, [], [], []⟩ ((overtakenBroadcast 0).take 2)).any (fun s =>
        s.tasks = [[.level (.dapc 100) ⟨"b", [], false⟩], []] ∧
        s.log = [(0, .level (.dapc 100) ⟨"a", [], false⟩),
          (1, .level (.dapc 50) ⟨"a", [], false⟩)]) = true := by decide +kernel
  obtain ⟨s, hs, hstate⟩ := (Option.any_eq_true _ _).1 hrun
  obtain ⟨htasks, hlog⟩ := of_decide_eq_true hstate
  have hstarts : (eventSync twoLamps quietSync).Reach Undisturbed s := by
    refine ((Transition.Reach.init rfl).run hs).mono fun t event hstart => ?_
    cases event with
    | start command => trivial
    | resume task => cases hstart
  have hstep : (eventSync twoLamps quietSync).step s (.resume 0) =
      some (s.run 0 [.level (.dapc 100) ⟨"b", [], false⟩]) := by
    simp [eventSync, step, htasks]
  have hran : ∀ sync : Sync, advance [.level (.dapc 100) ⟨"b", [], false⟩] sync =
      ((Segment.level (.dapc 100) ⟨"b", [], false⟩).act sync,
        [.level (.dapc 100) ⟨"b", [], false⟩], []) := by
    intro sync
    simp only [advance, Segment.act]
    split
    · next h => rw [h]
    · next h => rw [h]
  have hundisturbed : Undisturbed s (.resume 0) := by
    intro segments hsegments segment hsegment entry hentry hlater
    obtain rfl : [Segment.level (.dapc 100) ⟨"b", [], false⟩] = segments := by
      simpa [htasks] using hsegments
    obtain rfl : segment = .level (.dapc 100) ⟨"b", [], false⟩ := by
      simpa [hran] using hsegment
    obtain rfl : entry = (1, .level (.dapc 50) ⟨"a", [], false⟩) := by
      rw [hlog] at hentry
      rcases List.mem_cons.1 hentry with rfl | hentry
      · exact absurd hlater (lt_irrefl 0)
      · simpa using hentry
    have hapart : Disjoint (Gear.cells ⟨"b", [], false⟩) (Gear.cells ⟨"a", [], false⟩) :=
      Gear.disjoint_cells (by decide) (List.disjoint_nil_left _)
    refine Or.inr ⟨?_, ?_⟩
    · simpa [Segment.reads, Segment.changes] using hapart
    · simpa [Segment.reads, Segment.changes] using hapart.symm
  refine ⟨_, ?_, ?_, followsBusOrder_of_undisturbed _ _ _ (hstarts.step hundisturbed hstep)⟩
  · simp [State.Finished, State.run, htasks, hran]
  · simp [State.run, hlog, hran]

/-- The broadcast goes on with the second lamp after a frame for that lamp: the
older level stays. -/
theorem exists_not_followsBusOrder :
    ∃ s : State, (eventSync twoLamps quietSync).Reachable s ∧
      ¬s.FollowsBusOrder twoLamps quietSync := by
  have hrun : ((eventSync twoLamps quietSync).run (fun _ _ => True)
      ⟨quietSync, [], [], []⟩ (overtakenBroadcast 1)).any (fun s =>
        s.tasks = [[], []] ∧ s.sync.deviceStates "b" ≠
          (applyInOrder twoLamps s.frames quietSync).deviceStates "b") = true := by
    decide +kernel
  obtain ⟨s, hs, hstate⟩ := (Option.any_eq_true _ _).1 hrun
  obtain ⟨htasks, hvalues⟩ := of_decide_eq_true hstate
  refine ⟨s, (Transition.Reach.init rfl).run hs, fun hfollows => ?_⟩
  have hfinished : s.Finished := by simp [State.Finished, htasks]
  exact hvalues ((hfollows hfinished).1 "b")

end WbMqttDali.EventSync
