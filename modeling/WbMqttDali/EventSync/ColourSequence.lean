import WbMqttDali.EventSync.BusOrder

/-!
# The colour sequence predicts what the gear applies

A `SetTemporary…` command copies the shared DTR registers into the temporary
registers of the gear it addresses, and `Activate` applies and clears them.
The tracker follows this from the frames it has seen.  What it predicts is what
the gear applies as long as the gear's registers were clear when the tracker
took up the sequence, and the task of an earlier `Activate` had taken the
gear's capture by then.
-/

namespace WbMqttDali.EventSync

/-! ### The gear -/

/-- The temporary registers of a gear. -/
structure Temporaries where
  colours : ColourComponent → Option ℕ
  rgbwafControl : Option ℕ

namespace Temporaries

def clear : Temporaries := ⟨fun _ => none, none⟩

def put (temporaries : Temporaries) (component : ColourComponent) (value : ℕ) : Temporaries :=
  { temporaries with colours := Function.update temporaries.colours component (some value) }

/-- The registers after a `SetTemporary…` command. -/
def set (temporaries : Temporaries) (dtr : DtrSnapshot) : SetTemporary → Temporaries
  | .xCoordinate => temporaries.put .xCoordinate dtr.word
  | .yCoordinate => temporaries.put .yCoordinate dtr.word
  | .colourTemperature => temporaries.put .colourTemperature dtr.word
  | .rgbDimLevel =>
    ((temporaries.put .red dtr.dtr0).put .green dtr.dtr1).put .blue dtr.dtr2
  | .wafDimLevel =>
    ((temporaries.put .white dtr.dtr0).put .amber dtr.dtr1).put .freeColour dtr.dtr2
  | .primaryNDimLevel =>
    if h : dtr.dtr2 < 6 then temporaries.put (.primaryN ⟨dtr.dtr2, h⟩) dtr.word else temporaries
  | .rgbwafControl => { temporaries with rgbwafControl := some dtr.dtr0 }

lemma put_put_self (temporaries : Temporaries) (component : ColourComponent) (value : ℕ) :
    (temporaries.put component value).put component value = temporaries.put component value := by
  simp only [put, Function.update_idem]

lemma put_comm (temporaries : Temporaries) {component component' : ColourComponent}
    (h : component ≠ component') (value value' : ℕ) :
    (temporaries.put component value).put component' value' =
      (temporaries.put component' value').put component value := by
  simp only [put, Function.update_comm h]

/-- Copying the same registers once more changes nothing. -/
lemma set_set (temporaries : Temporaries) (dtr : DtrSnapshot) (kind : SetTemporary) :
    (temporaries.set dtr kind).set dtr kind = temporaries.set dtr kind := by
  have hthree : ∀ (a b c : ColourComponent) (x y z : ℕ), a ≠ b → a ≠ c → b ≠ c →
      (((((temporaries.put a x).put b y).put c z).put a x).put b y).put c z =
        ((temporaries.put a x).put b y).put c z := by
    intro a b c x y z hab hac hbc
    rw [put_comm _ hac.symm, put_comm _ hab.symm, put_put_self, put_comm _ hbc.symm, put_put_self,
      put_put_self]
  cases kind with
  | xCoordinate | yCoordinate | colourTemperature => exact put_put_self _ _ _
  | rgbDimLevel | wafDimLevel =>
    exact hthree _ _ _ _ _ _ (by decide) (by decide) (by decide)
  | primaryNDimLevel =>
    simp only [set]
    split
    · exact put_put_self _ _ _
    · rfl
  | rgbwafControl => rfl

end Temporaries

/-- The DT8 gear with the uid is addressed. -/
def DeviceRegistry.Addresses (registry : DeviceRegistry) (destination : GearDestination)
    (uid : Uid) : Prop :=
  ∃ gear ∈ registry.resolve destination, gear.isDt8 ∧ gear.uid = uid

instance (registry : DeviceRegistry) (destination : GearDestination) (uid : Uid) :
    Decidable (registry.Addresses destination uid) :=
  inferInstanceAs (Decidable (∃ gear ∈ registry.resolve destination, gear.isDt8 ∧ gear.uid = uid))

/-- The DTR registers, the same in every gear, and the temporary registers of each gear. -/
structure GearBus where
  dtr : DtrSnapshot
  temporaries : Uid → Temporaries

/-- What a frame does to the gear. -/
def GearBus.receive (registry : DeviceRegistry) (bus : GearBus) : Command → GearBus
  | .dtr register param => { bus with dtr := bus.dtr.record register param }
  | .setTemporary kind destination =>
    { bus with
      temporaries := fun uid =>
        if registry.Addresses destination uid then (bus.temporaries uid).set bus.dtr kind
        else bus.temporaries uid }
  | .activate destination =>
    { bus with
      temporaries := fun uid =>
        if registry.Addresses destination uid then .clear else bus.temporaries uid }
  | _ => bus

/-! ### What the tracker records -/

namespace DtrSnapshot

def get (snapshot : DtrSnapshot) : Fin 3 → ℕ
  | 0 => snapshot.dtr0
  | 1 => snapshot.dtr1
  | 2 => snapshot.dtr2

lemma get_record (snapshot : DtrSnapshot) (register r : Fin 3) (param : ℕ) :
    (snapshot.record register param).get r = if r = register then param else snapshot.get r := by
  fin_cases register <;> fin_cases r <;> rfl

end DtrSnapshot

/-- The command sets a colour value. -/
def SetTemporary.Usable (dtr : DtrSnapshot) : SetTemporary → Prop
  | .rgbwafControl => False
  | .primaryNDimLevel => dtr.dtr2 < 6
  | _ => True

namespace ColourCapture

/-- The components of the capture are the temporary registers, with the same values. -/
def Matches (capture : ColourCapture) (temporaries : Temporaries) : Prop :=
  capture.components.get? = temporaries.colours ∧ temporaries.rgbwafControl = none

lemma matches_fresh : fresh.Matches .clear := ⟨rfl, rfl⟩

variable {capture : ColourCapture} {temporaries : Temporaries}

lemma Matches.put (h : capture.Matches temporaries) (component : ColourComponent) (value : ℕ) :
    ColourCapture.Matches { capture with components := capture.components.set component value }
      (temporaries.put component value) := by
  refine ⟨?_, h.2⟩
  ext1 c
  show (capture.components.set component value).get? c =
    Function.update temporaries.colours component (some value) c
  rw [Dict.get?_set, Function.update_apply, h.1]

/-- Where the tracker has seen the registers that a command copies, it records what the gear
takes over. -/
lemma Matches.copy {snapshot dtr : DtrSnapshot} {kind : SetTemporary}
    (h : capture.Matches temporaries) (husable : kind.Usable dtr)
    (hdtr : ∀ r ∈ ColourSequenceTracker.required kind, snapshot.get r = dtr.get r) :
    (ColourSequenceTracker.capture capture snapshot kind).Matches (temporaries.set dtr kind) := by
  have hword : 0 ∈ ColourSequenceTracker.required kind →
      1 ∈ ColourSequenceTracker.required kind → snapshot.word = dtr.word := by
    intro h0 h1
    have hdtr0 : snapshot.dtr0 = dtr.dtr0 := hdtr 0 h0
    have hdtr1 : snapshot.dtr1 = dtr.dtr1 := hdtr 1 h1
    rw [DtrSnapshot.word, DtrSnapshot.word, hdtr0, hdtr1]
  cases kind with
  | xCoordinate | yCoordinate | colourTemperature =>
    simp only [ColourSequenceTracker.capture, Temporaries.set, hword (by decide) (by decide)]
    exact h.put _ _
  | rgbDimLevel | wafDimLevel =>
    have hdtr0 : snapshot.dtr0 = dtr.dtr0 := hdtr 0 (by decide)
    have hdtr1 : snapshot.dtr1 = dtr.dtr1 := hdtr 1 (by decide)
    have hdtr2 : snapshot.dtr2 = dtr.dtr2 := hdtr 2 (by decide)
    simp only [ColourSequenceTracker.capture, Temporaries.set, hdtr0, hdtr1, hdtr2]
    exact ((h.put _ _).put _ _).put _ _
  | primaryNDimLevel =>
    have hdtr2 : snapshot.dtr2 = dtr.dtr2 := hdtr 2 (by decide)
    have hlt : dtr.dtr2 < 6 := husable
    simp only [ColourSequenceTracker.capture, Temporaries.set, hword (by decide) (by decide),
      hdtr2, hlt, dif_pos]
    exact h.put _ _
  | rgbwafControl => exact husable.elim

end ColourCapture

namespace ColourSequenceTracker

variable {freshDtr : Finset (Fin 3)} {kind : SetTemporary} {snapshot dtr : DtrSnapshot}
  {pending : Option ColourCapture} {temporaries : Temporaries}

/-- What a device's capture says of the gear, as far as the command matters: had the gear held
what was captured, the command would leave it as it now is. -/
def Explains (freshDtr : Finset (Fin 3)) (kind : SetTemporary) (dtr : DtrSnapshot)
    (temporaries : Temporaries) (pending : Option ColourCapture) : Prop :=
  (pending.getD .fresh).predictable → required kind ⊆ freshDtr → kind.Usable dtr →
    ∃ held, (pending.getD .fresh).Matches held ∧ held.set dtr kind = temporaries

lemma predictable_of_capture {capture : ColourCapture}
    (h : (ColourSequenceTracker.capture capture snapshot kind).predictable)
    (hdtr : ∀ r ∈ required kind, snapshot.get r = dtr.get r) :
    capture.predictable ∧ kind.Usable dtr := by
  cases kind with
  | primaryNDimLevel =>
    have hdtr2 : snapshot.dtr2 = dtr.dtr2 := hdtr 2 (by decide)
    simp only [ColourSequenceTracker.capture] at h
    split at h
    case isTrue hlt =>
      refine ⟨h, ?_⟩
      show dtr.dtr2 < 6
      omega
    case isFalse => cases h
  | rgbwafControl => cases h
  | _ => exact ⟨h, trivial⟩

/-- A recorded capture that is predictable is what the command leaves in the gear. -/
lemma Explains.matches_recorded (h : Explains freshDtr kind dtr temporaries pending)
    (hdtr : ∀ r ∈ freshDtr, snapshot.get r = dtr.get r)
    (hpredictable : (recorded pending freshDtr kind snapshot).predictable) :
    (recorded pending freshDtr kind snapshot).Matches temporaries := by
  rw [recorded] at hpredictable ⊢
  split at hpredictable
  case isFalse => cases hpredictable
  case isTrue hfresh =>
    have hregisters : ∀ r ∈ required kind, snapshot.get r = dtr.get r :=
      fun r hr => hdtr r (hfresh hr)
    obtain ⟨hcurrent, husable⟩ := predictable_of_capture hpredictable hregisters
    obtain ⟨held, hheld, rfl⟩ := h hcurrent hfresh husable
    rw [if_pos hfresh]
    exact hheld.copy husable hregisters

/-- So a second record of the same command finds what it needs. -/
lemma Explains.again (h : Explains freshDtr kind dtr temporaries pending)
    (hdtr : ∀ r ∈ freshDtr, snapshot.get r = dtr.get r) :
    Explains freshDtr kind dtr temporaries (some (recorded pending freshDtr kind snapshot)) := by
  intro hpredictable hfresh husable
  rw [Option.getD_some] at hpredictable
  refine ⟨temporaries, h.matches_recorded hdtr hpredictable, ?_⟩
  have hcurrent : (pending.getD .fresh).predictable := by
    rw [recorded, if_pos hfresh] at hpredictable
    exact (predictable_of_capture hpredictable fun r hr => hdtr r (hfresh hr)).1
  obtain ⟨held, -, rfl⟩ := h hcurrent hfresh husable
  exact held.set_set dtr kind

/-- A command recorded for several devices. -/
lemma Explains.matches_recordAll {tracker : ColourSequenceTracker} {devices : List Gear} {uid : Uid}
    (h : Explains tracker.freshDtr kind dtr temporaries (tracker.pending uid))
    (hdtr : ∀ r ∈ tracker.freshDtr, snapshot.get r = dtr.get r)
    (huid : ∃ gear ∈ devices, uid = gear.uid) :
    ∀ capture, (recordAll kind snapshot devices tracker).pending uid = some capture →
      capture.predictable → capture.Matches temporaries := by
  induction devices generalizing tracker with
  | nil => simp at huid
  | cons gear devices ih =>
    intro capture hcapture hpredictable
    have hrest : (recordAll kind snapshot devices
        (tracker.record gear.uid kind snapshot)).pending uid = some capture := hcapture
    by_cases hgear : uid = gear.uid
    · subst hgear
      have hself : (tracker.record gear.uid kind snapshot).pending gear.uid =
          some (recorded (tracker.pending gear.uid) tracker.freshDtr kind snapshot) :=
        Function.update_self _ _ _
      by_cases hagain : ∃ gear' ∈ devices, gear.uid = gear'.uid
      · refine @ih (tracker.record gear.uid kind snapshot) ?_ hdtr hagain capture hrest hpredictable
        rw [hself]
        exact h.again hdtr
      · rw [recordAll_pending_of_forall_ne fun d hd heq => hagain ⟨d, hd, heq⟩, hself] at hrest
        obtain rfl := Option.some.inj hrest
        exact h.matches_recorded hdtr hpredictable
    · have hother : (tracker.record gear.uid kind snapshot).pending uid = tracker.pending uid :=
        Function.update_of_ne hgear _ _
      refine @ih (tracker.record gear.uid kind snapshot) ?_ hdtr ?_ capture hrest hpredictable
      · rw [hother]
        exact h
      · obtain ⟨d, hd, heq⟩ := huid
        rcases List.mem_cons.1 hd with rfl | hd
        · exact absurd heq hgear
        · exact ⟨d, hd, heq⟩

end ColourSequenceTracker

/-! ### Event sync beside the gear -/

/-- The capture taken for a gear at an `Activate`, and the temporary registers that the gear
applied. -/
structure Take where
  uid : Uid
  capture : Option ColourCapture
  applied : Temporaries

/-- The segment takes the capture of the DT8 gear with the uid. -/
def Segment.Takes (uid : Uid) : Segment → Prop
  | .activate gear => gear.isDt8 ∧ gear.uid = uid
  | _ => False

instance (uid : Uid) : DecidablePred (Segment.Takes uid)
  | .activate gear => inferInstanceAs (Decidable (gear.isDt8 ∧ gear.uid = uid))
  | .recordDtr _ _ | .setFadeTime _ | .setTemporary _ _ | .level _ _ | .sceneColour _ _
  | .endActivate => .isFalse id

/-- The captures that segments take, when the gear applied what is said. -/
def takes (applied : Uid → Temporaries) : List Segment → Sync → List Take
  | [], _ => []
  | .activate gear :: segments, s =>
    let rest := takes applied segments (Segment.act (.activate gear) s)
    if gear.isDt8 then ⟨gear.uid, s.colour.pending gear.uid, applied gear.uid⟩ :: rest else rest
  | segment :: segments, s => takes applied segments (segment.act s)

structure ObservedBus where
  sync : State
  gear : GearBus
  /-- What the temporary registers were when each frame came. -/
  before : ℕ → Uid → Temporaries
  taken : List Take

namespace ObservedBus

variable (s : ObservedBus)

/-- The task `task`, of which `segments` remain, goes on. -/
def run (task : ℕ) (segments : List Segment) : ObservedBus :=
  { s with
    sync := s.sync.run task segments
    taken := s.taken ++ takes (s.before task) (advance segments s.sync.sync).2.1 s.sync.sync }

/-- A frame reaches the gear and event sync. -/
def arrive (registry : DeviceRegistry) (command : Command) : ObservedBus :=
  { s with
    sync := { s.sync with
      frames := s.sync.frames ++ [command]
      tasks := s.sync.tasks ++ [command.segments registry] }
    gear := s.gear.receive registry command
    before := Function.update s.before s.sync.tasks.length s.gear.temporaries }

end ObservedBus

/-- Event sync with an empty tracker, and gear in any state. -/
def observedBus (registry : DeviceRegistry) : Transition ObservedBus Event where
  init s := ∃ start, start.colour = ⟨fun _ => none, ∅⟩ ∧ s.sync = ⟨start, [], [], []⟩ ∧ s.taken = []
  step s
    | .start command =>
      some ((s.arrive registry command).run s.sync.tasks.length (command.segments registry))
    | .resume task =>
      match s.sync.tasks[task]? with
      | none | some [] => none
      | some (segment :: segments) => some (s.run task (segment :: segments))

/-- A task has the capture of the gear still to take. -/
def Awaited (tasks : List (List Segment)) (uid : Uid) : Prop :=
  ∃ rest ∈ tasks, ∃ segment ∈ rest, segment.Takes uid

/-- The frames of a colour sequence come when the tasks of earlier `Activate`s have taken the
captures of the gear they address, and where the tracker takes up a sequence, the gear holds no
temporary values but those that the command sets. -/
def Clean (registry : DeviceRegistry) (s : ObservedBus) : Event → Prop
  | .start (.setTemporary kind destination) => ∀ uid, registry.Addresses destination uid →
      ¬ Awaited s.sync.tasks uid ∧
        (s.sync.sync.colour.pending uid = none →
          ColourSequenceTracker.required kind ⊆ s.sync.sync.colour.freshDtr →
          kind.Usable s.gear.dtr →
          (s.gear.temporaries uid).set s.gear.dtr kind = Temporaries.clear.set s.gear.dtr kind)
  | .start (.activate destination) => ∀ uid, registry.Addresses destination uid →
      ¬ Awaited s.sync.tasks uid
  | _ => True

/-- Whenever the capture taken for a gear is predictable, it is what the gear applied. -/
def Predicts (s : ObservedBus) : Prop :=
  ∀ take ∈ s.taken, ∀ capture ∈ take.capture, capture.predictable → capture.Matches take.applied

/-! ### The invariant -/

/-- The segment may still be to run when its task goes on after an await. -/
def Segment.Deferrable : Segment → Prop
  | .recordDtr _ _ | .setTemporary _ _ => False
  | _ => True

/-- Such a segment only drops what the tracker knows, and the captures it takes among it. -/
lemma Segment.Deferrable.act {segment : Segment} (h : segment.Deferrable) (s : Sync) :
    (segment.act s).dtr = s.dtr ∧ (segment.act s).colour.freshDtr ⊆ s.colour.freshDtr ∧
      ∀ uid, (segment.act s).colour.pending uid = none ∨
        (¬ segment.Takes uid ∧ (segment.act s).colour.pending uid = s.colour.pending uid) := by
  have hframe := segment.footprint.frame s
  cases segment with
  | recordDtr | setTemporary => exact h.elim
  | setFadeTime | level | sceneColour =>
    refine ⟨hframe .dtr ?_, (hframe .freshDtr ?_).subset, fun uid =>
      .inr ⟨id, hframe (.captured uid) ?_⟩⟩ <;>
    simp [Segment.changes, Gear.cells]
  | activate gear =>
    refine ⟨hframe .dtr ?_, (hframe .freshDtr ?_).subset, fun uid => ?_⟩
    · simp [Segment.changes, Gear.cells]
    · simp [Segment.changes, Gear.cells]
    · by_cases huid : uid = gear.uid
      · subst huid
        left
        have htake : (Sync.cell (.captured gear.uid)).r
            (Segment.act (.activate gear) s) { s with colour := s.colour.take gear.uid } := by
          refine (Sync.react_footprint gear _).frame _ (.captured gear.uid) ?_
          simp [Gear.cells]
        exact htake.trans (Function.update_self _ _ _)
      · refine .inr ⟨fun htakes => huid htakes.2.symm, hframe (.captured uid) ?_⟩
        simp [Segment.changes, Gear.cells, huid]
  | endActivate =>
    exact ⟨rfl, Finset.empty_subset _, fun uid => .inr ⟨id, rfl⟩⟩

section Tasks

variable {tasks : List (List Segment)} {task i : ℕ} {segment : Segment}
  {segments rest : List Segment} {uid : Uid}

lemma getElem?_set_cons (h : (tasks.set task segments)[i]? = some rest) :
    ∃ rest', (tasks.set task (segment :: segments))[i]? = some rest' ∧ rest ⊆ rest' := by
  rw [List.getElem?_set] at h
  split at h
  case isTrue heq =>
    split at h
    case isFalse => cases h
    case isTrue hlt =>
      subst heq
      obtain rfl := Option.some.inj h
      exact ⟨segment :: segments, List.getElem?_set_self hlt, List.subset_cons_self _ _⟩
  case isFalse hne => exact ⟨rest, by rw [List.getElem?_set_ne hne, h], List.Subset.refl _⟩

/-- A segment that takes another gear's capture is not missed. -/
lemma Awaited.of_cons (h : Awaited (tasks.set task (segment :: segments)) uid)
    (hlt : task < tasks.length) (htakes : ¬ segment.Takes uid) :
    Awaited (tasks.set task segments) uid := by
  obtain ⟨rest, hrest, taker, htaker, huid⟩ := h
  obtain ⟨i, hi⟩ := List.mem_iff_getElem?.1 hrest
  by_cases heq : task = i
  · subst heq
    rw [List.getElem?_set_self hlt] at hi
    obtain rfl := Option.some.inj hi
    rcases List.mem_cons.1 htaker with rfl | htaker
    · exact absurd huid htakes
    · exact ⟨segments, List.mem_iff_getElem?.2 ⟨task, List.getElem?_set_self hlt⟩, taker, htaker,
        huid⟩
  · rw [List.getElem?_set_ne heq] at hi
    refine ⟨rest, List.mem_iff_getElem?.2 ⟨i, ?_⟩, taker, htaker, huid⟩
    rw [List.getElem?_set_ne heq, hi]

lemma getElem?_concat_eq_some (h : (tasks ++ [segments])[i]? = some rest) :
    (i ≠ tasks.length ∧ tasks[i]? = some rest) ∨ (i = tasks.length ∧ rest = segments) := by
  rcases lt_or_ge i tasks.length with hlt | hge
  · rw [List.getElem?_append_left hlt] at h
    exact .inl ⟨hlt.ne, h⟩
  · rw [List.getElem?_append_right hge, List.getElem?_singleton] at h
    split at h
    case isFalse => cases h
    case isTrue hzero => exact .inr ⟨by omega, (Option.some.inj h).symm⟩

lemma not_awaited_of_idle (h : ∀ rest ∈ tasks, rest = []) : ¬ Awaited tasks uid := by
  rintro ⟨rest, hrest, segment, hsegment, -⟩
  rw [h rest hrest] at hsegment
  cases hsegment

lemma set_concat_length : (tasks ++ [rest]).set tasks.length segments = tasks ++ [segments] := by
  simp

lemma Awaited.append_left (h : Awaited tasks uid) : Awaited (tasks ++ [segments]) uid := by
  obtain ⟨rest, hrest, htaker⟩ := h
  exact ⟨rest, List.mem_append_left _ hrest, htaker⟩

end Tasks

/-- The registers counted as fresh are known, a predictable capture is what its gear holds, or
what it held when the `Activate` came whose task has still to take the capture. -/
structure Predicting (gear : GearBus) (before : ℕ → Uid → Temporaries) (sync : Sync)
    (tasks : List (List Segment)) : Prop where
  fresh : ∀ r ∈ sync.colour.freshDtr, sync.dtr.get r = gear.dtr.get r
  deferrable : ∀ (task : ℕ) (rest : List Segment), tasks[task]? = some rest →
    ∀ segment ∈ rest, segment.Deferrable
  pending : ∀ uid capture, sync.colour.pending uid = some capture → capture.predictable →
    Awaited tasks uid ∨ capture.Matches (gear.temporaries uid)
  awaited : ∀ (task : ℕ) (rest : List Segment), tasks[task]? = some rest →
    ∀ segment ∈ rest, ∀ uid, segment.Takes uid → ∀ capture, sync.colour.pending uid = some capture →
      capture.predictable →
      capture.Matches (before task uid)

section Steps

variable {registry : DeviceRegistry} {gear : GearBus} {before : ℕ → Uid → Temporaries}
  {sync : Sync} {tasks : List (List Segment)} {task : ℕ} {segment : Segment}
  {segments : List Segment}

lemma Predicting.act (h : Predicting gear before sync (tasks.set task (segment :: segments)))
    (hlt : task < tasks.length) :
    Predicting gear before (segment.act sync) (tasks.set task segments) := by
  have hsegment : segment.Deferrable :=
    h.deferrable task _ (List.getElem?_set_self hlt) segment (by simp)
  obtain ⟨hdtr, hfresh, hpending⟩ := hsegment.act sync
  refine ⟨fun r hr => ?_, fun i rest hi taker htaker => ?_, fun uid capture hcapture hpredictable =>
    ?_, fun i rest hi taker htaker uid huid capture hcapture hpredictable => ?_⟩
  · rw [hdtr]
    exact h.fresh r (hfresh hr)
  · obtain ⟨rest', hi', hsub⟩ := getElem?_set_cons hi
    exact h.deferrable i rest' hi' taker (hsub htaker)
  · rcases hpending uid with hnone | ⟨htakes, hsame⟩
    · rw [hnone] at hcapture
      cases hcapture
    · rw [hsame] at hcapture
      exact (h.pending uid capture hcapture hpredictable).imp_left (·.of_cons hlt htakes)
  · obtain ⟨rest', hi', hsub⟩ := getElem?_set_cons hi
    rcases hpending uid with hnone | ⟨-, hsame⟩
    · rw [hnone] at hcapture
      cases hcapture
    · rw [hsame] at hcapture
      exact h.awaited i rest' hi' taker (hsub htaker) uid huid capture hcapture hpredictable

/-- A task that goes on keeps the invariant, and what it takes is what the gear applied. -/
lemma Predicting.advanced (h : Predicting gear before sync (tasks.set task segments))
    (hlt : task < tasks.length) :
    Predicting gear before (advance segments sync).1
        (tasks.set task (advance segments sync).2.2) ∧
      ∀ take ∈ takes (before task) (advance segments sync).2.1 sync,
        ∀ capture ∈ take.capture, capture.predictable → capture.Matches take.applied := by
  induction segments generalizing sync with
  | nil => exact ⟨h, by simp [takes, advance]⟩
  | cons segment segments ih =>
    have hact := h.act hlt
    have hnew : ∀ ran, (∀ take ∈ takes (before task) ran (segment.act sync),
          ∀ capture ∈ take.capture, capture.predictable → capture.Matches take.applied) →
        ∀ take ∈ takes (before task) (segment :: ran) sync,
          ∀ capture ∈ take.capture, capture.predictable → capture.Matches take.applied := by
      intro ran hran take htake
      cases segment with
      | activate device =>
        simp only [takes] at htake
        split at htake
        case isFalse => exact hran take htake
        case isTrue hdt8 =>
          rcases List.mem_cons.1 htake with rfl | htake
          · intro capture hcapture hpredictable
            exact h.awaited task _ (List.getElem?_set_self hlt) (.activate device) (by simp)
              device.uid ⟨hdt8, rfl⟩ capture hcapture hpredictable
          · exact hran take htake
      | _ => exact hran take htake
    cases hexec : segment.exec sync with
    | mk sync' waited =>
      have hsync' : segment.act sync = sync' := by rw [Segment.act, hexec]
      rw [hsync'] at hact hnew
      cases waited with
      | true =>
        simp only [advance, hexec]
        exact ⟨hact, hnew [] (by simp [takes])⟩
      | false =>
        obtain ⟨hrest, htakes⟩ := ih hact
        simp only [advance, hexec]
        exact ⟨hrest, hnew _ htakes⟩

/-- A DTR frame starts a new sequence or goes on with one. -/
lemma Predicting.dtr (h : Predicting gear before sync tasks) (register : Fin 3) (param : ℕ) :
    Predicting (gear.receive registry (.dtr register param))
      (Function.update before tasks.length gear.temporaries)
      (Segment.act (.recordDtr register param) sync) (tasks ++ [[]]) := by
  have hkept : ∀ uid capture, (sync.colour.noteDtr register).pending uid = some capture →
      sync.colour.pending uid = some capture := by
    intro uid capture hcapture
    simp only [ColourSequenceTracker.noteDtr] at hcapture
    split at hcapture
    · cases hcapture
    · exact hcapture
  refine ⟨fun r hr => ?_, fun i rest hi taker htaker => ?_, fun uid capture hcapture hpredictable =>
    ?_, fun i rest hi taker htaker uid huid capture hcapture hpredictable => ?_⟩
  · show (sync.dtr.record register param).get r = (gear.dtr.record register param).get r
    rw [DtrSnapshot.get_record, DtrSnapshot.get_record]
    split
    · rfl
    · next hne => exact h.fresh r ((Finset.mem_insert.1 hr).resolve_left hne)
  · rcases getElem?_concat_eq_some hi with ⟨-, hi⟩ | ⟨-, rfl⟩
    · exact h.deferrable i rest hi taker htaker
    · cases htaker
  · exact (h.pending uid capture (hkept uid capture hcapture) hpredictable).imp_left
      (·.append_left)
  · rcases getElem?_concat_eq_some hi with ⟨hne, hi⟩ | ⟨-, rfl⟩
    · rw [Function.update_of_ne hne]
      exact h.awaited i rest hi taker htaker uid huid capture (hkept uid capture hcapture)
        hpredictable
    · cases htaker

/-- A `SetTemporary…` frame, seen or taken up with clear registers. -/
lemma Predicting.setTemporary (h : Predicting gear before sync tasks) {kind : SetTemporary}
    {destination : GearDestination}
    (hclean : ∀ uid, registry.Addresses destination uid → ¬ Awaited tasks uid ∧
      (sync.colour.pending uid = none →
        ColourSequenceTracker.required kind ⊆ sync.colour.freshDtr → kind.Usable gear.dtr →
        (gear.temporaries uid).set gear.dtr kind = Temporaries.clear.set gear.dtr kind)) :
    Predicting (gear.receive registry (.setTemporary kind destination))
      (Function.update before tasks.length gear.temporaries)
      (Segment.act (.setTemporary kind (registry.resolve destination)) sync) (tasks ++ [[]]) := by
  set devices := (registry.resolve destination).filter (·.isDt8) with hdevices
  have haddressed : ∀ uid, registry.Addresses destination uid ↔
    ∃ gear ∈ devices, uid = gear.uid := by
    intro uid
    simp only [DeviceRegistry.Addresses, hdevices, List.mem_filter, and_assoc, eq_comm]
  have hother : ∀ uid, ¬ registry.Addresses destination uid →
      (recordAll kind sync.dtr devices sync.colour).pending uid = sync.colour.pending uid :=
    fun uid huid => recordAll_pending_of_forall_ne fun d hd heq =>
      huid ((haddressed uid).2 ⟨d, hd, heq⟩)
  refine ⟨fun r hr => ?_, fun i rest hi taker htaker => ?_, fun uid capture hcapture hpredictable =>
    ?_, fun i rest hi taker htaker uid huid capture hcapture hpredictable => ?_⟩
  · exact h.fresh r (recordAll_freshDtr.subset hr)
  · rcases getElem?_concat_eq_some hi with ⟨-, hi⟩ | ⟨-, rfl⟩
    · exact h.deferrable i rest hi taker htaker
    · cases htaker
  · change (recordAll kind sync.dtr devices sync.colour).pending uid = some capture at hcapture
    by_cases huid : registry.Addresses destination uid
    · obtain ⟨hnot, hclear⟩ := hclean uid huid
      right
      simp only [GearBus.receive, if_pos huid]
      refine ColourSequenceTracker.Explains.matches_recordAll ?_ h.fresh ((haddressed uid).1 huid)
        capture hcapture hpredictable
      -- a capture goes on from clear temporaries or from the one that is pending
      intro hcurrent hfresh husable
      cases hpending : sync.colour.pending uid with
      | none =>
        exact ⟨.clear, ColourCapture.matches_fresh, (hclear hpending hfresh husable).symm⟩
      | some current =>
        rw [hpending] at hcurrent
        exact ⟨gear.temporaries uid,
          (h.pending uid current hpending hcurrent).resolve_left hnot, rfl⟩
    · rw [hother uid huid] at hcapture
      simp only [GearBus.receive, if_neg huid]
      exact (h.pending uid capture hcapture hpredictable).imp_left (·.append_left)
  · rcases getElem?_concat_eq_some hi with ⟨hne, hi⟩ | ⟨-, rfl⟩
    -- gear with an activation under way is not addressed
    · have hnot : ¬ registry.Addresses destination uid := fun haddr =>
        (hclean uid haddr).1 ⟨rest, List.mem_of_getElem? hi, taker, htaker, huid⟩
      change (recordAll kind sync.dtr devices sync.colour).pending uid = some capture at hcapture
      rw [hother uid hnot] at hcapture
      rw [Function.update_of_ne hne]
      exact h.awaited i rest hi taker htaker uid huid capture hcapture hpredictable
    · cases htaker

/-- An `Activate` frame: what the gear held is now what its task has to take. -/
lemma Predicting.activate (h : Predicting gear before sync tasks) {destination : GearDestination}
    (hclean : ∀ uid, registry.Addresses destination uid → ¬ Awaited tasks uid) :
    Predicting (gear.receive registry (.activate destination))
      (Function.update before tasks.length gear.temporaries) sync
      (tasks ++ [(Command.activate destination).segments registry]) := by
  have htakes : ∀ segment ∈ (Command.activate destination).segments registry, ∀ uid,
      segment.Takes uid → registry.Addresses destination uid := by
    intro segment hsegment uid huid
    rcases List.mem_append.1 hsegment with hsegment | hsegment
    · obtain ⟨device, hdevice, rfl⟩ := List.mem_map.1 hsegment
      exact ⟨device, hdevice, huid⟩
    · rw [List.mem_singleton.1 hsegment] at huid
      exact huid.elim
  refine ⟨h.fresh, fun i rest hi taker htaker => ?_, fun uid capture hcapture hpredictable =>
    ?_, fun i rest hi taker htaker uid huid capture hcapture hpredictable => ?_⟩
  · rcases getElem?_concat_eq_some hi with ⟨-, hi⟩ | ⟨-, rfl⟩
    · exact h.deferrable i rest hi taker htaker
    · rcases List.mem_append.1 htaker with htaker | htaker
      · obtain ⟨device, -, rfl⟩ := List.mem_map.1 htaker
        trivial
      · rw [List.mem_singleton.1 htaker]
        trivial
  · by_cases huid : registry.Addresses destination uid
    · obtain ⟨device, hdevice, htaker⟩ := huid
      exact .inl ⟨(Command.activate destination).segments registry, by simp, .activate device,
        List.mem_append_left _ (List.mem_map_of_mem hdevice), htaker⟩
    · simp only [GearBus.receive, if_neg huid]
      exact (h.pending uid capture hcapture hpredictable).imp_left (·.append_left)
  · rcases getElem?_concat_eq_some hi with ⟨hne, hi⟩ | ⟨rfl, rfl⟩
    · rw [Function.update_of_ne hne]
      exact h.awaited i rest hi taker htaker uid huid capture hcapture hpredictable
    · rw [Function.update_self]
      exact (h.pending uid capture hcapture hpredictable).resolve_left
        (hclean uid (htakes taker htaker uid huid))

/-- A frame that is not of a colour sequence. -/
lemma Predicting.unrelated (h : Predicting gear before sync tasks)
    (hsegments : ∀ segment ∈ segments, segment.Deferrable ∧ ∀ uid, ¬ segment.Takes uid) :
    Predicting gear (Function.update before tasks.length gear.temporaries) sync
      (tasks ++ [segments]) := by
  refine ⟨h.fresh, fun i rest hi taker htaker => ?_, fun uid capture hcapture hpredictable =>
    (h.pending uid capture hcapture hpredictable).imp_left (·.append_left),
    fun i rest hi taker htaker uid huid capture hcapture hpredictable => ?_⟩
  · rcases getElem?_concat_eq_some hi with ⟨-, hi⟩ | ⟨-, rfl⟩
    · exact h.deferrable i rest hi taker htaker
    · exact (hsegments taker htaker).1
  · rcases getElem?_concat_eq_some hi with ⟨hne, hi⟩ | ⟨-, rfl⟩
    · rw [Function.update_of_ne hne]
      exact h.awaited i rest hi taker htaker uid huid capture hcapture hpredictable
    · exact absurd huid ((hsegments taker htaker).2 uid)

lemma level_segments (command : LevelCommand) (destination : GearDestination) :
    ∀ segment ∈ (Command.level command destination).segments registry,
      segment.Deferrable ∧ ∀ uid, ¬ segment.Takes uid := by
  intro segment hsegment
  obtain ⟨device, -, hdevice⟩ := List.mem_flatMap.1 hsegment
  split at hdevice
  · rcases List.mem_cons.1 hdevice with rfl | hdevice
    · exact ⟨trivial, fun _ => id⟩
    · rw [List.mem_singleton.1 hdevice]
      exact ⟨trivial, fun _ => id⟩
  · rw [List.mem_singleton.1 hdevice]
    exact ⟨trivial, fun _ => id⟩

end Steps

section Runs

variable {registry : DeviceRegistry} {s s' : ObservedBus}

/-- The invariant, and what was predicted so far. -/
def Invariant (s : ObservedBus) : Prop :=
  Predicting s.gear s.before s.sync.sync s.sync.tasks ∧ Predicts s

lemma Invariant.run {task : ℕ} {segments : List Segment}
    (h : Predicting s.gear s.before s.sync.sync (s.sync.tasks.set task segments))
    (hlt : task < s.sync.tasks.length) (htaken : Predicts s) : Invariant (s.run task segments) := by
  obtain ⟨hrest, htakes⟩ := h.advanced hlt
  refine ⟨hrest, fun take htake => ?_⟩
  rcases List.mem_append.1 htake with htake | htake
  · exact htaken take htake
  · exact htakes take htake

variable {command : Command}

/-- A frame whose task is one segment that neither waits nor takes a capture. -/
lemma Invariant.arrive_one (htaken : Predicts s) {segment : Segment}
    (hsegments : command.segments registry = [segment])
    (hexec : segment.exec s.sync.sync = (segment.act s.sync.sync, false))
    (hnone : ∀ applied sync, takes applied [segment] sync = [])
    (h : Predicting (s.gear.receive registry command)
      (Function.update s.before s.sync.tasks.length s.gear.temporaries)
      (segment.act s.sync.sync) (s.sync.tasks ++ [[]])) :
    Invariant ((s.arrive registry command).run s.sync.tasks.length
      (command.segments registry)) := by
  have hadvance : advance (command.segments registry) s.sync.sync =
      (segment.act s.sync.sync, [segment], []) := by
    rw [hsegments, advance, hexec]
    rfl
  constructor
  · show Predicting _ _ (advance (command.segments registry) s.sync.sync).1
      ((s.sync.tasks ++ [command.segments registry]).set _
        (advance (command.segments registry) s.sync.sync).2.2)
    rw [hadvance, set_concat_length]
    exact h
  · intro take htake
    change take ∈ s.taken ++
      takes _ (advance (command.segments registry) s.sync.sync).2.1 s.sync.sync at htake
    rw [hadvance, hnone, List.append_nil] at htake
    exact htaken take htake

lemma Invariant.arrive (htaken : Predicts s)
    (h : Predicting (s.gear.receive registry command)
      (Function.update s.before s.sync.tasks.length s.gear.temporaries) s.sync.sync
      (s.sync.tasks ++ [command.segments registry])) :
    Invariant ((s.arrive registry command).run s.sync.tasks.length
      (command.segments registry)) := by
  refine Invariant.run ?_ (by simp [ObservedBus.arrive]) htaken
  show Predicting _ _ _ ((s.sync.tasks ++ [command.segments registry]).set _ _)
  rw [set_concat_length]
  exact h

lemma Invariant.step (h : Invariant s) {e : Event} (hclean : Clean registry s e)
    (hstep : (observedBus registry).step s e = some s') : Invariant s' := by
  obtain ⟨hpredicting, htaken⟩ := h
  cases e with
  | resume task =>
    simp only [observedBus] at hstep
    split at hstep
    · cases hstep
    · cases hstep
    · next segment segments htask =>
      obtain rfl := Option.some.inj hstep
      obtain ⟨hlt, hrest⟩ := List.getElem?_eq_some_iff.1 htask
      refine Invariant.run ?_ hlt htaken
      rw [← hrest, List.set_getElem_self]
      exact hpredicting
  | start command =>
    obtain rfl := Option.some.inj hstep
    cases command with
    | dtr register param =>
      exact Invariant.arrive_one htaken rfl rfl (fun _ _ => rfl) (hpredicting.dtr register param)
    | setTemporary kind destination =>
      exact Invariant.arrive_one htaken rfl rfl (fun _ _ => rfl) (hpredicting.setTemporary hclean)
    | activate destination => exact Invariant.arrive htaken (hpredicting.activate hclean)
    | level command destination =>
      exact Invariant.arrive htaken (hpredicting.unrelated (level_segments command destination))
    | setFadeTime destination =>
      refine Invariant.arrive htaken (hpredicting.unrelated fun segment hsegment => ?_)
      rw [List.mem_singleton.1 hsegment]
      exact ⟨trivial, fun _ => id⟩
    | setFadeRate | colourStep | other =>
      exact Invariant.arrive htaken (hpredicting.unrelated (by simp [Command.segments]))

end Runs

/-- In every run whose frames meet the condition, a predictable capture taken at an `Activate` is
what the gear applies at it. -/
theorem predicts_of_reach {registry : DeviceRegistry} {s : ObservedBus}
    (h : (observedBus registry).Reach (Clean registry) s) : Predicts s := by
  refine (h.invariant (I := Invariant) ?_ fun s e s' hs hclean hstep => hs.step hclean hstep).2
  rintro s ⟨start, hcolour, hsync, htaken⟩
  rw [Invariant, hsync]
  refine ⟨⟨?_, ?_, ?_, ?_⟩, ?_⟩
  · simp [hcolour]
  · simp
  · simp [hcolour]
  · simp
  · simp [Predicts, htaken]

/-- One DT8 gear. -/
def dt8Registry : DeviceRegistry := ⟨(∅ : Dict ℕ Gear).set 0 ⟨"dt8", [], true⟩⟩

/-- Event sync starts while the gear holds the temporary registers. -/
def startWith (held : Temporaries) : ObservedBus where
  sync := ⟨⟨⟨0, 0, 0⟩, ⟨fun _ => none, ∅⟩, fun _ => none, fun _ => ⟨[], none, 0, 0, ∅, none⟩,
    fun _ => none⟩, [], [], []⟩
  gear := ⟨⟨0, 0, 0⟩, fun _ => held⟩
  before _ _ := .clear
  taken := []

lemma init_startWith (held : Temporaries) : (observedBus dt8Registry).init (startWith held) :=
  ⟨_, rfl, rfl, rfl⟩

/-- The frames that set the y coordinate 513 and activate it. -/
def yFrames : List Event :=
  [.start (.dtr 0 1), .start (.dtr 1 2), .start (.setTemporary .yCoordinate (.short 0)),
    .start (.activate (.short 0))]

/-- A sequence that event sync sees from its start. -/
theorem predicts_wholeSequence :
    ∃ s, (observedBus dt8Registry).Reach (Clean dt8Registry) s ∧
      (s.taken.map fun take => take.capture.any (·.predictable)) = [true] ∧ Predicts s := by
  have hreach : ∃ s, (observedBus dt8Registry).Reach (Clean dt8Registry) s ∧
      (s.taken.map fun take => take.capture.any (·.predictable)) = [true] := by
    have hinit : (observedBus dt8Registry).Reach (Clean dt8Registry) (startWith .clear) :=
      .init (init_startWith .clear)
    have hdtr := (hinit.step (e := yFrames[0]) trivial rfl).step (e := yFrames[1]) trivial rfl
    have hset := hdtr.step (e := yFrames[2])
      (fun _ _ => ⟨not_awaited_of_idle (by decide +kernel), fun _ _ _ => rfl⟩) rfl
    have hactivate := hset.step (e := yFrames[3])
      (fun _ _ => not_awaited_of_idle (by decide +kernel)) rfl
    exact ⟨_, hactivate, by decide +kernel⟩
  obtain ⟨s, hs, htaken⟩ := hreach
  exact ⟨s, hs, htaken, predicts_of_reach hs⟩

/-- The x coordinate was set before event sync started, and the capture without it is
predictable. -/
theorem not_predicts_midStream :
    ¬ ∀ s, (observedBus dt8Registry).Reachable s → Predicts s := by
  intro h
  have hrun : ((observedBus dt8Registry).run (fun _ _ => True)
      (startWith (Temporaries.clear.put .xCoordinate 5)) yFrames).any (fun s =>
        s.taken.any fun take => take.capture.any fun capture => capture.predictable ∧
          capture.components.get? .xCoordinate ≠ take.applied.colours .xCoordinate) = true := by
    decide +kernel
  obtain ⟨s, hs, htaken⟩ := (Option.any_eq_true _ _).1 hrun
  obtain ⟨take, htake, hcapture⟩ := List.any_eq_true.1 htaken
  obtain ⟨capture, hcapture, hpredictable⟩ := (Option.any_eq_true _ _).1 hcapture
  obtain ⟨hpredictable, hne⟩ := of_decide_eq_true hpredictable
  have hreach := (Transition.Reach.init (init_startWith _)).run hs
  exact hne (congrFun (h s hreach take htake capture hcapture hpredictable).1 _)

end WbMqttDali.EventSync
