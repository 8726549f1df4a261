import WbMqttDali.EventSync.Controls
import WbMqttDali.Lib.Transition

/-!
# The colour read cycle of a DT8 gear

A cycle reads the colour type and then one component in each sub-batch, over any number of
poll ticks, and its values go into the colour picture together when the last one lands.
Meanwhile event sync overlays what observed commands set on the same picture.  A cycle that an
observed command has overtaken still overwrites it with what it had read before.
-/

namespace WbMqttDali.ColourRead

open EventSync

def maxColourSubbatchRetries : ℕ := 3

/-- `ColourType(raw)`, with `none` for a value that it does not have. -/
def decodeColourType : ℕ → Option ColourType
  | 0x10 => some .xy
  | 0x20 => some .colourTemperature
  | 0x40 => some .primaryN
  | 0x80 => some .rgbwaf
  | _ => none

/-- `_Type8ColourReadProgress`; the address does not matter here. -/
structure ReadProgress where
  level : ℕ
  colourType : Option ColourType
  pendingComponents : List ColourComponent
  doneValues : Dict ColourComponent ℕ

/-- A new progress object. -/
def ReadProgress.new : ReadProgress := ⟨mask, none, [], ∅⟩

/-- A sub-batch that is being sent: its progress object, the attempts that have failed and the raw
values of an attempt that has not. -/
structure Running where
  progress : ℕ
  failed : ℕ
  responses : Option (List ℕ)

/-- What has happened to the gear's colour.  A cycle has the number of its progress object. -/
inductive Entry
  /-- An attempt of the cycle has read the component. -/
  | reading (cycle : ℕ) (component : ColourComponent) (responses : List ℕ)
  /-- An observed change was applied, with these limits. -/
  | observed (components : Dict ColourComponent ℕ) (tcMinMirek tcMaxMirek : ℕ)
  /-- The cycle has reported an event. -/
  | reported (cycle : ℕ) (event : BusEvent)

/-- The handler with its progress objects, and its history with the last entry first. -/
structure State where
  handler : Type8Parameters
  readProgress : Option ℕ
  progress : ℕ → ReadProgress
  created : ℕ
  running : Option Running
  history : List Entry

/-- The value of a component from the responses to its sub-batch. -/
def componentValue (colourType : Option ColourType) (responses : List ℕ) : ℕ :=
  let msb := responses.getD 1 0
  if colourType = some .rgbwaf then msb else msb <<< 8 ||| responses.getD 2 0

/-- The components of the active colour type. -/
def active (colourType : Option ColourType) : List ColourComponent :=
  (colourType.map componentsByColourType).getD []

namespace State

variable (s : State)

def setProgress (cycle : ℕ) (progress : ReadProgress) : State :=
  { s with progress := Function.update s.progress cycle progress }

/-- `_build_error_results` -/
def buildErrorResults : List BusEvent :=
  match s.handler.currentColourType with
  | none => []
  | some ct => [.colourChanged ((componentsByColourType ct).foldl (fun d c => d.set c none) ∅)
      .read true]

/-- The cycle ends with a failure. -/
def fail : State × List BusEvent := ({ s with readProgress := none }, s.buildErrorResults)

/-- `peek_next_subbatch_size` for a gear whose colour type is known. -/
def peekNextSubbatchSize : ℕ :=
  match s.readProgress.bind fun cycle => (s.progress cycle).colourType with
  | none => 3
  | some colourType => if colourType = .rgbwaf then 2 else 3

/-- `next_poll_step`, and the start of its coroutine. -/
def nextPollStep (scheduled : Bool) (maxCommands : ℕ) : State :=
  if s.handler.currentColourType = none ∨ (s.readProgress = none ∧ scheduled = false) then s
  else if s.peekNextSubbatchSize > maxCommands then s
  else match s.readProgress with
    | some cycle => { s with running := some ⟨cycle, 0, none⟩ }
    | none =>
      { s.setProgress s.created .new with
        readProgress := some s.created
        created := s.created + 1
        running := some ⟨s.created, 0, none⟩ }

/-- `_do_first_subbatch`, after its commands were sent. -/
def doFirstSubbatch (cycle : ℕ) : Option (List ℕ) → State × List BusEvent
  | none => s.fail
  | some responses =>
    let progress := { s.progress cycle with level := responses.getD 0 0 }
    match decodeColourType (responses.getLastD 0) with
    -- `MASK` is none of the colour types
    | none => (s.setProgress cycle progress).fail
    | some colourType =>
      if some colourType ≠ s.handler.currentColourType then (s.setProgress cycle progress).fail
      else (s.setProgress cycle
        { progress with
          colourType := some colourType
          pendingComponents := componentsByColourType colourType }, [])

/-- `_do_component_subbatch`, after its commands were sent. -/
def doComponentSubbatch (cycle : ℕ) : Option (List ℕ) → State × List BusEvent
  | none => s.fail
  | some responses =>
    let progress := s.progress cycle
    match progress.pendingComponents with
    -- a cycle without pending components is over
    | [] => (s, [])
    | component :: rest =>
      let progress := { progress with
        pendingComponents := rest
        doneValues := progress.doneValues.set component
          (componentValue progress.colourType responses) }
      let s := s.setProgress cycle progress
      if rest ≠ [] then (s, [])
      else
        let handler := { s.handler with colour := s.handler.colour.update progress.doneValues }
        ({ s with readProgress := none, handler := handler },
          [.colourChanged (handler.colourPicture.foldl (fun d e => d.set e.1 (some e.2)) ∅)
            .read false])

/-- The coroutine of the sub-batch goes on with the responses, or without any. -/
def finish (cycle : ℕ) (responses : Option (List ℕ)) : State :=
  let s := { s with running := none }
  let result :=
    if (s.progress cycle).colourType = none then s.doFirstSubbatch cycle responses
    else s.doComponentSubbatch cycle responses
  { result.1 with history := result.2.map (Entry.reported cycle) ++ s.history }

/-- The component that a sub-batch of the cycle reads. -/
def component? (cycle : ℕ) : Option ColourComponent :=
  if (s.progress cycle).colourType = none then none
  else (s.progress cycle).pendingComponents.head?

/-- `apply_observed_colour` -/
def applyObserved (components : Dict ColourComponent ℕ) : State :=
  { s with
    handler := (s.handler.applyObservedColour components).1
    history := .observed components s.handler.tcMinMirek s.handler.tcMaxMirek :: s.history }

end State

inductive Event
  /-- A poll tick, when no sub-batch is running. -/
  | pollStep (scheduled : Bool) (maxCommands : ℕ)
  | attemptFails
  /-- The gear has answered an attempt. -/
  | answered (responses : List ℕ)
  | resumes
  | cancelPendingPoll
  | observed (components : Dict ColourComponent ℕ)
  /-- New limits were read or written. -/
  | limits (tcMinMirek tcMaxMirek : ℕ)

def step (s : State) : Event → Option State
  | .pollStep scheduled maxCommands =>
    if s.running.isSome then none else some (s.nextPollStep scheduled maxCommands)
  | .attemptFails =>
    match s.running with
    | some ⟨cycle, failed, none⟩ =>
      if failed + 1 < maxColourSubbatchRetries then
        some { s with running := some ⟨cycle, failed + 1, none⟩ }
      else some (s.finish cycle none)
    | _ => none
  | .answered responses =>
    match s.running with
    | some ⟨cycle, failed, none⟩ =>
      some { s with
        running := some ⟨cycle, failed, some responses⟩
        history := ((s.component? cycle).map fun component =>
          Entry.reading cycle component responses).toList ++ s.history }
    | _ => none
  | .resumes =>
    match s.running with
    | some ⟨cycle, _, some responses⟩ => some (s.finish cycle (some responses))
    | _ => none
  | .cancelPendingPoll => some { s with readProgress := none }
  | .observed components => some (s.applyObserved components)
  | .limits tcMinMirek tcMaxMirek =>
    some { s with handler := { s.handler with tcMinMirek := tcMinMirek, tcMaxMirek := tcMaxMirek } }

/-- A handler that has read nothing yet. -/
structure State.IsInit (s : State) : Prop where
  colour : s.handler.colour = ∅
  readProgress : s.readProgress = none
  progress : ∀ cycle, s.progress cycle = .new
  running : s.running = none
  history : s.history = []

def gear : Transition State Event where
  init := State.IsInit
  step := step

/-! ### Where the values come from -/

/-- The observed change names the component. -/
def Names (colourType : Option ColourType) (component : ColourComponent) : Entry → Prop
  | .observed components _ _ => component ∈ active colourType ∧ ∃ raw,
      components.get? component = some raw ∧ isUnsetComponentValue component raw = false
  | _ => False

/-- One attempt of the cycle has read the value, and no observed change has named the component
since. -/
def ReadSince (colourType : Option ColourType) (cycle : ℕ) (component : ColourComponent)
    (value : ℕ) (history : List Entry) : Prop :=
  ∃ newer responses older, history = newer ++ .reading cycle component responses :: older ∧
    value = componentValue colourType responses ∧ ∀ e ∈ newer, ¬Names colourType component e

/-- A predicted value within the limits. -/
def clampValue (tcMinMirek tcMaxMirek : ℕ) (component : ColourComponent) (raw : ℕ) : ℕ :=
  if component = .colourTemperature ∧ isUnsetComponentValue component raw = false then
    min (max raw (if tcMinMirek = mask2Bytes then uiMinTcMirek else tcMinMirek))
      (if tcMaxMirek = mask2Bytes then uiMaxTcMirek else tcMaxMirek)
  else raw

/-- The last observed change that names the component has set the value. -/
def ObservedLast (colourType : Option ColourType) (component : ColourComponent) (value : ℕ)
    (history : List Entry) : Prop :=
  ∃ newer components tcMinMirek tcMaxMirek older raw,
    history = newer ++ .observed components tcMinMirek tcMaxMirek :: older ∧
      components.get? component = some raw ∧ isUnsetComponentValue component raw = false ∧
      value = clampValue tcMinMirek tcMaxMirek component raw ∧
      ∀ e ∈ newer, ¬Names colourType component e

/-- The last cycle that was completed. -/
def lastCompleted : List Entry → Option ℕ
  | [] => none
  | .reported cycle (.colourChanged _ .read false) :: _ => some cycle
  | _ :: older => lastCompleted older

/-- Every value comes from one attempt of one complete cycle or from an observed change, and none
that was read before an observed change stands in its place. -/
structure State.NeverTorn (s : State) : Prop where
  picture : ∀ component value, s.handler.colour.get? component = some value →
    (∃ cycle, lastCompleted s.history = some cycle ∧
        ReadSince s.handler.currentColourType cycle component value s.history) ∨
      ObservedLast s.handler.currentColourType component value s.history
  reported : ∀ newer cycle components older,
    s.history = newer ++ .reported cycle (.colourChanged components .read false) :: older →
      ∀ component, (components.get? component).isSome = true ↔
          component ∈ active s.handler.currentColourType
  values : ∀ newer cycle components older,
    s.history = newer ++ .reported cycle (.colourChanged components .read false) :: older →
      ∀ component raw?, components.get? component = some raw? → ∃ value, raw? = some value ∧
        ReadSince s.handler.currentColourType cycle component value older

/-- An observed change has named a component that the cycle had read before. -/
def Overtaken (colourType : Option ColourType) (cycle : ℕ) (history : List Entry) : Prop :=
  ∃ newer component responses older,
    history = newer ++ .reading cycle component responses :: older ∧
      ∃ e ∈ newer, Names colourType component e

/-- No overtaken cycle is completed, and the colour temperature is within the limits when a change
that does not name it is applied. -/
def Follows (s : State) : Event → Prop
  | .resumes => ∀ cycle failed responses, s.running = some ⟨cycle, failed, some responses⟩ →
      (s.progress cycle).pendingComponents.length = 1 →
        ¬Overtaken s.handler.currentColourType cycle s.history
  | .observed components => components.size ≠ 0 → ∀ raw,
      s.handler.colour.get? .colourTemperature = some raw →
        Names s.handler.currentColourType .colourTemperature
            (.observed components s.handler.tcMinMirek s.handler.tcMaxMirek) ∨
          clampValue s.handler.tcMinMirek s.handler.tcMaxMirek .colourTemperature raw = raw
  | _ => True

/-! ### The overlay of an observed change -/

section Overlay

variable {handler : Type8Parameters} {component : ColourComponent}
  {components : Dict ColourComponent ℕ}

lemma get?_clampTc : handler.clampTc.colour.get? component =
    (handler.colour.get? component).map
      (clampValue handler.tcMinMirek handler.tcMaxMirek component) := by
  unfold Type8Parameters.clampTc
  split
  · next hnone =>
    cases hget : handler.colour.get? component with
    | none => rfl
    | some raw =>
      have hne : component ≠ .colourTemperature := by
        rintro rfl
        cases hnone.symm.trans hget
      simp [clampValue, hne]
  · next tc htc =>
    split
    · next hunset =>
      cases hget : handler.colour.get? component with
      | none => rfl
      | some raw =>
        by_cases hcomponent : component = .colourTemperature
        · subst hcomponent
          obtain rfl := Option.some.inj (htc.symm.trans hget)
          simp [clampValue, hunset]
        · simp [clampValue, hcomponent]
    · next hset =>
      dsimp only
      rw [Dict.get?_set]
      split
      · next heq =>
        subst heq
        rw [htc]
        simp [clampValue, hset]
      · next hne =>
        cases handler.colour.get? component with
        | none => rfl
        | some raw => simp [clampValue, hne]

lemma clampTc_fields : handler.clampTc.currentColourType = handler.currentColourType ∧
    handler.clampTc.tcMinMirek = handler.tcMinMirek ∧
    handler.clampTc.tcMaxMirek = handler.tcMaxMirek := by
  unfold Type8Parameters.clampTc
  split
  · exact ⟨rfl, rfl, rfl⟩
  · split <;> exact ⟨rfl, rfl, rfl⟩

/-- The value that a change sets for a component. -/
def named (colourType : Option ColourType) (components : Dict ColourComponent ℕ)
    (component : ColourComponent) : Option ℕ :=
  if component ∈ active colourType then
    (components.get? component).filter fun raw => !isUnsetComponentValue component raw
  else none

lemma names_observed_iff {colourType : Option ColourType} {tcMinMirek tcMaxMirek : ℕ} :
    Names colourType component (.observed components tcMinMirek tcMaxMirek) ↔
      ∃ raw, named colourType components component = some raw := by
  unfold Names named
  by_cases hactive : component ∈ active colourType
  · simp only [hactive, true_and, if_true, Option.filter_eq_some_iff, Bool.not_eq_true']
  · simp [hactive]

lemma get?_overlay {colourType : ColourType} {colour : Dict ColourComponent ℕ} :
    ((Type8Parameters.filterValidComponents components).foldl (fun colour e =>
      if e.1 ∈ componentsByColourType colourType then colour.set e.1 e.2 else colour)
        colour).get? component =
      (named (some colourType) components component).or (colour.get? component) := by
  -- the entries that are overlaid, as a dictionary
  obtain ⟨overlay, hentries⟩ : ∃ overlay : Dict ColourComponent ℕ, overlay.entries =
      (Type8Parameters.filterValidComponents components).filter
        fun e => e.1 ∈ componentsByColourType colourType :=
    ⟨⟨_, components.nodup.sublist ((List.filter_sublist.trans List.filter_sublist).map _)⟩, rfl⟩
  have hfold : (Type8Parameters.filterValidComponents components).foldl (fun colour e =>
      if e.1 ∈ componentsByColourType colourType then colour.set e.1 e.2 else colour) colour =
        colour.update overlay := by
    rw [Dict.update, hentries, List.foldl_filter]
    simp only [decide_eq_true_eq]
  have hget : overlay.get? component = named (some colourType) components component := by
    refine Option.ext fun raw => ?_
    rw [Dict.get?_eq_some_iff, hentries, List.mem_filter, Type8Parameters.filterValidComponents,
      List.mem_filter, ← Dict.get?_eq_some_iff]
    unfold named active
    by_cases hactive : component ∈ componentsByColourType colourType
    · simp [hactive, Option.filter_eq_some_iff]
    · simp [hactive]
  rw [hfold, Dict.get?_update, hget]

/-- What an observed change does to the picture. -/
lemma applyObservedColour_cases (handler : Type8Parameters)
    (components : Dict ColourComponent ℕ) :
    (handler.applyObservedColour components).1 = handler ∧
        (handler.currentColourType = none ∨ components.size = 0) ∨
      components.size ≠ 0 ∧
        (handler.applyObservedColour components).1.currentColourType = handler.currentColourType ∧
        ∀ component, (handler.applyObservedColour components).1.colour.get? component =
          ((named handler.currentColourType components component).or
            (handler.colour.get? component)).map
              (clampValue handler.tcMinMirek handler.tcMaxMirek component) := by
  unfold Type8Parameters.applyObservedColour
  split
  · next hnone => exact .inl ⟨rfl, .inl hnone⟩
  · next colourType hcolourType =>
    split
    · next hsize => exact .inl ⟨rfl, .inr hsize⟩
    · next hsize =>
      refine .inr ⟨hsize, ?_⟩
      dsimp only
      have hclamped (colour : Dict ColourComponent ℕ)
          (hcolour : ∀ component, colour.get? component =
            (named (some colourType) components component).or (handler.colour.get? component)) :
          (Type8Parameters.clampTc { handler with colour := colour }).currentColourType =
              handler.currentColourType ∧
            ∀ component,
              (Type8Parameters.clampTc { handler with colour := colour }).colour.get? component =
                ((named handler.currentColourType components component).or
                  (handler.colour.get? component)).map
                    (clampValue handler.tcMinMirek handler.tcMaxMirek component) := by
        refine ⟨clampTc_fields.1, fun component => ?_⟩
        rw [get?_clampTc, hcolour, hcolourType]
      split
      · exact hclamped _ fun component => get?_overlay
      · exact hclamped _ fun component => get?_overlay

end Overlay

/-- The event of a complete picture names the components of the active colour type. -/
lemma get?_colourPicture (handler : Type8Parameters) (component : ColourComponent) :
    (handler.colourPicture.foldl (fun d e => d.set e.1 (some e.2))
        (∅ : Dict ColourComponent (Option ℕ))).get? component =
      if component ∈ active handler.currentColourType then
        some (some ((handler.colour.get? component).getD (unsetRawValue component)))
      else none := by
  rw [Dict.get?_foldl_set_last Prod.fst fun e => some e.2, Dict.get?_empty, Option.or_none]
  unfold Type8Parameters.colourPicture active
  cases handler.currentColourType with
  | none => rfl
  | some colourType =>
    dsimp only [Option.map_some, Option.getD_some]
    rw [← List.map_reverse, List.find?_map]
    by_cases hactive : component ∈ componentsByColourType colourType
    · rw [if_pos hactive]
      obtain ⟨found, hfound⟩ := Option.isSome_iff_exists.1 (List.find?_isSome
        (p := fun c => decide (c = component)) |>.2
          ⟨component, List.mem_reverse.2 hactive, decide_eq_true rfl⟩)
      obtain rfl : found = component := by simpa using List.find?_some hfound
      simpa only [Option.map_map, Function.comp_def, Option.map_some] using
        congrArg (Option.map fun c => some ((handler.colour.get? c).getD (unsetRawValue c))) hfound
    · rw [if_neg hactive, List.find?_eq_none.2]
      · rfl
      · intro other hother heq
        exact hactive (of_decide_eq_true heq ▸ List.mem_reverse.1 hother)

/-! ### Histories that grow -/

section History

variable {colourType : Option ColourType} {cycle value : ℕ} {component : ColourComponent}
  {e : Entry} {es history : List Entry}

/-- An entry that neither changes the picture nor reports it. -/
def Entry.Quiet : Entry → Prop
  | .reading .. => True
  | .observed .. => False
  | .reported _ event => ∀ components, event ≠ .colourChanged components .read false

lemma Entry.Quiet.not_names (h : e.Quiet) : ¬Names colourType component e := by
  cases e with
  | observed => exact absurd h id
  | reading | reported => exact id

lemma ReadSince.append (h : ReadSince colourType cycle component value history)
    (hes : ∀ e ∈ es, ¬Names colourType component e) :
    ReadSince colourType cycle component value (es ++ history) := by
  obtain ⟨newer, responses, older, rfl, hvalue, hnewer⟩ := h
  refine ⟨es ++ newer, responses, older, (List.append_assoc ..).symm, hvalue, fun e he => ?_⟩
  exact (List.mem_append.1 he).elim (hes e) (hnewer e)

lemma ObservedLast.append (h : ObservedLast colourType component value history)
    (hes : ∀ e ∈ es, ¬Names colourType component e) :
    ObservedLast colourType component value (es ++ history) := by
  obtain ⟨newer, components, tcMin, tcMax, older, raw, rfl, hraw, hset, hvalue, hnewer⟩ := h
  refine ⟨es ++ newer, components, tcMin, tcMax, older, raw, (List.append_assoc ..).symm, hraw,
    hset, hvalue, fun e he => ?_⟩
  exact (List.mem_append.1 he).elim (hes e) (hnewer e)

lemma ReadSince.cons (h : ReadSince colourType cycle component value history)
    (he : ¬Names colourType component e) :
    ReadSince colourType cycle component value (e :: history) := by
  show ReadSince colourType cycle component value ([e] ++ history)
  exact h.append fun e' he' => List.mem_singleton.1 he' ▸ he

lemma ObservedLast.cons (h : ObservedLast colourType component value history)
    (he : ¬Names colourType component e) :
    ObservedLast colourType component value (e :: history) := by
  show ObservedLast colourType component value ([e] ++ history)
  exact h.append fun e' he' => List.mem_singleton.1 he' ▸ he

lemma readSince_of_not_overtaken {responses : List ℕ}
    (hread : .reading cycle component responses ∈ history)
    (hnot : ¬Overtaken colourType cycle history) :
    ReadSince colourType cycle component (componentValue colourType responses) history := by
  obtain ⟨newer, older, rfl⟩ := List.append_of_mem hread
  exact ⟨newer, responses, older, rfl, rfl, fun e he hnames =>
    hnot ⟨newer, component, responses, older, rfl, e, he, hnames⟩⟩

/-- An entry that does not report a complete cycle. -/
def Entry.Incomplete (e : Entry) : Prop :=
  ∀ cycle components, e ≠ .reported cycle (.colourChanged components .read false)

lemma Entry.Quiet.incomplete (h : e.Quiet) : e.Incomplete := by
  rintro cycle components rfl
  exact h components rfl

lemma lastCompleted_cons (h : e.Incomplete) :
    lastCompleted (e :: history) = lastCompleted history := by
  rw [lastCompleted]
  exact h

lemma lastCompleted_append (h : ∀ e ∈ es, e.Incomplete) :
    lastCompleted (es ++ history) = lastCompleted history := by
  induction es with
  | nil => rfl
  | cons e es ih =>
    rw [List.cons_append, lastCompleted_cons (h e List.mem_cons_self)]
    exact ih fun e' he' => h e' (List.mem_cons_of_mem e he')

/-- The report of a complete cycle is not among the new entries. -/
lemma eq_append_of_incomplete {components : Dict ColourComponent (Option ℕ)}
    {newer older : List Entry} (hes : ∀ e ∈ es, e.Incomplete)
    (h : es ++ history =
      newer ++ .reported cycle (.colourChanged components .read false) :: older) :
    ∃ newer', history =
      newer' ++ .reported cycle (.colourChanged components .read false) :: older := by
  rcases List.append_eq_append_iff.1 h with ⟨rest, -, hrest⟩ | ⟨rest, hsplit, hrest⟩
  · exact ⟨rest, hrest⟩
  · cases rest with
    | nil => exact ⟨[], hrest.symm⟩
    | cons e rest =>
      obtain ⟨rfl, -⟩ := List.cons.inj hrest
      exact absurd rfl (hes _ (hsplit ▸ List.mem_append_right _ List.mem_cons_self) _ _)

end History

namespace State

variable {s s' : State} {es : List Entry}

/-- The reports of complete cycles stay what they are when none is added. -/
lemma NeverTorn.append (h : s.NeverTorn)
    (htype : s'.handler.currentColourType = s.handler.currentColourType)
    (hhistory : s'.history = es ++ s.history) (hes : ∀ e ∈ es, e.Incomplete)
    (hpicture : ∀ component value, s'.handler.colour.get? component = some value →
      (∃ cycle, lastCompleted s'.history = some cycle ∧
          ReadSince s'.handler.currentColourType cycle component value s'.history) ∨
        ObservedLast s'.handler.currentColourType component value s'.history) :
    s'.NeverTorn where
  picture := hpicture
  reported newer cycle components older hsplit := by
    obtain ⟨newer', hsplit'⟩ := eq_append_of_incomplete hes (hhistory ▸ hsplit)
    rw [htype]
    exact h.reported newer' cycle components older hsplit'
  values newer cycle components older hsplit := by
    obtain ⟨newer', hsplit'⟩ := eq_append_of_incomplete hes (hhistory ▸ hsplit)
    rw [htype]
    exact h.values newer' cycle components older hsplit'

lemma NeverTorn.quiet (h : s.NeverTorn)
    (hcolour : s'.handler.colour = s.handler.colour)
    (htype : s'.handler.currentColourType = s.handler.currentColourType)
    (hhistory : s'.history = es ++ s.history) (hes : ∀ e ∈ es, e.Quiet) : s'.NeverTorn := by
  have hincomplete : ∀ e ∈ es, e.Incomplete := fun e he => (hes e he).incomplete
  have hnames (component : ColourComponent) :
      ∀ e ∈ es, ¬Names s.handler.currentColourType component e :=
    fun e he => (hes e he).not_names
  refine h.append htype hhistory hincomplete fun component value hvalue => ?_
  rw [htype, hhistory, lastCompleted_append hincomplete]
  rcases h.picture component value (hcolour ▸ hvalue) with ⟨cycle, hlast, hread⟩ | hobserved
  · exact .inl ⟨cycle, hlast, hread.append (hnames component)⟩
  · exact .inr (hobserved.append (hnames component))

/-! ### The invariant -/

/-- What the progress objects and the running sub-batch know was read from the gear. -/
structure Recorded (s : State) : Prop where
  accounted : ∀ cycle component,
    component ∈ (s.progress cycle).pendingComponents ∨
        ((s.progress cycle).doneValues.get? component).isSome = true ↔
      component ∈ active (s.progress cycle).colourType
  colourType : ∀ cycle colourType, (s.progress cycle).colourType = some colourType →
    s.handler.currentColourType = some colourType
  done : ∀ cycle component value, (s.progress cycle).doneValues.get? component = some value →
    ∃ responses, .reading cycle component responses ∈ s.history ∧
      value = componentValue s.handler.currentColourType responses
  running : ∀ cycle failed responses component,
    s.running = some ⟨cycle, failed, some responses⟩ → s.component? cycle = some component →
      .reading cycle component responses ∈ s.history
  stored : ∀ component value, s.handler.colour.get? component = some value →
    component ∈ active s.handler.currentColourType
  neverTorn : s.NeverTorn

lemma IsInit.recorded (h : s.IsInit) : s.Recorded where
  accounted cycle component := by
    rw [h.progress]
    simp [ReadProgress.new, active]
  colourType cycle colourType hget := by
    rw [h.progress] at hget
    cases hget
  done cycle component value hget := by
    rw [h.progress] at hget
    cases hget
  running cycle failed responses component hrunning := by
    rw [h.running] at hrunning
    cases hrunning
  stored component value hget := by
    rw [h.colour] at hget
    cases hget
  neverTorn := by
    refine ⟨fun component value hget => ?_, fun newer cycle components older hsplit => ?_,
      fun newer cycle components older hsplit => ?_⟩
    · rw [h.colour] at hget
      cases hget
    all_goals
      rw [h.history] at hsplit
      simp at hsplit

namespace Recorded

/-- Quiet entries are added, and what runs after them was read. -/
lemma quiet (h : s.Recorded) (hprogress : s'.progress = s.progress)
    (hcolour : s'.handler.colour = s.handler.colour)
    (htype : s'.handler.currentColourType = s.handler.currentColourType)
    (hhistory : s'.history = es ++ s.history) (hes : ∀ e ∈ es, e.Quiet)
    (hrunning : ∀ cycle failed responses component,
      s'.running = some ⟨cycle, failed, some responses⟩ → s.component? cycle = some component →
        .reading cycle component responses ∈ s'.history) : s'.Recorded where
  accounted := hprogress ▸ h.accounted
  colourType := hprogress ▸ htype ▸ h.colourType
  done cycle component value hget := by
    obtain ⟨responses, hread, hvalue⟩ := h.done cycle component value (hprogress ▸ hget)
    refine ⟨responses, ?_, htype ▸ hvalue⟩
    rw [hhistory]
    exact List.mem_append_right es hread
  running cycle failed responses component hrun hcomponent :=
    hrunning cycle failed responses component hrun (by
      unfold component? at hcomponent ⊢
      rwa [hprogress] at hcomponent)
  stored component value hget := htype ▸ h.stored component value (hcolour ▸ hget)
  neverTorn := h.neverTorn.quiet hcolour htype hhistory hes

/-- Nothing is added, and no other answer waits for its sub-batch. -/
lemma idle (h : s.Recorded) (hprogress : s'.progress = s.progress)
    (hhandler : s'.handler.colour = s.handler.colour ∧
      s'.handler.currentColourType = s.handler.currentColourType)
    (hhistory : s'.history = s.history)
    (hrunning : ∀ cycle failed responses, s'.running = some ⟨cycle, failed, some responses⟩ →
      s.running = s'.running) : s'.Recorded := by
  refine h.quiet hprogress hhandler.1 hhandler.2 (hhistory.trans (List.nil_append _).symm)
    (fun _ he => nomatch he) fun cycle failed responses component hrun hcomponent => ?_
  rw [hhistory]
  exact h.running cycle failed responses component
    ((hrunning cycle failed responses hrun).trans hrun) hcomponent

/-- A progress object changes while no sub-batch runs. -/
lemma setProgress {cycle : ℕ} {progress : ReadProgress} (h : s.Recorded) (hidle : s.running = none)
    (haccounted : ∀ component, component ∈ progress.pendingComponents ∨
        (progress.doneValues.get? component).isSome = true ↔ component ∈ active progress.colourType)
    (htype : ∀ colourType, progress.colourType = some colourType →
      s.handler.currentColourType = some colourType)
    (hdone : ∀ component value, progress.doneValues.get? component = some value →
      ∃ responses, .reading cycle component responses ∈ s.history ∧
        value = componentValue s.handler.currentColourType responses) :
    (s.setProgress cycle progress).Recorded := by
  have hother {other : ℕ} (hne : other ≠ cycle) :
      (s.setProgress cycle progress).progress other = s.progress other :=
    Function.update_of_ne hne ..
  have hself : (s.setProgress cycle progress).progress cycle = progress :=
    Function.update_self ..
  refine ⟨fun other component => ?_, fun other colourType hget => ?_,
    fun other component value hget => ?_, fun other failed responses component hrunning => ?_,
    h.stored, ⟨h.neverTorn.picture, h.neverTorn.reported, h.neverTorn.values⟩⟩
  · by_cases hcycle : other = cycle
    · subst hcycle
      rw [hself]
      exact haccounted component
    · rw [hother hcycle]
      exact h.accounted other component
  · by_cases hcycle : other = cycle
    · subst hcycle
      exact htype colourType (hself ▸ hget)
    · exact h.colourType other colourType (hother hcycle ▸ hget)
  · by_cases hcycle : other = cycle
    · subst hcycle
      exact hdone component value (hself ▸ hget)
    · exact h.done other component value (hother hcycle ▸ hget)
  · cases hidle.symm.trans hrunning

/-- A failed cycle reports errors, which leaves the picture alone. -/
lemma failed (h : s.Recorded) (hidle : s.running = none) (cycle : ℕ) :
    Recorded { s with
      readProgress := none
      history := s.buildErrorResults.map (Entry.reported cycle) ++ s.history } := by
  refine h.quiet rfl rfl rfl rfl (fun e he => ?_) fun _ _ _ _ hrun _ =>
    nomatch hidle.symm.trans hrun
  obtain ⟨event, hevent, rfl⟩ := List.mem_map.1 he
  rintro components rfl
  unfold buildErrorResults at hevent
  split at hevent
  · cases hevent
  · cases List.mem_singleton.1 hevent

lemma doFirstSubbatch (h : s.Recorded) (hidle : s.running = none) {cycle : ℕ}
    (hfirst : (s.progress cycle).colourType = none) (responses : Option (List ℕ)) :
    Recorded { (s.doFirstSubbatch cycle responses).1 with
      history := (s.doFirstSubbatch cycle responses).2.map (Entry.reported cycle) ++
        s.history } := by
  have hnothing (component : ColourComponent) :
      component ∉ (s.progress cycle).pendingComponents ∧
        ¬((s.progress cycle).doneValues.get? component).isSome = true := by
    refine not_or.1 fun hor => ?_
    have hactive := (h.accounted cycle component).1 hor
    rw [hfirst] at hactive
    cases hactive
  unfold State.doFirstSubbatch
  cases responses with
  | none => exact h.failed hidle cycle
  | some responses =>
    dsimp only
    have hlevel : Recorded (s.setProgress cycle
        { s.progress cycle with level := responses.getD 0 0 }) :=
      h.setProgress hidle (h.accounted cycle) (h.colourType cycle) (h.done cycle)
    split
    · exact hlevel.failed hidle cycle
    · next colourType _ =>
      split
      · exact hlevel.failed hidle cycle
      · next heq =>
        refine h.setProgress hidle ?_ ?_ ?_
        · intro component
          exact or_iff_left (hnothing component).2
        · rintro _ ⟨⟩
          exact (not_not.1 heq).symm
        · intro component value hget
          exact absurd (Option.isSome_of_eq_some hget) (hnothing component).2

/-- A cycle that nothing has overtaken is complete. -/
lemma completed (h : s.Recorded) (hidle : s.running = none) {cycle : ℕ}
    {colourType : ColourType}
    (hcolourType : (s.progress cycle).colourType = some colourType)
    (hpending : (s.progress cycle).pendingComponents = [])
    (hnot : ¬Overtaken s.handler.currentColourType cycle s.history) :
    Recorded { s with
      readProgress := none
      handler := { s.handler with
        colour := s.handler.colour.update (s.progress cycle).doneValues }
      history := .reported cycle (.colourChanged
        ((Type8Parameters.colourPicture { s.handler with
          colour := s.handler.colour.update (s.progress cycle).doneValues }).foldl
            (fun d e => d.set e.1 (some e.2)) ∅) .read false) :: s.history } := by
  have htype : (s.progress cycle).colourType = s.handler.currentColourType :=
    hcolourType.trans (h.colourType cycle colourType hcolourType).symm
  -- every component of the colour type was read, and no other one
  have hdone (component : ColourComponent) :
      ((s.progress cycle).doneValues.get? component).isSome = true ↔
        component ∈ active s.handler.currentColourType := by
    rw [← htype, ← h.accounted, hpending]
    simp
  have hread {component : ColourComponent} {value : ℕ}
      (hget : (s.progress cycle).doneValues.get? component = some value) :
      ReadSince s.handler.currentColourType cycle component value s.history := by
    obtain ⟨responses, hmem, rfl⟩ := h.done cycle component value hget
    exact readSince_of_not_overtaken hmem hnot
  have hactive {component : ColourComponent} {value : ℕ}
      (hget : (s.handler.colour.update (s.progress cycle).doneValues).get? component =
        some value) : (s.progress cycle).doneValues.get? component = some value := by
    rw [Dict.get?_update] at hget
    cases hvalue : (s.progress cycle).doneValues.get? component with
    | some read => rwa [hvalue] at hget
    | none =>
      rw [hvalue] at hget
      have := (hdone component).2 (h.stored component value hget)
      rw [hvalue] at this
      cases this
  refine ⟨h.accounted, h.colourType, fun cycle component value hget => ?_,
    fun _ _ _ _ hrun => absurd (hidle.symm.trans hrun) (by simp), fun component value hget => ?_,
    fun component value hget => ?_, fun newer other components older hsplit component => ?_,
    fun newer other components older hsplit component raw? hraw => ?_⟩
  · obtain ⟨responses, hmem, hvalue⟩ := h.done cycle component value hget
    exact ⟨responses, List.mem_cons_of_mem _ hmem, hvalue⟩
  · exact (hdone component).1 (Option.isSome_of_eq_some (hactive hget))
  · refine .inl ⟨cycle, rfl, ?_⟩
    exact (hread (hactive hget)).cons id
  · rcases List.cons_eq_append_iff.1 hsplit with ⟨-, heq⟩ | ⟨newer', -, heq⟩
    · obtain ⟨hentry, -⟩ := List.cons.inj heq
      cases hentry
      rw [get?_colourPicture]
      split
      · next hmem => exact iff_of_true rfl hmem
      · next hmem => exact iff_of_false (by simp) hmem
    · exact h.neverTorn.reported newer' other components older heq component
  · rcases List.cons_eq_append_iff.1 hsplit with ⟨-, heq⟩ | ⟨newer', -, heq⟩
    · obtain ⟨hentry, rfl⟩ := List.cons.inj heq
      cases hentry
      rw [get?_colourPicture] at hraw
      split at hraw
      · next hmem =>
        obtain ⟨value, hvalue⟩ := Option.isSome_iff_exists.1 ((hdone component).2 hmem)
        obtain rfl := Option.some.inj hraw
        refine ⟨value, ?_, hread hvalue⟩
        dsimp only
        rw [Dict.get?_update, hvalue]
        rfl
      · cases hraw
    · exact h.neverTorn.values newer' other components older heq component raw? hraw

lemma doComponentSubbatch (h : s.Recorded) (hidle : s.running = none) {cycle : ℕ}
    {colourType : ColourType} (hcolourType : (s.progress cycle).colourType = some colourType)
    {responses : Option (List ℕ)}
    (hread : ∀ read component, responses = some read → s.component? cycle = some component →
      .reading cycle component read ∈ s.history)
    (hnot : responses.isSome = true → (s.progress cycle).pendingComponents.length = 1 →
      ¬Overtaken s.handler.currentColourType cycle s.history) :
    Recorded { (s.doComponentSubbatch cycle responses).1 with
      history := (s.doComponentSubbatch cycle responses).2.map (Entry.reported cycle) ++
        s.history } := by
  unfold State.doComponentSubbatch
  cases responses with
  | none => exact h.failed hidle cycle
  | some responses =>
    dsimp only
    split
    · exact h
    · next component rest hpending =>
      have hmem : .reading cycle component responses ∈ s.history :=
        hread responses component rfl (by
          rw [component?, if_neg (by rw [hcolourType]; exact Option.some_ne_none _), hpending]
          rfl)
      -- the component passes from those that are pending to those that are done
      have hset : (s.setProgress cycle
          { s.progress cycle with
            pendingComponents := rest
            doneValues := (s.progress cycle).doneValues.set component
              (componentValue (s.progress cycle).colourType responses) }).Recorded := by
        refine h.setProgress hidle (fun other => ?_) (h.colourType cycle) fun other value hget => ?_
        · dsimp only
          rw [← h.accounted cycle other, hpending, Dict.get?_set, List.mem_cons]
          by_cases hother : other = component
          · simp [hother]
          · simp [hother]
        · dsimp only at hget
          rw [Dict.get?_set] at hget
          split at hget
          · next heq =>
            subst heq
            refine ⟨responses, hmem, ?_⟩
            rw [← Option.some.inj hget, hcolourType, h.colourType cycle colourType hcolourType]
          · exact h.done cycle other value hget
      split
      · exact hset
      · next hrest =>
        have hself : ∀ progress, (s.setProgress cycle progress).progress cycle = progress :=
          fun progress => Function.update_self ..
        -- the last component completes the cycle
        have hcompleted := hset.completed hidle
          (by rw [hself]; exact hcolourType) (by rw [hself]; exact not_not.1 hrest)
          (hnot rfl (by rw [hpending, not_not.1 hrest]; rfl))
        rw [hself] at hcompleted
        exact hcompleted

/-- A sub-batch is over, with responses that were read and a cycle that nothing has overtaken. -/
lemma finish (h : s.Recorded) {cycle : ℕ} {responses : Option (List ℕ)}
    (hread : ∀ read component, responses = some read → s.component? cycle = some component →
      .reading cycle component read ∈ s.history)
    (hnot : responses.isSome = true → (s.progress cycle).pendingComponents.length = 1 →
      ¬Overtaken s.handler.currentColourType cycle s.history) :
    (s.finish cycle responses).Recorded := by
  have hidle : Recorded { s with running := none } :=
    h.idle rfl ⟨rfl, rfl⟩ rfl fun _ _ _ hrun => nomatch hrun
  unfold State.finish
  dsimp only
  split_ifs with hfirst
  · exact hidle.doFirstSubbatch rfl hfirst responses
  · obtain ⟨colourType, hcolourType⟩ := Option.ne_none_iff_exists'.1 hfirst
    exact hidle.doComponentSubbatch rfl hcolourType hread hnot

lemma nextPollStep (h : s.Recorded) (hidle : s.running = none) (scheduled : Bool)
    (maxCommands : ℕ) : (s.nextPollStep scheduled maxCommands).Recorded := by
  unfold State.nextPollStep
  split_ifs
  · exact h
  · exact h
  · split
    · exact h.idle rfl ⟨rfl, rfl⟩ rfl (by simp)
    · -- a new progress object has read nothing
      have hnew : (s.setProgress s.created .new).Recorded := by
        refine h.setProgress hidle (fun component => ?_) (fun _ hget => ?_) fun _ _ hget => ?_
        · simp [ReadProgress.new, active]
        · cases hget
        · cases hget
      exact hnew.idle rfl ⟨rfl, rfl⟩ rfl (by simp)

/-- An observed change is laid over the picture, and the other values stay what they were. -/
lemma applyObserved (h : s.Recorded) {components : Dict ColourComponent ℕ}
    (hfollows : Follows s (.observed components)) : (s.applyObserved components).Recorded := by
  have hincomplete : (Entry.observed components s.handler.tcMinMirek
      s.handler.tcMaxMirek).Incomplete := by
    intro _ _ heq
    cases heq
  -- the type stays, and each value of the new picture is named or was there before
  obtain ⟨htype, hvalues⟩ :
      (s.applyObserved components).handler.currentColourType = s.handler.currentColourType ∧
        ∀ component value, (s.applyObserved components).handler.colour.get? component =
            some value →
          (∃ raw, named s.handler.currentColourType components component = some raw ∧
              value = clampValue s.handler.tcMinMirek s.handler.tcMaxMirek component raw) ∨
            named s.handler.currentColourType components component = none ∧
              s.handler.colour.get? component = some value := by
    unfold State.applyObserved
    dsimp only
    rcases applyObservedColour_cases s.handler components with
      ⟨hsame, hnothing⟩ | ⟨hsize, htype, hget⟩
    · rw [hsame]
      refine ⟨rfl, fun component value hvalue => .inr ⟨?_, hvalue⟩⟩
      rcases hnothing with hnone | hempty
      · rw [hnone]
        rfl
      · have : components.get? component = none := by
          obtain ⟨entries, nodup⟩ := components
          obtain rfl : entries = [] := List.length_eq_zero_iff.1 hempty
          rfl
        simp [named, this]
    · refine ⟨htype, fun component value hvalue => ?_⟩
      rw [hget] at hvalue
      cases hnamed : named s.handler.currentColourType components component with
      | some raw =>
        rw [hnamed] at hvalue
        exact .inl ⟨raw, rfl, (Option.some.inj hvalue).symm⟩
      | none =>
        rw [hnamed, Option.none_or] at hvalue
        obtain ⟨raw, hraw, rfl⟩ := Option.map_eq_some_iff.1 hvalue
        refine .inr ⟨rfl, hraw.trans (congrArg some ?_)⟩
        by_cases hcomponent : component = .colourTemperature
        · subst hcomponent
          rcases hfollows hsize raw hraw with hnames | hwithin
          · obtain ⟨_, hsome⟩ := names_observed_iff.1 hnames
            cases hnamed.symm.trans hsome
          · exact hwithin.symm
        · simp [clampValue, hcomponent]
  refine ⟨h.accounted, fun cycle colourType hget => htype.trans (h.colourType cycle _ hget),
    fun cycle component value hget => ?_,
    fun cycle failed responses component hrun hcomponent => ?_,
    fun component value hget => ?_,
    h.neverTorn.append htype (List.singleton_append (l := s.history)).symm
      (fun e he => List.mem_singleton.1 he ▸ hincomplete) fun component value hget => ?_⟩
  · obtain ⟨responses, hread, hvalue⟩ := h.done cycle component value hget
    exact ⟨responses, List.mem_cons_of_mem _ hread, htype ▸ hvalue⟩
  · exact List.mem_cons_of_mem _ (h.running cycle failed responses component hrun hcomponent)
  · rw [htype]
    rcases hvalues component value hget with ⟨raw, hraw, -⟩ | ⟨-, hold⟩
    · by_contra hnot
      rw [named, if_neg hnot] at hraw
      cases hraw
    · exact h.stored component value hold
  · rw [htype]
    rcases hvalues component value hget with ⟨raw, hraw, hvalue⟩ | ⟨hnone, hold⟩
    · obtain ⟨hactive, raw', hraw', hset⟩ : Names s.handler.currentColourType component
          (.observed components s.handler.tcMinMirek s.handler.tcMaxMirek) :=
        names_observed_iff.2 ⟨raw, hraw⟩
      obtain rfl : raw' = raw := by
        rw [named, if_pos hactive, Option.filter_eq_some_iff] at hraw
        exact Option.some.inj (hraw'.symm.trans hraw.1)
      exact .inr ⟨[], components, _, _, s.history, raw', rfl, hraw', hset, hvalue,
        fun _ he => absurd he List.not_mem_nil⟩
    · have hnames : ¬Names s.handler.currentColourType component
          (.observed components s.handler.tcMinMirek s.handler.tcMaxMirek) := by
        intro hnames
        obtain ⟨raw, hraw⟩ := names_observed_iff.1 hnames
        cases hnone.symm.trans hraw
      rcases h.neverTorn.picture component value hold with ⟨cycle, hlast, hread⟩ | hobserved
      · exact .inl ⟨cycle, (lastCompleted_cons hincomplete).trans hlast, hread.cons hnames⟩
      · exact .inr (hobserved.cons hnames)

/-- Every step keeps what is recorded. -/
lemma step {e : Event} (h : s.Recorded) (hfollows : Follows s e)
    (hstep : ColourRead.step s e = some s') : s'.Recorded := by
  cases e with
  | pollStep scheduled maxCommands =>
    simp only [ColourRead.step] at hstep
    split at hstep
    · cases hstep
    · next hidle =>
      rw [← Option.some.inj hstep]
      exact h.nextPollStep (Option.not_isSome_iff_eq_none.1 hidle) scheduled maxCommands
  | attemptFails =>
    simp only [ColourRead.step] at hstep
    split at hstep
    · next cycle failed hrunning =>
      split at hstep
      · rw [← Option.some.inj hstep]
        exact h.idle rfl ⟨rfl, rfl⟩ rfl fun _ _ _ hrun => nomatch hrun
      · rw [← Option.some.inj hstep]
        exact h.finish (fun _ _ hread => nomatch hread) fun hsome => nomatch hsome
    · cases hstep
  | answered responses =>
    simp only [ColourRead.step] at hstep
    split at hstep
    · next cycle failed hrunning =>
      rw [← Option.some.inj hstep]
      refine h.quiet rfl rfl rfl rfl (fun e he => ?_) fun _ _ _ component hrun hcomponent => ?_
      -- the answer of the component is on record before the read goes on
      · obtain ⟨component, -, rfl⟩ := Option.map_eq_some_iff.1 (Option.mem_toList.1 he)
        trivial
      · cases hrun
        refine List.mem_append_left _ (Option.mem_toList.2 ?_)
        exact congrArg (Option.map _) hcomponent
    · cases hstep
  | resumes =>
    simp only [ColourRead.step] at hstep
    split at hstep
    · next cycle failed responses hrunning =>
      rw [← Option.some.inj hstep]
      refine h.finish (fun read component hread hcomponent => ?_) fun _ hlast => ?_
      · cases hread
        exact h.running cycle failed _ component hrunning hcomponent
      · exact hfollows cycle failed responses hrunning hlast
    · cases hstep
  | cancelPendingPoll =>
    rw [← Option.some.inj hstep]
    exact h.idle rfl ⟨rfl, rfl⟩ rfl fun _ _ _ _ => rfl
  | observed components =>
    rw [← Option.some.inj hstep]
    exact h.applyObserved hfollows
  | limits tcMinMirek tcMaxMirek =>
    rw [← Option.some.inj hstep]
    exact h.idle rfl ⟨rfl, rfl⟩ rfl fun _ _ _ _ => rfl

end Recorded

end State

/-- The picture is never torn in a run that completes no overtaken cycle and never moves a colour
temperature that was read. -/
theorem neverTorn_of_follows : ∀ s, gear.Reach Follows s → s.NeverTorn := by
  intro s h
  have hrecorded : s.Recorded :=
    h.invariant (fun _ => State.IsInit.recorded) fun _ _ _ hrecorded => hrecorded.step
  exact hrecorded.neverTorn

/-- A gear of the colour type with no limits. -/
def unread (colourType : ColourType) : State :=
  ⟨⟨some colourType, mask2Bytes, mask2Bytes, ∅, none⟩, none, fun _ => .new, 0, none, []⟩

lemma isInit_unread (colourType : ColourType) : (unread colourType).IsInit :=
  ⟨rfl, rfl, fun _ => rfl, rfl, rfl⟩

/-- A change is observed between the two sub-batches of a cycle, before the component is read. -/
theorem neverTorn_readAfterwards : ∃ s, gear.Reach Follows s ∧ s.NeverTorn ∧
    s.handler.colour.get? .colourTemperature = some 300 := by
  have asked : gear.Reach Follows _ :=
    .step (.init (isInit_unread .colourTemperature)) (e := Event.pollStep true 3) trivial rfl
  have opened : gear.Reach Follows _ :=
    asked.step (e := Event.answered [254, 0, 32]) trivial rfl
  have typed : gear.Reach Follows _ :=
    opened.step (e := Event.resumes) (fun _ _ _ hrunning hlast => by
      cases hrunning
      cases hlast) rfl
  have seen : gear.Reach Follows _ :=
    typed.step (e := Event.observed ((∅ : Dict ColourComponent ℕ).set .colourTemperature 250))
      (fun _ _ hraw => nomatch hraw) rfl
  have asked' : gear.Reach Follows _ := seen.step (e := Event.pollStep false 3) trivial rfl
  have read : gear.Reach Follows _ := asked'.step (e := Event.answered [0, 1, 44]) trivial rfl
  have finished : gear.Reach Follows _ :=
    read.step (e := Event.resumes) (fun _ _ _ hrunning _ => by
      cases hrunning
      -- the only reading is the last entry of the history
      rintro ⟨newer, component, responses, older, hsplit, e, he, hnames⟩
      rcases List.cons_eq_append_iff.1 hsplit with ⟨rfl, -⟩ | ⟨newer', rfl, hrest⟩
      · cases he
      · have hlast : newer' ++ .reading 0 component responses :: older =
          [.observed ((∅ : Dict ColourComponent ℕ).set .colourTemperature 250) mask2Bytes
            mask2Bytes] := hrest.symm
        rcases List.append_eq_cons_iff.1 hlast with ⟨-, heq⟩ | ⟨_, -, heq⟩
        · cases heq
        · simp at heq) rfl
  exact ⟨_, finished, neverTorn_of_follows _ finished, by decide +kernel⟩

/-- The x coordinate that an observed change has set is overwritten with the one read before. -/
theorem not_neverTorn_overtaken : ¬∀ s, gear.Reachable s → s.NeverTorn := by
  intro h
  let change : Dict ColourComponent ℕ := (∅ : Dict ColourComponent ℕ).set .xCoordinate 200
  have opened : gear.Reachable _ :=
    .step (.step (.step (.init (isInit_unread .xy)) (e := Event.pollStep true 3) trivial rfl)
      (e := Event.answered [254, 0, 16]) trivial rfl) (e := Event.resumes) trivial rfl
  have first : gear.Reachable _ :=
    .step (.step (opened.step (e := Event.pollStep false 3) trivial rfl)
      (e := Event.answered [0, 0, 10]) trivial rfl) (e := Event.resumes) trivial rfl
  have seen : gear.Reachable _ := first.step (e := Event.observed change) trivial rfl
  have finished : gear.Reachable _ :=
    .step (.step (seen.step (e := Event.pollStep false 3) trivial rfl)
      (e := Event.answered [0, 0, 20]) trivial rfl) (e := Event.resumes) trivial rfl
  -- the history of the run, with the reading of x before the change
  obtain ⟨s, hreach, htype, hvalue, event, hhistory⟩ : ∃ s, gear.Reachable s ∧
      s.handler.currentColourType = some .xy ∧
        s.handler.colour.get? .xCoordinate = some 10 ∧ ∃ event, s.history = [.reported 0 event,
          .reading 0 .yCoordinate [0, 0, 20], .observed change mask2Bytes mask2Bytes,
          .reading 0 .xCoordinate [0, 0, 10]] :=
    ⟨_, finished, rfl, by decide +kernel, _, rfl⟩
  rcases (h s hreach).picture .xCoordinate 10 hvalue with
    ⟨cycle, -, newer, responses, older, hsplit, -, hnewer⟩ |
      ⟨newer, components, tcMin, tcMax, older, raw, hsplit, hraw, -, hset, -⟩
  · -- the change is among what came after the reading
    rw [hhistory] at hsplit
    have hmem : .observed change mask2Bytes mask2Bytes ∈ newer := by
      rcases newer with _ | ⟨e₁, _ | ⟨e₂, _ | ⟨e₃, newer⟩⟩⟩
      · cases hsplit
      · cases hsplit
      · cases hsplit
      · obtain ⟨-, -, rfl, -⟩ : _ ∧ _ ∧ _ = e₃ ∧ _ := by
          simpa only [List.cons_append, List.cons.injEq] using hsplit
        exact List.mem_cons_of_mem _ (List.mem_cons_of_mem _ List.mem_cons_self)
    refine hnewer _ hmem ?_
    rw [htype]
    exact ⟨by decide, 200, by decide, by decide⟩
  · rw [hhistory] at hsplit
    have hmem : Entry.observed components tcMin tcMax ∈ newer ++
        .observed components tcMin tcMax :: older :=
      List.mem_append_right _ List.mem_cons_self
    rw [← hsplit] at hmem
    simp only [List.mem_cons, reduceCtorEq, Entry.observed.injEq, List.not_mem_nil, false_or,
      or_false] at hmem
    obtain ⟨rfl, rfl, rfl⟩ := hmem
    obtain rfl : raw = 200 := Option.some.inj (hraw.symm.trans (by decide))
    exact absurd hset (by decide)

end WbMqttDali.ColourRead
