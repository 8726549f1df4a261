import Mathlib
import WbMqttDali.Settings.Handlers

/-!
# The cached value of a group of settings

A `SettingsParamGroup` returns a copy of its cached value, which it updates only
when none of its settings raises.  The settings go on without it: one that has
succeeded beside one that failed keeps what it has written.  The dictionaries
of the group are objects here, which whoever was given one may change.
-/

namespace WbMqttDali.Handlers

open Settings (Error)

/-- A `SettingsParamGroup` with its dictionaries as objects. -/
structure GroupObjects (V : Type) where
  parameters : List (SettingsParam V × ParamState V)
  /-- the dictionaries, in the order of their creation -/
  objects : List (Dict String V) := [∅]
  /-- the object that is `_cached_value` -/
  cachedValue : ℕ := 0
  /-- the objects that were returned -/
  returned : List ℕ := []
  /-- the value of each key that its setting has returned last -/
  confirmed : Dict String V := ∅

inductive GroupEvent (V : Type) where
  | read (answers : BusAnswers V)
  | write (newValues : Values V) (answers : BusAnswers V)
  /-- whoever was given the object changes it -/
  | mutate (k : ℕ) (contents : Dict String V)

inductive GroupResult where
  | raises (error : Error)
  | empty
  | returns (object : ℕ)
  deriving DecidableEq

variable {V : Type}

/-- What the settings have returned, whatever the group makes of it. -/
def confirm (confirmed : Dict String V) (results : List (Except Error (Dict String V))) :
    Dict String V :=
  results.foldl (fun confirmed result => result.toOption.elim confirmed confirmed.update) confirmed

namespace GroupObjects

/-- The values of an object. -/
def contents (group : GroupObjects V) (object : ℕ) : Dict String V :=
  (group.objects[object]?).getD ∅

/-- `read` -/
def read (group : GroupObjects V) (answers : BusAnswers V) : GroupObjects V × GroupResult :=
  let results := group.parameters.mapIdx fun place (param, state) =>
    (param, param.read state (answers.values place))
  let group := { group with
    parameters := results.map fun (param, state, _) => (param, state)
    confirmed := confirm group.confirmed (results.map fun (_, _, result) => result) }
  match gather (results.map fun (_, _, result) => result) with
  | .error error => (group, .raises error)
  | .ok res =>
    -- the result, and the copy of it that is returned
    let object := group.objects.length
    ({ group with
        objects := group.objects ++ [res, res]
        cachedValue := object
        returned := (object + 1) :: group.returned },
      .returns (object + 1))

/-- What the settings make of a write of these fields. -/
def writes (group : GroupObjects V) (fields : Dict String V) (answers : BusAnswers V) :
    List (SettingsParam V × ParamState V × Except Error (Dict String V)) :=
  group.parameters.mapIdx fun place (param, state) =>
    (param, param.write state fields.get? (answers.values place))

/-- `write` for a single device. -/
def write (propertyName : String) (group : GroupObjects V) (newValues : Values V)
    (answers : BusAnswers V) : GroupObjects V × GroupResult :=
  match newValues.get? propertyName with
  | none => (group, .empty)
  | some (.card fields) =>
    let results := group.writes fields answers
    let group := { group with
      parameters := results.map fun (param, state, _) => (param, state)
      confirmed := confirm group.confirmed (results.map fun (_, _, result) => result) }
    match gather (results.map fun (_, _, result) => result) with
    | .error error => (group, .raises error)
    | .ok changed =>
      if changed.entries = [] then (group, .empty)
      else
        let cachedValue := (group.contents group.cachedValue).update changed
        let object := group.objects.length
        ({ group with
            objects := group.objects.set group.cachedValue cachedValue ++ [cachedValue]
            returned := object :: group.returned },
          .returns object)
  | some _ => (group, .raises .other)

def mutate (group : GroupObjects V) (k : ℕ) (contents : Dict String V) : GroupObjects V :=
  match group.returned[k]? with
  | none => group
  | some object => { group with objects := group.objects.set object contents }

def step (propertyName : String) (group : GroupObjects V) :
    GroupEvent V → GroupObjects V × GroupResult
  | .read answers => group.read answers
  | .write newValues answers => group.write propertyName newValues answers
  | .mutate k contents => (group.mutate k contents, .empty)

/-- The states in which the events of a run come. -/
def visits (propertyName : String) :
    GroupObjects V → List (GroupEvent V) → List (GroupObjects V × GroupEvent V)
  | _, [] => []
  | group, event :: events =>
    (group, event) :: visits propertyName (group.step propertyName event).1 events

/-- The group without its objects. -/
def toGroup (name propertyName : String) (group : GroupObjects V) : SettingsParamGroup V where
  name
  propertyName
  parameters := group.parameters
  cachedValue := group.contents group.cachedValue

/-! ### What a run should keep -/

/-- A dictionary holds what the settings have confirmed last. -/
def Holds (group : GroupObjects V) (values : Dict String V) : Prop :=
  ∀ key value, group.confirmed.get? key = some value → values.get? key = some value

/-- What is returned holds what the settings have confirmed last, and a change of what was
returned does not reach the group. -/
def IsComplete (propertyName : String) (group : GroupObjects V) (event : GroupEvent V) : Prop :=
  let (group', result) := group.step propertyName event
  match event with
  | .read _ | .write _ _ => ∀ object, result = .returns object →
    group'.Holds (group'.contents object)
  | .mutate _ _ => ∀ name, group'.toGroup name propertyName = group.toGroup name propertyName

/-- When a write returns something, the settings of the keys that the cached value is behind in
have returned them again. -/
def Reconfirms (propertyName : String) (group : GroupObjects V) : GroupEvent V → Prop
  | .write newValues answers =>
    match newValues.get? propertyName with
    | some (.card fields) =>
      let results := (group.writes fields answers).map fun (_, _, result) => result
      (∀ result ∈ results, result.isOk) → (∃ values, .ok values ∈ results ∧ values.entries ≠ []) →
        ∀ key value, group.confirmed.get? key = some value →
          (group.contents group.cachedValue).get? key = some value ∨
            ∃ values, .ok values ∈ results ∧ (values.get? key).isSome
    | _ => True
  | _ => True

end GroupObjects

/-! ### The settings of a group -/

section Param

variable {param : SettingsParam V} {state state' : ParamState V}

/-- The setting does not take silence for absence, not any more. -/
def SettingsParam.IsThere (param : SettingsParam V) (state : ParamState V) : Prop :=
  match param.silence with
  | .absent => state.setting.everAnswered = true
  | _ => True

lemma SettingsParam.isThere_of_everAnswered (h : state.setting.everAnswered = true) :
    param.IsThere state := by
  rw [IsThere]
  split
  · exact h
  · trivial

lemma isSome_get?_foldl_set (keys : List String) (cache : Dict String V) (values : String → V)
    (key : String) :
    ((keys.foldl (fun cache key => cache.set key (values key)) cache).get? key).isSome ↔
      key ∈ keys ∨ (cache.get? key).isSome := by
  induction keys generalizing cache with
  | nil => simp
  | cons key' keys ih =>
    rw [List.foldl_cons, ih, Dict.get?_set, List.mem_cons]
    by_cases hkey : key = key' <;> simp [hkey]

lemma isSome_get?_store (cache : Dict String V) (values : String → V) (key : String) :
    ((param.store cache values).get? key).isSome ↔
      key ∈ param.keys ∨ (cache.get? key).isSome :=
  isSome_get?_foldl_set param.keys cache values key

lemma isSome_get?_foldl_json (keys : List String) (cache res : Dict String V) (key : String) :
    ((keys.foldl (fun res key => (cache.get? key).elim res fun value =>
        res.set key (param.toJson value)) res).get? key).isSome ↔
      key ∈ keys ∧ (cache.get? key).isSome ∨ (res.get? key).isSome := by
  induction keys generalizing res with
  | nil => simp
  | cons key' keys ih =>
    rw [List.foldl_cons, ih, List.mem_cons]
    cases hget : cache.get? key' with
    | none =>
      by_cases hkey : key = key'
      · subst hkey
        simp [hget]
      · simp [hkey]
    | some value =>
      rw [Option.elim_some, Dict.get?_set]
      by_cases hkey : key = key'
      · subst hkey
        simp [hget]
      · simp [hkey]

/-- A handler that has stored values returns all its keys. -/
lemma isSome_get?_json_store (cache : Dict String V) (values : String → V) (key : String) :
    ((param.json (param.store cache values)).get? key).isSome ↔ key ∈ param.keys := by
  rw [SettingsParam.json, isSome_get?_foldl_json, isSome_get?_store]
  simp +contextual

lemma answered_spec {values : String → V} {result : Dict String V}
    (h : param.answered state values = (state', .ok result)) :
    param.IsThere state' ∧ ∀ key, (result.get? key).isSome ↔ key ∈ param.keys := by
  rw [SettingsParam.answered, SettingsParam.checked, Prod.mk.injEq] at h
  obtain ⟨rfl, hresult⟩ := h
  split at hresult
  · obtain rfl := Except.ok.inj hresult
    exact ⟨SettingsParam.isThere_of_everAnswered rfl, isSome_get?_json_store _ _⟩
  · cases hresult

lemma isThere_answered (values : String → V) : param.IsThere (param.answered state values).1 :=
  SettingsParam.isThere_of_everAnswered rfl

/-- A read that does not raise returns all keys, or the setting is absent. -/
lemma read_spec {answer : Except Error (String → V)} {result : Dict String V}
    (h : param.read state answer = (state', .ok result)) :
    (∀ key, (result.get? key).isSome → key ∈ param.keys ∧ param.IsThere state') ∧
      (param.IsThere state → ∀ key ∈ param.keys, (result.get? key).isSome) := by
  rw [SettingsParam.read.eq_def] at h
  cases answer with
  | ok values =>
    obtain ⟨hthere, hkeys⟩ := answered_spec h
    exact ⟨fun key hkey => ⟨(hkeys key).1 hkey, hthere⟩, fun _ key hkey => (hkeys key).2 hkey⟩
  | error error =>
    rw [SettingsParam.IsThere, SettingsParam.IsThere]
    cases hsilence : param.silence with
    | fails => simp [hsilence] at h
    -- a silent setting is absent as long as it has never answered
    | absent =>
      cases error with
      | noAnswer =>
        simp only [hsilence, Settings.OptionalSetting.noteAbsent] at h
        cases hever : state.setting.everAnswered with
        | true => simp [hever] at h
        | false =>
          simp only [hever, Bool.false_eq_true, if_false, Prod.mk.injEq, Except.ok.injEq] at h
          obtain ⟨-, rfl⟩ := h
          simp
      | runtime => simp [hsilence] at h
      | other => simp [hsilence] at h
    | assumed value =>
      cases error with
      | noAnswer =>
        simp only [hsilence] at h
        split at h
        · cases h
        · simp only [Prod.mk.injEq, Except.ok.injEq] at h
          obtain ⟨-, rfl⟩ := h
          exact ⟨fun key hkey => ⟨(isSome_get?_json_store _ _ key).1 hkey, trivial⟩,
            fun _ key hkey => (isSome_get?_json_store _ _ key).2 hkey⟩
      | runtime => simp [hsilence] at h
      | other => simp [hsilence] at h
    | defaulted value =>
      have hdefault : ∀ key, ((param.store ∅ fun _ => value).get? key).isSome ↔
          key ∈ param.keys := by
        intro key
        simp [isSome_get?_store]
      cases error with
      | noAnswer =>
        simp only [hsilence, Prod.mk.injEq, Except.ok.injEq] at h
        obtain ⟨-, rfl⟩ := h
        exact ⟨fun key hkey => ⟨(hdefault key).1 hkey, trivial⟩,
          fun _ key hkey => (hdefault key).2 hkey⟩
      | runtime =>
        simp only [hsilence, Prod.mk.injEq, Except.ok.injEq] at h
        obtain ⟨-, rfl⟩ := h
        exact ⟨fun key hkey => ⟨(hdefault key).1 hkey, trivial⟩,
          fun _ key hkey => (hdefault key).2 hkey⟩
      | other => simp [hsilence] at h

/-- What a write returns holds all keys or none. -/
lemma write_spec {request : String → Option V} {answer : Except Error (String → V)}
    {result : Dict String V} (h : param.write state request answer = (state', .ok result)) :
    ∀ key, (result.get? key).isSome → key ∈ param.keys ∧ param.IsThere state' := by
  have hempty : ∀ {state state' : ParamState V}, param.checked state ∅ = (state', .ok result) →
      ∀ key, (result.get? key).isSome → key ∈ param.keys ∧ param.IsThere state' := by
    intro state state' hchecked key hkey
    rw [SettingsParam.checked, Prod.mk.injEq] at hchecked
    obtain ⟨-, hresult⟩ := hchecked
    split at hresult
    · obtain rfl := Except.ok.inj hresult
      simp at hkey
    · cases hresult
  rw [SettingsParam.write.eq_def] at h
  by_cases habsent : (state.setting.isAbsent || state.isReadOnly) = true
  · rw [if_pos habsent] at h
    obtain ⟨-, hresult⟩ := Prod.mk.injEq _ _ _ _ ▸ h
    obtain rfl := Except.ok.inj hresult
    simp
  · rw [if_neg habsent] at h
    split at h
    · exact hempty h
    · split at h
      · exact hempty h
      · cases answer with
        | ok values =>
          obtain ⟨hthere, hkeys⟩ := answered_spec h
          exact fun key hkey => ⟨(hkeys key).1 hkey, hthere⟩
        | error error =>
          have hdefault : ∀ value, ∀ key,
              ((param.store ∅ fun _ => value).get? key).isSome ↔ key ∈ param.keys := by
            intro value key
            simp [isSome_get?_store]
          rw [SettingsParam.IsThere]
          cases hsilence : param.silence with
          | fails => simp [hsilence] at h
          | absent => simp [hsilence] at h
          | assumed value => simp [hsilence] at h
          | defaulted value =>
            cases error with
            | noAnswer =>
              simp only [hsilence, Prod.mk.injEq, Except.ok.injEq] at h
              obtain ⟨-, rfl⟩ := h
              exact fun key hkey => ⟨(hdefault value key).1 hkey, trivial⟩
            | runtime =>
              simp only [hsilence, Prod.mk.injEq, Except.ok.injEq] at h
              obtain ⟨-, rfl⟩ := h
              exact fun key hkey => ⟨(hdefault value key).1 hkey, trivial⟩
            | other => simp [hsilence] at h

lemma isThere_read (h : param.IsThere state) (answer : Except Error (String → V)) :
    param.IsThere (param.read state answer).1 := by
  rw [SettingsParam.read.eq_def]
  cases answer with
  | ok values => exact isThere_answered values
  | error error =>
    rw [SettingsParam.IsThere] at h ⊢
    cases hsilence : param.silence with
    | absent =>
      rw [hsilence] at h
      cases error with
      | noAnswer => simp [Settings.OptionalSetting.noteAbsent, h]
      | runtime => exact h
      | other => exact h
    | fails => trivial
    | assumed value => trivial
    | defaulted value => trivial

lemma isThere_write (h : param.IsThere state) (request : String → Option V)
    (answer : Except Error (String → V)) : param.IsThere (param.write state request answer).1 := by
  rw [SettingsParam.write.eq_def]
  split
  · exact h
  · split
    · exact h
    · split
      · exact h
      · cases answer with
        | ok values => exact isThere_answered values
        | error error =>
          rw [SettingsParam.IsThere] at h ⊢
          cases hsilence : param.silence with
          | absent =>
            rw [hsilence] at h
            exact h
          | fails => trivial
          | assumed value => trivial
          | defaulted value => trivial

end Param

/-! ### What the settings return together -/

section Gather

variable {results : List (Except Error (Dict String V))} {values : Dict String V}

lemma isSome_get?_update (d d' : Dict String V) (key : String) :
    ((d.update d').get? key).isSome ↔ (d'.get? key).isSome ∨ (d.get? key).isSome := by
  rw [Dict.get?_update]
  cases d'.get? key <;> simp

lemma isSome_get?_confirm (confirmed : Dict String V) (key : String) :
    ((confirm confirmed results).get? key).isSome ↔
      (∃ values, .ok values ∈ results ∧ (values.get? key).isSome) ∨
        (confirmed.get? key).isSome := by
  induction results generalizing confirmed with
  | nil => simp [confirm]
  | cons result results ih =>
    rw [confirm, List.foldl_cons, ← confirm, ih]
    cases result with
    | error error => simp [Except.toOption]
    | ok d =>
      simp only [Except.toOption, Option.elim_some, isSome_get?_update, List.mem_cons,
        Except.ok.injEq]
      constructor
      · rintro (⟨values, hmem, hkey⟩ | hkey | hkey)
        · exact .inl ⟨values, .inr hmem, hkey⟩
        · exact .inl ⟨d, .inl rfl, hkey⟩
        · exact .inr hkey
      · rintro (⟨values, rfl | hmem, hkey⟩ | hkey)
        · exact .inr (.inl hkey)
        · exact .inl ⟨values, hmem, hkey⟩
        · exact .inr (.inr hkey)

/-- Without an exception, what was gathered is what was confirmed since. -/
lemma get?_confirm_of_foldlM {acc confirmed confirmed' : Dict String V}
    (h : results.foldlM (fun res result => result.map res.update) acc = .ok values)
    (hacc : ∀ key, confirmed'.get? key = (acc.get? key).or (confirmed.get? key)) (key : String) :
    (confirm confirmed' results).get? key = (values.get? key).or (confirmed.get? key) := by
  induction results generalizing acc confirmed' with
  | nil =>
    obtain rfl := Except.ok.inj h
    exact hacc key
  | cons result results ih =>
    cases result with
    | error error => cases h
    | ok d =>
      refine ih h fun key => ?_
      simp only [Except.toOption, Option.elim_some, Dict.get?_update, hacc, Option.or_assoc]

lemma get?_confirm_of_gather (h : gather results = .ok values) (confirmed : Dict String V)
    (key : String) :
    (confirm confirmed results).get? key = (values.get? key).or (confirmed.get? key) :=
  get?_confirm_of_foldlM h (fun key => by simp) key

lemma isSome_get?_foldlM {acc : Dict String V}
    (h : results.foldlM (fun res result => result.map res.update) acc = .ok values)
    (key : String) :
    (values.get? key).isSome ↔
      (∃ d, .ok d ∈ results ∧ (d.get? key).isSome) ∨ (acc.get? key).isSome := by
  have hconfirm := @get?_confirm_of_foldlM V results values acc ∅ acc h (fun key => by simp) key
  rw [← isSome_get?_confirm acc key, hconfirm]
  simp

/-- A key was gathered iff one of the settings has returned it. -/
lemma isSome_get?_gather (h : gather results = .ok values) (key : String) :
    (values.get? key).isSome ↔ ∃ d, .ok d ∈ results ∧ (d.get? key).isSome := by
  simpa using isSome_get?_foldlM h key

lemma isOk_of_foldlM {acc : Dict String V}
    (h : results.foldlM (fun res result => result.map res.update) acc = .ok values) :
    ∀ result ∈ results, ∃ d, result = .ok d := by
  induction results generalizing acc with
  | nil => simp
  | cons result results ih =>
    cases result with
    | error error => cases h
    | ok d => exact List.forall_mem_cons.2 ⟨⟨d, rfl⟩, ih h⟩

lemma exists_foldlM (h : ∀ result ∈ results, result.isOk) (acc : Dict String V) :
    ∃ values, results.foldlM (fun res result => result.map res.update) acc = .ok values := by
  induction results generalizing acc with
  | nil => exact ⟨acc, rfl⟩
  | cons result results ih =>
    obtain ⟨hhead, hrest⟩ := List.forall_mem_cons.1 h
    cases result with
    | error error => cases hhead
    | ok d => exact ih hrest _

lemma entries_ne_nil_iff {d : Dict String V} : d.entries ≠ [] ↔ ∃ key, (d.get? key).isSome := by
  constructor
  · intro hne
    by_contra hnone
    refine hne ?_
    have hempty : d = ∅ := Dict.eq_empty_of_get? fun key => by
      simpa using not_exists.1 hnone key
    rw [hempty, Dict.entries_empty]
  · rintro ⟨key, hkey⟩ hnil
    rw [Dict.get?, hnil] at hkey
    cases hkey

end Gather

/-! ### One event -/

namespace GroupObjects

/-- The cached value is no object that was returned, and whoever has confirmed a key goes on
answering for it. -/
structure Inv (group : GroupObjects V) : Prop where
  cachedValue_lt : group.cachedValue < group.objects.length
  returned_lt : ∀ object ∈ group.returned, object < group.objects.length
  cachedValue_notMem : group.cachedValue ∉ group.returned
  there : ∀ key, (group.confirmed.get? key).isSome →
    ∃ p ∈ group.parameters, key ∈ p.1.keys ∧ p.1.IsThere p.2

variable {propertyName : String} {group : GroupObjects V}

/-- The settings that answer for what is confirmed, after each has returned something or not. -/
lemma there_of_results (h : group.Inv) (f : SettingsParam V → ParamState V → ℕ →
      ParamState V × Except Error (Dict String V))
    (hkeep : ∀ (param : SettingsParam V) state place, param.IsThere state →
      param.IsThere (f param state place).1)
    (hnew : ∀ (param : SettingsParam V) state place state' values,
      f param state place = (state', .ok values) →
        ∀ key, (values.get? key).isSome → key ∈ param.keys ∧ param.IsThere state')
    (results : List (SettingsParam V × ParamState V × Except Error (Dict String V)))
    (hresults : results = group.parameters.mapIdx fun place p => (p.1, f p.1 p.2 place)) :
    ∀ key, ((confirm group.confirmed (results.map fun r => r.2.2)).get? key).isSome →
      ∃ p ∈ results.map (fun r => (r.1, r.2.1)), key ∈ p.1.keys ∧ p.1.IsThere p.2 := by
  intro key hkey
  rcases (isSome_get?_confirm _ _).1 hkey with ⟨values, hmem, hvalues⟩ | hbefore
  · obtain ⟨r, hr, hok⟩ := List.mem_map.1 hmem
    have hr' := hr
    rw [hresults, List.mem_mapIdx] at hr'
    obtain ⟨place, hplace, rfl⟩ := hr'
    obtain ⟨hmemKey, hthere⟩ := hnew _ _ place _ values (Prod.ext rfl hok) key hvalues
    exact ⟨_, List.mem_map_of_mem hr, hmemKey, hthere⟩
  · obtain ⟨p, hp, hmemKey, hthere⟩ := h.there key hbefore
    obtain ⟨place, hplace, rfl⟩ := List.mem_iff_getElem.1 hp
    have hr : (group.parameters[place].1, f group.parameters[place].1 group.parameters[place].2
        place) ∈ results := by
      rw [hresults]
      exact List.mem_mapIdx.2 ⟨place, hplace, rfl⟩
    exact ⟨_, List.mem_map_of_mem hr, hmemKey, hkeep _ _ place hthere⟩

/-- A read that does not raise returns what was confirmed, now or before. -/
lemma isSome_get?_read (h : group.Inv) (answers : BusAnswers V) {values : Dict String V}
    (hgather : gather ((group.parameters.mapIdx fun place p =>
      (p.1, p.1.read p.2 (answers.values place))).map fun r => r.2.2) = .ok values) (key : String)
    (hkey : (group.confirmed.get? key).isSome) : (values.get? key).isSome := by
  obtain ⟨p, hp, hmem, hthere⟩ := h.there key hkey
  obtain ⟨place, hplace, rfl⟩ := List.mem_iff_getElem.1 hp
  have hresult : (group.parameters[place].1.read group.parameters[place].2
      (answers.values place)).2 ∈ (group.parameters.mapIdx fun place p =>
        (p.1, p.1.read p.2 (answers.values place))).map fun r => r.2.2 :=
    List.mem_map.2 ⟨_, List.mem_mapIdx.2 ⟨place, hplace, rfl⟩, rfl⟩
  obtain ⟨d, hd⟩ := isOk_of_foldlM hgather _ hresult
  rw [isSome_get?_gather hgather]
  exact ⟨d, hd ▸ hresult, (read_spec (Prod.ext rfl hd)).2 hthere key hmem⟩

lemma Inv.read (h : group.Inv) (answers : BusAnswers V) :
    (group.read answers).1.Inv ∧ ∀ object, (group.read answers).2 = .returns object →
      (group.read answers).1.Holds ((group.read answers).1.contents object) := by
  have hthere := there_of_results h
    (fun param state place => param.read state (answers.values place))
    (fun param state place hthere => isThere_read hthere _)
    (fun param state place state' values hread => (read_spec hread).1) _ rfl
  rw [GroupObjects.read]
  cases hgather : gather ((group.parameters.mapIdx fun place p =>
      (p.1, p.1.read p.2 (answers.values place))).map fun r => r.2.2) with
  | error error =>
    simp only
    exact ⟨⟨h.cachedValue_lt, h.returned_lt, h.cachedValue_notMem, hthere⟩, by simp⟩
  | ok values =>
    simp only
    refine ⟨⟨by simp, ?_, ?_, hthere⟩, ?_⟩
    · intro object hobject
      rcases List.mem_cons.1 hobject with rfl | hobject
      · simp
      · have := h.returned_lt object hobject
        simp
        omega
    · intro hmem
      rcases List.mem_cons.1 hmem with heq | hmem
      · exact absurd heq (Nat.ne_of_lt (Nat.lt_succ_self _))
      · exact absurd (h.returned_lt _ hmem) (lt_irrefl _)
    · intro object hobject
      obtain rfl := GroupResult.returns.inj hobject
      intro key value hconfirmed
      rw [get?_confirm_of_gather hgather] at hconfirmed
      obtain ⟨value', hvalue'⟩ : ∃ value', values.get? key = some value' := by
        rw [← Option.isSome_iff_exists]
        cases hget : values.get? key with
        | some value' => rfl
        | none =>
          rw [hget, Option.none_or] at hconfirmed
          have hread := isSome_get?_read h answers hgather key (by rw [hconfirmed]; rfl)
          rwa [hget] at hread
      simpa [contents, hvalue'] using hconfirmed

/-- A write that returns something is complete iff it has confirmed again what the cached value
is behind in. -/
lemma Inv.write (h : group.Inv) (newValues : Values V) (answers : BusAnswers V) :
    (group.write propertyName newValues answers).1.Inv ∧
      ((∀ object, (group.write propertyName newValues answers).2 = .returns object →
          (group.write propertyName newValues answers).1.Holds
            ((group.write propertyName newValues answers).1.contents object)) ↔
        group.Reconfirms propertyName (.write newValues answers)) := by
  rw [GroupObjects.write.eq_def, Reconfirms]
  rcases newValues.get? propertyName with _ | value | fields | limits | setting
  · exact ⟨h, by simp⟩
  · exact ⟨h, by simp⟩
  · have hthere := there_of_results h
      (fun param state place => param.write state fields.get? (answers.values place))
      (fun param state place hthere => isThere_write hthere _ _)
      (fun param state place state' values hwrite => write_spec hwrite) _ rfl
    cases hgather : gather ((group.writes fields answers).map fun r => r.2.2) with
    | error error =>
      simp only [hgather]
      refine ⟨⟨h.cachedValue_lt, h.returned_lt, h.cachedValue_notMem, hthere⟩,
        iff_of_true (by simp) fun hok => ?_⟩
      obtain ⟨values, hvalues⟩ := exists_foldlM hok ∅
      rw [gather, hvalues] at hgather
      cases hgather
    | ok changed =>
      simp only [hgather]
      by_cases hempty : changed.entries = []
      -- without changes nothing is returned, and nothing was confirmed again
      · simp only [if_pos hempty]
        refine ⟨⟨h.cachedValue_lt, h.returned_lt, h.cachedValue_notMem, hthere⟩,
          iff_of_true (by simp) ?_⟩
        rintro - ⟨values, hmem, hne⟩
        obtain ⟨key, hkey⟩ := entries_ne_nil_iff.1 hne
        exact absurd hempty (entries_ne_nil_iff.2
          ⟨key, (isSome_get?_gather hgather key).2 ⟨values, hmem, hkey⟩⟩)
      · simp only [if_neg hempty]
        refine ⟨⟨?_, ?_, ?_, hthere⟩, ?_⟩
        -- the new value is an object of its own
        · simpa using h.cachedValue_lt.le
        · intro object hobject
          rcases List.mem_cons.1 hobject with rfl | hobject
          · simp
          · have := h.returned_lt object hobject
            simp
            omega
        · intro hmem
          rcases List.mem_cons.1 hmem with heq | hmem
          · exact absurd heq (Nat.ne_of_lt h.cachedValue_lt)
          · exact h.cachedValue_notMem hmem
        · have hreturned : ∀ object, GroupResult.returns group.objects.length = .returns object ↔
              group.objects.length = object := fun object => by simp
          simp only [hreturned, forall_eq', Holds]
          constructor
          · intro hholds _ _ key value hconfirmed
            -- a confirmed key is in the changes of this write, or the cache had it right
            cases hchanged : changed.get? key with
            | some value' =>
              exact .inr ((isSome_get?_gather hgather key).1 (by rw [hchanged]; rfl))
            | none =>
              have hbehind := hholds key value (by
                rw [get?_confirm_of_gather hgather, hchanged, Option.none_or]
                exact hconfirmed)
              left
              simpa [contents, Dict.get?_update, hchanged] using hbehind
          · intro hreconfirms key value hconfirmed
            rw [get?_confirm_of_gather hgather] at hconfirmed
            have hcontents : ((group.contents group.cachedValue).update changed).get? key =
                some value := by
              rw [Dict.get?_update]
              cases hchanged : changed.get? key with
              | some value' => simpa [hchanged] using hconfirmed
              | none =>
                rw [hchanged, Option.none_or] at hconfirmed
                obtain ⟨key', hkey'⟩ := entries_ne_nil_iff.1 hempty
                obtain ⟨values, hmem, hvalues⟩ := (isSome_get?_gather hgather key').1 hkey'
                have hok : ∀ result ∈ (group.writes fields answers).map fun r => r.2.2,
                    result.isOk := by
                  intro result hresult
                  obtain ⟨d, rfl⟩ := isOk_of_foldlM hgather result hresult
                  rfl
                rcases hreconfirms hok ⟨values, hmem, entries_ne_nil_iff.2 ⟨key', hvalues⟩⟩ key
                  value hconfirmed with hcached | hagain
                · rw [Option.none_or]
                  exact hcached
                · have := (isSome_get?_gather hgather key).2 hagain
                  rw [hchanged] at this
                  cases this
            simpa [contents] using hcontents
  · exact ⟨h, by simp⟩
  · exact ⟨h, by simp⟩

lemma Inv.mutate (h : group.Inv) (k : ℕ) (contents : Dict String V) :
    (group.mutate k contents).Inv ∧
      (group.mutate k contents).contents (group.mutate k contents).cachedValue =
        group.contents group.cachedValue ∧
      (group.mutate k contents).parameters = group.parameters := by
  rw [GroupObjects.mutate]
  cases hobject : group.returned[k]? with
  | none => exact ⟨h, rfl, rfl⟩
  | some object =>
    -- the cached value is another object
    have hne : object ≠ group.cachedValue := fun heq =>
      h.cachedValue_notMem (heq ▸ List.mem_of_getElem? hobject)
    refine ⟨⟨?_, ?_, h.cachedValue_notMem, h.there⟩, ?_, rfl⟩
    · simpa using h.cachedValue_lt
    · simpa using h.returned_lt
    · simp [GroupObjects.contents, List.getElem?_set_ne hne]

lemma Inv.step (h : group.Inv) (event : GroupEvent V) :
    (group.step propertyName event).1.Inv ∧
      (group.IsComplete propertyName event ↔ group.Reconfirms propertyName event) := by
  cases event with
  | read answers =>
    obtain ⟨hinv, hholds⟩ := h.read answers
    exact ⟨hinv, iff_of_true hholds trivial⟩
  | write newValues answers => exact h.write newValues answers
  | mutate k contents =>
    obtain ⟨hinv, hcached, hparameters⟩ := h.mutate k contents
    refine ⟨hinv, iff_of_true (fun name => ?_) trivial⟩
    rw [toGroup, toGroup]
    exact congrArg₂ (fun parameters cachedValue =>
      (⟨name, propertyName, parameters, cachedValue⟩ : SettingsParamGroup V)) hparameters hcached

/-! ### Runs -/

lemma isComplete_iff_of_mem_visits (h : group.Inv) (events : List (GroupEvent V))
    {visit : GroupObjects V × GroupEvent V} (hvisit : visit ∈ visits propertyName group events) :
    visit.1.IsComplete propertyName visit.2 ↔ visit.1.Reconfirms propertyName visit.2 := by
  induction events generalizing group with
  | nil => cases hvisit
  | cons event events ih =>
    rw [visits] at hvisit
    rcases List.mem_cons.1 hvisit with rfl | hvisit
    · exact (h.step event).2
    · exact ih (h.step event).1 hvisit

lemma inv_of_parameters (parameters : List (SettingsParam V × ParamState V)) :
    ({ parameters } : GroupObjects V).Inv where
  cachedValue_lt := Nat.one_pos
  returned_lt := by simp
  cachedValue_notMem := by simp
  there := by simp

/-- Everything a group returns in a run is complete, and out of reach of whoever was given it,
iff every write that returns something has confirmed again what the cached value is behind in. -/
theorem isComplete_iff (propertyName : String) (parameters : List (SettingsParam V × ParamState V))
    (events : List (GroupEvent V)) :
    (∀ visit ∈ visits propertyName { parameters } events,
        visit.1.IsComplete propertyName visit.2) ↔
      ∀ visit ∈ visits propertyName { parameters } events,
        visit.1.Reconfirms propertyName visit.2 :=
  forall₂_congr fun _ hvisit =>
    isComplete_iff_of_mem_visits (inv_of_parameters parameters) events hvisit

/-! ### Runs without exceptions -/

/-- The cached value has what the settings have confirmed. -/
def IsUpToDate (group : GroupObjects V) : Prop := group.Holds (group.contents group.cachedValue)

lemma IsUpToDate.reconfirms (h : group.IsUpToDate) (event : GroupEvent V) :
    group.Reconfirms propertyName event := by
  cases event with
  | read answers => trivial
  | mutate k contents => trivial
  | write newValues answers =>
    rw [Reconfirms]
    split
    · exact fun _ _ key value hconfirmed => .inl (h key value hconfirmed)
    · trivial

lemma IsUpToDate.step (hinv : group.Inv) (h : group.IsUpToDate) (event : GroupEvent V)
    (hok : ∀ error, (group.step propertyName event).2 ≠ .raises error) :
    (group.step propertyName event).1.IsUpToDate := by
  cases event with
  | mutate k contents =>
    obtain ⟨-, hcached, -⟩ := hinv.mutate k contents
    show (group.mutate k contents).Holds
      ((group.mutate k contents).contents (group.mutate k contents).cachedValue)
    rw [hcached]
    intro key value hconfirmed
    refine h key value ?_
    rw [GroupObjects.mutate] at hconfirmed
    cases hobject : group.returned[k]? with
    | none => simpa [hobject] using hconfirmed
    | some object => simpa [hobject] using hconfirmed
  | read answers =>
    have hholds := (hinv.read answers).2
    rw [GroupObjects.step] at hok ⊢
    rw [GroupObjects.read] at hholds hok ⊢
    cases hgather : gather ((group.parameters.mapIdx fun place p =>
        (p.1, p.1.read p.2 (answers.values place))).map fun r => r.2.2) with
    | error error =>
      simp only [hgather] at hok
      exact absurd rfl (hok error)
    | ok values =>
      -- the copy that is returned has the same values
      simp only [hgather] at hholds ⊢
      intro key value hconfirmed
      simpa [contents] using hholds _ rfl key value hconfirmed
  | write newValues answers =>
    have hholds := (@Inv.write V propertyName group hinv newValues answers).2.2
      (h.reconfirms (.write newValues answers))
    rw [GroupObjects.step] at hok ⊢
    rw [GroupObjects.write.eq_def] at hholds hok ⊢
    rcases hget : newValues.get? propertyName with _ | value | fields | limits | setting
    · exact h
    · simp [hget] at hok
    · simp only [hget] at hok hholds ⊢
      cases hgather : gather ((group.writes fields answers).map fun r => r.2.2) with
      | error error =>
        simp only [hgather] at hok
        exact absurd rfl (hok error)
      | ok changed =>
        simp only [hgather] at hholds ⊢
        by_cases hempty : changed.entries = []
        · simp only [if_pos hempty]
          intro key value hconfirmed
          have hnone : changed.get? key = none := by
            rw [← Option.not_isSome_iff_eq_none]
            exact fun hsome => entries_ne_nil_iff.2 ⟨key, hsome⟩ hempty
          rw [get?_confirm_of_gather hgather, hnone, Option.none_or] at hconfirmed
          exact h key value hconfirmed
        · simp only [if_neg hempty] at hholds ⊢
          intro key value hconfirmed
          have hlt := hinv.cachedValue_lt
          simpa [contents, List.getElem?_append_left, hlt] using hholds _ rfl key value hconfirmed
    · simp [hget] at hok
    · simp [hget] at hok

/-- As long as nothing raises, a group does not get behind its settings. -/
theorem isComplete_of_not_raises (propertyName : String)
    (parameters : List (SettingsParam V × ParamState V)) (events : List (GroupEvent V))
    (hok : ∀ visit ∈ visits propertyName { parameters } events, ∀ error,
      (visit.1.step propertyName visit.2).2 ≠ .raises error) :
    ∀ visit ∈ visits propertyName { parameters } events,
      visit.1.IsComplete propertyName visit.2 := by
  have hrun : ∀ {group : GroupObjects V} {events : List (GroupEvent V)}, group.Inv →
      group.IsUpToDate → (∀ visit ∈ visits propertyName group events, ∀ error,
        (visit.1.step propertyName visit.2).2 ≠ .raises error) →
      ∀ visit ∈ visits propertyName group events, visit.1.IsComplete propertyName visit.2 := by
    intro group events hinv hupToDate hok
    induction events generalizing group with
    | nil => simp [visits]
    | cons event events ih =>
      rw [visits, List.forall_mem_cons] at hok ⊢
      exact ⟨(hinv.step event).2.2 (hupToDate.reconfirms event),
        ih (hinv.step event).1 (hupToDate.step hinv event hok.1) hok.2⟩
  refine hrun (inv_of_parameters parameters) (fun key value hconfirmed => ?_) hok
  simp at hconfirmed

end GroupObjects

/-! ### The model without objects -/

/-- What the caller sees in a result. -/
def GroupResult.json (propertyName : String) (group : GroupObjects V) :
    GroupResult → Except Error (Values V)
  | .raises error => .error error
  | .empty => .ok ∅
  | .returns object => .ok (Dict.set ∅ propertyName (.card (group.contents object)))

namespace GroupObjects

variable {group : GroupObjects V}

theorem read_toGroup (name propertyName : String) (group : GroupObjects V)
    (answers : BusAnswers V) :
    (group.toGroup name propertyName).read answers =
      ((group.read answers).1.toGroup name propertyName,
        (group.read answers).2.json propertyName (group.read answers).1) := by
  rw [SettingsParamGroup.read, GroupObjects.read]
  simp only [toGroup]
  cases hgather : gather ((group.parameters.mapIdx fun place p =>
      (p.1, p.1.read p.2 (answers.values place))).map fun r => r.2.2) with
  | error error => rfl
  | ok res => simp [contents, GroupResult.json]

theorem write_toGroup (name propertyName : String) {group : GroupObjects V} (h : group.Inv)
    (newValues : Values V) (answers : BusAnswers V) :
    (group.toGroup name propertyName).write newValues answers =
      ((group.write propertyName newValues answers).1.toGroup name propertyName,
        (group.write propertyName newValues answers).2.json propertyName
          (group.write propertyName newValues answers).1) := by
  rw [SettingsParamGroup.write.eq_def, GroupObjects.write.eq_def]
  have hproperty : (group.toGroup name propertyName).propertyName = propertyName := rfl
  rw [hproperty]
  rcases newValues.get? propertyName with _ | value | fields | limits | setting
  · rfl
  · rfl
  · have hlt := h.cachedValue_lt
    simp only [toGroup]
    cases hgather : gather ((group.writes fields answers).map fun r => r.2.2) with
    | error error =>
      rw [writes] at hgather
      simp only [hgather]
      rfl
    | ok changed =>
      rw [writes] at hgather
      simp only [hgather, writes]
      by_cases hempty : changed.entries = []
      · simp only [if_pos hempty]
        rfl
      · simp only [if_neg hempty]
        simp [contents, GroupResult.json, List.getElem?_append_left, hlt]
  · rfl
  · rfl

end GroupObjects

/-! ### A setting that fails beside one that succeeds -/

section Partial

/-- Two settings, both with the value 1. -/
def twoSettings : List (SettingsParam ℤ × ParamState ℤ) :=
  [(numberSettingsParam "NumberSettingsParam" "A" "a", {}),
    (numberSettingsParam "NumberSettingsParam" "B" "b", {})]

def twoAnswers (a b : Except Error ℤ) : BusAnswers ℤ where
  values place := if place = 0 then a.map fun value _ => value else b.map fun value _ => value
  limits := .error .other

def requested : Values ℤ := Dict.set ∅ "group" (.card ((Dict.set ∅ "a" 5).set "b" 7))

/-- The write of `b` fails, and is done again. -/
def partialEvents : List (GroupEvent ℤ) :=
  [.read (twoAnswers (.ok 1) (.ok 1)),
    .write requested (twoAnswers (.ok 5) (.error .runtime)),
    .write requested (twoAnswers (.ok 5) (.ok 7))]

/-- The group after the write that failed. -/
def behindGroup : GroupObjects ℤ :=
  ((({ parameters := twoSettings } : GroupObjects ℤ).read (twoAnswers (.ok 1) (.ok 1))).1.write
    "group" requested (twoAnswers (.ok 5) (.error .runtime))).1

/-- The last write returns 1 for `a`, which has been confirmed to be 5. -/
theorem exists_not_isComplete :
    ¬∀ visit ∈ GroupObjects.visits "group" { parameters := twoSettings } partialEvents,
      visit.1.IsComplete "group" visit.2 := by
  intro hcomplete
  have hvisit : (behindGroup, .write requested (twoAnswers (.ok 5) (.ok 7))) ∈
      GroupObjects.visits "group" { parameters := twoSettings } partialEvents :=
    List.mem_cons_of_mem _ (List.mem_cons_of_mem _ List.mem_cons_self)
  have hholds : ∀ object,
      (behindGroup.write "group" requested (twoAnswers (.ok 5) (.ok 7))).2 = .returns object →
        (behindGroup.write "group" requested (twoAnswers (.ok 5) (.ok 7))).1.Holds
          ((behindGroup.write "group" requested (twoAnswers (.ok 5) (.ok 7))).1.contents object) :=
    hcomplete _ hvisit
  have hvalue := hholds 3 (by decide +kernel) "a" 5 (by decide +kernel)
  have hstale : ((behindGroup.write "group" requested (twoAnswers (.ok 5) (.ok 7))).1.contents
      3).get? "a" = some 1 := by decide +kernel
  rw [hstale] at hvalue
  cases hvalue

end Partial

end WbMqttDali.Handlers
