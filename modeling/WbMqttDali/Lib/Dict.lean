import Mathlib

/-!
# Insertion-ordered dictionaries

The dictionaries of the modelled code iterate in insertion order, and assigning
to a key that is present keeps the key's place.  `Dict` is an association list
with distinct keys that behaves this way; `AList` does not, since its `insert`
moves the key to the front.  All facts are stated through `get?`, so that a
proof about a dictionary never looks at its list of entries.
-/

namespace WbMqttDali

/-- A finite map as the list of its entries, in insertion order. -/
structure Dict (κ α : Type*) where
  entries : List (κ × α)
  nodup : (entries.map Prod.fst).Nodup

namespace Dict

variable {κ α : Type*}

@[ext] lemma ext {d d' : Dict κ α} (h : d.entries = d'.entries) : d = d' := by
  cases d; cases d'; congr

instance [DecidableEq κ] [DecidableEq α] : DecidableEq (Dict κ α) := fun d d' =>
  decidable_of_iff (d.entries = d'.entries) ⟨Dict.ext, fun h => by rw [h]⟩

def empty : Dict κ α := ⟨[], List.nodup_nil⟩

instance : EmptyCollection (Dict κ α) := ⟨empty⟩

instance : Inhabited (Dict κ α) := ⟨empty⟩

@[simp] lemma entries_empty : (∅ : Dict κ α).entries = [] := rfl

def keys (d : Dict κ α) : List κ := d.entries.map Prod.fst

def values (d : Dict κ α) : List α := d.entries.map Prod.snd

def size (d : Dict κ α) : ℕ := d.entries.length

@[simp] lemma keys_empty : (∅ : Dict κ α).keys = [] := rfl

@[simp] lemma values_empty : (∅ : Dict κ α).values = [] := rfl

@[simp] lemma length_keys (d : Dict κ α) : d.keys.length = d.size := List.length_map _

lemma nodup_keys (d : Dict κ α) : d.keys.Nodup := d.nodup

variable [DecidableEq κ]

/-- `d.get(k)`. -/
def get? (d : Dict κ α) (k : κ) : Option α :=
  (d.entries.find? fun e => e.1 = k).map Prod.snd

/-- `d.pop(k, None)`. -/
def erase (d : Dict κ α) (k : κ) : Dict κ α where
  entries := d.entries.filter fun e => e.1 ≠ k
  nodup := d.nodup.sublist (List.filter_sublist.map Prod.fst)

/-- The entries after `d[k] = v`: a present key keeps its place, a new one goes
to the end. -/
def setEntries (k : κ) (v : α) : List (κ × α) → List (κ × α)
  | [] => [(k, v)]
  | e :: es => if e.1 = k then (k, v) :: es else e :: setEntries k v es

lemma map_fst_setEntries (k : κ) (v : α) (es : List (κ × α)) :
    (setEntries k v es).map Prod.fst =
      if k ∈ es.map Prod.fst then es.map Prod.fst else es.map Prod.fst ++ [k] := by
  induction es with
  | nil => simp [setEntries]
  | cons e es ih =>
    by_cases h : e.1 = k
    · simp [setEntries, h]
    · simp only [setEntries, if_neg h, List.map_cons, ih, List.mem_cons, Ne.symm h, false_or]
      split <;> simp

lemma setEntries_of_notMem {k : κ} (v : α) {es : List (κ × α)} (h : k ∉ es.map Prod.fst) :
    setEntries k v es = es ++ [(k, v)] := by
  induction es with
  | nil => rfl
  | cons e es ih =>
    rw [List.map_cons, List.mem_cons, not_or] at h
    rw [setEntries, if_neg (Ne.symm h.1), ih h.2, List.cons_append]

/-- `d[k] = v`. -/
def set (d : Dict κ α) (k : κ) (v : α) : Dict κ α where
  entries := setEntries k v d.entries
  nodup := by
    rw [map_fst_setEntries]
    split
    · exact d.nodup
    · next h => exact List.nodup_append.2 ⟨d.nodup, List.nodup_singleton k, by
        rintro a ha b hb rfl
        exact h (by simpa [List.mem_singleton.1 hb] using ha)⟩

/-! ### Reading -/

@[simp] lemma get?_empty (k : κ) : (∅ : Dict κ α).get? k = none := rfl

/-- Reading a key finds the entry of that key. -/
lemma get?_eq_some_iff {d : Dict κ α} {k : κ} {v : α} :
    d.get? k = some v ↔ (k, v) ∈ d.entries := by
  simp only [get?, Option.map_eq_some_iff]
  constructor
  · rintro ⟨⟨k', v'⟩, hfind, rfl⟩
    have hk : k' = k := by simpa using List.find?_some hfind
    exact hk ▸ List.mem_of_find?_eq_some hfind
  · intro hmem
    refine ⟨(k, v), ?_, rfl⟩
    obtain ⟨e, he⟩ := Option.isSome_iff_exists.1
      (List.find?_isSome (p := fun e => decide (e.1 = k)) |>.2 ⟨(k, v), hmem, by simp⟩)
    have hek : e.1 = k := by simpa using List.find?_some he
    have : e = (k, v) := List.inj_on_of_nodup_map d.nodup
      (List.mem_of_find?_eq_some he) hmem hek
    rw [he, this]

lemma mem_keys_iff {d : Dict κ α} {k : κ} : k ∈ d.keys ↔ ∃ v, d.get? k = some v := by
  simp [keys, get?_eq_some_iff]

lemma get?_eq_none_iff {d : Dict κ α} {k : κ} : d.get? k = none ↔ k ∉ d.keys := by
  rw [mem_keys_iff, Option.eq_none_iff_forall_not_mem, not_exists]
  rfl

lemma mem_values_iff {d : Dict κ α} {v : α} : v ∈ d.values ↔ ∃ k, d.get? k = some v := by
  simp [values, get?_eq_some_iff]

/-- A dictionary without readable keys is empty. -/
lemma eq_empty_of_get? {d : Dict κ α} (h : ∀ k, d.get? k = none) : d = ∅ := by
  ext1
  refine List.eq_nil_iff_forall_not_mem.2 fun e he => ?_
  have := get?_eq_some_iff.2 (show (e.1, e.2) ∈ d.entries from he)
  simp [h] at this

/-! ### Writing -/

lemma mem_setEntries {k : κ} {v : α} {es : List (κ × α)} (h : (es.map Prod.fst).Nodup)
    {e : κ × α} : e ∈ setEntries k v es ↔ e = (k, v) ∨ (e ∈ es ∧ e.1 ≠ k) := by
  induction es with
  | nil => simp [setEntries]
  | cons e' es ih =>
    rw [List.map_cons, List.nodup_cons] at h
    by_cases hk : e'.1 = k
    · have hfresh : ∀ x ∈ es, x.1 ≠ k := fun x hx hxk =>
        h.1 (hk ▸ hxk ▸ List.mem_map_of_mem hx)
      simp only [setEntries, if_pos hk, List.mem_cons]
      constructor
      · rintro (rfl | hx)
        · exact Or.inl rfl
        · exact Or.inr ⟨Or.inr hx, hfresh e hx⟩
      · rintro (rfl | ⟨rfl | hx, hne⟩)
        · exact Or.inl rfl
        · exact absurd hk hne
        · exact Or.inr hx
    · simp only [setEntries, if_neg hk, List.mem_cons, ih h.2]
      constructor
      · rintro (rfl | rfl | ⟨hx, hne⟩)
        · exact Or.inr ⟨Or.inl rfl, hk⟩
        · exact Or.inl rfl
        · exact Or.inr ⟨Or.inr hx, hne⟩
      · rintro (rfl | ⟨rfl | hx, hne⟩)
        · exact Or.inr (Or.inl rfl)
        · exact Or.inl rfl
        · exact Or.inr (Or.inr ⟨hx, hne⟩)

@[simp] lemma get?_set_self (d : Dict κ α) (k : κ) (v : α) : (d.set k v).get? k = some v :=
  get?_eq_some_iff.2 ((mem_setEntries d.nodup).2 (Or.inl rfl))

lemma get?_set_of_ne (d : Dict κ α) {k k' : κ} (v : α) (h : k' ≠ k) :
    (d.set k v).get? k' = d.get? k' := by
  refine Option.ext fun v' => ?_
  rw [get?_eq_some_iff, get?_eq_some_iff, set, mem_setEntries d.nodup]
  simp [h]

lemma get?_set (d : Dict κ α) (k k' : κ) (v : α) :
    (d.set k v).get? k' = if k' = k then some v else d.get? k' := by
  split
  · next h => rw [h, get?_set_self]
  · next h => exact get?_set_of_ne d v h

@[simp] lemma get?_erase_self (d : Dict κ α) (k : κ) : (d.erase k).get? k = none := by
  refine Option.eq_none_iff_forall_ne_some.2 fun v h => ?_
  simpa [erase] using get?_eq_some_iff.1 h

lemma get?_erase_of_ne (d : Dict κ α) {k k' : κ} (h : k' ≠ k) :
    (d.erase k).get? k' = d.get? k' := by
  refine Option.ext fun v' => ?_
  rw [get?_eq_some_iff, get?_eq_some_iff]
  simp [erase, h]

lemma get?_erase (d : Dict κ α) (k k' : κ) :
    (d.erase k).get? k' = if k' = k then none else d.get? k' := by
  split
  · next h => rw [h, get?_erase_self]
  · next h => exact get?_erase_of_ne d h

/-- `d.update(d')`. -/
def update (d d' : Dict κ α) : Dict κ α :=
  d'.entries.foldl (fun d e => d.set e.1 e.2) d

lemma get?_foldl_set {es : List (κ × α)} (h : (es.map Prod.fst).Nodup) (d : Dict κ α) (k : κ) :
    (es.foldl (fun d e => d.set e.1 e.2) d).get? k =
      ((es.find? fun e => e.1 = k).map Prod.snd).or (d.get? k) := by
  induction es generalizing d with
  | nil => rfl
  | cons e es ih =>
    rw [List.map_cons, List.nodup_cons] at h
    rw [List.foldl_cons, ih h.2, get?_set, List.find?_cons]
    by_cases hk : e.1 = k
    · -- no later entry has the key of this one
      have hnone : (es.find? fun e => e.1 = k) = none :=
        List.find?_eq_none.2 fun e' he' => by
          simpa using fun heq : e'.1 = k => h.1 (hk ▸ heq ▸ List.mem_map_of_mem he')
      simp [hk, hnone]
    · simp [hk, Ne.symm hk]

/-- `dict(pairs)`. -/
def ofPairs (es : List (κ × α)) : Dict κ α :=
  es.foldl (fun d e => d.set e.1 e.2) ∅

lemma entries_ofPairs {es : List (κ × α)} (h : (es.map Prod.fst).Nodup) :
    (ofPairs es).entries = es := by
  induction es using List.reverseRecOn with
  | nil => rfl
  | append_singleton es e ih =>
    rw [List.map_append, List.nodup_append] at h
    have hset : ofPairs (es ++ [e]) = (ofPairs es).set e.1 e.2 := List.foldl_append
    have hnew : e.1 ∉ (ofPairs es).entries.map Prod.fst := by
      rw [ih h.1]
      exact fun hmem => h.2.2 _ hmem _ (by simp) rfl
    rw [hset]
    exact (setEntries_of_notMem e.2 hnew).trans (by rw [ih h.1])

/-- The entries of the second dictionary win. -/
lemma get?_update (d d' : Dict κ α) (k : κ) : (d.update d').get? k = (d'.get? k).or (d.get? k) :=
  get?_foldl_set d'.nodup d k

/-- Updating a larger dictionary with the same dictionaries gives a larger one. -/
lemma get?_foldl_update {ds : List (Dict κ α)} {d d' : Dict κ α} {k : κ} {v : α}
    (h : (ds.foldl update d).get? k = some v)
    (hle : ∀ v, d.get? k = some v → d'.get? k = some v) :
    (ds.foldl update d').get? k = some v := by
  induction ds generalizing d d' with
  | nil => exact hle v h
  | cons e ds ih =>
    refine ih h fun v hv => ?_
    rw [get?_update] at hv ⊢
    cases he : e.get? k with
    | some _ => rwa [he] at hv
    | none =>
      rw [he] at hv
      exact hle v hv

/-- `{k: f(v) for k, v in d.items()}`. -/
def mapValues {β : Type*} (f : α → β) (d : Dict κ α) : Dict κ β where
  entries := d.entries.map fun e => (e.1, f e.2)
  nodup := by
    rw [List.map_map]
    exact d.nodup

/-- The values after `f`, which sees the key. -/
def mapWithKey {β : Type*} (f : κ → α → β) (d : Dict κ α) : Dict κ β where
  entries := d.entries.map fun e => (e.1, f e.1 e.2)
  nodup := by
    rw [List.map_map]
    exact d.nodup

lemma get?_mapWithKey {β : Type*} (f : κ → α → β) (d : Dict κ α) (k : κ) :
    (d.mapWithKey f).get? k = (d.get? k).map (f k) := by
  refine Option.ext fun v => ?_
  rw [get?_eq_some_iff, Option.map_eq_some_iff]
  constructor
  · intro hmem
    obtain ⟨⟨k', v'⟩, hentry, heq⟩ := List.mem_map.1 hmem
    cases heq
    exact ⟨v', get?_eq_some_iff.2 hentry, rfl⟩
  · rintro ⟨v', hv', rfl⟩
    exact List.mem_map.2 ⟨(k, v'), get?_eq_some_iff.1 hv', rfl⟩

lemma get?_mapValues {β : Type*} (f : α → β) (d : Dict κ α) (k : κ) :
    (d.mapValues f).get? k = (d.get? k).map f :=
  d.get?_mapWithKey (fun _ => f) k

lemma get?_foldl_erase (ks : List κ) (d : Dict κ α) (k : κ) :
    (ks.foldl erase d).get? k = if k ∈ ks then none else d.get? k := by
  induction ks generalizing d with
  | nil => rfl
  | cons k' ks ih =>
    rw [List.foldl_cons, ih, get?_erase]
    by_cases hmem : k ∈ ks
    · simp [hmem]
    · by_cases heq : k = k' <;> simp [hmem, heq]

/-- `d.setdefault(k, v)`. -/
def setDefault (v : α) (d : Dict κ α) (k : κ) : Dict κ α :=
  if k ∈ d.keys then d else d.set k v

lemma get?_setDefault (v : α) (d : Dict κ α) (k k' : κ) :
    (d.setDefault v k).get? k' = (d.get? k').or (if k' = k then some v else none) := by
  unfold setDefault
  by_cases hkey : k ∈ d.keys
  · obtain ⟨w, hw⟩ := mem_keys_iff.1 hkey
    by_cases heq : k' = k
    · simp [hkey, heq, hw]
    · simp [hkey, heq]
  · rw [if_neg hkey, get?_set]
    by_cases heq : k' = k
    · simp [heq, get?_eq_none_iff.2 hkey]
    · simp [heq]

lemma get?_foldl_setDefault (v : α) (ks : List κ) (d : Dict κ α) (k : κ) :
    (ks.foldl (setDefault v) d).get? k =
      (d.get? k).or (if k ∈ ks then some v else none) := by
  induction ks generalizing d with
  | nil => exact Option.or_none.symm
  | cons k' ks ih =>
    rw [List.foldl_cons, ih, get?_setDefault, Option.or_assoc]
    congr 1
    by_cases heq : k = k' <;> simp [heq]

/-! ### The reversed dictionary -/

/-- The last key with the given value. -/
def lastKey? {κ α : Type*} [DecidableEq α] (d : Dict κ α) (v : α) : Option κ :=
  (d.entries.reverse.find? fun e => e.2 = v).map Prod.fst

/-- `{v: k for k, v in d.items()}`, where the last key of a value wins. -/
def invert {κ α : Type*} [DecidableEq α] (d : Dict κ α) : Dict α κ :=
  d.entries.foldl (fun d e => d.set e.2 e.1) ∅

lemma get?_foldl_set_last {ε : Type*} (key : ε → κ) (value : ε → α) (es : List ε) (d : Dict κ α)
    (k : κ) : (es.foldl (fun d e => d.set (key e) (value e)) d).get? k =
      ((es.reverse.find? fun e => key e = k).map value).or (d.get? k) := by
  induction es using List.reverseRecOn with
  | nil => rfl
  | append_singleton es e ih =>
    rw [List.foldl_append, List.reverse_append]
    show (Dict.set _ _ _).get? k = ((List.find? _ (e :: es.reverse)).map value).or _
    rw [get?_set, ih, List.find?_cons]
    by_cases hk : key e = k
    · simp [hk]
    · simp [hk, Ne.symm hk]

section Invert

variable {κ α : Type*} [DecidableEq α] {d : Dict κ α} {k : κ} {v : α}

@[simp] lemma get?_invert : d.invert.get? v = d.lastKey? v := by
  rw [invert, get?_foldl_set_last, get?_empty, Option.or_none]
  rfl

lemma mem_entries_of_lastKey? (h : d.lastKey? v = some k) : (k, v) ∈ d.entries := by
  obtain ⟨⟨k', v'⟩, hfind, rfl⟩ := Option.map_eq_some_iff.1 h
  have hv : v' = v := by simpa using List.find?_some hfind
  exact hv ▸ List.mem_reverse.1 (List.mem_of_find?_eq_some hfind)

lemma get?_of_lastKey? [DecidableEq κ] (h : d.lastKey? v = some k) : d.get? k = some v :=
  get?_eq_some_iff.2 (mem_entries_of_lastKey? h)

lemma exists_lastKey? [DecidableEq κ] (h : d.get? k = some v) : ∃ k', d.lastKey? v = some k' := by
  obtain ⟨e, he⟩ := Option.isSome_iff_exists.1
    (List.find?_isSome (p := fun e : κ × α => decide (e.2 = v)) |>.2
      ⟨(k, v), List.mem_reverse.2 (get?_eq_some_iff.1 h), decide_eq_true rfl⟩)
  exact ⟨e.1, congrArg (Option.map Prod.fst) he⟩

lemma mem_keys_invert [DecidableEq κ] : v ∈ d.invert.keys ↔ ∃ k, d.get? k = some v := by
  rw [mem_keys_iff]
  constructor
  · rintro ⟨k, hk⟩
    rw [get?_invert] at hk
    exact ⟨k, get?_of_lastKey? hk⟩
  · rintro ⟨k, hk⟩
    obtain ⟨k', hk'⟩ := exists_lastKey? hk
    exact ⟨k', get?_invert.trans hk'⟩

end Invert

lemma mem_keys_set {d : Dict κ α} {k k' : κ} {v : α} :
    k' ∈ (d.set k v).keys ↔ k' = k ∨ k' ∈ d.keys := by
  rw [mem_keys_iff, mem_keys_iff, get?_set]
  by_cases h : k' = k <;> simp [h]

/-- A property that the new value inherits from the replaced one still has a value. -/
lemma exists_mem_values_set {d : Dict κ α} {k : κ} {w : α} {P : α → Prop}
    (h : ∃ v ∈ d.values, P v) (hk : ∀ v, d.get? k = some v → P v → P w) :
    ∃ v ∈ (d.set k w).values, P v := by
  obtain ⟨v, hv, hP⟩ := h
  obtain ⟨k', hk'⟩ := mem_values_iff.1 hv
  by_cases heq : k' = k
  · subst heq
    exact ⟨w, mem_values_iff.2 ⟨k', get?_set_self d k' w⟩, hk v hk' hP⟩
  · exact ⟨v, mem_values_iff.2 ⟨k', by rwa [get?_set_of_ne d w heq]⟩, hP⟩

lemma exists_mem_values_erase {d : Dict κ α} {k : κ} {P : α → Prop}
    (h : ∃ v ∈ d.values, P v) (hk : ∀ v, d.get? k = some v → ¬P v) :
    ∃ v ∈ (d.erase k).values, P v := by
  obtain ⟨v, hv, hP⟩ := h
  obtain ⟨k', hk'⟩ := mem_values_iff.1 hv
  have hne : k' ≠ k := fun heq => hk v (heq ▸ hk') hP
  exact ⟨v, mem_values_iff.2 ⟨k', by rwa [get?_erase_of_ne d hne]⟩, hP⟩

lemma mem_values_set {d : Dict κ α} {k : κ} {v w : α} (h : v ∈ (d.set k w).values) :
    v = w ∨ v ∈ d.values := by
  obtain ⟨k', hk'⟩ := mem_values_iff.1 h
  rw [get?_set] at hk'
  split at hk'
  · exact .inl (Option.some.inj hk').symm
  · exact .inr (mem_values_iff.2 ⟨k', hk'⟩)

lemma mem_values_erase {d : Dict κ α} {k : κ} {v : α} (h : v ∈ (d.erase k).values) :
    v ∈ d.values := by
  obtain ⟨k', hk'⟩ := mem_values_iff.1 h
  rw [get?_erase] at hk'
  split at hk'
  · cases hk'
  · exact mem_values_iff.2 ⟨k', hk'⟩

/-- Popping a present key leaves one entry less. -/
lemma size_erase_lt {d : Dict κ α} {k : κ} {v : α} (h : d.get? k = some v) :
    (d.erase k).size < d.size := by
  refine List.length_filter_lt_length_iff_exists.2 ⟨(k, v), get?_eq_some_iff.1 h, ?_⟩
  simp

end Dict

end WbMqttDali
