import Mathlib

/-!
# Interleaved actions

Numbered tasks perform actions on a shared state, and a run is the list of the
actions in the order in which they happened, each with the number of its task.
A state is seen through its cells: `cell c` relates two states that agree on
the cell `c`.  An action that reads some cells and changes others commutes with
every action that stays away from what it changes, and keeps what it reads.  So
a run in which only such actions overtake each other ends as if the tasks had
run one after another.
-/

namespace WbMqttDali.Interleaving

variable {σ α κ : Type*}

/-- The state after performing the actions of `l` in order. -/
def performAll (act : α → σ → σ) (l : List α) (s : σ) : σ := l.foldl (fun s a => act a s) s

section PerformAll

variable {act : α → σ → σ} {a : α} {l l' : List α} {s : σ}

@[simp] lemma performAll_nil : performAll act [] s = s := rfl

@[simp] lemma performAll_cons : performAll act (a :: l) s = performAll act l (act a s) := rfl

@[simp] lemma performAll_append :
    performAll act (l ++ l') s = performAll act l' (performAll act l s) :=
  List.foldl_append

/-- An action moves behind a list of actions that all commute with it. -/
lemma performAll_act (h : ∀ b ∈ l, Function.Commute (act a) (act b)) :
    performAll act l (act a s) = act a (performAll act l s) := by
  induction l generalizing s with
  | nil => rfl
  | cons b l ih =>
    rw [performAll_cons, performAll_cons, ← h b (by simp) s]
    exact ih fun b' hb' => h b' (by simp [hb'])

end PerformAll

/-! ### Actions that stay apart -/

/-- `f` reads the cells `R` and changes at most the cells `W`. -/
structure Footprint (cell : κ → Setoid σ) (f : σ → σ) (R W : Set κ) : Prop where
  frame : ∀ s, ∀ c ∉ W, (cell c).r (f s) s
  locality : ∀ s t, (∀ c ∈ R ∪ W, (cell c).r s t) → ∀ c ∈ W, (cell c).r (f s) (f t)

/-- The identity touches nothing. -/
lemma Footprint.id {cell : κ → Setoid σ} {R W : Set κ} : Footprint cell id R W where
  frame s c _ := (cell c).refl s
  locality _ _ h c hc := h c (Or.inr hc)

/-- Two actions commute when neither changes what the other touches. -/
theorem Footprint.commute {cell : κ → Setoid σ} {f g : σ → σ} {R W R' W' : Set κ}
    (hext : ∀ s t, (∀ c, (cell c).r s t) → s = t)
    (hf : Footprint cell f R W) (hg : Footprint cell g R' W')
    (hfg : Disjoint W (R' ∪ W')) (hgf : Disjoint W' (R ∪ W)) : Function.Commute f g := by
  intro s
  refine hext _ _ fun c => ?_
  by_cases hc : c ∈ W
  · -- `c` is changed by `f` alone, which reads nothing that `g` changes
    have hc' : c ∉ W' := fun h => Set.disjoint_left.1 hgf h (Or.inr hc)
    have hsame : ∀ d ∈ R ∪ W, (cell d).r (g s) s := fun d hd =>
      hg.frame s d fun h => Set.disjoint_left.1 hgf h hd
    exact (cell c).trans (hf.locality _ _ hsame c hc) ((cell c).symm (hg.frame _ c hc'))
  · have hleft : (cell c).r (f (g s)) (g s) := hf.frame _ c hc
    by_cases hc' : c ∈ W'
    · have hsame : ∀ d ∈ R' ∪ W', (cell d).r s (f s) := fun d hd =>
        (cell d).symm (hf.frame s d fun h => Set.disjoint_left.1 hfg h hd)
      exact (cell c).trans hleft (hg.locality _ _ hsame c hc')
    · exact (cell c).trans hleft ((cell c).trans (hg.frame s c hc')
        ((cell c).symm ((cell c).trans (hg.frame _ c hc') (hf.frame s c hc))))

/-! ### Putting a run back in order -/

section Ordered

variable {act : α → σ → σ} {l : List (ℕ × α)} {s : σ} {n : ℕ}

/-- The actions of the task `i` in a run. -/
def ofTask (i : ℕ) (l : List (ℕ × α)) : List α := (l.filter (·.1 = i)).map Prod.snd

@[simp] lemma ofTask_nil {i : ℕ} : ofTask i ([] : List (ℕ × α)) = [] := rfl

lemma ofTask_append {i : ℕ} {l' : List (ℕ × α)} :
    ofTask i (l ++ l') = ofTask i l ++ ofTask i l' := by
  simp [ofTask]

lemma ofTask_map_self (i : ℕ) (as : List α) : ofTask i (as.map (i, ·)) = as := by
  simp [ofTask, List.filter_map, Function.comp_def]

lemma ofTask_map_of_ne {i j : ℕ} (h : j ≠ i) (as : List α) : ofTask i (as.map (j, ·)) = [] := by
  simp [ofTask, List.filter_map, Function.comp_def, h]

lemma ofTask_eq_nil {i : ℕ} (h : ∀ x ∈ l, x.1 ≠ i) : ofTask i l = [] := by
  simpa [ofTask, List.filter_eq_nil_iff] using fun j a hmem hj => h (j, a) hmem hj

/-- Every action that overtook an action of an earlier task commutes with it. -/
def Overtaking (act : α → σ → σ) (l : List (ℕ × α)) : Prop :=
  l.Pairwise fun x y => y.1 < x.1 → Function.Commute (act x.2) (act y.2)

/-- The actions of the last task may be left for the end. -/
lemma performAll_last (h : Overtaking act l) (hn : ∀ x ∈ l, x.1 ≤ n) :
    performAll act (l.map Prod.snd) s =
      performAll act ((l.filter (·.1 < n)).map Prod.snd ++ ofTask n l) s := by
  induction l generalizing s with
  | nil => rfl
  | cons x l ih =>
    obtain ⟨hx, hl⟩ := List.pairwise_cons.1 h
    have ih' := @ih (act x.2 s) hl fun y hy => hn y (List.mem_cons_of_mem x hy)
    rw [List.map_cons, performAll_cons, ih']
    rcases lt_or_eq_of_le (hn x (by simp)) with hlt | heq
    · simp [ofTask, hlt, hlt.ne]
    · have hcomm : ∀ b ∈ (l.filter (·.1 < n)).map Prod.snd,
          Function.Commute (act x.2) (act b) := by
        simp only [List.mem_map, List.mem_filter, decide_eq_true_eq]
        rintro _ ⟨y, ⟨hy, hyn⟩, rfl⟩
        exact hx y hy (heq ▸ hyn)
      simp only [ofTask, List.filter_cons, heq, lt_irrefl, decide_false, decide_true,
        Bool.false_eq_true, if_false, if_true, List.map_cons, performAll_append,
        performAll_cons, performAll_act hcomm]

/-- A run in which only commuting actions overtook each other ends like the
tasks one after another. -/
theorem performAll_inOrder (h : Overtaking act l) (hn : ∀ x ∈ l, x.1 < n) :
    performAll act (l.map Prod.snd) s =
      performAll act ((List.range n).flatMap fun i => ofTask i l) s := by
  induction n generalizing l with
  | zero =>
    cases l with
    | nil => rfl
    | cons x l => exact absurd (hn x (by simp)) (Nat.not_lt_zero _)
  | succ n ih =>
    rw [performAll_last h fun x hx => Nat.le_of_lt_succ (hn x hx), performAll_append,
      @ih (l.filter (·.1 < n)) (h.filter _) (by simp), List.range_succ, List.flatMap_append,
      performAll_append, List.flatMap_singleton]
    congr 2
    refine List.flatMap_congr fun i hi => ?_
    have hin : i < n := List.mem_range.1 hi
    rw [ofTask, ofTask, List.filter_filter]
    congr 1
    refine List.filter_congr fun x _ => ?_
    by_cases hxi : x.1 = i <;> simp [hxi, hin]

end Ordered

end WbMqttDali.Interleaving
