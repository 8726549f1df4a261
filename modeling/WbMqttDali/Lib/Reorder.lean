import Mathlib

/-!
# Releasing numbered items in order

Items numbered `0, 1, 2, …` arrive in some order, and an item is released once
all items with smaller numbers have arrived.  So after the numbers in `s` have
arrived the released ones are those below `firstMissing s`, the smallest number
that is not in `s`, and the others wait.
-/

namespace WbMqttDali.Reorder

variable {s : Finset ℕ} {k n : ℕ}

/-- The smallest number that has not arrived. -/
def firstMissing (s : Finset ℕ) : ℕ := Nat.find (Infinite.exists_notMem_finset s)

lemma firstMissing_notMem (s : Finset ℕ) : firstMissing s ∉ s :=
  Nat.find_spec (Infinite.exists_notMem_finset s)

lemma mem_of_lt_firstMissing (h : k < firstMissing s) : k ∈ s :=
  not_not.1 (Nat.find_min (Infinite.exists_notMem_finset s) h)

lemma firstMissing_eq_iff : firstMissing s = n ↔ n ∉ s ∧ ∀ k < n, k ∈ s := by
  rw [firstMissing, Nat.find_eq_iff]
  simp

@[simp] lemma firstMissing_empty : firstMissing ∅ = 0 :=
  firstMissing_eq_iff.2 ⟨by simp, by simp⟩

/-- A number has all its predecessors iff it is at most the first missing one. -/
lemma le_firstMissing_iff : k ≤ firstMissing s ↔ ∀ j < k, j ∈ s := by
  constructor
  · exact fun hk j hj => mem_of_lt_firstMissing (by omega)
  · intro h
    by_contra hlt
    exact firstMissing_notMem s (h _ (by omega))

/-- An arrived number is released iff all its predecessors have arrived. -/
lemma lt_firstMissing_iff (hk : k ∈ s) : k < firstMissing s ↔ ∀ j < k, j ∈ s := by
  rw [← le_firstMissing_iff]
  have hne : k ≠ firstMissing s := fun h => firstMissing_notMem s (h ▸ hk)
  omega

/-- The arrival of a number past the first missing one releases nothing. -/
lemma firstMissing_insert_of_lt (h : firstMissing s < k) :
    firstMissing (insert k s) = firstMissing s := by
  refine firstMissing_eq_iff.2 ⟨?_, fun j hj => ?_⟩
  · rw [Finset.mem_insert, not_or]
    exact ⟨by omega, firstMissing_notMem s⟩
  · exact Finset.mem_insert_of_mem (mem_of_lt_firstMissing hj)

/-- The arrival of the first missing number releases the run of arrived numbers
behind it. -/
lemma firstMissing_insert_self (hrun : ∀ j, firstMissing s < j → j < n → j ∈ s)
    (hn : n ∉ s) (hlt : firstMissing s < n) : firstMissing (insert (firstMissing s) s) = n := by
  refine firstMissing_eq_iff.2 ⟨?_, fun j hj => ?_⟩
  · rw [Finset.mem_insert, not_or]
    exact ⟨by omega, hn⟩
  · rcases lt_trichotomy j (firstMissing s) with h | h | h
    · exact Finset.mem_insert_of_mem (mem_of_lt_firstMissing h)
    · exact h ▸ Finset.mem_insert_self _ _
    · exact Finset.mem_insert_of_mem (hrun j h hj)

end WbMqttDali.Reorder
