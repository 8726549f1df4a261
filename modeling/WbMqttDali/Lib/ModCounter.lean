import Mathlib

/-!
# Counters modulo `m`

A sender that numbers its messages with a bounded counter starts again at zero
after `m - 1`.  The receiver compares two counters by the *forward distance*
from one to the other, Python's `(b - a) % m`.  This file collects the facts
about that distance: it is the only `k < m` with `a + k ≡ b`, it separates
counters below `m`, and moving the origin forward shortens it.
-/

namespace WbMqttDali.ModCounter

variable {m a b c j k : ℕ}

/-- The forward distance from the counter `a` to the counter `b`: `(b - a) % m`
on the integers, with the remainder of a positive modulus. -/
def offset (m a b : ℕ) : ℕ := (((b : ℤ) - a) % m).toNat

lemma cast_offset (hm : 0 < m) : ((offset m a b : ℕ) : ℤ) = ((b : ℤ) - a) % m :=
  Int.toNat_of_nonneg (Int.emod_nonneg _ (by omega))

lemma offset_lt (hm : 0 < m) (a b : ℕ) : offset m a b < m := by
  have h := Int.emod_lt_of_pos ((b : ℤ) - a) (by omega : (0 : ℤ) < m)
  rw [← cast_offset hm] at h
  exact_mod_cast h

/-- Walking the distance from `a` arrives at `b`. -/
lemma add_offset_mod (hm : 0 < m) (a b : ℕ) : (a + offset m a b) % m = b % m := by
  have h : ((a : ℤ) + offset m a b) % m = (b : ℤ) % m := by
    rw [cast_offset hm, Int.add_emod_emod]
    congr 1
    ring
  exact_mod_cast h

/-- The distance is the only number below `m` that leads from `a` to `b`. -/
lemma offset_eq_of_mod (hk : k < m) (h : (a + k) % m = b % m) : offset m a b = k := by
  have hm : 0 < m := by omega
  have hcast : ((a : ℤ) + k) % m = (b : ℤ) % m := by exact_mod_cast h
  have hdiff : ((b : ℤ) - a) % m = (k : ℤ) % m := by
    rw [Int.sub_emod, ← hcast, ← Int.sub_emod]
    congr 1
    ring
  have hcastOffset := cast_offset (a := a) (b := b) hm
  rw [hdiff, Int.emod_eq_of_lt (by omega) (by exact_mod_cast hk)] at hcastOffset
  exact_mod_cast hcastOffset

lemma offset_add_mod (hk : k < m) (a : ℕ) : offset m a ((a + k) % m) = k :=
  offset_eq_of_mod hk (by rw [Nat.mod_mod])

@[simp] lemma offset_self (hm : 0 < m) (a : ℕ) : offset m a a = 0 :=
  offset_eq_of_mod hm (by rw [Nat.add_zero])

/-- A counter below `m` is read off its distance from any origin. -/
lemma eq_add_offset_mod (hb : b < m) (a : ℕ) : b = (a + offset m a b) % m := by
  rw [add_offset_mod (by omega), Nat.mod_eq_of_lt hb]

lemma eq_of_offset_eq (hb : b < m) (hc : c < m) (h : offset m a b = offset m a c) : b = c := by
  rw [eq_add_offset_mod hb a, h, ← eq_add_offset_mod hc a]

lemma offset_eq_zero_iff (ha : a < m) (hb : b < m) : offset m a b = 0 ↔ b = a := by
  constructor
  · intro h
    exact eq_of_offset_eq hb ha (a := a) (by rw [h, offset_self (by omega)])
  · rintro rfl
    exact offset_self (by omega) b

/-- Moving the origin forward by `j`, but not past the counter, shortens its
distance by `j`. -/
lemma offset_advance (hm : 0 < m) (hj : j ≤ offset m a b) :
    offset m ((a + j) % m) b = offset m a b - j := by
  have hlt := offset_lt hm a b
  refine offset_eq_of_mod (by omega) ?_
  rw [Nat.mod_add_mod, Nat.add_assoc, Nat.add_sub_cancel' hj, add_offset_mod hm]

end WbMqttDali.ModCounter
