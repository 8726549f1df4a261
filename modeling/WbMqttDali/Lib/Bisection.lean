import Mathlib

/-!
# Reading out a number bit by bit

Something can be asked whether it holds a number that is at most a given bound.  The search
reads out the least such number, the most significant bit first: an answer keeps a bit at
zero, silence makes it one.  Bounds below `low` are not asked for and count as silent.
Nothing is assumed of the answers: they may be lost, and may contradict each other.
-/

namespace WbMqttDali.Bisection

variable {σ : Type*} (ask : σ → ℕ → Bool × σ) (low : ℕ)

/-- Reads out the bits below `bits`, the bits above being those of `found`. -/
def readBits : ℕ → σ → ℕ → ℕ × σ
  | 0, s, found => (found, s)
  | bit + 1, s, found =>
    let mask := 1 <<< bit
    let probe := found ||| (mask - 1)
    if probe < low then readBits bit s (found ||| mask)
    else if (ask s probe).1 then readBits bit (ask s probe).2 found
    else readBits bit (ask s probe).2 (found ||| mask)

/-- What every question keeps, the whole reading keeps. -/
lemma readBits_keeps {P : σ → Prop} (hask : ∀ s n, P s → P (ask s n).2) {bits found : ℕ} {s : σ}
    (hs : P s) : P (readBits ask low bits s found).2 := by
  induction bits generalizing s found with
  | zero => exact hs
  | succ bit ih =>
    rw [readBits]
    split
    · exact ih hs
    · split <;> exact ih (hask _ _ hs)

/-- The largest number whose upper bits are those of `found`. -/
def upper (bits found : ℕ) : ℕ := found + (2 ^ bits - 1)

section Bits

variable {bit found : ℕ} (h : 2 ^ (bit + 1) ∣ found)

include h

lemma probe_eq : found ||| (1 <<< bit - 1) = upper bit found := by
  obtain ⟨q, rfl⟩ := h
  have hlt : 2 ^ bit - 1 < 2 ^ (bit + 1) := by
    have := Nat.two_pow_pos bit
    rw [pow_succ]
    omega
  rw [Nat.one_shiftLeft, upper, Nat.two_pow_add_eq_or_of_lt hlt]

lemma or_mask_eq : found ||| 1 <<< bit = found + 2 ^ bit := by
  obtain ⟨q, rfl⟩ := h
  have hlt : 2 ^ bit < 2 ^ (bit + 1) := Nat.pow_lt_pow_right Nat.one_lt_two (Nat.lt_succ_self bit)
  rw [Nat.one_shiftLeft, Nat.two_pow_add_eq_or_of_lt hlt]

lemma dvd_found : 2 ^ bit ∣ found :=
  (pow_dvd_pow 2 (Nat.le_succ bit)).trans h

lemma dvd_or_mask : 2 ^ bit ∣ found ||| 1 <<< bit := by
  rw [or_mask_eq h]
  exact (dvd_found h).add dvd_rfl

/-- Setting the bit leaves the bound where it is. -/
lemma upper_or_mask : upper bit (found ||| 1 <<< bit) = upper (bit + 1) found := by
  have := Nat.two_pow_pos bit
  rw [or_mask_eq h, upper, upper, pow_succ]
  omega

end Bits

variable {ask low}

/-- The result is the bound the search began with or one that was answered. -/
theorem readBits_eq_or {bits found : ℕ} {s : σ} (h : 2 ^ bits ∣ found) :
    (readBits ask low bits s found).1 = upper bits found ∨
      ∃ s', low ≤ (readBits ask low bits s found).1 ∧
        (ask s' (readBits ask low bits s found).1).1 = true := by
  induction bits generalizing s found with
  | zero => exact .inl rfl
  | succ bit ih =>
    have hset {s : σ} := upper_or_mask h ▸ ih (s := s) (dvd_or_mask h)
    unfold readBits
    dsimp only
    split
    · exact hset
    · split
      case isTrue hlow hanswered =>
        rcases ih (s := (ask s (found ||| (1 <<< bit - 1))).2) (dvd_found h) with heq | hanswer
        · refine .inr ⟨s, ?_, ?_⟩
          · rw [heq, ← probe_eq h]
            exact not_lt.1 hlow
          · rw [heq, ← probe_eq h]
            exact hanswered
        · exact .inr hanswer
      case isFalse => exact hset

lemma readBits_le_upper {bits found : ℕ} {s : σ} (h : 2 ^ bits ∣ found) :
    (readBits ask low bits s found).1 ≤ upper bits found := by
  induction bits generalizing s found with
  | zero => exact le_rfl
  | succ bit ih =>
    have hset {s : σ} := upper_or_mask h ▸ ih (s := s) (dvd_or_mask h)
    have hkept : upper bit found ≤ upper (bit + 1) found := by
      unfold upper
      have := Nat.two_pow_pos bit
      rw [pow_succ]
      omega
    unfold readBits
    dsimp only
    split
    · exact hset
    · split
      · exact (ih (dvd_found h)).trans hkept
      · exact hset

/-- Where the answers say whether the bound is below a number that is possible, the number is read
out. -/
theorem readBits_exact {I : σ → Prop} {top least : ℕ}
    (hask : ∀ s n, I s → n ≤ top → (ask s n).1 = decide (least ≤ n) ∧ I (ask s n).2)
    (hlow : low ≤ least) {bits found : ℕ} {s : σ} (h : 2 ^ bits ∣ found) (hs : I s)
    (hfound : found ≤ least) (hleast : least ≤ upper bits found) (htop : upper bits found ≤ top) :
    (readBits ask low bits s found).1 = least ∧ I (readBits ask low bits s found).2 := by
  induction bits generalizing s found with
  | zero =>
    have heq : found = least := by
      simp only [upper, pow_zero] at hleast
      omega
    exact ⟨heq, hs⟩
  | succ bit ih =>
    have hpow := Nat.two_pow_pos bit
    have hprobe := probe_eq h
    have hupper := upper_or_mask h
    have hmask := or_mask_eq h
    have hsplit : upper (bit + 1) found = upper bit found + 2 ^ bit := by
      simp only [upper, pow_succ]
      omega
    have hbound : upper bit found = found + 2 ^ bit - 1 := by
      simp only [upper]
      omega
    -- the number has the bit where the probe is silent
    have hset {s : σ} (hs : I s) (hsilent : upper bit found < least) :
        (readBits ask low bit s (found ||| 1 <<< bit)).1 = least ∧
          I (readBits ask low bit s (found ||| 1 <<< bit)).2 := by
      apply ih (dvd_or_mask h) hs
      · omega
      · omega
      · omega
    rw [readBits]
    simp only [hprobe]
    split
    case isTrue hbelow => exact hset hs (by omega)
    case isFalse hasked =>
      obtain ⟨hanswer, hs'⟩ := hask s (upper bit found) hs (by omega)
      rw [hanswer]
      split
      case isTrue hle =>
        have hle : least ≤ upper bit found := of_decide_eq_true hle
        exact ih (dvd_found h) hs' hfound hle (by omega)
      case isFalse hlt =>
        have hlt : ¬least ≤ upper bit found := fun hle => hlt (decide_eq_true hle)
        exact hset hs' (by omega)

end WbMqttDali.Bisection
