import Mathlib
import WbMqttDali.Lib.Bisection

/-!
# The search for the next device

The search finds the lowest random address on the bus by COMPARE, which every device whose
random address is not above the search address answers.  Silence is its negative answer, so
a lost answer leads the bisection past a device; a check one below the address that it has
converged on notices that.
-/

namespace WbMqttDali.Commissioning

/-- `MAX_RANDOM_ADDRESS`, with 24 bits. -/
def maxRandomAddress : ℕ := 0xFFFFFF

/-- `SILENT_COMPARE_ATTEMPTS` -/
def silentCompareAttempts : ℕ := 2

/-- What the device search needs of the bus: a search address on it, and COMPARE. -/
structure SearchAddressSelector (σ : Type*) where
  setSearchAddr : σ → ℕ → σ
  compare : σ → ℕ → Bool × σ

/-- What `find_next_device` returns. -/
inductive Find where
  /-- None: nothing answers. -/
  | nothing
  /-- `UNCONFIRMED_ADDRESS` -/
  | unconfirmed
  | address (found : ℕ)
  deriving DecidableEq, Repr

namespace SearchAddressSelector

variable {σ : Type*} (selector : SearchAddressSelector σ)

/-- The attempts of `_compare_with_retry`. -/
def compareAttempts : ℕ → σ → ℕ → Bool × σ
  | 0, s, _ => (false, s)
  | attempts + 1, s, addr =>
    if (selector.compare s addr).1 then (true, (selector.compare s addr).2)
    else compareAttempts attempts (selector.compare s addr).2 addr

/-- `_compare_with_retry` -/
def compareWithRetry : σ → ℕ → Bool × σ :=
  selector.compareAttempts silentCompareAttempts

/-- `_bisect` -/
def bisect (low : ℕ) (s : σ) : ℕ × σ :=
  Bisection.readBits selector.compare low maxRandomAddress.size s 0

/-- `find_next_device` -/
def findNextDevice (s : σ) (low : ℕ) : Find × σ :=
  match selector.compareWithRetry s maxRandomAddress with
  | (false, s) => (.nothing, s)
  | (true, s) =>
    match selector.bisect low s with
    | (found, s) =>
      if found = 0 then (.address found, selector.setSearchAddr s found)
      else
        match selector.compareWithRetry s (found - 1) with
        | (true, s) => (.unconfirmed, s)
        | (false, s) => (.address found, selector.setSearchAddr s found)

variable {selector} {s : σ} {low : ℕ}

lemma compareWithRetry_fst {addr : ℕ} : (selector.compareWithRetry s addr).1 =
    ((selector.compare s addr).1 || (selector.compare (selector.compare s addr).2 addr).1) := by
  show (selector.compareAttempts 2 s addr).1 = _
  simp only [compareAttempts]
  cases hfirst : (selector.compare s addr).1 with
  | true => rfl
  | false =>
    cases (selector.compare (selector.compare s addr).2 addr).1 <;> rfl

/-- What both operations keep, the search keeps. -/
lemma findNextDevice_keeps {P : σ → Prop} (hset : ∀ s addr, P s → P (selector.setSearchAddr s addr))
    (hcompare : ∀ s addr, P s → P (selector.compare s addr).2) (hs : P s) (low : ℕ) :
    P (selector.findNextDevice s low).2 := by
  have hretry : ∀ {s : σ} addr, P s → P (selector.compareWithRetry s addr).2 := by
    have hattempts : ∀ attempts (s : σ) addr, P s →
      P (selector.compareAttempts attempts s addr).2 := by
      intro attempts
      induction attempts with
      | zero => exact fun _ _ hs => hs
      | succ attempts ih =>
        intro s addr hs
        rw [compareAttempts]
        split
        · exact hcompare s addr hs
        · exact ih _ addr (hcompare s addr hs)
    intro s addr hs
    exact hattempts silentCompareAttempts s addr hs
  have hfirst := hretry maxRandomAddress hs
  unfold findNextDevice
  split
  case h_1 s' hfound =>
    rw [hfound] at hfirst
    exact hfirst
  case h_2 s' hfound =>
    rw [hfound] at hfirst
    have hbits : P (selector.bisect low s').2 :=
      Bisection.readBits_keeps selector.compare low hcompare hfirst
    generalize selector.bisect low s' = bisected at hbits
    obtain ⟨found, s''⟩ := bisected
    dsimp only
    split
    · exact hset _ _ hbits
    · have hbelow := hretry (found - 1) hbits
      split
      case h_1 _ hanswered =>
        rw [hanswered] at hbelow
        exact hbelow
      case h_2 _ hsilent =>
        rw [hsilent] at hbelow
        exact hset _ _ hbelow

/-- The bisection ends at the highest address or at one that was answered, not below `low`. -/
lemma bisect_eq_or : (selector.bisect low s).1 = maxRandomAddress ∨
    ∃ s', low ≤ (selector.bisect low s).1 ∧
      (selector.compare s' (selector.bisect low s).1).1 = true :=
  Bisection.readBits_eq_or (dvd_zero _)

lemma bisect_le : (selector.bisect low s).1 ≤ maxRandomAddress :=
  Bisection.readBits_le_upper (dvd_zero _)

/-- An address that the search finds was reached by the bisection. -/
lemma findNextDevice_address {found : ℕ} {s' : σ}
    (h : selector.findNextDevice s low = (.address found, s')) :
    ∃ s'' t, (selector.bisect low s'').1 = found ∧ s' = selector.setSearchAddr t found := by
  unfold findNextDevice at h
  split at h
  · cases h
  · next s'' _ =>
    dsimp only at h
    split at h
    · obtain ⟨haddr, rfl⟩ := Prod.mk.inj h
      exact ⟨s'', _, Find.address.inj haddr, by rw [Find.address.inj haddr]⟩
    · split at h
      · cases h
      · obtain ⟨haddr, rfl⟩ := Prod.mk.inj h
        exact ⟨s'', _, Find.address.inj haddr, by rw [Find.address.inj haddr]⟩

/-- Whatever is answered, the search finds no address below `low`. -/
lemma le_of_findNextDevice {found : ℕ} {s' : σ} (hlow : low ≤ maxRandomAddress)
    (h : selector.findNextDevice s low = (.address found, s')) :
    low ≤ found ∧ found ≤ maxRandomAddress := by
  obtain ⟨s'', -, rfl, -⟩ := findNextDevice_address h
  refine ⟨?_, bisect_le⟩
  rcases @bisect_eq_or σ selector s'' low with heq | ⟨-, hle, -⟩
  · exact heq ▸ hlow
  · exact hle

section Exact

variable {I : σ → Prop}

lemma compareWithRetry_exact {addr : ℕ} {answer : Bool}
    (hcompare : ∀ s, I s → (selector.compare s addr).1 = answer ∧ I (selector.compare s addr).2)
    (hs : I s) :
    (selector.compareWithRetry s addr).1 = answer ∧ I (selector.compareWithRetry s addr).2 := by
  obtain ⟨hfirst, hs'⟩ := hcompare s hs
  obtain ⟨hsecond, hs''⟩ := hcompare _ hs'
  show (selector.compareAttempts 2 s addr).1 = _ ∧ I (selector.compareAttempts 2 s addr).2
  simp only [compareAttempts, hfirst, hsecond]
  cases answer with
  | true => exact ⟨rfl, hs'⟩
  | false => exact ⟨rfl, hs''⟩

/-- Where no answer is lost, the search finds the least random address. -/
lemma findNextDevice_exact_of_compare (selector : SearchAddressSelector σ) {least : ℕ}
    (hcompare : ∀ s addr, I s → addr ≤ maxRandomAddress →
      (selector.compare s addr).1 = decide (least ≤ addr) ∧ I (selector.compare s addr).2)
    (hs : I s) (hlow : low ≤ least) (hleast : least ≤ maxRandomAddress) :
    ∃ t, I t ∧
      selector.findNextDevice s low = (.address least, selector.setSearchAddr t least) := by
  have hretry {s : σ} (addr : ℕ) (hs : I s) (haddr : addr ≤ maxRandomAddress) :=
    compareWithRetry_exact (fun s hs => hcompare s addr hs haddr) hs
  -- the check of the whole range is answered, since `least` is in it
  obtain ⟨hrange, hs'⟩ := hretry maxRandomAddress hs le_rfl
  rw [decide_eq_true hleast] at hrange
  have htop : Bisection.upper maxRandomAddress.size 0 = maxRandomAddress := by decide
  obtain ⟨hfound, hs''⟩ := Bisection.readBits_exact hcompare hlow (dvd_zero _) hs'
    (Nat.zero_le _) (htop ▸ hleast) htop.le
  unfold findNextDevice
  generalize selector.compareWithRetry s maxRandomAddress = checked at hrange hs' hfound hs''
  obtain ⟨answer, s'⟩ := checked
  obtain rfl : answer = true := hrange
  dsimp only at hfound hs'' ⊢
  unfold bisect
  generalize Bisection.readBits selector.compare low maxRandomAddress.size s' 0 = bisected
    at hfound hs''
  obtain ⟨found, s''⟩ := bisected
  obtain rfl : found = least := hfound
  dsimp only at hs'' ⊢
  split
  · exact ⟨s'', hs'', rfl⟩
  · next hpos =>
    -- nothing answers below the address found, which is how the source confirms it
    obtain ⟨hbelow, hlast⟩ := hretry (found - 1) hs'' (by omega)
    rw [decide_eq_false (by omega)] at hbelow
    generalize selector.compareWithRetry s'' (found - 1) = checked at hbelow hlast
    obtain ⟨answer, last⟩ := checked
    obtain rfl : answer = false := hbelow
    exact ⟨last, hlast, rfl⟩

lemma findNextDevice_nothing_of_compare (selector : SearchAddressSelector σ)
    (hcompare : ∀ s, I s → (selector.compare s maxRandomAddress).1 = false ∧
      I (selector.compare s maxRandomAddress).2) (hs : I s) :
    ∃ t, I t ∧ selector.findNextDevice s low = (.nothing, t) := by
  obtain ⟨hrange, hs'⟩ := compareWithRetry_exact hcompare hs
  unfold findNextDevice
  generalize selector.compareWithRetry s maxRandomAddress = checked at hrange hs'
  obtain ⟨answer, s'⟩ := checked
  obtain rfl : answer = false := hrange
  exact ⟨s', hs', rfl⟩

end Exact

end SearchAddressSelector

/-! ### A bus that loses answers -/

/-- The random addresses of the devices still in the search, and the answers that are lost: of
each comparison, of each device. -/
structure LossyBus where
  devices : Finset ℕ
  le_max : ∀ device ∈ devices, device ≤ maxRandomAddress
  isLost : ℕ → ℕ → Bool

/-- The comparisons made so far, and the search address that the devices hold. -/
structure SearchState where
  comparisons : ℕ
  searchAddress : Option ℕ
  deriving DecidableEq

namespace LossyBus

variable (bus : LossyBus)

/-- Whether a device at or below the address is heard in a comparison. -/
def answers (comparison addr : ℕ) : Bool :=
  decide (∃ device ∈ bus.devices, device ≤ addr ∧ bus.isLost comparison device = false)

def selector : SearchAddressSelector SearchState where
  setSearchAddr state addr := { state with searchAddress := some addr }
  compare state addr :=
    (bus.answers state.comparisons addr, ⟨state.comparisons + 1, some addr⟩)

/-- A check that begins with the given comparison does not lose both answers of a bus that has
a device at or below the address. -/
def Hears (comparison addr : ℕ) : Prop :=
  (∃ device ∈ bus.devices, device ≤ addr) →
    bus.answers comparison addr = true ∨ bus.answers (comparison + 1) addr = true

/-- The two checks of a search: of the whole range, and one below the address that the
bisection has converged on. -/
structure HearsChecks (state : SearchState) (low : ℕ) : Prop where
  range : bus.Hears state.comparisons maxRandomAddress
  below : ∀ state', bus.selector.compareWithRetry state maxRandomAddress = (true, state') →
    0 < (bus.selector.bisect low state').1 →
      bus.Hears (bus.selector.bisect low state').2.comparisons
        ((bus.selector.bisect low state').1 - 1)

variable {bus} {state : SearchState} {addr low : ℕ}

@[simp] lemma compare_eq : bus.selector.compare state addr =
    (bus.answers state.comparisons addr, ⟨state.comparisons + 1, some addr⟩) := rfl

lemma exists_of_answers {comparison : ℕ} (h : bus.answers comparison addr = true) :
    ∃ device ∈ bus.devices, device ≤ addr := by
  obtain ⟨device, hmem, hle, -⟩ := of_decide_eq_true h
  exact ⟨device, hmem, hle⟩

/-- The check is exact if it does not lose both answers. -/
lemma compareWithRetry_iff (h : bus.Hears state.comparisons addr) :
    (bus.selector.compareWithRetry state addr).1 = true ↔
      ∃ device ∈ bus.devices, device ≤ addr := by
  rw [SearchAddressSelector.compareWithRetry_fst, compare_eq, compare_eq, Bool.or_eq_true]
  constructor
  · rintro (hanswer | hanswer)
    · exact exists_of_answers hanswer
    · exact exists_of_answers hanswer
  · exact h

lemma exists_le_max_iff :
    (∃ device ∈ bus.devices, device ≤ maxRandomAddress) ↔ bus.devices.Nonempty := by
  constructor
  · rintro ⟨device, hmem, -⟩
    exact ⟨device, hmem⟩
  · rintro ⟨device, hmem⟩
    exact ⟨device, hmem, bus.le_max device hmem⟩

/-- The bisection does not end below the lowest device. -/
lemma min_le_bisect (hne : bus.devices.Nonempty) :
    bus.devices.min' hne ≤ (bus.selector.bisect low state).1 := by
  rcases @SearchAddressSelector.bisect_eq_or _ bus.selector state low with
    heq | ⟨state', -, hanswer⟩
  · rw [heq]
    exact bus.le_max _ (Finset.min'_mem _ _)
  · rw [compare_eq] at hanswer
    obtain ⟨device, hmem, hle⟩ := exists_of_answers hanswer
    exact (Finset.min'_le _ _ hmem).trans hle

/-- The search returns nothing exactly on an empty bus; otherwise it finds the lowest device,
and leaves its address on the bus, or says that it could not confirm what it found. -/
theorem findNextDevice_exact (bus : LossyBus) (state : SearchState) (low : ℕ)
    (h : bus.HearsChecks state low) :
    ((bus.selector.findNextDevice state low).1 = .nothing ↔ bus.devices = ∅) ∧
      ∀ hne : bus.devices.Nonempty,
        (bus.selector.findNextDevice state low).1 = .unconfirmed ∨
          ((bus.selector.findNextDevice state low).1 = .address (bus.devices.min' hne) ∧
            (bus.selector.findNextDevice state low).2.searchAddress =
              some (bus.devices.min' hne)) := by
  have hrange := (compareWithRetry_iff h.range).trans exists_le_max_iff
  have hbelow := h.below
  unfold SearchAddressSelector.findNextDevice
  rcases hcheck : bus.selector.compareWithRetry state maxRandomAddress with ⟨_ | _, state'⟩
  · -- nothing answers
    rw [hcheck, Finset.nonempty_iff_ne_empty] at hrange
    have hempty : bus.devices = ∅ := not_not.1 fun hne => nomatch hrange.2 hne
    refine ⟨iff_of_true rfl hempty, fun hne => absurd hempty hne.ne_empty⟩
  · have hne : bus.devices.Nonempty := hrange.1 (by rw [hcheck])
    have hle : bus.devices.min' hne ≤ (bus.selector.bisect low state').1 := min_le_bisect hne
    replace hbelow := hbelow state' hcheck
    dsimp only
    rcases hbisect : bus.selector.bisect low state' with ⟨found, state''⟩
    rw [hbisect] at hle hbelow
    dsimp only at hle hbelow ⊢
    -- an address that no device is below is that of the lowest device
    have hmin (hnone : ∀ device ∈ bus.devices, found ≤ device) :
        bus.devices.min' hne = found :=
      le_antisymm hle (hnone _ (bus.devices.min'_mem hne))
    split
    case isTrue hzero =>
      refine ⟨iff_of_false nofun hne.ne_empty, fun _ => .inr ?_⟩
      rw [hmin fun device _ => hzero ▸ Nat.zero_le _]
      exact ⟨rfl, rfl⟩
    case isFalse hpos =>
      have hexact := compareWithRetry_iff (hbelow (Nat.pos_of_ne_zero hpos))
      rcases hagain : bus.selector.compareWithRetry state'' (found - 1) with ⟨_ | _, state'''⟩
      · rw [hagain] at hexact
        have hnone : ∀ device ∈ bus.devices, found ≤ device := fun device hmem =>
          not_lt.1 fun hlt => nomatch hexact.2 ⟨device, hmem, Nat.le_sub_one_of_lt hlt⟩
        refine ⟨iff_of_false nofun hne.ne_empty, fun _ => .inr ?_⟩
        rw [hmin hnone]
        exact ⟨rfl, rfl⟩
      · exact ⟨iff_of_false nofun hne.ne_empty, fun _ => .inl rfl⟩

/-- The answer to the first probe of the bisection is lost. -/
def losesFirstProbe : LossyBus where
  devices := {0x200000}
  le_max := by decide
  isLost comparison _ := comparison = 1

lemma hearsChecks_losesFirstProbe : losesFirstProbe.HearsChecks ⟨0, none⟩ 0 where
  range := fun _ => .inl (by decide)
  below := fun state' hcheck _ hdevice => by
    obtain rfl : ⟨1, some maxRandomAddress⟩ = state' := congrArg Prod.snd hcheck
    have hbisect : losesFirstProbe.selector.bisect 0 ⟨1, some maxRandomAddress⟩ =
        (0x800000, ⟨25, some 0x800000⟩) := by decide +kernel
    rw [hbisect] at hdevice ⊢
    exact .inl (by decide)

/-- The bisection walks past the device, and the check below its find notices that. -/
theorem findNextDevice_exact_lostAnswer :
    (losesFirstProbe.selector.findNextDevice ⟨0, none⟩ 0).1 = .unconfirmed := by
  obtain ⟨-, hfind⟩ := findNextDevice_exact losesFirstProbe ⟨0, none⟩ 0 hearsChecks_losesFirstProbe
  rcases hfind ⟨_, Finset.mem_singleton_self _⟩ with hunconfirmed | ⟨hfound, -⟩
  · exact hunconfirmed
  · exact absurd hfound (by decide +kernel)

end LossyBus

/-! ### The loop over the devices -/

/-- `FAILED_SEARCHES_BEFORE_GIVING_UP` -/
def failedSearchesBeforeGivingUp : ℕ := 3

/-- The local variables of a loop over the devices, and the state of the bus. -/
structure SearchLoop (σ : Type*) where
  low : ℕ := 0
  lastFound : Option ℕ := none
  failedSearches : ℕ := 0
  bus : σ

/-- How a loop is left. -/
inductive Exit where
  | over
  /-- It gives up. -/
  | stuck
  /-- The body raises. -/
  | raised
  deriving DecidableEq, Repr

inductive Status (σ : Type*) where
  | running (loop : SearchLoop σ)
  | left (exit : Exit)

/-- What the loops do with a device that they have found, unless it raises, and whether they
do it again with one that they find a second time. -/
structure LoopBody (σ : Type*) where
  process : σ → ℕ → Option σ
  skipsRepeats : Bool

namespace SearchLoop

variable {σ : Type*} (selector : SearchAddressSelector σ) (body : LoopBody σ)

/-- A search that has found nothing new. -/
def fail (loop : SearchLoop σ) (next : SearchLoop σ → Status σ) : Status σ :=
  if failedSearchesBeforeGivingUp ≤ loop.failedSearches + 1 then .left .stuck
  else next { loop with failedSearches := loop.failedSearches + 1 }

def process (loop : SearchLoop σ) (found : ℕ) : Status σ :=
  match body.process loop.bus found with
  | none => .left .raised
  | some bus => .running { loop with low := found, bus }

/-- One iteration of the loop. -/
def iterate (loop : SearchLoop σ) : Status σ :=
  if maxRandomAddress ≤ loop.low then .left .over
  else
    match selector.findNextDevice loop.bus loop.low with
    | (.nothing, _) => .left .over
    | (.unconfirmed, bus) => { loop with bus }.fail .running
    | (.address found, bus) =>
      if loop.lastFound = some found then
        { loop with bus }.fail fun loop =>
          if body.skipsRepeats then .running loop else loop.process body found
      else
        { loop with bus, lastFound := some found, failedSearches := 0 }.process body found

/-- The loop after the given number of iterations. -/
def run (bus : σ) : ℕ → Status σ
  | 0 => .running { bus }
  | n + 1 =>
    match run bus n with
    | .running loop => loop.iterate selector body
    | .left exit => .left exit

/-- The search of the next iteration finds a device that is not the last one it found. -/
def FindsNew (loop : SearchLoop σ) : Prop :=
  ∃ found, (selector.findNextDevice loop.bus loop.low).1 = .address found ∧
    loop.lastFound ≠ some found

/-- The next address to be found is above the last one. -/
structure Inv (loop : SearchLoop σ) : Prop where
  low_eq : ∀ last, loop.lastFound = some last → loop.low = last
  low_le : loop.low ≤ maxRandomAddress
  failed_lt : loop.failedSearches < failedSearchesBeforeGivingUp

variable {selector body} {loop loop' : SearchLoop σ} {bus : σ} {n : ℕ}

lemma fail_eq_running {next : SearchLoop σ → Status σ} (h : loop.fail next = .running loop') :
    loop.failedSearches + 1 < failedSearchesBeforeGivingUp ∧
      next { loop with failedSearches := loop.failedSearches + 1 } = .running loop' := by
  unfold fail at h
  split at h
  case isTrue => cases h
  case isFalse hlt => exact ⟨not_le.1 hlt, h⟩

lemma process_eq_running {found : ℕ} (h : loop.process body found = .running loop') :
    ∃ bus, loop' = { loop with low := found, bus } := by
  unfold process at h
  split at h
  · cases h
  · exact ⟨_, (Status.running.inj h).symm⟩

/-- What an iteration does that does not leave the loop: it goes up to a new device, or counts
a search that found nothing new. -/
lemma iterate_cases (hinv : loop.Inv) (h : loop.iterate selector body = .running loop') :
    (loop.FindsNew selector ∧ ∃ found, loop.low ≤ found ∧ found ≤ maxRandomAddress ∧
        loop.lastFound ≠ some found ∧ loop'.lastFound = some found ∧ loop'.low = found ∧
        loop'.failedSearches = 0) ∨
      (¬loop.FindsNew selector ∧ loop'.failedSearches = loop.failedSearches + 1 ∧
        loop'.failedSearches < failedSearchesBeforeGivingUp ∧
        loop'.lastFound = loop.lastFound ∧ loop'.low = loop.low) := by
  unfold iterate at h
  split at h
  case isTrue => cases h
  case isFalse hlow =>
    split at h
    case h_1 => cases h
    case h_2 hfind =>
      obtain ⟨hlt, hnext⟩ := fail_eq_running h
      rw [← Status.running.inj hnext]
      refine .inr ⟨?_, rfl, hlt, rfl, rfl⟩
      rintro ⟨found, hfound, -⟩
      rw [hfind] at hfound
      cases hfound
    case h_3 found bus hfind =>
      obtain ⟨hle, hmax⟩ :=
        SearchAddressSelector.le_of_findNextDevice (not_le.1 hlow).le hfind
      split at h
      case isTrue hlast =>
        obtain ⟨hlt, hnext⟩ := fail_eq_running h
        have hknown : ¬loop.FindsNew selector := by
          rintro ⟨found', hfound', hne⟩
          rw [hfind] at hfound'
          exact hne (hlast.trans (congrArg some (Find.address.inj hfound')))
        split at hnext
        · rw [← Status.running.inj hnext]
          exact .inr ⟨hknown, rfl, hlt, rfl, rfl⟩
        · obtain ⟨bus, rfl⟩ := process_eq_running hnext
          exact .inr ⟨hknown, rfl, hlt, rfl, (hinv.low_eq found hlast).symm⟩
      case isFalse hnew =>
        obtain ⟨bus, rfl⟩ := process_eq_running h
        exact .inl ⟨⟨found, by rw [hfind], hnew⟩, found, hle, hmax, hnew, rfl, rfl, rfl⟩

lemma Inv.iterate (hinv : loop.Inv) (h : loop.iterate selector body = .running loop') :
    loop'.Inv := by
  rcases iterate_cases hinv h with ⟨-, found, -, hmax, -, hlast, hlow, hfailed⟩ |
    ⟨-, -, hlt, hlast, hlow⟩
  · refine ⟨fun last hlast' => ?_, hlow ▸ hmax, hfailed ▸ by decide⟩
    rw [hlow]
    exact Option.some.inj (hlast.symm.trans hlast')
  · refine ⟨fun last hlast' => ?_, hlow ▸ hinv.low_le, hlt⟩
    rw [hlow]
    exact hinv.low_eq last (hlast ▸ hlast')

lemma inv_run (h : run selector body bus n = .running loop) : loop.Inv := by
  induction n generalizing loop with
  | zero =>
    rw [← Status.running.inj h]
    exact ⟨nofun, Nat.zero_le _, Nat.succ_pos _⟩
  | succ n ih =>
    unfold run at h
    split at h
    case h_1 loop' hrun => exact (ih hrun).iterate h
    case h_2 => cases h

/-- The last searches of a run, as many as are counted, have found nothing new. -/
lemma not_findsNew_of_lt_failedSearches (h : run selector body bus n = .running loop) {i : ℕ}
    (hi : i < loop.failedSearches) : i < n ∧
      ∃ before, run selector body bus (n - 1 - i) = .running before ∧
        ¬before.FindsNew selector := by
  induction n generalizing loop i with
  | zero =>
    rw [← Status.running.inj h] at hi
    cases hi
  | succ n ih =>
    unfold run at h
    split at h
    case h_1 before hrun =>
      rcases iterate_cases (inv_run hrun) h with ⟨-, -, -, -, -, -, -, hfailed⟩ |
        ⟨hknown, hfailed, -, -, -⟩
      · rw [hfailed] at hi
        cases hi
      · cases i with
        | zero => exact ⟨n.succ_pos, before, hrun, hknown⟩
        | succ i =>
          obtain ⟨hin, before', hbefore', hknown'⟩ := ih hrun (i := i) (by omega)
          refine ⟨by omega, before', ?_, hknown'⟩
          rwa [show n + 1 - 1 - (i + 1) = n - 1 - i by omega]
    case h_2 => cases h

/-- How many iterations are left at most. -/
def remaining (loop : SearchLoop σ) : ℕ :=
  3 * (maxRandomAddress + 1 - loop.lastFound.elim 0 (· + 1)) + (2 - loop.failedSearches)

lemma remaining_iterate (hinv : loop.Inv) (h : loop.iterate selector body = .running loop') :
    loop'.remaining < loop.remaining := by
  have hfailed_lt := hinv.failed_lt
  unfold failedSearchesBeforeGivingUp at hfailed_lt
  rcases iterate_cases hinv h with ⟨-, found, hle, hmax, hnew, hlast, -, hfailed⟩ |
    ⟨-, hfailed, hlt, hlast, -⟩
  · have hup : loop.lastFound.elim 0 (· + 1) < found + 1 := by
      cases hbefore : loop.lastFound with
      | none => exact found.succ_pos
      | some last =>
        have hlow := hinv.low_eq last hbefore
        have hne : last ≠ found := fun heq => hnew (heq ▸ hbefore)
        show last + 1 < found + 1
        omega
    simp only [remaining, hlast, hfailed, Option.elim_some]
    omega
  · unfold failedSearchesBeforeGivingUp at hlt
    simp only [remaining, hlast, hfailed]
    omega

/-- A loop that is still running has used up the iterations it has done. -/
lemma remaining_run (h : run selector body bus n = .running loop) :
    n + loop.remaining ≤ 3 * (maxRandomAddress + 1) + 2 := by
  induction n generalizing loop with
  | zero =>
    rw [← Status.running.inj h]
    exact le_of_eq (Nat.zero_add _)
  | succ n ih =>
    unfold run at h
    split at h
    case h_1 before hrun =>
      have hbefore := ih hrun
      have hless := remaining_iterate (inv_run hrun) h
      omega
    case h_2 => cases h

lemma fail_eq_stuck {next : SearchLoop σ → Status σ} (h : loop.fail next = .left .stuck)
    (hnext : ∀ loop, next loop ≠ .left .stuck) :
    failedSearchesBeforeGivingUp ≤ loop.failedSearches + 1 := by
  unfold fail at h
  split at h
  case isTrue hle => exact hle
  case isFalse => exact absurd h (hnext _)

lemma process_ne_stuck {found : ℕ} : loop.process body found ≠ .left .stuck := by
  unfold process
  split
  · nofun
  · nofun

/-- Only after three searches in a row that found nothing new does an iteration give up. -/
lemma iterate_eq_stuck (h : loop.iterate selector body = .left .stuck) :
    failedSearchesBeforeGivingUp ≤ loop.failedSearches + 1 ∧ ¬loop.FindsNew selector := by
  unfold iterate at h
  split at h
  case isTrue => cases h
  case isFalse =>
    split at h
    case h_1 => cases h
    case h_2 bus hfind =>
      have hfailed := fail_eq_stuck h fun _ => nofun
      refine ⟨hfailed, ?_⟩
      rintro ⟨found, hfound, -⟩
      rw [hfind] at hfound
      cases hfound
    case h_3 found bus hfind =>
      split at h
      case isTrue hlast =>
        have hfailed := fail_eq_stuck h fun loop => by
          split
          · nofun
          · exact process_ne_stuck
        refine ⟨hfailed, ?_⟩
        rintro ⟨found', hfound', hne⟩
        rw [hfind] at hfound'
        exact hne (hlast.trans (congrArg some (Find.address.inj hfound')))
      case isFalse => exact absurd h process_ne_stuck

/-- An iteration that raises does so where the body does. -/
lemma iterate_eq_raised (h : loop.iterate selector body = .left .raised) :
    ∃ bus found, body.process bus found = none := by
  have hprocess {loop : SearchLoop σ} {found : ℕ} (h : loop.process body found = .left .raised) :
      ∃ bus found, body.process bus found = none := by
    unfold process at h
    split at h
    case h_1 hnone => exact ⟨_, _, hnone⟩
    case h_2 => cases h
  unfold iterate at h
  split at h
  case isTrue => cases h
  case isFalse =>
    split at h
    case h_1 => cases h
    case h_2 =>
      unfold fail at h
      split at h <;> cases h
    case h_3 =>
      split at h
      case isTrue =>
        unfold fail at h
        split at h
        · cases h
        · split at h
          · cases h
          · exact hprocess h
      case isFalse => exact hprocess h

/-- Whatever is answered, the searches find addresses in the range that is left, the loop goes up
to every new one, and it ends: when nothing is left, when its body raises, or after three
searches in a row that found nothing new. -/
theorem run_terminates (selector : SearchAddressSelector σ) (body : LoopBody σ) (bus : σ) :
    (∀ s low, low ≤ maxRandomAddress → ∀ found,
        (selector.findNextDevice s low).1 = .address found →
          low ≤ found ∧ found ≤ maxRandomAddress) ∧
      (∀ n loop, run selector body bus n = .running loop →
        (∀ found last, (selector.findNextDevice loop.bus loop.low).1 = .address found →
          loop.lastFound = some last → found ≠ last → last < found) ∧
        ∀ loop', run selector body bus (n + 1) = .running loop' → loop.low ≤ loop'.low) ∧
      ∃ n ≤ 3 * (maxRandomAddress + 1) + 3, ∃ exit, run selector body bus n = .left exit ∧
        (exit = .raised → ∃ bus found, body.process bus found = none) ∧
        (exit = .stuck → ∀ i < failedSearchesBeforeGivingUp, i < n ∧
          ∃ before, run selector body bus (n - 1 - i) = .running before ∧
            ¬before.FindsNew selector) := by
  refine ⟨fun s low hlow found hfound => ?_, fun n loop hloop => ⟨?_, fun loop' hloop' => ?_⟩, ?_⟩
  · exact SearchAddressSelector.le_of_findNextDevice hlow (Prod.ext hfound rfl)
  · intro found last hfound hlast hne
    have hinv := inv_run hloop
    have hle := (SearchAddressSelector.le_of_findNextDevice hinv.low_le (Prod.ext hfound rfl)).1
    rw [hinv.low_eq last hlast] at hle
    exact lt_of_le_of_ne hle (Ne.symm hne)
  · have hiterate : loop.iterate selector body = .running loop' := by
      simpa only [run, hloop] using hloop'
    rcases iterate_cases (inv_run hloop) hiterate with ⟨-, found, hle, -, -, -, hlow, -⟩ |
      ⟨-, -, -, -, hlow⟩
    · exact hlow ▸ hle
    · exact hlow.ge
  · -- the run is left by the time that the measure is used up
    have hleft : ∃ n, ∃ exit, run selector body bus n = .left exit := by
      by_contra! hrunning
      cases hrun : run selector body bus (3 * (maxRandomAddress + 1) + 3) with
      | running loop =>
        have := remaining_run hrun
        omega
      | left exit => exact hrunning _ exit hrun
    classical
    have hfirst := Nat.find_spec hleft
    have hbefore := fun n => Nat.find_min (m := n) hleft
    generalize Nat.find hleft = n at hfirst hbefore
    obtain ⟨exit, hexit⟩ := hfirst
    cases n with
    | zero => cases hexit
    | succ n =>
      cases hrun : run selector body bus n with
      | left exit' => exact absurd ⟨exit', hrun⟩ (hbefore n n.lt_succ_self)
      | running loop =>
        have hiterate : loop.iterate selector body = .left exit := by
          simpa only [run, hrun] using hexit
        have hused := remaining_run hrun
        refine ⟨n + 1, by omega, exit, hexit, fun hraised => ?_, fun hstuck i hi => ?_⟩
        · subst hraised
          exact iterate_eq_raised hiterate
        · obtain ⟨hfailed, hknown⟩ := iterate_eq_stuck (hstuck ▸ hiterate)
          cases i with
          | zero => exact ⟨n.succ_pos, loop, hrun, hknown⟩
          | succ i =>
            obtain ⟨hin, before, hbefore, hknown⟩ :=
              not_findsNew_of_lt_failedSearches hrun (i := i) (by omega)
            refine ⟨by omega, before, ?_, hknown⟩
            rwa [show n + 1 - 1 - (i + 1) = n - 1 - i by omega]

end SearchLoop

/-- The loop of `smart_extend` over the devices, by what it does with one. -/
def smartExtendLoop {σ : Type*} (processFoundDevice : σ → ℕ → Option σ) : LoopBody σ where
  process := processFoundDevice
  skipsRepeats := false

/-- The loop of `binary_search`, which only reports what it finds. -/
def binarySearchLoop {σ : Type*} (queryAndWithdraw : σ → ℕ → Option σ) : LoopBody σ where
  process := queryAndWithdraw
  skipsRepeats := false

/-- The loop of `address_bus`. -/
def addressBusLoop {σ : Type*} (addressFoundGear : σ → ℕ → Option σ) : LoopBody σ where
  process := addressFoundGear
  skipsRepeats := true

end WbMqttDali.Commissioning
