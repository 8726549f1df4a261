import Mathlib
import WbMqttDali.Controller.TakeOver
import WbMqttDali.Lib.Dict

/-!
# The result of a commissioning

`smart_extend` ends by comparing the devices of the configuration with those that it has
found, both as maps from short to random addresses.  Unchanged devices are looked up by short
address in these maps; the other three kinds by random address in the reversed maps, which
keep only the last device of a random address.  The two views agree if every other device
that shares its random address is in both maps.
-/

namespace WbMqttDali.Commissioning

open TakeOver (Address ChangedDevice CommissioningResult Views)

/-- The devices of a map from short to random addresses. -/
def addresses (devices : Dict ℕ ℕ) : List Address :=
  devices.entries.map fun e => ⟨e.1, e.2⟩

/-- A changed device as it was before. -/
def ChangedDevice.old (changed : ChangedDevice) : Address :=
  ⟨changed.oldShort, changed.new.random⟩

section Classification

variable (oldDevices foundDevices : Dict ℕ ℕ)

/-- Same short AND same random -/
def unchanged : List Address :=
  (addresses oldDevices).filter fun device =>
    foundDevices.get? device.short = some device.random

def changedDevice (random : ℕ) : Option ChangedDevice :=
  match oldDevices.invert.get? random, foundDevices.invert.get? random with
  | some oldShort, some newShort =>
    if oldShort ≠ newShort then some ⟨⟨newShort, random⟩, oldShort⟩ else none
  | _, _ => none

/-- Random present both runs but short differs, with the random addresses in the order of the
old devices. -/
def changed : List ChangedDevice :=
  (oldDevices.invert.keys.filter (· ∈ foundDevices.invert.keys)).filterMap
    (changedDevice oldDevices foundDevices)

/-- The devices of the first map with a random address that the second does not have. -/
def onlyIn (devices others : Dict ℕ ℕ) : List Address :=
  ((devices.invert.keys.filter (· ∉ others.invert.keys)).insertionSort (· ≤ ·)).filterMap
    fun random => (devices.invert.get? random).map fun short => ⟨short, random⟩

/-- The classification at the end of `smart_extend`. -/
def classify : CommissioningResult where
  unchanged := unchanged oldDevices foundDevices
  changed := changed oldDevices foundDevices
  missing := onlyIn oldDevices foundDevices
  new := onlyIn foundDevices oldDevices

end Classification

/-- Every old device is in exactly one of three lists, every found one in exactly one of
three, and the controller does not remove a device that it keeps. -/
structure IsPartition (oldDevices foundDevices : Dict ℕ ℕ) (result : CommissioningResult) :
    Prop where
  old : (result.unchanged ++ result.changed.map ChangedDevice.old ++ result.missing).Perm
    (addresses oldDevices)
  found : (result.unchanged ++ result.changed.map (·.new) ++ result.new).Perm
    (addresses foundDevices)
  oldShort : ∀ device ∈ result.unchanged, ∀ changed ∈ result.changed,
    changed.oldShort ≠ device.short
  kept : ∀ (views : Views) kind, ∀ device ∈ views.unchangedDevices kind result,
    device ∉ views.removedDevices kind result

variable {oldDevices foundDevices devices others : Dict ℕ ℕ} {device : Address}
  {change : ChangedDevice}

lemma mem_addresses : device ∈ addresses devices ↔
    devices.get? device.short = some device.random := by
  rw [addresses, List.mem_map, Dict.get?_eq_some_iff]
  constructor
  · rintro ⟨e, he, rfl⟩
    exact he
  · intro he
    exact ⟨_, he, rfl⟩

lemma nodup_addresses : (addresses devices).Nodup := by
  have hfst : (addresses devices).map (·.short) = devices.entries.map Prod.fst := by
    rw [addresses, List.map_map]
    rfl
  exact List.Nodup.of_map (·.short) (hfst ▸ devices.nodup)

lemma mem_unchanged : device ∈ unchanged oldDevices foundDevices ↔
    oldDevices.get? device.short = some device.random ∧
      foundDevices.get? device.short = some device.random := by
  rw [unchanged, List.mem_filter, mem_addresses, decide_eq_true_iff]

lemma changedDevice_eq_some {random : ℕ} :
    changedDevice oldDevices foundDevices random = some change ↔
      change.new.random = random ∧ oldDevices.lastKey? random = some change.oldShort ∧
        foundDevices.lastKey? random = some change.new.short ∧
          change.oldShort ≠ change.new.short := by
  obtain ⟨⟨short, random'⟩, oldShort⟩ := change
  simp only [changedDevice, Dict.get?_invert]
  constructor
  · intro h
    split at h
    case h_1 _ _ hold hfound =>
      split at h
      case isTrue hne =>
        cases h
        exact ⟨rfl, hold, hfound, hne⟩
      case isFalse => cases h
    case h_2 => cases h
  · rintro ⟨rfl, hold, hfound, hne⟩
    rw [hold, hfound]
    exact if_pos hne

lemma mem_changed : change ∈ changed oldDevices foundDevices ↔
    oldDevices.lastKey? change.new.random = some change.oldShort ∧
      foundDevices.lastKey? change.new.random = some change.new.short ∧
        change.oldShort ≠ change.new.short := by
  rw [changed, List.mem_filterMap]
  constructor
  · rintro ⟨random, -, h⟩
    obtain ⟨rfl, h⟩ := changedDevice_eq_some.1 h
    exact h
  · rintro ⟨hold, hfound, hne⟩
    refine ⟨change.new.random, ?_, changedDevice_eq_some.2 ⟨rfl, hold, hfound, hne⟩⟩
    rw [List.mem_filter, decide_eq_true_iff, Dict.mem_keys_invert, Dict.mem_keys_invert]
    exact ⟨⟨_, Dict.get?_of_lastKey? hold⟩, _, Dict.get?_of_lastKey? hfound⟩

lemma mem_onlyIn : device ∈ onlyIn devices others ↔
    devices.lastKey? device.random = some device.short ∧
      ∀ short, others.get? short ≠ some device.random := by
  obtain ⟨short, random⟩ := device
  simp only [onlyIn, List.mem_filterMap, List.mem_insertionSort, List.mem_filter,
    decide_eq_true_eq, Dict.mem_keys_invert, Dict.get?_invert, Option.map_eq_some_iff, not_exists]
  constructor
  · rintro ⟨random, ⟨-, hnone⟩, short, hlast, heq⟩
    cases heq
    exact ⟨hlast, hnone⟩
  · rintro ⟨hlast, hnone⟩
    exact ⟨random, ⟨⟨short, Dict.get?_of_lastKey? hlast⟩, hnone⟩, short, hlast, rfl⟩

lemma nodup_changed : (changed oldDevices foundDevices).Nodup := by
  refine List.Nodup.filterMap (fun random random' change h h' => ?_)
    ((Dict.nodup_keys _).filter _)
  exact (changedDevice_eq_some.1 h).1.symm.trans (changedDevice_eq_some.1 h').1

lemma nodup_onlyIn : (onlyIn devices others).Nodup := by
  refine List.Nodup.filterMap (fun random random' device h h' => ?_)
    ((List.perm_insertionSort _ _).nodup_iff.2 ((Dict.nodup_keys _).filter _))
  obtain ⟨short, -, rfl⟩ := Option.map_eq_some_iff.1 h
  obtain ⟨short', -, heq⟩ := Option.map_eq_some_iff.1 h'
  exact (congrArg Address.random heq).symm

/-- A random address occurs among the changed devices once, as it does in the reversed maps. -/
lemma eq_of_mem_changed {change' : ChangedDevice} (h : change ∈ changed oldDevices foundDevices)
    (h' : change' ∈ changed oldDevices foundDevices)
    (hrandom : change.new.random = change'.new.random) : change = change' := by
  obtain ⟨⟨short, random⟩, oldShort⟩ := change
  obtain ⟨⟨short', random'⟩, oldShort'⟩ := change'
  obtain rfl : random = random' := hrandom
  obtain ⟨hold, hfound, -⟩ := mem_changed.1 h
  obtain ⟨hold', hfound', -⟩ := mem_changed.1 h'
  obtain rfl : oldShort = oldShort' := Option.some.inj (hold.symm.trans hold')
  obtain rfl : short = short' := Option.some.inj (hfound.symm.trans hfound')
  rfl

section Partition

variable {same moved : List Address}

/-- The three lists of the devices of one map are a partition of it exactly if each of them that
is not the last one of its random address is in the other map too, and the last one, if it is
in the other map, is the last one there. -/
lemma perm_addresses_iff (hsame : same.Nodup) (hmoved : moved.Nodup)
    (mem_same : ∀ device, device ∈ same ↔ devices.get? device.short = some device.random ∧
      others.get? device.short = some device.random)
    (mem_moved : ∀ device, device ∈ moved ↔
      devices.lastKey? device.random = some device.short ∧
        ∃ short, others.lastKey? device.random = some short ∧ short ≠ device.short) :
    (same ++ moved ++ onlyIn devices others).Perm (addresses devices) ↔
      ∀ short random, (devices.get? short = some random → devices.lastKey? random ≠ some short →
          others.get? short = some random) ∧
        (devices.lastKey? random = some short → others.get? short = some random →
          others.lastKey? random = some short) := by
  constructor
  · intro hperm short random
    refine ⟨fun hdevice hlast => ?_, fun hlast hother => ?_⟩
    · have hmem := hperm.mem_iff.2 (mem_addresses.2 (show
        devices.get? (Address.mk short random).short = some random from hdevice))
      simp only [List.mem_append, mem_same, mem_moved, mem_onlyIn] at hmem
      rcases hmem with (⟨-, hother⟩ | ⟨hlast', -⟩) | ⟨hlast', -⟩
      · exact hother
      · exact absurd hlast' hlast
      · exact absurd hlast' hlast
    · obtain ⟨short', hshort'⟩ := Dict.exists_lastKey? hother
      -- otherwise the device would be listed as unchanged and as moved
      by_contra hne
      have hnodup := (List.nodup_append.1 (hperm.nodup_iff.2 nodup_addresses)).1
      refine List.disjoint_of_nodup_append hnodup (a := ⟨short, random⟩) ?_ ?_
      · exact (mem_same _).2 ⟨Dict.get?_of_lastKey? hlast, hother⟩
      · exact (mem_moved _).2
          ⟨hlast, short', hshort', fun heq => hne (hshort'.trans (congrArg some heq))⟩
  · intro h
    -- no device is listed twice, so that only the members have to be compared
    have hdisjoint : same.Disjoint moved := by
      intro device hin hin'
      obtain ⟨-, hother⟩ := (mem_same device).1 hin
      obtain ⟨hlast, short, hshort, hne⟩ := (mem_moved device).1 hin'
      have := (h device.short device.random).2 hlast hother
      exact hne (Option.some.inj (hshort.symm.trans this))
    have hdisjoint' : (same ++ moved).Disjoint (onlyIn devices others) := by
      intro device hin hin'
      obtain ⟨-, hnone⟩ := mem_onlyIn.1 hin'
      rcases List.mem_append.1 hin with hin | hin
      · exact hnone _ ((mem_same device).1 hin).2
      · obtain ⟨-, short, hshort, -⟩ := (mem_moved device).1 hin
        exact hnone short (Dict.get?_of_lastKey? hshort)
    rw [List.perm_ext_iff_of_nodup
      ((hsame.append hmoved hdisjoint).append nodup_onlyIn hdisjoint') nodup_addresses]
    intro device
    simp only [List.mem_append, mem_same, mem_moved, mem_onlyIn, mem_addresses]
    constructor
    · rintro ((⟨hdevice, -⟩ | ⟨hlast, -⟩) | ⟨hlast, -⟩)
      · exact hdevice
      · exact Dict.get?_of_lastKey? hlast
      · exact Dict.get?_of_lastKey? hlast
    · intro hdevice
      by_cases hlast : devices.lastKey? device.random = some device.short
      · by_cases hother : ∃ short, others.get? short = some device.random
        · obtain ⟨short, hshort⟩ := hother
          obtain ⟨short', hshort'⟩ := Dict.exists_lastKey? hshort
          by_cases heq : short' = device.short
          · subst heq
            exact .inl (.inl ⟨hdevice, Dict.get?_of_lastKey? hshort'⟩)
          · exact .inl (.inr ⟨hlast, short', hshort', heq⟩)
        · exact .inr ⟨hlast, not_exists.1 hother⟩
      · exact .inl (.inl ⟨hdevice, (h _ _).1 hdevice hlast⟩)

end Partition

/-- In each map, the last device of a random address counts apart; the other devices of the
random address are in both maps. -/
def AgreeApartFromLast (oldDevices foundDevices : Dict ℕ ℕ) : Prop :=
  ∀ short random, (oldDevices.get? short = some random ∧ oldDevices.lastKey? random ≠ some short) ↔
    (foundDevices.get? short = some random ∧ foundDevices.lastKey? random ≠ some short)

lemma perm_old_iff : ((unchanged oldDevices foundDevices ++
      (changed oldDevices foundDevices).map ChangedDevice.old ++
      onlyIn oldDevices foundDevices).Perm (addresses oldDevices)) ↔
    ∀ short random, (oldDevices.get? short = some random →
        oldDevices.lastKey? random ≠ some short → foundDevices.get? short = some random) ∧
      (oldDevices.lastKey? random = some short → foundDevices.get? short = some random →
        foundDevices.lastKey? random = some short) := by
  refine perm_addresses_iff (nodup_addresses.filter _) ?_ (fun _ => mem_unchanged) ?_
  · refine List.Nodup.map_on (fun change h change' h' heq => ?_) nodup_changed
    have hrandom := congrArg Address.random heq
    exact eq_of_mem_changed h h' hrandom
  · intro device
    rw [List.mem_map]
    constructor
    · rintro ⟨change, hmem, rfl⟩
      obtain ⟨hold, hfound, hne⟩ := mem_changed.1 hmem
      exact ⟨hold, _, hfound, hne.symm⟩
    · rintro ⟨hlast, short, hshort, hne⟩
      exact ⟨⟨⟨short, device.random⟩, device.short⟩, mem_changed.2 ⟨hlast, hshort, hne.symm⟩, rfl⟩

lemma perm_found_iff : ((unchanged oldDevices foundDevices ++
      (changed oldDevices foundDevices).map (·.new) ++
      onlyIn foundDevices oldDevices).Perm (addresses foundDevices)) ↔
    ∀ short random, (foundDevices.get? short = some random →
        foundDevices.lastKey? random ≠ some short → oldDevices.get? short = some random) ∧
      (foundDevices.lastKey? random = some short → oldDevices.get? short = some random →
        oldDevices.lastKey? random = some short) := by
  refine perm_addresses_iff (nodup_addresses.filter _) ?_
    (fun _ => mem_unchanged.trans and_comm) ?_
  · refine List.Nodup.map_on (fun change h change' h' heq => ?_) nodup_changed
    exact eq_of_mem_changed h h' (congrArg Address.random heq)
  · intro device
    rw [List.mem_map]
    constructor
    · rintro ⟨change, hmem, rfl⟩
      obtain ⟨hold, hfound, hne⟩ := mem_changed.1 hmem
      exact ⟨hfound, _, hold, hne⟩
    · rintro ⟨hlast, short, hshort, hne⟩
      exact ⟨⟨device, short⟩, mem_changed.2 ⟨hshort, hlast, hne⟩, rfl⟩

/-- What is unchanged is not also changed, if the three lists of the old devices are a
partition. -/
lemma oldShort_ne (h : (unchanged oldDevices foundDevices ++
      (changed oldDevices foundDevices).map ChangedDevice.old ++
      onlyIn oldDevices foundDevices).Perm (addresses oldDevices))
    (hdevice : device ∈ unchanged oldDevices foundDevices)
    (hchange : change ∈ changed oldDevices foundDevices) : change.oldShort ≠ device.short := by
  intro hshort
  have hrandom : device.random = change.new.random := by
    have hold := (mem_unchanged.1 hdevice).1
    rw [← hshort, Dict.get?_of_lastKey? (mem_changed.1 hchange).1] at hold
    exact (Option.some.inj hold).symm
  have hmem : device ∈ (changed oldDevices foundDevices).map ChangedDevice.old := by
    refine List.mem_map.2 ⟨change, hchange, ?_⟩
    rw [ChangedDevice.old, hshort, ← hrandom]
  exact List.disjoint_of_nodup_append
    (List.nodup_append.1 (h.nodup_iff.2 nodup_addresses)).1 hdevice hmem

/-- A missing device does not have the short address of an unchanged one. -/
lemma missing_short_ne {other : Address} (hdevice : device ∈ unchanged oldDevices foundDevices)
    (hother : other ∈ onlyIn oldDevices foundDevices) : other.short ≠ device.short := by
  intro hshort
  obtain ⟨hold, hfound⟩ := mem_unchanged.1 hdevice
  obtain ⟨hlast, hnone⟩ := mem_onlyIn.1 hother
  have hrandom : other.random = device.random := by
    rw [← hshort, Dict.get?_of_lastKey? hlast] at hold
    exact Option.some.inj hold
  exact hnone device.short (hrandom ▸ hfound)

/-- The result is a partition of the old devices and of the found ones, from which the controller
removes no device that it keeps, exactly if the maps agree apart from the last device of each
random address. -/
theorem classify_isPartition_iff (oldDevices foundDevices : Dict ℕ ℕ) :
    IsPartition oldDevices foundDevices (classify oldDevices foundDevices) ↔
      AgreeApartFromLast oldDevices foundDevices := by
  constructor
  · intro h
    have hold := perm_old_iff.1 h.old
    have hfound := perm_found_iff.1 h.found
    intro short random
    constructor
    · rintro ⟨hdevice, hlast⟩
      exact ⟨(hold short random).1 hdevice hlast,
        fun hlast' => hlast ((hfound short random).2 hlast' hdevice)⟩
    · rintro ⟨hdevice, hlast⟩
      exact ⟨(hfound short random).1 hdevice hlast,
        fun hlast' => hlast ((hold short random).2 hlast' hdevice)⟩
  · intro h
    have hold := perm_old_iff.2 fun short random =>
      ⟨fun hdevice hlast => ((h short random).1 ⟨hdevice, hlast⟩).1,
        fun hlast hother => by_contra fun hlast' =>
          ((h short random).2 ⟨hother, hlast'⟩).2 hlast⟩
    have hfound := perm_found_iff.2 fun short random =>
      ⟨fun hdevice hlast => ((h short random).2 ⟨hdevice, hlast⟩).1,
        fun hlast hother => by_contra fun hlast' =>
          ((h short random).1 ⟨hother, hlast'⟩).2 hlast⟩
    refine ⟨hold, hfound, fun device hdevice change hchange => oldShort_ne hold hdevice hchange,
      fun views kind device hdevice hremoved => ?_⟩
    have hunchanged : device.address ∈ unchanged oldDevices foundDevices :=
      of_decide_eq_true (List.mem_filter.1 hdevice).2
    have hshort : device.short ∈ Views.removedShortAddresses (classify oldDevices foundDevices) :=
      of_decide_eq_true (List.mem_filter.1 hremoved).2
    rcases List.mem_append.1 hshort with hshort | hshort
    · obtain ⟨change, hchange, heq⟩ := List.mem_map.1 hshort
      exact oldShort_ne hold hunchanged hchange heq
    · obtain ⟨other, hother, heq⟩ := List.mem_map.1 hshort
      exact missing_short_ne hunchanged hother heq

/-- A device that keeps its random address when it is told to randomise is found at a second
short address as well. -/
theorem classify_not_isPartition : ¬IsPartition ((∅ : Dict ℕ ℕ).set 1 0x14d1d4)
    (((∅ : Dict ℕ ℕ).set 1 0x14d1d4).set 2 0x14d1d4)
    (classify ((∅ : Dict ℕ ℕ).set 1 0x14d1d4)
      (((∅ : Dict ℕ ℕ).set 1 0x14d1d4).set 2 0x14d1d4)) := by
  intro h
  exact h.oldShort ⟨1, 0x14d1d4⟩ (by decide) ⟨⟨2, 0x14d1d4⟩, 1⟩ (by decide) rfl

/-- Maps that hold no random address twice agree. -/
theorem agreeApartFromLast_of_injective
    (hold : ∀ short short' random, oldDevices.get? short = some random →
      oldDevices.get? short' = some random → short = short')
    (hfound : ∀ short short' random, foundDevices.get? short = some random →
      foundDevices.get? short' = some random → short = short') :
    AgreeApartFromLast oldDevices foundDevices := by
  have hlast {devices : Dict ℕ ℕ} (h : ∀ short short' random, devices.get? short = some random →
      devices.get? short' = some random → short = short') {short random : ℕ} :
      ¬(devices.get? short = some random ∧ devices.lastKey? random ≠ some short) := by
    rintro ⟨hdevice, hne⟩
    obtain ⟨short', hshort'⟩ := Dict.exists_lastKey? hdevice
    exact hne (h _ _ _ (Dict.get?_of_lastKey? hshort') hdevice ▸ hshort')
  intro short random
  exact iff_of_false (hlast hold) (hlast hfound)

end WbMqttDali.Commissioning
