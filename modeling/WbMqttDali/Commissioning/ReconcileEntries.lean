import Mathlib
import WbMqttDali.Lib.Dict

/-!
# The configured devices after an addressing

`reconcile_entries` brings the device list of a bus in line with the gear that
was found on it.  The list also holds the DALI-2 devices of the bus, whose short
addresses are a space of their own, and the function matches entries by short
address alone.
-/

namespace WbMqttDali.ReconcileEntries

/-- `DaliDeviceAddress` -/
structure DaliDeviceAddress where
  short : ℤ
  random : ℤ
  deriving DecidableEq

/-- An entry of the list `devices`; `other` are its members besides those that the schema
names here, of any JSON values `α`. -/
structure Entry (α : Type*) where
  short : ℤ
  random : ℤ
  dali2 : Option Bool := none
  other : Dict String α := ∅

namespace Entry

variable {α : Type*}

/-- `bus_from_json` makes a `Dali2Device` of the entry. -/
def isDali2 (entry : Entry α) : Bool := entry.dali2.getD false

def address (entry : Entry α) : DaliDeviceAddress := ⟨entry.short, entry.random⟩

end Entry

section Reconcile

variable {α : Type*}

/-- The loop of `reconcile_entries`: the entries that are kept, and the gear that has none. -/
def reconcileLoop : List (Entry α) → Dict ℤ DaliDeviceAddress →
    List (Entry α) × Dict ℤ DaliDeviceAddress
  | [], found => ([], found)
  | entry :: entries, found =>
    match found.get? entry.short with
    | none => reconcileLoop entries found
    | some gear =>
      let (kept, rest) := reconcileLoop entries (found.erase entry.short)
      ({ entry with random := gear.random } :: kept, rest)

/-- `{gear.short: gear for gear in bus_gear}` -/
def foundByShort (busGear : List DaliDeviceAddress) : Dict ℤ DaliDeviceAddress :=
  busGear.foldl (fun found gear => found.set gear.short gear) ∅

/-- The entries of the gear that has none, in the order of their short addresses. -/
def addedEntries (found : Dict ℤ DaliDeviceAddress) : List (Entry α) :=
  (found.keys.insertionSort (· ≤ ·)).filterMap fun short =>
    (found.get? short).map fun gear => { short, random := gear.random }

/-- `reconcile_entries`: the new contents of the list. -/
def reconcileEntries (entries : List (Entry α)) (busGear : List DaliDeviceAddress) :
    List (Entry α) :=
  let (kept, found) := reconcileLoop entries (foundByShort busGear)
  kept ++ addedEntries found

/-! ### The law -/

/-- The list `after` describes the found gear, and differs from `before` in nothing else. -/
structure Reconciled (before : List (Entry α)) (busGear : List DaliDeviceAddress)
    (after : List (Entry α)) : Prop where
  /-- Every DALI-2 entry is there, unchanged. -/
  dali2 : after.filter (·.isDali2) = before.filter (·.isDali2)
  /-- There is one gear entry for each found gear, with its addresses. -/
  gear : ((after.filter fun entry => ¬ entry.isDali2).map Entry.address).Perm busGear
  /-- Entries are kept in their order, with all but the random address; the others are of gear
  that had no entry. -/
  kept : ∃ kept refreshed added, kept.Sublist before ∧ after = refreshed ++ added ∧
    List.Forall₂ (fun old new => ∃ random, new = { old with random }) kept refreshed ∧
    ∀ entry ∈ added, ∀ old ∈ before, ¬ old.isDali2 → old.short ≠ entry.short

/-! ### One pass -/

/-- The gear of a dictionary by the short addresses that are its keys. -/
def gearOf (found : Dict ℤ DaliDeviceAddress) : List DaliDeviceAddress :=
  found.entries.map fun entry => ⟨entry.1, entry.2.random⟩

/-- A key that is taken out comes off the list. -/
lemma entries_perm_erase {κ β : Type*} [DecidableEq κ] {d : Dict κ β} {k : κ} {v : β}
    (h : d.get? k = some v) : d.entries.Perm ((k, v) :: (d.erase k).entries) := by
  have hnodup : d.entries.Nodup := List.Nodup.of_map _ d.nodup
  refine (List.perm_ext_iff_of_nodup hnodup ?_).2 fun e => ?_
  · exact List.nodup_cons.2 ⟨by simp [Dict.erase], hnodup.filter _⟩
  · rw [List.mem_cons]
    constructor
    · intro he
      by_cases hkey : e.1 = k
      · have hvalue := Dict.get?_eq_some_iff.2 (show (e.1, e.2) ∈ d.entries from he)
        rw [hkey, h] at hvalue
        exact .inl (Prod.ext hkey (Option.some.inj hvalue).symm)
      · exact .inr (by simpa [Dict.erase, hkey] using he)
    · rintro (rfl | he)
      · exact Dict.get?_eq_some_iff.1 h
      · exact List.mem_of_mem_filter he

/-- The pass hands each gear to an entry or leaves it over. -/
lemma reconcileLoop_perm (entries : List (Entry α)) (found : Dict ℤ DaliDeviceAddress) :
    ((reconcileLoop entries found).1.map Entry.address ++
      gearOf (reconcileLoop entries found).2).Perm (gearOf found) := by
  induction entries generalizing found with
  | nil => exact .refl _
  | cons entry entries ih =>
    rw [reconcileLoop]
    split
    case h_1 => exact ih found
    case h_2 gear hgear =>
      have hfound : (gearOf found).Perm
          (⟨entry.short, gear.random⟩ :: gearOf (found.erase entry.short)) :=
        (entries_perm_erase hgear).map _
      exact (List.Perm.cons _ (ih (found.erase entry.short))).trans hfound.symm

/-- Entries keep their order and all but the random address. -/
lemma reconcileLoop_kept (entries : List (Entry α)) (found : Dict ℤ DaliDeviceAddress) :
    ∃ kept, kept.Sublist entries ∧
      List.Forall₂ (fun old new => ∃ random, new = { old with random }) kept
        (reconcileLoop entries found).1 := by
  induction entries generalizing found with
  | nil => exact ⟨[], .slnil, .nil⟩
  | cons entry entries ih =>
    rw [reconcileLoop]
    split
    case h_1 =>
      obtain ⟨kept, hsub, hkept⟩ := ih found
      exact ⟨kept, hsub.cons _, hkept⟩
    case h_2 gear hgear =>
      obtain ⟨kept, hsub, hkept⟩ := ih (found.erase entry.short)
      exact ⟨entry :: kept, hsub.cons_cons _, .cons ⟨gear.random, rfl⟩ hkept⟩

lemma exists_old {kept refreshed : List (Entry α)} {entry : Entry α}
    (h : List.Forall₂ (fun old new => ∃ random, new = { old with random }) kept refreshed)
    (hentry : entry ∈ refreshed) : ∃ old ∈ kept, ∃ random, entry = { old with random } := by
  induction h with
  | nil => cases hentry
  | @cons old new _ _ hnew _ ih =>
    rcases List.mem_cons.1 hentry with rfl | hentry
    · exact ⟨old, List.mem_cons_self, hnew⟩
    · obtain ⟨old', hold', hrefreshed⟩ := ih hentry
      exact ⟨old', List.mem_cons_of_mem _ hold', hrefreshed⟩

/-- The gear that is left over has the short address of no entry. -/
lemma get?_reconcileLoop (entries : List (Entry α)) (found : Dict ℤ DaliDeviceAddress)
    (short : ℤ) :
    (reconcileLoop entries found).2.get? short =
      if ∃ entry ∈ entries, entry.short = short then none else found.get? short := by
  induction entries generalizing found with
  | nil => simp [reconcileLoop]
  | cons entry entries ih =>
    rw [reconcileLoop]
    split
    case h_1 hnone =>
      rw [ih]
      by_cases hshort : entry.short = short
      · subst hshort
        simp [hnone]
      · simp [hshort]
    case h_2 gear hgear =>
      show (reconcileLoop entries (found.erase entry.short)).2.get? short = _
      rw [ih, Dict.get?_erase]
      by_cases hshort : entry.short = short
      · subst hshort
        simp
      · simp [hshort, Ne.symm hshort]

/-- The entries for the gear that is left over. -/
lemma address_addedEntries (found : Dict ℤ DaliDeviceAddress) :
    ((addedEntries found : List (Entry α)).map Entry.address).Perm (gearOf found) := by
  have hkeys : (found.keys.filterMap fun short =>
      (found.get? short).map fun gear => (⟨short, gear.random⟩ : DaliDeviceAddress)) =
        gearOf found := by
    rw [Dict.keys, List.filterMap_map, gearOf, ← List.filterMap_eq_map]
    refine List.filterMap_congr fun e he => ?_
    simp only [Function.comp_apply]
    rw [Dict.get?_eq_some_iff.2 he]
    rfl
  rw [← hkeys, addedEntries, List.map_filterMap]
  refine ((List.perm_insertionSort _ _).filterMap _).trans (List.Perm.of_eq ?_)
  refine List.filterMap_congr fun short _ => ?_
  cases found.get? short <;> rfl

lemma mem_addedEntries {found : Dict ℤ DaliDeviceAddress} {entry : Entry α}
    (h : entry ∈ addedEntries found) :
    entry.isDali2 = false ∧ ∃ gear, found.get? entry.short = some gear := by
  obtain ⟨short, -, hentry⟩ := List.mem_filterMap.1 h
  obtain ⟨gear, hgear, rfl⟩ := Option.map_eq_some_iff.1 hentry
  exact ⟨rfl, gear, hgear⟩

/-- With distinct short addresses no found gear gets lost in the dictionary. -/
lemma entries_foundByShort {busGear : List DaliDeviceAddress}
    (h : (busGear.map DaliDeviceAddress.short).Nodup) :
    (foundByShort busGear).entries = busGear.map fun gear => (gear.short, gear) := by
  induction busGear using List.reverseRecOn with
  | nil => rfl
  | append_singleton busGear gear ih =>
    rw [List.map_append, List.nodup_append] at h
    obtain ⟨hbefore, -, hdisjoint⟩ := h
    have hset : foundByShort (busGear ++ [gear]) = (foundByShort busGear).set gear.short gear := by
      rw [foundByShort, foundByShort, List.foldl_concat]
    have hfresh : gear.short ∉ (foundByShort busGear).entries.map Prod.fst := by
      rw [ih hbefore, List.map_map]
      exact fun hmem => hdisjoint _ hmem _ (by simp) rfl
    rw [hset]
    refine (Dict.setEntries_of_notMem gear hfresh).trans ?_
    rw [ih hbefore, List.map_append]
    rfl

lemma gearOf_foundByShort {busGear : List DaliDeviceAddress}
    (h : (busGear.map DaliDeviceAddress.short).Nodup) :
    gearOf (foundByShort busGear) = busGear := by
  rw [gearOf, entries_foundByShort h, List.map_map]
  exact List.map_id _

/-- Whatever the entries are: the new list has the addresses of the found gear. -/
lemma address_reconcileEntries (entries : List (Entry α)) {busGear : List DaliDeviceAddress}
    (h : (busGear.map DaliDeviceAddress.short).Nodup) :
    ((reconcileEntries entries busGear).map Entry.address).Perm busGear := by
  have hloop := reconcileLoop_perm entries (foundByShort busGear)
  rw [gearOf_foundByShort h] at hloop
  rw [reconcileEntries, List.map_append]
  exact ((address_addedEntries _).append_left _).trans hloop

/-- The new list obeys the law iff the old one has no DALI-2 entry. -/
theorem reconciled_iff (entries : List (Entry α)) {busGear : List DaliDeviceAddress}
    (h : (busGear.map DaliDeviceAddress.short).Nodup) :
    Reconciled entries busGear (reconcileEntries entries busGear) ↔
      ∀ entry ∈ entries, entry.isDali2 = false := by
  have haddresses := address_reconcileEntries entries h
  constructor
  · intro hreconciled
    -- the new list is no longer than the gear, and its gear entries are as many
    have hlength : ((reconcileEntries entries busGear).filter
        fun entry => ¬ entry.isDali2).length = (reconcileEntries entries busGear).length := by
      have hmap : (reconcileEntries entries busGear).length =
          ((reconcileEntries entries busGear).map Entry.address).length :=
        (List.length_map _).symm
      rw [← List.length_map Entry.address, hmap, hreconciled.gear.length_eq, haddresses.length_eq]
    have hgear : ∀ entry ∈ reconcileEntries entries busGear, ¬ entry.isDali2 = true := by
      simpa using List.length_filter_eq_length_iff.1 hlength
    have hnone := hreconciled.dali2
    rw [List.filter_eq_nil_iff.2 hgear, eq_comm, List.filter_eq_nil_iff] at hnone
    exact fun entry hentry => Bool.eq_false_of_not_eq_true (hnone entry hentry)
  · intro hentries
    obtain ⟨kept, hsub, hkept⟩ := reconcileLoop_kept entries (foundByShort busGear)
    have hgear : ∀ entry ∈ reconcileEntries entries busGear, entry.isDali2 = false := by
      intro entry hentry
      rw [reconcileEntries] at hentry
      rcases List.mem_append.1 hentry with hentry | hentry
      · obtain ⟨old, hold, random, rfl⟩ := exists_old hkept hentry
        exact hentries old (hsub.subset hold)
      · exact (mem_addedEntries hentry).1
    refine ⟨?_, ?_, kept, _, _, hsub, rfl, hkept, ?_⟩
    · rw [List.filter_eq_nil_iff.2 fun entry hentry => by simp [hgear entry hentry],
        List.filter_eq_nil_iff.2 fun entry hentry => by simp [hentries entry hentry]]
    · rw [List.filter_eq_self.2 fun entry hentry => by simp [hgear entry hentry]]
      exact haddresses
    · intro entry hentry old hold _ hshort
      obtain ⟨-, gear, hleft⟩ := mem_addedEntries hentry
      rw [get?_reconcileLoop, if_pos ⟨old, hold, hshort⟩] at hleft
      cases hleft

end Reconcile

/-- Two entries of one bus, for the gear 5 and for the DALI-2 device 5. -/
def mixedEntries : List (Entry String) :=
  [{ short := 5, random := 0x111, dali2 := some true },
    { short := 5, random := 0x222, other := (∅ : Dict String String).set "name" "Lamp" }]

/-- The DALI-2 entry takes the random address of the gear, whose own entry is removed. -/
theorem not_reconciled_mixed :
    ¬ Reconciled mixedEntries [⟨5, 0x333⟩] (reconcileEntries mixedEntries [⟨5, 0x333⟩]) := by
  intro h
  have hdali2 := congrArg (List.map Entry.random) h.dali2
  revert hdali2
  decide +kernel

/-- A moved, a lost and a new gear. -/
theorem reconciled_gear :
    Reconciled [({ short := 5, random := 1 } : Entry String), { short := 7, random := 2 }]
      [⟨9, 4⟩, ⟨5, 3⟩]
      (reconcileEntries [{ short := 5, random := 1 }, { short := 7, random := 2 }]
        [⟨9, 4⟩, ⟨5, 3⟩]) :=
  (reconciled_iff _ (by decide)).2 (by decide)

end WbMqttDali.ReconcileEntries
