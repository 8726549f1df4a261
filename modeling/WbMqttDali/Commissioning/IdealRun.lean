import WbMqttDali.Commissioning.IdealBus

/-!
# The result of `smart_extend` on an ideal bus

The poll reads the random addresses of the devices that are alone at their short addresses, and
finds nothing to be randomised.  So one pass is enough, and the run ends with every device at a
short address of its own.
-/

namespace WbMqttDali.Commissioning.SmartExtend

/-- Conforming devices with different random addresses that are set, at most as many as there are
short addresses; short addresses may be unset, or shared. -/
structure IsIdeal (bus : FakeBus) : Prop where
  length_le : bus.devices.length ≤ maxShortAddress + 1
  nodup : (bus.devices.map FakeDevice.random).Nodup
  random_lt : ∀ device ∈ bus.devices, device.random < maxRandomAddress
  short_le : ∀ device ∈ bus.devices, ∀ short ∈ device.short, short ≤ maxShortAddress

/-- Every device of the bus has a short address of its own, those that had one before have kept it,
and the found devices are those of the bus. -/
structure Commissioned (before after : FakeBus) (foundDevices : Dict ℕ ℕ) : Prop where
  randoms : after.devices.map FakeDevice.random = before.devices.map FakeDevice.random
  addressed : ∀ device ∈ after.devices, ∃ short ≤ maxShortAddress, device.short = some short
  distinct : (after.devices.map FakeDevice.short).Nodup
  found : ∀ short random, foundDevices.get? short = some random ↔
    ∃ device ∈ after.devices, device.short = some short ∧ device.random = random
  kept : ∀ device ∈ before.devices, device.short ≠ none →
    (∀ other ∈ before.devices, other.short = device.short → other = device) →
      ∃ device' ∈ after.devices, device'.random = device.random ∧ device'.short = device.short
  terminated : ∀ device ∈ after.devices, device.initialised = false

section Poll

variable {layer : Layer} {bus : FakeBus} {short random : ℕ}

/-! ### The poll -/

lemma mem_getPresentShortAddresses : short ∈ getPresentShortAddresses layer bus ↔
    short ≤ maxShortAddress ∧ ∃ device ∈ bus.devices, device.short = some short := by
  rw [getPresentShortAddresses, List.mem_filter, List.mem_range, Nat.lt_succ_iff,
    FakeBus.response, isAnswer_respond, ne_eq, List.filterMap_eq_nil_iff]
  simp [FakeDevice.answer]

lemma nodup_getPresentShortAddresses : (getPresentShortAddresses layer bus).Nodup :=
  List.nodup_range.filter _

/-- The byte that is read is that of each device with the short address. -/
lemma addressByte_of_read {part : AddressPart} {byte : ℕ}
    (h : readRandomByte layer bus short part = some byte) :
    (∃ device ∈ bus.devices, device.short = some short) ∧
      ∀ device ∈ bus.devices, device.short = some short →
        byte = addressByte device.random part := by
  rw [readRandomByte] at h
  split at h
  case h_1 answer hanswer =>
    obtain ⟨hne, hall⟩ := respond_eq_answer hanswer
    obtain rfl := Option.some.inj h
    constructor
    · obtain ⟨other, hother⟩ := List.exists_mem_of_ne_nil _ hne
      obtain ⟨device, hdevice, heq⟩ := List.mem_filterMap.1 hother
      refine ⟨device, hdevice, ?_⟩
      by_contra hshort
      simp [FakeDevice.answer, hshort] at heq
    · intro device hdevice hshort
      have hown := hall (Fin.ofNat 256 (addressByte device.random part))
        (List.mem_filterMap.2 ⟨device, hdevice, by simp [FakeDevice.answer, hshort]⟩)
      rw [← hown, Fin.val_ofNat, Nat.mod_eq_of_lt (addressByte_lt part)]
  case h_2 => cases h

/-- A random address that is read is that of a device with the short address. -/
lemma exists_of_getRandomAddress (hlt : ∀ device ∈ bus.devices, device.random < maxRandomAddress)
    (h : getRandomAddress layer bus short = some random) :
    ∃ device ∈ bus.devices, device.short = some short ∧ device.random = random := by
  simp only [getRandomAddress, Option.bind_eq_bind, Option.bind_eq_some_iff, Option.pure_def] at h
  obtain ⟨high, hhigh, medium, hmedium, low, hlow, heq⟩ := h
  obtain ⟨⟨device, hdevice, hshort⟩, hhigh⟩ := addressByte_of_read hhigh
  have hmedium := (addressByte_of_read hmedium).2
  have hlow := (addressByte_of_read hlow).2
  refine ⟨device, hdevice, hshort, ?_⟩
  rw [← Option.some.inj heq, hhigh device hdevice hshort, hmedium device hdevice hshort,
    hlow device hdevice hshort, join_addressByte (hlt device hdevice).le]

lemma knownRandomAddresses_map (shorts : List ℕ) (f : ℕ → Option ℕ) :
    knownRandomAddresses shorts (shorts.map f) =
      shorts.filterMap fun short => (f short).map fun random => (short, random) := by
  induction shorts with
  | nil => rfl
  | cons short shorts ih =>
    rw [knownRandomAddresses] at ih ⊢
    simp only [List.map_cons, List.zip_cons_cons, List.filterMap_cons, ih]

/-- The known random addresses of an ideal bus are different ones of its devices. -/
lemma nodup_known (layer : Layer) (h : IsIdeal bus) :
    ((knownRandomAddresses (getPresentShortAddresses layer bus)
      ((getPresentShortAddresses layer bus).map (getRandomAddress layer bus))).map Prod.snd).Nodup ∧
    ∀ known ∈ knownRandomAddresses (getPresentShortAddresses layer bus)
        ((getPresentShortAddresses layer bus).map (getRandomAddress layer bus)),
      known.2 < maxRandomAddress := by
  rw [knownRandomAddresses_map]
  constructor
  · have hsnd : (fun short => ((getRandomAddress layer bus short).map
        fun random => (short, random)).map Prod.snd) = getRandomAddress layer bus := by
      funext short
      cases getRandomAddress layer bus short <;> rfl
    rw [List.map_filterMap, hsnd]
    refine List.Nodup.filterMap (fun short other random hshort hother => ?_)
      nodup_getPresentShortAddresses
    obtain ⟨device, hdevice, hshort, hrandom⟩ := exists_of_getRandomAddress h.random_lt hshort
    obtain ⟨device', hdevice', hother, hrandom'⟩ := exists_of_getRandomAddress h.random_lt hother
    have hsame := List.inj_on_of_nodup_map h.nodup hdevice hdevice' (hrandom.trans hrandom'.symm)
    rw [hsame, hother] at hshort
    exact (Option.some.inj hshort).symm
  · intro known hknown
    obtain ⟨short, -, heq⟩ := List.mem_filterMap.1 hknown
    obtain ⟨random, hrandom, rfl⟩ := Option.map_eq_some_iff.1 heq
    obtain ⟨device, hdevice, -, rfl⟩ := exists_of_getRandomAddress h.random_lt hrandom
    exact h.random_lt device hdevice

/-- Different random addresses that are set need not be randomised. -/
lemma isRandomised_eq_false {known : List (ℕ × ℕ)} (hnodup : (known.map Prod.snd).Nodup)
    (hlt : ∀ device ∈ known, device.2 < maxRandomAddress) {device : ℕ × ℕ} (hmem : device ∈ known) :
    isRandomised known device = false := by
  have hcount : (known.filter (·.2 = device.2)).length ≤ 1 := by
    have hone := List.nodup_iff_count_le_one.1 hnodup device.2
    rw [List.count_eq_countP, List.countP_map, List.countP_eq_length_filter] at hone
    exact hone
  have hne := (hlt device hmem).ne
  simp only [isRandomised, Bool.or_eq_false_iff, decide_eq_false_iff_not, not_lt]
  exact ⟨hcount, hne⟩

/-- The addresses of the configuration are added without a repetition. -/
lemma nodup_addOldDevices {known : List (ℕ × ℕ)} (oldDevices : Dict ℕ ℕ)
    (hnodup : (known.map Prod.snd).Nodup) :
    ((addOldDevices known oldDevices).map Prod.snd).Nodup ∧
      ∀ addr ∈ (addOldDevices known oldDevices).map Prod.snd,
        addr ∈ known.map Prod.snd ∨ addr ∈ oldDevices.values := by
  rw [addOldDevices, Dict.values]
  generalize oldDevices.entries = entries
  induction entries generalizing known with
  | nil => exact ⟨hnodup, fun addr haddr => .inl haddr⟩
  | cons old entries ih =>
    rw [List.foldl_cons, List.map_cons]
    split
    case isTrue =>
      obtain ⟨hrest, hfrom⟩ := ih hnodup
      refine ⟨hrest, fun addr haddr => ?_⟩
      exact (hfrom addr haddr).imp_right (List.mem_cons_of_mem _)
    case isFalse hnew =>
      have hadded : ((known ++ [old]).map Prod.snd).Nodup := by
        rw [List.map_append, List.map_cons, List.map_nil]
        refine List.nodup_append.2 ⟨hnodup, List.nodup_singleton _, ?_⟩
        rintro addr haddr other hother rfl
        rw [List.mem_singleton] at hother
        exact hnew (hother ▸ haddr)
      obtain ⟨hrest, hfrom⟩ := ih hadded
      refine ⟨hrest, fun addr haddr => ?_⟩
      rcases hfrom addr haddr with hknown | hold
      · rw [List.map_append, List.mem_append] at hknown
        refine hknown.imp_right fun hlast => ?_
        rw [List.map_cons, List.map_nil, List.mem_singleton] at hlast
        exact hlast ▸ List.mem_cons_self
      · exact .inr (List.mem_cons_of_mem _ hold)

end Poll

/-! ### The run -/

section Run

variable {layer : Layer} {bus : FakeBus} {oldDevices : Dict ℕ ℕ}

/-- The short address of the device with the random address. -/
def shortOf (bus : FakeBus) (random : ℕ) : Option ℕ :=
  (bus.devices.find? fun device => device.random = random).bind FakeDevice.short

lemma shortOf_random (h : IsIdeal bus) {device : FakeDevice} (hmem : device ∈ bus.devices) :
    shortOf bus device.random = device.short := by
  cases hfind : bus.devices.find? fun other => other.random = device.random with
  | none => simpa using List.find?_eq_none.1 hfind device hmem
  | some other =>
    have hsame := List.inj_on_of_nodup_map h.nodup (List.mem_of_find?_eq_some hfind) hmem
      (by simpa using List.find?_some hfind)
    rw [shortOf, hfind, Option.bind_some, hsame]

/-- The devices of an ideal bus. -/
def IsIdeal.roster (h : IsIdeal bus) : Roster where
  randoms := bus.devices.map FakeDevice.random
  before := shortOf bus
  nodup := h.nodup
  random_lt random hmem := by
    obtain ⟨device, hdevice, rfl⟩ := List.mem_map.1 hmem
    exact h.random_lt device hdevice
  length_le := by
    rw [List.length_map]
    exact h.length_le
  before_le random hmem short hshort := by
    obtain ⟨device, hdevice, rfl⟩ := List.mem_map.1 hmem
    rw [shortOf_random h hdevice] at hshort
    exact h.short_le device hdevice short hshort

lemma held_roster_iff (h : IsIdeal bus) {short : ℕ} :
    h.roster.Held short ↔ ∃ device ∈ bus.devices, device.short = some short := by
  constructor
  · rintro ⟨random, hmem, hshort⟩
    obtain ⟨device, hdevice, rfl⟩ := List.mem_map.1 hmem
    exact ⟨device, hdevice, (shortOf_random h hdevice).symm.trans hshort⟩
  · rintro ⟨device, hdevice, hshort⟩
    exact ⟨device.random, List.mem_map_of_mem hdevice, (shortOf_random h hdevice).trans hshort⟩

lemma not_found_afterPoll {present : List ℕ} {randoms newRandoms : List (Option ℕ)} (random : ℕ) :
    ¬(State.afterPoll oldDevices present randoms newRandoms).Found random := by
  rintro ⟨short, hshort⟩
  cases hshort

/-- Behind the poll, all devices are initialised and no one is found. -/
lemma ongoing_afterPoll (h : IsIdeal bus) (layer : Layer) (oldDevices : Dict ℕ ℕ)
    (randoms newRandoms : List (Option ℕ)) :
    Ongoing h.roster h.roster.before (fun _ => false)
      { bus := bus.receiveAll [.terminate, .initialise (some mask)]
        state :=
          .afterPoll oldDevices (getPresentShortAddresses layer bus) randoms newRandoms } where
  truthful _ _ hcurrent := by cases hcurrent
  devices := by
    simp only [FakeBus.receiveAll, List.foldl_cons, List.foldl_nil, FakeBus.receive, List.map_map,
      IsIdeal.roster]
    apply List.map_congr_left
    intro device hdevice
    simp [FakeDevice.receive, shortOf_random h hdevice]
  pool := by
    have hfresh (s : ℕ) : (State.afterPoll oldDevices (getPresentShortAddresses layer bus) randoms
        newRandoms).foundDevices.get? s = none := Dict.get?_empty s
    refine ⟨fun s random hs => ?_, fun _ _ _ => rfl, nodup_foldl_erase List.nodup_range _,
      fun s => ?_, fun s random hs => ?_, fun s random hs => ?_, fun s random _ hs => ?_⟩
    · rw [hfresh] at hs
      cases hs
    · show s ∈ (getPresentShortAddresses layer bus).foldl List.erase _ ↔ _
      rw [mem_foldl_erase List.nodup_range, List.mem_range, Nat.lt_succ_iff,
        mem_getPresentShortAddresses, held_roster_iff, hfresh]
      constructor
      · rintro ⟨hle, habsent⟩
        exact ⟨hle, fun hheld => habsent ⟨hle, hheld⟩, rfl⟩
      · rintro ⟨hle, hfree, -⟩
        exact ⟨hle, fun hpresent => hfree hpresent.2⟩
    · rw [hfresh] at hs
      cases hs
    · rw [hfresh] at hs
      cases hs
    · rw [hfresh] at hs
      cases hs
  conflicts := rfl

/-- The batch and one pass find all the devices. -/
lemma Ongoing.search (layer : Layer) {roster : Roster} {w : World} {known : List (ℕ × ℕ)}
    (h : Ongoing roster roster.before (fun _ => false) w) (hfresh : ∀ random, ¬w.state.Found random)
    (hnodup : (known.map Prod.snd).Nodup) (hlt : ∀ device ∈ known, device.2 < maxRandomAddress)
    (hold : ∀ random ∈ w.state.oldDevices.values, random ≤ maxRandomAddress) :
    ∃ w' short withdrawn, search layer known w = some w' ∧ Ongoing roster short withdrawn w' ∧
      ∀ random ∈ roster.randoms, w'.state.Found random := by
  obtain ⟨hadded, hfrom⟩ := nodup_addOldDevices w.state.oldDevices hnodup
  have hle : ∀ addr ∈ (addOldDevices known w.state.oldDevices).map Prod.snd,
      addr ≤ maxRandomAddress := by
    intro addr haddr
    rcases hfrom addr haddr with hknown | hvalue
    · obtain ⟨device, hdevice, rfl⟩ := List.mem_map.1 hknown
      exact (hlt device hdevice).le
    · exact hold addr hvalue
  obtain ⟨w', hw', short, withdrawn, hongoing, hwithdrawn⟩ :=
    h.withdrawKnown layer hfresh hadded hle
  have hpassing : Passing roster short withdrawn { bus := w' } := by
    refine ⟨hongoing, hwithdrawn, fun _ _ => Nat.zero_le _, ?_, fun _ _ heq => ?_⟩
    · show 0 < maxRandomAddress
      decide
    · cases heq
  have hfuel : (roster.left withdrawn).card < World.passFuel :=
    card_left_le.trans_lt (by decide)
  obtain ⟨w'', hw'', short', withdrawn', hdone, hfound⟩ := hpassing.searchPass layer hfuel
  refine ⟨w'', short', withdrawn', ?_, hdone, hfound⟩
  rw [SmartExtend.search, hw', Option.bind_some, World.searchPasses, hw'']
  exact if_pos (.inl hdone.conflicts)

/-- How a run ends: every device is found, at the short address that the pool has for it. -/
structure Ends (roster : Roster) (short : ℕ → Option ℕ) (w : World) : Prop where
  devices : w.bus.devices = roster.randoms.map fun random => ⟨short random, random, false, false⟩
  pool : Pool roster short w.state
  found : ∀ random ∈ roster.randoms, w.state.Found random

lemma Ongoing.ends {roster : Roster} {short : ℕ → Option ℕ} {withdrawn : ℕ → Bool} {w : World}
    (h : Ongoing roster short withdrawn w)
    (hfound : ∀ random ∈ roster.randoms, w.state.Found random) :
    Ends roster short (w.send .terminate) where
  devices := by
    simp only [World.send, FakeBus.receive, h.devices, List.map_map]
    rfl
  pool := h.pool
  found := hfound

/-- A run on an ideal bus ends. -/
lemma exists_smartExtend (h : IsIdeal bus) (layer : Layer)
    (hold : ∀ random ∈ oldDevices.values, random ≤ maxRandomAddress) :
    ∃ w short, smartExtend layer oldDevices bus =
      some (w, classify oldDevices w.state.foundDevices) ∧ Ends h.roster short w := by
  obtain ⟨hnodup, hlt⟩ := nodup_known layer h
  simp only [smartExtend, polledRandomAddresses]
  generalize hrandoms : (getPresentShortAddresses layer bus).map (getRandomAddress layer bus) =
    randoms at hnodup hlt
  generalize knownRandomAddresses (getPresentShortAddresses layer bus) randoms = known at hnodup hlt
  -- nothing is randomised
  have hkept : known.filter (isRandomised known) = [] := by
    rw [List.filter_eq_nil_iff]
    intro device hdevice
    simp [isRandomised_eq_false hnodup hlt hdevice]
  have hall : known.filter (fun device => !isRandomised known device) = known := by
    rw [List.filter_eq_self]
    intro device hdevice
    simp [isRandomised_eq_false hnodup hlt hdevice]
  have hagain : knownRandomAddresses [] [] = [] := rfl
  simp only [hkept, List.map_nil, List.foldl_nil, hall, hagain, List.append_nil]
  have hpolled := ongoing_afterPoll h layer oldDevices randoms []
  obtain ⟨w, short, withdrawn, hsearch, hongoing, hfound⟩ :=
    hpolled.search layer not_found_afterPoll hnodup hlt hold
  rw [hsearch]
  exact ⟨w.send .terminate, short, rfl, hongoing.ends hfound⟩

variable {w : World} {short : ℕ → Option ℕ}

lemma Ends.found_iff {roster : Roster} (h : Ends roster short w) {s random : ℕ} :
    w.state.foundDevices.get? s = some random ↔
      random ∈ roster.randoms ∧ short random = some s := by
  constructor
  · exact h.pool.found s random
  · rintro ⟨hmem, hshort⟩
    obtain ⟨s', hs'⟩ := h.found random hmem
    have hshort' := (h.pool.found s' random hs').2
    rw [hshort] at hshort'
    rw [Option.some.inj hshort']
    exact hs'

/-- A device that is alone at its short address keeps it. -/
lemma Ends.short_eq {roster : Roster} (h : Ends roster short w) {s random : ℕ}
    (hmem : random ∈ roster.randoms) (hbefore : roster.before random = some s)
    (halone : ∀ other ∈ roster.randoms, roster.before other = some s → other = random) :
    short random = some s := by
  obtain ⟨s', hs'⟩ := h.found random hmem
  obtain ⟨other, hother⟩ := h.pool.lost s' random s hs' hbefore
  have hheld := h.pool.kept s other hother ⟨random, hmem, hbefore⟩
  obtain ⟨hother', hshort⟩ := h.pool.found s other hother
  rw [← halone other hother' hheld, hshort]

lemma Ends.commissioned (h : IsIdeal bus) (hends : Ends h.roster short w) :
    Commissioned bus w.bus w.state.foundDevices where
  randoms := by
    rw [hends.devices, List.map_map]
    exact List.map_id _
  addressed device hdevice := by
    rw [hends.devices] at hdevice
    obtain ⟨random, hmem, rfl⟩ := List.mem_map.1 hdevice
    obtain ⟨s, hs⟩ := hends.found random hmem
    exact ⟨s, hends.pool.found_le s random hs, (hends.pool.found s random hs).2⟩
  distinct := by
    rw [hends.devices, List.map_map]
    refine h.roster.nodup.map_on fun random hmem other hother heq => ?_
    obtain ⟨s, hs⟩ := hends.found random hmem
    have hshort : short random = short other := heq
    rw [(hends.pool.found s random hs).2] at hshort
    have hsame := hends.found_iff.2 ⟨hother, hshort.symm⟩
    rw [hs] at hsame
    exact Option.some.inj hsame
  found s random := by
    rw [hends.found_iff, hends.devices]
    constructor
    · rintro ⟨hmem, hshort⟩
      exact ⟨_, List.mem_map_of_mem hmem, hshort, rfl⟩
    · rintro ⟨device, hdevice, hshort, rfl⟩
      obtain ⟨random, hmem, rfl⟩ := List.mem_map.1 hdevice
      exact ⟨hmem, hshort⟩
  kept device hdevice hne halone := by
    obtain ⟨s, hs⟩ := Option.ne_none_iff_exists'.1 hne
    have hmem : device.random ∈ h.roster.randoms := List.mem_map_of_mem hdevice
    have hshort :=
      hends.short_eq hmem ((shortOf_random h hdevice).trans hs) fun other hother hheld => by
      obtain ⟨device', hdevice', rfl⟩ := List.mem_map.1 hother
      rw [halone device' hdevice' ((shortOf_random h hdevice').symm.trans (hheld.trans hs.symm))]
    rw [hends.devices]
    exact ⟨_, List.mem_map_of_mem hmem, rfl, hshort.trans hs.symm⟩
  terminated device hdevice := by
    rw [hends.devices] at hdevice
    obtain ⟨random, -, rfl⟩ := List.mem_map.1 hdevice
    rfl

/-- On an ideal bus, `smart_extend` ends without an error for every configuration; every device has
a short address of its own then, those that were alone at theirs have kept it, and the found
devices are exactly those of the bus. -/
theorem smartExtend_commissions (layer : Layer) (oldDevices : Dict ℕ ℕ) (bus : FakeBus)
    (h : IsIdeal bus) (hold : ∀ random ∈ oldDevices.values, random ≤ maxRandomAddress) :
    ∃ w, smartExtend layer oldDevices bus = some (w, classify oldDevices w.state.foundDevices) ∧
      Commissioned bus w.bus w.state.foundDevices := by
  obtain ⟨w, short, hrun, hends⟩ := exists_smartExtend h layer hold
  exact ⟨w, hrun, hends.commissioned h⟩

/-- Two gear share a short address, and one has none. -/
def threeGear : FakeBus where
  devices := [⟨some 5, 0x111111, false, false⟩, ⟨some 5, 0x222222, false, false⟩,
    ⟨none, 0xFFFFFE, false, false⟩]

lemma isIdeal_threeGear : IsIdeal threeGear where
  length_le := by decide
  nodup := by decide
  random_lt := by decide
  short_le := by decide

theorem smartExtend_commissions_threeGear :
    ∃ w, smartExtend .gear (Dict.ofPairs [(0, 0x222222)]) threeGear =
        some (w, classify (Dict.ofPairs [(0, 0x222222)]) w.state.foundDevices) ∧
      Commissioned threeGear w.bus w.state.foundDevices :=
  smartExtend_commissions .gear (Dict.ofPairs [(0, 0x222222)]) threeGear isIdeal_threeGear
    (by decide)

/-! ### A second run -/

lemma Commissioned.isIdeal {after : FakeBus} {foundDevices : Dict ℕ ℕ} (h : IsIdeal bus)
    (hdone : Commissioned bus after foundDevices) : IsIdeal after where
  length_le := by
    have hlength := congrArg List.length hdone.randoms
    rw [List.length_map, List.length_map] at hlength
    exact hlength ▸ h.length_le
  nodup := hdone.randoms ▸ h.nodup
  random_lt device hdevice := by
    have hmem : device.random ∈ bus.devices.map FakeDevice.random :=
      hdone.randoms ▸ List.mem_map_of_mem hdevice
    obtain ⟨device', hdevice', heq⟩ := List.mem_map.1 hmem
    exact heq ▸ h.random_lt device' hdevice'
  short_le device hdevice s hs := by
    obtain ⟨s', hle, hs'⟩ := hdone.addressed device hdevice
    have hs : device.short = some s := hs
    rw [hs'] at hs
    exact Option.some.inj hs ▸ hle

/-- The devices of a bus on which each is alone at its short address stay as they are. -/
lemma Ends.devices_eq (h : IsIdeal bus) (hends : Ends h.roster short w)
    (haddressed : ∀ device ∈ bus.devices, device.short ≠ none)
    (hdistinct : (bus.devices.map FakeDevice.short).Nodup)
    (hterminated : ∀ device ∈ bus.devices, device.initialised = false ∧ device.withdrawn = false) :
    w.bus.devices = bus.devices := by
  rw [hends.devices]
  show (bus.devices.map FakeDevice.random).map _ = _
  rw [List.map_map]
  conv_rhs => rw [← List.map_id bus.devices]
  apply List.map_congr_left
  intro device hdevice
  obtain ⟨s, hs⟩ := Option.ne_none_iff_exists'.1 (haddressed device hdevice)
  have hshort : short device.random = device.short := by
    rw [hs]
    refine hends.short_eq (List.mem_map_of_mem hdevice) ((shortOf_random h hdevice).trans hs)
      fun other hother hheld => ?_
    obtain ⟨device', hdevice', rfl⟩ := List.mem_map.1 hother
    have hsame : device'.short = device.short :=
      ((shortOf_random h hdevice').symm.trans hheld).trans hs.symm
    rw [List.inj_on_of_nodup_map hdistinct hdevice' hdevice hsame]
  obtain ⟨hinitialised, hwithdrawn⟩ := hterminated device hdevice
  cases device
  simp only at hshort hinitialised hwithdrawn
  simp [hshort, hinitialised, hwithdrawn]

/-- Devices that are found as they were are all unchanged. -/
lemma classify_same {foundDevices : Dict ℕ ℕ}
    (hsame : ∀ s random, oldDevices.get? s = some random ↔ foundDevices.get? s = some random)
    (hinj : ∀ s s' random, foundDevices.get? s = some random → foundDevices.get? s' = some random →
      s = s') :
    classify oldDevices foundDevices =
      { unchanged := addresses oldDevices, changed := [], missing := [], new := [] } := by
  have hunchanged : unchanged oldDevices foundDevices = addresses oldDevices := by
    rw [unchanged, List.filter_eq_self]
    intro device hdevice
    exact decide_eq_true ((hsame _ _).1 (mem_addresses.1 hdevice))
  have hchanged : changed oldDevices foundDevices = [] := by
    rw [List.eq_nil_iff_forall_not_mem]
    intro change hchange
    obtain ⟨hold, hnew, hne⟩ := mem_changed.1 hchange
    have hold := (hsame _ _).1 (Dict.get?_of_lastKey? hold)
    exact hne (hinj _ _ _ hold (Dict.get?_of_lastKey? hnew))
  have hmissing : onlyIn oldDevices foundDevices = [] := by
    rw [List.eq_nil_iff_forall_not_mem]
    intro device hdevice
    obtain ⟨hold, habsent⟩ := mem_onlyIn.1 hdevice
    exact habsent _ ((hsame _ _).1 (Dict.get?_of_lastKey? hold))
  have hnew : onlyIn foundDevices oldDevices = [] := by
    rw [List.eq_nil_iff_forall_not_mem]
    intro device hdevice
    obtain ⟨hfound, habsent⟩ := mem_onlyIn.1 hdevice
    exact habsent _ ((hsame _ _).2 (Dict.get?_of_lastKey? hfound))
  rw [classify, hunchanged, hchanged, hmissing, hnew]

/-- A second run with the devices of the first as its configuration ends as well, changes nothing
on the bus and reports every device as unchanged. -/
theorem smartExtend_again (layer : Layer) (oldDevices : Dict ℕ ℕ) (bus : FakeBus) (h : IsIdeal bus)
    (hold : ∀ random ∈ oldDevices.values, random ≤ maxRandomAddress) (w : World)
    (result : TakeOver.CommissioningResult)
    (hrun : smartExtend layer oldDevices bus = some (w, result)) :
    ∃ w', smartExtend layer w.state.foundDevices w.bus =
        some (w',
          { unchanged := addresses w.state.foundDevices,
            changed := [], missing := [], new := [] }) ∧
      w'.bus.devices = w.bus.devices := by
  obtain ⟨first, short, hfirst, hends⟩ := exists_smartExtend h layer hold
  rw [hfirst] at hrun
  obtain ⟨rfl, -⟩ := Prod.mk.inj (Option.some.inj hrun)
  have hdone := hends.commissioned h
  have hideal := hdone.isIdeal h
  have hvalues : ∀ random ∈ first.state.foundDevices.values, random ≤ maxRandomAddress := by
    intro random hrandom
    obtain ⟨s, hs⟩ := Dict.mem_values_iff.1 hrandom
    exact (h.roster.random_lt random (hends.pool.found s random hs).1).le
  obtain ⟨second, short', hsecond, hends'⟩ := exists_smartExtend hideal layer hvalues
  have hdevices : second.bus.devices = first.bus.devices := by
    apply hends'.devices_eq hideal
    · intro device hdevice
      obtain ⟨s, -, hs⟩ := hdone.addressed device hdevice
      simp [hs]
    · exact hdone.distinct
    · intro device hdevice
      rw [hends.devices] at hdevice
      obtain ⟨random, -, rfl⟩ := List.mem_map.1 hdevice
      exact ⟨rfl, rfl⟩
  have hdone' := hends'.commissioned hideal
  have hsame (s random : ℕ) : first.state.foundDevices.get? s = some random ↔
      second.state.foundDevices.get? s = some random := by
    rw [hdone.found, hdone'.found, hdevices]
  have hinj (s s' random : ℕ) (hs : second.state.foundDevices.get? s = some random)
      (hs' : second.state.foundDevices.get? s' = some random) : s = s' := by
    have hshort := (hends'.pool.found s random hs).2
    rw [(hends'.pool.found s' random hs').2] at hshort
    exact (Option.some.inj hshort).symm
  rw [classify_same hsame hinj] at hsecond
  exact ⟨second, hsecond, hdevices⟩

theorem smartExtend_again_threeGear :
    ∃ w w', smartExtend .gear ∅ threeGear = some (w, classify ∅ w.state.foundDevices) ∧
      smartExtend .gear w.state.foundDevices w.bus =
        some (w',
          { unchanged := addresses w.state.foundDevices,
            changed := [], missing := [], new := [] }) ∧
      w'.bus.devices = w.bus.devices := by
  have hold : ∀ random ∈ (∅ : Dict ℕ ℕ).values, random ≤ maxRandomAddress := by decide
  obtain ⟨w, -, hrun, -⟩ := exists_smartExtend isIdeal_threeGear .gear hold
  obtain ⟨w', hagain⟩ := smartExtend_again .gear ∅ threeGear isIdeal_threeGear hold w _ hrun
  exact ⟨w, w', hrun, hagain⟩

end Run

end WbMqttDali.Commissioning.SmartExtend
