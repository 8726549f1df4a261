import WbMqttDali.Commissioning.SmartExtend

/-!
# `smart_extend` on an ideal bus

Conforming devices with different random addresses, at most as many as there are short addresses,
and no answer is lost.  Behind the poll a device is where its random address is, and what it
answers there is the short address that it has had in the beginning.  The invariant of the
search says which short addresses are taken: those of the devices that were found, and those of
the poll, which no device that is found gets anew.
-/

namespace WbMqttDali.Commissioning.SmartExtend

/-! ### Answers -/

section Answers

variable {α : Type*} {answers : List (Fin 256)}

@[simp] lemma isAnswer_respond : (respond answers).isAnswer = true ↔ answers ≠ [] := by
  cases answers with
  | nil => simp [respond, Response.isAnswer]
  | cons answer answers =>
    simp only [respond, ne_eq, reduceCtorEq, not_false_eq_true, iff_true]
    split <;> rfl

/-- Only what all answer is read. -/
lemma respond_eq_answer {byte : Fin 256} (h : respond answers = .answer byte) :
    answers ≠ [] ∧ ∀ answer ∈ answers, answer = byte := by
  cases answers with
  | nil => cases h
  | cons answer answers =>
    simp only [respond] at h
    split at h
    case isTrue hall =>
      obtain rfl := Response.answer.inj h
      refine ⟨List.cons_ne_nil _ _, fun other hother => ?_⟩
      rcases List.mem_cons.1 hother with rfl | hmem
      · rfl
      · simpa using List.all_eq_true.1 hall other hmem
    case isFalse => cases h

/-- One of different items answers. -/
lemma filterMap_ite_eq [DecidableEq α] {l : List α} (h : l.Nodup) (a : α) (f : α → Fin 256) :
    l.filterMap (fun x => if a = x then some (f x) else none) = if a ∈ l then [f a] else [] := by
  induction l with
  | nil => rfl
  | cons x l ih =>
    obtain ⟨hx, hl⟩ := List.nodup_cons.1 h
    by_cases heq : a = x
    · subst heq
      simp [ih hl, hx]
    · simp [ih hl, heq]

end Answers

/-! ### The bytes of an address -/

section Bytes

variable {addr other : ℕ}

lemma join_bytes {high medium low : ℕ} (hmedium : medium < 256) (hlow : low < 256) :
    high <<< 16 ||| medium <<< 8 ||| low = high * 65536 + medium * 256 + low := by
  have hinner : high <<< 16 ||| medium <<< 8 = high * 65536 + medium * 256 := by
    rw [Nat.shiftLeft_eq, Nat.shiftLeft_eq, mul_comm high,
      ← Nat.two_pow_add_eq_or_of_lt (by omega : medium * 2 ^ 8 < 2 ^ 16)]
    omega
  have houter : high * 65536 + medium * 256 = 2 ^ 8 * (high * 256 + medium) := by omega
  rw [hinner, houter, ← Nat.two_pow_add_eq_or_of_lt (by omega : low < 2 ^ 8)]

lemma addressByte_high : addressByte addr .high = addr / 65536 % 256 := by
  rw [addressByte, Nat.shiftRight_eq_div_pow]
  exact Nat.and_two_pow_sub_one_eq_mod _ 8

lemma addressByte_medium : addressByte addr .medium = addr / 256 % 256 := by
  rw [addressByte, Nat.shiftRight_eq_div_pow]
  exact Nat.and_two_pow_sub_one_eq_mod _ 8

lemma addressByte_low : addressByte addr .low = addr % 256 :=
  Nat.and_two_pow_sub_one_eq_mod _ 8

lemma addressByte_lt (part : AddressPart) : addressByte addr part < 256 := by
  cases part with
  | high => exact addressByte_high ▸ Nat.mod_lt _ (by norm_num)
  | medium => exact addressByte_medium ▸ Nat.mod_lt _ (by norm_num)
  | low => exact addressByte_low ▸ Nat.mod_lt _ (by norm_num)

/-- An address is put together again from its bytes. -/
lemma join_addressByte (h : addr ≤ maxRandomAddress) :
    addressByte addr .high <<< 16 ||| addressByte addr .medium <<< 8 ||| addressByte addr .low =
      addr := by
  rw [join_bytes (addressByte_lt _) (addressByte_lt _), addressByte_high, addressByte_medium,
    addressByte_low]
  simp only [maxRandomAddress] at h
  omega

end Bytes

/-! ### The bus in the search -/

section Bus

variable {layer : Layer} {bus : FakeBus}

/-- A query does nothing to the bus. -/
@[simp] lemma receive_query {command : Command}
    (h : ∀ search (device : FakeDevice), device.receive search command = device)
    (hset : ∀ part value, command ≠ .search (.setSearchAddr part value))
    (hrandomise : command ≠ .randomise) : bus.receive command = bus := by
  unfold FakeBus.receive
  split
  · exact absurd rfl (hset _ _)
  · exact absurd rfl hrandomise
  · simp [h]

@[simp] lemma receive_compare : bus.receive (.search .compare) = bus :=
  receive_query (fun _ _ => rfl) (fun _ _ => by simp) (by simp)

@[simp] lemma receive_queryShortAddress : bus.receive (.search .queryShortAddress) = bus :=
  receive_query (fun _ _ => rfl) (fun _ _ => by simp) (by simp)

/-- The search address goes on the bus as far as it is not there. -/
lemma receiveAll_partCommands {current : AddressPart → Option ℕ} {addr : ℕ}
    (parts : List AddressPart) :
    bus.receiveAll ((parts.filterMap (partCommand current addr)).map .search) =
      { bus with
        searchAddr := fun part =>
          if part ∈ parts ∧ current part ≠ some (addressByte addr part) then
            some (addressByte addr part)
          else bus.searchAddr part } := by
  induction parts generalizing bus with
  | nil => simp [FakeBus.receiveAll]
  | cons part parts ih =>
    by_cases hsame : current part = some (addressByte addr part)
    · rw [List.filterMap_cons_none (by simp [partCommand, hsame]), ih]
      congr 1
      funext other
      by_cases heq : other = part
      · simp [heq, hsame]
      · simp [heq]
    · have hcommand : partCommand current addr part =
          some (.setSearchAddr part (addressByte addr part)) := by simp [partCommand, hsame]
      rw [List.filterMap_cons_some hcommand, List.map_cons]
      show FakeBus.receiveAll (bus.receive _) _ = _
      rw [ih]
      simp only [FakeBus.receive]
      congr 1
      funext other
      by_cases heq : other = part
      · simp [heq, hsame]
      · simp [heq]

end Bus

namespace World

variable {layer : Layer} {w : World} {addr : ℕ}

/-- The bus has the search address that the writer remembers. -/
def Truthful (w : World) : Prop :=
  ∀ part value, w.current part = some value → w.bus.searchAddr part = some value

/-- The world with the given search address. -/
def atAddr (w : World) (addr : ℕ) : World :=
  { w with
    bus := { w.bus with searchAddr := fun part => some (addressByte addr part) }
    current := fun part => some (addressByte addr part) }

lemma receiveAll_commands (h : w.Truthful) :
    w.bus.receiveAll ((commands w.current addr).map .search) = (w.atAddr addr).bus := by
  rw [commands, receiveAll_partCommands]
  simp only [atAddr]
  congr 1
  funext part
  have hmem : part ∈ [AddressPart.high, .medium, .low] := by cases part <;> decide
  by_cases hsame : w.current part = some (addressByte addr part)
  · simp [hsame, h part _ hsame]
  · simp [hmem, hsame]

lemma setSearchAddr_eq (h : w.Truthful) : w.setSearchAddr addr = w.atAddr addr := by
  rw [setSearchAddr, receiveAll_commands h, atAddr]

@[simp] lemma truthful_atAddr : (w.atAddr addr).Truthful := fun _ _ h => h

lemma search_atAddr (h : addr ≤ maxRandomAddress) : (w.atAddr addr).bus.search = some addr := by
  have hjoin := join_addressByte h
  simp only [atAddr, FakeBus.search, Option.bind_eq_bind, Option.bind_some, Option.pure_def, hjoin]

end World

/-! ### The devices by their random addresses -/

/-- Different random addresses, with the short addresses that they have in the beginning. -/
structure Roster where
  randoms : List ℕ
  before : ℕ → Option ℕ
  nodup : randoms.Nodup
  random_lt : ∀ random ∈ randoms, random < maxRandomAddress
  length_le : randoms.length ≤ maxShortAddress + 1
  before_le : ∀ random ∈ randoms, ∀ short, before random = some short → short ≤ maxShortAddress

/-- The bus has the devices of the roster, initialised, with the given short addresses. -/
structure Searching (roster : Roster) (short : ℕ → Option ℕ) (withdrawn : ℕ → Bool) (w : World) :
    Prop where
  truthful : w.Truthful
  devices : w.bus.devices =
    roster.randoms.map fun random => ⟨short random, random, true, withdrawn random⟩

namespace Searching

variable {layer : Layer} {roster : Roster} {short : ℕ → Option ℕ} {withdrawn : ℕ → Bool}
  {w : World} {addr new : ℕ}

lemma atAddr (h : Searching roster short withdrawn w) :
    Searching roster short withdrawn (w.atAddr addr) where
  truthful := World.truthful_atAddr
  devices := h.devices

/-- The device at the search address answers its short address. -/
lemma response_queryShortAddress (h : Searching roster short withdrawn w)
    (hsearch : w.bus.search = some addr) :
    w.response layer (.search .queryShortAddress) =
      if addr ∈
        roster.randoms then .answer (layer.shortAddressByte (short addr)) else .silence := by
  rw [World.response, FakeBus.response, hsearch, h.devices, List.filterMap_map]
  have hanswer : ((fun device : FakeDevice => device.answer layer (some addr)
        (.search .queryShortAddress)) ∘
      fun random => ⟨short random, random, true, withdrawn random⟩) =
      fun random =>
        if addr = random then some (layer.shortAddressByte (short random)) else none := by
    funext random
    simp [FakeDevice.answer, FakeDevice.isSelected]
  rw [hanswer, filterMap_ite_eq roster.nodup]
  split <;> rfl

/-- The device at the search address leaves the search. -/
lemma withdraw (h : Searching roster short withdrawn w) (hsearch : w.bus.search = some addr) :
    Searching roster short (Function.update withdrawn addr true) (w.send (.search .withdraw)) where
  truthful := h.truthful
  devices := by
    simp only [World.send, FakeBus.receive, h.devices, hsearch, List.map_map]
    apply List.map_congr_left
    intro random _
    by_cases heq : addr = random
    · simp [FakeDevice.receive, FakeDevice.isSelected, heq]
    · simp [FakeDevice.receive, FakeDevice.isSelected, heq, Function.update_of_ne (Ne.symm heq)]

/-- The device at the search address gets a short address. -/
lemma program (h : Searching roster short withdrawn w) (hsearch : w.bus.search = some addr)
    (hnew : new ≤ maxShortAddress) :
    Searching roster (Function.update short addr (some new)) withdrawn
      (w.send (.programShortAddress new)) where
  truthful := h.truthful
  devices := by
    have hmask : new ≠ mask := by
      simp only [maxShortAddress] at hnew
      simp only [mask]
      omega
    simp only [World.send, FakeBus.receive, h.devices, hsearch, List.map_map]
    apply List.map_congr_left
    intro random _
    by_cases heq : addr = random
    · simp [FakeDevice.receive, FakeDevice.isSelected, heq, hmask]
    · simp [FakeDevice.receive, FakeDevice.isSelected, heq, Function.update_of_ne (Ne.symm heq)]

/-- A device that has a short address confirms it. -/
lemma confirms (h : Searching roster short withdrawn w) (hmem : addr ∈ roster.randoms)
    (hshort : short addr = some new) : w.confirms layer new = true := by
  have hverify : (w.response layer (.verifyShortAddress new)).isAnswer = true := by
    rw [World.response, FakeBus.response, isAnswer_respond, ne_eq, List.filterMap_eq_nil_iff]
    intro hsilent
    have hdevice := hsilent ⟨short addr, addr, true, withdrawn addr⟩
      (h.devices ▸ List.mem_map_of_mem hmem)
    simp [FakeDevice.answer, hshort] at hdevice
  rw [World.confirms, hverify, Bool.true_or]

/-- COMPARE is answered by the devices up to the search address that are in the search still. -/
lemma compare_iff (h : Searching roster short withdrawn w) (haddr : addr ≤ maxRandomAddress) :
    (w.compare layer addr).1 = true ↔
      ∃ random ∈ roster.randoms, withdrawn random = false ∧ random ≤ addr := by
  simp only [World.compare, World.setSearchAddr_eq h.truthful, World.response, FakeBus.response,
    World.search_atAddr haddr, h.atAddr.devices, isAnswer_respond]
  rw [ne_eq, List.filterMap_eq_nil_iff]
  simp only [List.mem_map, forall_exists_index, and_imp, forall_apply_eq_imp_iff₂]
  simp [FakeDevice.answer, FakeDevice.isCompared]

lemma compare_snd (h : Searching roster short withdrawn w) :
    (w.compare layer addr).2 = w.atAddr addr := by
  simp only [World.compare, World.setSearchAddr_eq h.truthful, World.send, receive_compare]

end Searching

/-! ### The pool of short addresses -/

/-- A device with the random address was found. -/
def State.Found (state : State) (random : ℕ) : Prop :=
  ∃ short, state.foundDevices.get? short = some random

/-- A device has had the short address in the beginning. -/
def Roster.Held (roster : Roster) (short : ℕ) : Prop :=
  ∃ random ∈ roster.randoms, roster.before random = some short

/-- The pool agrees with the bus. -/
structure Pool (roster : Roster) (short : ℕ → Option ℕ) (state : State) : Prop where
  found : ∀ s random, state.foundDevices.get? s = some random →
    random ∈ roster.randoms ∧ short random = some s
  unfound : ∀ random ∈ roster.randoms, ¬state.Found random → short random = roster.before random
  nodup : state.availableAddresses.Nodup
  available : ∀ s, s ∈ state.availableAddresses ↔
    s ≤ maxShortAddress ∧ ¬roster.Held s ∧ state.foundDevices.get? s = none
  found_le : ∀ s random, state.foundDevices.get? s = some random → s ≤ maxShortAddress
  /-- Nobody gets a short address that the poll has heard. -/
  kept : ∀ s random, state.foundDevices.get? s = some random → roster.Held s →
    roster.before random = some s
  /-- A device lost its short address only to another one. -/
  lost : ∀ s random old, state.foundDevices.get? s = some random →
    roster.before random = some old → ∃ other, state.foundDevices.get? old = some other

section Pool

variable {layer : Layer} {roster : Roster} {short : ℕ → Option ℕ} {state : State} {random s : ℕ}

/-- A device that has to get a short address finds one: every other short address is taken by
another device. -/
lemma Pool.available_ne_nil (h : Pool roster short state) (hmem : random ∈ roster.randoms)
    (hnew : ¬state.Found random)
    (htaken : ∀ old, roster.before random = some old →
      ∃ other, state.foundDevices.get? old = some other) :
    state.availableAddresses ≠ [] := by
  intro hnil
  have hholder (s : ℕ) (hs : s ∈ Finset.range (maxShortAddress + 1)) :
      ∃ holder ∈ roster.randoms.toFinset.erase random,
        state.foundDevices.get? s = some holder ∨
          state.foundDevices.get? s = none ∧ roster.before holder = some s := by
    cases hfound : state.foundDevices.get? s with
    | some holder =>
      refine ⟨holder, ?_, .inl rfl⟩
      rw [Finset.mem_erase, List.mem_toFinset]
      refine ⟨?_, (h.found s holder hfound).1⟩
      rintro rfl
      exact hnew ⟨s, hfound⟩
    | none =>
      -- nothing is available, so that the poll has heard the address
      have hheld : roster.Held s := by
        by_contra hheld
        have havailable := (h.available s).2 ⟨Finset.mem_range_succ_iff.1 hs, hheld, hfound⟩
        rw [hnil] at havailable
        cases havailable
      obtain ⟨holder, hholder, hbefore⟩ := hheld
      refine ⟨holder, ?_, .inr ⟨rfl, hbefore⟩⟩
      rw [Finset.mem_erase, List.mem_toFinset]
      refine ⟨?_, hholder⟩
      rintro rfl
      obtain ⟨other, hother⟩ := htaken s hbefore
      rw [hfound] at hother
      cases hother
  choose! holder hholder using hholder
  have hinj : Set.InjOn holder (Finset.range (maxShortAddress + 1)) := by
    intro s hs s' hs' heq
    have hs := (hholder s hs).2
    have hs' := (hholder s' hs').2
    rw [← heq] at hs'
    rcases hs with hfound | ⟨hnone, hbefore⟩
    · rcases hs' with hfound' | ⟨hnone', hbefore'⟩
      · have hshort := (h.found s _ hfound).2
        rw [(h.found s' _ hfound').2] at hshort
        exact (Option.some.inj hshort).symm
      · obtain ⟨other, hother⟩ := h.lost s _ s' hfound hbefore'
        rw [hnone'] at hother
        cases hother
    · rcases hs' with hfound' | ⟨hnone', hbefore'⟩
      · obtain ⟨other, hother⟩ := h.lost s' _ s hfound' hbefore
        rw [hnone] at hother
        cases hother
      · exact Option.some.inj (hbefore.symm.trans hbefore')
  have hcard := Finset.card_le_card_of_injOn holder (fun s hs => (hholder s hs).1) hinj
  rw [Finset.card_range, Finset.card_erase_of_mem (List.mem_toFinset.2 hmem),
    List.toFinset_card_of_nodup roster.nodup] at hcard
  have hlength := roster.length_le
  have hpos := List.length_pos_of_mem hmem
  omega

/-- An address is taken off the pool, and no other one. -/
lemma exists_pickNewShortAddress (device : FoundDevice) (hnodup : state.availableAddresses.Nodup)
    (hne : state.availableAddresses ≠ []) :
    ∃ s rest, state.pickNewShortAddress device = some (s, rest) ∧ s ∈ state.availableAddresses ∧
      rest.Nodup ∧ ∀ other, other ∈ rest ↔ other ∈ state.availableAddresses ∧ other ≠ s := by
  cases havailable : state.availableAddresses with
  | nil => exact absurd havailable hne
  | cons first others =>
    rw [havailable] at hnodup
    simp only [State.pickNewShortAddress, havailable]
    split
    · next old hold =>
      have hmatches := List.find?_some hold
      simp only [Bool.and_eq_true, decide_eq_true_eq] at hmatches
      refine ⟨_, _, rfl, hmatches.2, hnodup.erase _, fun other => ?_⟩
      rw [hnodup.mem_erase_iff]
      exact and_comm
    · refine ⟨first, others, rfl, List.mem_cons_self, (List.nodup_cons.1 hnodup).2, fun other => ?_⟩
      have hfirst := (List.nodup_cons.1 hnodup).1
      rw [List.mem_cons]
      constructor
      · intro hother
        refine ⟨.inr hother, ?_⟩
        rintro rfl
        exact hfirst hother
      · rintro ⟨rfl | hother, hne⟩
        · exact absurd rfl hne
        · exact hother

lemma found_set (hnone : state.foundDevices.get? s = none) {other : ℕ} :
    (∃ s', (state.foundDevices.set s random).get? s' = some other) ↔
      other = random ∨ state.Found other := by
  constructor
  · rintro ⟨s', hs'⟩
    rw [Dict.get?_set] at hs'
    split at hs'
    · exact .inl (Option.some.inj hs').symm
    · exact .inr ⟨s', hs'⟩
  · rintro (rfl | ⟨s', hs'⟩)
    · exact ⟨s, Dict.get?_set_self _ _ _⟩
    · refine ⟨s', ?_⟩
      rw [Dict.get?_set_of_ne _ _ ?_]
      · exact hs'
      · rintro rfl
        rw [hnone] at hs'
        cases hs'

/-- A device that is found gets a short address, or keeps its own. -/
lemma Pool.add (h : Pool roster short state) (hmem : random ∈ roster.randoms)
    (hnew : ¬state.Found random) (hnone : state.foundDevices.get? s = none)
    (hle : s ≤ maxShortAddress) {rest : List ℕ} (hnodup : rest.Nodup)
    (hrest : ∀ other, other ∈ rest ↔ other ∈ state.availableAddresses ∧ other ≠ s)
    (hheld : roster.Held s → roster.before random = some s)
    (htaken : ∀ old, roster.before random = some old →
      old = s ∨ ∃ other, state.foundDevices.get? old = some other) :
    Pool roster (Function.update short random (some s))
      { state with
        availableAddresses := rest
        foundDevices := state.foundDevices.set s random } where
  found s' other h' := by
    simp only [Dict.get?_set] at h'
    split at h'
    case isTrue heq =>
      cases Option.some.inj h'
      exact ⟨hmem, by rw [Function.update_self, heq]⟩
    case isFalse =>
      have hne : other ≠ random := by
        rintro rfl
        exact hnew ⟨s', h'⟩
      rw [Function.update_of_ne hne]
      exact h.found s' other h'
  unfound other hother hunfound := by
    have hne : other ≠ random := by
      rintro rfl
      exact hunfound ((found_set hnone).2 (.inl rfl))
    rw [Function.update_of_ne hne]
    exact h.unfound other hother fun hfound => hunfound ((found_set hnone).2 (.inr hfound))
  nodup := hnodup
  available s' := by
    simp only [hrest, h.available, Dict.get?_set]
    by_cases heq : s' = s
    · simp [heq]
    · simp [heq]
  found_le s' other h' := by
    simp only [Dict.get?_set] at h'
    split at h'
    case isTrue heq => exact heq ▸ hle
    case isFalse => exact h.found_le s' other h'
  kept s' other h' hheld' := by
    simp only [Dict.get?_set] at h'
    split at h'
    case isTrue heq =>
      cases Option.some.inj h'
      subst heq
      exact hheld hheld'
    case isFalse => exact h.kept s' other h' hheld'
  lost s' other old h' hold := by
    simp only [Dict.get?_set] at h' ⊢
    split
    case isTrue => exact ⟨_, rfl⟩
    case isFalse hne =>
      split at h'
      case isTrue =>
        cases Option.some.inj h'
        exact (htaken old hold).resolve_left hne
      case isFalse => exact h.lost s' other old h' hold

end Pool

/-! ### A device that is found -/

lemma queryShortAddressResponseValue_shortAddressByte (layer : Layer) {short : Option ℕ}
    (h : ∀ s, short = some s → s ≤ maxShortAddress) :
    layer.queryShortAddressResponseValue (layer.shortAddressByte short) = short.getD mask := by
  cases short with
  | none => cases layer <;> rfl
  | some s =>
    have hle := h s rfl
    simp only [maxShortAddress] at hle
    cases layer with
    | gear =>
      have hbyte : s <<< 1 ||| 1 = 2 * s + 1 := by
        rw [Nat.shiftLeft_eq, pow_one, mul_comm]
        exact (Nat.two_pow_add_eq_or_of_lt (i := 1) (by norm_num : 1 < 2 ^ 1) s).symm
      have hval : ((Fin.ofNat 256 (s <<< 1 ||| 1) : Fin 256) : ℕ) = 2 * s + 1 := by
        rw [hbyte, Fin.val_ofNat]
        omega
      have hne : (Fin.ofNat 256 (s <<< 1 ||| 1) : Fin 256) ≠ 255 := by
        intro heq
        have hval' := congrArg Fin.val heq
        have hlast : ((255 : Fin 256) : ℕ) = 255 := rfl
        rw [hval, hlast] at hval'
        omega
      simp only [Layer.queryShortAddressResponseValue, queryShortAddressResponseValue,
        Layer.shortAddressByte, if_neg hne, hval, Option.getD_some]
      omega
    | controlDevice =>
      simp only [Layer.queryShortAddressResponseValue, Layer.shortAddressByte, Fin.val_ofNat,
        Option.getD_some]
      omega

/-- The bus is searched, and nothing has to be randomised. -/
structure Ongoing (roster : Roster) (short : ℕ → Option ℕ) (withdrawn : ℕ → Bool) (w : World) :
    Prop extends Searching roster short withdrawn w where
  pool : Pool roster short w.state
  conflicts : w.conflicts = []

section Process

variable {layer : Layer} {roster : Roster} {short : ℕ → Option ℕ} {withdrawn : ℕ → Bool}
  {w : World} {random : ℕ}

/-- What becomes of a device that is found: its short address is recorded, and nothing else
changes. -/
structure Settles (roster : Roster) (withdrawn : ℕ → Bool) (random : ℕ) (w w' : World) : Prop where
  ongoing : ∃ short, Ongoing roster short withdrawn w'
  found : ∀ other, w'.state.Found other ↔ other = random ∨ w.state.Found other

lemma Ongoing.atAddr (h : Ongoing roster short withdrawn w) {addr : ℕ} :
    Ongoing roster short withdrawn (w.atAddr addr) :=
  ⟨h.toSearching.atAddr, h.pool, h.conflicts⟩

/-- A device without a short address of its own gets one. -/
lemma Ongoing.assignAndAdd (h : Ongoing roster short withdrawn w) (hmem : random ∈ roster.randoms)
    (hnew : ¬w.state.Found random) (response : Response)
    (htaken : ∀ old, roster.before random = some old →
      ∃ other, w.state.foundDevices.get? old = some other) :
    ∃ w', (w.setSearchAddr random).assignAndAdd layer random response = some w' ∧
      Settles roster withdrawn random w w' := by
  obtain ⟨s, rest, hpick, havailable, hnodup, hrest⟩ :=
    exists_pickNewShortAddress (World.foundDevice random response false) h.pool.nodup
      (h.pool.available_ne_nil hmem hnew htaken)
  obtain ⟨hle, hfree, hnone⟩ := (h.pool.available s).1 havailable
  have hsearch : (w.atAddr random).bus.search = some random :=
    World.search_atAddr (roster.random_lt random hmem).le
  have hprogrammed := h.toSearching.atAddr.program hsearch hle
  have hpool := h.pool.add hmem hnew hnone hle hnodup hrest (fun hheld => absurd hheld hfree)
    fun old hold => .inr (htaken old hold)
  let after : World :=
    { w.atAddr random with state := { w.state with availableAddresses := rest } }
  have hafter : Searching roster (Function.update short random (some s)) withdrawn
      (after.send (.programShortAddress s)) := ⟨hprogrammed.truthful, hprogrammed.devices⟩
  have hconfirms : (after.send (.programShortAddress s)).confirms layer s = true :=
    hafter.confirms hmem (Function.update_self _ _ _)
  refine ⟨(after.send (.programShortAddress s)).addDevice s random, ?_, ?_⟩
  · rw [World.setSearchAddr_eq h.truthful, World.assignAndAdd]
    have hpick' : (w.atAddr random).state.pickNewShortAddress
        (World.foundDevice random response false) = some (s, rest) := hpick
    rw [hpick']
    exact if_pos hconfirms
  · refine ⟨⟨_, ⟨hafter.truthful, hafter.devices⟩, hpool, h.conflicts⟩, fun other => ?_⟩
    exact found_set hnone

/-- A device that is found by its answer gets a short address, or keeps its own. -/
lemma Ongoing.processFoundDevice (layer : Layer) (h : Ongoing roster short withdrawn w)
    (hmem : random ∈ roster.randoms) (hnew : ¬w.state.Found random) :
    ∃ w', w.processFoundDevice layer random
        (.answer (layer.shortAddressByte (roster.before random))) = some w' ∧
      Settles roster withdrawn random w w' := by
  have hne : random ≠ unsetRandomAddress := (roster.random_lt random hmem).ne
  have hvalue := queryShortAddressResponseValue_shortAddressByte layer
    (roster.before_le random hmem)
  simp only [World.processFoundDevice, hvalue]
  cases hbefore : roster.before random with
  | none =>
    rw [Option.getD_none, if_pos rfl, if_neg hne]
    apply h.assignAndAdd hmem hnew
    simp [hbefore]
  | some s =>
    have hle := roster.before_le random hmem s hbefore
    have hmask : s ≠ mask := by
      simp only [maxShortAddress] at hle
      simp only [mask]
      omega
    rw [Option.getD_some, if_neg hmask, if_neg (not_lt.2 hle), World.processReported]
    cases hfound : w.state.foundDevices.get? s with
    | some other =>
      have hother : other ≠ random := by
        rintro rfl
        exact hnew ⟨s, hfound⟩
      simp only [if_neg hne, if_neg hother]
      apply h.assignAndAdd hmem hnew
      rintro old hold
      rw [hbefore] at hold
      cases hold
      exact ⟨other, hfound⟩
    | none =>
      simp only [if_neg hne]
      -- the device keeps its short address, which was never available
      have hheld : roster.Held s := ⟨random, hmem, hbefore⟩
      have hshort : short random = some s := (h.pool.unfound random hmem hnew).trans hbefore
      have hpool := h.pool.add hmem hnew hfound hle h.pool.nodup
        (fun other => ⟨fun hother => ⟨hother, fun heq => ?_⟩, And.left⟩) (fun _ => hbefore)
        fun old hold => .inl (Option.some.inj (hold.symm.trans hbefore))
      · rw [← hshort, Function.update_eq_self] at hpool
        refine ⟨_, rfl, ⟨short, ⟨h.truthful, h.devices⟩, ?_, h.conflicts⟩,
          fun other => found_set hfound⟩
        exact hpool
      · subst heq
        exact ((h.pool.available other).1 hother).2.1 hheld

end Process

/-! ### The known random addresses -/

section Batch

variable {layer : Layer} {bus : FakeBus} {w : World} {addr : ℕ} {addrs : List ℕ}
  {frames frames' : List Frame}

lemma receiveAll_append {sent sent' : List Command} :
    bus.receiveAll (sent ++ sent') = (bus.receiveAll sent).receiveAll sent' :=
  List.foldl_append

lemma responses_append {sent sent' : List Command} :
    bus.responses layer (sent ++ sent') =
      bus.responses layer sent ++ (bus.receiveAll sent).responses layer sent' := by
  induction sent generalizing bus with
  | nil => rfl
  | cons command sent ih =>
    rw [List.cons_append, FakeBus.responses, ih, FakeBus.responses, List.cons_append]
    rfl

@[simp] lemma length_responses {sent : List Command} :
    (bus.responses layer sent).length = sent.length := by
  induction sent generalizing bus with
  | nil => rfl
  | cons command sent ih => simp [FakeBus.responses, ih]

lemma queryResponses_append {responses responses' : List Response}
    (h : frames.length = responses.length) :
    World.queryResponses (frames ++ frames') (responses ++ responses') =
      World.queryResponses frames responses ++ World.queryResponses frames' responses' := by
  simp only [World.queryResponses, List.zip_append h, List.filter_append, List.map_append]

lemma queryResponses_commands {current : AddressPart → Option ℕ} {responses : List Response} :
    World.queryResponses (commands current addr) responses = [] := by
  rw [World.queryResponses, List.map_eq_nil_iff, List.filter_eq_nil_iff]
  rintro ⟨frame, response⟩ hmem
  obtain ⟨part, -, hpart⟩ := List.mem_filterMap.1 (List.of_mem_zip hmem).1
  rw [partCommand] at hpart
  split at hpart
  · cases hpart
    simp
  · cases hpart

/-- The batch sets the search address, queries and withdraws the first device and goes on. -/
lemma queryAndWithdraw_cons (h : w.Truthful) :
    w.queryAndWithdraw layer (addr :: addrs) =
      ((((w.atAddr addr).send (.search .withdraw)).queryAndWithdraw layer addrs).1,
        (w.atAddr addr).response layer (.search .queryShortAddress) ::
          (((w.atAddr addr).send (.search .withdraw)).queryAndWithdraw layer addrs).2) := by
  have hsent : ([.queryShortAddress, .withdraw] : List Frame).map Command.search =
      [.search .queryShortAddress, .search .withdraw] := rfl
  have hafter : (w.atAddr addr).bus.receiveAll [.search .queryShortAddress, .search .withdraw] =
      ((w.atAddr addr).send (.search .withdraw)).bus := by
    simp [FakeBus.receiveAll, World.send]
  simp only [World.queryAndWithdraw, batchCommands, List.map_append, receiveAll_append,
    responses_append, World.receiveAll_commands h, hsent, hafter]
  rw [List.append_assoc, List.append_assoc, queryResponses_append (by simp),
    queryResponses_commands, List.nil_append, queryResponses_append (by simp)]
  rfl

variable {roster : Roster} {short : ℕ → Option ℕ} {withdrawn : ℕ → Bool}

/-- What a query at a random address is answered with. -/
def Roster.answer (roster : Roster) (layer : Layer) (short : ℕ → Option ℕ) (addr : ℕ) : Response :=
  if addr ∈ roster.randoms then .answer (layer.shortAddressByte (short addr)) else .silence

/-- The batch withdraws the devices at the given addresses and reads their short addresses. -/
lemma Searching.queryAndWithdraw (layer : Layer) (h : Searching roster short withdrawn w)
    (hle : ∀ addr ∈ addrs, addr ≤ maxRandomAddress) :
    Searching roster short (fun random => withdrawn random || decide (random ∈ addrs))
        (w.queryAndWithdraw layer addrs).1 ∧
      (w.queryAndWithdraw layer addrs).2 = addrs.map (roster.answer layer short) ∧
        (w.queryAndWithdraw layer addrs).1.state = w.state ∧
          (w.queryAndWithdraw layer addrs).1.conflicts = w.conflicts := by
  induction addrs generalizing w withdrawn with
  | nil =>
    refine ⟨⟨h.truthful, ?_⟩, rfl, rfl, rfl⟩
    simp [World.queryAndWithdraw, batchCommands, FakeBus.receiveAll, h.devices]
  | cons addr addrs ih =>
    have hsearch := World.search_atAddr (w := w) (hle addr List.mem_cons_self)
    obtain ⟨hnext, hresponses, -, -⟩ := ih (h.atAddr.withdraw hsearch) fun other hother =>
      hle other (List.mem_cons_of_mem _ hother)
    rw [queryAndWithdraw_cons h.truthful]
    refine ⟨⟨hnext.truthful, ?_⟩, ?_, rfl, rfl⟩
    · refine hnext.devices.trans (List.map_congr_left fun random _ => ?_)
      congr 1
      by_cases heq : random = addr
      · simp [heq]
      · simp [heq]
    · rw [hresponses, h.atAddr.response_queryShortAddress hsearch]
      rfl

/-- The devices of the batch are found. -/
lemma Ongoing.processAll (layer : Layer) (h : Ongoing roster short withdrawn w)
    (hnodup : addrs.Nodup)
    (hnew : ∀ addr ∈ addrs, ¬w.state.Found addr) :
    ∃ w', World.processAll layer (addrs.zip (addrs.map (roster.answer layer roster.before))) w =
        some w' ∧
      (∃ short, Ongoing roster short withdrawn w') ∧
        ∀ random, w'.state.Found random ↔
          random ∈ addrs ∧ random ∈ roster.randoms ∨ w.state.Found random := by
  induction addrs generalizing w short with
  | nil => exact ⟨w, rfl, ⟨short, h⟩, fun random => by simp⟩
  | cons addr addrs ih =>
    obtain ⟨haddr, hnodup⟩ := List.nodup_cons.1 hnodup
    rw [List.map_cons, List.zip_cons_cons, World.processAll]
    by_cases hmem : addr ∈ roster.randoms
    · obtain ⟨w', hw', ⟨short', h'⟩, hfound⟩ :=
        h.processFoundDevice layer hmem (hnew addr List.mem_cons_self)
      have hanswer : roster.answer layer roster.before addr =
          .answer (layer.shortAddressByte (roster.before addr)) := if_pos hmem
      rw [hanswer, hw', Option.bind_some]
      obtain ⟨w'', hw'', h'', hfound'⟩ := ih h' hnodup fun other hother => by
        rw [hfound, not_or]
        refine ⟨?_, hnew other (List.mem_cons_of_mem _ hother)⟩
        rintro rfl
        exact haddr hother
      refine ⟨w'', hw'', h'', fun random => ?_⟩
      rw [hfound', hfound, List.mem_cons]
      constructor
      · rintro (⟨hother, hrandom⟩ | rfl | hbefore)
        · exact .inl ⟨.inr hother, hrandom⟩
        · exact .inl ⟨.inl rfl, hmem⟩
        · exact .inr hbefore
      · rintro (⟨rfl | hother, hrandom⟩ | hbefore)
        · exact .inr (.inl rfl)
        · exact .inl ⟨hother, hrandom⟩
        · exact .inr (.inr hbefore)
    · -- nobody is at the address
      have hanswer : roster.answer layer roster.before addr = .silence := if_neg hmem
      rw [hanswer]
      obtain ⟨w', hw', h', hfound⟩ := ih h hnodup fun other hother =>
        hnew other (List.mem_cons_of_mem _ hother)
      refine ⟨w', hw', h', fun random => ?_⟩
      rw [hfound, List.mem_cons]
      constructor
      · rintro (⟨hother, hrandom⟩ | hbefore)
        · exact .inl ⟨.inr hother, hrandom⟩
        · exact .inr hbefore
      · rintro (⟨rfl | hother, hrandom⟩ | hbefore)
        · exact absurd hrandom hmem
        · exact .inl ⟨hother, hrandom⟩
        · exact .inr hbefore

/-- Behind the batch, exactly the devices that were found have left the search. -/
lemma Ongoing.withdrawKnown (layer : Layer) {known : List (ℕ × ℕ)}
    (h : Ongoing roster roster.before (fun _ => false) w) (hfresh : ∀ random, ¬w.state.Found random)
    (hnodup : (known.map Prod.snd).Nodup)
    (hle : ∀ addr ∈ known.map Prod.snd, addr ≤ maxRandomAddress) :
    ∃ w', w.withdrawKnown layer known = some w' ∧ ∃ short withdrawn,
      Ongoing roster short withdrawn w' ∧
        ∀ random ∈ roster.randoms, withdrawn random = true ↔ w'.state.Found random := by
  obtain ⟨hsearching, hresponses, hstate, hconflicts⟩ := h.toSearching.queryAndWithdraw layer hle
  have hongoing :
    Ongoing roster roster.before (fun random => false || decide (random ∈ known.map Prod.snd))
      (w.queryAndWithdraw layer (known.map Prod.snd)).1 :=
    ⟨hsearching, hstate ▸ h.pool, hconflicts.trans h.conflicts⟩
  obtain ⟨w', hw', ⟨short, h'⟩, hfound⟩ := hongoing.processAll layer hnodup
    fun addr _ => hstate ▸ hfresh addr
  refine ⟨w', ?_, short, _, h', fun random hmem => ?_⟩
  · rw [World.withdrawKnown, hresponses]
    exact hw'
  · rw [hfound, Bool.false_or, decide_eq_true_iff, hstate]
    constructor
    · intro hknown
      exact .inl ⟨hknown, hmem⟩
    · rintro (⟨hknown, -⟩ | hbefore)
      · exact hknown
      · exact absurd hbefore (hfresh random)

end Batch

/-! ### The binary search -/

section Pass

variable {layer : Layer} {roster : Roster} {short : ℕ → Option ℕ} {withdrawn : ℕ → Bool}
  {w : World} {loop : SearchLoop World}

/-- The devices that are in the search still. -/
def Roster.left (roster : Roster) (withdrawn : ℕ → Bool) : Finset ℕ :=
  roster.randoms.toFinset.filter fun random => withdrawn random = false

lemma mem_left {random : ℕ} :
    random ∈ roster.left withdrawn ↔ random ∈ roster.randoms ∧ withdrawn random = false := by
  rw [Roster.left, Finset.mem_filter, List.mem_toFinset]

lemma left_update {random : ℕ} :
    roster.left (Function.update withdrawn random true) = (roster.left withdrawn).erase random := by
  ext other
  rw [Finset.mem_erase, mem_left, mem_left]
  by_cases heq : other = random
  · simp [heq]
  · simp [heq]

lemma card_left_le : (roster.left withdrawn).card ≤ maxShortAddress + 1 := by
  refine (Finset.card_filter_le _ _).trans ?_
  rw [List.toFinset_card_of_nodup roster.nodup]
  exact roster.length_le

/-- COMPARE goes by the least address that is left. -/
lemma Ongoing.compare_eq (h : Ongoing roster short withdrawn w) {addr least : ℕ}
    (haddr : addr ≤ maxRandomAddress) (hmem : least ∈ roster.left withdrawn)
    (hleast : ∀ random ∈ roster.left withdrawn, least ≤ random) :
    (w.compare layer addr).1 = decide (least ≤ addr) := by
  rw [Bool.eq_iff_iff, h.compare_iff haddr, decide_eq_true_iff]
  constructor
  · rintro ⟨random, hrandom, hleft, hle⟩
    exact (hleast random (mem_left.2 ⟨hrandom, hleft⟩)).trans hle
  · intro hle
    obtain ⟨hrandom, hleft⟩ := mem_left.1 hmem
    exact ⟨least, hrandom, hleft, hle⟩

/-- Where the loop is: the devices that have left the search are those that were found, and none
below is left. -/
structure Passing (roster : Roster) (short : ℕ → Option ℕ) (withdrawn : ℕ → Bool)
    (loop : SearchLoop World) : Prop where
  ongoing : Ongoing roster short withdrawn loop.bus
  withdrawn_iff : ∀ random ∈ roster.randoms,
    withdrawn random = true ↔ loop.bus.state.Found random
  low_le : ∀ random ∈ roster.left withdrawn, loop.low ≤ random
  low_lt : loop.low < maxRandomAddress
  lastFound : ∀ random ∈ roster.left withdrawn, loop.lastFound ≠ some random

/-- Where a device is left, an iteration finds it. -/
lemma Passing.iterate (layer : Layer) (h : Passing roster short withdrawn loop)
    (hne : (roster.left withdrawn).Nonempty) :
    ∃ loop' short' random, loop.iterate (World.selector layer) (World.searchBody layer) =
        .running loop' ∧ random ∈ roster.left withdrawn ∧
      Passing roster short' (Function.update withdrawn random true) loop' := by
  have hmem := (roster.left withdrawn).min'_mem hne
  have hleast : ∀ random ∈ roster.left withdrawn, (roster.left withdrawn).min' hne ≤ random :=
    fun random hrandom => Finset.min'_le _ _ hrandom
  generalize (roster.left withdrawn).min' hne = least at hmem hleast
  obtain ⟨hrandom, hleft⟩ := mem_left.1 hmem
  have hlt := roster.random_lt least hrandom
  -- the search keeps the bus and what the run has found
  obtain ⟨t, ⟨ht, hstate⟩, hfind⟩ := SearchAddressSelector.findNextDevice_exact_of_compare
    (World.selector layer) (s := loop.bus)
    (I := fun t => Ongoing roster short withdrawn t ∧ t.state = loop.bus.state)
    (fun t addr ht haddr => by
      refine ⟨ht.1.compare_eq haddr hmem hleast, ?_⟩
      show Ongoing roster short withdrawn (t.compare layer addr).2 ∧
        (t.compare layer addr).2.state = _
      rw [ht.1.compare_snd]
      exact ⟨ht.1.atAddr, ht.2⟩)
    ⟨h.ongoing, rfl⟩ (h.low_le least hmem) hlt.le
  have hset : (World.selector layer).setSearchAddr t least = t.atAddr least :=
    World.setSearchAddr_eq ht.truthful
  have hsearch := World.search_atAddr (w := t) hlt.le
  have hunfound : ¬t.state.Found least := by
    rw [hstate, ← h.withdrawn_iff least hrandom, hleft]
    simp
  have hongoing : Ongoing roster short (Function.update withdrawn least true)
      ((t.atAddr least).send (.search .withdraw)) :=
    ⟨ht.toSearching.atAddr.withdraw hsearch, ht.pool, ht.conflicts⟩
  obtain ⟨w', hw', ⟨short', h'⟩, hfound⟩ :=
    hongoing.processFoundDevice layer hrandom hunfound
  have hresponse : (t.atAddr least).response layer (.search .queryShortAddress) =
      .answer (layer.shortAddressByte (roster.before least)) := by
    rw [ht.toSearching.atAddr.response_queryShortAddress hsearch, if_pos hrandom,
      ht.pool.unfound least hrandom hunfound]
  have hprocess : World.queryWithdrawAndProcess layer (t.atAddr least) least = some w' := by
    rw [World.queryWithdrawAndProcess, hresponse]
    exact hw'
  refine ⟨⟨least, some least, 0, w'⟩, short', least, ?_, hmem, ?_⟩
  · rw [SearchLoop.iterate, if_neg (not_le.2 h.low_lt), hfind, hset]
    simp only [if_neg (h.lastFound least hmem), SearchLoop.process, World.searchBody,
      smartExtendLoop, hprocess]
  · refine ⟨h', fun random hmem' => ?_, fun random hmem' => ?_, hlt, fun random hmem' => ?_⟩
    · show _ ↔ w'.state.Found random
      rw [hfound]
      show _ ↔ random = least ∨ t.state.Found random
      rw [hstate, ← h.withdrawn_iff random hmem']
      by_cases heq : random = least
      · simp [heq]
      · simp [heq]
    · rw [left_update] at hmem'
      exact hleast random (Finset.mem_of_mem_erase hmem')
    · rw [left_update] at hmem'
      intro heq
      exact Finset.ne_of_mem_erase hmem' (Option.some.inj heq).symm

/-- Where none is left, the loop ends. -/
lemma Passing.exit (layer : Layer) (h : Passing roster short withdrawn loop)
    (hempty : roster.left withdrawn = ∅) :
    loop.iterate (World.selector layer) (World.searchBody layer) = .left .over ∧
      Ongoing roster short withdrawn (World.atExit layer loop) ∧
        (World.atExit layer loop).state = loop.bus.state := by
  obtain ⟨t, ⟨ht, hstate⟩, hfind⟩ := SearchAddressSelector.findNextDevice_nothing_of_compare
    (World.selector layer) (s := loop.bus)
    (I := fun t => Ongoing roster short withdrawn t ∧ t.state = loop.bus.state)
    (fun t ht => by
      constructor
      · show (t.compare layer maxRandomAddress).1 = false
        rw [← Bool.not_eq_true, ht.1.compare_iff le_rfl]
        rintro ⟨random, hrandom, hleft, -⟩
        have hmem := mem_left.2 ⟨hrandom, hleft⟩
        rw [hempty] at hmem
        exact absurd hmem (Finset.notMem_empty _)
      · show Ongoing roster short withdrawn (t.compare layer maxRandomAddress).2 ∧
          (t.compare layer maxRandomAddress).2.state = _
        rw [ht.1.compare_snd]
        exact ⟨ht.1.atAddr, ht.2⟩)
    ⟨h.ongoing, rfl⟩
  refine ⟨?_, ?_⟩
  · rw [SearchLoop.iterate, if_neg (not_le.2 h.low_lt), hfind]
  · rw [World.atExit, if_neg (not_le.2 h.low_lt), hfind]
    exact ⟨ht, hstate⟩

/-- A pass finds all the devices. -/
lemma Passing.searchPass (layer : Layer) (h : Passing roster short withdrawn loop) {fuel : ℕ}
    (hfuel : (roster.left withdrawn).card < fuel) :
    ∃ w', World.searchPass layer fuel loop = some w' ∧ ∃ short withdrawn,
      Ongoing roster short withdrawn w' ∧ ∀ random ∈ roster.randoms, w'.state.Found random := by
  induction fuel generalizing loop short withdrawn with
  | zero => omega
  | succ fuel ih =>
    rw [World.searchPass]
    by_cases hempty : roster.left withdrawn = ∅
    · obtain ⟨hover, hongoing, hstate⟩ := h.exit layer hempty
      rw [hover]
      refine ⟨_, rfl, short, withdrawn, hongoing, fun random hmem => ?_⟩
      rw [hstate, ← h.withdrawn_iff random hmem]
      by_contra hleft
      have hmem' := mem_left.2 ⟨hmem, Bool.eq_false_iff.2 hleft⟩
      rw [hempty] at hmem'
      exact absurd hmem' (Finset.notMem_empty _)
    · obtain ⟨loop', short', random, hrunning, hmem, h'⟩ :=
        h.iterate layer (Finset.nonempty_iff_ne_empty.2 hempty)
      rw [hrunning]
      apply ih h'
      rw [left_update, Finset.card_erase_of_mem hmem]
      have hpos := Finset.card_pos.2 ⟨random, hmem⟩
      omega

end Pass

end WbMqttDali.Commissioning.SmartExtend
