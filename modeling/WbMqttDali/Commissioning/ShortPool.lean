import Mathlib
import WbMqttDali.Commissioning.InitialisationState
import WbMqttDali.Lib.Dict
import WbMqttDali.Lib.Literals
import WbMqttDali.Lib.Transition

/-!
# The short addresses that `smart_extend` hands out

The opening poll strikes the short addresses at which somebody answers from those that are
available.  A device is then found by its random address and keeps the short address that it
reports, or gets one that is available.  A device that the poll has missed keeps its short
address as well, but the address stays available, for the next device that has none.
-/

namespace WbMqttDali.Commissioning

namespace SmartExtend

/-- `UNSET_RANDOM_ADDRESS` -/
def unsetRandomAddress : ℕ := 0xFFFFFF

/-- The command layer of control gear, or of control devices. -/
inductive Layer where
  | gear
  | controlDevice
  deriving DecidableEq, Repr

/-- `QueryShortAddressResponseValue` of an answer. -/
def Layer.queryShortAddressResponseValue : Layer → Fin 256 → ℕ
  | .gear, byte => WbMqttDali.queryShortAddressResponseValue byte
  | .controlDevice, byte => byte

/-- The response to QUERY SHORT ADDRESS. -/
inductive Response where
  | silence
  | framingError
  | answer (byte : Fin 256)
  deriving DecidableEq, Repr

/-- A device of the search: where it is found, what it answers, and whether it confirms a short
address that is programmed into it. -/
structure FoundDevice where
  random : ℕ
  response : Response
  confirms : Bool
  deriving DecidableEq, Repr

/-- What the search keeps of the devices; maps lead from short to random addresses. -/
structure State where
  /-- from the configuration -/
  oldDevices : Dict ℕ ℕ
  foundDevices : Dict ℕ ℕ := ∅
  availableAddresses : List ℕ
  /-- the random addresses that were read after the poll -/
  polledShortToRand : Dict ℕ ℕ

/-! ### The poll -/

/-- The known random addresses behind the poll, the devices last that were randomised and read
again. -/
def polledRandomAddresses (present : List ℕ) (randoms newRandoms : List (Option ℕ)) :
    List (ℕ × ℕ) :=
  let known := knownRandomAddresses present randoms
  let sentRandomise := known.filter (isRandomised known)
  known.filter (fun device => !isRandomised known device) ++
    knownRandomAddresses (sentRandomise.map Prod.fst) newRandoms

/-- The state in front of the search. -/
def State.afterPoll (oldDevices : Dict ℕ ℕ) (present : List ℕ)
    (randoms newRandoms : List (Option ℕ)) :
    State where
  oldDevices
  availableAddresses := present.foldl List.erase (List.range (maxShortAddress + 1))
  polledShortToRand := (polledRandomAddresses present randoms newRandoms).foldl
    (fun polled device => polled.set device.1 device.2) ∅

/-! ### A device that is found -/

/-- What `_process_found_device` does on the way. -/
inductive Effect where
  /-- `_pick_new_short_address` returns the address. -/
  | handsOut (short : ℕ)
  | programShortAddress (short : ℕ)
  | addDevice (short random : ℕ)
  deriving DecidableEq, Repr

/-- What `_process_found_device` does and returns: the short addresses to be randomised, of which
there is at most one.  No state is left where it raises. -/
structure Processed where
  effects : List Effect
  conflicts : Option (Option ℕ) := none
  next : Option State

namespace State

variable (layer : Layer) (state : State) (device : FoundDevice)

/-- `_pick_new_short_address`: the address, and those that are available then. -/
def pickNewShortAddress : Option (ℕ × List ℕ) :=
  match state.availableAddresses with
  | [] => none
  | first :: rest =>
    let previous := state.oldDevices.entries.find? fun old =>
      old.2 = device.random && old.1 ∈ state.availableAddresses
    match previous with
    | some old => some (old.1, state.availableAddresses.erase old.1)
    | none => some (first, rest)

/-- `_poll_confirmed_config_short` -/
def pollConfirmedConfigShort : Option ℕ :=
  if device.random = unsetRandomAddress then none
  else
    let matchingShortAddrs := (state.oldDevices.entries.filter fun old =>
      old.2 = device.random && state.polledShortToRand.get? old.1 = some old.2).map Prod.fst
    if matchingShortAddrs.length = 1 then matchingShortAddrs.head? else none

/-- `_add_device` -/
def addDevice (short : ℕ) : State :=
  { state with foundDevices := state.foundDevices.set short device.random }

/-- `_assign_short_address` and `_add_device`. -/
def assignAndAdd : Processed :=
  match state.pickNewShortAddress device with
  | none => { effects := [], next := none }
  | some (short, availableAddresses) =>
    let state := { state with availableAddresses }
    if device.confirms then
      { effects := [.handsOut short, .programShortAddress short, .addDevice short device.random]
        next := some (state.addDevice device short) }
    else { effects := [.handsOut short, .programShortAddress short], next := none }

/-- The device loses its short address, and gets a random address with those that have none. -/
def markForReaddressing : Processed where
  effects := [.programShortAddress mask]
  conflicts := some none
  next := some state

/-- The branch of `_process_found_device` for a short address in the range. -/
def processReported (short : ℕ) : Processed :=
  match state.foundDevices.get? short with
  | some random =>
    if device.random = unsetRandomAddress then state.markForReaddressing
    else if random = device.random then { effects := [], next := some state }
    else state.assignAndAdd device
  | none =>
    if device.random = unsetRandomAddress then
      { effects := [], conflicts := some (some short), next := some state }
    else
      { effects := [.addDevice short device.random], next := some (state.addDevice device short) }

/-- `_process_found_device` -/
def processFoundDevice : Processed :=
  match device.response with
  | .silence => { effects := [], next := some state }
  | .framingError =>
    match state.pollConfirmedConfigShort device with
    | some trusted =>
      { effects := [.addDevice trusted device.random]
        conflicts := some none
        next := some (state.addDevice device trusted) }
    | none => state.markForReaddressing
  | .answer byte =>
    let short := layer.queryShortAddressResponseValue byte
    if short = mask then
      if device.random = unsetRandomAddress then
        { effects := [], conflicts := some none, next := some state }
      else state.assignAndAdd device
    else if maxShortAddress < short then state.markForReaddressing
    else state.processReported device short

end State

/-- The search behind the poll: devices are found one after the other, by known random addresses
and by the binary search. -/
def transition (layer : Layer) : Transition State FoundDevice where
  init state := ∃ oldDevices present randoms newRandoms,
    state = .afterPoll oldDevices present randoms newRandoms
  step state device := (state.processFoundDevice layer device).next

/-! ### What must not happen -/

/-- In a state, an effect does not touch the short address of another device that was found. -/
def Effect.IsSafe (state : State) : Effect → Prop
  | .handsOut short => short ∉ state.foundDevices.keys
  -- 255 takes the short address away
  | .programShortAddress short => short = mask ∨ short ∉ state.foundDevices.keys
  | .addDevice short random => ∀ found, state.foundDevices.get? short = some found → found = random

/-- A device that keeps the short address that it reports reports one that is not available any
more: the poll has heard it.  One that a conflict leaves its short address in the configuration
finds no other device there. -/
def StaysApart (layer : Layer) (state : State) (device : FoundDevice) : Prop :=
  match device.response with
  | .silence => True
  | .framingError => ∀ trusted, state.pollConfirmedConfigShort device = some trusted →
    ∀ found, state.foundDevices.get? trusted = some found → found = device.random
  | .answer byte =>
    let short := layer.queryShortAddressResponseValue byte
    short ≤ maxShortAddress → state.foundDevices.get? short = none →
      device.random ≠ unsetRandomAddress → short ∉ state.availableAddresses

/-! ### The invariant -/

/-- Nothing is available that a device has that was found or heard. -/
structure State.Inv (state : State) : Prop where
  nodup : state.availableAddresses.Nodup
  found : ∀ short ∈ state.availableAddresses, state.foundDevices.get? short = none
  polled : ∀ short ∈ state.availableAddresses, state.polledShortToRand.get? short = none

section Proof

variable {layer : Layer} {state state' : State} {device : FoundDevice} {short : ℕ}

lemma mem_present_of_known {present : List ℕ} {randoms : List (Option ℕ)} {known : ℕ × ℕ}
    (h : known ∈ knownRandomAddresses present randoms) : known.1 ∈ present := by
  obtain ⟨⟨short, random⟩, hzip, hknown⟩ := List.mem_filterMap.1 h
  obtain ⟨_, -, rfl⟩ := Option.map_eq_some_iff.1 hknown
  exact (List.of_mem_zip hzip).1

lemma mem_present_of_polled {present : List ℕ} {randoms newRandoms : List (Option ℕ)}
    {known : ℕ × ℕ} (h : known ∈ polledRandomAddresses present randoms newRandoms) :
    known.1 ∈ present := by
  rcases List.mem_append.1 h with hkept | hnew
  · exact mem_present_of_known (List.mem_filter.1 hkept).1
  · obtain ⟨sent, hsent, hshort⟩ := List.mem_map.1 (mem_present_of_known hnew)
    rw [← hshort]
    exact mem_present_of_known (List.mem_filter.1 hsent).1

lemma nodup_foldl_erase {available : List ℕ} (h : available.Nodup) (present : List ℕ) :
    (present.foldl List.erase available).Nodup := by
  induction present generalizing available with
  | nil => exact h
  | cons short present ih => exact ih (h.erase short)

lemma mem_foldl_erase {available : List ℕ} (h : available.Nodup) (present : List ℕ) :
    short ∈ present.foldl List.erase available ↔ short ∈ available ∧ short ∉ present := by
  induction present generalizing available with
  | nil => simp
  | cons struck present ih =>
    rw [List.foldl_cons, ih (h.erase struck), h.mem_erase_iff, List.mem_cons, not_or]
    tauto

lemma inv_afterPoll (oldDevices : Dict ℕ ℕ) (present : List ℕ)
    (randoms newRandoms : List (Option ℕ)) :
    (State.afterPoll oldDevices present randoms newRandoms).Inv where
  nodup := nodup_foldl_erase List.nodup_range present
  found _ _ := Dict.get?_empty _
  polled short hshort := by
    have hunheard := ((mem_foldl_erase List.nodup_range present).1 hshort).2
    have hnone : ((polledRandomAddresses present randoms newRandoms).reverse.find? fun known =>
        known.1 = short) = none := by
      refine List.find?_eq_none.2 fun known hknown heq => hunheard ?_
      rw [← of_decide_eq_true heq]
      exact mem_present_of_polled (List.mem_reverse.1 hknown)
    show ((polledRandomAddresses present randoms newRandoms).foldl
      (fun polled known => polled.set known.1 known.2) (∅ : Dict ℕ ℕ)).get? short = none
    rw [Dict.get?_foldl_set_last Prod.fst Prod.snd, hnone, Option.map_none, Option.none_or,
      Dict.get?_empty]

/-- An address is handed out that was available, and no longer is. -/
lemma mem_of_pickNewShortAddress {rest : List ℕ} (hnodup : state.availableAddresses.Nodup)
    (h : state.pickNewShortAddress device = some (short, rest)) :
    short ∈ state.availableAddresses ∧ rest.Nodup ∧
      ∀ other ∈ rest, other ∈ state.availableAddresses ∧ other ≠ short := by
  unfold State.pickNewShortAddress at h
  split at h
  case h_1 => cases h
  case h_2 first others havailable =>
    dsimp only at h
    split at h
    case h_1 old hold =>
      obtain ⟨rfl, rfl⟩ := Prod.mk.inj (Option.some.inj h)
      have hmatches := List.find?_some hold
      rw [Bool.and_eq_true_iff] at hmatches
      have hmem : old.1 ∈ state.availableAddresses := of_decide_eq_true hmatches.2
      refine ⟨hmem, hnodup.erase _, fun other hother => ?_⟩
      exact ((hnodup.mem_erase_iff).1 hother).symm
    case h_2 =>
      obtain ⟨rfl, rfl⟩ := Prod.mk.inj (Option.some.inj h)
      rw [havailable, List.nodup_cons] at hnodup
      rw [havailable]
      refine ⟨List.mem_cons_self, hnodup.2, fun other hother => ⟨List.mem_cons_of_mem _ hother, ?_⟩⟩
      rintro rfl
      exact hnodup.1 hother

lemma State.Inv.addDevice (hinv : state.Inv) (hshort : short ∉ state.availableAddresses) :
    (state.addDevice device short).Inv where
  nodup := hinv.nodup
  found other hother := by
    have hne : other ≠ short := by
      rintro rfl
      exact hshort hother
    exact (Dict.get?_set_of_ne _ _ hne).trans (hinv.found other hother)
  polled := hinv.polled

/-! ### One device -/

lemma State.Inv.assignAndAdd (hinv : state.Inv)
    (h : (state.assignAndAdd device).next = some state') : state'.Inv := by
  unfold State.assignAndAdd at h
  split at h
  case h_1 => cases h
  case h_2 short rest hpick =>
    obtain ⟨-, hnodup, hrest⟩ := mem_of_pickNewShortAddress hinv.nodup hpick
    dsimp only at h
    split at h
    case isTrue =>
      obtain rfl := Option.some.inj h
      refine State.Inv.addDevice ⟨hnodup, fun other hother => ?_, fun other hother => ?_⟩
        fun hshort => ?_
      · exact hinv.found other (hrest other hother).1
      · exact hinv.polled other (hrest other hother).1
      · exact (hrest short hshort).2 rfl
    case isFalse => cases h

lemma State.Inv.isSafe_assignAndAdd (hinv : state.Inv) :
    ∀ effect ∈ (state.assignAndAdd device).effects, effect.IsSafe state := by
  unfold State.assignAndAdd
  split
  case h_1 => exact fun effect heffect => absurd heffect List.not_mem_nil
  case h_2 short rest hpick =>
    have hfree := hinv.found short (mem_of_pickNewShortAddress hinv.nodup hpick).1
    have hkeys : short ∉ state.foundDevices.keys := Dict.get?_eq_none_iff.1 hfree
    have hadd : ∀ found, state.foundDevices.get? short = some found → found = device.random :=
      fun found hfound => nomatch hfree.symm.trans hfound
    dsimp only
    split
    · intro effect heffect
      rcases List.mem_cons.1 heffect with rfl | heffect
      · exact hkeys
      · rcases List.mem_cons.1 heffect with rfl | heffect
        · exact .inr hkeys
        · obtain rfl := List.mem_singleton.1 heffect
          exact hadd
    · intro effect heffect
      rcases List.mem_cons.1 heffect with rfl | heffect
      · exact hkeys
      · obtain rfl := List.mem_singleton.1 heffect
        exact .inr hkeys

lemma isSafe_markForReaddressing :
    ∀ effect ∈ state.markForReaddressing.effects, effect.IsSafe state := by
  intro effect heffect
  obtain rfl := List.mem_singleton.1 heffect
  exact .inl rfl

/-- A short address that was heard is not available. -/
lemma State.Inv.notMem_of_confirmed (hinv : state.Inv)
    (h : state.pollConfirmedConfigShort device = some short) :
    short ∉ state.availableAddresses := by
  unfold State.pollConfirmedConfigShort at h
  split at h
  case isTrue => cases h
  case isFalse =>
    dsimp only at h
    split at h
    case isTrue =>
      obtain ⟨old, hold, rfl⟩ := List.mem_map.1 (List.mem_of_mem_head? h)
      have hpolled := of_decide_eq_true (Bool.and_eq_true_iff.1 (List.mem_filter.1 hold).2).2
      intro havailable
      rw [hinv.polled _ havailable] at hpolled
      cases hpolled
    case isFalse => cases h

/-- What a device does to the state that stays apart from the others. -/
lemma State.Inv.processFoundDevice (hinv : state.Inv) (hok : StaysApart layer state device)
    (h : (state.processFoundDevice layer device).next = some state') : state'.Inv := by
  unfold State.processFoundDevice at h
  unfold StaysApart at hok
  cases hresponse : device.response with
  | silence =>
    rw [hresponse] at h
    exact Option.some.inj h ▸ hinv
  | framingError =>
    rw [hresponse] at h
    dsimp only at h
    split at h
    case h_1 trusted htrusted =>
      obtain rfl := Option.some.inj h
      exact hinv.addDevice (hinv.notMem_of_confirmed htrusted)
    case h_2 => exact Option.some.inj h ▸ hinv
  | answer byte =>
    rw [hresponse] at h hok
    dsimp only at h hok
    split at h
    case isTrue =>
      split at h
      case isTrue => exact Option.some.inj h ▸ hinv
      case isFalse => exact hinv.assignAndAdd h
    case isFalse =>
      split at h
      case isTrue => exact Option.some.inj h ▸ hinv
      case isFalse hrange =>
        unfold State.processReported at h
        split at h
        case h_1 =>
          split at h
          case isTrue => exact Option.some.inj h ▸ hinv
          case isFalse =>
            split at h
            case isTrue => exact Option.some.inj h ▸ hinv
            case isFalse => exact hinv.assignAndAdd h
        case h_2 hnew =>
          split at h
          case isTrue => exact Option.some.inj h ▸ hinv
          case isFalse hset =>
            obtain rfl := Option.some.inj h
            exact hinv.addDevice (hok (not_lt.1 hrange) hnew hset)

lemma State.Inv.isSafe_processFoundDevice (hinv : state.Inv)
    (hok : StaysApart layer state device) :
    ∀ effect ∈ (state.processFoundDevice layer device).effects, effect.IsSafe state := by
  have hnone : ∀ effect ∈ ([] : List Effect), effect.IsSafe state :=
    fun effect heffect => absurd heffect List.not_mem_nil
  unfold State.processFoundDevice
  unfold StaysApart at hok
  cases hresponse : device.response with
  | silence => exact hnone
  | framingError =>
    rw [hresponse] at hok
    dsimp only at hok ⊢
    split
    case h_1 trusted htrusted =>
      intro effect heffect
      obtain rfl := List.mem_singleton.1 heffect
      exact hok trusted htrusted
    case h_2 => exact isSafe_markForReaddressing
  | answer byte =>
    dsimp only
    split
    · split
      · exact hnone
      · exact hinv.isSafe_assignAndAdd
    · split
      · exact isSafe_markForReaddressing
      · unfold State.processReported
        split
        case h_1 =>
          split
          · exact isSafe_markForReaddressing
          · split
            · exact hnone
            · exact hinv.isSafe_assignAndAdd
        case h_2 hnew =>
          split
          · exact hnone
          · intro effect heffect
            obtain rfl := List.mem_singleton.1 heffect
            exact fun found hfound => nomatch hnew.symm.trans hfound

/-- In a run whose devices all stay apart nothing touches the short address of a device that was
found: it is not handed out, not programmed into another device, and its entry is not
overwritten. -/
theorem isSafe_of_reach (h : (transition layer).Reach (StaysApart layer) state)
    (hok : StaysApart layer state device) :
    ∀ effect ∈ (state.processFoundDevice layer device).effects, effect.IsSafe state := by
  have hinv : state.Inv := by
    refine h.invariant ?_ ?_
    · rintro _ ⟨oldDevices, present, randoms, newRandoms, rfl⟩
      exact inv_afterPoll oldDevices present randoms newRandoms
    · exact fun _ _ _ hinv hok hstep => hinv.processFoundDevice hok hstep
  exact hinv.isSafe_processFoundDevice hok

end Proof

/-! ### A device that the poll has missed -/

section Missed

/-- The gear at short address 0. -/
def addressedGear : FoundDevice := ⟨0x10, .answer 1, true⟩

/-- A gear without a short address. -/
def unaddressedGear : FoundDevice := ⟨0x20, .answer 255, true⟩

/-- The state after the poll, which has heard short address 0 or nothing. -/
def polled (present : List ℕ) (randoms : List (Option ℕ)) : State :=
  .afterPoll ∅ present randoms []

lemma init_polled (present : List ℕ) (randoms : List (Option ℕ)) :
    (transition .gear).init (polled present randoms) := ⟨_, _, _, _, rfl⟩

/-- The search has found the gear at short address 0. -/
def foundFirst (present : List ℕ) (randoms : List (Option ℕ)) : State :=
  (polled present randoms).addDevice addressedGear 0

/-- Where the poll has heard the first gear, the second gets another short address. -/
theorem isSafe_heard : Effect.IsSafe (foundFirst [0] [some 0x10]) (.handsOut 1) ∧
    Effect.IsSafe (foundFirst [0] [some 0x10]) (.programShortAddress 1) ∧
    Effect.IsSafe (foundFirst [0] [some 0x10]) (.addDevice 1 0x20) := by
  have hfirst : StaysApart .gear (polled [0] [some 0x10]) addressedGear := fun _ _ _ => by decide
  have hsecond : StaysApart .gear (foundFirst [0] [some 0x10]) unaddressedGear :=
    fun hrange => absurd hrange (by decide)
  have hreach := (Transition.Reach.init (init_polled [0] [some 0x10])).step hfirst rfl
  exact ⟨isSafe_of_reach hreach hsecond _ (by decide), isSafe_of_reach hreach hsecond _ (by decide),
    isSafe_of_reach hreach hsecond _ (by decide)⟩

/-- Where the poll has missed the first gear, the second gets its short address, and its entry. -/
theorem exists_not_isSafe : ∃ state device, (transition .gear).Reachable state ∧
    (state.processFoundDevice .gear device).effects =
      [.handsOut 0, .programShortAddress 0, .addDevice 0 0x20] ∧
    ∀ effect ∈ (state.processFoundDevice .gear device).effects, ¬effect.IsSafe state := by
  have hreach : (transition .gear).Reachable (foundFirst [] []) :=
    (Transition.Reach.init (init_polled _ _)).step (e := addressedGear) trivial rfl
  have heffects : ((foundFirst [] []).processFoundDevice .gear unaddressedGear).effects =
      [.handsOut 0, .programShortAddress 0, .addDevice 0 0x20] := by decide
  refine ⟨foundFirst [] [], unaddressedGear, hreach, heffects, fun effect heffect hsafe => ?_⟩
  rw [heffects] at heffect
  have hheld : (0 : ℕ) ∈ (foundFirst [] []).foundDevices.keys := by decide
  rcases List.mem_cons.1 heffect with rfl | heffect
  · exact hsafe hheld
  · rcases List.mem_cons.1 heffect with rfl | heffect
    · rcases hsafe with hmask | hnew
      · cases hmask
      · exact hnew hheld
    · obtain rfl := List.mem_singleton.1 heffect
      cases hsafe 0x10 (by decide)

end Missed

end SmartExtend

end WbMqttDali.Commissioning
