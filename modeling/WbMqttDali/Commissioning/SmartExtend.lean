import WbMqttDali.Commissioning.Classification
import WbMqttDali.Commissioning.FakeBus

/-!
# `smart_extend` on a bus

The whole run: the poll, the known random addresses, which are queried and withdrawn in one
batch, the binary search for the other devices, and the passes over what had to be randomised.
A response of this bus is the same where a command is sent again, and no transmission fails.
-/

namespace WbMqttDali.Commissioning.SmartExtend

open TakeOver (CommissioningResult)

/-- The bus, and what a run keeps. -/
structure World where
  bus : FakeBus
  /-- `search_address.current` -/
  current : AddressPart → Option ℕ := fun _ => none
  state : State
  /-- `shorts_with_random_address_conflicts` -/
  conflicts : List (Option ℕ) := []

/-- A byte of the random address at a short address, where a response is readable. -/
def readRandomByte (layer : Layer) (bus : FakeBus) (short : ℕ) (part : AddressPart) : Option ℕ :=
  match bus.response layer (.queryRandomAddress part short) with
  | .answer byte => some byte
  | _ => none

/-- `get_random_address` -/
def getRandomAddress (layer : Layer) (bus : FakeBus) (short : ℕ) : Option ℕ := do
  let high ← readRandomByte layer bus short .high
  let medium ← readRandomByte layer bus short .medium
  let low ← readRandomByte layer bus short .low
  return high <<< 16 ||| medium <<< 8 ||| low

/-- `_get_present_short_addresses` -/
def getPresentShortAddresses (layer : Layer) (bus : FakeBus) : List ℕ :=
  (List.range (maxShortAddress + 1)).filter fun short =>
    (bus.response layer (.queryPresent short)).isAnswer

namespace World

variable (layer : Layer) (w : World)

def send (command : Command) : World := { w with bus := w.bus.receive command }

def response (command : Command) : Response := w.bus.response layer command

/-! ### The search -/

/-- `set_search_addr` -/
def setSearchAddr (addr : ℕ) : World :=
  { w with
    bus := w.bus.receiveAll ((commands w.current addr).map .search)
    current := fun part => some (addressByte addr part) }

/-- `compare` -/
def compare (addr : ℕ) : Bool × World :=
  let w := w.setSearchAddr addr
  ((w.response layer (.search .compare)).isAnswer, w.send (.search .compare))

def selector : SearchAddressSelector World where
  setSearchAddr := setSearchAddr
  compare := compare layer

/-! ### A device that is found -/

/-- `_add_device` -/
def addDevice (short random : ℕ) : World :=
  { w with
    state := { w.state with foundDevices := w.state.foundDevices.set short random } }

def addConflict (short : Option ℕ) : World := { w with conflicts := w.conflicts.insert short }

/-- What the pool of short addresses sees of a device that is found. -/
def foundDevice (found : ℕ) (response : Response) (confirms : Bool) : FoundDevice where
  random := found
  response
  confirms

/-- `VERIFY SHORT ADDRESS`, or else `QUERY SHORT ADDRESS`, confirms the address. -/
def confirms (short : ℕ) : Bool :=
  (w.response layer (.verifyShortAddress short)).isAnswer ||
    match w.response layer (.search .queryShortAddress) with
    | .answer byte => layer.queryShortAddressResponseValue byte = short
    | _ => false

/-- `_assign_short_address` and `_add_device`; there is no result where it raises. -/
def assignAndAdd (found : ℕ) (response : Response) : Option World :=
  match w.state.pickNewShortAddress (foundDevice found response false) with
  | none => none
  | some (short, availableAddresses) =>
    let w := { w with state := { w.state with availableAddresses } }
    let w := w.send (.programShortAddress short)
    if w.confirms layer short then some (w.addDevice short found) else none

/-- The device loses its short address. -/
def markForReaddressing (found : ℕ) : World :=
  ((w.setSearchAddr found).send (.programShortAddress mask)).addConflict none

/-- The branch of `_process_found_device` for a short address in the range. -/
def processReported (found : ℕ) (response : Response) (short : ℕ) : Option World :=
  match w.state.foundDevices.get? short with
  | some random =>
    if found = unsetRandomAddress then some (w.markForReaddressing found)
    else if random = found then some (w.setSearchAddr found)
    else (w.setSearchAddr found).assignAndAdd layer found response
  | none =>
    if found = unsetRandomAddress then some (w.addConflict (some short))
    else some (w.addDevice short found)

/-- `_process_found_device` -/
def processFoundDevice (found : ℕ) (response : Response) : Option World :=
  match response with
  | .silence => some w
  | .framingError =>
    match w.state.pollConfirmedConfigShort (foundDevice found response false) with
    | some trusted => some ((w.addDevice trusted found).addConflict none)
    | none => some (w.markForReaddressing found)
  | .answer byte =>
    let short := layer.queryShortAddressResponseValue byte
    if short = mask then
      if found = unsetRandomAddress then some (w.addConflict none)
      else (w.setSearchAddr found).assignAndAdd layer found response
    else if maxShortAddress < short then some (w.markForReaddressing found)
    else w.processReported layer found response short

/-! ### The known random addresses -/

/-- The responses to the queries of a batch. -/
def queryResponses (frames : List Frame) (responses : List Response) : List Response :=
  ((frames.zip responses).filter fun sent => sent.1 = .queryShortAddress).map Prod.snd

/-- The batch over the known random addresses, with the responses to its queries. -/
def queryAndWithdraw (addrs : List ℕ) : World × List Response :=
  let frames := batchCommands w.current addrs
  ({ w with
      bus := w.bus.receiveAll (frames.map .search)
      current := (SearchCall.batch addrs).remembers w.current },
    queryResponses frames (w.bus.responses layer (frames.map .search)))

/-- The devices of the batch one after the other. -/
def processAll : List (ℕ × Response) → World → Option World
  | [], w => some w
  | (found, response) :: rest, w =>
    (w.processFoundDevice layer found response).bind (processAll rest)

def withdrawKnown (known : List (ℕ × ℕ)) : Option World :=
  let addrs := known.map Prod.snd
  let sent := w.queryAndWithdraw layer addrs
  processAll layer (addrs.zip sent.2) sent.1

/-! ### The passes -/

/-- What the loop does with a random address that it has found. -/
def queryWithdrawAndProcess (found : ℕ) : Option World :=
  (w.send (.search .withdraw)).processFoundDevice layer found
    (w.response layer (.search .queryShortAddress))

def searchBody : LoopBody World := smartExtendLoop (queryWithdrawAndProcess layer)

/-- The world where the loop has ended: the last search has found nothing. -/
def atExit (loop : SearchLoop World) : World :=
  if maxRandomAddress ≤ loop.low then loop.bus
  else ((selector layer).findNextDevice loop.bus loop.low).2

/-- A pass of the binary search, of at most the given number of iterations. -/
def searchPass : ℕ → SearchLoop World → Option World
  | 0, _ => none
  | fuel + 1, loop =>
    match loop.iterate (selector layer) (searchBody layer) with
    | .running loop => searchPass fuel loop
    | .left .over => some (atExit layer loop)
    | .left _ => none

/-- No pass takes more. -/
def passFuel : ℕ := 3 * (maxRandomAddress + 1) + 3

/-- `_randomise_by_short` for each of the conflicts. -/
def randomiseConflicts : World :=
  { w with
    bus := w.conflicts.foldl
      (fun bus short => bus.receiveAll [.terminate, .initialise short, .randomise]) w.bus
    conflicts := [] }

/-- The passes that are left. -/
def searchPasses : ℕ → World → Option World
  | 0, w => some w
  | left + 1, w =>
    match searchPass layer passFuel { bus := w } with
    | none => none
    | some w =>
      if w.conflicts = [] ∨ left = 0 then some w else searchPasses left w.randomiseConflicts

end World

/-! ### The run -/

/-- The known random addresses with those of the configuration that are not among them. -/
def addOldDevices (known : List (ℕ × ℕ)) (oldDevices : Dict ℕ ℕ) : List (ℕ × ℕ) :=
  oldDevices.entries.foldl
    (fun known old => if old.2 ∈ known.map Prod.snd then known else known ++ [old]) known

/-- The search, between the INITIALISE of all devices and the TERMINATE. -/
def search (layer : Layer) (known : List (ℕ × ℕ)) (w : World) : Option World :=
  (w.withdrawKnown layer (addOldDevices known w.state.oldDevices)).bind (World.searchPasses layer 3)

/-- `smart_extend`; there is no result where it raises. -/
def smartExtend (layer : Layer) (oldDevices : Dict ℕ ℕ) (bus : FakeBus) :
    Option (World × CommissioningResult) :=
  let present := getPresentShortAddresses layer bus
  let randoms := present.map (getRandomAddress layer bus)
  let known := knownRandomAddresses present randoms
  let sentRandomise := (known.filter (isRandomised known)).map Prod.fst
  let bus := sentRandomise.foldl
    (fun bus short => bus.receiveAll [.terminate, .initialise (some short), .randomise]) bus
  let newRandoms := sentRandomise.map (getRandomAddress layer bus)
  let w : World :=
    { bus := bus.receiveAll [.terminate, .initialise (some mask)]
      state := .afterPoll oldDevices present randoms newRandoms }
  (search layer (polledRandomAddresses present randoms newRandoms) w).map fun w =>
    (w.send .terminate, classify oldDevices w.state.foundDevices)

/-! ### The fuel of a pass -/

section Fuel

variable {layer : Layer} {w : World} {loop : SearchLoop World} {fuel fuel' : ℕ}

lemma searchPass_eq (hinv : loop.Inv) (hfuel : loop.remaining < fuel) (hle : fuel ≤ fuel') :
    World.searchPass layer fuel loop = World.searchPass layer fuel' loop := by
  induction fuel generalizing loop fuel' with
  | zero => omega
  | succ fuel ih =>
    obtain ⟨fuel', rfl⟩ : ∃ more, fuel' = more + 1 := ⟨fuel' - 1, by omega⟩
    simp only [World.searchPass]
    split
    case h_1 loop' hrunning =>
      have hless := SearchLoop.remaining_iterate hinv hrunning
      exact ih (hinv.iterate hrunning) (by omega) (by omega)
    case h_2 => rfl
    case h_3 => rfl

/-- A pass that has no result has raised: more fuel makes no difference to it, whatever the bus
answers. -/
theorem searchPass_fuel (hle : World.passFuel ≤ fuel) :
    World.searchPass layer World.passFuel { bus := w } =
      World.searchPass layer fuel { bus := w } := by
  refine searchPass_eq ⟨fun last hlast => ?_, Nat.zero_le _, Nat.succ_pos _⟩ ?_ hle
  · cases hlast
  · show 3 * (maxRandomAddress + 1 - 0) + 2 < World.passFuel
    decide

end Fuel

/-! ### The pool of a run -/

section Pool

variable {layer : Layer} {w w' : World} {found : ℕ} {response : Response}

/-- The device at the search address confirms the short address that it would get. -/
def World.confirmsPick (layer : Layer) (w : World) (found : ℕ) (response : Response) : Bool :=
  match w.state.pickNewShortAddress (World.foundDevice found response false) with
  | none => false
  | some (short, _) =>
    ((w.setSearchAddr found).send (.programShortAddress short)).confirms layer short

/-- The pool sees a device whose confirmation is that of the bus. -/
def World.seenDevice (layer : Layer) (w : World) (found : ℕ) (response : Response) : FoundDevice :=
  World.foundDevice found response (w.confirmsPick layer found response)

lemma state_assignAndAdd (layer : Layer) (w : World) (found : ℕ) (response : Response) :
    ((w.setSearchAddr found).assignAndAdd layer found response).map World.state =
      (w.state.assignAndAdd (w.seenDevice layer found response)).next := by
  have hsame : w.state.pickNewShortAddress (w.seenDevice layer found response) =
      w.state.pickNewShortAddress (World.foundDevice found response false) := rfl
  have hset : (w.setSearchAddr found).state = w.state := rfl
  rw [World.assignAndAdd, State.assignAndAdd, hsame, hset]
  cases hpick : w.state.pickNewShortAddress (World.foundDevice found response false) with
  | none => rfl
  | some picked =>
    obtain ⟨short, rest⟩ := picked
    have hconfirms : (w.seenDevice layer found response).confirms =
        ((w.setSearchAddr found).send (.programShortAddress short)).confirms layer short := by
      show w.confirmsPick layer found response = _
      rw [World.confirmsPick, hpick]
    simp only [hconfirms]
    by_cases hbus : ((w.setSearchAddr found).send (.programShortAddress short)).confirms layer short
    · rw [if_pos hbus]
      exact congrArg (Option.map World.state) (if_pos hbus)
    · rw [if_neg hbus]
      exact congrArg (Option.map World.state) (if_neg hbus)

/-- What becomes of the pool is what the search for short addresses says. -/
lemma state_processFoundDevice (layer : Layer) (w : World) (found : ℕ) (response : Response) :
    (w.processFoundDevice layer found response).map World.state =
      (w.state.processFoundDevice layer (w.seenDevice layer found response)).next := by
  have hassign := state_assignAndAdd layer w found response
  have hpoll : w.state.pollConfirmedConfigShort (World.foundDevice found response false) =
      w.state.pollConfirmedConfigShort (w.seenDevice layer found response) := rfl
  have hrandom : (w.seenDevice layer found response).random = found := rfl
  have hresponse : (w.seenDevice layer found response).response = response := rfl
  unfold World.processFoundDevice State.processFoundDevice
  generalize w.seenDevice layer found response = device at hassign hpoll hrandom hresponse
  rw [hresponse]
  cases response with
  | silence => rfl
  | framingError =>
    simp only [hpoll]
    cases w.state.pollConfirmedConfigShort device with
    | none => rfl
    | some trusted =>
      simp only [State.addDevice, hrandom]
      rfl
  | answer byte =>
    simp only [State.processReported, World.processReported, State.addDevice, hrandom]
    by_cases hmask : layer.queryShortAddressResponseValue byte = mask
    · rw [if_pos hmask, if_pos hmask]
      by_cases hunset : found = unsetRandomAddress
      · rw [if_pos hunset, if_pos hunset]
        rfl
      · rw [if_neg hunset, if_neg hunset]
        exact hassign
    · rw [if_neg hmask, if_neg hmask]
      by_cases hlarge : maxShortAddress < layer.queryShortAddressResponseValue byte
      · rw [if_pos hlarge, if_pos hlarge]
        rfl
      · rw [if_neg hlarge, if_neg hlarge]
        cases w.state.foundDevices.get? (layer.queryShortAddressResponseValue byte) with
        | none =>
          by_cases hunset : found = unsetRandomAddress
          · simp only [if_pos hunset]
            rfl
          · simp only [if_neg hunset]
            rfl
        | some random =>
          by_cases hunset : found = unsetRandomAddress
          · simp only [if_pos hunset]
            rfl
          · simp only [if_neg hunset]
            by_cases hsame : random = found
            · rw [if_pos hsame, if_pos hsame]
              rfl
            · rw [if_neg hsame, if_neg hsame]
              exact hassign

/-- The pool is in a state that the search for short addresses reaches. -/
def World.IsReached (layer : Layer) (w : World) : Prop := (transition layer).Reachable w.state

lemma World.IsReached.processFoundDevice (h : w.IsReached layer)
    (hprocess : w.processFoundDevice layer found response = some w') : w'.IsReached layer := by
  have hstate := state_processFoundDevice layer w found response
  rw [hprocess, Option.map_some] at hstate
  exact Transition.Reach.step h trivial hstate.symm

lemma World.IsReached.processAll {devices : List (ℕ × Response)} (h : w.IsReached layer)
    (hprocess : World.processAll layer devices w = some w') : w'.IsReached layer := by
  induction devices generalizing w with
  | nil => exact Option.some.inj hprocess ▸ h
  | cons device devices ih =>
    obtain ⟨found, response⟩ := device
    obtain ⟨next, hnext, hrest⟩ := Option.bind_eq_some_iff.1 hprocess
    exact ih (h.processFoundDevice hnext) hrest

lemma World.IsReached.findNextDevice (h : w.IsReached layer) (low : ℕ) :
    ((World.selector layer).findNextDevice w low).2.IsReached layer :=
  SearchAddressSelector.findNextDevice_keeps (fun _ _ h => h) (fun _ _ h => h) h low

/-- An iteration that goes on has processed the device that it has found, if it has found one. -/
lemma World.IsReached.iterate {loop loop' : SearchLoop World} (h : loop.bus.IsReached layer)
    (hrunning : loop.iterate (World.selector layer) (World.searchBody layer) = .running loop') :
    loop'.bus.IsReached layer := by
  have hsearched := h.findNextDevice loop.low
  have hprocess {loop loop' : SearchLoop World} {found : ℕ} (h : loop.bus.IsReached layer)
      (hrunning : loop.process (World.searchBody layer) found = .running loop') :
      loop'.bus.IsReached layer := by
    rw [SearchLoop.process] at hrunning
    split at hrunning
    · cases hrunning
    · next bus hbus =>
      cases hrunning
      exact World.IsReached.processFoundDevice (w := loop.bus.send (.search .withdraw)) h hbus
  rw [SearchLoop.iterate] at hrunning
  split at hrunning
  · cases hrunning
  · split at hrunning
    · cases hrunning
    · next bus hfind =>
      rw [hfind] at hsearched
      rw [← Status.running.inj (SearchLoop.fail_eq_running hrunning).2]
      exact hsearched
    · next found bus hfind =>
      rw [hfind] at hsearched
      split at hrunning
      · have hnext := (SearchLoop.fail_eq_running hrunning).2
        split at hnext
        · rw [← Status.running.inj hnext]
          exact hsearched
        · exact hprocess hsearched hnext
      · exact hprocess hsearched hrunning

lemma World.IsReached.searchPass {fuel : ℕ} (loop : SearchLoop World) (h : loop.bus.IsReached layer)
    (hpass : World.searchPass layer fuel loop = some w') : w'.IsReached layer := by
  induction fuel generalizing loop with
  | zero => cases hpass
  | succ fuel ih =>
    rw [World.searchPass] at hpass
    split at hpass
    case h_1 loop' hrunning => exact ih loop' (h.iterate hrunning) hpass
    case h_2 =>
      rw [← Option.some.inj hpass, World.atExit]
      split
      · exact h
      · exact h.findNextDevice loop.low
    case h_3 => cases hpass

lemma World.IsReached.searchPasses {left : ℕ} (h : w.IsReached layer)
    (hpasses : World.searchPasses layer left w = some w') : w'.IsReached layer := by
  induction left generalizing w with
  | zero => exact Option.some.inj hpasses ▸ h
  | succ left ih =>
    rw [World.searchPasses] at hpasses
    split at hpasses
    · cases hpasses
    · next searched hpass =>
      have hsearched := World.IsReached.searchPass { bus := w } h hpass
      split at hpasses
      · exact Option.some.inj hpasses ▸ hsearched
      · exact ih (w := searched.randomiseConflicts) hsearched hpasses

/-- What one device changes: nothing, an entry, or the pool and an entry. -/
lemma next_processFoundDevice {state state' : State} {device : FoundDevice}
    (h : (state.processFoundDevice layer device).next = some state') :
    state' = state ∨ (∃ short, state' = state.addDevice device short) ∨
      (state.assignAndAdd device).next = some state' := by
  have hsame (h : some state = some state') : state' = state ∨
      (∃ short, state' = state.addDevice device short) ∨
        (state.assignAndAdd device).next = some state' := .inl (Option.some.inj h).symm
  unfold State.processFoundDevice at h
  split at h
  · exact hsame h
  · split at h
    · exact .inr (.inl ⟨_, (Option.some.inj h).symm⟩)
    · exact hsame h
  · dsimp only at h
    split at h
    · split at h
      · exact hsame h
      · exact .inr (.inr h)
    · split at h
      · exact hsame h
      · unfold State.processReported at h
        split at h
        · split at h
          · exact hsame h
          · split at h
            · exact hsame h
            · exact .inr (.inr h)
        · split at h
          · exact hsame h
          · exact .inr (.inl ⟨_, (Option.some.inj h).symm⟩)

/-- Every address in the pool is there once, and the poll has heard no device at it. -/
structure State.PoolUnheard (state : State) : Prop where
  nodup : state.availableAddresses.Nodup
  polled : ∀ short ∈ state.availableAddresses, state.polledShortToRand.get? short = none

lemma State.PoolUnheard.of_reachable {state : State} (h : (transition layer).Reachable state) :
    state.PoolUnheard := by
  refine h.invariant ?_ ?_
  · rintro _ ⟨oldDevices, present, randoms, newRandoms, rfl⟩
    have hinv := inv_afterPoll oldDevices present randoms newRandoms
    exact ⟨hinv.nodup, hinv.polled⟩
  · intro state device state' hpool _ hstep
    rcases next_processFoundDevice hstep with rfl | ⟨short, rfl⟩ | hassign
    · exact hpool
    · exact ⟨hpool.nodup, hpool.polled⟩
    · unfold State.assignAndAdd at hassign
      split at hassign
      case h_1 => cases hassign
      case h_2 short rest hpick =>
        obtain ⟨-, hnodup, hrest⟩ := mem_of_pickNewShortAddress hpool.nodup hpick
        dsimp only at hassign
        split at hassign
        case isTrue =>
          obtain rfl := Option.some.inj hassign
          exact ⟨hnodup, fun other hother => hpool.polled other (hrest other hother).1⟩
        case isFalse => cases hassign

/-- On every bus of devices, also one with random addresses that are unset or shared, a run
leaves no address to be handed out that a device has whose random address the poll has read. -/
theorem poolUnheard_smartExtend {oldDevices : Dict ℕ ℕ} {bus : FakeBus}
    {result : CommissioningResult} (h : smartExtend layer oldDevices bus = some (w, result)) :
    w.state.PoolUnheard := by
  obtain ⟨searched, hsearch, heq⟩ := Option.map_eq_some_iff.1 h
  obtain ⟨rfl, -⟩ := Prod.mk.inj heq
  obtain ⟨withdrawn, hwithdrawn, hpasses⟩ := Option.bind_eq_some_iff.1 hsearch
  rw [World.withdrawKnown] at hwithdrawn
  have hreached : withdrawn.IsReached layer :=
    World.IsReached.processAll (.init ⟨_, _, _, _, rfl⟩) hwithdrawn
  have hsearched : searched.IsReached layer := hreached.searchPasses hpasses
  exact State.PoolUnheard.of_reachable hsearched

end Pool

end WbMqttDali.Commissioning.SmartExtend
