import Mathlib
import WbMqttDali.Commissioning.BinarySearch
import WbMqttDali.Constants
import WbMqttDali.Lib.Literals

/-!
# The short addresses of `address_bus`

The tool scans the short addresses, randomises the bus and finds the gear by ascending random
addresses.  Gear that reports a short address keeps it, other gear gets the lowest free one.
An address that is kept is struck from the free ones, but nobody looks whether it has been
given away or kept before.
-/

namespace WbMqttDali.Commissioning

namespace AddressBus

/-- What the tool needs of the bus.  A command that fails leaves none. -/
structure Bus (σ : Type*) extends SearchAddressSelector σ where
  /-- QUERY SHORT ADDRESS, with none for an error or silence -/
  queryShortAddress : σ → Option (Fin 256) × σ
  programShortAddress : σ → ℕ → Option σ
  /-- VERIFY SHORT ADDRESS -/
  verifyShortAddress : σ → ℕ → Option (Bool × σ)
  withdraw : σ → Option σ

/-- A gear of the list that `address_bus` returns, with what it has reported. -/
structure FoundGear where
  short : ℕ
  random : ℕ
  reported : Option ℕ
  deriving DecidableEq, Repr

/-- The bus, with the two lists of the tool. -/
structure State (σ : Type*) where
  bus : σ
  busGear : List FoundGear := []
  freeShorts : List ℕ

/-- `free_short_addresses`, for the answers of the scan. -/
def freeShortAddresses (present : ℕ → Bool) : List ℕ :=
  let taken := (List.range (maxShortAddress + 1)).filter present
  (List.range (maxShortAddress + 1)).filter (· ∉ taken)

section Tool

variable {σ : Type*} (bus : Bus σ)

/-- The search moves nothing but the bus. -/
def selector : SearchAddressSelector (State σ) where
  setSearchAddr state address := { state with bus := bus.setSearchAddr state.bus address }
  compare state address :=
    let (answered, next) := bus.compare state.bus address
    (answered, { state with bus := next })

/-- `read_short_address` -/
def readShortAddress (s : σ) : Option ℕ × σ :=
  let (answer, s) := bus.queryShortAddress s
  ((answer.map queryShortAddressResponseValue).filter (· ≤ maxShortAddress), s)

/-- `short_address_confirmed` -/
def shortAddressConfirmed (s : σ) (short : ℕ) : Option (Bool × σ) :=
  match bus.verifyShortAddress s short with
  | none => none
  | some (true, s) => some (true, s)
  | some (false, s) =>
    let (reported, s) := readShortAddress bus s
    some (reported = some short, s)

/-- `address_found_gear`, and its result appended to the list. -/
def addressFoundGear (state : State σ) (found : ℕ) : Option (State σ) :=
  match readShortAddress bus state.bus with
  | (some short, s) =>
    some
      { bus := s
        busGear := state.busGear ++ [⟨short, found, some short⟩]
        freeShorts := state.freeShorts.erase short }
  | (none, s) =>
    match state.freeShorts with
    | [] => none
    | newShort :: freeShorts => do
      let s ← bus.programShortAddress s newShort
      let (confirmed, s) ← shortAddressConfirmed bus s newShort
      if confirmed then
        some { bus := s, busGear := state.busGear ++ [⟨newShort, found, none⟩], freeShorts }
      else none

/-- What the loop of `address_bus` does with a gear. -/
def processGear (state : State σ) (found : ℕ) : Option (State σ) := do
  let state ← addressFoundGear bus state found
  let s ← bus.withdraw state.bus
  some { state with bus := s }

/-- The loop of `address_bus` after the given number of iterations. -/
def run (start : State σ) (n : ℕ) : Status (State σ) :=
  SearchLoop.run (selector bus) (addressBusLoop (processGear bus)) start n

/-- The list that `address_bus` returns if the loop is over after the given number of iterations. -/
def returnedAfter (start : State σ) (n : ℕ) : Option (List FoundGear) :=
  match run bus start n with
  | .left _ => none
  | .running loop =>
    match loop.iterate (selector bus) (addressBusLoop (processGear bus)) with
    | .left .over => some loop.bus.busGear
    | _ => none

/-- The next iteration finds a gear, which reports a short address. -/
structure Reports (loop : SearchLoop (State σ)) (found short : ℕ) : Prop where
  low_lt : loop.low < maxRandomAddress
  finds : ((selector bus).findNextDevice loop.bus loop.low).1 = .address found
  isNew : loop.lastFound ≠ some found
  reads : (readShortAddress bus ((selector bus).findNextDevice loop.bus loop.low).2.bus).1 =
    some short

/-- A gear that reports a short address reports one that no gear before it has reported or got. -/
def ReportsNew (start : State σ) : Prop :=
  ∀ n loop found short, run bus start n = .running loop → Reports bus loop found short →
    ∀ gear ∈ loop.bus.busGear, gear.short ≠ short

end Tool

/-! ### What the list promises -/

/-- One entry for each gear, no short address twice, and none programmed into one gear that
another reports. -/
structure IsDistinct (busGear : List FoundGear) : Prop where
  randoms : (busGear.map (·.random)).Nodup
  shorts : (busGear.map (·.short)).Nodup
  programmed : ∀ gear ∈ busGear, gear.reported = none → ∀ other ∈ busGear,
    other.random ≠ gear.random → other.reported ≠ some gear.short

/-! ### The invariant of the loop -/

/-- No gear of the list has a free short address, and none got the one of a gear before it. -/
structure Inv (gear : List FoundGear) (freeShorts : List ℕ) : Prop where
  nodup : freeShorts.Nodup
  notMem : ∀ entry ∈ gear, entry.short ∉ freeShorts
  reported : ∀ entry ∈ gear, ∀ short, entry.reported = some short → entry.short = short
  given : gear.Pairwise fun before entry => entry.reported = none → before.short ≠ entry.short

section Proof

variable {σ : Type*} {bus : Bus σ} {state state' : State σ} {found : ℕ}

lemma nodup_freeShortAddresses (present : ℕ → Bool) : (freeShortAddresses present).Nodup :=
  List.nodup_range.filter _

/-- A gear that keeps its short address. -/
lemma Inv.keep {gear : List FoundGear} {freeShorts : List ℕ} (hinv : Inv gear freeShorts)
    (short : ℕ) : Inv (gear ++ [⟨short, found, some short⟩]) (freeShorts.erase short) where
  nodup := hinv.nodup.erase short
  notMem entry hentry := by
    rw [hinv.nodup.mem_erase_iff, not_and_or, not_not]
    rcases List.mem_append.1 hentry with hbefore | hlast
    · exact .inr (hinv.notMem entry hbefore)
    · obtain rfl := List.mem_singleton.1 hlast
      exact .inl rfl
  reported entry hentry := by
    rcases List.mem_append.1 hentry with hbefore | hlast
    · exact hinv.reported entry hbefore
    · obtain rfl := List.mem_singleton.1 hlast
      exact fun _ hshort => Option.some.inj hshort
  given := by
    refine List.pairwise_append.2 ⟨hinv.given, List.pairwise_singleton _ _, ?_⟩
    intro before _ entry hentry hnone
    obtain rfl := List.mem_singleton.1 hentry
    cases hnone

/-- A gear that gets the first free short address. -/
lemma Inv.give {gear : List FoundGear} {short : ℕ} {freeShorts : List ℕ}
    (hinv : Inv gear (short :: freeShorts)) : Inv (gear ++ [⟨short, found, none⟩]) freeShorts where
  nodup := (List.nodup_cons.1 hinv.nodup).2
  notMem entry hentry := by
    rcases List.mem_append.1 hentry with hbefore | hlast
    · exact fun hfree => hinv.notMem entry hbefore (List.mem_cons_of_mem _ hfree)
    · obtain rfl := List.mem_singleton.1 hlast
      exact (List.nodup_cons.1 hinv.nodup).1
  reported entry hentry := by
    rcases List.mem_append.1 hentry with hbefore | hlast
    · exact hinv.reported entry hbefore
    · obtain rfl := List.mem_singleton.1 hlast
      exact fun _ hshort => nomatch hshort
  given := by
    refine List.pairwise_append.2 ⟨hinv.given, List.pairwise_singleton _ _, ?_⟩
    intro before hbefore entry hentry _ heq
    obtain rfl := List.mem_singleton.1 hentry
    exact hinv.notMem before hbefore (heq ▸ List.mem_cons_self)

/-- A gear is appended to the list under the address where it was found. -/
lemma processGear_cases (h : processGear bus state found = some state') :
    ∃ short, state'.busGear =
        state.busGear ++ [⟨short, found, (readShortAddress bus state.bus).1⟩] ∧
      (Inv state.busGear state.freeShorts → Inv state'.busGear state'.freeShorts) := by
  obtain ⟨addressed, haddressed, h⟩ := Option.bind_eq_some_iff.1 h
  obtain ⟨s, -, h⟩ := Option.bind_eq_some_iff.1 h
  obtain rfl := Option.some.inj h
  unfold addressFoundGear at haddressed
  split at haddressed
  case h_1 short s hread =>
    obtain rfl := Option.some.inj haddressed
    rw [hread]
    exact ⟨short, rfl, fun hinv => hinv.keep short⟩
  case h_2 s hread =>
    split at haddressed
    case h_1 => cases haddressed
    case h_2 newShort freeShorts hfree =>
      obtain ⟨s, -, haddressed⟩ := Option.bind_eq_some_iff.1 haddressed
      obtain ⟨⟨confirmed, s⟩, -, haddressed⟩ := Option.bind_eq_some_iff.1 haddressed
      dsimp only at haddressed
      split at haddressed
      case isTrue =>
        obtain rfl := Option.some.inj haddressed
        rw [hread]
        refine ⟨newShort, rfl, fun hinv => ?_⟩
        rw [hfree] at hinv
        exact hinv.give
      case isFalse => cases haddressed

/-! ### The loop -/

variable (bus) in
/-- The search leaves the lists alone. -/
lemma lists_findNextDevice (state : State σ) (low : ℕ) :
    ((selector bus).findNextDevice state low).2.busGear = state.busGear ∧
      ((selector bus).findNextDevice state low).2.freeShorts = state.freeShorts :=
  SearchAddressSelector.findNextDevice_keeps
    (P := fun s : State σ => s.busGear = state.busGear ∧ s.freeShorts = state.freeShorts)
    (fun _ _ h => h) (fun _ _ h => h) ⟨rfl, rfl⟩ low

/-- An iteration that does not end the loop leaves the lists alone, or processes a new gear. -/
lemma iterate_cases {loop loop' : SearchLoop (State σ)}
    (h : loop.iterate (selector bus) (addressBusLoop (processGear bus)) = .running loop') :
    (loop'.bus.busGear = loop.bus.busGear ∧ loop'.bus.freeShorts = loop.bus.freeShorts ∧
        loop'.lastFound = loop.lastFound ∧ loop'.low = loop.low) ∨
      ∃ found, loop.low < maxRandomAddress ∧ loop.lastFound ≠ some found ∧
        ((selector bus).findNextDevice loop.bus loop.low).1 = .address found ∧
        processGear bus ((selector bus).findNextDevice loop.bus loop.low).2 found = some loop'.bus ∧
        loop'.lastFound = some found ∧ loop'.low = found := by
  obtain ⟨hgear, hfree⟩ := lists_findNextDevice bus loop.bus loop.low
  unfold SearchLoop.iterate at h
  split at h
  case isTrue => cases h
  case isFalse hlow =>
    split at h
    case h_1 => cases h
    case h_2 s hfind =>
      rw [hfind] at hgear hfree
      obtain ⟨-, hnext⟩ := SearchLoop.fail_eq_running h
      rw [← Status.running.inj hnext]
      exact .inl ⟨hgear, hfree, rfl, rfl⟩
    case h_3 found s hfind =>
      split at h
      case isTrue hlast =>
        rw [hfind] at hgear hfree
        obtain ⟨-, hnext⟩ := SearchLoop.fail_eq_running h
        rw [← Status.running.inj hnext]
        exact .inl ⟨hgear, hfree, rfl, rfl⟩
      case isFalse hnew =>
        unfold SearchLoop.process at h
        split at h
        case h_1 => cases h
        case h_2 s' hprocess =>
          rw [← Status.running.inj h]
          refine .inr ⟨found, not_le.1 hlow, hnew, by rw [hfind], ?_, rfl, rfl⟩
          rw [hfind]
          exact hprocess

variable {start : State σ} {n : ℕ} {loop : SearchLoop (State σ)}

/-- A gear that reports a short address goes to the list with it, unless the iteration raises. -/
lemma iterate_of_reports {short : ℕ} (h : Reports bus loop found short) :
    loop.iterate (selector bus) (addressBusLoop (processGear bus)) = .left .raised ∨
      ∃ loop' kept,
        loop.iterate (selector bus) (addressBusLoop (processGear bus)) = .running loop' ∧
        loop'.bus.busGear = loop.bus.busGear ++ [⟨kept, found, some short⟩] := by
  obtain ⟨hgear, -⟩ := lists_findNextDevice bus loop.bus loop.low
  obtain ⟨hlow, hfind, hnew, hreads⟩ := h
  unfold SearchLoop.iterate
  rw [if_neg (not_le.2 hlow)]
  generalize (selector bus).findNextDevice loop.bus loop.low = search at hgear hfind hreads
  obtain ⟨find, s⟩ := search
  obtain rfl : find = .address found := hfind
  dsimp only at hgear hreads ⊢
  rw [if_neg hnew]
  cases hprocess : processGear bus s found with
  | none =>
    have hbody : (addressBusLoop (processGear bus)).process s found = none := hprocess
    exact .inl (by simp only [SearchLoop.process, hbody])
  | some state =>
    have hbody : (addressBusLoop (processGear bus)).process s found = some state := hprocess
    obtain ⟨kept, hlist, -⟩ := processGear_cases hprocess
    rw [hgear, hreads] at hlist
    refine .inr ⟨⟨found, some found, 0, state⟩, kept, ?_, hlist⟩
    simp only [SearchLoop.process, hbody]

lemma run_succ_cases {loop' : SearchLoop (State σ)} (h : run bus start (n + 1) = .running loop') :
    ∃ loop, run bus start n = .running loop ∧
      loop.iterate (selector bus) (addressBusLoop (processGear bus)) = .running loop' := by
  unfold run SearchLoop.run at h
  split at h
  case h_1 loop hloop => exact ⟨loop, hloop, h⟩
  case h_2 => cases h

/-- What the loop keeps, whatever the gear reports. -/
structure LoopInv (loop : SearchLoop (State σ)) : Prop where
  lists : Inv loop.bus.busGear loop.bus.freeShorts
  ascending : (loop.bus.busGear.map (·.random)).Pairwise (· < ·)
  le_last : ∀ gear ∈ loop.bus.busGear, ∃ last, loop.lastFound = some last ∧ gear.random ≤ last

lemma loopInv_run {s : σ} {freeShorts : List ℕ} (hfree : freeShorts.Nodup)
    (h : run bus ⟨s, [], freeShorts⟩ n = .running loop) : LoopInv loop := by
  induction n generalizing loop with
  | zero =>
    rw [← Status.running.inj h]
    exact ⟨⟨hfree, nofun, nofun, List.Pairwise.nil⟩, List.Pairwise.nil, nofun⟩
  | succ n ih =>
    obtain ⟨before, hbefore, hiterate⟩ := run_succ_cases h
    have hinv := ih hbefore
    have hsearch := SearchLoop.inv_run hbefore
    rcases iterate_cases hiterate with ⟨hgear, hfree, hlast, -⟩ |
      ⟨found, hlow, hnew, hfind, hprocess, hlast, -⟩
    · refine ⟨?_, ?_, ?_⟩
      · rw [hgear, hfree]
        exact hinv.lists
      · rw [hgear]
        exact hinv.ascending
      · rw [hgear, hlast]
        exact hinv.le_last
    · obtain ⟨hgear, hfree⟩ := lists_findNextDevice bus before.bus before.low
      obtain ⟨short, hlist, hlists⟩ := processGear_cases hprocess
      rw [hgear, hfree] at hlists
      rw [hgear] at hlist
      have hle := (SearchAddressSelector.le_of_findNextDevice hlow.le (Prod.ext hfind rfl)).1
      have hlt : ∀ gear ∈ before.bus.busGear, gear.random < found := by
        intro gear hmem
        obtain ⟨last, hlast, hgear⟩ := hinv.le_last gear hmem
        rw [hsearch.low_eq last hlast] at hle
        have hne : last ≠ found := fun heq => hnew (heq ▸ hlast)
        omega
      refine ⟨hlists hinv.lists, ?_, fun gear hmem => ⟨found, hlast, ?_⟩⟩
      · rw [hlist, List.map_append]
        refine List.pairwise_append.2 ⟨hinv.ascending, List.pairwise_singleton _ _, ?_⟩
        intro random hrandom last hlast
        obtain ⟨gear, hmem, rfl⟩ := List.mem_map.1 hrandom
        obtain rfl := List.mem_singleton.1 hlast
        exact hlt gear hmem
      · rw [hlist] at hmem
        rcases List.mem_append.1 hmem with hbefore | hlast
        · exact (hlt gear hbefore).le
        · obtain rfl := List.mem_singleton.1 hlast
          exact le_rfl

/-- Where every gear reports a new short address, none reports one of the list. -/
lemma pairwise_reported_run (hreports : ReportsNew bus start) (hstart : start.busGear = [])
    (h : run bus start n = .running loop) :
    loop.bus.busGear.Pairwise fun before gear =>
      ∀ short, gear.reported = some short → before.short ≠ short := by
  induction n generalizing loop with
  | zero =>
    rw [← Status.running.inj h]
    show start.busGear.Pairwise _
    rw [hstart]
    exact List.Pairwise.nil
  | succ n ih =>
    obtain ⟨before, hbefore, hiterate⟩ := run_succ_cases h
    rcases iterate_cases hiterate with ⟨hgear, -⟩ | ⟨found, hlow, hnew, hfind, hprocess, -⟩
    · rw [hgear]
      exact ih hbefore
    · obtain ⟨hgear, -⟩ := lists_findNextDevice bus before.bus before.low
      obtain ⟨short, hlist, -⟩ := processGear_cases hprocess
      rw [hlist, hgear]
      refine List.pairwise_append.2 ⟨ih hbefore, List.pairwise_singleton _ _, ?_⟩
      intro entry hentry gear hgear reported hreported
      obtain rfl := List.mem_singleton.1 hgear
      exact hreports n before found reported hbefore ⟨hlow, hfind, hnew, hreported⟩ entry hentry

/-- The list only grows. -/
lemma busGear_prefix_run {later : SearchLoop (State σ)} {m : ℕ}
    (h : run bus start n = .running loop)
    (hlater : run bus start (n + m) = .running later) :
    loop.bus.busGear <+: later.bus.busGear := by
  induction m generalizing later with
  | zero =>
    obtain rfl := Status.running.inj (h.symm.trans hlater)
    exact List.prefix_rfl
  | succ m ih =>
    obtain ⟨before, hbefore, hiterate⟩ := run_succ_cases (n := n + m) hlater
    rcases iterate_cases hiterate with ⟨hgear, -⟩ | ⟨found, -, -, -, hprocess, -⟩
    · rw [hgear]
      exact ih hbefore
    · obtain ⟨hgear, -⟩ := lists_findNextDevice bus before.bus before.low
      obtain ⟨short, hlist, -⟩ := processGear_cases hprocess
      rw [hlist, hgear]
      exact (ih hbefore).trans (List.prefix_append _ _)

lemma run_succ (h : run bus start n = .running loop) : run bus start (n + 1) =
    loop.iterate (selector bus) (addressBusLoop (processGear bus)) := by
  unfold run at h ⊢
  rw [SearchLoop.run, h]

/-- The loop is still running in every iteration in front of one where it is. -/
lemma exists_run_of_le {m : ℕ} (h : run bus start (n + m) = .running loop) :
    ∃ before, run bus start n = .running before := by
  induction m generalizing loop with
  | zero => exact ⟨loop, h⟩
  | succ m ih =>
    obtain ⟨before, hbefore, -⟩ := run_succ_cases (n := n + m) h
    exact ih hbefore

lemma returnedAfter_cases {busGear : List FoundGear}
    (h : returnedAfter bus start n = some busGear) :
    ∃ loop, run bus start n = .running loop ∧ loop.bus.busGear = busGear ∧
      loop.iterate (selector bus) (addressBusLoop (processGear bus)) = .left .over := by
  unfold returnedAfter at h
  split at h
  case h_1 => cases h
  case h_2 loop hloop =>
    split at h
    case h_1 hover => exact ⟨loop, hloop, Option.some.inj h, hover⟩
    case h_2 => cases h

end Proof

/-- A list whose short addresses differ is all that is promised. -/
lemma isDistinct_of_shorts {busGear : List FoundGear} {freeShorts : List ℕ}
    (hinv : Inv busGear freeShorts) (hrandoms : (busGear.map (·.random)).Pairwise (· < ·))
    (hshorts : (busGear.map (·.short)).Nodup) : IsDistinct busGear where
  randoms := hrandoms.imp Nat.ne_of_lt
  shorts := hshorts
  programmed gear hgear _ other hother hne hreported := by
    have hsame : other.short = gear.short := hinv.reported other hother gear.short hreported
    exact hne (congrArg _ (List.inj_on_of_nodup_map hshorts hother hgear hsame))

/-- If `address_bus` returns, its list promises distinct short addresses exactly if no gear reports
a short address that a gear in front of it has reported or got. -/
theorem isDistinct_iff {σ : Type*} {bus : Bus σ} {s : σ} {present : ℕ → Bool} {n : ℕ}
    {busGear : List FoundGear}
    (h : returnedAfter bus ⟨s, [], freeShortAddresses present⟩ n = some busGear) :
    IsDistinct busGear ↔ ReportsNew bus ⟨s, [], freeShortAddresses present⟩ := by
  obtain ⟨loop, hloop, rfl, hover⟩ := returnedAfter_cases h
  have hinv := loopInv_run (nodup_freeShortAddresses present) hloop
  constructor
  · intro hdistinct n' before found short hbefore hreports gear hgear hsame
    have hnext := run_succ hbefore
    rcases Nat.lt_or_ge n n' with hlt | hle
    · -- the loop was over before
      obtain ⟨m, rfl⟩ : ∃ m, n' = n + 1 + m := ⟨n' - (n + 1), by omega⟩
      obtain ⟨after, hafter⟩ := exists_run_of_le hbefore
      rw [run_succ hloop, hover] at hafter
      cases hafter
    · rcases iterate_of_reports hreports with hraised | ⟨after, kept, hiterate, hlist⟩
      · rcases hle.eq_or_lt with rfl | hlt
        · obtain rfl := Status.running.inj (hbefore.symm.trans hloop)
          rw [hover] at hraised
          cases hraised
        · obtain ⟨m, rfl⟩ : ∃ m, n = n' + 1 + m := ⟨n - (n' + 1), by omega⟩
          obtain ⟨after, hafter⟩ := exists_run_of_le hloop
          rw [hnext, hraised] at hafter
          cases hafter
      · rcases hle.eq_or_lt with rfl | hlt
        · obtain rfl := Status.running.inj (hbefore.symm.trans hloop)
          rw [hover] at hiterate
          cases hiterate
        · obtain ⟨m, rfl⟩ : ∃ m, n = n' + 1 + m := ⟨n - (n' + 1), by omega⟩
          have hafter := hnext.trans hiterate
          have hgrows := busGear_prefix_run hafter hloop
          have hkept : kept = short :=
            (loopInv_run (nodup_freeShortAddresses present) hafter).lists.reported
            ⟨kept, found, some short⟩ (hlist ▸ List.mem_append_right _ (List.mem_singleton_self _))
            short rfl
          have hnodup : (after.bus.busGear.map (·.short)).Nodup :=
            hdistinct.shorts.sublist (hgrows.sublist.map _)
          rw [hlist, List.map_append] at hnodup
          refine List.disjoint_of_nodup_append hnodup (List.mem_map_of_mem hgear) ?_
          rw [hsame, ← hkept]
          exact List.mem_singleton_self _
  · intro hreports
    refine isDistinct_of_shorts hinv.lists hinv.ascending (List.pairwise_map.2 ?_)
    have hreported := pairwise_reported_run hreports rfl hloop
    refine (hinv.lists.given.and hreported).imp_of_mem ?_
    rintro before gear - hgear ⟨hgiven, hnew⟩
    cases hreport : gear.reported with
    | none => exact hgiven hreport
    | some short =>
      rw [hinv.lists.reported gear hgear short hreport]
      exact hnew short hreport

/-! ### Gear on a bus -/

/-- A gear, with its short address if it has one. -/
structure Gear where
  random : ℕ
  short : Option ℕ
  isWithdrawn : Bool := false
  deriving DecidableEq, Repr

structure GearBus where
  gear : List Gear
  searchAddress : ℕ := 0

namespace GearBus

def selected (s : GearBus) : Option Gear :=
  s.gear.find? (·.random = s.searchAddress)

def update (s : GearBus) (change : Gear → Gear) : GearBus :=
  { s with gear := s.gear.map fun gear => if gear.random =
    s.searchAddress then change gear else gear }

/-- A bus that loses nothing. -/
def bus : Bus GearBus where
  setSearchAddr s address := { s with searchAddress := address }
  compare s address :=
    (s.gear.any fun gear => !gear.isWithdrawn && gear.random ≤ address,
      { s with searchAddress := address })
  queryShortAddress s :=
    (s.selected.map fun gear => gear.short.elim 255 fun short => Fin.ofNat 256 (2 * short + 1), s)
  programShortAddress s short := some (s.update fun gear => { gear with short := some short })
  verifyShortAddress s short := some ((s.selected.bind Gear.short) = some short, s)
  withdraw s := some (s.update fun gear => { gear with isWithdrawn := true })

end GearBus

/-- A gear at short address 5 that the scan has heard, and another gear. -/
def besideFive (short : Option ℕ) : GearBus where
  gear := [⟨0x10, some 5, false⟩, ⟨0x20, short, false⟩]

/-- A gear without a short address gets a free one. -/
theorem reportsNew_unaddressed :
    ReportsNew GearBus.bus ⟨besideFive none, [], freeShortAddresses (· = 5)⟩ := by
  have hreturned : returnedAfter GearBus.bus ⟨besideFive none, [], freeShortAddresses (· = 5)⟩ 2 =
      some [⟨5, 0x10, some 5⟩, ⟨0, 0x20, none⟩] := by decide +kernel
  exact (isDistinct_iff hreturned).1 ⟨by decide, by decide, by decide⟩

/-- Two gear at one short address both keep it. -/
theorem exists_not_isDistinct : ∃ busGear,
    returnedAfter GearBus.bus ⟨besideFive (some 5), [], freeShortAddresses (· = 5)⟩ 2 =
      some busGear ∧ ¬IsDistinct busGear := by
  refine ⟨[⟨5, 0x10, some 5⟩, ⟨5, 0x20, some 5⟩], by decide +kernel, fun h => ?_⟩
  exact absurd h.shorts (by decide)

end AddressBus

end WbMqttDali.Commissioning
