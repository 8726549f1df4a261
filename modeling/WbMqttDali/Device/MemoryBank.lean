import Mathlib
import WbMqttDali.Lib.Literals
import WbMqttDali.Settings.Queries

/-!
# Memory banks

`read_memory_bank` reads the locations of a bank in bulk: the device moves on
to the next location with every read, and a bulk read that fails part of the
way is resumed where it stopped.  Reading the last address belongs to the
library of the commands, so it is a parameter here.
-/

namespace WbMqttDali.Device.MemoryBank

open Settings (FrameOutcome Response sendCommands respond transmit)

/-! ### The device -/

/-- The registers that address the memory, and the memory by bank and location. -/
structure MemoryDevice where
  dtr0 : ℕ
  dtr1 : ℕ
  memory : ℕ → ℕ → ℕ

inductive Command where
  | dtr0 (value : ℕ)
  | readMemoryLocation
  deriving DecidableEq

/-- A location the device does not answer for is a frame without an answer. -/
instance : Settings.Device MemoryDevice Command where
  isQuery
    | .dtr0 _ => false
    | .readMemoryLocation => true
  execute device
    | .dtr0 value => { device with dtr0 := value }
    | .readMemoryLocation => { device with dtr0 := (device.dtr0 + 1) % 256 }
  answer device _ := device.memory device.dtr1 device.dtr0

/-- The frames of a bulk read, with the location the device is at. -/
def frames : ℕ → MemoryDevice → (ℕ → FrameOutcome) → List (ℕ × FrameOutcome)
  | 0, _, _ => []
  | count + 1, device, outcomes =>
    (device.dtr0, outcomes 0) ::
      frames count (transmit device .readMemoryLocation (outcomes 0)) fun k => outcomes (k + 1)

/-! ### The generator -/

/-- What `bank.LastAddress.read` comes to. -/
inductive LastAddress where
  | raises
  | flagValue
  | value (lastAddress : Fin 256)
  deriving DecidableEq

/-- What happens to the frames: the reads of the last address by the tries left, the others by
the attempts left. -/
structure Surroundings where
  readLastAddress : ℕ → MemoryDevice → MemoryDevice × LastAddress
  dtr0 : ℕ → ℕ → FrameOutcome
  reads : ℕ → ℕ → FrameOutcome

/-- The loop over the tries to read the last address; none if the last one raises. -/
def lastAddressLoop (readLastAddress : ℕ → MemoryDevice → MemoryDevice × LastAddress) :
    ℕ → MemoryDevice → MemoryDevice × Option (Fin 256)
  | 0, device => (device, none)
  | tries + 1, device =>
    match readLastAddress tries device with
    | (device, .value lastAddress) => (device, some lastAddress)
    | (device, _) => lastAddressLoop readLastAddress tries device

/-- `request_with_retry_sequence`; none if it raises. -/
def requestWithRetrySequence (cmd : Command) (outcomes : ℕ → FrameOutcome) :
    ℕ → MemoryDevice → MemoryDevice × Option Response
  | 0, device => (device, none)
  | attempts + 1, device =>
    let device' := transmit device cmd (outcomes attempts)
    match respond device cmd (outcomes attempts) with
    | none => (device', none)
    | some response =>
      if response = .transmissionError then requestWithRetrySequence cmd outcomes attempts device'
      else (device', some response)

/-- The loop over the responses of a bulk read, with the index of the first; it stops at the
first that has no readable value. -/
def record : ℕ → List (Option ℕ) → List Response → List (Option ℕ) × Option ℕ
  | _, rawData, [] => (rawData, none)
  | i, rawData, response :: responses =>
    match response with
    | .value rawValue => record (i + 1) (rawData ++ [some rawValue]) responses
    | .none => record (i + 1) (rawData ++ [none]) responses
    | .framingError | .transmissionError => (rawData, some i)

/-- What a call does up to decoding the values; it has no raw data if it raises. -/
structure Outcome where
  rawData : Option (List (Option ℕ))
  bulkReads : List (List (ℕ × FrameOutcome))

/-- The loop over the attempts to read what is left of the bank. -/
def bulkLoop (surroundings : Surroundings) (startAddress commandsCount : ℕ) :
    ℕ → ℕ → List (Option ℕ) → MemoryDevice → Outcome
  | 0, _, _, _ => ⟨none, []⟩
  | attempts + 1, firstUnreadIndex, rawData, device =>
    let currentAddress := startAddress + firstUnreadIndex
    let remainingCount := commandsCount - firstUnreadIndex
    if remainingCount = 0 then ⟨some rawData, []⟩
    else
      match requestWithRetrySequence (.dtr0 currentAddress)
        (surroundings.dtr0 attempts) 3 device with
      | (_, none) => ⟨none, []⟩
      | (device, some _) =>
        let bulkRead := frames remainingCount device (surroundings.reads attempts)
        match sendCommands device (List.replicate remainingCount .readMemoryLocation)
            (surroundings.reads attempts) with
        | (_, none) => ⟨none, [bulkRead]⟩
        | (device, some responses) =>
          match record firstUnreadIndex rawData responses with
          | (rawData, none) => ⟨some rawData, [bulkRead]⟩
          | (rawData, some nextUnreadIndex) =>
            let outcome :=
              bulkLoop surroundings startAddress commandsCount attempts nextUnreadIndex
                rawData device
            { outcome with bulkReads := bulkRead :: outcome.bulkReads }

/-- The first location behind the lock byte, which bank 0 does not have. -/
def startAddress (bank : ℕ) : ℕ := if bank = 0 then 0x02 else 0x03

/-- `read_memory_bank`, up to the values it decodes from the raw data. -/
def readMemoryBank (surroundings : Surroundings) (bank : ℕ) (device : MemoryDevice) : Outcome :=
  match lastAddressLoop surroundings.readLastAddress 3 device with
  | (_, none) => ⟨none, []⟩
  | (device, some lastAddress) =>
    -- no commands where the source counts to a negative number of them
    bulkLoop surroundings (startAddress bank) (lastAddress + 1 - startAddress bank) 3 0
      (List.replicate (startAddress bank) none) device

/-! ### One bulk read -/

/-- The device is at a bank with this memory. -/
def At (bank : ℕ) (memory : ℕ → ℕ → ℕ) (device : MemoryDevice) : Prop :=
  device.dtr1 = bank ∧ device.memory = memory

/-- An entry of the raw data is what the device holds at the location, or none where the device
stayed silent. -/
def Entry (memory : ℕ → ℕ) (bulkRead : List (ℕ × FrameOutcome)) (location : ℕ)
    (entry : Option ℕ) : Prop :=
  entry = some (memory location) ∧ (location, .received) ∈ bulkRead ∨
    entry = none ∧ (location, .silent) ∈ bulkRead

section

variable {bank : ℕ} {memory : ℕ → ℕ → ℕ} {device : MemoryDevice}

lemma at_execute (h : At bank memory device) (cmd : Command) :
    At bank memory (Settings.Device.execute device cmd) := by
  cases cmd <;> exact h

lemma at_transmit (h : At bank memory device) (cmd : Command) (outcome : FrameOutcome) :
    At bank memory (transmit device cmd outcome) := by
  rw [transmit]
  split
  · exact at_execute h cmd
  · exact h

lemma at_sendCommands (h : At bank memory device) (commands : List Command)
    (outcomes : ℕ → FrameOutcome) : At bank memory (sendCommands device commands outcomes).1 :=
  Settings.sendCommands_keeps (fun command _ _ h => at_execute h command) h

/-- After `DTR0` has been sent without a transmission error, the device is at the location. -/
lemma requestWithRetrySequence_dtr0 {location : ℕ} {outcomes : ℕ → FrameOutcome} (attempts : ℕ)
    (h : At bank memory device) {device' : MemoryDevice} {response : Response}
    (hsend : requestWithRetrySequence (.dtr0 location) outcomes attempts device =
      (device', some response)) :
    At bank memory device' ∧ device'.dtr0 = location := by
  induction attempts generalizing device with
  | zero => cases hsend
  | succ attempts ih =>
    rw [requestWithRetrySequence] at hsend
    cases houtcome : outcomes attempts with
    | failed isReceived =>
      refine ih (at_transmit h (.dtr0 location) (outcomes attempts)) ?_
      simpa [houtcome, respond] using hsend
    | aborted isReceived => simp [houtcome, respond] at hsend
    | received =>
      obtain ⟨rfl, -⟩ : Settings.Device.execute device (Command.dtr0 location) = device' ∧ _ := by
        simpa [houtcome, respond, transmit, FrameOutcome.isReceived, Settings.Device.isQuery]
          using hsend
      exact ⟨at_execute h _, rfl⟩
    | silent =>
      obtain ⟨rfl, -⟩ : Settings.Device.execute device (Command.dtr0 location) = device' ∧ _ := by
        simpa [houtcome, respond, transmit, FrameOutcome.isReceived] using hsend
      exact ⟨at_execute h _, rfl⟩
    | garbled =>
      obtain ⟨rfl, -⟩ : Settings.Device.execute device (Command.dtr0 location) = device' ∧ _ := by
        simpa [houtcome, respond, transmit, FrameOutcome.isReceived] using hsend
      exact ⟨at_execute h _, rfl⟩

lemma Entry.mono {location : ℕ} {entry : Option ℕ} {bulkRead bulkRead' : List (ℕ × FrameOutcome)}
    (h : Entry (memory bank) bulkRead location entry) (hsub : bulkRead ⊆ bulkRead') :
    Entry (memory bank) bulkRead' location entry :=
  h.imp (fun h => ⟨h.1, hsub h.2⟩) fun h => ⟨h.1, hsub h.2⟩

/-- What a bulk read appends to the raw data, and where it stops. -/
structure Records (memory : ℕ → ℕ) (bulkRead : List (ℕ × FrameOutcome)) (location i : ℕ)
    (rawData : List (Option ℕ)) (recorded : List (Option ℕ) × Option ℕ)
    (entries : List (Option ℕ)) : Prop where
  rawData_eq : recorded.1 = rawData ++ entries
  stops : recorded.2 = none ∧ entries.length = bulkRead.length ∨
    recorded.2 = some (i + entries.length) ∧ entries.length < bulkRead.length
  entry : ∀ j entry, entries[j]? = some entry → Entry memory bulkRead (location + j) entry

lemma Records.cons {location i : ℕ} {rawData : List (Option ℕ)} {entry : Option ℕ}
    {outcome : FrameOutcome} {bulkRead : List (ℕ × FrameOutcome)}
    {recorded : List (Option ℕ) × Option ℕ} {entries : List (Option ℕ)}
    (hentry : Entry (memory bank) [(location, outcome)] location entry)
    (h : Records (memory bank) bulkRead (location + 1) (i + 1) (rawData ++ [entry]) recorded
      entries) :
    Records (memory bank) ((location, outcome) :: bulkRead) location i rawData recorded
      (entry :: entries) where
  rawData_eq := by
    rw [h.rawData_eq]
    simp
  stops := by
    have hstops := h.stops
    simp only [List.length_cons]
    rwa [Nat.add_right_cancel_iff, Nat.add_lt_add_iff_right, Nat.add_comm _ 1, ← Nat.add_assoc]
  entry j entry' hget := by
    cases j with
    | zero =>
      obtain rfl : entry = entry' := by simpa using hget
      exact hentry.mono (by simp)
    | succ j =>
      have hrest := h.entry j entry' (by simpa using hget)
      rw [Nat.add_assoc, Nat.add_comm 1] at hrest
      exact hrest.mono (List.subset_cons_self _ _)

/-- The device is at the next location as long as there are frames left. -/
lemma records_bulkRead {count location : ℕ} {outcomes : ℕ → FrameOutcome} (i : ℕ)
    (rawData : List (Option ℕ)) {responses : List Response} {device' : MemoryDevice}
    (h : At bank memory device) (hlocation : 0 < count → device.dtr0 = location)
    (hcount : location + count ≤ 256)
    (hsend : sendCommands device (List.replicate count .readMemoryLocation) outcomes =
      (device', some responses)) :
    ∃ entries, Records (memory bank) (frames count device outcomes) location i rawData
      (record i rawData responses) entries := by
  induction count generalizing device location outcomes i rawData responses with
  | zero =>
    obtain ⟨-, rfl⟩ : device = device' ∧ [] = responses := by simpa [sendCommands] using hsend
    exact ⟨[], by simp [record], .inl ⟨rfl, rfl⟩, by simp⟩
  | succ count ih =>
    rw [List.replicate_succ, Settings.sendCommands_cons] at hsend
    obtain ⟨response, rest, hrespond, hrest, rfl⟩ := hsend
    have hdtr0 : device.dtr0 = location := hlocation (Nat.succ_pos _)
    rw [frames, hdtr0]
    -- a location that was received moves DTR0 on, whether it is answered or not
    have hnext : (outcomes 0).isReceived → 0 < count →
        (transmit device .readMemoryLocation (outcomes 0)).dtr0 = location + 1 := by
      intro hreceived hpos
      rw [transmit, if_pos hreceived]
      show (device.dtr0 + 1) % 256 = location + 1
      rw [hdtr0, Nat.mod_eq_of_lt (by omega)]
    cases houtcome : outcomes 0 with
    | received =>
      obtain rfl : .value (memory bank location) = response := by
        rw [houtcome] at hrespond
        have hanswer : device.memory device.dtr1 device.dtr0 = memory bank location := by
          rw [h.1, h.2, hdtr0]
        simpa [respond, Settings.Device.isQuery, Settings.Device.answer, hanswer] using hrespond
      rw [houtcome] at hnext hrest
      obtain ⟨entries, hentries⟩ := ih (i + 1) (rawData ++ [some (memory bank location)])
        (at_transmit h _ _) (hnext rfl) (by omega) hrest
      exact ⟨_, hentries.cons (.inl ⟨rfl, by simp⟩)⟩
    | silent =>
      obtain rfl : .none = response := by
        rw [houtcome] at hrespond
        simpa [respond] using hrespond
      rw [houtcome] at hnext hrest
      obtain ⟨entries, hentries⟩ := ih (i + 1) (rawData ++ [none]) (at_transmit h _ _)
        (hnext rfl) (by omega) hrest
      exact ⟨_, hentries.cons (.inr ⟨rfl, by simp⟩)⟩
    | garbled =>
      obtain rfl : .framingError = response := by
        rw [houtcome] at hrespond
        simpa [respond] using hrespond
      -- a garbled answer ends the loop, with nothing recorded of it
      exact ⟨[], by simp [record], .inr ⟨by simp [record], by simp⟩, by simp⟩
    | failed isReceived =>
      obtain rfl : .transmissionError = response := by
        rw [houtcome] at hrespond
        simpa [respond] using hrespond
      exact ⟨[], by simp [record], .inr ⟨by simp [record], by simp⟩, by simp⟩
    | aborted isReceived =>
      rw [houtcome] at hrespond
      cases hrespond

lemma length_frames (count : ℕ) (device : MemoryDevice) (outcomes : ℕ → FrameOutcome) :
    (frames count device outcomes).length = count := by
  induction count generalizing device outcomes with
  | zero => rfl
  | succ count ih => simp [frames, ih]

/-! ### All bulk reads -/

/-- What the attempts append to the raw data: an entry for each location that is left. -/
lemma bulkLoop_spec {surroundings : Surroundings} {start commandsCount : ℕ} (attempts : ℕ)
    {firstUnreadIndex : ℕ} {rawData : List (Option ℕ)} (h : At bank memory device)
    (hend : start + commandsCount ≤ 256 ∨ commandsCount = 0)
    (hfirst : firstUnreadIndex ≤ commandsCount) :
    let outcome :=
      bulkLoop surroundings start commandsCount attempts firstUnreadIndex rawData device
    outcome.bulkReads.length ≤ attempts ∧ ∀ result, outcome.rawData = some result →
      ∃ entries, result = rawData ++ entries ∧
        firstUnreadIndex + entries.length = commandsCount ∧
        ∀ j entry, entries[j]? = some entry → ∃ bulkRead ∈ outcome.bulkReads,
          Entry (memory bank) bulkRead (start + firstUnreadIndex + j) entry := by
  induction attempts generalizing firstUnreadIndex rawData device with
  | zero => exact ⟨le_rfl, fun result hresult => by cases hresult⟩
  | succ attempts ih =>
    rw [bulkLoop]
    by_cases hremaining : commandsCount - firstUnreadIndex = 0
    · simp only [if_pos hremaining]
      refine ⟨Nat.zero_le _, fun result hresult => ⟨[], ?_, by simp; omega, by simp⟩⟩
      obtain rfl := Option.some.inj hresult
      simp
    · simp only [if_neg hremaining]
      rcases hdtr0 : requestWithRetrySequence (.dtr0 (start + firstUnreadIndex))
        (surroundings.dtr0 attempts) 3 device with ⟨device', _ | response⟩
      · exact ⟨Nat.zero_le _, fun result hresult => by cases hresult⟩
      · obtain ⟨hat, hlocation⟩ := requestWithRetrySequence_dtr0 3 h hdtr0
        simp only
        rcases hsend : sendCommands device' (List.replicate (commandsCount - firstUnreadIndex)
          .readMemoryLocation) (surroundings.reads attempts) with ⟨device'', _ | responses⟩
        · simp only [hsend]
          exact ⟨by simp, fun result hresult => by cases hresult⟩
        · obtain ⟨entries, hentries⟩ := records_bulkRead firstUnreadIndex rawData hat
            (fun _ => hlocation) (by omega) hsend
          have hlength := length_frames (commandsCount - firstUnreadIndex) device'
            (surroundings.reads attempts)
          simp only [hsend]
          rcases hrecord : record firstUnreadIndex rawData responses with ⟨rawData', stop⟩
          rw [hrecord] at hentries
          obtain ⟨hrawData, hstops, hentry⟩ := hentries
          simp only at hrawData hstops
          subst hrawData
          rcases hstops with ⟨rfl, hall⟩ | ⟨rfl, hpart⟩
          · refine ⟨by simp, fun result hresult => ⟨entries, ?_, by omega, ?_⟩⟩
            · exact (Option.some.inj hresult).symm
            · exact fun j entry hget => ⟨_, List.mem_singleton_self _, hentry j entry hget⟩
          · -- the next attempt starts where this bulk read stopped
            have hat'' : At bank memory device'' := by
              have := at_sendCommands hat (List.replicate (commandsCount - firstUnreadIndex)
                .readMemoryLocation) (surroundings.reads attempts)
              rwa [hsend] at this
            obtain ⟨hcount, hresults⟩ := @ih device'' (firstUnreadIndex + entries.length)
              (rawData ++ entries) hat'' (by omega)
            refine ⟨Nat.succ_le_succ hcount, fun result hresult => ?_⟩
            obtain ⟨rest, rfl, hrest, hentryRest⟩ := hresults result hresult
            refine ⟨entries ++ rest, by simp, by rw [List.length_append]; omega, ?_⟩
            intro j entry hget
            by_cases hj : j < entries.length
            · rw [List.getElem?_append_left hj] at hget
              exact ⟨_, List.mem_cons_self, hentry j entry hget⟩
            · rw [List.getElem?_append_right (by omega)] at hget
              obtain ⟨bulkRead, hmem, hentry'⟩ := hentryRest (j - entries.length) entry hget
              refine ⟨bulkRead, List.mem_cons_of_mem _ hmem, ?_⟩
              rwa [show start + (firstUnreadIndex + entries.length) + (j - entries.length) =
                start + firstUnreadIndex + j by omega] at hentry'

end

/-- Reading the last address selects the bank and leaves the memory alone. -/
structure SelectsBank (bank : ℕ)
    (readLastAddress : ℕ → MemoryDevice → MemoryDevice × LastAddress) : Prop where
  memory_eq : ∀ tries device, (readLastAddress tries device).1.memory = device.memory
  dtr1_eq : ∀ tries device lastAddress, (readLastAddress tries device).2 = .value lastAddress →
    (readLastAddress tries device).1.dtr1 = bank

lemma lastAddressLoop_spec {bank : ℕ}
    {readLastAddress : ℕ → MemoryDevice → MemoryDevice × LastAddress}
    (hselects : SelectsBank bank readLastAddress) {tries : ℕ} {device device' : MemoryDevice}
    {lastAddress : Fin 256}
    (h : lastAddressLoop readLastAddress tries device = (device', some lastAddress)) :
    At bank device.memory device' := by
  induction tries generalizing device with
  | zero => cases h
  | succ tries ih =>
    have hmemory := hselects.memory_eq tries device
    rw [lastAddressLoop] at h
    rcases hread : readLastAddress tries device with ⟨device'', _ | _ | last⟩
    · rw [hread] at h hmemory
      exact hmemory ▸ ih h
    · rw [hread] at h hmemory
      exact hmemory ▸ ih h
    · rw [hread] at h hmemory
      obtain ⟨rfl, -⟩ : device'' = device' ∧ last = lastAddress := by simpa using h
      have hdtr1 := hselects.dtr1_eq tries device last (by rw [hread])
      rw [hread] at hdtr1
      exact ⟨hdtr1, hmemory⟩

/-- The raw data that the values are decoded from has an entry for each location up to the last
address: the byte the device holds there, or none where it stayed silent. -/
theorem readMemoryBank_aligned {surroundings : Surroundings} {bank : ℕ}
    (hselects : SelectsBank bank surroundings.readLastAddress) (device : MemoryDevice) :
    let outcome := readMemoryBank surroundings bank device
    outcome.bulkReads.length ≤ 3 ∧ ∀ rawData, outcome.rawData = some rawData →
      ∃ lastAddress, (lastAddressLoop surroundings.readLastAddress 3 device).2 = some lastAddress ∧
        rawData.length = max (startAddress bank) (lastAddress + 1) ∧
        ∀ k entry, startAddress bank ≤ k → rawData[k]? = some entry →
          ∃ bulkRead ∈ outcome.bulkReads, Entry (device.memory bank) bulkRead k entry := by
  intro outcome
  have houtcome : outcome = readMemoryBank surroundings bank device := rfl
  rw [readMemoryBank] at houtcome
  rcases hlast : lastAddressLoop surroundings.readLastAddress 3 device with
    ⟨device', _ | lastAddress⟩
  · rw [hlast] at houtcome
    rw [houtcome]
    exact ⟨Nat.zero_le _, fun rawData hrawData => by cases hrawData⟩
  · rw [hlast] at houtcome
    have hbyte := lastAddress.isLt
    obtain ⟨hcount, hresults⟩ := @bulkLoop_spec bank device.memory device' surroundings
      (startAddress bank) (lastAddress + 1 - startAddress bank) 3 0
      (List.replicate (startAddress bank) none) (lastAddressLoop_spec hselects hlast)
      (by omega) (Nat.zero_le _)
    rw [houtcome]
    refine ⟨hcount, fun rawData hrawData => ⟨lastAddress, rfl, ?_⟩⟩
    obtain ⟨entries, rfl, hlength, hentries⟩ := hresults rawData hrawData
    refine ⟨?_, fun k entry hk hget => ?_⟩
    · rw [List.length_append, List.length_replicate]
      omega
    · rw [List.getElem?_append_right (by simpa using hk), List.length_replicate] at hget
      obtain ⟨bulkRead, hmem, hentry⟩ := hentries _ entry hget
      refine ⟨bulkRead, hmem, ?_⟩
      rwa [Nat.add_zero, Nat.add_sub_cancel' hk] at hentry

/-- A device whose bank 1 ends at location 6. -/
def sampleDevice : MemoryDevice :=
    ⟨0, 0, fun _ location => if location = 0 then 6 else 10 + location⟩

/-- The first bulk read is garbled at its third location; in each the second stays silent. -/
def garbledOnce : Surroundings where
  readLastAddress _ device :=
    ({ device with dtr0 := 1, dtr1 := 1 }, .value (Fin.ofNat 256 (device.memory 1 0)))
  dtr0 _ _ := .received
  reads attempts k :=
    if attempts = 2 ∧ k = 2 then .garbled else if k = 1 then .silent else .received

theorem readMemoryBank_garbledOnce :
    (readMemoryBank garbledOnce 1 sampleDevice).rawData =
        some [none, none, none, some 13, none, some 15, none] ∧
      ∃ bulkRead ∈ (readMemoryBank garbledOnce 1 sampleDevice).bulkReads,
        Entry (sampleDevice.memory 1) bulkRead 5 (some 15) := by
  have hrawData : (readMemoryBank garbledOnce 1 sampleDevice).rawData =
      some [none, none, none, some 13, none, some 15, none] := by decide +kernel
  have hselects : SelectsBank 1 garbledOnce.readLastAddress := ⟨fun _ _ => rfl, fun _ _ _ _ => rfl⟩
  obtain ⟨lastAddress, -, -, hentries⟩ :=
    (readMemoryBank_aligned hselects sampleDevice).2 _ hrawData
  exact ⟨hrawData, hentries 5 (some 15) (by decide) rfl⟩

end WbMqttDali.Device.MemoryBank
