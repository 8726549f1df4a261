import Mathlib
import WbMqttDali.SendCommand.ExpressionText

/-!
# Reading an expression back

The text of a registered command is read back as the command that its tokens stand for.  It
is the same command, or one with the same frame, unless the command addresses the devices
without a short address, or instances in another way than by a number.
-/

namespace WbMqttDali.SendCommand

open Tokens

section Table

variable {table : CharTable} {Cls : Type} {lib : Library Cls} {info : CommandInfo Cls}

/-! ### The arguments of a command -/

/-- The formatter's texts are fit to be joined. -/
lemma isTexts_argumentTexts (arguments : Arguments) (info : CommandInfo Cls) :
    IsTexts (argumentTexts lib arguments info) := by
  have htokens : ∀ tokens : List Token, IsTexts (tokens.map Token.text) := by
    intro tokens
    constructor
    · intro text htext
      obtain ⟨token, -, rfl⟩ := List.mem_map.1 htext
      exact text_ne_nil token
    · intro text htext
      obtain ⟨token, -, rfl⟩ := List.mem_map.1 htext
      exact isTokenChar_of_mem_text _
  have harg : ∀ arg : CommissioningArg, ∀ c ∈ arg.text, isTokenChar c = true := by
    intro arg
    cases arg with
    | broadcast => simp [CommissioningArg.text]
    | shortAddress address => exact isTokenChar_of_mem_text (.addr address)
    | noShortAddress =>
      have hall : noShortAddressToken.all isTokenChar = true := rfl
      exact List.all_eq_true.1 hall
  unfold argumentTexts
  by_cases hkind : info.kind = .gearCommissioning
  · rw [if_pos hkind]
    cases arguments with
    | commissioning arg =>
      constructor
      · intro text htext
        simpa using (List.mem_filter.1 htext).2
      · intro text htext
        rw [List.mem_singleton.1 (List.mem_filter.1 htext).1]
        exact harg arg
    | _ => constructor <;> simp
  · rw [if_neg hkind]
    exact htokens _

def Destination.address? : Destination → Option ℕ
  | .short address => some address
  | .group _ | .broadcast | .broadcastUnaddressed => none

def Destination.group? : Destination → Option ℕ
  | .group number => some number
  | .short _ | .broadcast | .broadcastUnaddressed => none

/-- A destination, an instance and data, each at most once, are read back. -/
lemma parseArgs_tokens (destination : Option Destination) (inst data : Option ℕ) :
    parseArgs table {}
        (((destination.bind Destination.token?).toList ++ (inst.map Token.inst).toList ++
          (data.map fun value => Token.data value).toList).map Token.text) =
      .ok { address := destination.bind Destination.address?
            group := destination.bind Destination.group?
            inst
            data := data.map fun value : ℕ => (value : ℤ) } := by
  have haddr : ∀ value, parseToken table (Token.addr value).text = .ok (.addr value) :=
    fun value => parseToken_text (by simp)
  have hgroup : ∀ value, parseToken table (Token.group value).text = .ok (.group value) :=
    fun value => parseToken_text (by simp)
  have hinst : ∀ value, parseToken table (Token.inst value).text = .ok (.inst value) :=
    fun value => parseToken_text (by simp)
  have hdata : ∀ value : ℕ, parseToken table (Token.data value).text = .ok (.data value) :=
    fun value => parseToken_text (by simp)
  -- one case for each way in which the three parts are there
  rcases destination with _ | (_ | _ | _ | _) <;> rcases inst with _ | _ <;>
    rcases data with _ | _ <;>
    simp [parseArgs, Destination.token?, Destination.address?, Destination.group?, haddr, hgroup,
      hinst, hdata, ParsedArgs.add, bind, Except.bind, pure, Except.pure]

/-! ### Commands of the decoder -/

def Destination.InRange (traits : KindTraits) : Destination → Prop
  | .short address => address ≤ 63
  | .group number => number ≤ traits.maxGroup
  | .broadcast | .broadcastUnaddressed => True

def Instance.InRange : Instance → Prop
  | .number value | .group value | .type value => value ≤ 31
  | .featureNumber value | .featureGroup value | .featureType value => value ≤ 31
  -- the bytes that no other instance has
  | .reserved byte => 0x40 ≤ byte ∧ byte ≤ 0x5F ∨ 0xE0 ≤ byte ∧ byte ≤ 0xFB
  | .broadcast | .featureBroadcast | .featureDevice | .device => True

variable (lib) in
/-- What the decoder of the library yields for a class. -/
inductive Decodes (info : CommandInfo Cls) : Arguments → Prop
  | standard {destination : Destination} {data : Option ℕ}
      (hkind : info.kind = .gearStandard ∨ info.kind = .deviceStandard)
      (hdestination : destination.InRange info.kind.traits)
      (hsome : data.isSome = info.needsData)
      (hdata : ∀ value ∈ data, value ≤ 255 ∧ lib.accepts info.cls value = true) :
      Decodes info (.standard destination data)
  | onInstance {destination : Destination} {inst : Instance}
      (hkind : info.kind = .deviceInstance ∨ info.kind = .deviceFeature)
      (hdestination : destination.InRange info.kind.traits) (hinst : inst.InRange)
      (hneeds : info.needsData = false) : Decodes info (.onInstance destination inst)
  | special {data : Option ℕ} (hkind : info.kind = .gearSpecial ∨ info.kind = .deviceSpecial)
      (hsome : data.isSome = info.needsData)
      (hdata : ∀ value ∈ data, value ≤ 255 ∧ lib.accepts info.cls value = true) :
      Decodes info (.special data)
  | commissioning {arg : CommissioningArg} (hkind : info.kind = .gearCommissioning)
      (hbroadcast : arg = .broadcast → info.cls = lib.gearGeneral "Initialise".toList)
      (hrange : ∀ address, arg = .shortAddress address → address ≤ 63) :
      Decodes info (.commissioning arg)

/-- The destination that an expression without an address and without a group has. -/
def Destination.shown : Destination → Destination
  | .broadcastUnaddressed => .broadcast
  | destination => destination

variable (lib) in
/-- The instance that the value of an instance stands for in an expression. -/
def shownInstance (info : CommandInfo Cls) (inst : Instance) : Option Instance :=
  match lib.value inst with
  | none => if info.kind = .deviceFeature then some .featureDevice else none
  | some value =>
    if 31 < value then none
    else if info.kind = .deviceFeature then some (.featureNumber value)
    else some (.number value)

variable (lib) in
/-- The arguments that the expression of a command stands for, if it can be read. -/
def shownArguments (info : CommandInfo Cls) : Arguments → Option Arguments
  | .standard destination data => some (.standard destination.shown data)
  | .onInstance destination inst =>
    (shownInstance lib info inst).map (.onInstance destination.shown)
  | .special data => some (.special data)
  | .commissioning arg => some (.commissioning arg)

lemma destination_shown {args : ParsedArgs} {destination : Destination}
    (haddress : args.address = destination.address?) (hgroup : args.group = destination.group?) :
    args.destination = destination.shown := by
  rw [ParsedArgs.destination, haddress, hgroup]
  cases destination <;> rfl

/-- What the checks behind the loop let through. -/
structure ParsedArgs.Checked (args : ParsedArgs) (info : CommandInfo Cls) : Prop where
  unaddressed : info.kind.traits.needsAddress = false → args.address = none ∧ args.group = none
  disallowed : info.kind.traits.instanceMode = .disallowed → args.inst = none
  required : info.kind.traits.instanceMode = .required → args.inst.isSome = true
  data_isSome : args.data.isSome = info.needsData
  address_le : ∀ value ∈ args.address, value ≤ 63
  group_le : ∀ value ∈ args.group, value ≤ info.kind.traits.maxGroup
  inst_le : ∀ value ∈ args.inst, value ≤ 31
  data_le : ∀ value ∈ args.data, 0 ≤ value ∧ value ≤ 255

lemma ite_some_eq_none_iff {α : Type} {c : Prop} [Decidable c] {error : α} {rest : Option α} :
    (if c then some error else rest) = none ↔ ¬c ∧ rest = none := by
  by_cases h : c <;> simp [h]

lemma not_any_iff {α : Type} {o : Option α} {p : α → Bool} :
    ¬o.any p = true ↔ ∀ value ∈ o, p value = false := by
  cases o <;> simp

lemma error?_eq_none_iff {args : ParsedArgs} : args.error? info = none ↔ args.Checked info := by
  simp only [ParsedArgs.error?, ite_some_eq_none_iff, not_any_iff, and_true]
  constructor
  · rintro ⟨hunaddressed, hdisallowed, hrequired, hno, hmissing, haddress, hgroup, hinst, hdata⟩
    constructor
    · intro h
      simpa [h] using hunaddressed
    · intro h
      simpa [h] using hdisallowed
    · intro h
      simpa [h, Option.isSome_iff_ne_none] using hrequired
    · cases hneeds : info.needsData
      · simpa [hneeds] using hno
      · simpa [hneeds, Option.isSome_iff_ne_none] using hmissing
    · exact fun value h => by simpa using haddress value h
    · exact fun value h => by simpa using hgroup value h
    · exact fun value h => by simpa using hinst value h
    · exact fun value h => by simpa using hdata value h
  · intro h
    refine ⟨?_, ?_, ?_, ?_, ?_, ?_, ?_, ?_, ?_⟩
    · cases hneeds : info.kind.traits.needsAddress
      · simp [h.unaddressed hneeds]
      · simp
    · by_cases hmode : info.kind.traits.instanceMode = .disallowed
      · simp [h.disallowed hmode]
      · simp [hmode]
    · by_cases hmode : info.kind.traits.instanceMode = .required
      · have hsome := h.required hmode
        simp [Option.isSome_iff_ne_none.1 hsome]
      · simp [hmode]
    · simp [h.data_isSome]
    · simp [← h.data_isSome, Option.isSome_iff_ne_none]
    · exact fun value hvalue => by simpa using h.address_le value hvalue
    · exact fun value hvalue => by simpa using h.group_le value hvalue
    · exact fun value hvalue => by simpa using h.inst_le value hvalue
    · exact fun value hvalue => by simpa using h.data_le value hvalue

/-! ### The command that is read -/

/-- The tokens of the formatter, where each part is there if the kind has it. -/
lemma commandExpressionArgs_eq {arguments : Arguments}
    (haddressed : info.kind.traits.needsAddress = false → arguments.destination? = none)
    (hinst : info.kind.traits.instanceMode = .disallowed → arguments.inst? = none)
    (hdata : arguments.data?.isSome = info.needsData) :
    commandExpressionArgs lib arguments info =
      (arguments.destination?.bind Destination.token?).toList ++
        ((arguments.inst?.bind lib.value).map Token.inst).toList ++
        (arguments.data?.map fun value => Token.data value).toList := by
  have hdestinationPart : (if info.kind.traits.needsAddress then
      (arguments.destination?.bind Destination.token?).toList else []) =
        (arguments.destination?.bind Destination.token?).toList := by
    cases hneeds : info.kind.traits.needsAddress
    · simp [haddressed hneeds]
    · simp
  have hinstPart : (if info.kind.traits.instanceMode ≠ .disallowed then
      ((arguments.inst?.bind lib.value).map Token.inst).toList else []) =
        ((arguments.inst?.bind lib.value).map Token.inst).toList := by
    by_cases hmode : info.kind.traits.instanceMode = .disallowed
    · simp [hmode, hinst hmode]
    · simp [hmode]
  have hdataPart : (if info.needsData then
      (arguments.data?.map fun value => Token.data value).toList else []) =
        (arguments.data?.map fun value => Token.data value).toList := by
    cases hsome : arguments.data?.isSome
    · rw [Option.isSome_eq_false_iff, Option.isNone_iff_eq_none] at hsome
      simp [hsome]
    · simp [← hdata, hsome]
  simp only [commandExpressionArgs, hdestinationPart, hinstPart, hdataPart]

/-- The local variables of the parser behind the loop over the formatter's tokens. -/
def argsOf (lib : Library Cls) (arguments : Arguments) : ParsedArgs where
  address := arguments.destination?.bind Destination.address?
  group := arguments.destination?.bind Destination.group?
  inst := arguments.inst?.bind lib.value
  data := arguments.data?.map fun value : ℕ => (value : ℤ)

lemma InRange.address_le {traits : KindTraits} {destination : Destination}
    (h : destination.InRange traits) : ∀ value ∈ destination.address?, value ≤ 63 := by
  intro value hvalue
  cases destination <;> cases hvalue
  exact h

lemma InRange.group_le {traits : KindTraits} {destination : Destination}
    (h : destination.InRange traits) : ∀ value ∈ destination.group?, value ≤ traits.maxGroup := by
  intro value hvalue
  cases destination <;> cases hvalue
  exact h

lemma map_toNat_map (data : Option ℕ) :
    (data.map fun value : ℕ => (value : ℤ)).map Int.toNat = data := by
  cases data <;> simp

lemma construct_of_accepts {arguments : Option ℕ → Arguments} {data : Option ℕ}
    (h : ∀ value ∈ data, value ≤ 255 ∧ lib.accepts info.cls value = true) :
    construct lib info.cls arguments data = .ok ⟨info.cls, arguments data⟩ := by
  rw [construct, if_pos]
  cases data with
  | none => rfl
  | some value => exact (h value rfl).2

/-- The checks let the arguments through whose parts are in range. -/
lemma checked_argsOf {arguments : Arguments}
    (haddressed : info.kind.traits.needsAddress = false → arguments.destination? = none)
    (hdestination : ∀ destination ∈ arguments.destination?, destination.InRange info.kind.traits)
    (hdisallowed : info.kind.traits.instanceMode = .disallowed → arguments.inst? = none)
    (hrequired : info.kind.traits.instanceMode = .required →
      (arguments.inst?.bind lib.value).isSome = true)
    (hinst : ∀ value ∈ arguments.inst?.bind lib.value, value ≤ 31)
    (hsome : arguments.data?.isSome = info.needsData)
    (hdata : ∀ value ∈ arguments.data?, value ≤ 255) : (argsOf lib arguments).Checked info := by
  constructor
  · intro h
    simp [argsOf, haddressed h]
  · intro h
    simp [argsOf, hdisallowed h]
  · exact hrequired
  · simpa [argsOf] using hsome
  · intro value hvalue
    obtain ⟨destination, hmem, hvalue⟩ := Option.bind_eq_some_iff.1 hvalue
    exact InRange.address_le (hdestination destination hmem) value hvalue
  · intro value hvalue
    obtain ⟨destination, hmem, hvalue⟩ := Option.bind_eq_some_iff.1 hvalue
    exact InRange.group_le (hdestination destination hmem) value hvalue
  · exact hinst
  · intro value hvalue
    obtain ⟨byte, hbyte, rfl⟩ := Option.map_eq_some_iff.1 hvalue
    have hle := hdata byte hbyte
    omega

variable [DecidableEq Cls]

/-- The parser for the commands that are no commissioning ones, on the formatter's tokens. -/
lemma parseTokens_of_tokens (arguments : Arguments) (hkind : info.kind ≠ .gearCommissioning)
    (haddressed : info.kind.traits.needsAddress = false → arguments.destination? = none)
    (hinst : info.kind.traits.instanceMode = .disallowed → arguments.inst? = none)
    (hdata : arguments.data?.isSome = info.needsData) :
    parseTokens table lib info (argumentTexts lib arguments info) =
      match (argsOf lib arguments).error? info with
      | some error => .error error
      | none => buildCommand lib info (argsOf lib arguments) := by
  have htexts : argumentTexts lib arguments info =
      (commandExpressionArgs lib arguments info).map Token.text := by
    unfold argumentTexts
    rw [if_neg hkind]
  rw [parseTokens, if_neg hkind, htexts, commandExpressionArgs_eq haddressed hinst hdata,
    parseArgs_tokens]
  rfl

lemma parseTokens_standard {destination : Destination} {data : Option ℕ}
    (hkind : info.kind = .gearStandard ∨ info.kind = .deviceStandard)
    (hdestination : destination.InRange info.kind.traits) (hsome : data.isSome = info.needsData)
    (hdata : ∀ value ∈ data, value ≤ 255 ∧ lib.accepts info.cls value = true) :
    parseTokens table lib info (argumentTexts lib (.standard destination data) info) =
      .ok ⟨info.cls, .standard destination.shown data⟩ := by
  have haddressed : info.kind.traits.needsAddress = true := by
    rcases hkind with h | h <;> rw [h] <;> rfl
  have hmode : info.kind.traits.instanceMode = .disallowed := by
    rcases hkind with h | h <;> rw [h] <;> rfl
  have hchecked : (argsOf lib (.standard destination data)).Checked info := by
    apply checked_argsOf
    · simp [haddressed]
    · simpa [Arguments.destination?] using hdestination
    · simp [Arguments.inst?]
    · simp [hmode]
    · simp [Arguments.inst?]
    · exact hsome
    · exact fun value hvalue => (hdata value hvalue).1
  have hne : info.kind ≠ .gearCommissioning := by
    rcases hkind with h | h <;> simp [h]
  have hshown : (argsOf lib (.standard destination data)).destination = destination.shown :=
    destination_shown rfl rfl
  rw [parseTokens_of_tokens (.standard destination data) hne (by simp [haddressed])
      (fun _ => rfl) hsome,
    error?_eq_none_iff.2 hchecked]
  have hbuild : buildCommand lib info (argsOf lib (.standard destination data)) =
      construct lib info.cls (.standard destination.shown) data := by
    have hmap : (argsOf lib (.standard destination data)).data.map Int.toNat = data :=
      map_toNat_map data
    rcases hkind with h | h <;> simp only [buildCommand, h, hshown, hmap]
  exact hbuild.trans (construct_of_accepts hdata)

lemma parseTokens_special {data : Option ℕ}
    (hkind : info.kind = .gearSpecial ∨ info.kind = .deviceSpecial)
    (hsome : data.isSome = info.needsData)
    (hdata : ∀ value ∈ data, value ≤ 255 ∧ lib.accepts info.cls value = true) :
    parseTokens table lib info (argumentTexts lib (.special data) info) =
      .ok ⟨info.cls, .special data⟩ := by
  have hmode : info.kind.traits.instanceMode = .disallowed := by
    rcases hkind with h | h <;> rw [h] <;> rfl
  have hchecked : (argsOf lib (.special data)).Checked info := by
    apply checked_argsOf
    · simp [Arguments.destination?]
    · simp [Arguments.destination?]
    · simp [Arguments.inst?]
    · simp [hmode]
    · simp [Arguments.inst?]
    · exact hsome
    · exact fun value hvalue => (hdata value hvalue).1
  have hne : info.kind ≠ .gearCommissioning := by
    rcases hkind with h | h <;> simp [h]
  rw [parseTokens_of_tokens (.special data) hne (fun _ => rfl) (fun _ => rfl) hsome,
    error?_eq_none_iff.2 hchecked]
  have hbuild : buildCommand lib info (argsOf lib (.special data)) =
      construct lib info.cls .special data := by
    have hmap : (argsOf lib (.special data)).data.map Int.toNat = data := map_toNat_map data
    rcases hkind with h | h <;> simp only [buildCommand, h, hmap]
  exact hbuild.trans (construct_of_accepts hdata)

lemma parseTokens_commissioning {arg : CommissioningArg} (hkind : info.kind = .gearCommissioning)
    (hbroadcast : arg = .broadcast → info.cls = lib.gearGeneral "Initialise".toList)
    (hrange : ∀ address, arg = .shortAddress address → address ≤ 63) :
    parseTokens table lib info (argumentTexts lib (.commissioning arg) info) =
      .ok ⟨info.cls, .commissioning arg⟩ := by
  have htexts : argumentTexts lib (.commissioning arg) info = [arg.text].filter (· ≠ []) := by
    unfold argumentTexts
    rw [if_pos hkind]
  rw [parseTokens, if_pos hkind, htexts]
  cases arg with
  | broadcast =>
    have hnil : [CommissioningArg.broadcast.text].filter (· ≠ []) = [] := rfl
    rw [hnil, parseCommissioningArg, if_neg (not_not.2 (hbroadcast rfl))]
    rfl
  | shortAddress address =>
    have htext : (CommissioningArg.shortAddress address).text = (Token.addr address).text := rfl
    have hne : (Token.addr address).text ≠ noShortAddressToken := by
      -- the one begins with A, the other does not
      intro heq
      cases heq
    have hparse : parseToken table (Token.addr address).text = .ok (.addr address) :=
      parseToken_text (by simp)
    have hle := hrange address rfl
    rw [htext, List.filter_cons_of_pos (by simp [text_ne_nil]), List.filter_nil,
      parseCommissioningArg, if_neg hne, hparse]
    simp only [if_neg (Nat.not_lt.2 hle)]
    rfl
  | noShortAddress =>
    have htext : CommissioningArg.noShortAddress.text = noShortAddressToken := rfl
    have hne : noShortAddressToken ≠ [] := List.cons_ne_nil _ _
    rw [htext, List.filter_cons_of_pos (by simpa using hne), List.filter_nil,
      parseCommissioningArg, if_pos rfl]
    rfl

lemma parseTokens_onInstance {destination : Destination} {inst : Instance}
    (hkind : info.kind = .deviceInstance ∨ info.kind = .deviceFeature)
    (hdestination : destination.InRange info.kind.traits) (hneeds : info.needsData = false) :
    (parseTokens table lib info
        (argumentTexts lib (.onInstance destination inst) info)).toOption =
      (shownInstance lib info inst).map
        fun shown => ⟨info.cls, .onInstance destination.shown shown⟩ := by
  have haddressed : info.kind.traits.needsAddress = true := by
    rcases hkind with h | h <;> rw [h] <;> rfl
  have hmode : info.kind.traits.instanceMode ≠ .disallowed := by
    rcases hkind with h | h <;> rw [h] <;> decide
  have hne : info.kind ≠ .gearCommissioning := by
    rcases hkind with h | h <;> simp [h]
  have hshown : (argsOf lib (.onInstance destination inst)).destination = destination.shown :=
    destination_shown rfl rfl
  have hchecked : (argsOf lib (.onInstance destination inst)).Checked info ↔
      (info.kind = .deviceInstance → (lib.value inst).isSome = true) ∧
        ∀ value ∈ lib.value inst, value ≤ 31 := by
    constructor
    · intro h
      refine ⟨fun hdevice => h.required (by rw [hdevice]; rfl), h.inst_le⟩
    · rintro ⟨hrequired, hinst⟩
      apply checked_argsOf
      · simp [haddressed]
      · simpa [Arguments.destination?] using hdestination
      · simp [hmode]
      · intro h
        rcases hkind with hdevice | hfeature
        · exact hrequired hdevice
        · rw [hfeature] at h
          cases h
      · exact hinst
      · exact hneeds.symm
      · simp [Arguments.data?]
  rw [parseTokens_of_tokens (.onInstance destination inst) hne (by simp [haddressed])
    (fun h => absurd h hmode) hneeds.symm]
  have hinst : (argsOf lib (.onInstance destination inst)).inst = lib.value inst := rfl
  -- only a readable instance passes the checks
  by_cases hreadable : (info.kind = .deviceInstance → (lib.value inst).isSome = true) ∧
      ∀ value ∈ lib.value inst, value ≤ 31
  · rw [error?_eq_none_iff.2 (hchecked.2 hreadable)]
    obtain ⟨hrequired, hle⟩ := hreadable
    rcases hkind with hdevice | hfeature
    · obtain ⟨value, hvalue⟩ := Option.isSome_iff_exists.1 (hrequired hdevice)
      have hnot := Nat.not_lt.2 (hle value hvalue)
      simp [shownInstance, buildCommand, hdevice, hinst, hshown, hvalue, hnot, Except.toOption]
    · cases hvalue : lib.value inst with
      | none => simp [shownInstance, buildCommand, hfeature, hinst, hshown, hvalue, Except.toOption]
      | some value =>
        have hnot := Nat.not_lt.2 (hle value hvalue)
        simp [shownInstance, buildCommand, hfeature, hinst, hshown, hvalue, hnot,
          Except.toOption]
  · have herror : (argsOf lib (.onInstance destination inst)).error? info ≠ none :=
      fun h => hreadable (hchecked.1 (error?_eq_none_iff.1 h))
    obtain ⟨error, herror⟩ := Option.ne_none_iff_exists'.1 herror
    -- an instance that does not pass is none that can be shown
    have hnone : shownInstance lib info inst = none := by
      cases hvalue : lib.value inst with
      | none =>
        have hkind : info.kind ≠ .deviceFeature := by
          intro hfeature
          apply hreadable
          simp [hfeature, hvalue]
        simp [shownInstance, hvalue, hkind]
      | some value =>
        have hgt : 31 < value := by
          by_contra hle
          apply hreadable
          simpa [hvalue] using hle
        simp [shownInstance, hvalue, hgt]
    rw [herror, hnone]
    rfl

/-- The formatter's texts are read as the command that they stand for. -/
lemma parseTokens_argumentTexts (table : CharTable) {arguments : Arguments}
    (h : Decodes lib info arguments) :
    (parseTokens table lib info (argumentTexts lib arguments info)).toOption =
      (shownArguments lib info arguments).map fun shown => ⟨info.cls, shown⟩ := by
  cases h with
  | standard hkind hdestination hsome hdata =>
    rw [parseTokens_standard hkind hdestination hsome hdata]
    rfl
  | onInstance hkind hdestination _ hneeds =>
    rw [parseTokens_onInstance hkind hdestination hneeds, shownArguments, Option.map_map]
    rfl
  | special hkind hsome hdata =>
    rw [parseTokens_special hkind hsome hdata]
    rfl
  | commissioning hkind hbroadcast hrange =>
    rw [parseTokens_commissioning hkind hbroadcast hrange]
    rfl

/-! ### A small library -/

/-- The instances of the library that are made with a value. -/
def valueOf : Instance → Option ℕ
  | .number value | .group value | .type value => some value
  | .featureNumber value | .featureGroup value | .featureType value => some value
  | .broadcast | .featureBroadcast | .featureDevice | .device | .reserved _ => none

/-- A library with a command of gear, one of colour gear and one for instances. -/
def smallLibrary : Library Text where
  gearStandard := [⟨"Off".toList, "gear.Off".toList, false⟩]
  gearOfType number :=
    if number = 8 then [⟨"Activate".toList, "colour.Activate".toList, false⟩] else []
  deviceStandard := []
  deviceInstance := [⟨"QueryInputValue".toList, "device.QueryInputValue".toList, false⟩]
  deviceOfType _ := []
  deviceFeature _ := []
  gearGeneral name := "gear.".toList ++ name
  deviceGeneral name := "device.".toList ++ name
  accepts _ value := value ≤ 255
  value := valueOf
  deviceType cls := if cls = "colour.Activate".toList then 8 else 0
  opcode cls data :=
    if cls = "colour.Activate".toList then 0xE2
    else if cls = "device.QueryInputValue".toList then 0x8C
    else data.getD 0
  commissioningOpcode _ arg :=
    match arg with
    | .broadcast => 0x00
    | .shortAddress address => 2 * address + 1
    | .noShortAddress => 0xFF

lemma smallLibrary_isDocumented : smallLibrary.IsDocumented where
  gearStandard := by decide
  gearOfType number := by
    rw [smallLibrary]
    by_cases h : number = 8
    · simp only [h, if_true]
      decide
    · simp [h]
  deviceStandard := by decide
  deviceInstance := by decide
  deviceOfType _ _ hfound := by cases hfound
  deviceFeature _ _ hfound := by cases hfound
  value_number _ := rfl
  value_featureNumber _ := rfl
  value_featureDevice := rfl

/-- The row of the query of an input value. -/
def queryInputValueInfo : CommandInfo Text :=
  ⟨"device.QueryInputValue".toList, .deviceInstance, 0, false, "FF24.QueryInputValue".toList⟩

lemma get?_queryInputValue : (reverseTable (buildCommandRegistry smallLibrary)).get?
    "device.QueryInputValue".toList = some queryInputValueInfo := by
  decide +kernel

/-! ### The round trip -/

/-- The expression says all of the destination and of the instance. -/
def IsExpressible (info : CommandInfo Cls) : Arguments → Prop
  | .standard destination _ => destination ≠ .broadcastUnaddressed
  | .onInstance destination inst =>
    destination ≠ .broadcastUnaddressed ∧
      if info.kind = .deviceFeature then inst = .featureDevice ∨
        ∃ value, inst = .featureNumber value
      else ∃ value, inst = .number value
  | .special _ | .commissioning _ => True

omit [DecidableEq Cls] in
lemma byte_shown_eq_iff {traits : KindTraits} {destination : Destination}
    (h : destination.InRange traits) :
    destination.shown.byte = destination.byte ↔ destination ≠ .broadcastUnaddressed := by
  cases destination <;> simp [Destination.shown, Destination.byte]

omit [DecidableEq Cls] in
lemma exists_number_of_byte {inst : Instance} (h : inst.InRange) (hbyte : inst.byte ≤ 31) :
    ∃ value, inst = .number value := by
  cases inst <;> simp only [Instance.InRange, Instance.byte] at h hbyte <;> try omega
  exact ⟨_, rfl⟩

omit [DecidableEq Cls] in
lemma exists_featureNumber_of_byte {inst : Instance} (h : inst.InRange) (hlow : 0x20 ≤ inst.byte)
    (hhigh : inst.byte ≤ 0x3F) : ∃ value, inst = .featureNumber value := by
  cases inst <;> simp only [Instance.InRange, Instance.byte] at h hlow hhigh <;> try omega
  exact ⟨_, rfl⟩

omit [DecidableEq Cls] in
lemma eq_featureDevice_of_byte {inst : Instance} (h : inst.InRange) (hbyte : inst.byte = 0xFC) :
    inst = .featureDevice := by
  cases inst <;> simp only [Instance.InRange, Instance.byte] at h hbyte <;> try omega
  rfl

omit [DecidableEq Cls] in
/-- The instance that is read has the byte of the one that was written only if both are one. -/
lemma shownInstance_byte_iff (doc : lib.IsDocumented) {inst : Instance} (h : inst.InRange) :
    (∃ shown, shownInstance lib info inst = some shown ∧ shown.byte = inst.byte) ↔
      if info.kind = .deviceFeature then inst = .featureDevice ∨
        ∃ value, inst = .featureNumber value
      else ∃ value, inst = .number value := by
  by_cases hkind : info.kind = .deviceFeature
  · rw [if_pos hkind]
    constructor
    · rintro ⟨shown, hshown, hbyte⟩
      cases hvalue : lib.value inst with
      | none =>
        simp only [shownInstance, hvalue, hkind, if_true, Option.some.injEq] at hshown
        subst hshown
        exact .inl (eq_featureDevice_of_byte h hbyte.symm)
      | some value =>
        simp only [shownInstance, hvalue, hkind, if_true, Option.ite_none_left_eq_some,
          Option.some.injEq] at hshown
        obtain ⟨hle, rfl⟩ := hshown
        have hvalue : 0x20 + value = inst.byte := hbyte
        exact .inr (exists_featureNumber_of_byte h (by omega) (by omega))
    · rintro (rfl | ⟨value, rfl⟩)
      · exact ⟨.featureDevice, by simp [shownInstance, doc.value_featureDevice, hkind], rfl⟩
      · have hle : ¬31 < value := Nat.not_lt.2 h
        exact ⟨.featureNumber value,
          by simp [shownInstance, doc.value_featureNumber, hkind, hle], rfl⟩
  · rw [if_neg hkind]
    constructor
    · rintro ⟨shown, hshown, hbyte⟩
      cases hvalue : lib.value inst with
      | none => simp [shownInstance, hvalue, hkind] at hshown
      | some value =>
        simp only [shownInstance, hvalue, hkind, if_false, Option.ite_none_left_eq_some,
          Option.some.injEq] at hshown
        obtain ⟨hle, rfl⟩ := hshown
        have hvalue : value = inst.byte := hbyte
        exact exists_number_of_byte h (by omega)
    · rintro ⟨value, rfl⟩
      have hle : ¬31 < value := Nat.not_lt.2 h
      exact ⟨.number value, by simp [shownInstance, doc.value_number, hkind, hle], rfl⟩

lemma toOption_eq_some_iff {ε α : Type} {result : Except ε α} {value : α} :
    result.toOption = some value ↔ result = .ok value := by
  cases result <;> simp [Except.toOption]

omit [DecidableEq Cls] in
/-- The arguments that are read make the frame of those that were written if and only if the
expression says all of them. -/
lemma frame_shownArguments_iff (doc : lib.IsDocumented) {arguments : Arguments}
    (h : Decodes lib info arguments) :
    (∃ shown, shownArguments lib info arguments = some shown ∧
      Command.frame lib ⟨info.cls, shown⟩ = Command.frame lib ⟨info.cls, arguments⟩) ↔
    IsExpressible info arguments := by
  cases h with
  | standard hkind hdestination hsome hdata =>
    simp [shownArguments, Command.frame, IsExpressible, byte_shown_eq_iff hdestination]
  | onInstance hkind hdestination hinst hneeds =>
    rw [IsExpressible, ← byte_shown_eq_iff hdestination, ← shownInstance_byte_iff doc hinst]
    simp only [shownArguments, Option.map_eq_some_iff]
    constructor
    · rintro ⟨-, ⟨shown, hshown, rfl⟩, hframe⟩
      simp only [Command.frame, Frame.mk.injEq, Option.some.injEq, and_true] at hframe
      exact ⟨hframe.1, shown, hshown, hframe.2⟩
    · rintro ⟨hbyte, shown, hshown, hinst⟩
      refine ⟨_, ⟨shown, hshown, rfl⟩, ?_⟩
      simp only [Command.frame, hbyte, hinst]
  | special hkind hsome hdata => simp [shownArguments, IsExpressible]
  | commissioning hkind hbroadcast hrange => simp [shownArguments, IsExpressible]

/-- An expression of a command is read back as a command with the same frame and device type if
and only if the expression says all of it. -/
theorem parseExpression_formatCommandExpression_iff (doc : lib.IsDocumented)
    (str : Command Cls → Text) {command : Command Cls}
    (hinfo : (reverseTable (buildCommandRegistry lib)).get? command.cls = some info)
    (h : Decodes lib info command.arguments) :
    (∃ read, parseExpression table lib (formatCommandExpression lib str command)
        (buildCommandRegistry lib) = .ok read ∧
      read.frame lib = command.frame lib ∧
      lib.deviceType read.cls = lib.deviceType command.cls) ↔
    IsExpressible info command.arguments := by
  obtain ⟨hrow, hget, hcls⟩ := get?_of_reverseTable hinfo
  obtain ⟨cls, arguments⟩ := command
  subst hcls
  have hparse : (parseExpression table lib (formatCommandExpression lib str ⟨info.cls, arguments⟩)
      (buildCommandRegistry lib)).toOption =
        (shownArguments lib info arguments).map fun shown => ⟨info.cls, shown⟩ := by
    rw [formatCommandExpression, hinfo]
    simp only
    rw [parseExpression_expression (doc.isName_displayName hrow) (isTexts_argumentTexts _ _) hget]
    exact parseTokens_argumentTexts table h
  rw [← frame_shownArguments_iff doc h]
  constructor
  · rintro ⟨read, hread, hframe, -⟩
    rw [toOption_eq_some_iff.2 hread] at hparse
    obtain ⟨shown, hshown, rfl⟩ := Option.map_eq_some_iff.1 hparse.symm
    exact ⟨shown, hshown, hframe⟩
  · rintro ⟨shown, hshown, hframe⟩
    rw [hshown] at hparse
    exact ⟨⟨info.cls, shown⟩, toOption_eq_some_iff.1 hparse, hframe, rfl⟩

/-- The query of the input value of instance 3 of a device. -/
theorem parseExpression_formatCommandExpression_queryInputValue :
    (∃ read, parseExpression .ascii smallLibrary
        (formatCommandExpression smallLibrary (fun _ => [])
          ⟨queryInputValueInfo.cls, .onInstance (.short 5) (.number 3)⟩)
        (buildCommandRegistry smallLibrary) = .ok read ∧
      read.frame smallLibrary =
        Command.frame smallLibrary
          ⟨queryInputValueInfo.cls, .onInstance (.short 5) (.number 3)⟩ ∧
      smallLibrary.deviceType read.cls = smallLibrary.deviceType queryInputValueInfo.cls) ↔
    IsExpressible queryInputValueInfo (.onInstance (.short 5) (.number 3)) :=
  parseExpression_formatCommandExpression_iff smallLibrary_isDocumented (fun _ => [])
    get?_queryInputValue
    (.onInstance (.inl rfl) (by simp [Destination.InRange]) (by simp [Instance.InRange]) rfl)

end Table

end WbMqttDali.SendCommand
