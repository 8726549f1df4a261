import Mathlib
import WbMqttDali.SendCommand.RoundTrip

/-!
# Expressions that are accepted

What the parser makes of an expression is a command that the decoder could have yielded, and
the expression of that command says all of it.  So the text that the formatter writes for the
command of an accepted expression is accepted too, with the same command.  The arguments of
an expression may stand in any order.
-/

namespace WbMqttDali.SendCommand

section Accepted

variable {table : CharTable} {Cls : Type} {lib : Library Cls} {info : CommandInfo Cls}

/-! ### The arguments that are built -/

lemma inRange_destination {args : ParsedArgs} (h : args.Checked info) :
    args.destination.InRange info.kind.traits := by
  rw [ParsedArgs.destination]
  cases hgroup : args.group with
  | some number => exact h.group_le number hgroup
  | none =>
    cases haddress : args.address with
    | some address => exact h.address_le address haddress
    | none => trivial

lemma destination_ne (args : ParsedArgs) : args.destination ≠ .broadcastUnaddressed := by
  rw [ParsedArgs.destination]
  split <;> simp

lemma isSome_map_toNat {args : ParsedArgs} (h : args.Checked info) :
    (args.data.map Int.toNat).isSome = info.needsData := by
  rw [Option.isSome_map, h.data_isSome]

/-- A constructor that takes the data. -/
lemma of_construct {args : ParsedArgs} (hchecked : args.Checked info)
    {arguments : Option ℕ → Arguments} {command : Command Cls}
    (h : construct lib info.cls arguments (args.data.map Int.toNat) = .ok command) :
    command = ⟨info.cls, arguments (args.data.map Int.toNat)⟩ ∧
      ∀ value ∈ args.data.map Int.toNat, value ≤ 255 ∧ lib.accepts info.cls value = true := by
  rw [construct] at h
  split at h
  case isFalse => cases h
  case isTrue haccepts =>
    cases h
    refine ⟨rfl, fun value hvalue => ⟨?_, ?_⟩⟩
    · obtain ⟨byte, hbyte, rfl⟩ := Option.map_eq_some_iff.1 hvalue
      have hrange := hchecked.data_le byte hbyte
      omega
    · rw [hvalue] at haccepts
      exact haccepts

/-- What is built is a command of the decoder, and its expression says all of it. -/
lemma decodes_of_buildCommand {args : ParsedArgs} {command : Command Cls}
    (hneeds : info.kind = .deviceInstance ∨ info.kind = .deviceFeature → info.needsData = false)
    (hchecked : args.Checked info) (h : buildCommand lib info args = .ok command) :
    command.cls = info.cls ∧ Decodes lib info command.arguments ∧
      IsExpressible info command.arguments := by
  have hinst : ∀ value ∈ args.inst, value ≤ 31 := hchecked.inst_le
  rw [buildCommand] at h
  cases hkind : info.kind with
  | gearStandard =>
    simp only [hkind] at h
    obtain ⟨rfl, hdata⟩ := of_construct hchecked h
    exact ⟨rfl, .standard (.inl hkind) (inRange_destination hchecked) (isSome_map_toNat hchecked)
      hdata, destination_ne args⟩
  | deviceStandard =>
    simp only [hkind] at h
    obtain ⟨rfl, hdata⟩ := of_construct hchecked h
    exact ⟨rfl, .standard (.inr hkind) (inRange_destination hchecked) (isSome_map_toNat hchecked)
      hdata, destination_ne args⟩
  | gearSpecial =>
    simp only [hkind] at h
    obtain ⟨rfl, hdata⟩ := of_construct hchecked h
    exact ⟨rfl, .special (.inl hkind) (isSome_map_toNat hchecked) hdata, trivial⟩
  | deviceSpecial =>
    simp only [hkind] at h
    obtain ⟨rfl, hdata⟩ := of_construct hchecked h
    exact ⟨rfl, .special (.inr hkind) (isSome_map_toNat hchecked) hdata, trivial⟩
  -- an instance has a number for its commands, and may have none for those of a feature
  | deviceInstance =>
    simp only [hkind] at h
    cases h
    obtain ⟨value, hvalue⟩ := Option.isSome_iff_exists.1 (hchecked.required (by rw [hkind]; rfl))
    refine ⟨rfl, .onInstance (.inl hkind) (inRange_destination hchecked) ?_ (hneeds (.inl hkind)),
      destination_ne args, ?_⟩
    · rw [hvalue, Option.getD_some]
      exact hinst value hvalue
    · rw [if_neg (by simp [hkind])]
      exact ⟨_, rfl⟩
  | deviceFeature =>
    simp only [hkind] at h
    cases h
    refine ⟨rfl, .onInstance (.inr hkind) (inRange_destination hchecked) ?_ (hneeds (.inr hkind)),
      destination_ne args, ?_⟩
    · cases hvalue : args.inst with
      | none => trivial
      | some value => exact hinst value hvalue
    · rw [if_pos hkind]
      cases args.inst with
      | none => exact .inl rfl
      | some value => exact .inr ⟨value, rfl⟩
  | gearCommissioning =>
    simp only [hkind] at h
    cases h

variable [DecidableEq Cls]

lemma decodes_of_parseCommissioningArg {tokens : List Text} {arg : CommissioningArg}
    (hkind : info.kind = .gearCommissioning)
    (h : parseCommissioningArg table lib info tokens = .ok arg) :
    Decodes lib info (.commissioning arg) := by
  rcases tokens with _ | ⟨token, _ | ⟨next, tokens⟩⟩
  · rw [parseCommissioningArg] at h
    split at h
    case isTrue => cases h
    case isFalse hcls =>
      cases h
      exact .commissioning hkind (fun _ => not_not.1 hcls) (by simp)
  · rw [parseCommissioningArg] at h
    split at h
    case isTrue =>
      cases h
      exact .commissioning hkind (by simp) (by simp)
    case isFalse =>
      split at h
      · cases h
      · split at h
        · cases h
        · rename_i value _ hle
          cases h
          refine .commissioning hkind (by simp) ?_
          intro address haddress
          cases haddress
          omega
      · cases h
  · cases h

/-- A text that is accepted stands for a command of the decoder that an expression can say. -/
lemma decodes_of_parseTokens {tokens : List Text} {command : Command Cls}
    (hneeds : info.kind = .deviceInstance ∨ info.kind = .deviceFeature → info.needsData = false)
    (h : parseTokens table lib info tokens = .ok command) :
    command.cls = info.cls ∧ Decodes lib info command.arguments ∧
      IsExpressible info command.arguments := by
  rw [parseTokens] at h
  split at h
  case isTrue hkind =>
    cases harg : parseCommissioningArg table lib info tokens with
    | error error =>
      rw [harg] at h
      cases h
    | ok arg =>
      rw [harg] at h
      cases h
      exact ⟨rfl, decodes_of_parseCommissioningArg hkind harg, trivial⟩
  case isFalse =>
    split at h
    · cases h
    · rename_i args hargs
      split at h
      · cases h
      · rename_i hnone
        exact decodes_of_buildCommand hneeds (error?_eq_none_iff.1 hnone) h

/-! ### The expression of an accepted expression -/

/-- A class has one role in the registry, and no command for instances takes data. -/
structure Library.HasOneRole (lib : Library Cls) : Prop where
  role : ∀ row ∈ registryRows lib, ∀ other ∈ registryRows lib, row.cls = other.cls →
    row.kind = other.kind ∧ row.needsData = other.needsData
  noData : ∀ row ∈ registryRows lib, row.kind = .deviceInstance ∨ row.kind = .deviceFeature →
    row.needsData = false

omit [DecidableEq Cls] in
/-- An expression that says all of the arguments stands for these arguments. -/
lemma shownArguments_of_isExpressible (doc : lib.IsDocumented) {arguments : Arguments}
    (hdecodes : Decodes lib info arguments) (h : IsExpressible info arguments) :
    shownArguments lib info arguments = some arguments := by
  have hshown : ∀ {destination : Destination}, destination ≠ .broadcastUnaddressed →
      destination.shown = destination := by
    intro destination hne
    cases destination with
    | broadcastUnaddressed => exact absurd rfl hne
    | _ => rfl
  cases hdecodes with
  | standard => rw [shownArguments, hshown h]
  | special => rfl
  | commissioning => rfl
  | onInstance hkind hdestination hinst hneeds =>
    rename_i destination inst
    obtain ⟨hne, hinstance⟩ := h
    have hread : shownInstance lib info inst = some inst := by
      by_cases hfeature : info.kind = .deviceFeature
      · rw [if_pos hfeature] at hinstance
        rcases hinstance with rfl | ⟨value, rfl⟩
        · simp [shownInstance, doc.value_featureDevice, hfeature]
        · have hle : ¬31 < value := Nat.not_lt.2 hinst
          simp [shownInstance, doc.value_featureNumber, hfeature, hle]
      · rw [if_neg hfeature] at hinstance
        obtain ⟨value, rfl⟩ := hinstance
        have hle : ¬31 < value := Nat.not_lt.2 hinst
        simp [shownInstance, doc.value_number, hfeature, hle]
    rw [shownArguments, hread, hshown hne]
    rfl

omit [DecidableEq Cls] in
/-- A row with the same class and the same role decodes the same arguments. -/
lemma Decodes.of_role {other : CommandInfo Cls} {arguments : Arguments}
    (hcls : info.cls = other.cls)
    (hkind : info.kind = other.kind) (hneeds : info.needsData = other.needsData)
    (h : Decodes lib info arguments) : Decodes lib other arguments := by
  obtain ⟨cls, kind, deviceType, needsData, displayName⟩ := info
  subst hcls hkind hneeds
  cases h with
  | standard hkind hdestination hsome hdata => exact .standard hkind hdestination hsome hdata
  | onInstance hkind hdestination hinst hneeds =>
    exact .onInstance hkind hdestination hinst hneeds
  | special hkind hsome hdata => exact .special hkind hsome hdata
  | commissioning hkind hbroadcast hrange => exact .commissioning hkind hbroadcast hrange

/-- A class with a row has an entry in the reverse table. -/
lemma exists_get?_reverseTable {registry : Registry Cls} (h : info ∈ registry.values) :
    ∃ entry, (reverseTable registry).get? info.cls = some entry := by
  have hkeep : ∀ (rows : List (CommandInfo Cls)) (reverse : Dict Cls (CommandInfo Cls)),
      (∃ entry, reverse.get? info.cls = some entry) ∨ info ∈ rows →
      ∃ entry, (rows.foldl enterReverse reverse).get? info.cls = some entry := by
    intro rows
    induction rows with
    | nil =>
      rintro reverse (h | h)
      · exact h
      · cases h
    | cons row rows ih =>
      intro reverse h
      apply ih
      by_cases hrow : row.cls = info.cls
      · -- the class of the row has an entry behind this turn
        left
        rw [enterReverse, hrow]
        split
        · exact ⟨row, by rw [Dict.get?_set, if_pos rfl]⟩
        · rename_i existing hexisting
          split
          · exact ⟨row, by rw [Dict.get?_set, if_pos rfl]⟩
          · exact ⟨existing, hexisting⟩
      · rcases h with ⟨entry, hentry⟩ | h
        · left
          have hother : ∀ d : CommandInfo Cls,
              (reverse.set row.cls d).get? info.cls = some entry := by
            intro d
            rw [Dict.get?_set, if_neg (Ne.symm hrow), hentry]
          rw [enterReverse]
          split
          · exact ⟨entry, hother row⟩
          · split
            · exact ⟨entry, hother row⟩
            · exact ⟨entry, hentry⟩
        · rcases List.mem_cons.1 h with rfl | h
          · exact absurd rfl hrow
          · exact .inr h
  exact hkeep registry.values ∅ (.inr h)

/-- The text that the formatter writes for the command of an accepted expression is read as this
command. -/
theorem parseExpression_formatCommandExpression_of_parse (doc : lib.IsDocumented)
    (roles : lib.HasOneRole) (str : Command Cls → Text) (expr : Text) {command : Command Cls}
    (h : parseExpression table lib expr (buildCommandRegistry lib) = .ok command) :
    parseExpression table lib (formatCommandExpression lib str command)
      (buildCommandRegistry lib) = .ok command := by
  rw [parseExpression] at h
  split at h
  case isTrue => cases h
  case isFalse =>
    split at h
    · cases h
    · rename_i name body hmatch
      split at h
      · cases h
      · rename_i info hget
        obtain ⟨hrow, rfl⟩ := mem_rows_of_get? hget
        obtain ⟨hcls, hdecodes, hsays⟩ := decodes_of_parseTokens (roles.noData info hrow) h
        -- the name that the formatter takes may be another one, with the same role
        obtain ⟨entry, hentry⟩ :=
          exists_get?_reverseTable (Dict.mem_values_iff.2 ⟨info.displayName, hget⟩)
        obtain ⟨hentryRow, hentryGet, hentryCls⟩ := get?_of_reverseTable hentry
        obtain ⟨hkind, hneeds⟩ := roles.role info hrow entry hentryRow hentryCls.symm
        have hentryDecodes := hdecodes.of_role hentryCls.symm hkind hneeds
        have hentrySays : IsExpressible entry command.arguments := by
          unfold IsExpressible at hsays ⊢
          rwa [← hkind]
        obtain ⟨cls, arguments⟩ := command
        subst hcls
        rw [formatCommandExpression, hentry]
        simp only
        rw [parseExpression_expression (doc.isName_displayName hentryRow)
          (isTexts_argumentTexts _ _) hentryGet]
        have hparse := parseTokens_argumentTexts table hentryDecodes
        rw [shownArguments_of_isExpressible doc hentryDecodes hentrySays, Option.map_some,
          hentryCls] at hparse
        exact toOption_eq_some_iff.1 hparse

lemma smallLibrary_hasOneRole : smallLibrary.HasOneRole where
  role := by decide +kernel
  noData := by decide +kernel

/-- Blanks, the order of the arguments and zeros in front are not kept. -/
theorem parseExpression_formatCommandExpression_ofSpaced :
    parseExpression .ascii smallLibrary
      (formatCommandExpression smallLibrary (fun _ => [])
        ⟨queryInputValueInfo.cls, .onInstance (.short 5) (.number 3)⟩)
      (buildCommandRegistry smallLibrary) =
        .ok ⟨queryInputValueInfo.cls, .onInstance (.short 5) (.number 3)⟩ :=
  parseExpression_formatCommandExpression_of_parse smallLibrary_isDocumented
    smallLibrary_hasOneRole (fun _ => []) " FF24.QueryInputValue ( I03,a5 ) ".toList
    (by decide +kernel)

/-! ### The order of the arguments -/

omit [DecidableEq Cls] in
/-- Two arguments are entered in either order. -/
lemma add_comm_toOption (args : ParsedArgs) (token next : Token) :
    (args.add token >>= fun args => args.add next).toOption =
      (args.add next >>= fun args => args.add token).toOption := by
  obtain ⟨address, group, inst, data⟩ := args
  cases token <;> cases next <;> rcases address with _ | _ <;> rcases group with _ | _ <;>
    rcases inst with _ | _ <;> rcases data with _ | _ <;> rfl

lemma toOption_bind {ε α β : Type} (result : Except ε α) (next : α → Except ε β) :
    (result >>= next).toOption = result.toOption.bind fun value => (next value).toOption := by
  cases result <;> rfl

omit [DecidableEq Cls] in
/-- The loop over the tokens does not depend on their order, errors apart. -/
lemma parseArgs_perm (table : CharTable) {tokens others : List Text} (h : tokens.Perm others)
    (args : ParsedArgs) :
    (parseArgs table args tokens).toOption = (parseArgs table args others).toOption := by
  have hcons : ∀ (args : ParsedArgs) (token : Text) (tokens : List Text),
      parseArgs table args (token :: tokens) =
        ((parseToken table token >>= args.add) >>= fun args => parseArgs table args tokens) :=
    fun _ _ _ => rfl
  induction h generalizing args with
  | nil => rfl
  | cons token _ ih =>
    rw [hcons, hcons]
    simp only [toOption_bind, ih]
  | swap token next tokens =>
    rw [hcons, hcons, toOption_bind, toOption_bind]
    simp only [hcons]
    cases htoken : parseToken table token with
    | error error =>
      cases hnext : parseToken table next with
      | error error => rfl
      | ok next =>
        -- the loop ends at the other token
        cases hadd : args.add next <;> simp [hadd, bind, Except.bind, Except.toOption]
    | ok token =>
      cases hnext : parseToken table next with
      | error error =>
        cases hadd : args.add token <;> simp [hadd, bind, Except.bind, Except.toOption]
      | ok next =>
        have hswap := congrArg (fun result : Option ParsedArgs =>
          result.bind fun args => (parseArgs table args tokens).toOption)
          (add_comm_toOption args next token)
        simp only [toOption_bind, Option.bind_assoc] at hswap ⊢
        exact hswap
  | trans _ _ ih ih' => exact (ih args).trans (ih' args)

/-- The arguments of an expression may stand in any order: in each the same command is read, or
none. -/
theorem parseTokens_perm {tokens others : List Text} (h : tokens.Perm others) :
    (parseTokens table lib info tokens).toOption =
      (parseTokens table lib info others).toOption := by
  rw [parseTokens, parseTokens]
  split
  case isTrue =>
    rcases tokens with _ | ⟨token, _ | ⟨next, tokens⟩⟩
    · rw [List.nil_perm.1 h]
    · rw [List.singleton_perm.1 h]
    · -- too many arguments in either order
      have hlength := h.length_eq
      rcases others with _ | ⟨token, _ | ⟨next, others⟩⟩
      · cases hlength
      · cases hlength
      · rfl
  case isFalse =>
    have hargs := parseArgs_perm table h {}
    cases htokens : parseArgs table {} tokens with
    | error error =>
      cases hothers : parseArgs table {} others with
      | error other => rfl
      | ok args =>
        rw [htokens, hothers] at hargs
        cases hargs
    | ok args =>
      rw [htokens] at hargs
      rw [toOption_eq_some_iff.1 hargs.symm]

/-- An instance in front of the address. -/
theorem parseTokens_instanceFirst :
    (parseTokens .ascii smallLibrary queryInputValueInfo ["I3".toList, "A5".toList]).toOption =
      (parseTokens .ascii smallLibrary queryInputValueInfo ["A5".toList, "I3".toList]).toOption :=
  parseTokens_perm (List.Perm.swap _ _ _)

end Accepted

end WbMqttDali.SendCommand
