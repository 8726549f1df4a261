import Mathlib
import WbMqttDali.SendCommand.Registry

/-!
# Commands as expressions

A command is written as its registered name with the destination, the instance and the data
behind it, and read back from such a text.  The formatter leaves out a destination that is
no address and no group, and writes every instance that has a value as a number.
-/

namespace WbMqttDali.SendCommand

open Tokens

/-! ### Characters -/

/-- White space of ASCII. -/
def isAsciiSpace (c : Char) : Bool :=
  (9 ≤ c.toNat && c.toNat ≤ 13) || (28 ≤ c.toNat && c.toNat ≤ 32)

/-- The tables of the characters that `str` and `int` go by, as far as they reach into ASCII. -/
structure CharTable where
  /-- `str.isspace`, also the white space of a pattern -/
  isSpace : Char → Bool
  /-- `str.isdigit` -/
  isDigit : Char → Bool
  /-- the decimal digit that `int` reads -/
  decimal : Char → Option ℕ
  /-- `str.upper` -/
  upper : Char → Text
  isSpace_ascii : ∀ c : Char, c.toNat < 128 → isSpace c = isAsciiSpace c
  isDigit_ascii : ∀ c : Char, c.toNat < 128 → isDigit c = c.isDigit
  decimal_ascii : ∀ c : Char, c.toNat < 128 →
    decimal c = if c.isDigit then some (c.toNat - 48) else none
  upper_ascii : ∀ c : Char, c.toNat < 128 → upper c = [c.toUpper]

/-- The tables with no entries beyond ASCII. -/
def CharTable.ascii : CharTable where
  isSpace := isAsciiSpace
  isDigit := Char.isDigit
  decimal c := if c.isDigit then some (c.toNat - 48) else none
  upper c := [c.toUpper]
  isSpace_ascii := fun _ _ => rfl
  isDigit_ascii := fun _ _ => rfl
  decimal_ascii := fun _ _ => rfl
  upper_ascii := fun _ _ => rfl

/-! ### The shape of an expression -/

/-- The rest of a name of segments `[A-Za-z][A-Za-z0-9]*` with dots between them, where a segment
is to begin or has begun. -/
def isNameRest : Bool → Text → Bool
  | begins, [] => !begins
  | true, c :: rest => c.isAlpha && isNameRest false rest
  | false, c :: rest =>
    if c = '.' then isNameRest true rest else c.isAlphanum && isNameRest false rest

def isName (name : Text) : Bool := isNameRest true name

/-- A character of a name. -/
def isNameChar (c : Char) : Bool := c.isAlphanum || c = '.'

section Table

variable (table : CharTable)

/-- `_EXPRESSION_PATTERN`: a name, and what is between parentheses behind it. -/
def matchExpression (expr : Text) : Option (Text × Text) :=
  let text := strip table.isSpace expr
  let name := text.takeWhile isNameChar
  if !isName name then none
  else
    match (text.drop name.length).dropWhile table.isSpace with
    | [] => some (name, [])
    | '(' :: rest =>
      -- the last parenthesis closes the arguments
      if rest.getLast? = some ')' then some (name, strip table.isSpace rest.dropLast) else none
    | _ :: _ => none

/-! ### Tokens -/

/-- An argument: the kind and the value of `_parse_token`. -/
inductive Token where
  | addr (value : ℕ)
  | group (value : ℕ)
  | inst (value : ℕ)
  | data (value : ℤ)
  deriving DecidableEq, Repr

inductive ParseError where
  | unbalancedParentheses
  | malformed
  | unknownCommand (name : Text)
  | unreadable (token : Text)
  /-- `int` does not take the digits. -/
  | notDecimal (digits : Text)
  | severalArguments
  | missingArgument
  | notAnAddress (token : Text)
  | duplicateAddress
  | duplicateGroup
  | mixedAddresses
  | duplicateInstance
  | duplicateData
  | noAddress
  | noInstance
  | missingInstance
  | noData
  | missingData
  | addressRange (value : ℕ)
  | groupRange (maximum value : ℕ)
  | instanceRange (value : ℕ)
  | dataRange (value : ℤ)
  /-- The constructor of the command raises. -/
  | rejected
  deriving DecidableEq, Repr

/-- What `int` reads in place of a character: an ASCII digit for every decimal digit. -/
def toAscii (c : Char) : Char :=
  match table.decimal c with
  | some digit => Nat.digitChar digit
  | none => c

/-- The value of a digit, also of a hexadecimal one. -/
def digitValue (c : Char) : Option ℕ :=
  if c.isDigit then some (c.toNat - 48)
  else if 'a' ≤ c ∧ c ≤ 'f' then some (c.toNat - 87)
  else if 'A' ≤ c ∧ c ≤ 'F' then some (c.toNat - 55)
  else none

/-- Digits of the base, with single underscores between them. -/
def parseDigits (base : ℕ) (text : Text) : Option ℕ :=
  let parts := text.splitOn '_'
  if parts.all fun part => part ≠ [] && part.all fun c => (digitValue c).any (· < base) then
    some (parts.flatten.foldl (fun value c => base * value + (digitValue c).getD 0) 0)
  else none

/-- The digits behind the letter of a base; an underscore may be in front of them. -/
def parsePrefixed (base : ℕ) : Text → Option ℕ
  | '_' :: digits => parseDigits base digits
  | digits => parseDigits base digits

/-- A number without a sign.  A decimal number other than 0 has no 0 in front. -/
def parseMagnitude : Text → Option ℕ
  | '0' :: 'x' :: digits => parsePrefixed 16 digits
  | '0' :: 'X' :: digits => parsePrefixed 16 digits
  | '0' :: 'o' :: digits => parsePrefixed 8 digits
  | '0' :: 'O' :: digits => parsePrefixed 8 digits
  | '0' :: 'b' :: digits => parsePrefixed 2 digits
  | '0' :: 'B' :: digits => parsePrefixed 2 digits
  | '0' :: digits => (parseDigits 10 ('0' :: digits)).filter (· = 0)
  | digits => parseDigits 10 digits

/-- `int(token, 0)` of a text without blanks at its ends -/
def parseInt (token : Text) : Option ℤ :=
  match token.map (toAscii table) with
  | '-' :: magnitude => (parseMagnitude magnitude).map fun value : ℕ => -(value : ℤ)
  | '+' :: magnitude => (parseMagnitude magnitude).map fun value : ℕ => (value : ℤ)
  | magnitude => (parseMagnitude magnitude).map fun value : ℕ => (value : ℤ)

/-- `int(digits)` of a text that `isdigit` -/
def parseDecimal (digits : Text) : Except ParseError ℕ :=
  if digits.all fun c => (table.decimal c).isSome then
    .ok (Nat.ofDigitChars 10 (digits.map (toAscii table)) 0)
  else .error (.notDecimal digits)

/-- The kind of token that the first character tells. -/
def tokenKind (first : Char) : Option (ℕ → Token) :=
  if table.upper first = ['A'] then some .addr
  else if table.upper first = ['G'] then some .group
  else if table.upper first = ['I'] then some .inst
  else none

/-- The last part of `_parse_token`, for a token that is no address, group or instance. -/
def parseData (token : Text) : Except ParseError Token :=
  match parseInt table token with
  | some value => .ok (.data value)
  | none => .error (.unreadable token)

/-- `_parse_token` -/
def parseToken : Text → Except ParseError Token
  | [] => parseData table []
  | first :: digits =>
    match tokenKind table first with
    | some kind =>
      if digits ≠ [] ∧ digits.all table.isDigit then (parseDecimal table digits).map kind
      else parseData table (first :: digits)
    | none => parseData table (first :: digits)

def noShortAddressToken : Text := "no_short_address".toList

/-! ### The parser -/

/-- The local variables of the loop over the tokens. -/
structure ParsedArgs where
  address : Option ℕ := none
  group : Option ℕ := none
  inst : Option ℕ := none
  data : Option ℤ := none
  deriving DecidableEq, Repr

/-- One turn of the loop over the tokens. -/
def ParsedArgs.add (args : ParsedArgs) : Token → Except ParseError ParsedArgs
  | .addr value =>
    if args.address.isSome then .error .duplicateAddress
    else if args.group.isSome then .error .mixedAddresses
    else .ok { args with address := some value }
  | .group value =>
    if args.group.isSome then .error .duplicateGroup
    else if args.address.isSome then .error .mixedAddresses
    else .ok { args with group := some value }
  | .inst value =>
    if args.inst.isSome then .error .duplicateInstance else .ok { args with inst := some value }
  | .data value =>
    if args.data.isSome then .error .duplicateData else .ok { args with data := some value }

/-- The loop over the tokens. -/
def parseArgs (args : ParsedArgs) (tokens : List Text) : Except ParseError ParsedArgs :=
  tokens.foldlM (fun args token => parseToken table token >>= args.add) args

/-- The highest group of an address space. -/
def KindTraits.maxGroup (traits : KindTraits) : ℕ :=
  if traits.addressKind = some .gear then 15 else 31

variable {Cls : Type}

/-- The checks behind the loop: the error, if there is one. -/
def ParsedArgs.error? (args : ParsedArgs) (info : CommandInfo Cls) : Option ParseError :=
  let traits := info.kind.traits
  if !traits.needsAddress && (args.address.isSome || args.group.isSome) then some .noAddress
  else if traits.instanceMode = .disallowed && args.inst.isSome then some .noInstance
  else if traits.instanceMode = .required && args.inst.isNone then some .missingInstance
  else if !info.needsData && args.data.isSome then some .noData
  else if info.needsData && args.data.isNone then some .missingData
  else if args.address.any (63 < ·) then some (.addressRange (args.address.getD 0))
  else if args.group.any (traits.maxGroup < ·) then
    some (.groupRange traits.maxGroup (args.group.getD 0))
  else if args.inst.any (31 < ·) then some (.instanceRange (args.inst.getD 0))
  else if args.data.any (fun value => value < 0 || 255 < value) then
    some (.dataRange (args.data.getD 0))
  else none

/-- `build_gear_address` and `build_device_address` where there is something to address; the
group goes first. -/
def ParsedArgs.destination (args : ParsedArgs) : Destination :=
  match args.group, args.address with
  | some number, _ => .group number
  | none, some address => .short address
  | none, none => .broadcast

variable [DecidableEq Cls] (lib : Library Cls)

/-- `_parse_commissioning_arg` -/
def parseCommissioningArg (info : CommandInfo Cls) : List Text → Except ParseError CommissioningArg
  | [] =>
    if info.cls ≠ lib.gearGeneral "Initialise".toList then .error .missingArgument
    else .ok .broadcast
  | [token] =>
    if token = noShortAddressToken then .ok .noShortAddress
    else
      match parseToken table token with
      | .error error => .error error
      | .ok (.addr value) =>
        if 63 < value then .error (.addressRange value) else .ok (.shortAddress value)
      | .ok _ => .error (.notAnAddress token)
  | _ :: _ :: _ => .error .severalArguments

omit [DecidableEq Cls] in
/-- The constructor of a command with or without data. -/
def construct (cls : Cls) (arguments : Option ℕ → Arguments) (data : Option ℕ) :
    Except ParseError (Command Cls) :=
  if data.all (lib.accepts cls) then .ok ⟨cls, arguments data⟩ else .error .rejected

/-- `_build_command` for arguments that were checked -/
def buildCommand (info : CommandInfo Cls) (args : ParsedArgs) : Except ParseError (Command Cls) :=
  let data := args.data.map Int.toNat
  match info.kind with
  | .gearStandard | .deviceStandard => construct lib info.cls (.standard args.destination) data
  | .gearSpecial | .deviceSpecial => construct lib info.cls .special data
  | .deviceInstance =>
    .ok ⟨info.cls, .onInstance args.destination (.number (args.inst.getD 0))⟩
  | .deviceFeature =>
    .ok ⟨info.cls, .onInstance args.destination (args.inst.elim .featureDevice .featureNumber)⟩
  -- these have a parser of their own
  | .gearCommissioning => .error .rejected

/-- `parse_expression` behind the name, with the tokens that were split -/
def parseTokens (info : CommandInfo Cls) (tokens : List Text) : Except ParseError (Command Cls) :=
  if info.kind = .gearCommissioning then
    (parseCommissioningArg table lib info tokens).map fun arg => ⟨info.cls, .commissioning arg⟩
  else
    match parseArgs table {} tokens with
    | .error error => .error error
    | .ok args =>
      match args.error? info with
      | some error => .error error
      | none => buildCommand lib info args

/-- `parse_expression` -/
def parseExpression (expr : Text) (registry : Registry Cls) : Except ParseError (Command Cls) :=
  if expr.count '(' ≠ expr.count ')' then .error .unbalancedParentheses
  else
    match matchExpression table expr with
    | none => .error .malformed
    | some (name, body) =>
      match registry.get? name with
      | none => .error (.unknownCommand name)
      | some info => parseTokens table lib info (splitTokens table.isSpace ',' body)

end Table

/-! ### The formatter -/

/-- A token as the formatter writes it. -/
def Token.text : Token → Text
  | .addr value => 'A' :: decimal value
  | .group value => 'G' :: decimal value
  | .inst value => 'I' :: decimal value
  | .data value => decimal value.toNat

/-- `_commissioning_arg_token`; a broadcast has none. -/
def CommissioningArg.text : CommissioningArg → Text
  | .noShortAddress => noShortAddressToken
  | .shortAddress address => (Token.addr address).text
  | .broadcast => []

/-- A broadcast has no address and no group, so there is nothing to write. -/
def Destination.token? : Destination → Option Token
  | .short address => some (.addr address)
  | .group number => some (.group number)
  | .broadcast | .broadcastUnaddressed => none

/-- The attribute `destination`. -/
def Arguments.destination? : Arguments → Option Destination
  | .standard destination _ | .onInstance destination _ => some destination
  | .special _ | .commissioning _ => none

/-- The attribute `instance`. -/
def Arguments.inst? : Arguments → Option Instance
  | .onInstance _ inst => some inst
  | .standard _ _ | .special _ | .commissioning _ => none

/-- The attribute `power` or `param`. -/
def Arguments.data? : Arguments → Option ℕ
  | .standard _ data | .special data => data
  | .onInstance _ _ | .commissioning _ => none

section Formatter

variable {Cls : Type} (lib : Library Cls)

/-- `_command_expression_args` -/
def commandExpressionArgs (arguments : Arguments) (info : CommandInfo Cls) : List Token :=
  let traits := info.kind.traits
  (if traits.needsAddress then (arguments.destination?.bind Destination.token?).toList else []) ++
  (if traits.instanceMode ≠ .disallowed then
      ((arguments.inst?.bind lib.value).map Token.inst).toList
    else []) ++
  (if info.needsData then (arguments.data?.map fun data => Token.data data).toList else [])

/-- The texts of the arguments. -/
def argumentTexts (arguments : Arguments) (info : CommandInfo Cls) : List Text :=
  if info.kind = .gearCommissioning then
    match arguments with
    | .commissioning arg => [arg.text].filter (· ≠ [])
    | _ => []
  else (commandExpressionArgs lib arguments info).map Token.text

/-- The name, and the texts in parentheses. -/
def expression (name : Text) (texts : List Text) : Text :=
  if texts = [] then name else name ++ '(' :: ([',', ' '].intercalate texts ++ [')'])

variable [DecidableEq Cls]

/-- `format_command_expression` for a command; `str` writes one whose class is not registered. -/
def formatCommandExpression (str : Command Cls → Text) (command : Command Cls) : Text :=
  match (reverseTable (buildCommandRegistry lib)).get? command.cls with
  | none => str command
  | some info => expression info.displayName (argumentTexts lib command.arguments info)

end Formatter

end WbMqttDali.SendCommand
