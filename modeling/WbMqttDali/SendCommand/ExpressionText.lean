import Mathlib
import WbMqttDali.SendCommand.Expression

/-!
# Taking an expression apart

The parser finds the name and the texts of the arguments that the formatter put together, and
reads back each token that the formatter writes.
-/

namespace WbMqttDali.SendCommand

open Tokens

/-! ### Characters -/

lemma toNat_of_isDigit {c : Char} (h : c.isDigit = true) : 48 ≤ c.toNat ∧ c.toNat ≤ 57 := by
  simp only [Char.isDigit, Bool.and_eq_true, decide_eq_true_eq, ge_iff_le,
    UInt32.le_iff_toNat_le] at h
  exact h

lemma toNat_of_isAlphanum {c : Char} (h : c.isAlphanum = true) :
    48 ≤ c.toNat ∧ c.toNat ≤ 57 ∨ 65 ≤ c.toNat ∧ c.toNat ≤ 122 := by
  simp only [Char.isAlphanum, Char.isAlpha, Char.isUpper, Char.isLower, Char.isDigit,
    Bool.or_eq_true, Bool.and_eq_true, decide_eq_true_eq, ge_iff_le, UInt32.le_iff_toNat_le] at h
  have htoNat : c.toNat = c.val.toNat := rfl
  have hZ : 'Z'.val.toNat = 90 := rfl
  have hz : 'z'.val.toNat = 122 := rfl
  have hA : 'A'.val.toNat = 65 := rfl
  have ha : 'a'.val.toNat = 97 := rfl
  have h9 : '9'.val.toNat = 57 := rfl
  have h0 : '0'.val.toNat = 48 := rfl
  omega

/-- A character of a token that the formatter writes. -/
def isTokenChar (c : Char) : Bool := c.isAlphanum || c = '_'

lemma ne_of_isAlphanum {c d : Char} (h : c.isAlphanum = true) (hd : d.isAlphanum = false) :
    c ≠ d := by
  rintro rfl
  rw [h] at hd
  cases hd

lemma ne_of_isTokenChar {c d : Char} (h : isTokenChar c = true) (hd : isTokenChar d = false) :
    c ≠ d := by
  rintro rfl
  rw [h] at hd
  cases hd

lemma ne_of_isNameChar {c d : Char} (h : isNameChar c = true) (hd : isNameChar d = false) :
    c ≠ d := by
  rintro rfl
  rw [h] at hd
  cases hd

/-- The characters of the texts are printed ones. -/
def IsPrinted (c : Char) : Prop := 32 < c.toNat ∧ c.toNat < 128

lemma IsPrinted.of_isNameChar {c : Char} (h : isNameChar c = true) : IsPrinted c := by
  rcases Bool.or_eq_true_iff.1 h with h | h
  · have hrange := toNat_of_isAlphanum h
    constructor <;> omega
  · rw [of_decide_eq_true h]
    constructor <;> decide

lemma IsPrinted.of_isTokenChar {c : Char} (h : isTokenChar c = true) : IsPrinted c := by
  rcases Bool.or_eq_true_iff.1 h with h | h
  · have hrange := toNat_of_isAlphanum h
    constructor <;> omega
  · rw [of_decide_eq_true h]
    constructor <;> decide

section Table

variable {table : CharTable}

lemma IsPrinted.not_isSpace {c : Char} (h : IsPrinted c) : table.isSpace c = false := by
  rw [table.isSpace_ascii c h.2, isAsciiSpace]
  have hlow := h.1
  simp
  omega

lemma isSpace_blank : table.isSpace ' ' = true := table.isSpace_ascii ' ' (by decide)

lemma isDigit_of_isDigit {c : Char} (h : c.isDigit = true) : table.isDigit c = true := by
  have hrange := toNat_of_isDigit h
  rw [table.isDigit_ascii c (by omega), h]

lemma decimal_of_isDigit {c : Char} (h : c.isDigit = true) :
    table.decimal c = some (c.toNat - 48) := by
  have hrange := toNat_of_isDigit h
  rw [table.decimal_ascii c (by omega), if_pos h]

/-- A digit of ASCII stands for itself. -/
lemma toAscii_of_isDigit {c : Char} (h : c.isDigit = true) : toAscii table c = c := by
  have hrange := toNat_of_isDigit h
  rw [toAscii, decimal_of_isDigit h]
  have hc := Char.ofNat_toNat c
  obtain ⟨digit, hdigit, hlt⟩ : ∃ digit, c.toNat = 48 + digit ∧ digit < 10 :=
    ⟨c.toNat - 48, by omega, by omega⟩
  rw [hdigit] at hc ⊢
  rw [← hc, Nat.add_sub_cancel_left]
  interval_cases digit <;> rfl

lemma map_toAscii_decimal (n : ℕ) : (decimal n).map (toAscii table) = decimal n := by
  refine (List.map_congr_left (g := fun c => c) fun c hc => ?_).trans (List.map_id' _)
  exact toAscii_of_isDigit (isDigit_of_mem_decimal hc)

/-! ### Numbers -/

lemma ofDigitChars_decimal (n : ℕ) : Nat.ofDigitChars 10 (decimal n) 0 = n :=
  Nat.ofDigitChars_ten_toDigits

lemma parseDigits_decimal (n : ℕ) : parseDigits 10 (decimal n) = some n := by
  have hdigit : ∀ c ∈ decimal n, digitValue c = some (c.toNat - 48) := by
    intro c hc
    rw [digitValue, if_pos (isDigit_of_mem_decimal hc)]
  have hsplit : (decimal n).splitOn '_' = [decimal n] := by
    have hnot : ∀ part ∈ [decimal n], '_' ∉ part := by
      intro part hpart hmem
      rw [List.mem_singleton.1 hpart] at hmem
      have hdigit := isDigit_of_mem_decimal hmem
      revert hdigit
      decide
    simpa using List.splitOn_intercalate '_' hnot (List.cons_ne_nil _ _)
  have hfold : ∀ (text : Text) (start : ℕ), (∀ c ∈ text, digitValue c = some (c.toNat - 48)) →
      text.foldl (fun value c => 10 * value + (digitValue c).getD 0) start =
        Nat.ofDigitChars 10 text start := by
    intro text
    induction text with
    | nil => exact fun _ _ => rfl
    | cons c text ih =>
      intro start htext
      rw [List.foldl_cons, htext c List.mem_cons_self, Nat.ofDigitChars_cons]
      exact ih _ fun d hd => htext d (List.mem_cons_of_mem _ hd)
  rw [parseDigits, hsplit]
  have hall : ([decimal n].all fun part =>
      part ≠ [] && part.all fun c => (digitValue c).any (· < 10)) = true := by
    simp only [List.all_cons, List.all_nil, Bool.and_true, Bool.and_eq_true, decide_eq_true_eq,
      List.all_eq_true]
    refine ⟨decimal_ne_nil n, fun c hc => ?_⟩
    have hrange := toNat_of_isDigit (isDigit_of_mem_decimal hc)
    rw [hdigit c hc]
    simp
    omega
  simp only [hall, if_true, List.flatten_cons, List.flatten_nil, List.append_nil]
  rw [hfold _ _ hdigit, ofDigitChars_decimal]

lemma parseMagnitude_decimal (n : ℕ) : parseMagnitude (decimal n) = some n := by
  by_cases hzero : n = 0
  · subst hzero
    rfl
  · -- no other number begins with a 0, so the bases are not asked for
    have hhead : ∀ rest, decimal n ≠ '0' :: rest := by
      intro rest heq
      apply hzero
      apply eq_zero_of_head_decimal
      rw [heq, List.head?_cons]
    rw [parseMagnitude]
    · exact parseDigits_decimal n
    all_goals
      intro rest heq
      exact hhead _ heq

lemma parseInt_decimal (n : ℕ) : parseInt table (decimal n) = some (n : ℤ) := by
  have hsign : ∀ c rest, c.isDigit = false → decimal n ≠ c :: rest := by
    intro c rest hc heq
    have hdigit : c.isDigit = true := by
      apply isDigit_of_mem_decimal (n := n)
      rw [heq]
      exact List.mem_cons_self
    rw [hc] at hdigit
    cases hdigit
  rw [parseInt, map_toAscii_decimal]
  split
  · rename_i heq
    exact absurd heq (hsign '-' _ (by decide))
  · rename_i heq
    exact absurd heq (hsign '+' _ (by decide))
  · rw [parseMagnitude_decimal, Option.map_some]

lemma parseDecimal_decimal (n : ℕ) : parseDecimal table (decimal n) = .ok n := by
  have hall : ((decimal n).all fun c => (table.decimal c).isSome) = true := by
    rw [List.all_eq_true]
    intro c hc
    rw [decimal_of_isDigit (isDigit_of_mem_decimal hc), Option.isSome_some]
  rw [parseDecimal, if_pos hall, map_toAscii_decimal, ofDigitChars_decimal]

/-! ### Tokens -/

lemma isTokenChar_of_mem_decimal {n : ℕ} {c : Char} (h : c ∈ decimal n) : isTokenChar c = true := by
  rw [isTokenChar, Char.isAlphanum, isDigit_of_mem_decimal h, Bool.or_true, Bool.true_or]

lemma isTokenChar_of_mem_text (token : Token) : ∀ c ∈ token.text, isTokenChar c = true := by
  have hcons : ∀ {first : Char} {n : ℕ}, isTokenChar first = true →
      ∀ c ∈ first :: decimal n, isTokenChar c = true := by
    intro first n hfirst c hc
    rcases List.mem_cons.1 hc with rfl | hc
    · exact hfirst
    · exact isTokenChar_of_mem_decimal hc
  cases token with
  | addr value => exact hcons rfl
  | group value => exact hcons rfl
  | inst value => exact hcons rfl
  | data value => exact fun c hc => isTokenChar_of_mem_decimal hc

lemma text_ne_nil (token : Token) : token.text ≠ [] := by
  cases token with
  | data value => exact decimal_ne_nil _
  | _ => exact List.cons_ne_nil _ _

lemma all_isDigit_decimal (n : ℕ) : (decimal n).all table.isDigit = true := by
  rw [List.all_eq_true]
  intro c hc
  exact isDigit_of_isDigit (isDigit_of_mem_decimal hc)

/-- A number has no letter in front that tells a kind of token. -/
lemma tokenKind_of_isDigit {c : Char} (h : c.isDigit = true) : tokenKind table c = none := by
  have hrange := toNat_of_isDigit h
  have hupper : table.upper c = [c] := by
    rw [table.upper_ascii c (by omega), Char.toUpper, dif_neg]
    rintro ⟨hlower, -⟩
    rw [UInt32.le_iff_toNat_le] at hlower
    have htoNat : c.toNat = c.val.toNat := rfl
    have ha : 'a'.val.toNat = 97 := rfl
    omega
  have hne : ∀ d : Char, d.isDigit = false → [c] ≠ [d] := by
    intro d hd heq
    cases heq
    rw [h] at hd
    cases hd
  rw [tokenKind, hupper, if_neg (hne 'A' (by decide)), if_neg (hne 'G' (by decide)),
    if_neg (hne 'I' (by decide))]

/-- The formatter's tokens are read back. -/
lemma parseToken_text {token : Token} (h : ∀ value, token = .data value → 0 ≤ value) :
    parseToken table token.text = .ok token := by
  have hkind : ∀ {first : Char} {kind : ℕ → Token} (n : ℕ), tokenKind table first = some kind →
      parseToken table (first :: decimal n) = .ok (kind n) := by
    intro first kind n hfirst
    rw [parseToken, hfirst]
    simp only [ne_eq, decimal_ne_nil, not_false_eq_true, all_isDigit_decimal, and_self, if_true,
      parseDecimal_decimal]
    rfl
  have hupper : ∀ c : Char, c.toNat < 128 → table.upper c = [c.toUpper] := table.upper_ascii
  cases token with
  | addr value => exact hkind value (by rw [tokenKind, hupper 'A' (by decide)]; rfl)
  | group value => exact hkind value (by rw [tokenKind, hupper 'G' (by decide)]; rfl)
  | inst value => exact hkind value (by rw [tokenKind, hupper 'I' (by decide)]; rfl)
  | data value =>
    obtain ⟨n, rfl⟩ := Int.eq_ofNat_of_zero_le (h value rfl)
    have hparse : parseData table (decimal n) = .ok (.data n) := by
      rw [parseData, parseInt_decimal]
    have hdigits : ∀ c ∈ decimal n, c.isDigit = true := fun c hc => isDigit_of_mem_decimal hc
    rw [Token.text, Int.toNat_natCast]
    cases htext : decimal n with
    | nil => exact absurd htext (decimal_ne_nil n)
    | cons first digits =>
      rw [htext] at hparse hdigits
      rw [parseToken, tokenKind_of_isDigit (hdigits _ List.mem_cons_self)]
      exact hparse

/-! ### The text of an expression -/

lemma isNameChar_of_mem {begins : Bool} {name : Text} (h : isNameRest begins name = true) :
    ∀ c ∈ name, isNameChar c = true := by
  induction name generalizing begins with
  | nil => simp
  | cons first name ih =>
    intro c hc
    cases begins with
    | true =>
      obtain ⟨hfirst, hname⟩ := Bool.and_eq_true_iff.1 h
      rcases List.mem_cons.1 hc with rfl | hc
      · rw [isNameChar, Char.isAlphanum, hfirst, Bool.true_or, Bool.true_or]
      · exact ih hname c hc
    | false =>
      rw [isNameRest] at h
      split at h
      case isTrue hdot =>
        rcases List.mem_cons.1 hc with rfl | hc
        · rw [isNameChar, decide_eq_true hdot, Bool.or_true]
        · exact ih h c hc
      case isFalse =>
        obtain ⟨hfirst, hname⟩ := Bool.and_eq_true_iff.1 h
        rcases List.mem_cons.1 hc with rfl | hc
        · rw [isNameChar, hfirst, Bool.true_or]
        · exact ih hname c hc

lemma isName_ne_nil {name : Text} (h : isName name = true) : name ≠ [] := by
  rintro rfl
  cases h

/-- The texts that the formatter puts in parentheses. -/
structure IsTexts (texts : List Text) : Prop where
  ne_nil : ∀ text ∈ texts, text ≠ []
  chars : ∀ text ∈ texts, ∀ c ∈ text, isTokenChar c = true

variable {name : Text} {texts : List Text}

lemma isPrinted_of_isName (h : isName name = true) : ∀ c ∈ name, IsPrinted c :=
  fun c hc => .of_isNameChar (isNameChar_of_mem h c hc)

/-- The ends of the joined texts are ends of texts. -/
lemma IsTexts.strip_intercalate (h : IsTexts texts) :
    strip table.isSpace ([',', ' '].intercalate texts) = [',', ' '].intercalate texts := by
  have hprinted : ∀ text ∈ texts, ∀ c ∈ text, table.isSpace c = false := by
    intro text htext c hc
    exact (IsPrinted.of_isTokenChar (h.chars text htext c hc)).not_isSpace
  cases texts with
  | nil => simp
  | cons text texts =>
    have hmem : text ∈ text :: texts := List.mem_cons_self
    apply strip_of_ends
    · intro c hc
      rw [head?_intercalate (h.ne_nil text hmem)] at hc
      exact hprinted text hmem c (List.mem_of_mem_head? hc)
    · intro c hc
      obtain ⟨last, hlast, heq⟩ :=
        exists_getLast?_intercalate [',', ' '] (List.cons_ne_nil _ _) h.ne_nil
      rw [heq] at hc
      exact hprinted last hlast c (List.mem_of_getLast? hc)

lemma IsTexts.splitTokens_intercalate (h : IsTexts texts) :
    splitTokens table.isSpace ',' ([',', ' '].intercalate texts) = texts := by
  apply Tokens.splitTokens_intercalate isSpace_blank (by decide) h.ne_nil
  intro text htext c hc
  have hchar := h.chars text htext c hc
  exact ⟨(IsPrinted.of_isTokenChar hchar).not_isSpace, ne_of_isTokenChar hchar rfl⟩

lemma matchExpression_expression (hname : isName name = true) (h : IsTexts texts) :
    matchExpression table (expression name texts) =
      some (name, [',', ' '].intercalate texts) := by
  have hchars := isNameChar_of_mem hname
  have hspace : ∀ c ∈ name, table.isSpace c = false :=
    fun c hc => (isPrinted_of_isName hname c hc).not_isSpace
  rw [expression]
  split
  case isTrue hnil =>
    subst hnil
    have hstrip : strip table.isSpace name = name := strip_of_forall hspace
    have htake : name.takeWhile isNameChar = name := List.takeWhile_eq_self_iff.2 hchars
    simp [matchExpression, hstrip, htake, hname]
  case isFalse hne =>
    let body := [',', ' '].intercalate texts
    have hopen : table.isSpace '(' = false :=
      IsPrinted.not_isSpace ⟨by decide, by decide⟩
    have hclose : table.isSpace ')' = false :=
      IsPrinted.not_isSpace ⟨by decide, by decide⟩
    have hstrip : strip table.isSpace (name ++ '(' :: (body ++ [')'])) =
        name ++ '(' :: (body ++ [')']) := by
      apply strip_of_ends
      · intro c hc
        rw [List.head?_append_of_ne_nil _ (isName_ne_nil hname)] at hc
        exact hspace c (List.mem_of_mem_head? hc)
      · intro c hc
        rw [List.getLast?_append_of_ne_nil _ (List.cons_ne_nil _ _), ← List.cons_append,
          List.getLast?_append_of_ne_nil _ (List.cons_ne_nil _ _)] at hc
        cases hc
        exact hclose
    have htake : (name ++ '(' :: (body ++ [')'])).takeWhile isNameChar = name := by
      rw [List.takeWhile_append_of_pos hchars, List.takeWhile_cons_of_neg (by decide),
        List.append_nil]
    rw [matchExpression, hstrip, htake, hname, List.drop_left,
      List.dropWhile_cons_of_neg (by simp [hopen])]
    simp [body, h.strip_intercalate]

lemma count_expression (hname : isName name = true) (h : IsTexts texts) :
    (expression name texts).count '(' = (expression name texts).count ')' := by
  have hcount : ∀ c, isNameChar c = false → name.count c = 0 := by
    intro c hc
    apply List.count_eq_zero.2
    intro hmem
    exact ne_of_isNameChar (isNameChar_of_mem hname c hmem) hc rfl
  have hbody : ∀ c, isTokenChar c = false → c ∉ [',', ' '] →
      ([',', ' '].intercalate texts).count c = 0 := by
    intro c hc hglue
    apply List.count_eq_zero.2
    intro hmem
    rcases mem_intercalate hmem with hmem | ⟨text, htext, hmem⟩
    · exact hglue hmem
    · exact ne_of_isTokenChar (h.chars text htext c hmem) hc rfl
  rw [expression]
  split
  case isTrue => rw [hcount '(' rfl, hcount ')' rfl]
  case isFalse =>
    rw [List.count_append, List.count_append, List.count_cons, List.count_cons,
      List.count_append, List.count_append, hcount '(' rfl, hcount ')' rfl,
      hbody '(' rfl (by decide), hbody ')' rfl (by decide)]
    rfl

variable {Cls : Type} [DecidableEq Cls] {lib : Library Cls} {info : CommandInfo Cls}
  {registry : Registry Cls}

/-- The parser gets the name and the texts that the formatter put together. -/
lemma parseExpression_expression (hname : isName name = true) (h : IsTexts texts)
    (hget : registry.get? name = some info) :
    parseExpression table lib (expression name texts) registry =
      parseTokens table lib info texts := by
  rw [parseExpression, if_neg (by simpa using count_expression hname h),
    matchExpression_expression hname h]
  simp only [hget, h.splitTokens_intercalate]

end Table

section Names

variable {Cls : Type} {lib : Library Cls} {info : CommandInfo Cls}

/-! ### The names of the registry -/

/-- The name of a class is a letter with letters and digits behind it. -/
def isWord : Text → Bool
  | [] => false
  | first :: rest => first.isAlpha && rest.all Char.isAlphanum

lemma isNameRest_of_all {text : Text} (h : text.all Char.isAlphanum = true) :
    isNameRest false text = true := by
  induction text with
  | nil => rfl
  | cons c text ih =>
    rw [List.all_cons, Bool.and_eq_true] at h
    have hdot : c ≠ '.' := ne_of_isAlphanum h.1 rfl
    rw [isNameRest, if_neg hdot, h.1, ih h.2]
    rfl

lemma isName_of_isWord {word : Text} (h : isWord word = true) : isName word = true := by
  cases word with
  | nil => cases h
  | cons first rest =>
    rw [isWord, Bool.and_eq_true] at h
    rw [isName, isNameRest, h.1, isNameRest_of_all h.2]
    rfl

lemma isNameRest_append {begins : Bool} {pre rest : Text}
    (hpre : isNameRest begins pre = true) (hrest : isNameRest true rest = true) :
    isNameRest begins (pre ++ '.' :: rest) = true := by
  induction pre generalizing begins with
  | nil =>
    cases begins with
    | true => cases hpre
    | false => exact hrest
  | cons c pre ih =>
    cases begins with
    | true =>
      obtain ⟨hc, hpre⟩ := Bool.and_eq_true_iff.1 hpre
      exact Bool.and_eq_true_iff.2 ⟨hc, ih hpre⟩
    | false =>
      rw [isNameRest] at hpre
      rw [List.cons_append, isNameRest]
      split at hpre
      case isTrue hdot =>
        rw [if_pos hdot]
        exact ih hpre
      case isFalse hdot =>
        obtain ⟨hc, hpre⟩ := Bool.and_eq_true_iff.1 hpre
        rw [if_neg hdot]
        exact Bool.and_eq_true_iff.2 ⟨hc, ih hpre⟩

/-- A class behind the segment of its type. -/
lemma isName_segment (segment : Text) {word : Text} (hsegment : isName segment = true)
    (h : isWord word = true) : isName (segment ++ ['.'] ++ word) = true := by
  rw [List.append_assoc]
  exact isNameRest_append hsegment (isName_of_isWord h)

/-- What the parser and the formatter rely on in the library. -/
structure Library.IsDocumented (lib : Library Cls) : Prop where
  gearStandard : ∀ found ∈ lib.gearStandard, isWord found.name = true
  gearOfType : ∀ number, ∀ found ∈ lib.gearOfType number, isWord found.name = true
  deviceStandard : ∀ found ∈ lib.deviceStandard, isWord found.name = true
  deviceInstance : ∀ found ∈ lib.deviceInstance, isWord found.name = true
  deviceOfType : ∀ number, ∀ found ∈ lib.deviceOfType number, isWord found.name = true
  deviceFeature : ∀ number, ∀ found ∈ lib.deviceFeature number, isWord found.name = true
  value_number : ∀ value, lib.value (.number value) = some value
  value_featureNumber : ∀ value, lib.value (.featureNumber value) = some value
  value_featureDevice : lib.value .featureDevice = none

/-- The parser takes every name of the registry. -/
lemma Library.IsDocumented.isName_displayName (doc : lib.IsDocumented)
    (h : info ∈ registryRows lib) :
    isName info.displayName = true := by
  have htype : ∀ {letters : String} {number : ℕ} {found : Collected Cls} (kind : CommandKind)
      (deviceType : ℕ), isName (letters.toList ++ decimal number) = true →
      isWord found.name = true →
      isName (collectedInfo kind deviceType (typeSegments letters number) found).displayName =
        true := by
    intro letters number found kind deviceType hletters hfound
    exact isName_segment _ hletters hfound
  have hgearSpecials : ∀ row ∈ gearSpecials, isName row.1.toList = true := by decide
  have hgearCommissioning : ∀ name ∈ gearCommissioning, isName name.toList = true := by decide
  have hdeviceSpecials : ∀ row ∈ deviceSpecials,
      isName ("FF24.".toList ++ row.1.toList) = true := by decide
  have hgearTypes : ∀ number ∈ gearTypes, isName ("DT".toList ++ decimal number) = true := by
    decide
  have hinstanceTypes : ∀ number ∈ instanceTypes,
      isName ("FF24.DT".toList ++ decimal number) = true := by decide
  have hfeatureTypes : ∀ number ∈ featureTypes,
      isName ("FF24.F".toList ++ decimal number) = true := by decide
  simp only [registryRows, List.mem_append, List.mem_map, List.mem_flatMap, List.mem_filter,
    List.mem_singleton] at h
  rcases h with (((((((((h | h) | h) | h) | h) | h) | h) | h) | h) | h)
  · obtain ⟨found, ⟨hfound, -⟩, rfl⟩ := h
    exact isName_of_isWord (doc.gearStandard found hfound)
  · rw [h]
    rfl
  · obtain ⟨row, hrow, rfl⟩ := h
    exact hgearSpecials row hrow
  · obtain ⟨name, hname, rfl⟩ := h
    exact hgearCommissioning name hname
  · obtain ⟨number, hnumber, found, hfound, rfl⟩ := h
    exact htype _ _ (hgearTypes number hnumber) (doc.gearOfType number found hfound)
  · obtain ⟨found, ⟨hfound, -⟩, rfl⟩ := h
    exact isName_segment "FF24".toList rfl (doc.deviceStandard found hfound)
  · obtain ⟨found, hfound, rfl⟩ := h
    exact isName_segment "FF24".toList rfl (doc.deviceInstance found hfound)
  · obtain ⟨number, hnumber, found, hfound, rfl⟩ := h
    exact htype _ _ (hinstanceTypes number hnumber) (doc.deviceOfType number found hfound)
  · obtain ⟨number, hnumber, found, hfound, rfl⟩ := h
    exact htype _ _ (hfeatureTypes number hnumber) (doc.deviceFeature number found hfound)
  · obtain ⟨row, hrow, rfl⟩ := h
    exact hdeviceSpecials row hrow

end Names

end WbMqttDali.SendCommand
