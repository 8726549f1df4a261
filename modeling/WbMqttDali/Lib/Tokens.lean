import Mathlib

/-!
# Tokens in a text

A text is split at a separator into tokens without the blanks around them, and joined again.
Numbers are written with decimal digits.
-/

namespace WbMqttDali.Tokens

section Split

variable {α : Type*} (isBlank : α → Bool)

/-- The text without the blanks at its ends. -/
def strip (text : List α) : List α :=
  ((text.dropWhile isBlank).reverse.dropWhile isBlank).reverse

variable {isBlank} {text : List α}

@[simp] lemma strip_nil : strip isBlank [] = [] := by simp [strip]

lemma dropWhile_of_head (h : ∀ c ∈ text.head?, isBlank c = false) :
    text.dropWhile isBlank = text := by
  cases text with
  | nil => rfl
  | cons c text => simp [h c (by simp)]

/-- A text with other characters than blanks at its ends. -/
lemma strip_of_ends (hhead : ∀ c ∈ text.head?, isBlank c = false)
    (hlast : ∀ c ∈ text.getLast?, isBlank c = false) : strip isBlank text = text := by
  have hreverse : text.reverse.dropWhile isBlank = text.reverse := by
    apply dropWhile_of_head
    intro c hc
    rw [List.head?_reverse] at hc
    exact hlast c hc
  rw [strip, dropWhile_of_head hhead, hreverse, List.reverse_reverse]

lemma strip_of_forall (h : ∀ c ∈ text, isBlank c = false) : strip isBlank text = text := by
  apply strip_of_ends
  · intro c hc
    exact h c (List.mem_of_mem_head? hc)
  · intro c hc
    exact h c (List.mem_of_getLast? hc)

lemma strip_cons_blank {blank : α} (h : isBlank blank = true) :
    strip isBlank (blank :: text) = strip isBlank text := by
  rw [strip, strip, List.dropWhile_cons, if_pos h]

/-! ### Joined tokens -/

lemma mem_intercalate {glue : List α} {tokens : List (List α)} {c : α}
    (h : c ∈ glue.intercalate tokens) : c ∈ glue ∨ ∃ token ∈ tokens, c ∈ token := by
  induction tokens with
  | nil => simp at h
  | cons token tokens ih =>
    cases tokens with
    | nil => exact .inr ⟨token, by simp, by simpa using h⟩
    | cons next tokens =>
      rw [List.intercalate_cons_cons, List.mem_append, List.mem_append] at h
      rcases h with (h | h) | h
      · exact .inr ⟨token, by simp, h⟩
      · exact .inl h
      · rcases ih h with h | ⟨other, hother, h⟩
        · exact .inl h
        · exact .inr ⟨other, List.mem_cons_of_mem _ hother, h⟩

lemma head?_intercalate {glue token : List α} {tokens : List (List α)} (h : token ≠ []) :
    (glue.intercalate (token :: tokens)).head? = token.head? := by
  cases tokens with
  | nil => simp
  | cons next tokens =>
    rw [List.intercalate_cons_cons, List.append_assoc, List.head?_append_of_ne_nil _ h]

lemma exists_getLast?_intercalate (glue : List α) {tokens : List (List α)} (hne : tokens ≠ [])
    (h : ∀ token ∈ tokens, token ≠ []) :
    ∃ token ∈ tokens, (glue.intercalate tokens).getLast? = token.getLast? := by
  induction tokens with
  | nil => exact absurd rfl hne
  | cons token tokens ih =>
    cases tokens with
    | nil => exact ⟨token, by simp, by simp⟩
    | cons next tokens =>
      obtain ⟨last, hlast, heq⟩ :=
        ih (List.cons_ne_nil _ _) fun other hother => h other (List.mem_cons_of_mem _ hother)
      refine ⟨last, List.mem_cons_of_mem _ hlast, ?_⟩
      rw [List.intercalate_cons_cons, List.getLast?_append_of_ne_nil _ ?_, heq]
      intro hnil
      rw [hnil] at heq
      have hnone := List.getLast?_eq_none_iff.1 heq.symm
      exact h last (List.mem_cons_of_mem _ hlast) hnone

/-! ### Tokens that are split -/

variable [DecidableEq α] (isBlank) (separator : α)

/-- The tokens between the separators, without those that are empty. -/
def splitTokens (text : List α) : List (List α) :=
  ((text.splitOn separator).map (strip isBlank)).filter (· ≠ [])

variable {isBlank separator} {tokens : List (List α)}

lemma splitTokens_nil : splitTokens isBlank separator [] = [] := by
  simp [splitTokens]

omit [DecidableEq α] in
/-- A blank behind each separator is a blank in front of each token but the first. -/
lemma intercalate_blank (blank : α) (token : List α) :
    [separator, blank].intercalate (token :: tokens) =
      [separator].intercalate (token :: tokens.map (blank :: ·)) := by
  induction tokens generalizing token with
  | nil => simp
  | cons next tokens ih =>
    rw [List.intercalate_cons_cons, ih, List.map_cons, List.intercalate_cons_cons]
    cases tokens with
    | nil => simp
    | cons other tokens => simp [List.intercalate_cons_cons]

/-- Tokens that were joined with a separator and a blank are found again. -/
theorem splitTokens_intercalate {blank : α} (hblank : isBlank blank = true)
    (hsep : blank ≠ separator) (hnonempty : ∀ token ∈ tokens, token ≠ [])
    (htokens : ∀ token ∈ tokens, ∀ c ∈ token, isBlank c = false ∧ c ≠ separator) :
    splitTokens isBlank separator ([separator, blank].intercalate tokens) = tokens := by
  cases tokens with
  | nil => exact splitTokens_nil
  | cons token tokens =>
    have hsplit : ([separator].intercalate (token :: tokens.map (blank :: ·))).splitOn separator =
        token :: tokens.map (blank :: ·) := by
      apply List.splitOn_intercalate separator ?_ (List.cons_ne_nil _ _)
      intro part hpart hmem
      rcases List.mem_cons.1 hpart with rfl | hrest
      · exact (htokens _ List.mem_cons_self _ hmem).2 rfl
      · obtain ⟨next, hnext, rfl⟩ := List.mem_map.1 hrest
        rcases List.mem_cons.1 hmem with heq | hmem
        · exact hsep heq.symm
        · exact (htokens _ (List.mem_cons_of_mem _ hnext) _ hmem).2 rfl
    have hstrip : ∀ next ∈ token :: tokens, strip isBlank next = next := by
      intro next hnext
      exact strip_of_forall fun c hc => (htokens next hnext c hc).1
    have hmap : (token :: tokens.map (blank :: ·)).map (strip isBlank) = token :: tokens := by
      rw [List.map_cons, List.map_map, hstrip token List.mem_cons_self]
      congr 1
      refine (List.map_congr_left (g := id) fun next hnext => ?_).trans (List.map_id _)
      rw [Function.comp_apply, strip_cons_blank hblank, hstrip next (List.mem_cons_of_mem _ hnext),
        id]
    rw [splitTokens, intercalate_blank, hsplit, hmap]
    exact List.filter_eq_self.2 fun next hnext => by simpa using hnonempty next hnext

end Split

/-! ### Decimal numbers -/

/-- The decimal digits of a number. -/
def decimal (n : ℕ) : List Char := Nat.toDigits 10 n

lemma decimal_ne_nil (n : ℕ) : decimal n ≠ [] := Nat.toDigits_ne_nil

lemma isDigit_of_mem_decimal {n : ℕ} {c : Char} (h : c ∈ decimal n) : c.isDigit = true :=
  Nat.isDigit_of_mem_toDigits (by decide) le_rfl h

/-- Only 0 is written with a 0 in front. -/
lemma eq_zero_of_head_decimal {n : ℕ} (h : (decimal n).head? = some '0') : n = 0 := by
  induction n using Nat.strong_induction_on with
  | _ n ih =>
    rcases Nat.lt_or_ge n 10 with hlt | hge
    · rw [decimal, Nat.toDigits_of_lt_base hlt] at h
      exact Nat.digitChar_eq_zero.1 (Option.some.inj h)
    · -- the first digit is that of a tenth of the number
      have hfirst : (decimal (n / 10)).head? = some '0' := by
        rw [decimal, Nat.toDigits_of_base_le (by decide) hge] at h
        rwa [List.head?_append_of_ne_nil _ Nat.toDigits_ne_nil] at h
      have hzero := ih (n / 10) (by omega) hfirst
      omega

end WbMqttDali.Tokens
