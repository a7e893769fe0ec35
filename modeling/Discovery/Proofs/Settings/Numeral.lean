import Discovery.Settings.Basic
import Mathlib.Data.List.TakeWhile
import Mathlib.Data.Nat.Digits.Defs
import Mathlib.Tactic
/-!
The numbers that texts stand for.

* `Text.exists_trim`, `Text.trim_append`: what is left of a text when the blanks at its
  ends are taken off;
* `Decimal.value`: what a run of digits is worth;
* `Numeral`: digits, after a plus sign or not, with what they are worth;
* `Spells`: a text that has blanks around a numeral at most;
* `spells_iff`: these are the texts that are read as numbers.
-/

namespace Discovery

/-! ### Blanks -/

namespace Text

variable {s body before after : List Char}

/-- All that is taken off a text is blanks at its ends. -/
lemma exists_trim (s : List Char) :
    ∃ before after, s = before ++ trim s ++ after ∧ (∀ c ∈ before, isBlank c) ∧
      ∀ c ∈ after, isBlank c := by
  let rest := s.dropWhile isBlank
  refine ⟨s.takeWhile isBlank, (rest.reverse.takeWhile isBlank).reverse, ?_,
    fun c hc => List.mem_takeWhile_imp hc,
    fun c hc => List.mem_takeWhile_imp (List.mem_reverse.mp hc)⟩
  have hrest : trim s ++ (rest.reverse.takeWhile isBlank).reverse = rest := by
    rw [trim, trimEnd, ← List.reverse_append, List.takeWhile_append_dropWhile,
      List.reverse_reverse]
  rw [List.append_assoc, hrest, List.takeWhile_append_dropWhile]

/-- Blanks at both ends are taken off a text that has no others. -/
lemma trim_append (hbefore : ∀ c ∈ before, isBlank c) (hbody : ∀ c ∈ body, ¬ isBlank c)
    (hafter : ∀ c ∈ after, isBlank c) : trim (before ++ body ++ after) = body := by
  rw [trim, trimEnd, List.append_assoc, List.dropWhile_append_of_pos hbefore]
  cases body with
  | nil =>
      rw [List.nil_append, List.dropWhile_eq_nil_iff.mpr hafter]
      rfl
  | cons c cs =>
      have hfront : (c :: cs ++ after).dropWhile isBlank = c :: cs ++ after := by
        simp [hbody c]
      have hback : (c :: cs).reverse.dropWhile isBlank = (c :: cs).reverse :=
        List.dropWhile_eq_self_iff.mpr fun hl =>
          hbody _ (List.mem_reverse.mp (List.getElem_mem hl))
      rw [hfront, List.reverse_append,
        List.dropWhile_append_of_pos fun c hc => hafter c (List.mem_reverse.mp hc), hback,
        List.reverse_reverse]

/-- Nothing is left of a text just when it is blank. -/
lemma trim_eq_nil_iff : trim s = [] ↔ ∀ c ∈ s, isBlank c := by
  constructor
  · intro h
    obtain ⟨before, after, hs, hbefore, hafter⟩ := exists_trim s
    rw [hs, h, List.append_nil]
    exact fun c hc => (List.mem_append.mp hc).elim (hbefore c) (hafter c)
  · intro h
    rw [trim, List.dropWhile_eq_nil_iff.mpr h]
    rfl

end Text

/-! ### Digits -/

/-- What a run of digits is worth, the last one least. -/
def Decimal.value (digits : List Char) : ℕ :=
  Nat.ofDigits 10 (digits.reverse.map fun c => c.toNat - '0'.toNat)

lemma Decimal.ofDigitChars_eq_value (digits : List Char) :
    Nat.ofDigitChars 10 digits 0 = value digits := by
  rw [value, Nat.ofDigits_eq_foldr, List.foldr_map, Nat.ofDigitChars_eq_foldl,
    List.foldl_eq_foldr_reverse]
  simp only [Nat.cast_id, add_comm]

/-- A run of digits is read as what it is worth, and nothing else is read. -/
lemma Decimal.natural?_eq_some_iff {digits : List Char} {v : ℕ} :
    natural? digits = some v ↔ digits ≠ [] ∧ (∀ c ∈ digits, c.isDigit) ∧ value digits = v := by
  simp [natural?, ofDigitChars_eq_value, Option.ite_none_left_eq_some, and_assoc]

/-- Digits that stand for what they are worth, with a plus sign in front or not. -/
inductive Numeral : List Char → ℕ → Prop
  | plain {digits : List Char} (hne : digits ≠ []) (hdigits : ∀ c ∈ digits, c.isDigit) :
      Numeral digits (Decimal.value digits)
  | signed {digits : List Char} (hne : digits ≠ []) (hdigits : ∀ c ∈ digits, c.isDigit) :
      Numeral ('+' :: digits) (Decimal.value digits)

lemma signedDigits?_eq_some_iff {body : List Char} {v : ℕ} :
    signedDigits? body = some v ↔ Numeral body v := by
  constructor
  · intro h
    unfold signedDigits? at h
    split at h
    · obtain ⟨hne, hdigits, rfl⟩ := Decimal.natural?_eq_some_iff.mp h
      exact .signed hne hdigits
    · obtain ⟨hne, hdigits, rfl⟩ := Decimal.natural?_eq_some_iff.mp h
      exact .plain hne hdigits
  · intro h
    cases h with
    | signed hne hdigits => exact Decimal.natural?_eq_some_iff.mpr ⟨hne, hdigits, rfl⟩
    | plain hne hdigits =>
        unfold signedDigits?
        split
        · exact absurd (hdigits '+' (List.mem_cons_self ..)) (by decide)
        · exact Decimal.natural?_eq_some_iff.mpr ⟨hne, hdigits, rfl⟩

/-- No blank is a digit. -/
lemma not_isBlank_of_isDigit {c : Char} (h : c.isDigit) : ¬ Text.isBlank c := by
  have hrange : 48 ≤ c.toNat ∧ c.toNat ≤ 57 := by
    simpa [Char.isDigit, UInt32.le_iff_toNat_le, ge_iff_le] using h
  simp [Text.isBlank, Text.blankRanges]
  omega

lemma Numeral.not_isBlank {body : List Char} {v : ℕ} (h : Numeral body v) :
    ∀ c ∈ body, ¬ Text.isBlank c := by
  cases h with
  | plain hne hdigits => exact fun c hc => not_isBlank_of_isDigit (hdigits c hc)
  | signed hne hdigits =>
      exact List.forall_mem_cons.mpr
        ⟨by decide, fun c hc => not_isBlank_of_isDigit (hdigits c hc)⟩

lemma Numeral.ne_nil {body : List Char} {v : ℕ} (h : Numeral body v) : body ≠ [] := by
  cases h with
  | plain hne hdigits => exact hne
  | signed hne hdigits => exact List.cons_ne_nil _ _

/-! ### Texts -/

/-- A text without anything but blanks. -/
def Blank (raw : String) : Prop := ∀ c ∈ raw.toList, Text.isBlank c

/-- A text with a numeral in it, and with blanks around it or not. -/
def Spells (raw : String) (v : ℕ) : Prop :=
  ∃ before body after, raw.toList = before ++ body ++ after ∧ (∀ c ∈ before, Text.isBlank c) ∧
    (∀ c ∈ after, Text.isBlank c) ∧ Numeral body v

/-- A text spells the number that is read off it without the blanks at its ends. -/
lemma spells_iff {raw : String} {v : ℕ} :
    Spells raw v ↔ signedDigits? (Text.trim raw.toList) = some v := by
  rw [signedDigits?_eq_some_iff]
  constructor
  · rintro ⟨before, body, after, hraw, hbefore, hafter, hbody⟩
    rwa [hraw, Text.trim_append hbefore hbody.not_isBlank hafter]
  · intro h
    obtain ⟨before, after, hraw, hbefore, hafter⟩ := Text.exists_trim raw.toList
    exact ⟨before, _, after, hraw, hbefore, hafter, h⟩

/-- A text that spells a number is not blank. -/
lemma Spells.not_blank {raw : String} {v : ℕ} (h : Spells raw v) : ¬ Blank raw := by
  obtain ⟨before, body, after, hraw, -, -, hbody⟩ := h
  obtain ⟨c, hc⟩ := List.exists_mem_of_ne_nil body hbody.ne_nil
  exact fun hblank => hbody.not_isBlank c hc (hblank c (by simp [hraw, hc]))

end Discovery
