/-!
Natural numbers in decimal digits.

* `Decimal.natural?`: the number that a run of ASCII digits stands for, with
  any number of zeros in front;
* `Decimal.natural?_toDigits`: the digits of a number stand for it.
-/

namespace Discovery.Decimal

/-- The number that a run of digits stands for; an empty run, and one with any
other character in it, stands for none. -/
def natural? (digits : List Char) : Option Nat :=
  if digits.isEmpty || !digits.all Char.isDigit then none
  else some (Nat.ofDigitChars 10 digits 0)

/-- The digits of a number stand for it. -/
theorem natural?_toDigits (n : Nat) : natural? (Nat.toDigits 10 n) = some n := by
  rw [natural?]
  rw [if_neg, Nat.ofDigitChars_toDigits (by decide) (by decide)]
  simp only [Bool.or_eq_true, List.isEmpty_iff, Bool.not_eq_true', not_or,
    Bool.not_eq_false, List.all_eq_true]
  exact ⟨Nat.toDigits_ne_nil, fun c hc =>
    Nat.isDigit_of_mem_toDigits (by decide) (by decide) hc⟩

/-- Zeros in front change nothing. -/
theorem natural?_zero_cons {digits : List Char} (h : digits ≠ []) :
    natural? ('0' :: digits) = natural? digits := by
  rw [natural?]
  cases digits with
  | nil => exact absurd rfl h
  | cons c cs =>
      simp only [List.isEmpty_cons, Bool.false_or, List.all_cons]
      rfl

end Discovery.Decimal
