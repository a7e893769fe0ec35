/-!
Spans of time, counted in whole seconds and the nanoseconds left over.

* `Duration.toNanos`: the length as one number of nanoseconds, which is the
  view that every law about durations is stated on;
* `Duration.lt_iff_toNanos_lt`: comparing the seconds first and the
  nanoseconds second compares the lengths;
* `Duration.render`: the text of a duration in its largest fitting unit.
-/

namespace Discovery

/-- Nanoseconds in a second. -/
abbrev nanosPerSec : Nat := 1000000000

/-- Less than a second, in nanoseconds. -/
abbrev Nanos : Type := Fin nanosPerSec

/-- What is left of a number of nanoseconds beyond whole seconds. -/
def Nanos.ofNat (n : Nat) : Nanos := ⟨n % nanosPerSec, Nat.mod_lt n (by decide)⟩

/-- Whole seconds are taken off. -/
theorem Nanos.val_ofNat (n : Nat) : (Nanos.ofNat n).val = n % nanosPerSec := rfl

/-- A span of time: whole seconds, and less than a second in nanoseconds. -/
structure Duration where
  secs : UInt64
  nanos : Nanos
  deriving DecidableEq, Repr

namespace Duration

/-! ### Construction and measure -/

/-- No time at all. -/
def zero : Duration := ⟨0, .ofNat 0⟩

instance : Inhabited Duration := ⟨zero⟩

/-- The longest duration. -/
def longest : Duration := ⟨18446744073709551615, .ofNat 999999999⟩

/-- A whole number of seconds. -/
def ofSecs (n : UInt64) : Duration := ⟨n, .ofNat 0⟩

/-- A whole number of milliseconds. -/
def ofMillis (n : UInt64) : Duration :=
  ⟨n / 1000, .ofNat (n.toNat % 1000 * 1000000)⟩

/-- The length in nanoseconds. -/
def toNanos (d : Duration) : Nat := d.secs.toNat * nanosPerSec + d.nanos.val

/-- The length in whole milliseconds, the rest dropped. -/
def toMillis (d : Duration) : Nat := d.secs.toNat * 1000 + d.nanos.val / 1000000

/-- The duration of a number of nanoseconds, cut off at the longest one. -/
def ofNanos (n : Nat) : Duration :=
  if n / nanosPerSec < UInt64.size then
    ⟨UInt64.ofNat (n / nanosPerSec), .ofNat n⟩
  else longest

/-- The length of a number of seconds. -/
theorem toNanos_ofSecs (n : UInt64) : (ofSecs n).toNanos = n.toNat * nanosPerSec :=
  Nat.add_zero _

/-- The length of a number of milliseconds. -/
theorem toNanos_ofMillis (n : UInt64) : (ofMillis n).toNanos = n.toNat * 1000000 := by
  simp only [toNanos, ofMillis, Nanos.val_ofNat, UInt64.toNat_div, UInt64.reduceToNat, nanosPerSec]
  omega

/-- Durations of one length are one duration. -/
theorem toNanos_inj {a b : Duration} (h : a.toNanos = b.toNanos) : a = b := by
  obtain ⟨secs, nanos⟩ := a
  obtain ⟨secs', nanos'⟩ := b
  have hnanos := nanos.isLt
  have hnanos' := nanos'.isLt
  simp only [toNanos, nanosPerSec, mk.injEq, ← UInt64.toNat_inj, Fin.ext_iff] at h hnanos hnanos' ⊢
  omega

/-- Only no time at all has no length. -/
theorem toNanos_pos_iff {d : Duration} : 0 < d.toNanos ↔ d ≠ zero := by
  have hzero : zero.toNanos = 0 := by decide
  constructor
  · rintro hpos rfl
    exact absurd hzero (Nat.ne_of_gt hpos)
  · exact fun hne => Nat.pos_of_ne_zero fun h => hne (toNanos_inj (h.trans hzero.symm))

/-- The sum of two durations, cut off at the longest one. -/
def plus (a b : Duration) : Duration := ofNanos (a.toNanos + b.toNanos)

/-! ### Order -/

instance : LT Duration :=
  ⟨fun a b => a.secs < b.secs ∨ (a.secs = b.secs ∧ a.nanos < b.nanos)⟩

instance : LE Duration := ⟨fun a b => ¬ b < a⟩

instance (a b : Duration) : Decidable (a < b) :=
  inferInstanceAs (Decidable (_ ∨ _))

instance (a b : Duration) : Decidable (a ≤ b) :=
  inferInstanceAs (Decidable (¬ _))

/-- The shorter of two durations. -/
def shorter (a b : Duration) : Duration := if b < a then b else a

/-- Comparing seconds first and nanoseconds second compares the lengths. -/
theorem lt_iff_toNanos_lt (a b : Duration) : a < b ↔ a.toNanos < b.toNanos := by
  show (a.secs < b.secs ∨ (a.secs = b.secs ∧ a.nanos < b.nanos)) ↔ _
  have ha := a.nanos.isLt
  have hb := b.nanos.isLt
  simp only [toNanos, nanosPerSec, UInt64.lt_iff_toNat_lt, ← UInt64.toNat_inj,
    Fin.lt_def] at ha hb ⊢
  omega

theorem le_iff_toNanos_le (a b : Duration) : a ≤ b ↔ a.toNanos ≤ b.toNanos := by
  show ¬ b < a ↔ _
  rw [lt_iff_toNanos_lt]
  omega

/-- The shorter of two durations is the first one if it is not the longer one. -/
theorem shorter_eq_left {a b : Duration} (h : a ≤ b) : shorter a b = a := if_neg h

/-- The shorter duration has the smaller length. -/
theorem toNanos_shorter (a b : Duration) :
    (shorter a b).toNanos = min a.toNanos b.toNanos := by
  rw [shorter]
  split <;> rename_i h <;> rw [lt_iff_toNanos_lt] at h <;> omega

/-! ### Text -/

/-- The decimal fraction `part / 10 ^ places` after its point, without the
zeros at its end, and nothing at all for zero. -/
def fraction (part places : Nat) : String :=
  let digits := Nat.toDigits 10 part
  let padded := List.replicate (places - digits.length) '0' ++ digits
  let kept := (padded.reverse.dropWhile (· == '0')).reverse
  if kept.isEmpty then "" else String.ofList ('.' :: kept)

/-- The text of a duration: in seconds if it has any, else in the largest of
milliseconds, microseconds and nanoseconds that it reaches. -/
def render (d : Duration) : String :=
  let n := d.nanos.val
  if d.secs ≠ 0 then
    toString d.secs.toNat ++ fraction n 9 ++ "s"
  else if 1000000 ≤ n then
    toString (n / 1000000) ++ fraction (n % 1000000) 6 ++ "ms"
  else if 1000 ≤ n then
    toString (n / 1000) ++ fraction (n % 1000) 3 ++ "µs"
  else
    toString n ++ "ns"

end Duration

end Discovery
