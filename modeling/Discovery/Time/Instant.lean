import Discovery.Time.Duration
/-!
Points in time, counted from a fixed origin in whole seconds below `2 ^ 63`
and the nanoseconds left over.

* `Instant.add?`: a duration later, if there is such an instant;
* `Instant.add?_eq_some_iff`: adding carries exactly, so an instant a duration
  later exists just when its second is in range, and then its count of
  nanoseconds is the sum;
* `Instant.shift?`: an instant a number of nanoseconds away, on either side;
* `Instant.lt_iff_toNanos_lt`: comparing word by word compares the counts.
-/

namespace Discovery

/-- The number of seconds that instants can have. -/
abbrev secondsLimit : Nat := 9223372036854775808

/-- A point in time. -/
structure Instant where
  secs : Fin secondsLimit
  nanos : Nanos
  deriving DecidableEq, Repr

namespace Instant

/-! ### Construction and measure -/

/-- The nanoseconds from the origin. -/
def toNanos (t : Instant) : Nat := t.secs.val * nanosPerSec + t.nanos.val

/-- The instant so many nanoseconds after the origin, if there is one. -/
def ofNanos? (n : Nat) : Option Instant :=
  if h : n / nanosPerSec < secondsLimit then
    some ⟨⟨n / nanosPerSec, h⟩, .ofNat n⟩
  else none

/-- The instant so many nanoseconds away, earlier if the number is negative.
Nothing is earlier than the origin, and there may be no instant so late. -/
def shift? (t : Instant) (offset : Int) : Option Instant :=
  ofNanos? ((t.toNanos : Int) + offset).toNat

/-- The time from an earlier instant to a later one, and none otherwise. -/
def since (later earlier : Instant) : Duration :=
  Duration.ofNanos (later.toNanos - earlier.toNanos)

/-- The instant a duration later: nanoseconds add with a carry into the
seconds, and there is no answer when the seconds leave their range. -/
def add? (t : Instant) (d : Duration) : Option Instant :=
  let nanos := t.nanos.val + d.nanos.val
  let secs := t.secs.val + d.secs.toNat + nanos / nanosPerSec
  if h : secs < secondsLimit then
    some ⟨⟨secs, h⟩, .ofNat nanos⟩
  else none

/-! ### Order -/

instance : LT Instant :=
  ⟨fun a b => a.secs < b.secs ∨ (a.secs = b.secs ∧ a.nanos < b.nanos)⟩

instance : LE Instant := ⟨fun a b => ¬ b < a⟩

instance (a b : Instant) : Decidable (a < b) :=
  inferInstanceAs (Decidable (_ ∨ _))

instance (a b : Instant) : Decidable (a ≤ b) :=
  inferInstanceAs (Decidable (¬ _))

/-- Comparing seconds first and nanoseconds second compares the counts. -/
theorem lt_iff_toNanos_lt (a b : Instant) : a < b ↔ a.toNanos < b.toNanos := by
  show (a.secs < b.secs ∨ (a.secs = b.secs ∧ a.nanos < b.nanos)) ↔ _
  have ha := a.nanos.isLt
  have hb := b.nanos.isLt
  simp only [toNanos, nanosPerSec, Fin.lt_def, Fin.ext_iff] at ha hb ⊢
  omega

theorem le_iff_toNanos_le (a b : Instant) : a ≤ b ↔ a.toNanos ≤ b.toNanos := by
  show ¬ b < a ↔ _
  rw [lt_iff_toNanos_lt]
  omega

/-- An instant is known by its count of nanoseconds. -/
theorem toNanos_inj {a b : Instant} (h : a.toNanos = b.toNanos) : a = b := by
  have ha := a.nanos.isLt
  have hb := b.nanos.isLt
  simp only [toNanos, nanosPerSec] at h ha hb
  cases a
  cases b
  simp only [mk.injEq, Fin.ext_iff] at *
  omega

/-! ### Adding a duration -/

/-- Adding is exact: there is an instant `u` a duration `d` after `t` just
when the counts add up and stay within the seconds' range. -/
theorem add?_eq_some_iff {t u : Instant} {d : Duration} :
    t.add? d = some u ↔ u.toNanos = t.toNanos + d.toNanos := by
  have hu := u.secs.isLt
  have hun := u.nanos.isLt
  have ht := t.nanos.isLt
  have hd := d.nanos.isLt
  simp only [nanosPerSec, secondsLimit] at hu hun ht hd
  rw [add?]
  simp only [nanosPerSec, secondsLimit]
  split
  · rename_i h
    simp only [Option.some.injEq]
    constructor
    · rintro rfl
      simp only [toNanos, Duration.toNanos, Nanos.val_ofNat, nanosPerSec]
      omega
    · intro e
      apply toNanos_inj
      rw [e]
      simp only [toNanos, Duration.toNanos, Nanos.val_ofNat, nanosPerSec]
      omega
  · rename_i h
    simp only [toNanos, Duration.toNanos, nanosPerSec, reduceCtorEq, false_iff]
    omega

/-- There is no instant a duration later just when the sum of the counts
reaches the end of the seconds' range. -/
theorem add?_eq_none_iff {t : Instant} {d : Duration} :
    t.add? d = none ↔ secondsLimit * nanosPerSec ≤ t.toNanos + d.toNanos := by
  have ht := t.nanos.isLt
  have hd := d.nanos.isLt
  rw [add?]
  simp only [toNanos, Duration.toNanos, nanosPerSec, secondsLimit] at ht hd ⊢
  split <;> simp <;> omega

end Instant

end Discovery
