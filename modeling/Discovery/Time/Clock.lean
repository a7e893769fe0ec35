import Discovery.Time.Instant
/-!
The clock that a store reads: a true time that moves only when it is told to,
and readings to come that differ from the true time.

* `Clock.read`: the next reading, and the clock after it; a reading that would
  lie past the last instant is refused, and used up all the same;
* `Clock.advance`: the clock moved forward, refused past the last instant;
* `Clock.Steady`: no reading to come is refused.
-/

namespace Discovery

/-- A clock. `skews` holds, for the next readings in order, by how many
nanoseconds each differs from the true time; readings after those are true. -/
structure Clock where
  now : Instant
  skews : List Int
  deriving DecidableEq, Repr

/-- Why a clock refuses to move or to be read. -/
inductive ClockFault
  | pastLastInstant
  deriving DecidableEq, Repr

/-- The text of a refusal. -/
def ClockFault.message : ClockFault → String
  | pastLastInstant => "overflow when adding duration to instant"

namespace Clock

/-- The instant at which clocks start: one day after the origin. -/
def origin : Instant := ⟨⟨86400, by decide⟩, .ofNat 0⟩

/-- A clock that has not moved and reads the true time. -/
def start : Clock := ⟨origin, []⟩

instance : Inhabited Clock := ⟨start⟩

/-- How far the true time has moved since the start. -/
def elapsed (c : Clock) : Duration := c.now.since origin

/-- The next reading, or its refusal, and the clock after it. -/
def read (c : Clock) : Except ClockFault Instant × Clock :=
  match c.skews with
  | [] => (.ok c.now, c)
  | skew :: rest =>
      ((c.now.shift? skew).elim (.error .pastLastInstant) .ok, { c with skews := rest })

/-- The clock whose next readings differ from the true time as given. -/
def misread (c : Clock) (skews : List Int) : Clock := { c with skews := skews }

/-- The clock moved forward; past the last instant it refuses to move. -/
def advance (c : Clock) (d : Duration) : Except ClockFault Clock :=
  match c.now.add? d with
  | some t => .ok { c with now := t }
  | none => .error .pastLastInstant

/-- All readings to come are true. -/
def Accurate (c : Clock) : Prop := c.skews = []

/-- A clock that starts reads true. -/
theorem accurate_start : start.Accurate := rfl

/-- An accurate clock reads the true time and is left as it was. -/
theorem read_of_accurate {c : Clock} (h : c.Accurate) : c.read = (.ok c.now, c) := by
  rw [read]
  rw [h]

/-- Reading does not move the time. -/
@[simp] theorem read_now (c : Clock) : c.read.2.now = c.now := by
  rw [read]
  split <;> rfl

/-- Reading an accurate clock leaves it accurate. -/
theorem accurate_read {c : Clock} (h : c.Accurate) : c.read.2.Accurate := by
  rw [read_of_accurate h]
  exact h

/-- Every reading to come is given. -/
def Steady (c : Clock) : Prop := ∀ skew ∈ c.skews, (c.now.shift? skew).isSome

theorem Accurate.steady {c : Clock} (h : c.Accurate) : c.Steady := by
  rw [Steady]
  rw [h]
  exact nofun

/-- A steady clock gives its next reading, and is steady after it. -/
theorem Steady.read {c : Clock} (h : c.Steady) : (∃ t, c.read.1 = .ok t) ∧ c.read.2.Steady := by
  rw [Clock.read]
  split
  · exact ⟨⟨c.now, rfl⟩, h⟩
  · next skew rest hskews =>
      rw [Steady] at h
      rw [hskews] at h
      obtain ⟨t, ht⟩ := Option.isSome_iff_exists.1 (h skew (List.mem_cons_self ..))
      exact ⟨⟨t, by rw [ht]; rfl⟩, fun k hk => h k (List.mem_cons_of_mem skew hk)⟩

/-- A clock that moves at all moves forward. -/
theorem now_le_of_advance {c moved : Clock} {d : Duration} (h : c.advance d = .ok moved) :
    c.now.toNanos ≤ moved.now.toNanos := by
  rw [advance] at h
  split at h
  · next t ht =>
      cases h
      rw [Instant.add?_eq_some_iff.1 ht]
      omega
  · cases h

/-- A clock that moves keeps what its readings to come are off by. -/
theorem skews_of_advance {c moved : Clock} {d : Duration} (h : c.advance d = .ok moved) :
    moved.skews = c.skews := by
  rw [advance] at h
  split at h
  · cases h
    rfl
  · cases h

end Clock

end Discovery
