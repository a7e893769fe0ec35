import Discovery.Log.Event
import Discovery.Store.Tally
import Discovery.Text.Quoted
import Discovery.Time.Clock
/-!
A store of bounded size whose entries expire, and which makes room by dropping
what was used least recently. It is built on a cache that has a timer of its
own, and that hides an entry once it has been held for its time to live.

* `Entry.Shown`: an entry that the backing cache does not hide;
* `Store.entries`: what the store holds, the most recently used entry first;
* `Store.add`: writes an entry and drops the least recently used ones beyond
  the capacity;
* `Store.find?`: the entry of a key; one that the backing cache hides takes its
  place among the entries and is not found;
* `Store.get`: a hit reads a live entry and makes it the most recent; an entry
  that reads as expired is a miss, and is dropped if a second reading of the
  clock agrees;
* `Store.deadline`: when an entry expires, for a time to live of at most
  `Store.maxTtl`;
* `Store.describe`: the description of a store, which shows the number of
  entries as it was when the store's tally was last settled.

The operations of a store are taken to need no time by the timer of the backing
cache, so that under true readings it is never ahead of the clock of the store,
and hides just what was given no time to live. `Discovery.Store.Backing` lets it
run on between them.
-/

namespace Discovery

/-- A stored value, with the time to live that it was written with. It is live
while the clock reads less than its deadline. Its age is for how many
nanoseconds it has been held, by the timer of the backing cache. -/
structure Entry (κ ν : Type) where
  key : κ
  value : ν
  ttl : Duration
  deadline : Instant
  age : Nat
  deriving DecidableEq, Repr

/-- An entry is shown until it has been held for its time to live; from then on
the backing cache hides it, whatever the clock reads. What was given no time to
live is hidden from the start. -/
def Entry.Shown {κ ν : Type} (e : Entry κ ν) : Prop := e.age < e.ttl.toNanos

instance {κ ν : Type} (e : Entry κ ν) : Decidable e.Shown :=
  inferInstanceAs (Decidable (_ < _))

/-- A store: its name, the number of entries that it can hold, its clock, its
entries, the most recently used first, and the tally of their number. -/
structure Store (κ ν : Type) where
  name : String
  capacity : Nat
  clock : Clock
  entries : List (Entry κ ν)
  tally : Tally
  deriving Repr

namespace Store

variable {κ ν : Type}

/-! ### Times to live -/

/-- The longest time to live, 365 days. -/
def maxTtl : Duration := .ofSecs 31536000

/-- The deadline of an entry written at `now`; if there is no such instant,
the entry has expired already. -/
def deadline (now : Instant) (ttl : Duration) : Instant :=
  (now.add? (ttl.shorter maxTtl)).getD now

/-- The events of writing an entry with a time to live. -/
def addEvents (s : Store κ ν) (ttl : Duration) : List Event :=
  if maxTtl < ttl then [.ttlClamped s.name ttl] else []

/-- The entry of a value written at `now`. The backing cache has held it for no
time yet. -/
def entry (key : κ) (value : ν) (ttl : Duration) (now : Instant) : Entry κ ν :=
  ⟨key, value, ttl.shorter maxTtl, deadline now ttl, 0⟩

/-- What is written is shown unless it is given no time to live. -/
theorem shown_entry_iff {key : κ} {value : ν} {ttl : Duration} {now : Instant} :
    (entry key value ttl now).Shown ↔ ttl ≠ .zero := by
  have hlong : 0 < maxTtl.toNanos := by decide
  show 0 < (ttl.shorter maxTtl).toNanos ↔ _
  rw [Duration.toNanos_shorter, ← Duration.toNanos_pos_iff]
  omega

/-! ### Counting -/

/-- The number of entries, expired ones included. -/
def count (s : Store κ ν) : Nat := s.entries.length

/-- The store with its tally brought up to date. -/
def settle (s : Store κ ν) : Store κ ν := { s with tally := .settled s.count }

/-- The number of entries, and the store once they were counted. -/
def takeCount (s : Store κ ν) : Nat × Store κ ν := (s.count, s.settle)

/-- The store with one more lookup in its tally. -/
def noteLookup (s : Store κ ν) : Store κ ν := { s with tally := s.tally.lookup s.count }

/-- The store with one more removal in its tally. -/
def noteRemoval (s : Store κ ν) : Store κ ν := { s with tally := s.tally.removal s.count }

@[simp] theorem entries_settle (s : Store κ ν) : s.settle.entries = s.entries := rfl

@[simp] theorem clock_settle (s : Store κ ν) : s.settle.clock = s.clock := rfl

@[simp] theorem entries_noteLookup (s : Store κ ν) : s.noteLookup.entries = s.entries := rfl

@[simp] theorem clock_noteLookup (s : Store κ ν) : s.noteLookup.clock = s.clock := rfl

/-! ### Operations -/

variable [DecidableEq κ]

/-- A store without entries. -/
def empty (name : String) (capacity : Nat) (clock : Clock) : Store κ ν :=
  ⟨name, capacity, clock, [], .settled 0⟩

/-- The entry of a key, if it is shown. An entry that the backing cache hides is
held like any other, but it is not found. -/
def find? (s : Store κ ν) (key : κ) : Option (Entry κ ν) :=
  s.entries.find? fun e => e.key = key ∧ e.Shown

/-- The entries of all keys but one. -/
def others (s : Store κ ν) (key : κ) : List (Entry κ ν) :=
  s.entries.filter fun e => e.key ≠ key

/-- The store with a value written under a key: the key becomes the most
recent, and then the least recent entries beyond the capacity are dropped.
Without a reading of the clock there is no deadline, and nothing is written. -/
def add (s : Store κ ν) (key : κ) (value : ν) (ttl : Duration) :
    Except ClockFault Unit × Store κ ν :=
  match s.clock.read with
  | (.error fault, clock) => (.error fault, { s with clock := clock })
  | (.ok now, clock) =>
      let written := { s with
        clock := clock
        entries := (entry key value ttl now :: s.others key).take s.capacity }
      (.ok (), written.settle)

/-- The store without a key, found or not. -/
def remove (s : Store κ ν) (key : κ) : Store κ ν :=
  if s.entries.any (·.key = key) then { s.noteRemoval with entries := s.others key } else s

/-- The live value of a key, and the store after it was asked for. The clock
is read only if the key is found; if it refuses, the key has still become the
most recent. -/
def get (s : Store κ ν) (key : κ) : Except ClockFault (Option ν) × Store κ ν :=
  let s := s.noteLookup
  match s.find? key with
  | none => (.ok none, s)
  | some e =>
      let touched := { s with entries := e :: s.others key }
      match s.clock.read with
      | (.error fault, clock) => (.error fault, { touched with clock := clock })
      | (.ok now, clock) =>
          if now < e.deadline then (.ok (some e.value), { touched with clock := clock })
          else
            match clock.read with
            | (.error fault, clock) => (.error fault, { touched with clock := clock })
            | (.ok again, clock) =>
                let asked := { touched with clock := clock }.noteLookup
                (.ok none, if again < e.deadline then asked else asked.remove key)

/-- The store with its clock moved forward. -/
def advance (s : Store κ ν) (d : Duration) : Except ClockFault (Store κ ν) :=
  (s.clock.advance d).map fun clock => { s with clock := clock }

/-- The store with the next readings of its clock off by some nanoseconds. -/
def misread (s : Store κ ν) (skews : List Int) : Store κ ν :=
  { s with clock := s.clock.misread skews }

/-- A short description of a store, with the number of entries of its tally. -/
def describe (s : Store κ ν) : String :=
  "ExpiringStore \x7b name: " ++ Text.quoted s.name ++
    ", entry_count: " ++ toString s.tally.counted ++ " \x7d"

/-! ### Laws -/

@[simp] theorem find?_noteLookup (s : Store κ ν) (key : κ) :
    s.noteLookup.find? key = s.find? key := rfl

@[simp] theorem others_noteLookup (s : Store κ ν) (key : κ) :
    s.noteLookup.others key = s.others key := rfl

theorem mem_others {s : Store κ ν} {key : κ} {e : Entry κ ν} :
    e ∈ s.others key ↔ e ∈ s.entries ∧ e.key ≠ key := by
  simp [others]

theorem find?_some {s : Store κ ν} {key : κ} {e : Entry κ ν}
    (h : s.find? key = some e) : e ∈ s.entries ∧ e.key = key ∧ e.Shown :=
  ⟨List.mem_of_find?_eq_some h, by simpa using List.find?_some h⟩

/-- Removing a key leaves the entries of the others. -/
@[simp] theorem entries_remove (s : Store κ ν) (key : κ) :
    (s.remove key).entries = s.others key := by
  rw [remove]
  split
  · rfl
  · rename_i h
    exact (List.filter_eq_self.2 (by simpa using h)).symm

@[simp] theorem clock_remove (s : Store κ ν) (key : κ) : (s.remove key).clock = s.clock := by
  rw [remove]
  split <;> rfl

/-- Writing at a reading of the clock. -/
theorem add_of_read {s : Store κ ν} {now : Instant} {clock : Clock}
    (h : s.clock.read = (.ok now, clock)) (key : κ) (value : ν) (ttl : Duration) :
    s.add key value ttl =
      (.ok (), { s with
        clock := clock
        entries := (entry key value ttl now :: s.others key).take s.capacity }.settle) := by
  rw [add]
  rw [h]

/-- Writing at a true reading of the clock. -/
theorem add_of_accurate {s : Store κ ν} (h : s.clock.Accurate) (key : κ) (value : ν)
    (ttl : Duration) :
    s.add key value ttl =
      (.ok (), { s with
        entries :=
          (entry key value ttl s.clock.now :: s.others key).take s.capacity }.settle) :=
  add_of_read (Clock.read_of_accurate h) key value ttl

/-- A found key asked for at a reading of the clock at which it is live. -/
theorem get_of_live {s : Store κ ν} {key : κ} {e : Entry κ ν} {now : Instant} {clock : Clock}
    (he : s.find? key = some e) (h : s.clock.read = (.ok now, clock)) (hlive : now < e.deadline) :
    (s.get key).1 = .ok (some e.value) := by
  simp only [get, find?_noteLookup, clock_noteLookup, he, h, hlive, if_true]

/-- A found key asked for at a true reading of the clock. -/
theorem get_of_accurate {s : Store κ ν} (h : s.clock.Accurate) {key : κ} {e : Entry κ ν}
    (he : s.find? key = some e) :
    s.get key =
      let touched := { s.noteLookup with entries := e :: s.others key }
      if s.clock.now < e.deadline then (.ok (some e.value), touched)
      else (.ok none, touched.noteLookup.remove key) := by
  simp only [get, find?_noteLookup, clock_noteLookup, he, Clock.read_of_accurate h]
  split <;> rfl

/-- Asking for a key that is not found changes nothing but the tally. -/
theorem get_of_find?_eq_none {s : Store κ ν} {key : κ} (h : s.find? key = none) :
    s.get key = (.ok none, s.noteLookup) := by
  simp only [get, find?_noteLookup, h]

end Store

end Discovery
