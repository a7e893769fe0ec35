import Discovery.Store.Basic
import Mathlib.Tactic
/-!
What the operations of a store do to its entries and to its clock, whatever
the clock reads.

* `Store.Asked`, `Store.get_asked`: the courses that asking for a key can take,
  with the readings that decide between them;
* `Store.mem_entries_get`, `Store.mem_entries_add`, `Store.mem_entries_remove`:
  only writing brings in an entry, and it brings in one;
* `Store.exists_of_get_eq_some`: a hit comes from a held entry, at a reading
  before its deadline;
* `Store.toNanos_deadline`: the deadline of an entry, exactly;
* `Store.toNanos_deadline_le`: an entry lives no longer than its time to live,
  nor than the longest one.
-/

namespace Discovery.Store

variable {κ ν : Type} [DecidableEq κ] {s : Store κ ν} {key : κ} {value : ν} {ttl : Duration}
  {e : Entry κ ν}

/-! ### Asking for a key -/

/-- The courses of asking for a key: its answer, and the entries and the clock
that it leaves. -/
inductive Asked (s : Store κ ν) (key : κ) :
    Except ClockFault (Option ν) → List (Entry κ ν) → Clock → Prop
  | absent (hfind : s.find? key = none) : Asked s key (.ok none) s.entries s.clock
  | refused {e fault c} (hfind : s.find? key = some e) (hread : s.clock.read = (.error fault, c)) :
      Asked s key (.error fault) (e :: s.others key) c
  | hit {e now c} (hfind : s.find? key = some e) (hread : s.clock.read = (.ok now, c))
      (hlive : now < e.deadline) : Asked s key (.ok (some e.value)) (e :: s.others key) c
  | refusedAgain {e now c fault c'} (hfind : s.find? key = some e)
      (hread : s.clock.read = (.ok now, c)) (hdead : ¬ now < e.deadline)
      (hagain : c.read = (.error fault, c')) :
      Asked s key (.error fault) (e :: s.others key) c'
  | spared {e now c again c'} (hfind : s.find? key = some e)
      (hread : s.clock.read = (.ok now, c)) (hdead : ¬ now < e.deadline)
      (hagain : c.read = (.ok again, c')) (hlive : again < e.deadline) :
      Asked s key (.ok none) (e :: s.others key) c'
  | dropped {e now c again c'} (hfind : s.find? key = some e)
      (hread : s.clock.read = (.ok now, c)) (hdead : ¬ now < e.deadline)
      (hagain : c.read = (.ok again, c')) (hgone : ¬ again < e.deadline) :
      Asked s key (.ok none) (s.others key) c'

/-- Asking for a key takes one of these courses. -/
lemma get_asked (s : Store κ ν) (key : κ) :
    Asked s key (s.get key).1 (s.get key).2.entries (s.get key).2.clock := by
  cases hfind : s.find? key with
  | none =>
      rw [get_of_find?_eq_none hfind]
      exact .absent hfind
  | some e =>
      cases hread : s.clock.read with
      | mk reading c =>
      cases reading with
      | error fault => simpa [get, hfind, hread] using Asked.refused hfind hread
      | ok now =>
      by_cases hlive : now < e.deadline
      · simpa [get, hfind, hread, hlive] using Asked.hit hfind hread hlive
      cases hagain : c.read with
      | mk reading c' =>
      cases reading with
      | error fault =>
          simpa [get, hfind, hread, hlive, hagain] using
            Asked.refusedAgain hfind hread hlive hagain
      | ok again =>
          by_cases hspared : again < e.deadline
          · simpa [get, hfind, hread, hlive, hagain, hspared] using
              Asked.spared hfind hread hlive hagain hspared
          · have hkey := (find?_some hfind).2.1
            simpa [get, hfind, hread, hlive, hagain, hspared, others, hkey] using
              Asked.dropped hfind hread hlive hagain hspared

/-- Asking for a key brings in no entry. -/
lemma mem_entries_get (h : e ∈ (s.get key).2.entries) : e ∈ s.entries := by
  have hcourse := get_asked s key
  generalize (s.get key).1 = answer, (s.get key).2.entries = entries,
    (s.get key).2.clock = clock at h hcourse
  cases hcourse with
  | absent => exact h
  | dropped => exact (mem_others.mp h).1
  | refused hfind | hit hfind | refusedAgain hfind | spared hfind =>
      rcases List.mem_cons.mp h with rfl | h
      · exact (find?_some hfind).1
      · exact (mem_others.mp h).1

/-- A hit comes from a held entry, at a reading before its deadline. -/
lemma exists_of_get_eq_some (h : (s.get key).1 = .ok (some value)) :
    ∃ e now, e ∈ s.entries ∧ e.key = key ∧ e.value = value ∧
      s.clock.read.1 = .ok now ∧ now < e.deadline := by
  have hcourse := get_asked s key
  rw [h] at hcourse
  generalize (s.get key).2.entries = entries, (s.get key).2.clock = clock at hcourse
  cases hcourse with
  | hit hfind hread hlive =>
      obtain ⟨hmem, hkey, -⟩ := find?_some hfind
      exact ⟨_, _, hmem, hkey, rfl, by rw [hread], hlive⟩

/-- What every reading keeps of a clock, asking for a key keeps. -/
lemma clock_get {P : Clock → Prop} (hread : ∀ c, P c → P c.read.2) (h : P s.clock) :
    P (s.get key).2.clock := by
  have hcourse := get_asked s key
  generalize (s.get key).1 = answer, (s.get key).2.entries = entries,
    (s.get key).2.clock = clock at hcourse ⊢
  have hnext {c c' : Clock} {reading} (hc : P c) (hcc' : c.read = (reading, c')) : P c' := by
    simpa [hcc'] using hread c hc
  cases hcourse with
  | absent => exact h
  | refused _ hread | hit _ hread => exact hnext h hread
  | refusedAgain _ hread _ hagain | spared _ hread _ hagain | dropped _ hread _ hagain =>
      exact hnext (hnext h hread) hagain

/-- Asking for a key is refused only by a reading of the clock. -/
lemma exists_of_get_eq_error {P : Clock → Prop} (hread : ∀ c, P c → P c.read.2)
    (h : P s.clock) {fault : ClockFault} (herror : (s.get key).1 = .error fault) :
    ∃ c fault, P c ∧ c.read.1 = .error fault := by
  have hcourse := get_asked s key
  rw [herror] at hcourse
  generalize (s.get key).2.entries = entries, (s.get key).2.clock = clock at hcourse
  cases hcourse with
  | refused _ hrefused => exact ⟨s.clock, _, h, by rw [hrefused]⟩
  | refusedAgain _ hfirst _ hrefused =>
      have hnext := hread s.clock h
      rw [hfirst] at hnext
      exact ⟨_, _, hnext, by rw [hrefused]⟩

/-- Asking for a key does not move the true time. -/
@[simp] lemma clock_now_get : (s.get key).2.clock.now = s.clock.now :=
  clock_get (P := fun c => c.now = s.clock.now) (fun c hc => (Clock.read_now c).trans hc) rfl

/-- Asking for a key leaves a clock that reads true as it was. -/
lemma clock_get_of_accurate (hs : s.clock.Accurate) : (s.get key).2.clock = s.clock := by
  refine clock_get (P := fun c => c = s.clock) (fun c hc => ?_) rfl
  rw [hc, Clock.read_of_accurate hs]

/-- Writing leaves a clock that reads true as it was. -/
lemma clock_add_of_accurate (hs : s.clock.Accurate) : (s.add key value ttl).2.clock = s.clock := by
  rw [add_of_accurate hs, clock_settle]

@[simp] lemma capacity_remove : (s.remove key).capacity = s.capacity := by
  rw [remove]
  split <;> rfl

@[simp] lemma capacity_get : (s.get key).2.capacity = s.capacity := by
  simp only [get]
  repeat' split
  all_goals first | rfl | exact capacity_remove

/-! ### Writing and removing -/

/-- Writing brings in one entry at most, stamped with a reading of the clock. -/
lemma mem_entries_add (h : e ∈ (s.add key value ttl).2.entries) :
    e ∈ s.entries ∨ ∃ now, s.clock.read.1 = .ok now ∧ e = entry key value ttl now := by
  cases hread : s.clock.read with
  | mk reading c =>
  cases reading with
  | error fault =>
      simp only [add, hread] at h
      exact .inl h
  | ok now =>
      simp only [add, hread, entries_settle] at h
      rcases List.mem_cons.mp (List.mem_of_mem_take h) with rfl | h
      · exact .inr ⟨now, rfl, rfl⟩
      · exact .inl (mem_others.mp h).1

/-- Writing reads the clock once. -/
@[simp] lemma clock_add : (s.add key value ttl).2.clock = s.clock.read.2 := by
  cases hread : s.clock.read with
  | mk reading c => cases reading <;> simp [add, hread]

/-- Writing is refused only by the reading of the clock. -/
lemma exists_of_add_eq_error {fault : ClockFault} (h : (s.add key value ttl).1 = .error fault) :
    ∃ fault, s.clock.read.1 = .error fault := by
  cases hread : s.clock.read with
  | mk reading c =>
  cases reading with
  | error fault' => exact ⟨fault', rfl⟩
  | ok now => simp [add, hread] at h

@[simp] lemma capacity_add : (s.add key value ttl).2.capacity = s.capacity := by
  cases hread : s.clock.read with
  | mk reading c => cases reading <;> simp [add, hread, settle]

/-- Removing brings in no entry. -/
lemma mem_entries_remove (h : e ∈ (s.remove key).entries) : e ∈ s.entries ∧ e.key ≠ key := by
  rwa [entries_remove, mem_others] at h

/-! ### Deadlines -/

/-- A deadline is the instant of writing and the time to live after it, which counts
up to the longest one, or the instant of writing itself if that sum lies past the last
instant. -/
lemma toNanos_deadline (now : Instant) (ttl : Duration) :
    (deadline now ttl).toNanos =
      if (now.toNanos + min ttl.toNanos maxTtl.toNanos) / nanosPerSec < secondsLimit then
        now.toNanos + min ttl.toNanos maxTtl.toNanos
      else now.toNanos := by
  rw [deadline, ← Duration.toNanos_shorter]
  cases hadd : now.add? (ttl.shorter maxTtl) with
  | none =>
      have hpast := Instant.add?_eq_none_iff.mp hadd
      rw [Option.getD_none, if_neg]
      simp only [secondsLimit, nanosPerSec] at hpast ⊢
      omega
  | some t =>
      have hsum := Instant.add?_eq_some_iff.mp hadd
      have hsecs := t.secs.isLt
      have hnanos := t.nanos.isLt
      rw [Option.getD_some, ← hsum, if_pos]
      simp only [Instant.toNanos, secondsLimit, nanosPerSec] at hsecs hnanos ⊢
      omega

/-- An entry lives no longer than its time to live, nor than the longest one. -/
lemma toNanos_deadline_le (now : Instant) (ttl : Duration) :
    (deadline now ttl).toNanos ≤ now.toNanos + min ttl.toNanos maxTtl.toNanos := by
  rw [toNanos_deadline]
  split
  · exact le_rfl
  · exact Nat.le_add_right _ _

end Discovery.Store
