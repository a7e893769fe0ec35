import Discovery.Settings.Basic
import Mathlib.Tactic
/-!
The bounds that settings are within, wherever they come from.

* `Store.Admissible`: the times to live that are accepted;
* `Limits.Bounded`, `Settings.Bounded`: there is room for an entry, every kind of
  entry has an admissible time to live, and cleanups wait and poll at all;
* `Settings.Assigned`, `Settings.assigned_assign`: the courses that taking a
  variable into account can take, with what was checked of its number;
* `Settings.bounded_load`: settings that are accepted are within the bounds.
-/

namespace Discovery

/-- Some time to live, and not more than the longest one. -/
def Store.Admissible (ttl : Duration) : Prop := .zero < ttl ∧ ttl ≤ maxTtl

/-- Limits with room for an entry, and with an admissible time to live for every kind
of entry. -/
structure Limits.Bounded (l : Limits) : Prop where
  capacity_pos : 0 < l.capacity.toNat
  ttl : ∀ kind, Store.Admissible (l.ttl kind)

/-- Settings with bounded limits, and with a cleanup that waits and that polls. -/
structure Settings.Bounded (s : Settings) : Prop where
  cache : s.cache.Bounded
  interval_pos : .zero < s.cleanup.interval
  attempts_pos : 0 < s.cleanup.attempts.toNat

/-! ### Numbers -/

/-- Of two checks in a row that succeed, the first one does. -/
lemma exists_of_bind_eq_ok {α β : Type} {x : Except Fault α} {f : α → Except Fault β} {b : β}
    (h : (x >>= f) = .ok b) : ∃ a, x = .ok a ∧ f a = .ok b := by
  cases x with
  | error fault => cases h
  | ok a => exact ⟨a, rfl, h⟩

namespace Variable

variable {var : Variable} {text : Option String} {n : UInt64} {d : Duration}
  {unit : UInt64 → Duration}

/-- A number that is accepted is positive. -/
lemma pos_of_positive (h : var.positive text = .ok (some n)) : 0 < n.toNat := by
  cases text with
  | none => cases h
  | some raw =>
      simp only [positive] at h
      split at h
      · cases h
      split at h
      · split at h
        · next hn =>
            cases h
            rw [UInt64.toNat_ofNat_of_lt' hn.2]
            exact hn.1
        · cases h
      · cases h

/-- A time to live that is accepted is admissible, if every positive number of its
unit is some time. -/
lemma admissible_of_ttl (hunit : ∀ n, 0 < n.toNat → .zero < unit n)
    (h : var.ttl unit text = .ok (some d)) : Store.Admissible d := by
  obtain ⟨_ | n, hnumber, h⟩ := exists_of_bind_eq_ok h
  · cases h
  · dsimp only at h
    split at h
    · cases h
    · next hle =>
        cases h
        exact ⟨hunit n (pos_of_positive hnumber), hle⟩

end Variable

/-- A positive number of seconds is some time. -/
lemma Duration.zero_lt_ofSecs (n : UInt64) (h : 0 < n.toNat) : .zero < ofSecs n := by
  rw [lt_iff_toNanos_lt, toNanos_ofSecs]
  exact Nat.mul_pos h (by decide)

/-- A positive number of milliseconds is some time. -/
lemma Duration.zero_lt_ofMillis (n : UInt64) (h : 0 < n.toNat) : .zero < ofMillis n := by
  rw [lt_iff_toNanos_lt, toNanos_ofMillis]
  exact Nat.mul_pos h (by decide)

/-! ### One variable -/

namespace Settings

variable {s s' : Settings} {var : Variable} {vars : List Variable} {text : Option String}
  {lookup : String → Option String}

/-- The courses of taking a variable into account: nothing is changed, or one setting
is, to what the variable's number was checked to be. -/
inductive Assigned (s : Settings) : Settings → Prop
  | unset : Assigned s s
  | capacity {n : UInt64} (hpos : 0 < n.toNat) : Assigned s { s with cache.capacity := n }
  | namespaceTtl {d : Duration} (httl : Store.Admissible d) :
      Assigned s { s with cache.namespaceTtl := d }
  | serviceTtl {d : Duration} (httl : Store.Admissible d) :
      Assigned s { s with cache.serviceTtl := d }
  | endpointTtl {d : Duration} (httl : Store.Admissible d) :
      Assigned s { s with cache.endpointTtl := d }
  | interval {d : Duration} (hpos : .zero < d) : Assigned s { s with cleanup.interval := d }
  | attempts {n : UInt32} (hpos : 0 < n.toNat) : Assigned s { s with cleanup.attempts := n }

/-- A variable that is not faulty takes one of these courses. -/
lemma assigned_assign (h : s.assign var text = .ok s') : Assigned s s' := by
  cases var with
  | cacheCapacity =>
      obtain ⟨_ | n, hnumber, h⟩ := exists_of_bind_eq_ok h
      · cases h
        exact .unset
      · cases h
        exact .capacity (Variable.pos_of_positive hnumber)
  | namespaceTtl =>
      obtain ⟨_ | d, httl, h⟩ := exists_of_bind_eq_ok h
      · cases h
        exact .unset
      · cases h
        exact .namespaceTtl (Variable.admissible_of_ttl Duration.zero_lt_ofSecs httl)
  | serviceTtl =>
      obtain ⟨_ | d, httl, h⟩ := exists_of_bind_eq_ok h
      · cases h
        exact .unset
      · cases h
        exact .serviceTtl (Variable.admissible_of_ttl Duration.zero_lt_ofSecs httl)
  | endpointTtl =>
      obtain ⟨_ | d, httl, h⟩ := exists_of_bind_eq_ok h
      · cases h
        exact .unset
      · cases h
        exact .endpointTtl (Variable.admissible_of_ttl Duration.zero_lt_ofMillis httl)
  | pollInterval =>
      obtain ⟨_ | n, hnumber, h⟩ := exists_of_bind_eq_ok h
      · cases h
        exact .unset
      · cases h
        exact .interval (Duration.zero_lt_ofMillis n (Variable.pos_of_positive hnumber))
  | pollAttempts =>
      obtain ⟨_ | n, hnumber, h⟩ := exists_of_bind_eq_ok h
      · cases h
        exact .unset
      · have hpos : 0 < n.toNat := Variable.pos_of_positive hnumber
        dsimp only at h
        split at h
        · next hlt =>
            cases h
            refine .attempts ?_
            rwa [UInt64.toNat_toUInt32, Nat.mod_eq_of_lt hlt]
        · cases h

/-! ### All variables -/

/-- The settings that hold unless variables say otherwise are within the bounds. -/
lemma bounded_standard : standard.Bounded := by
  refine ⟨⟨by decide, fun kind => ?_⟩, by decide, by decide⟩
  cases kind <;> exact ⟨by decide, by decide⟩

/-- Each course keeps settings within the bounds. -/
lemma Assigned.bounded (h : Assigned s s') (hs : s.Bounded) : s'.Bounded := by
  -- A time to live takes the place of that of one kind, and those of the others stay.
  have hcache {l : Limits} (hcapacity : l.capacity = s.cache.capacity)
      (httl : ∀ kind, Store.Admissible (l.ttl kind)) :
      Settings.Bounded { s with cache := l } :=
    ⟨⟨hcapacity ▸ hs.cache.capacity_pos, httl⟩, hs.interval_pos, hs.attempts_pos⟩
  have hothers : ∀ kind, Store.Admissible (s.cache.ttl kind) := hs.cache.ttl
  cases h with
  | unset => exact hs
  | capacity hpos => exact ⟨⟨hpos, hs.cache.ttl⟩, hs.interval_pos, hs.attempts_pos⟩
  | namespaceTtl httl =>
      exact hcache rfl fun
        | .namespaceRecord => httl
        | .serviceId => hothers .serviceId
        | .endpointSet => hothers .endpointSet
  | serviceTtl httl =>
      exact hcache rfl fun
        | .namespaceRecord => hothers .namespaceRecord
        | .serviceId => httl
        | .endpointSet => hothers .endpointSet
  | endpointTtl httl =>
      exact hcache rfl fun
        | .namespaceRecord => hothers .namespaceRecord
        | .serviceId => hothers .serviceId
        | .endpointSet => httl
  | interval hpos => exact ⟨hs.cache, hpos, hs.attempts_pos⟩
  | attempts hpos => exact ⟨hs.cache, hs.interval_pos, hpos⟩

/-- Variables that are taken into account in turn leave settings within the bounds. -/
lemma bounded_loadFrom (hs : s.Bounded) (h : (loadFrom lookup vars s).2 = .ok s') :
    s'.Bounded := by
  induction vars generalizing s with
  | nil =>
      cases h
      exact hs
  | cons var rest ih =>
      rw [loadFrom] at h
      cases hassign : s.assign var (lookup var.name) with
      | error fault =>
          rw [hassign] at h
          cases h
      | ok next =>
          rw [hassign] at h
          exact ih ((assigned_assign hassign).bounded hs) h

/-- Settings that are accepted are within the bounds. -/
lemma bounded_load (h : (load lookup).2 = .ok s) : s.Bounded :=
  bounded_loadFrom bounded_standard h

end Settings

end Discovery
