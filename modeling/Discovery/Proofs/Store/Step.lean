import Discovery.Proofs.Store.Entries
import Discovery.Store.Run
/-!
One operation on a store whose clock reads true.

* `Store.eq_entry_run`: until a key is written again, what the store holds
  under it is what was written last, whatever the clock reads;
* `Store.touched`: the key that an operation uses, by writing it or by finding
  it live;
* `Store.Step`, `Store.step_act`: everything that an operation can do to the
  entries, with the key that it uses;
* `Store.KeyStep`, `Store.keyStep_act`: the same, told by the keys alone;
* `Store.find?_eq_none_iff`, `Store.find?_eq_some_iff`: when a key is found, and with
  which entry;
* `Store.Orderly`, `Store.orderly_run`: the keys of a store are distinct, there
  are no more of them than the capacity, and every entry is shown, after any
  run;
* `Store.Orderly.find?_eq_some_iff`: in such a store a key is found just when
  it is held.
-/

namespace Discovery.Store

variable {κ ν : Type} [DecidableEq κ] {s : Store κ ν} {op : Op κ ν} {key : κ} {e : Entry κ ν}

/-! ### Operations -/

/-- An operation that leaves the readings of the clock true. -/
def Op.Truthful : Op κ ν → Prop
  | .misread _ => False
  | _ => True

/-- An operation that leaves the readings of the clock true, and that writes
nothing without time to live. -/
def Op.Regular : Op κ ν → Prop
  | .add _ _ ttl => ttl ≠ .zero
  | .misread _ => False
  | _ => True

omit [DecidableEq κ] in
lemma Op.Regular.truthful (h : op.Regular) : op.Truthful := by
  cases op with
  | misread => exact absurd h id
  | add | get | remove | advance => trivial

/-- The key that an operation uses: the one that it writes, or the one that it
asks for and finds live. A miss uses none. -/
def touched (op : Op κ ν) (s : Store κ ν) : Option κ :=
  match op, (act op s).answer with
  | .add key _ _, .ok _ => some key
  | .get key, .ok (some _) => some key
  | _, _ => none

/-- Under true readings, writing uses its key. -/
lemma touched_add (hs : s.clock.Accurate) {value : ν} {ttl : Duration} :
    touched (.add key value ttl) s = some key := by
  simp [touched, act, add_of_accurate hs, Except.map]

/-- What an operation can do under true readings: the key that it uses, and the
entries that it leaves. -/
inductive Step (s : Store κ ν) : Op κ ν → Option κ → List (Entry κ ν) → Prop
  | add {key : κ} {value : ν} {ttl : Duration} :
      Step s (.add key value ttl) (some key)
        ((entry key value ttl s.clock.now :: s.others key).take s.capacity)
  | hit {key : κ} {e : Entry κ ν} (hfind : s.find? key = some e)
      (hlive : s.clock.now < e.deadline) : Step s (.get key) (some key) (e :: s.others key)
  | expired {key : κ} {e : Entry κ ν} (hfind : s.find? key = some e)
      (hdead : ¬ s.clock.now < e.deadline) : Step s (.get key) none (s.others key)
  | absent {key : κ} (hfind : s.find? key = none) : Step s (.get key) none s.entries
  | remove {key : κ} : Step s (.remove key) none (s.others key)
  | advance {d : Duration} : Step s (.advance d) none s.entries

/-- The clock of a store moves forward or stays, and nothing else changes. -/
lemma act_advance (d : Duration) (s : Store κ ν) :
    ∃ clock, (act (.advance d) s).state = { s with clock := clock } ∧
      s.clock.now.toNanos ≤ clock.now.toNanos ∧ clock.skews = s.clock.skews := by
  cases hmoved : s.clock.advance d with
  | error fault =>
      exact ⟨s.clock, by simp [act, Store.advance, hmoved, Except.map], le_rfl, rfl⟩
  | ok clock =>
      exact ⟨clock, by simp [act, Store.advance, hmoved, Except.map],
        Clock.now_le_of_advance hmoved, Clock.skews_of_advance hmoved⟩

/-- Under true readings, an operation does one of these things. -/
lemma step_act (hs : s.clock.Accurate) (hop : op.Regular) :
    Step s op (touched op s) (act op s).state.entries := by
  cases op with
  | add key value ttl => simpa [touched, act, add_of_accurate hs, Except.map] using Step.add
  | get key =>
      cases hfind : s.find? key with
      | none =>
          simpa [touched, act, get_of_find?_eq_none hfind] using Step.absent hfind
      | some e =>
          by_cases hlive : s.clock.now < e.deadline
          · simpa [touched, act, get_of_accurate hs hfind, hlive] using Step.hit hfind hlive
          · have hkey := (find?_some hfind).2.1
            simpa [touched, act, get_of_accurate hs hfind, hlive, others, noteLookup, hkey]
              using Step.expired hfind hlive
  | remove key => simpa [touched, act] using Step.remove
  | advance d =>
      obtain ⟨clock, hstate, -⟩ := act_advance d s
      have hnone : touched (.advance d) s = none := by simp [touched]
      rw [hstate, hnone]
      exact .advance
  | misread skews => exact absurd hop id

/-- No operation changes the capacity. -/
@[simp] lemma capacity_act : (act op s).state.capacity = s.capacity := by
  cases op with
  | add => exact capacity_add
  | get => exact capacity_get
  | remove => exact capacity_remove
  | advance d =>
      obtain ⟨clock, hstate, -⟩ := act_advance d s
      rw [hstate]
  | misread => rfl

@[simp] lemma capacity_run (ops : List (Op κ ν)) : (run ops s).capacity = s.capacity := by
  induction ops generalizing s with
  | nil => rfl
  | cons op rest ih => rw [run_cons, ih, capacity_act]

/-- A clock that reads true does so after every operation but a misreading. -/
lemma accurate_act (hs : s.clock.Accurate) (hop : op.Truthful) :
    (act op s).state.clock.Accurate := by
  cases op with
  | add key value ttl =>
      rw [act_add_state, clock_add_of_accurate hs]
      exact hs
  | get key =>
      rw [act_get, clock_get_of_accurate hs]
      exact hs
  | remove key => simpa using hs
  | advance d =>
      obtain ⟨clock, hstate, -, hskews⟩ := act_advance d s
      rw [hstate]
      exact hskews.trans hs
  | misread skews => exact absurd hop id

/-- No operation moves the clock back. -/
lemma now_le_act : s.clock.now.toNanos ≤ (act op s).state.clock.now.toNanos := by
  cases op with
  | add key value ttl => simp
  | get key => simp
  | remove key => simp
  | advance d =>
      obtain ⟨clock, hstate, hnow, -⟩ := act_advance d s
      rwa [hstate]
  | misread skews => exact le_rfl

/-- No run moves the clock back. -/
lemma now_le_run (ops : List (Op κ ν)) :
    s.clock.now.toNanos ≤ (run ops s).clock.now.toNanos := by
  induction ops generalizing s with
  | nil => exact le_rfl
  | cons op rest ih => exact now_le_act.trans ih

/-- The entries of a store after an operation were there before it, but for
one that it wrote. -/
lemma mem_entries_act (he : e ∈ (act op s).state.entries) :
    e ∈ s.entries ∨ ∃ value ttl, op = .add e.key value ttl := by
  cases op with
  | add key value ttl =>
      rcases mem_entries_add he with he | ⟨now, -, rfl⟩
      · exact .inl he
      · exact .inr ⟨value, ttl, rfl⟩
  | get key => exact .inl (mem_entries_get he)
  | remove key => exact .inl (mem_entries_remove he).1
  | advance d =>
      obtain ⟨clock, hstate, -⟩ := act_advance d s
      rw [hstate] at he
      exact .inl he
  | misread skews => exact .inl he

/-- Until a key is written again, only the entry that was written last is held
under it. -/
lemma eq_entry_run (ops : List (Op κ ν)) {value : ν} {ttl : Duration} {now : Instant} {c : Clock}
    (hread : s.clock.read = (.ok now, c)) (hlatest : ∀ value ttl, .add key value ttl ∉ ops)
    (he : e ∈ (run ops (s.add key value ttl).2).entries) (hkey : e.key = key) :
    e = entry key value ttl now := by
  let I (t : Store κ ν) : Prop := ∀ e ∈ t.entries, e.key = key → e = entry key value ttl now
  have hkeeps : ∀ op ∈ ops, ∀ t, I t → I (act op t).state := by
    intro op hop t hall e he hkey
    rcases mem_entries_act he with he | ⟨value, ttl, rfl⟩
    · exact hall e he hkey
    · rw [hkey] at hop
      exact absurd hop (hlatest value ttl)
  have hwritten : I (s.add key value ttl).2 := by
    intro e he hkey
    rw [add_of_read hread, entries_settle] at he
    rcases List.mem_cons.mp (List.mem_of_mem_take he) with rfl | he
    · rfl
    · exact absurd hkey (mem_others.mp he).2
  exact (Action.keeps_each hkeeps hwritten).2 e he hkey

/-! ### The order of the keys -/

/-- A list with one item brought to its front, from wherever it stood. -/
def toFront (key : κ) (l : List κ) : List κ := key :: l.filter (· ≠ key)

lemma nodup_toFront {l : List κ} (h : l.Nodup) (key : κ) : (toFront key l).Nodup := by
  refine List.nodup_cons.mpr ⟨?_, h.filter _⟩
  simp

/-- Bringing an item of a list to its front does not make it longer. -/
lemma length_toFront_le {l : List κ} (h : key ∈ l) : (toFront key l).length ≤ l.length := by
  have hlt : (l.filter (· ≠ key)).length < l.length :=
    List.length_filter_lt_length_iff_exists.mpr ⟨key, h, by simp⟩
  rw [toFront, List.length_cons]
  omega

/-- The keys that a store holds, the most recently used first. -/
def keys (s : Store κ ν) : List κ := s.entries.map Entry.key

/-- The keys of all entries but those of one key. -/
lemma map_key_others (s : Store κ ν) (key : κ) :
    (s.others key).map Entry.key = s.keys.filter (· ≠ key) := by
  rw [keys, List.filter_map]
  rfl

/-- An entry put before those of the other keys brings its key to the front. -/
lemma map_key_cons_others (he : e.key = key) :
    (e :: s.others key).map Entry.key = toFront key s.keys := by
  rw [List.map_cons, map_key_others, he, toFront]

lemma find?_mem_keys (h : s.find? key = some e) : key ∈ s.keys := by
  obtain ⟨he, rfl, -⟩ := find?_some h
  exact List.mem_map_of_mem he

/-- What an operation can do under true readings, told by the keys alone. -/
inductive KeyStep (s : Store κ ν) : Op κ ν → Option κ → List κ → Prop
  | add {key : κ} {value : ν} {ttl : Duration} :
      KeyStep s (.add key value ttl) (some key) ((toFront key s.keys).take s.capacity)
  | hit {key : κ} (hmem : key ∈ s.keys) :
      KeyStep s (.get key) (some key) (toFront key s.keys)
  | expired {key : κ} {e : Entry κ ν} (hfind : s.find? key = some e)
      (hdead : ¬ s.clock.now < e.deadline) : KeyStep s (.get key) none (s.keys.filter (· ≠ key))
  | absent {key : κ} (hfind : s.find? key = none) : KeyStep s (.get key) none s.keys
  | remove {key : κ} : KeyStep s (.remove key) none (s.keys.filter (· ≠ key))
  | advance {d : Duration} : KeyStep s (.advance d) none s.keys

lemma keyStep_act (hs : s.clock.Accurate) (hop : op.Regular) :
    KeyStep s op (touched op s) (act op s).state.keys := by
  have hstep := step_act hs hop
  rw [keys]
  generalize (act op s).state.entries = entries, touched op s = used at hstep
  cases hstep with
  | @add key value ttl =>
      have hkey : (entry key value ttl s.clock.now).key = key := rfl
      rw [List.map_take, map_key_cons_others hkey]
      exact .add
  | hit hfind hlive =>
      rw [map_key_cons_others (find?_some hfind).2.1]
      exact .hit (find?_mem_keys hfind)
  | expired hfind hdead =>
      rw [map_key_others]
      exact .expired hfind hdead
  | absent hfind => exact .absent hfind
  | remove =>
      rw [map_key_others]
      exact .remove
  | advance => exact .advance

/-! ### Finding a key -/

/-- A key is not found just when the backing cache hides all that it holds. -/
lemma find?_eq_none_iff : s.find? key = none ↔ ∀ e ∈ s.entries, e.key = key → ¬ e.Shown := by
  simp [find?]

/-- Among distinct keys, a key is found with an entry just when it holds that entry and
the entry is shown. -/
lemma find?_eq_some_iff (hs : s.keys.Nodup) :
    s.find? key = some e ↔ e ∈ s.entries ∧ e.key = key ∧ e.Shown := by
  refine ⟨find?_some, ?_⟩
  rintro ⟨he, rfl, hshown⟩
  cases hfind : s.find? e.key with
  | none => exact absurd hshown (find?_eq_none_iff.mp hfind e he rfl)
  | some e' =>
      obtain ⟨he', hkey, -⟩ := find?_some hfind
      rw [List.inj_on_of_nodup_map hs he' he hkey]

/-! ### Orderly stores -/

/-- What holds of a store after any run of regular operations. -/
structure Orderly (s : Store κ ν) : Prop where
  accurate : s.clock.Accurate
  nodup : s.keys.Nodup
  length_le : s.keys.length ≤ s.capacity
  shown : ∀ e ∈ s.entries, e.Shown

/-- In an orderly store a key is found just when it is held. -/
lemma Orderly.find?_eq_none_iff (hs : s.Orderly) : s.find? key = none ↔ key ∉ s.keys := by
  simp only [Store.find?_eq_none_iff, keys, List.mem_map, not_exists, not_and]
  exact ⟨fun h e he hkey => h e he hkey (hs.shown e he), fun h e he hkey => absurd hkey (h e he)⟩

/-- An entry of an orderly store is the one that is found under its key. -/
lemma Orderly.find?_eq_some_iff (hs : s.Orderly) :
    s.find? key = some e ↔ e ∈ s.entries ∧ e.key = key := by
  rw [Store.find?_eq_some_iff hs.nodup]
  exact ⟨fun h => ⟨h.1, h.2.1⟩, fun h => ⟨h.1, h.2, hs.shown e h.1⟩⟩

/-- In an orderly store a key that is not found has no entries to be set apart
from. -/
lemma Orderly.others_eq (hs : s.Orderly) (hfind : s.find? key = none) :
    s.others key = s.entries := by
  refine List.filter_eq_self.mpr fun e he => ?_
  have hkey : e.key ≠ key := fun hkey =>
    hs.find?_eq_none_iff.mp hfind (hkey ▸ List.mem_map_of_mem he)
  simpa using hkey

omit [DecidableEq κ] in
/-- A store without entries is orderly. -/
lemma orderly_empty {name : String} {capacity : ℕ} {clock : Clock} (h : clock.Accurate) :
    (empty name capacity clock : Store κ ν).Orderly :=
  ⟨h, List.nodup_nil, Nat.zero_le _, nofun⟩

/-- A regular operation leaves every entry shown. -/
lemma shown_act (hs : s.Orderly) (hop : op.Regular) :
    ∀ e ∈ (act op s).state.entries, e.Shown := by
  intro e he
  have hstep := step_act hs.accurate hop
  generalize (act op s).state.entries = entries, touched op s = used at he hstep
  cases hstep with
  | add =>
      rcases List.mem_cons.mp (List.mem_of_mem_take he) with rfl | he
      · exact shown_entry_iff.mpr hop
      · exact hs.shown e (mem_others.mp he).1
  | hit hfind =>
      rcases List.mem_cons.mp he with rfl | he
      · exact (find?_some hfind).2.2
      · exact hs.shown e (mem_others.mp he).1
  | expired | remove => exact hs.shown e (mem_others.mp he).1
  | absent | advance => exact hs.shown e he

/-- A regular operation leaves an orderly store orderly. -/
lemma orderly_act (hs : s.Orderly) (hop : op.Regular) : (act op s).state.Orderly := by
  have hstep := keyStep_act hs.accurate hop
  refine ⟨accurate_act hs.accurate hop.truthful, ?_, ?_, shown_act hs hop⟩
  · generalize (act op s).state.keys = l, touched op s = used at hstep ⊢
    cases hstep with
    | add => exact (List.take_sublist _ _).nodup (nodup_toFront hs.nodup _)
    | hit => exact nodup_toFront hs.nodup _
    | expired | remove => exact hs.nodup.filter _
    | absent | advance => exact hs.nodup
  · rw [capacity_act]
    generalize (act op s).state.keys = l, touched op s = used at hstep ⊢
    cases hstep with
    | add => exact List.length_take_le ..
    | hit hmem => exact (length_toFront_le hmem).trans hs.length_le
    | expired | remove => exact (List.length_filter_le ..).trans hs.length_le
    | absent | advance => exact hs.length_le

/-- A run of regular operations leaves an orderly store orderly. -/
lemma orderly_run {ops : List (Op κ ν)} (hs : s.Orderly) (hops : ∀ op ∈ ops, op.Regular) :
    (run ops s).Orderly :=
  (Action.keeps_each (fun op hop _ ht => orderly_act ht (hops op hop)) hs).2

end Discovery.Store
