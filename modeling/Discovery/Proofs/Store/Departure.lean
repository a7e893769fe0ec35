import Discovery.Proofs.Store.Step
import Discovery.Store.Backing
/-!
How an entry can leave a store, whatever the clock reads and however long the backing cache
has held it.

* `Store.Tidy`, `Store.tidy_run`: the keys of a store are distinct, and there are no
  more of them than the capacity, after any run at all;
* `Store.get_eq_of_live`, `Store.get_eq_of_dead`: what asking for a found key comes to,
  reading by reading of the clock;
* `Store.Leaves`, `Store.leaves_of_notMem`: an entry leaves by being removed, replaced or
  pushed out, or by being asked for when two readings in a row are past its deadline;
* `Store.Departs`, `Store.departs_of_notMem`: or the backing cache gives it up once it has
  held it for its time to live;
* `Store.timerLags_run`: under true readings the timer of the backing cache is not ahead;
* `Store.keeps_live_entries`: so no wrong reading of the clock loses a live entry.
-/

namespace Discovery.Store

variable {κ ν : Type} [DecidableEq κ] {s : Store κ ν} {op : Op κ ν} {key : κ} {value : ν}
  {ttl : Duration} {e : Entry κ ν}

/-! ### Distinct keys -/

/-- What holds of a store after any run, whatever the clock reads. -/
structure Tidy (s : Store κ ν) : Prop where
  nodup : s.keys.Nodup
  length_le : s.keys.length ≤ s.capacity

omit [DecidableEq κ] in
lemma tidy_empty (name : String) (capacity : ℕ) (clock : Clock) :
    (empty name capacity clock : Store κ ν).Tidy :=
  ⟨List.nodup_nil, Nat.zero_le _⟩

omit [DecidableEq κ] in
lemma Tidy.count_le (hs : s.Tidy) : s.count ≤ s.capacity := by
  simpa [keys, count] using hs.length_le

/-- The keys after asking for one: it may have come to the front, or it is gone. -/
lemma keys_get (s : Store κ ν) (key : κ) :
    (s.get key).2.keys = s.keys ∨
      (key ∈ s.keys ∧ (s.get key).2.keys = toFront key s.keys) ∨
      (s.get key).2.keys = s.keys.filter (· ≠ key) := by
  have hcourse := get_asked s key
  rw [keys]
  generalize (s.get key).1 = answer, (s.get key).2.entries = entries,
    (s.get key).2.clock = clock at hcourse ⊢
  cases hcourse with
  | absent => exact .inl rfl
  | refused hfind | hit hfind | refusedAgain hfind | spared hfind =>
      exact .inr (.inl ⟨find?_mem_keys hfind, map_key_cons_others (find?_some hfind).2.1⟩)
  | dropped => exact .inr (.inr (map_key_others s key))

lemma Tidy.get (hs : s.Tidy) (key : κ) : (s.get key).2.Tidy := by
  rcases keys_get s key with hkeys | ⟨hmem, hkeys⟩ | hkeys
  · exact ⟨hkeys ▸ hs.nodup, by rw [hkeys, capacity_get]; exact hs.length_le⟩
  · refine ⟨hkeys ▸ nodup_toFront hs.nodup key, ?_⟩
    rw [hkeys, capacity_get]
    exact (length_toFront_le hmem).trans hs.length_le
  · refine ⟨hkeys ▸ hs.nodup.filter _, ?_⟩
    rw [hkeys, capacity_get]
    exact (List.length_filter_le ..).trans hs.length_le

lemma Tidy.remove (hs : s.Tidy) (key : κ) : (s.remove key).Tidy := by
  have hkeys : (s.remove key).keys = s.keys.filter (· ≠ key) := by
    rw [keys, entries_remove, map_key_others]
  refine ⟨hkeys ▸ hs.nodup.filter _, ?_⟩
  rw [hkeys, capacity_remove]
  exact (List.length_filter_le ..).trans hs.length_le

lemma Tidy.add (hs : s.Tidy) (key : κ) (value : ν) (ttl : Duration) :
    (s.add key value ttl).2.Tidy := by
  rcases hread : s.clock.read with ⟨fault | now, clock⟩
  · have hadd : s.add key value ttl = (.error fault, { s with clock := clock }) := by
      rw [Store.add, hread]
    rw [hadd]
    exact ⟨hs.nodup, hs.length_le⟩
  · have hkey : (entry key value ttl now).key = key := rfl
    have hkeys : (s.add key value ttl).2.keys = (toFront key s.keys).take s.capacity := by
      rw [keys, add_of_read hread, entries_settle, List.map_take, map_key_cons_others hkey]
    refine ⟨hkeys ▸ (List.take_sublist _ _).nodup (nodup_toFront hs.nodup key), ?_⟩
    rw [hkeys, capacity_add]
    exact List.length_take_le ..

/-- Every operation leaves a tidy store tidy. -/
lemma tidy_act (hs : s.Tidy) (op : Op κ ν) : (act op s).state.Tidy := by
  cases op with
  | add key value ttl => exact hs.add key value ttl
  | get key => exact hs.get key
  | remove key => exact hs.remove key
  | advance d =>
      obtain ⟨clock, hstate, -⟩ := act_advance d s
      rw [hstate]
      exact ⟨hs.nodup, hs.length_le⟩
  | misread => exact ⟨hs.nodup, hs.length_le⟩

/-- So does every run of them. -/
lemma tidy_run (hs : s.Tidy) (ops : List (Op κ ν)) :
    (∀ turn ∈ Action.turns act ops s, turn.2.Tidy) ∧ (run ops s).Tidy :=
  Action.keeps_each (I := Tidy) (fun op _ _ ht => tidy_act ht op) hs

/-! ### Asking, reading by reading -/

/-- Among distinct keys, one that holds an entry that the backing cache hides is not
found. -/
lemma find?_eq_none_of_nodup (hs : s.keys.Nodup) (he : e ∈ s.entries) (hhidden : ¬ e.Shown) :
    s.find? e.key = none := by
  refine find?_eq_none_iff.mpr fun e' he' hkey => ?_
  rwa [List.inj_on_of_nodup_map hs he' he hkey]

/-- A found key asked for at a reading that is before its deadline. -/
lemma get_eq_of_live {t : Instant} {c : Clock} (hfind : s.find? key = some e)
    (hread : s.clock.read = (.ok t, c)) (hlive : t < e.deadline) :
    (s.get key).1 = .ok (some e.value) ∧ (s.get key).2.entries = e :: s.others key ∧
      (s.get key).2.clock = c := by
  simp [get, hfind, hread, hlive]

/-- A found key asked for at a reading that is not before its deadline: the entry is
dropped just when a second reading agrees. -/
lemma get_eq_of_dead {t t' : Instant} {c c' : Clock} (hfind : s.find? key = some e)
    (hread : s.clock.read = (.ok t, c)) (hdead : e.deadline ≤ t)
    (hagain : c.read = (.ok t', c')) :
    (s.get key).1 = .ok none ∧
      (s.get key).2.entries = (if e.deadline ≤ t' then s.others key else e :: s.others key) ∧
      (s.get key).2.clock = c' := by
  have hkey := (find?_some hfind).2.1
  have hlate : ¬ t < e.deadline := hdead
  by_cases hspared : t' < e.deadline
  · have hkept : ¬ e.deadline ≤ t' := fun hle => hle hspared
    simp [get, hfind, hread, hlate, hagain, hspared, hkept]
  · have hgone : e.deadline ≤ t' := hspared
    simp [get, hfind, hread, hlate, hagain, hspared, hgone, others, hkey]

/-- What two readings in a row find expired is dropped just when it is shown. -/
lemma notMem_entries_get_iff {t t' : Instant} {c c' : Clock} (hs : s.keys.Nodup)
    (he : e ∈ s.entries) (hread : s.clock.read = (.ok t, c)) (hdead : e.deadline ≤ t)
    (hagain : c.read = (.ok t', c')) (hgone : e.deadline ≤ t') :
    e ∉ (s.get e.key).2.entries ↔ e.Shown := by
  by_cases hshown : e.Shown
  · have hfind : s.find? e.key = some e := (find?_eq_some_iff hs).mpr ⟨he, rfl, hshown⟩
    rw [(get_eq_of_dead hfind hread hdead hagain).2.1, if_pos hgone]
    exact iff_of_true (fun hstays => (mem_others.mp hstays).2 rfl) hshown
  · rw [get_of_find?_eq_none (find?_eq_none_of_nodup hs he hshown)]
    exact iff_of_false (not_not_intro he) hshown

/-- Asking for a key leaves the entries of the other keys, in their order. -/
lemma others_get (s : Store κ ν) (key : κ) : (s.get key).2.others key = s.others key := by
  have hcourse := get_asked s key
  rw [others]
  generalize (s.get key).1 = answer, (s.get key).2.entries = entries,
    (s.get key).2.clock = clock at hcourse ⊢
  cases hcourse with
  | absent => rfl
  | refused hfind | hit hfind | refusedAgain hfind | spared hfind =>
      simp [others, (find?_some hfind).2.1]
  | dropped => simp [others]

/-! ### Leaving -/

/-- The ways in which an operation can make an entry leave a store. Another one is
written in its place or pushes it out, it is removed, or it is asked for and two
readings of the clock, one after the other, are past its deadline. -/
inductive Leaves (s : Store κ ν) (e : Entry κ ν) : Op κ ν → Prop
  | removed : Leaves s e (.remove e.key)
  | replaced {value : ν} {ttl : Duration} : Leaves s e (.add e.key value ttl)
  | pushedOut {key : κ} {value : ν} {ttl : Duration} (hnew : key ∉ s.keys)
      (hfull : s.count = s.capacity) (hlast : s.entries.getLast? = some e) :
      Leaves s e (.add key value ttl)
  | expired {t t' : Instant} {c c' : Clock} (hread : s.clock.read = (.ok t, c))
      (hdead : e.deadline ≤ t) (hagain : c.read = (.ok t', c')) (hgone : e.deadline ≤ t') :
      Leaves s e (.get e.key)

/-- What is cut off a list with one more item in front of it, to fit what the list just
fitted, is its last item. -/
lemma getLast?_of_notMem_take {α : Type} {l : List α} {x y : α} {n : ℕ} (hlength : l.length ≤ n)
    (hx : x ∈ l) (hcut : x ∉ (y :: l).take n) : l.length = n ∧ l.getLast? = some x := by
  have hne : l ≠ [] := List.ne_nil_of_mem hx
  obtain ⟨m, rfl⟩ : ∃ m, n = m + 1 :=
    Nat.exists_eq_succ_of_ne_zero (by have := List.length_pos_of_mem hx; omega)
  rw [List.take_succ_cons, List.mem_cons, not_or] at hcut
  have hfull : l.length = m + 1 := by
    by_contra hshort
    rw [List.take_of_length_le (by omega)] at hcut
    exact hcut.2 hx
  refine ⟨hfull, ?_⟩
  have hdropLast : l.dropLast = l.take m := by
    rw [List.dropLast_eq_take, hfull, Nat.add_sub_cancel]
  rw [← List.dropLast_append_getLast hne, List.mem_append, List.mem_singleton, hdropLast] at hx
  rw [List.getLast?_eq_some_getLast hne, hx.resolve_left hcut.2]

/-- What writing makes leave, of another key, is the last entry of a full store that takes
in a new key. -/
lemma full_of_notMem_add (hs : s.Tidy) (he : e ∈ s.entries) (hkey : e.key ≠ key)
    (hgone : e ∉ (s.add key value ttl).2.entries) :
    key ∉ s.keys ∧ s.count = s.capacity ∧ s.entries.getLast? = some e := by
  rcases hread : s.clock.read with ⟨fault | now, clock⟩
  · have hadd : (s.add key value ttl).2.entries = s.entries := by
      rw [Store.add, hread]
    exact absurd (hadd ▸ he) hgone
  rw [add_of_read hread, entries_settle] at hgone
  have hother : e ∈ s.others key := mem_others.mpr ⟨he, hkey⟩
  have hsub : (s.others key).Sublist s.entries := List.filter_sublist
  obtain ⟨hfull, hlast⟩ :=
    getLast?_of_notMem_take (hsub.length_le.trans hs.count_le) hother hgone
  -- The other keys fill the store by themselves, so the key that is written is a new one.
  have hall : s.others key = s.entries := hsub.eq_of_length_le (hfull ▸ hs.count_le)
  rw [hall] at hfull hlast
  refine ⟨fun hmem => ?_, hfull, hlast⟩
  obtain ⟨e', he', hkey'⟩ := List.mem_map.mp hmem
  exact (mem_others.mp (hall ▸ he')).2 hkey'

/-- What writing makes leave is an earlier entry of its key, or is pushed out. -/
lemma leaves_of_notMem_add (hs : s.Tidy) (he : e ∈ s.entries)
    (hgone : e ∉ (s.add key value ttl).2.entries) : Leaves s e (.add key value ttl) := by
  by_cases hkey : e.key = key
  · exact hkey ▸ .replaced
  · obtain ⟨hnew, hfull, hlast⟩ := full_of_notMem_add hs he hkey hgone
    exact .pushedOut hnew hfull hlast

/-- What asking for a key makes leave is its entry, if two readings are past its
deadline. -/
lemma leaves_of_notMem_get (hs : s.Tidy) (he : e ∈ s.entries)
    (hgone : e ∉ (s.get key).2.entries) : Leaves s e (.get key) := by
  have hkey : e.key = key := by
    by_contra hne
    have hother : e ∈ (s.get key).2.others key := others_get s key ▸ mem_others.mpr ⟨he, hne⟩
    exact hgone (mem_others.mp hother).1
  have hfound {e' : Entry κ ν} (hfind : s.find? key = some e') : e' = e := by
    obtain ⟨he', hkey', -⟩ := find?_some hfind
    exact List.inj_on_of_nodup_map hs.nodup he' he (hkey'.trans hkey.symm)
  have hcourse := get_asked s key
  generalize (s.get key).1 = answer, (s.get key).2.entries = entries,
    (s.get key).2.clock = clock at hcourse hgone
  cases hcourse with
  | absent => exact absurd he hgone
  | refused hfind | hit hfind | refusedAgain hfind | spared hfind =>
      rw [hfound hfind] at hgone
      exact absurd (List.mem_cons_self ..) hgone
  | dropped hfind hread hdead hagain hlate =>
      rw [hfound hfind] at hdead hlate
      exact hkey ▸ .expired hread hdead hagain hlate

/-- An entry that an operation makes leave does so in one of these ways. -/
lemma leaves_of_notMem (hs : s.Tidy) (he : e ∈ s.entries)
    (hgone : e ∉ (act op s).state.entries) : Leaves s e op := by
  cases op with
  | add key value ttl => exact leaves_of_notMem_add hs he hgone
  | get key => exact leaves_of_notMem_get hs he hgone
  | remove key =>
      rw [act_remove_state, entries_remove, mem_others, not_and, not_not] at hgone
      exact hgone he ▸ .removed
  | advance d =>
      obtain ⟨clock, hstate, -⟩ := act_advance d s
      rw [hstate] at hgone
      exact absurd he hgone
  | misread skews => exact absurd he hgone

/-! ### The backing cache -/

/-- The ways in which a move can make an entry leave a store. It is an operation that makes
the entry leave in one of the ways above, or the backing cache gives the entry up after it
has held it for its time to live. -/
inductive Departs (s : Store κ ν) (e : Entry κ ν) : Move κ ν → Prop
  | left {op : Op κ ν} (h : Leaves s e op) : Departs s e (.op op)
  | reclaimed {keys : List κ} (hkey : e.key ∈ keys) (hover : e.ttl.toNanos ≤ e.age) :
      Departs s e (.reclaim keys)

omit [DecidableEq κ] in
lemma timerLags_empty (name : String) (capacity : ℕ) (clock : Clock) :
    (empty name capacity clock : Store κ ν).TimerLags := nofun

/-- An operation under true readings does not let the clock fall behind the timer. -/
lemma timerLags_act (hs : s.TimerLags) (hclock : s.clock.Accurate) (hop : op.Truthful) :
    (act op s).state.TimerLags := by
  intro e he
  have hheld (hbefore : e ∈ s.entries) : e.deadline.toNanos + e.age ≤
      (act op s).state.clock.now.toNanos + e.ttl.toNanos :=
    (hs e hbefore).trans (Nat.add_le_add_right now_le_act _)
  cases op with
  | add key value ttl =>
      rcases mem_entries_add (s := s) he with hbefore | ⟨now, hread, rfl⟩
      · exact hheld hbefore
      · rw [Clock.read_of_accurate hclock] at hread
        cases hread
        have hdeadline := toNanos_deadline_le s.clock.now ttl
        rw [← Duration.toNanos_shorter] at hdeadline
        have hage : (entry key value ttl s.clock.now).age = 0 := rfl
        rw [hage, Nat.add_zero, act_add_state, clock_add_of_accurate hclock]
        exact hdeadline
  | get key => exact hheld (mem_entries_get he)
  | remove key => exact hheld (mem_entries_remove he).1
  | advance d =>
      obtain ⟨clock, hstate, -⟩ := act_advance d s
      refine hheld ?_
      rwa [hstate] at he
  | misread skews => exact absurd hop id

/-- Nor does a run of them. -/
lemma timerLags_run {ops : List (Op κ ν)} (hs : s.TimerLags) (hclock : s.clock.Accurate)
    (hops : ∀ op ∈ ops, op.Truthful) : ∀ turn ∈ Action.turns act ops s, turn.2.TimerLags := by
  have hrun := (Action.keeps_each (f := act) (l := ops)
    (I := fun t : Store κ ν => t.TimerLags ∧ t.clock.Accurate)
    (fun op hop t ht => ⟨timerLags_act ht.1 ht.2 (hops op hop), accurate_act ht.2 (hops op hop)⟩)
    ⟨hs, hclock⟩).1
  exact fun turn hturn => (hrun turn hturn).1

omit [DecidableEq κ] in
/-- The timer leaves the keys as they are. -/
lemma keys_elapse (s : Store κ ν) (nanos : ℕ) : (s.elapse nanos).keys = s.keys :=
  List.map_map

lemma keys_reclaim_sublist (s : Store κ ν) (keys : List κ) :
    (s.reclaim keys).keys.Sublist s.keys :=
  List.filter_sublist.map Entry.key

/-- Every move leaves a tidy store tidy. -/
lemma tidy_move (hs : s.Tidy) (m : Move κ ν) : (move m s).state.Tidy := by
  cases m with
  | op op => exact tidy_act hs op
  | elapse nanos =>
      have hkeys := keys_elapse s nanos
      exact ⟨hkeys.symm ▸ hs.nodup, hkeys.symm ▸ hs.length_le⟩
  | reclaim keys =>
      have hsub := keys_reclaim_sublist s keys
      exact ⟨hsub.nodup hs.nodup, hsub.length_le.trans hs.length_le⟩

/-- An entry that a move makes leave does so in one of these ways. -/
lemma departs_of_notMem {m : Move κ ν} (hs : s.Tidy) (he : e ∈ s.entries)
    (hgone : m.carry e ∉ (move m s).state.entries) : Departs s e m := by
  cases m with
  | op op => exact .left (leaves_of_notMem hs he hgone)
  | elapse nanos => exact absurd (List.mem_map_of_mem he) hgone
  | reclaim keys =>
      have hdropped : ¬ (e.Shown ∨ e.key ∉ keys) := fun hkept =>
        hgone (List.mem_filter.mpr ⟨he, decide_eq_true hkept⟩)
      obtain ⟨hhidden, hkey⟩ := not_or.mp hdropped
      exact .reclaimed (not_not.mp hkey) (not_lt.mp hhidden)

/-! ### Wrong readings -/

/-- Of a key that holds nothing, or only what the backing cache hides, no reading is taken;
it is a miss, and nothing changes but the tally, so that what is hidden keeps its place. A
key that holds an entry that is shown is a hit with its value just when a first reading is
before the deadline, and no other reading is taken then. Otherwise it is a miss, and the
entry is dropped just when a second reading is not before the deadline either; else it is
kept as it is. The entries of the other keys are left alone, in their order. So what both
readings find expired is dropped just when it is shown.

In any run from an empty store, whatever the clock reads and however far the timer of
the backing cache runs on in between, an entry leaves only by being removed, by being
replaced, by being the least recent one when a full store takes in a new key, by being
asked for when both readings are at or past its deadline, or by being given up once it has
been held for its time to live. In a run of operations under true readings the timer is never
ahead of the clock, and what is hidden has expired. -/
theorem keeps_live_entries :
    (∀ (s : Store κ ν) (key : κ), (∀ e ∈ s.entries, e.key = key → ¬ e.Shown) →
      s.get key = (.ok none, s.noteLookup)) ∧
    (∀ s : Store κ ν, s.keys.Nodup → ∀ e ∈ s.entries, e.Shown →
      ∀ t c, s.clock.read = (.ok t, c) →
        (t < e.deadline →
          (s.get e.key).1 = .ok (some e.value) ∧
          (s.get e.key).2.entries = e :: s.others e.key ∧
          (s.get e.key).2.clock = c) ∧
        (e.deadline ≤ t → ∀ t' c', c.read = (.ok t', c') →
          (s.get e.key).1 = .ok none ∧
          (s.get e.key).2.entries =
            (if e.deadline ≤ t' then s.others e.key else e :: s.others e.key) ∧
          (s.get e.key).2.clock = c')) ∧
    (∀ (s : Store κ ν) (key : κ), (s.get key).2.others key = s.others key) ∧
    (∀ s : Store κ ν, s.keys.Nodup → ∀ e ∈ s.entries,
      ∀ t c, s.clock.read = (.ok t, c) → e.deadline ≤ t →
        ∀ t' c', c.read = (.ok t', c') → e.deadline ≤ t' →
          (e ∉ (s.get e.key).2.entries ↔ e.Shown)) ∧
    (∀ (name : String) (capacity : ℕ) (clock : Clock) (moves : List (Move κ ν)),
      ∀ turn ∈ Action.turns move moves (empty name capacity clock), turn.2.keys.Nodup ∧
        ∀ e ∈ turn.2.entries, turn.1.carry e ∉ (move turn.1 turn.2).state.entries →
          Departs turn.2 e turn.1) ∧
    ∀ (name : String) (capacity : ℕ) (clock : Clock) (ops : List (Op κ ν)),
      clock.Accurate → (∀ op ∈ ops, op.Truthful) →
        ∀ turn ∈ Action.turns act ops (empty name capacity clock), turn.2.TimerLags ∧
          ∀ e ∈ turn.2.entries, ¬ e.Shown → e.deadline ≤ turn.2.clock.now := by
  refine ⟨fun s key h => get_of_find?_eq_none (find?_eq_none_iff.mpr h),
    fun s hs e he hshown t c hread => ?_, others_get,
    fun s hs e he t c hread hdead t' c' hagain hgone =>
      notMem_entries_get_iff hs he hread hdead hagain hgone,
    fun name capacity clock moves turn hturn => ?_,
    fun name capacity clock ops hclock hops turn hturn => ?_⟩
  · have hfind : s.find? e.key = some e := (find?_eq_some_iff hs).mpr ⟨he, rfl, hshown⟩
    exact ⟨get_eq_of_live hfind hread,
      fun hdead t' c' hagain => get_eq_of_dead hfind hread hdead hagain⟩
  · have htidy : turn.2.Tidy :=
      (Action.keeps_each (I := Tidy) (fun m _ _ ht => tidy_move ht m)
        (tidy_empty name capacity clock)).1 turn hturn
    exact ⟨htidy.nodup, fun e he hgone => departs_of_notMem htidy he hgone⟩
  · have hlags : turn.2.TimerLags :=
      timerLags_run (timerLags_empty name capacity clock) hclock hops turn hturn
    exact ⟨hlags, fun e he hhidden => hlags.deadline_le he hhidden⟩

/-- A first reading that is a minute ahead makes a miss of a live entry, but does not drop
it; without any wrong reading, it is dropped when the minute is over. Once the backing cache
has held it for a minute, no reading is taken of it, and it can leave without one. -/
theorem keeps_live_entries_misread :
    let start : Store ℕ ℕ := empty "pair" 2 Clock.start
    let e : Entry ℕ ℕ := entry 1 10 (.ofSecs 60) Clock.origin
    let s := run [.add 1 10 (.ofSecs 60), .add 2 20 (.ofSecs 60), .misread [60000000000]] start
    let late := run [.add 1 10 (.ofSecs 60), .advance (.ofSecs 60)] start
    let held := (run [.add 1 10 (.ofSecs 60)] start).elapse 60000000000
    s.get 3 = (.ok none, s.noteLookup) ∧
      ((s.get 1).1 = .ok none ∧ (s.get 1).2.entries = e :: s.others 1) ∧
      Departs late e (.op (.get 1)) ∧
      (held.get 1 = (.ok none, held.noteLookup) ∧
        Departs held (e.elapse 60000000000) (.reclaim [1])) := by
  intro start e s late held
  obtain ⟨habsent, hheld, -, -, hrun, -⟩ := @keeps_live_entries ℕ ℕ _
  let minute : Instant := ⟨⟨86460, by decide⟩, .ofNat 0⟩
  have hread : s.clock.read = (.ok minute, ⟨Clock.origin, []⟩) := by decide
  have hagain : (⟨Clock.origin, []⟩ : Clock).read = (.ok Clock.origin, ⟨Clock.origin, []⟩) := by
    decide
  obtain ⟨-, hlater⟩ := hheld s (by decide) e (by decide) (by decide) minute _ hread
  obtain ⟨hmiss, hentries, -⟩ := hlater (by decide) Clock.origin _ hagain
  have hlate : (Move.op (Op.get 1), late) ∈ Action.turns move [.op (.add 1 10 (.ofSecs 60)),
      .op (.advance (.ofSecs 60)), .op (.get 1)] start := by
    simp [Action.turns, late]
  have hheld : (Move.reclaim [1], held) ∈ Action.turns move [.op (.add 1 10 (.ofSecs 60)),
      .elapse 60000000000, .reclaim [1]] start := by
    simp [Action.turns, held]
  refine ⟨habsent s 3 (by decide), ⟨hmiss, hentries⟩,
    (hrun "pair" 2 Clock.start _ _ hlate).2 e (by decide) (by decide),
    habsent held 1 (by decide), ?_⟩
  exact (hrun "pair" 2 Clock.start _ _ hheld).2 _ (by decide) (by decide)

/-- An entry that was given no time to live stays where it is when it is asked for, though
every reading is at its deadline. The room that it takes is missed by a live entry when
another one is written. -/
theorem timeless_stays :
    let start : Store ℕ ℕ := empty "pair" 2 Clock.start
    let s := run [.add 1 10 (.ofSecs 60), .add 2 20 .zero] start
    let e : Entry ℕ ℕ := entry 2 20 .zero Clock.origin
    e ∈ s.entries ∧ s.clock.read = (.ok e.deadline, s.clock) ∧
      (s.get 2).1 = .ok none ∧ e ∈ (s.get 2).2.entries ∧
      ((run [.get 2, .add 3 30 (.ofSecs 60)] s).get 1).1 = .ok none := by
  decide

end Discovery.Store
