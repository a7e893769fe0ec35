import Discovery.Proofs.Store.Step
/-!
A store of larger capacity holds at least what a smaller one holds.

* `Store.Embeds`: a list is part of another one, in the same order, which has
  only so many items more; this survives filtering, and cutting both lists at
  lengths that are as far apart (`Embeds.filter`, `Embeds.take`);
* `Store.Within`: two stores at the same time, the entries of the smaller one
  embedded in those of the larger one with as much surplus as the capacities
  allow;
* `Store.within_act`, `Store.within_run`: operations keep a store within
  another, though a key may be found, touched or dropped in the larger one only;
* `Store.sublist_entries_run_of_le`: so raising the capacity never loses a hit.
-/

namespace Discovery.Store

/-! ### Lists within lists -/

section Lists

variable {α : Type} {l l' : List α} {surplus : ℕ}

/-- A list is part of another one, in the same order, and the other one has at
most so many items more. -/
structure Embeds (surplus : ℕ) (l l' : List α) : Prop where
  sublist : l.Sublist l'
  length_le : l'.length ≤ l.length + surplus

/-- An item in front of both lists. -/
lemma Embeds.cons (h : Embeds surplus l l') (x : α) : Embeds surplus (x :: l) (x :: l') := by
  have hlength := h.length_le
  refine ⟨h.sublist.cons_cons x, ?_⟩
  rw [List.length_cons, List.length_cons]
  omega

/-- Filtering takes from the smaller list nothing that it does not take from the
larger one. -/
lemma Embeds.filter (h : Embeds surplus l l') (p : α → Bool) :
    Embeds surplus (l.filter p) (l'.filter p) := by
  have hlength := h.length_le
  have hdropped := h.sublist.countP_le (p := fun x => decide ¬ p x = true)
  have hl := List.length_eq_countP_add_countP p (l := l)
  have hl' := List.length_eq_countP_add_countP p (l := l')
  refine ⟨h.sublist.filter p, ?_⟩
  rw [← List.countP_eq_length_filter, ← List.countP_eq_length_filter]
  omega

/-- Cut where the larger list may have its whole surplus left, the smaller list is
still part of it. -/
lemma sublist_take (h : l.Sublist l') (hlength : l'.length ≤ l.length + surplus) (n : ℕ) :
    (l.take n).Sublist (l'.take (n + surplus)) := by
  induction h generalizing n surplus with
  | slnil => simp
  | @cons l l' x hsub ih =>
      -- The item that only the larger list has uses up some of the surplus.
      have hle := hsub.length_le
      rw [List.length_cons] at hlength
      obtain ⟨rest, rfl⟩ : ∃ rest, surplus = rest + 1 := ⟨surplus - 1, by omega⟩
      rw [← Nat.add_assoc, List.take_succ_cons]
      exact (ih (by omega) n).cons x
  | @cons_cons l l' x hsub ih =>
      rw [List.length_cons, List.length_cons] at hlength
      cases n with
      | zero => simp
      | succ n =>
          rw [Nat.add_right_comm, List.take_succ_cons, List.take_succ_cons]
          exact (ih (by omega) n).cons_cons x

/-- Both lists cut, the larger one at a length that is greater by the surplus. -/
lemma Embeds.take (h : Embeds surplus l l') (n : ℕ) :
    Embeds surplus (l.take n) (l'.take (n + surplus)) := by
  have hlength := h.length_le
  refine ⟨sublist_take h.sublist h.length_le n, ?_⟩
  rw [List.length_take, List.length_take]
  omega

/-- What the smaller list lacks is no more than the surplus. -/
lemma Embeds.length_filter_notMem_le [DecidableEq α] (h : Embeds surplus l l') :
    (l'.filter (· ∉ l)).length ≤ surplus := by
  have hlength := h.length_le
  have hshared : l.length ≤ (l'.filter (· ∈ l)).length := by
    have hall : l.filter (· ∈ l) = l := List.filter_eq_self.mpr fun x hx => by simpa using hx
    calc l.length = (l.filter (· ∈ l)).length := by rw [hall]
      _ ≤ (l'.filter (· ∈ l)).length := (h.sublist.filter _).length_le
  have hsplit := List.length_eq_countP_add_countP (· ∈ l) (l := l')
  simp only [List.countP_eq_length_filter, decide_eq_true_eq] at hsplit
  omega

end Lists

/-! ### Stores within stores -/

variable {κ ν : Type} [DecidableEq κ] {s t : Store κ ν} {op : Op κ ν} {ops : List (Op κ ν)}
  {key : κ} {value : ν} {e : Entry κ ν} {surplus : ℕ}

/-- At the same time, the entries of a store are part of those of a larger one,
in the same order, which holds no more of others than it is larger. -/
structure Within (surplus : ℕ) (s t : Store κ ν) : Prop where
  clock_eq : t.clock = s.clock
  capacity_eq : t.capacity = s.capacity + surplus
  embeds : Embeds surplus s.entries t.entries

/-- What is found in the smaller store is found in the larger one. -/
lemma Within.find? (h : Within surplus s t) (ht : t.Orderly) (hfind : s.find? key = some e) :
    t.find? key = some e := by
  obtain ⟨he, hkey, -⟩ := find?_some hfind
  exact ht.find?_eq_some_iff.mpr ⟨h.embeds.sublist.subset he, hkey⟩

/-- A key that only the larger store holds can go to the front there. -/
lemma Within.embeds_cons_others (h : Within surplus s t) (hs : s.Orderly)
    (habsent : s.find? key = none) (hfind : t.find? key = some e) :
    Embeds surplus s.entries (e :: t.others key) := by
  obtain ⟨-, hkey, -⟩ := Store.find?_some hfind
  have hothers : Embeds surplus s.entries (t.others key) := by
    have hfiltered := h.embeds.filter fun e => e.key ≠ key
    rwa [← others, ← others, hs.others_eq habsent] at hfiltered
  refine ⟨hothers.sublist.cons e, ?_⟩
  calc (e :: t.others key).length = (toFront key t.keys).length := by
        rw [← map_key_cons_others hkey, List.length_map]
    _ ≤ t.keys.length := length_toFront_le (find?_mem_keys hfind)
    _ = t.entries.length := List.length_map _
    _ ≤ s.entries.length + surplus := h.embeds.length_le

/-- What an operation leaves of the smaller store is part of what it leaves of the
larger one. -/
lemma Within.embeds_act (h : Within surplus s t) (hs : s.Orderly) (ht : t.Orderly)
    (hop : op.Regular) : Embeds surplus (act op s).state.entries (act op t).state.entries := by
  have hothers (key : κ) : Embeds surplus (s.others key) (t.others key) := h.embeds.filter _
  have hsmall := step_act hs.accurate hop
  have hlarge := step_act ht.accurate hop
  generalize (act op s).state.entries = left, touched op s = used at hsmall ⊢
  generalize (act op t).state.entries = left', touched op t = used' at hlarge ⊢
  cases hsmall with
  | add =>
      cases hlarge with
      | add =>
          rw [h.clock_eq, h.capacity_eq]
          exact ((hothers _).cons _).take _
  | hit hfind hlive =>
      have hfind' := h.find? ht hfind
      cases hlarge with
      | hit hfound =>
          cases hfound.symm.trans hfind'
          exact (hothers _).cons _
      | expired hfound hdead =>
          cases hfound.symm.trans hfind'
          exact absurd (h.clock_eq ▸ hlive) hdead
      | absent hnone => exact absurd (hnone.symm.trans hfind') nofun
  | expired hfind hdead =>
      have hfind' := h.find? ht hfind
      cases hlarge with
      | hit hfound hlive =>
          cases hfound.symm.trans hfind'
          exact absurd (h.clock_eq ▸ hlive) hdead
      | expired => exact hothers _
      | absent hnone => exact absurd (hnone.symm.trans hfind') nofun
  | absent hfind =>
      cases hlarge with
      | hit hfound => exact h.embeds_cons_others hs hfind hfound
      | expired =>
          rw [← hs.others_eq hfind]
          exact hothers _
      | absent => exact h.embeds
  | remove =>
      cases hlarge with
      | remove => exact hothers _
  | advance =>
      cases hlarge with
      | advance => exact h.embeds

/-- The clock after an operation depends on the clock before it only. -/
lemma clock_act_eq (hs : s.clock.Accurate) (hop : op.Regular) (hclock : t.clock = s.clock) :
    (act op t).state.clock = (act op s).state.clock := by
  have ht : t.clock.Accurate := hclock ▸ hs
  cases op with
  | add key value ttl =>
      rw [act_add_state, act_add_state, clock_add_of_accurate hs, clock_add_of_accurate ht, hclock]
  | get key =>
      rw [act_get, act_get, clock_get_of_accurate hs, clock_get_of_accurate ht, hclock]
  | remove key => rw [act_remove_state, act_remove_state, clock_remove, clock_remove, hclock]
  | advance d =>
      cases hmoved : s.clock.advance d <;> simp [act, Store.advance, hclock, hmoved, Except.map]
  | misread skews => exact absurd hop id

/-- A regular operation keeps a store within another. -/
lemma within_act (h : Within surplus s t) (hs : s.Orderly) (ht : t.Orderly) (hop : op.Regular) :
    Within surplus (act op s).state (act op t).state := by
  refine ⟨clock_act_eq hs.accurate hop h.clock_eq, ?_, h.embeds_act hs ht hop⟩
  rw [capacity_act, capacity_act, h.capacity_eq]

/-- A run of regular operations keeps a store within another. -/
lemma within_run (h : Within surplus s t) (hs : s.Orderly) (ht : t.Orderly)
    (hops : ∀ op ∈ ops, op.Regular) : Within surplus (run ops s) (run ops t) := by
  induction ops generalizing s t with
  | nil => exact h
  | cons op rest ih =>
      obtain ⟨hop, hrest⟩ := List.forall_mem_cons.mp hops
      exact ih (within_act h hs ht hop) (orderly_act hs hop) (orderly_act ht hop) hrest

/-- A hit in the smaller store is one in the larger store. -/
lemma Within.get (h : Within surplus s t) (ht : t.Orderly)
    (hhit : (s.get key).1 = .ok (some value)) : (t.get key).1 = .ok (some value) := by
  obtain ⟨e, now, he, hkey, rfl, hread, hlive⟩ := exists_of_get_eq_some hhit
  have hfind : t.find? key = some e :=
    ht.find?_eq_some_iff.mpr ⟨h.embeds.sublist.subset he, hkey⟩
  rw [← h.clock_eq, Clock.read_of_accurate ht.accurate] at hread
  cases hread
  rw [get_of_accurate ht.accurate hfind, if_pos hlive]

/-- Take two empty stores, one of no less capacity than the other, and do the same
regular operations on both. Then the entries of the smaller store are part of
those of the larger one, in the same order of recency; the larger one holds no
more that the smaller one lacks than it is larger; and what is found in the
smaller store is found in the larger one, with the same value. -/
theorem sublist_entries_run_of_le [DecidableEq ν] {name name' : String} {capacity capacity' : ℕ}
    (hle : capacity ≤ capacity') {clock : Clock} (hclock : clock.Accurate)
    (hops : ∀ op ∈ ops, op.Regular) :
    let small := run ops (empty name capacity clock)
    let large := run ops (empty name' capacity' clock)
    small.entries.Sublist large.entries ∧
      (large.entries.filter (· ∉ small.entries)).length ≤ capacity' - capacity ∧
      ∀ key value, (small.get key).1 = .ok (some value) → (large.get key).1 = .ok (some value) := by
  have hsmall : (empty name capacity clock : Store κ ν).Orderly := orderly_empty hclock
  have hlarge : (empty name' capacity' clock : Store κ ν).Orderly := orderly_empty hclock
  have hempty : Within (capacity' - capacity) (empty name capacity clock : Store κ ν)
      (empty name' capacity' clock) := by
    refine ⟨rfl, ?_, .slnil, Nat.zero_le _⟩
    show capacity' = capacity + (capacity' - capacity)
    omega
  have hrun := within_run hempty hsmall hlarge hops
  exact ⟨hrun.embeds.sublist, hrun.embeds.length_filter_notMem_le, fun key value hhit =>
    hrun.get (orderly_run hlarge hops) hhit⟩

/-- Of three keys, the one that was read when only the larger store still held it
is kept there, and the key that both hold is found in both. -/
theorem sublist_entries_run_of_le_pair :
    let ops : List (Op ℕ ℕ) := [.add 1 10 (.ofSecs 60), .add 2 20 (.ofSecs 5), .get 1,
      .advance (.ofSecs 5), .get 2, .add 3 30 (.ofSecs 60)]
    let small := run ops (empty "single" 1 Clock.start)
    let large := run ops (empty "pair" 2 Clock.start)
    small.entries.Sublist large.entries ∧
      (large.entries.filter (· ∉ small.entries)).length ≤ 1 ∧
      (small.get 3).1 = .ok (some 30) ∧ (large.get 3).1 = .ok (some 30) := by
  intro ops small large
  have hops : ∀ op ∈ ops, op.Regular := by
    simp [ops, Op.Regular]
    decide
  have hhit : (small.get 3).1 = .ok (some 30) := by decide
  obtain ⟨hsublist, hlacks, hfound⟩ : small.entries.Sublist large.entries ∧
      (large.entries.filter (· ∉ small.entries)).length ≤ 2 - 1 ∧
      ∀ key value, (small.get key).1 = .ok (some value) →
        (large.get key).1 = .ok (some value) :=
    sublist_entries_run_of_le (by decide) Clock.accurate_start hops
  exact ⟨hsublist, hlacks, hhit, hfound 3 30 hhit⟩

end Discovery.Store
