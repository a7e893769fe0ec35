import Discovery.Proofs.Store.Recency
/-!
What a store drops to make room, and why that is what was used longest ago.

* `Store.LaterIn`: in a list of uses, one key was used after another one was used last;
* `Store.Ranked`: keys that were all used, in the order of their last uses, the latest first;
* `Store.ranked_act`, `Store.ranked_run`: one more operation, and so every run, keeps the
  keys of a store ranked by all uses so far;
* `Store.entries_add_of_room`, `Store.exists_entries_add_of_full`: writing drops nothing while
  there is room, and the last entry of a full store that takes in a new key;
* `Store.evicts_longest_unused`: so one entry at most is dropped, the one used longest ago.
-/

namespace Discovery.Store

/-! ### The order of last uses -/

section Uses

variable {κ ν : Type} {x y z : κ} {used l l' : List κ}

/-- In a list of uses, `x` was used after `y` was used last. -/
def LaterIn (used : List κ) (x y : κ) : Prop :=
  ∃ before after, used = before ++ x :: after ∧ y ∉ x :: after

/-- The use of another key leaves the later of two the later one. -/
lemma LaterIn.concat (h : LaterIn used x y) (hz : z ≠ y) : LaterIn (used ++ [z]) x y := by
  obtain ⟨before, after, rfl, hy⟩ := h
  refine ⟨before, after ++ [z], by simp, ?_⟩
  rw [← List.cons_append, List.mem_append, List.mem_singleton, not_or]
  exact ⟨hy, hz.symm⟩

/-- The last use of all is later than those of the other keys. -/
lemma laterIn_concat_self (used : List κ) (hz : z ≠ y) : LaterIn (used ++ [z]) z y :=
  ⟨used, [], rfl, by simpa using hz.symm⟩

/-- Keys that were all used, in the order of their last uses, the latest first. -/
structure Ranked (used l : List κ) : Prop where
  subset : l ⊆ used
  pairwise : l.Pairwise (LaterIn used)

lemma ranked_nil : Ranked used [] := ⟨List.nil_subset _, .nil⟩

/-- Keys that are taken out do not change the order of the others. -/
lemma Ranked.sublist (h : Ranked used l) (hsub : l'.Sublist l) : Ranked used l' :=
  ⟨List.Subset.trans hsub.subset h.subset, h.pairwise.sublist hsub⟩

/-- The last entry of a store was used longest ago. -/
lemma Ranked.laterIn_of_append {s : Store κ ν} {kept : List (Entry κ ν)} {victim : Entry κ ν}
    (h : Ranked used s.keys) (hentries : s.entries = kept ++ [victim]) :
    ∀ e ∈ kept, LaterIn used e.key victim.key := by
  have hpairwise := h.pairwise
  rw [keys, hentries, List.map_append, List.pairwise_append] at hpairwise
  exact fun e he => hpairwise.2.2 _ (List.mem_map_of_mem he) _ (List.mem_singleton_self _)

end Uses

variable {κ ν : Type} [DecidableEq κ] {s : Store κ ν} {op : Op κ ν} {ops : List (Op κ ν)}
  {key : κ} {value : ν} {ttl : Duration} {used l : List κ}

/-! ### The order of the keys -/

/-- The key that is used comes first, and the others stay as they are. -/
lemma Ranked.toFront (h : Ranked used l) (z : κ) : Ranked (used ++ [z]) (toFront z l) := by
  have hother {y : κ} (hy : y ∈ l.filter (· ≠ z)) : z ≠ y :=
    (of_decide_eq_true (List.mem_filter.mp hy).2).symm
  refine ⟨List.cons_subset.mpr ⟨by simp, ?_⟩, List.pairwise_cons.mpr ⟨fun y hy => ?_, ?_⟩⟩
  · exact fun y hy => List.mem_append_left _ (h.subset (List.mem_filter.mp hy).1)
  · exact laterIn_concat_self used (hother hy)
  · exact (h.pairwise.sublist List.filter_sublist).imp_of_mem
      fun _ hy hlater => hlater.concat (hother hy)

/-- An operation leaves the keys ranked by the uses so far and its own. -/
lemma ranked_act (hs : s.clock.Accurate) (hop : op.Regular) (h : Ranked used s.keys) :
    Ranked (used ++ (touched op s).toList) (act op s).state.keys := by
  have hstep := keyStep_act hs hop
  generalize (act op s).state.keys = l, touched op s = used' at hstep ⊢
  cases hstep with
  | add => exact (h.toFront _).sublist (List.take_sublist ..)
  | hit => exact h.toFront _
  | expired | remove =>
      rw [Option.toList_none, List.append_nil]
      exact h.sublist List.filter_sublist
  | absent | advance =>
      rw [Option.toList_none, List.append_nil]
      exact h

/-- After a run the keys are ranked by the uses before it and those of the run. -/
lemma ranked_run (hs : s.clock.Accurate) (hops : ∀ op ∈ ops, op.Regular)
    (h : Ranked used s.keys) : Ranked (used ++ touches ops s) (run ops s).keys := by
  induction ops generalizing s used with
  | nil =>
      rw [touches_nil, List.append_nil]
      exact h
  | cons op rest ih =>
      obtain ⟨hop, hrest⟩ := List.forall_mem_cons.mp hops
      rw [touches_cons, ← List.append_assoc]
      exact ih (accurate_act hs hop.truthful) hrest (ranked_act hs hop h)

/-! ### Making room -/

omit [DecidableEq κ] in
lemma length_keys (s : Store κ ν) : s.keys.length = s.count := List.length_map _

/-- Writing drops nothing if its key is held already, or if there is room for one more. -/
lemma entries_add_of_room (hs : s.Orderly) (hroom : key ∈ s.keys ∨ s.count < s.capacity) :
    (s.add key value ttl).2.entries = entry key value ttl s.clock.now :: s.others key := by
  have hkey : (entry key value ttl s.clock.now).key = key := rfl
  have hfits : (toFront key s.keys).length ≤ s.capacity := by
    rcases hroom with hmem | hfew
    · exact (length_toFront_le hmem).trans hs.length_le
    · have hle : (s.keys.filter (· ≠ key)).length ≤ s.count :=
        (List.length_filter_le ..).trans (length_keys s).le
      rw [toFront, List.length_cons]
      omega
  rw [← map_key_cons_others hkey, List.length_map] at hfits
  rw [add_of_accurate hs.accurate, entries_settle, List.take_of_length_le hfits]

/-- A full store that takes in a new key drops its last entry, and no other one. -/
lemma exists_entries_add_of_full (hs : s.Orderly) (hnew : key ∉ s.keys)
    (hfull : s.capacity ≤ s.count) (hpos : 1 ≤ s.capacity) :
    ∃ kept victim, s.entries = kept ++ [victim] ∧
      (s.add key value ttl).2.entries = entry key value ttl s.clock.now :: kept := by
  have hcount : s.entries.length = s.capacity :=
    le_antisymm ((length_keys s).ge.trans hs.length_le) hfull
  have hothers : s.others key = s.entries := hs.others_eq (hs.find?_eq_none_iff.mpr hnew)
  obtain ⟨room, hroom⟩ : ∃ room, s.capacity = room + 1 := ⟨s.capacity - 1, by omega⟩
  have hne : s.entries ≠ [] := List.ne_nil_of_length_pos (by omega)
  refine ⟨s.entries.dropLast, s.entries.getLast hne, (List.dropLast_append_getLast hne).symm, ?_⟩
  rw [add_of_accurate hs.accurate, entries_settle, hothers, hroom, List.take_succ_cons,
    List.dropLast_eq_take, hcount, hroom, Nat.add_sub_cancel]

/-- After every run of regular operations on an empty store, its keys are distinct, they are no
more than the capacity, and they stand in the order of their last uses.

So writing, which is never refused then, drops nothing if its key is held or if fewer entries
than the capacity are. Otherwise, if there is room for any entry at all, it drops just one, the
one whose key was used longest ago, expired or not. All other entries stay as they are, in their
order, behind the one that is written. With no room for any entry, none is ever held. -/
theorem evicts_longest_unused {name : String} {capacity : ℕ} {clock : Clock}
    (hclock : clock.Accurate) (hops : ∀ op ∈ ops, op.Regular) :
    let start : Store κ ν := empty name capacity clock
    let s := run ops start
    (s.keys.Nodup ∧ s.count ≤ capacity ∧ Ranked (touches ops start) s.keys) ∧
    (∀ key value ttl,
      (s.add key value ttl).1 = .ok () ∧
      (key ∈ s.keys ∨ s.count < capacity →
        (s.add key value ttl).2.entries = entry key value ttl s.clock.now :: s.others key) ∧
      (key ∉ s.keys → capacity ≤ s.count → 1 ≤ capacity →
        ∃ kept victim, s.entries = kept ++ [victim] ∧
          (∀ e ∈ kept, LaterIn (touches ops start) e.key victim.key) ∧
          (s.add key value ttl).2.entries = entry key value ttl s.clock.now :: kept)) ∧
    (capacity = 0 → s.entries = []) := by
  intro start s
  have hs : s.Orderly := orderly_run (orderly_empty hclock) hops
  have hcapacity : s.capacity = capacity := capacity_run ops
  have hcount : s.count ≤ capacity := calc
    s.count = s.keys.length := (length_keys s).symm
    _ ≤ s.capacity := hs.length_le
    _ = capacity := hcapacity
  have hempty : Ranked [] start.keys := ranked_nil
  have hranked : Ranked (touches ops start) s.keys := ranked_run hclock hops hempty
  refine ⟨⟨hs.nodup, hcount, hranked⟩, fun key value ttl => ⟨?_, fun hroom => ?_,
    fun hnew hfull hpos => ?_⟩, fun hnone => ?_⟩
  · rw [add_of_accurate hs.accurate]
  · exact entries_add_of_room hs (hcapacity ▸ hroom)
  · obtain ⟨kept, victim, hentries, hwritten⟩ :=
      exists_entries_add_of_full hs hnew (hcapacity.le.trans hfull) (hpos.trans hcapacity.ge)
    exact ⟨kept, victim, hentries, hranked.laterIn_of_append hentries, hwritten⟩
  · exact List.eq_nil_of_length_eq_zero (Nat.le_zero.mp (hnone ▸ hcount))

/-- Of two keys, the one that was read since the other one was written stays, though its entry
has expired, and the other one makes room for a third, though its entry is live. Nothing makes
room for the key that is held already, and a store without room holds nothing. -/
theorem evicts_longest_unused_live :
    let ops : List (Op ℕ ℕ) := [.add 1 10 (.ofSecs 5), .add 2 20 (.ofSecs 60), .get 1,
      .advance (.ofSecs 5)]
    let start : Store ℕ ℕ := empty "pair" 2 Clock.start
    let s := run ops start
    let read := entry 1 10 (.ofSecs 5) Clock.origin
    ¬ s.clock.now < read.deadline ∧ LaterIn (touches ops start) 1 2 ∧
      (s.add 3 30 (.ofSecs 60)).2.entries = [entry 3 30 (.ofSecs 60) s.clock.now, read] ∧
      (s.add 1 11 (.ofSecs 60)).2.entries =
        entry 1 11 (.ofSecs 60) s.clock.now :: s.others 1 ∧
      (run ops (empty "none" 0 Clock.start)).entries = [] := by
  intro ops start s read
  have hops : ∀ op ∈ ops, op.Regular := by
    simp [ops, Op.Regular]
    decide
  obtain ⟨-, hadd, -⟩ := @evicts_longest_unused ℕ ℕ _ ops "pair" 2 _ Clock.accurate_start hops
  have hrun : run ops (empty "pair" 2 Clock.start) = s := rfl
  rw [hrun] at hadd
  obtain ⟨-, -, hmakesRoom⟩ := hadd 3 30 (.ofSecs 60)
  obtain ⟨-, hheld, -⟩ := hadd 1 11 (.ofSecs 60)
  obtain ⟨kept, victim, hentries, hlater, hwritten⟩ :=
    hmakesRoom (by decide) (by decide) (by decide)
  have hboth : s.entries = [read] ++ [entry 2 20 (.ofSecs 60) Clock.origin] := by decide
  obtain ⟨rfl, hvictim⟩ := List.append_inj' (hentries.symm.trans hboth) rfl
  obtain rfl := List.singleton_inj.mp hvictim
  refine ⟨by decide, hlater read (List.mem_singleton_self read), hwritten,
    hheld (.inl (by decide)), ?_⟩
  exact (@evicts_longest_unused ℕ ℕ _ ops "none" 0 _ Clock.accurate_start hops).2.2 rfl

end Discovery.Store
