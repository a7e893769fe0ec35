import Discovery.Proofs.Store.Recency
/-!
What a store still holds, and what it has dropped for want of room.

* `Store.mem_touches_of_mem`: writing a key is a use of it;
* `Store.mem_keys_act_self`: a key that was just used is held, with nothing
  ahead of it;
* `Store.eq_entry_run_append`: after a run in which a key was written, what the
  store holds under it is the entry that was written last;
* `Store.get_of_last_touch`: a live key is found as long as fewer other keys
  than the capacity were used since its own last use, and missed from then on.
-/

namespace Discovery.Store

variable {κ ν : Type} [DecidableEq κ] {s : Store κ ν} {op : Op κ ν}
  {ops written since before after : List (Op κ ν)} {key : κ} {value : ν} {ttl : Duration}
  {e : Entry κ ν}

/-! ### The last use and the latest write -/

/-- A key that is written during a run is among those that the run uses. -/
lemma mem_touches_of_mem (hs : s.clock.Accurate) (hops : ∀ op ∈ ops, op.Regular)
    (h : .add key value ttl ∈ ops) : key ∈ touches ops s := by
  induction ops generalizing s with
  | nil => cases h
  | cons op rest ih =>
      rw [touches_cons, List.mem_append]
      rcases List.mem_cons.mp h with rfl | h
      · exact .inl (by simp [touched_add hs])
      · exact .inr (ih (accurate_act hs (hops op (List.mem_cons_self ..)).truthful)
          (fun o ho => hops o (List.mem_cons_of_mem op ho)) h)

/-- A key that was just used is held, and nothing is ahead of it. -/
lemma mem_keys_act_self (hs : s.clock.Accurate) (hop : op.Regular) (hroom : 0 < s.capacity)
    (htouch : touched op s = some key) :
    key ∈ (act op s).state.keys ∧ ahead key (act op s).state.keys = [] := by
  have hfirst (l : List κ) : key ∈ toFront key l ∧ ahead key (toFront key l) = [] :=
    ⟨List.mem_cons_self .., by simp [ahead, toFront]⟩
  have hstep := keyStep_act hs hop
  rw [htouch] at hstep
  generalize (act op s).state.keys = l at hstep ⊢
  cases hstep with
  | add =>
      have hheld : key ∈ (toFront key s.keys).take s.capacity := by
        rw [mem_take_iff (hfirst _).1, (hfirst _).2]
        exact hroom
      refine ⟨hheld, ?_⟩
      rw [ahead_take_of_mem hheld]
      exact (hfirst _).2
  | hit => exact hfirst _

/-- Only the latest entry of a key is held, after a run in which the key was written. -/
lemma eq_entry_run_append (hs : s.Orderly) (hops : ∀ op ∈ ops, op.Regular)
    (hadd : ops = written ++ .add key value ttl :: since)
    (hlatest : ∀ value ttl, .add key value ttl ∉ since)
    (he : e ∈ (run ops s).entries) (hkey : e.key = key) :
    e = entry key value ttl (run written s).clock.now := by
  subst hadd
  have hwritten : (run written s).Orderly := orderly_run hs (List.forall_mem_append.mp hops).1
  rw [run_append] at he
  exact eq_entry_run _ (Clock.read_of_accurate hwritten.accurate) hlatest he hkey

/-- An item that is not in the second part of a list is in the first. -/
lemma exists_of_append_eq {α : Type} {l r l' r' : List α} {x : α}
    (h : l' ++ r' = l ++ x :: r) (hx : x ∉ r') :
    ∃ between, l' = l ++ x :: between ∧ r = between ++ r' := by
  rcases List.append_eq_append_iff.mp h with ⟨as, -, rfl⟩ | ⟨bs, rfl, hr⟩
  · exact absurd (List.mem_append_right as (List.mem_cons_self ..)) hx
  · cases bs with
    | nil =>
        obtain rfl : x :: r = r' := hr
        exact absurd (List.mem_cons_self ..) hx
    | cons a between =>
        obtain ⟨rfl, rfl⟩ := List.cons_eq_cons.mp hr
        exact ⟨between, rfl, rfl⟩

/-! ### Asking after a run -/

section LastTouch

variable (hs : s.Orderly) (hothers : key ∉ touches after (run before s))
  (hahead : ahead key (run before s).keys = [])
include hs hothers hahead

/-- A key that nothing is ahead of is found after a run on fewer other keys
than the capacity, with the value that was written last. -/
lemma get_of_few_touches (hops : ∀ op ∈ before ++ after, op.Regular)
    (hadd : before ++ after = written ++ .add key value ttl :: since)
    (hlatest : ∀ value ttl, .add key value ttl ∉ since) (hheld : key ∈ (run before s).keys)
    (hkept : .remove key ∉ after)
    (hlive : (run (before ++ after) s).clock.now < deadline (run written s).clock.now ttl)
    (hfew : (touches after (run before s)).toFinset.card < s.capacity) :
    ((run (before ++ after) s).get key).1 = .ok (some value) := by
  obtain ⟨hbefore, hafter⟩ := List.forall_mem_append.mp hops
  have hmid : (run before s).Orderly := orderly_run hs hbefore
  have hend : (run (before ++ after) s).Orderly := orderly_run hs hops
  -- The latest write is not later than `before`, so it wrote what is held there.
  obtain ⟨between, hbetween, rfl⟩ := exists_of_append_eq hadd
    fun h => hothers (mem_touches_of_mem hmid.accurate hafter h)
  have hmem : key ∈ (run (before ++ after) s).keys := by
    rw [run_append] at hlive ⊢
    refine mem_keys_run hmid hafter hheld hothers hkept (fun e he hkey => ?_) ?_
    · rw [eq_entry_run_append hs hbefore hbetween
        (fun v d h => hlatest v d (List.mem_append_left _ h)) he hkey]
      exact hlive
    · rw [hahead, capacity_run]
      exact hfew
  obtain ⟨e, he, hkey⟩ := List.mem_map.mp hmem
  have hfind := hend.find?_eq_some_iff.mpr ⟨he, hkey⟩
  have hwritten := eq_entry_run_append hs hops hadd hlatest he hkey
  rw [get_of_accurate hend.accurate hfind, if_pos (by rw [hwritten]; exact hlive), hwritten]
  rfl

/-- A key that nothing is ahead of is missed after a run on at least as many
other keys as the capacity, if the run freed no slot of its own accord. -/
lemma get_of_many_touches (hops : ∀ op ∈ before ++ after, op.Regular)
    (hdrops : ∀ t ∈ Action.turns act after (run before s), ¬ Drops t.1 t.2)
    (hmany : s.capacity ≤ (touches after (run before s)).toFinset.card) :
    ((run (before ++ after) s).get key).1 = .ok none := by
  obtain ⟨hbefore, hafter⟩ := List.forall_mem_append.mp hops
  have hend : (run (before ++ after) s).Orderly := orderly_run hs hops
  have hgone : key ∉ (run (before ++ after) s).keys := by
    intro hmem
    have hover : touches after (run before s) ⊆ ahead key (run (before ++ after) s).keys := by
      rw [run_append] at hmem ⊢
      have hover := (subset_ahead_run (orderly_run hs hbefore) hafter hothers hdrops hmem).2
      rwa [hahead, List.nil_append] at hover
    have hfew : (touches after (run before s)).toFinset.card < s.capacity := calc
      (touches after (run before s)).toFinset.card
          ≤ (ahead key (run (before ++ after) s).keys).toFinset.card := card_toFinset_le hover
      _ ≤ (ahead key (run (before ++ after) s).keys).length := List.toFinset_card_le _
      _ < (run (before ++ after) s).keys.length := length_ahead_lt hmem
      _ ≤ (run (before ++ after) s).capacity := hend.length_le
      _ = s.capacity := capacity_run _
    omega
  rw [get_of_find?_eq_none (hend.find?_eq_none_iff.mpr hgone)]

end LastTouch

/-- Take a run of regular operations on an empty store, with room for at least
one entry, in which a key was written last after `written` and used last right
after `before`, and was not removed since. While its deadline is to come, it is
found with the value written last if fewer other keys than the capacity were
used since; if as many or more were used, and no slot became free of its own
accord, it is missed. -/
theorem get_of_last_touch {name : String} {capacity : ℕ} {clock : Clock} {last : Op κ ν}
    (hroom : 1 ≤ capacity) (hclock : clock.Accurate) (hops : ∀ op ∈ ops, op.Regular)
    (hadd : ops = written ++ .add key value ttl :: since)
    (hlatest : ∀ value ttl, .add key value ttl ∉ since)
    (htouch : ops = before ++ last :: after)
    (hlast : touched last (run before (empty name capacity clock)) = some key)
    (hothers : key ∉ touches after (run (before ++ [last]) (empty name capacity clock)))
    (hkept : .remove key ∉ after)
    (hlive : (run ops (empty name capacity clock)).clock.now <
      deadline (run written (empty name capacity clock)).clock.now ttl) :
    let used := (touches after (run (before ++ [last]) (empty name capacity clock))).toFinset
    (used.card < capacity →
      ((run ops (empty name capacity clock)).get key).1 = .ok (some value)) ∧
    (capacity ≤ used.card →
      (∀ t ∈ Action.turns act after (run (before ++ [last]) (empty name capacity clock)),
        ¬ Drops t.1 t.2) →
      ((run ops (empty name capacity clock)).get key).1 = .ok none) := by
  have hempty : (empty name capacity clock : Store κ ν).Orderly := orderly_empty hclock
  obtain rfl : ops = (before ++ [last]) ++ after := by rw [htouch, List.append_assoc]; rfl
  have hupTo := (List.forall_mem_append.mp hops).1
  obtain ⟨hbefore, hlastOp⟩ := List.forall_mem_append.mp hupTo
  obtain ⟨hheld, hahead⟩ := mem_keys_act_self (orderly_run hempty hbefore).accurate
    (hlastOp last (List.mem_singleton_self last)) (by rw [capacity_run]; exact hroom) hlast
  have hstate : run (before ++ [last]) (empty name capacity clock) =
      (act last (run before (empty name capacity clock))).state := run_append before [last] _
  rw [← hstate] at hheld hahead
  exact ⟨get_of_few_touches hempty hothers hahead hops hadd hlatest hheld hkept hlive,
    fun hmany hdrops => get_of_many_touches hempty hothers hahead hops hdrops hmany⟩

/-- A key that was written and read is found after another one was written if
there is room for two entries, and missed if there is room for one. -/
theorem get_of_last_touch_read :
    let ops : List (Op ℕ ℕ) := [.add 1 10 (.ofSecs 60), .get 1, .add 2 20 (.ofSecs 60)]
    ((run ops (empty "pair" 2 Clock.start)).get 1).1 = .ok (some 10) ∧
      ((run ops (empty "single" 1 Clock.start)).get 1).1 = .ok none := by
  intro ops
  have hops : ∀ op ∈ ops, op.Regular := by
    simp [ops, Op.Regular]
    decide
  have hadd : ops = [] ++ .add 1 10 (.ofSecs 60) :: [.get 1, .add 2 20 (.ofSecs 60)] := rfl
  have hlatest : ∀ value ttl, .add 1 value ttl ∉ [Op.get 1, .add 2 20 (.ofSecs 60)] := by simp
  have htouch : ops = [.add 1 10 (.ofSecs 60)] ++ .get 1 :: [.add 2 20 (.ofSecs 60)] := rfl
  exact ⟨(get_of_last_touch (by decide) Clock.accurate_start hops hadd hlatest htouch (by decide)
      (by decide) (by decide) (by decide)).1 (by decide),
    (get_of_last_touch (by decide) Clock.accurate_start hops hadd hlatest htouch (by decide)
      (by decide) (by decide) (by decide)).2 (by decide) (by simp [Drops])⟩

end Discovery.Store
