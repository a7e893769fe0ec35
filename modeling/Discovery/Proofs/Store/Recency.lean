import Discovery.Proofs.Store.Step
/-!
Which keys a store holds ahead of a given one, and how operations change that.

* `Store.touches`: the keys that the operations of a run use, in turn;
* `Store.ahead`: the keys that were used more recently than a given one;
* `Store.mem_keys_act`, `Store.mem_keys_run`: operations on other keys move at
  most those that they use ahead of a held key, which stays while there is room
  for all that are ahead of it;
* `Store.Drops`: an operation frees a slot of its own accord;
* `Store.subset_ahead_act`, `Store.subset_ahead_run`: as long as none does,
  every key that was used since is ahead of a key that is still held.
-/

namespace Discovery.Store

variable {κ ν : Type} [DecidableEq κ] {s : Store κ ν} {op : Op κ ν} {ops : List (Op κ ν)}
  {key x : κ} {l : List κ} {n : ℕ}

/-! ### The keys ahead of a key -/

/-- What a list has ahead of an item. -/
def ahead (key : κ) (l : List κ) : List κ := l.takeWhile (· ≠ key)

lemma ahead_cons (h : x ≠ key) : ahead key (x :: l) = x :: ahead key l :=
  List.takeWhile_cons_of_pos (by simpa using h)

lemma mem_toFront {y : κ} : y ∈ toFront x l ↔ y = x ∨ y ∈ l := by
  rw [toFront, List.mem_cons, List.mem_filter, decide_eq_true_iff]
  tauto

/-- Taking out another item takes it out of what is ahead. -/
lemma ahead_filter (h : x ≠ key) :
    ahead key (l.filter (· ≠ x)) = (ahead key l).filter (· ≠ x) := by
  induction l with
  | nil => rfl
  | cons y rest ih =>
      by_cases hyx : y = x
      · subst hyx
        rw [ahead_cons h, List.filter_cons_of_neg (by simp), List.filter_cons_of_neg (by simp), ih]
      · rw [List.filter_cons_of_pos (by simpa using hyx)]
        by_cases hyk : y = key
        · simp [ahead, hyk]
        · rw [ahead_cons hyk, ahead_cons hyk, List.filter_cons_of_pos (by simpa using hyx), ih]

/-- Bringing another item to the front brings it to the front of what is
ahead. -/
lemma ahead_toFront (h : x ≠ key) : ahead key (toFront x l) = toFront x (ahead key l) := by
  rw [toFront, ahead_cons h, ahead_filter h, toFront]

lemma ahead_take : ahead key (l.take n) = (ahead key l).take n :=
  List.take_takeWhile.symm

lemma nodup_ahead (h : l.Nodup) : (ahead key l).Nodup := h.sublist (List.takeWhile_sublist _)

/-- An item is among the first `n` of a list if fewer than `n` are ahead. -/
lemma mem_take_iff (h : key ∈ l) : key ∈ l.take n ↔ (ahead key l).length < n := by
  induction l generalizing n with
  | nil => cases h
  | cons y rest ih =>
      cases n with
      | zero => simp
      | succ n =>
          by_cases hy : y = key
          · simp [ahead, hy]
          · have hrest : key ∈ rest := (List.mem_cons.mp h).resolve_left (Ne.symm hy)
            rw [List.take_succ_cons, List.mem_cons, ahead_cons hy, List.length_cons, ih hrest]
            have hne : key ≠ y := Ne.symm hy
            simp [hne]

/-- Cutting a list behind an item leaves what is ahead of it. -/
lemma ahead_take_of_mem (h : key ∈ l.take n) : ahead key (l.take n) = ahead key l := by
  have hlt := (mem_take_iff (List.mem_of_mem_take h)).mp h
  rw [ahead_take, List.take_of_length_le hlt.le]

lemma length_ahead_lt (h : key ∈ l) : (ahead key l).length < l.length := by
  rw [← mem_take_iff h, List.take_length]
  exact h

/-- Keys that are all among others are no more of them, repetitions aside. -/
lemma card_toFinset_le {l' : List κ} (h : l ⊆ l') : l.toFinset.card ≤ l'.toFinset.card :=
  Finset.card_le_card fun _ hy => List.mem_toFinset.mpr (h (List.mem_toFinset.mp hy))

/-! ### The keys that a run uses -/

/-- The keys that the operations of a run use, in turn. -/
def touches (ops : List (Op κ ν)) (s : Store κ ν) : List κ :=
  (Action.turns act ops s).filterMap fun t => touched t.1 t.2

@[simp] lemma touches_nil : touches ([] : List (Op κ ν)) s = [] := rfl

lemma touches_cons :
    touches (op :: ops) s = (touched op s).toList ++ touches ops (act op s).state := by
  rw [touches, Action.turns_cons, List.filterMap_cons]
  cases htouch : touched op s <;> simp [touches]

/-- The keys of a store whose operation used none of a key. -/
lemma touched_ne_of_notMem (h : key ∉ touches (op :: ops) s) : touched op s ≠ some key := by
  rw [touches_cons, List.mem_append, not_or] at h
  exact fun hused => h.1 (by simp [hused])

/-! ### A key that stays -/

/-- A live key that an operation does not use stays, and at most the used key
moves ahead of it, if there is room for all of those. -/
lemma mem_keys_act (hs : s.Orderly) (hop : op.Regular) (hmem : key ∈ s.keys)
    (htouch : touched op s ≠ some key) (hremove : op ≠ .remove key)
    (hlive : ∀ e ∈ s.entries, e.key = key → s.clock.now < e.deadline)
    (hroom : ((touched op s).toList ++ ahead key s.keys).toFinset.card < s.capacity) :
    key ∈ (act op s).state.keys ∧
      ahead key (act op s).state.keys ⊆ (touched op s).toList ++ ahead key s.keys := by
  have hstep := keyStep_act hs.accurate hop
  generalize (act op s).state.keys = l, touched op s = used at hstep htouch hroom ⊢
  have hfront (x : κ) : toFront x (ahead key s.keys) ⊆ x :: ahead key s.keys :=
    fun y hy => by simpa using mem_toFront.mp hy
  cases hstep with
  | @add x value ttl =>
      have hx : x ≠ key := fun h => htouch (h ▸ rfl)
      have hahead := ahead_toFront (l := s.keys) hx
      have hlength : (ahead key (toFront x s.keys)).length < s.capacity := calc
        (ahead key (toFront x s.keys)).length = (toFront x (ahead key s.keys)).length := by
            rw [hahead]
        _ = (toFront x (ahead key s.keys)).toFinset.card :=
            (List.toFinset_card_of_nodup (nodup_toFront (nodup_ahead hs.nodup) x)).symm
        _ ≤ (x :: ahead key s.keys).toFinset.card := card_toFinset_le (hfront x)
        _ < s.capacity := hroom
      have hkept := (mem_take_iff (mem_toFront.mpr (.inr hmem))).mpr hlength
      refine ⟨hkept, ?_⟩
      rw [ahead_take_of_mem hkept, hahead]
      exact hfront x
  | @hit x =>
      have hx : x ≠ key := fun h => htouch (h ▸ rfl)
      refine ⟨mem_toFront.mpr (.inr hmem), ?_⟩
      rw [ahead_toFront hx]
      exact hfront x
  | @expired x e hfind hdead =>
      have hx : x ≠ key := by
        rintro rfl
        obtain ⟨he, hkey, -⟩ := find?_some hfind
        exact hdead (hlive e he hkey)
      refine ⟨List.mem_filter.mpr ⟨hmem, by simpa using Ne.symm hx⟩, ?_⟩
      rw [ahead_filter hx]
      exact List.filter_subset_self _
  | absent | advance => exact ⟨hmem, List.Subset.refl _⟩
  | @remove x =>
      have hx : x ≠ key := fun h => hremove (h ▸ rfl)
      refine ⟨List.mem_filter.mpr ⟨hmem, by simpa using Ne.symm hx⟩, ?_⟩
      rw [ahead_filter hx]
      exact List.filter_subset_self _

/-- A key stays as long as it is live and fewer other keys are used than the
store has room for. -/
lemma mem_keys_run (hs : s.Orderly) (hops : ∀ op ∈ ops, op.Regular) (hmem : key ∈ s.keys)
    (htouch : key ∉ touches ops s) (hremove : .remove key ∉ ops)
    (hlive : ∀ e ∈ s.entries, e.key = key → (run ops s).clock.now < e.deadline)
    (hroom : (ahead key s.keys ++ touches ops s).toFinset.card < s.capacity) :
    key ∈ (run ops s).keys := by
  induction ops generalizing s with
  | nil => exact hmem
  | cons op rest ih =>
      have hop := hops op (List.mem_cons_self ..)
      have hused := touched_ne_of_notMem htouch
      have hnow (e : Entry κ ν) (he : e ∈ s.entries) (hkey : e.key = key) :
          s.clock.now < e.deadline := by
        have hlater := hlive e he hkey
        rw [Instant.lt_iff_toNanos_lt] at hlater ⊢
        exact lt_of_le_of_lt (now_le_run (op :: rest)) hlater
      have hfew : (touched op s).toList ++ ahead key s.keys ⊆
          ahead key s.keys ++ touches (op :: rest) s := by
        rw [touches_cons]
        intro y hy
        simp only [List.mem_append] at hy ⊢
        tauto
      obtain ⟨hkept, hahead⟩ := mem_keys_act hs hop hmem hused
        (fun h => hremove (h ▸ List.mem_cons_self ..)) hnow
        (lt_of_le_of_lt (card_toFinset_le hfew) hroom)
      have hlater : touches rest (act op s).state ⊆ touches (op :: rest) s := by
        rw [touches_cons]
        exact List.subset_append_right _ _
      refine ih (orderly_act hs hop) (fun o ho => hops o (List.mem_cons_of_mem op ho)) hkept
        (fun h => htouch (hlater h)) (fun h => hremove (List.mem_cons_of_mem op h)) ?_ ?_
      · intro e he hkey
        rcases mem_entries_act he with he | ⟨value, ttl, rfl⟩
        · exact hlive e he hkey
        · exact absurd (touched_add hs.accurate) (hkey ▸ hused)
      · rw [capacity_act]
        refine lt_of_le_of_lt (card_toFinset_le ?_) hroom
        exact List.append_subset.mpr ⟨fun y hy => hfew (hahead hy),
          fun y hy => List.mem_append_right _ (hlater hy)⟩

/-! ### A key that is overtaken -/

/-- An operation that frees a slot of its own accord: it removes a key that is
held, or asks for one whose entry has expired. -/
def Drops : Op κ ν → Store κ ν → Prop
  | .remove key, s => key ∈ s.keys
  | .get key, s => ∃ e, s.find? key = some e ∧ ¬ s.clock.now < e.deadline
  | _, _ => False

/-- If a key is still held after an operation on another one, then what was
ahead of it still is, and so is the key that was used. -/
lemma subset_ahead_act (hs : s.clock.Accurate) (hop : op.Regular)
    (htouch : touched op s ≠ some key) (hdrops : ¬ Drops op s)
    (hmem : key ∈ (act op s).state.keys) :
    key ∈ s.keys ∧
      (touched op s).toList ++ ahead key s.keys ⊆ ahead key (act op s).state.keys := by
  have hstep := keyStep_act hs hop
  generalize (act op s).state.keys = l, touched op s = used at hstep htouch hmem ⊢
  have hfront (x : κ) : x :: ahead key s.keys ⊆ toFront x (ahead key s.keys) :=
    fun y hy => mem_toFront.mpr (List.mem_cons.mp hy)
  cases hstep with
  | @add x =>
      have hx : x ≠ key := fun h => htouch (h ▸ rfl)
      have hheld := (mem_toFront.mp (List.mem_of_mem_take hmem)).resolve_left (Ne.symm hx)
      refine ⟨hheld, ?_⟩
      rw [ahead_take_of_mem hmem, ahead_toFront hx]
      exact hfront x
  | @hit x =>
      have hx : x ≠ key := fun h => htouch (h ▸ rfl)
      refine ⟨(mem_toFront.mp hmem).resolve_left (Ne.symm hx), ?_⟩
      rw [ahead_toFront hx]
      exact hfront x
  | expired hfind hdead => exact absurd ⟨_, hfind, hdead⟩ hdrops
  | absent | advance => exact ⟨hmem, List.Subset.refl _⟩
  | @remove x =>
      have hall : s.keys.filter (· ≠ x) = s.keys :=
        List.filter_eq_self.mpr fun y hy => by
          have hne : y ≠ x := fun h => hdrops (h ▸ hy)
          simpa using hne
      rw [hall] at hmem ⊢
      exact ⟨hmem, List.Subset.refl _⟩

/-- If a key is still held after a run on others that freed no slot of its own
accord, then all keys that the run used are ahead of it. -/
lemma subset_ahead_run (hs : s.Orderly) (hops : ∀ op ∈ ops, op.Regular)
    (htouch : key ∉ touches ops s) (hdrops : ∀ t ∈ Action.turns act ops s, ¬ Drops t.1 t.2)
    (hmem : key ∈ (run ops s).keys) :
    key ∈ s.keys ∧ ahead key s.keys ++ touches ops s ⊆ ahead key (run ops s).keys := by
  induction ops generalizing s with
  | nil => exact ⟨hmem, by simp⟩
  | cons op rest ih =>
      have hop := hops op (List.mem_cons_self ..)
      have hused := touched_ne_of_notMem htouch
      rw [touches_cons] at htouch ⊢
      rw [Action.turns_cons] at hdrops
      obtain ⟨hnext, hrest⟩ := ih (orderly_act hs hop)
        (fun o ho => hops o (List.mem_cons_of_mem op ho))
        (fun h => htouch (List.mem_append_right _ h))
        (fun t ht => hdrops t (List.mem_cons_of_mem _ ht)) hmem
      obtain ⟨hheld, hfirst⟩ := subset_ahead_act hs.accurate hop hused
        (hdrops _ (List.mem_cons_self ..)) hnext
      refine ⟨hheld, fun y hy => hrest ?_⟩
      have hy' : y ∈ (touched op s).toList ++ ahead key s.keys ∨
          y ∈ touches rest (act op s).state := by
        simp only [List.mem_append] at hy ⊢
        tauto
      rcases hy' with hy | hy
      · exact List.mem_append_left _ (hfirst hy)
      · exact List.mem_append_right _ hy

end Discovery.Store
