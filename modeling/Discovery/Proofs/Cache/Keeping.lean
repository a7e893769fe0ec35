import Discovery.Proofs.Cache.Glance
import Discovery.Proofs.Store.Recency
/-!
Caches that keep whatever they learn.

* `Cache.Holds`: something is held for an identity;
* `Cache.Keeps`: there is room for all that may be learned, and what is held lives
  on until after an instant;
* `Cache.Keeps.sight_eq_none_iff`: before that instant, what is held is in sight;
* `Cache.Ready`: the instant is still to come;
* `Cache.Keeps.glance`, `Cache.Keeps.put`, `Cache.Keeps.remove`: so looks take
  nothing away, writes add one identity and take nothing away, and an eviction takes
  one away.
-/

namespace Discovery.Cache

/-- Something is held for an identity. -/
def Holds (c : Cache) (i : Identity) : Prop := i.key ∈ c.store.keys

/-- A cache that keeps what it learns of some identities until after an instant, in
nanoseconds: there is room for all of them, and what is held is of the kind of one
of them and expires later. -/
structure Keeps (W : Finset Identity) (stop : ℕ) (c : Cache) : Prop where
  orderly : c.store.Orderly
  roomy : W.card ≤ c.store.capacity
  held : ∀ e ∈ c.store.entries, ∃ i ∈ W, e.key = i.key ∧ e.value.kind = i.kind ∧
    stop < e.deadline.toNanos

variable {W : Finset Identity} {stop : ℕ} {c c' : Cache} {i j : Identity} {p : Payload}

lemma Alike.holds_iff (h : c.Alike c') : c'.Holds i ↔ c.Holds i := by
  rw [Holds, Holds, Store.keys, Store.keys, h.entries_eq]

namespace Keeps

lemma of_alike (hc : Keeps W stop c) (h : c.Alike c') : Keeps W stop c' := by
  refine ⟨⟨?_, ?_, ?_, ?_⟩, ?_, ?_⟩
  · exact h.clock_eq.symm ▸ hc.orderly.accurate
  · rw [Store.keys, h.entries_eq]
    exact hc.orderly.nodup
  · rw [Store.keys, h.entries_eq, h.capacity_eq]
    exact hc.orderly.length_le
  · rw [h.entries_eq]
    exact hc.orderly.shown
  · rw [h.capacity_eq]
    exact hc.roomy
  · rw [h.entries_eq]
    exact hc.held

/-- What is found is in sight until the instant. -/
lemma sight_eq_find? (hc : Keeps W stop c) (hnow : c.store.clock.now.toNanos ≤ stop) :
    c.sight i = c.store.find? i.key := by
  cases hfind : c.store.find? i.key with
  | none => rw [sight, hfind, Option.filter_none]
  | some e =>
      obtain ⟨hmem, hkey, -⟩ := Store.find?_some hfind
      obtain ⟨j, -, hj, hkind, hlive⟩ := hc.held e hmem
      obtain rfl : i = j := Identity.key_injective (hkey.symm.trans hj)
      refine sight_eq_some_iff.mpr ⟨hfind, ?_, hkind⟩
      rw [Instant.lt_iff_toNanos_lt]
      exact lt_of_le_of_lt hnow hlive

/-- Nothing is in sight until the instant just where nothing is held. -/
lemma sight_eq_none_iff (hc : Keeps W stop c) (hnow : c.store.clock.now.toNanos ≤ stop) :
    c.sight i = none ↔ ¬ c.Holds i := by
  rw [hc.sight_eq_find? hnow]
  exact hc.orderly.find?_eq_none_iff

/-- A look takes nothing away. -/
lemma glance (hc : Keeps W stop c) (hnow : c.store.clock.now.toNanos ≤ stop) (i : Identity) :
    Keeps W stop (c.glance i) ∧ ∀ j, (c.glance i).Holds j ↔ c.Holds j := by
  cases hfind : c.store.find? i.key with
  | none =>
      rw [glance_of_find?_eq_none hfind]
      exact ⟨hc, fun _ => Iff.rfl⟩
  | some e =>
      obtain ⟨hmem, hkey, -⟩ := Store.find?_some hfind
      have hentries : (c.glance i).store.entries = e :: c.store.others i.key := by
        rw [entries_glance hfind, hc.sight_eq_find? hnow, hfind]
        rfl
      have hkeys : (c.glance i).store.keys = Store.toFront i.key c.store.keys := by
        rw [Store.keys, hentries, Store.map_key_cons_others hkey]
      have hheld : ∀ e' ∈ (c.glance i).store.entries, e' ∈ c.store.entries := by
        rw [hentries]
        intro e' he'
        rcases List.mem_cons.mp he' with rfl | he'
        · exact hmem
        · exact (Store.mem_others.mp he').1
      have hmem_keys : i.key ∈ c.store.keys := Store.find?_mem_keys hfind
      refine ⟨⟨⟨?_, ?_, ?_, ?_⟩, ?_, ?_⟩, fun j => ?_⟩
      · rw [clock_glance]
        exact hc.orderly.accurate
      · rw [hkeys]
        exact Store.nodup_toFront hc.orderly.nodup _
      · rw [hkeys, capacity_glance]
        exact (Store.length_toFront_le hmem_keys).trans hc.orderly.length_le
      · exact fun e' he' => hc.orderly.shown e' (hheld e' he')
      · rw [capacity_glance]
        exact hc.roomy
      · exact fun e' he' => hc.held e' (hheld e' he')
      · rw [Holds, Holds, hkeys, Store.mem_toFront]
        exact ⟨fun h => h.elim (fun h => h ▸ hmem_keys) id, .inr⟩

/-- The keys of all that is held, with that of one more identity, are not too
many. -/
lemma length_toFront_le (hc : Keeps W stop c) (hi : i ∈ W) :
    (Store.toFront i.key c.store.keys).length ≤ c.store.capacity := by
  have hsubset : (Store.toFront i.key c.store.keys).toFinset ⊆ W.image Identity.key := by
    intro key hkey
    rw [List.mem_toFinset, Store.mem_toFront] at hkey
    rcases hkey with rfl | hkey
    · exact Finset.mem_image_of_mem _ hi
    · obtain ⟨e, he, rfl⟩ := List.mem_map.mp hkey
      obtain ⟨j, hj, hkey, -⟩ := hc.held e he
      exact hkey ▸ Finset.mem_image_of_mem _ hj
  calc (Store.toFront i.key c.store.keys).length
      = (Store.toFront i.key c.store.keys).toFinset.card :=
        (List.toFinset_card_of_nodup (Store.nodup_toFront hc.orderly.nodup _)).symm
    _ ≤ (W.image Identity.key).card := Finset.card_le_card hsubset
    _ ≤ W.card := Finset.card_image_le
    _ ≤ c.store.capacity := hc.roomy

/-- A write of what expires late enough takes nothing away. -/
lemma put (hc : Keeps W stop c) (hi : i ∈ W) (hkind : p.kind = i.kind)
    (hlasting : c.limits.ttl p.kind ≠ .zero)
    (hlate : stop < (Store.deadline c.store.clock.now (c.limits.ttl p.kind)).toNanos) :
    Keeps W stop (Cache.put i.key p c).state ∧
      ∀ j, (Cache.put i.key p c).state.Holds j ↔ j = i ∨ c.Holds j := by
  have horderly : (Store.act (.add i.key p (c.limits.ttl p.kind)) c.store).state.Orderly :=
    Store.orderly_act hc.orderly hlasting
  have hkeys : (Store.entry i.key p (c.limits.ttl p.kind) c.store.clock.now ::
      c.store.others i.key).map Entry.key = Store.toFront i.key c.store.keys :=
    Store.map_key_cons_others rfl
  have hentries : (Cache.put i.key p c).state.store.entries =
      Store.entry i.key p (c.limits.ttl p.kind) c.store.clock.now :: c.store.others i.key := by
    rw [entries_put hc.orderly.accurate, List.take_of_length_le]
    have hlength := hc.length_toFront_le hi
    rw [← hkeys, List.length_map] at hlength
    exact hlength
  refine ⟨⟨horderly, ?_, ?_⟩, fun j => ?_⟩
  · rw [state_put, Store.capacity_add]
    exact hc.roomy
  · rw [hentries]
    intro e he
    rcases List.mem_cons.mp he with rfl | he
    · exact ⟨i, hi, rfl, hkind, hlate⟩
    · exact hc.held e (Store.mem_others.mp he).1
  · rw [Holds, Holds, Store.keys, hentries, hkeys, Store.mem_toFront]
    exact or_congr_left ⟨fun h => Identity.key_injective h, congrArg _⟩

/-- An eviction takes one identity away. -/
lemma remove (hc : Keeps W stop c) (i : Identity) :
    Keeps W stop { c with store := c.store.remove i.key } ∧
      ∀ j, Holds { c with store := c.store.remove i.key } j ↔ j ≠ i ∧ c.Holds j := by
  have horderly : (Store.act (.remove i.key) c.store).state.Orderly :=
    Store.orderly_act hc.orderly trivial
  refine ⟨⟨horderly, ?_, ?_⟩, fun j => ?_⟩
  · dsimp only
    rw [Store.capacity_remove]
    exact hc.roomy
  · exact fun e he => hc.held e (Store.mem_entries_remove he).1
  · rw [Holds, Holds, Store.keys, Store.entries_remove, Store.map_key_others, List.mem_filter,
      decide_eq_true_iff, and_comm]
    exact and_congr_left' (not_congr ⟨fun h => Identity.key_injective h, congrArg _⟩)

/-- The passing of time takes nothing away. -/
lemma advance (hc : Keeps W stop c) (d : Duration) :
    Keeps W stop { c with store := (Store.act (.advance d) c.store).state } ∧
      ∀ j, Holds { c with store := (Store.act (.advance d) c.store).state } j ↔ c.Holds j := by
  have horderly : (Store.act (.advance d) c.store).state.Orderly :=
    Store.orderly_act hc.orderly trivial
  obtain ⟨clock, hstate, -⟩ := Store.act_advance d c.store
  rw [hstate] at horderly ⊢
  exact ⟨⟨horderly, hc.roomy, hc.held⟩, fun _ => Iff.rfl⟩

end Keeps

/-- A cache that keeps what it learns, at a time when the instant is still to come
and what is written lives on until after it. -/
structure Ready (W : Finset Identity) (stop : ℕ) (c : Cache) : Prop extends Keeps W stop c where
  now_le : c.store.clock.now.toNanos ≤ stop
  lasting : Lasting c.limits c.store.clock.now
  late : ∀ kind, stop < (Store.deadline c.store.clock.now (c.limits.ttl kind)).toNanos

namespace Ready

/-- At the same time, other caches with the same limits are ready as well. -/
lemma of_keeps (hc : Ready W stop c) (h : Keeps W stop c') (hlimits : c'.limits = c.limits)
    (hclock : c'.store.clock = c.store.clock) : Ready W stop c' := by
  refine ⟨h, ?_, ?_, ?_⟩
  · rw [hclock]
    exact hc.now_le
  · rw [hlimits, hclock]
    exact hc.lasting
  · rw [hlimits, hclock]
    exact hc.late

lemma glance (hc : Ready W stop c) (i : Identity) : Ready W stop (c.glance i) :=
  hc.of_keeps (hc.toKeeps.glance hc.now_le i).1 limits_glance clock_glance

end Ready

end Discovery.Cache
