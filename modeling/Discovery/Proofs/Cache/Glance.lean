import Discovery.Proofs.Cache.LastWrite
import Discovery.Proofs.Store.Departure
/-!
Looking at the cache under a clock that reads true.

* `Cache.sight`: the entry that is in sight for an identity;
* `Cache.glance`, `Cache.looks`: a cache once an identity was looked at, or the
  identities of a way one after the other, up to the first one in sight;
* `Cache.heed`: a cache once some requests were served;
* `Cache.Alike`: caches that differ at most in the tally of their stores;
* `Cache.fetch_of_accurate`: a fetch finds what is in sight, and leaves what a
  glance leaves;
* `Cache.sight_put`, `Cache.sight_put_eq_some_iff`: what was just written is in sight;
* `Cache.find?_glance_of_ne`, `Cache.sight_glance_of_ne`: a look for one identity
  leaves what is found, and what is in sight, for another;
* `Cache.notMem_entries_looks_iff`: what looks come to and do not have in sight is gone
  just when it is shown;
* `Cache.find?_put_of_eq_none`: what is not found under the key of another identity is
  not found after a write either.
-/

namespace Discovery.Cache

/-- The entry that is in sight for an identity: it is found, live, and of the
identity's kind. -/
def sight (c : Cache) (i : Identity) : Option (Entry Key Payload) :=
  (c.store.find? i.key).filter fun e => c.store.clock.now < e.deadline ∧ e.value.kind = i.kind

/-- A cache once an identity was looked at. An entry in sight is now the most
recent. One that is found but has expired, or is of another kind, is gone; one
that the backing cache hides is not found, and stays where it is. -/
def glance (c : Cache) (i : Identity) : Cache :=
  match c.store.find? i.key with
  | none => c
  | some _ => { c with store :=
      { c.store with entries := (c.sight i).toList ++ c.store.others i.key } }

/-- A cache once the identities of a way were looked at, one after the other, up to
the first one in sight. -/
def looks : Cache → List Identity → Cache
  | c, [] => c
  | c, i :: way => if (c.sight i).isSome then c.glance i else (c.glance i).looks way

/-- A cache once some requests were served. -/
def heed (c : Cache) (requests : List Request) : Cache := run (requests.map .request) c

/-- Caches that differ at most in the tally of their stores. -/
def Alike (c c' : Cache) : Prop := c.takeCount.2 = c'.takeCount.2

variable {c c' : Cache} {i j : Identity} {key : Key} {p : Payload} {e : Entry Key Payload}
  {way : List Identity}

/-! ### Caches that are alike -/

namespace Alike

lemma refl (c : Cache) : c.Alike c := rfl

lemma symm (h : c.Alike c') : c'.Alike c := Eq.symm h

lemma trans {c'' : Cache} (h : c.Alike c') (h' : c'.Alike c'') : c.Alike c'' := Eq.trans h h'

lemma limits_eq (h : c.Alike c') : c'.limits = c.limits := (congrArg Cache.limits h).symm

lemma clock_eq (h : c.Alike c') : c'.store.clock = c.store.clock :=
  (congrArg (·.store.clock) h).symm

lemma capacity_eq (h : c.Alike c') : c'.store.capacity = c.store.capacity :=
  (congrArg (·.store.capacity) h).symm

lemma entries_eq (h : c.Alike c') : c'.store.entries = c.store.entries :=
  (congrArg (·.store.entries) h).symm

/-- The same is in sight in both. -/
lemma sight_eq (h : c.Alike c') (i : Identity) : c'.sight i = c.sight i :=
  (congrArg (·.sight i) h).symm

lemma glance (h : c.Alike c') (i : Identity) : (c.glance i).Alike (c'.glance i) := by
  have hcount (c : Cache) : (c.takeCount.2.glance i).Alike (c.glance i) := by
    simp only [Cache.glance]
    have hfind : c.takeCount.2.store.find? i.key = c.store.find? i.key := rfl
    rw [hfind]
    cases c.store.find? i.key <;> rfl
  exact (hcount c).symm.trans (h ▸ hcount c')

lemma put (h : c.Alike c') (key : Key) (p : Payload) :
    (Cache.put key p c).state.Alike (Cache.put key p c').state := by
  have hcount (c : Cache) :
      (Cache.put key p c.takeCount.2).state.Alike (Cache.put key p c).state := by
    simp only [state_put, Store.add]
    have hread : c.takeCount.2.store.clock.read = c.store.clock.read := rfl
    rw [hread]
    rcases c.store.clock.read with ⟨fault | now, clock⟩ <;> rfl
  exact (hcount c).symm.trans (h ▸ hcount c')

lemma remove (h : c.Alike c') (key : Key) :
    Alike { c with store := c.store.remove key } { c' with store := c'.store.remove key } := by
  have hcount (c : Cache) : Alike { c.takeCount.2 with store := c.takeCount.2.store.remove key }
      { c with store := c.store.remove key } := by
    simp only [Store.remove]
    have hentries : c.takeCount.2.store.entries = c.store.entries := rfl
    rw [hentries]
    split <;> rfl
  exact (hcount c).symm.trans (h ▸ hcount c')

end Alike

/-! ### Looking -/

lemma sight_eq_some_iff :
    c.sight i = some e ↔
      c.store.find? i.key = some e ∧ c.store.clock.now < e.deadline ∧ e.value.kind = i.kind := by
  rw [sight, Option.filter_eq_some_iff, decide_eq_true_iff]

/-- Looking for what is not found changes nothing. -/
lemma glance_of_find?_eq_none (h : c.store.find? i.key = none) : c.glance i = c := by
  rw [glance, h]

/-- A found entry is left at the front if it is in sight, and is gone otherwise. -/
lemma entries_glance (h : c.store.find? i.key = some e) :
    (c.glance i).store.entries = (c.sight i).toList ++ c.store.others i.key := by
  rw [glance, h]

@[simp] lemma limits_glance : (c.glance i).limits = c.limits := by
  rw [glance]
  split <;> rfl

@[simp] lemma clock_glance : (c.glance i).store.clock = c.store.clock := by
  rw [glance]
  split <;> rfl

@[simp] lemma capacity_glance : (c.glance i).store.capacity = c.store.capacity := by
  rw [glance]
  split <;> rfl

/-- Removing the first entry with its key leaves the entries of the other keys, and
the rest of the store but for its tally. -/
lemma alike_remove_cons (c : Cache) (hkey : e.key = key) (tally : Tally) :
    Alike { c with store :=
        ({ c.store with entries := e :: c.store.others key, tally := tally }).remove key }
      { c with store := { c.store with entries := c.store.others key } } := by
  have hothers : (e :: c.store.others key).filter (·.key ≠ key) = c.store.others key := by
    simp [Store.others, hkey]
  have hremove : ({ c.store with entries := e :: c.store.others key, tally := tally }).remove key =
      { ({ c.store with entries := e :: c.store.others key, tally := tally }).noteRemoval with
        entries := c.store.others key } := by
    rw [Store.remove, if_pos (by simp [hkey])]
    exact congrArg (fun entries => { ({ c.store with
      entries := e :: c.store.others key, tally := tally }).noteRemoval with entries := entries })
      hothers
  rw [hremove]
  rfl

/-- A fetch finds what is in sight, and leaves what a glance leaves. -/
lemma fetch_of_accurate (hc : c.store.clock.Accurate) (i : Identity) :
    (fetch i c).answer = .ok ((c.sight i).map Entry.value) ∧
      (fetch i c).state.Alike (c.glance i) := by
  simp only [fetch, checkedGet, Action.bind_apply, onStore, Action.within_apply,
    Action.modifyGet_apply]
  cases hfind : c.store.find? i.key with
  | none =>
      have hsight : c.sight i = none := by rw [sight, hfind, Option.filter_none]
      rw [Store.get_of_find?_eq_none hfind, glance_of_find?_eq_none hfind, hsight]
      exact ⟨rfl, rfl⟩
  | some e =>
      have hkey : e.key = i.key := (Store.find?_some hfind).2.1
      have hglance : c.glance i = { c with store :=
          { c.store with entries := (c.sight i).toList ++ c.store.others i.key } } := by
        rw [glance, hfind]
      rw [Store.get_of_accurate hc hfind, hglance]
      by_cases hlive : c.store.clock.now < e.deadline
      · by_cases hkind : e.value.kind = i.kind
        · have hsight : c.sight i = some e := sight_eq_some_iff.mpr ⟨hfind, hlive, hkind⟩
          simp only [hlive, if_true, Payload.expect, hkind, hsight]
          exact ⟨rfl, rfl⟩
        · have hsight : c.sight i = none := by simp [sight, hfind, hkind]
          simp only [hlive, if_true, Payload.expect, hkind, if_false, hsight]
          exact ⟨rfl, alike_remove_cons c hkey _⟩
      · have hsight : c.sight i = none := by simp [sight, hfind, hlive]
        simp only [hlive, if_false, hsight]
        exact ⟨rfl, alike_remove_cons c hkey _⟩

/-- A request makes caches that are alike of such caches. -/
lemma Alike.serve (h : c.Alike c') (hc : c.store.clock.Accurate) (r : Request) :
    (serve r c).state.Alike (Cache.serve r c').state := by
  have hc' : c'.store.clock.Accurate := h.clock_eq.symm ▸ hc
  rw [state_serve, state_serve]
  cases r.effect with
  | reads =>
      exact ((fetch_of_accurate hc _).2.trans (h.glance _)).trans (fetch_of_accurate hc' _).2.symm
  | writes p => exact h.put _ p
  | evicts => exact h.remove _

/-! ### Serving requests -/

@[simp] lemma heed_nil (c : Cache) : c.heed [] = c := rfl

@[simp] lemma heed_cons (c : Cache) (r : Request) (rest : List Request) :
    c.heed (r :: rest) = (serve r c).state.heed rest := rfl

lemma heed_append (c : Cache) (l r : List Request) : c.heed (l ++ r) = (c.heed l).heed r := by
  rw [heed, List.map_append, run_append]
  rfl

/-- Requests leave the limits, and a clock that reads true as it was. -/
lemma limits_clock_heed (hc : c.store.clock.Accurate) (requests : List Request) :
    (c.heed requests).limits = c.limits ∧ (c.heed requests).store.clock = c.store.clock := by
  induction requests generalizing c with
  | nil => exact ⟨rfl, rfl⟩
  | cons r rest ih =>
      obtain ⟨hlimits, hclock⟩ := limits_clock_serve hc r
      obtain ⟨hlimits', hclock'⟩ := ih (c := (serve r c).state) (hclock ▸ hc)
      exact ⟨hlimits'.trans hlimits, hclock'.trans hclock⟩

/-- Requests leave the capacity. -/
lemma capacity_serve (r : Request) (c : Cache) :
    (serve r c).state.store.capacity = c.store.capacity := by
  rw [state_serve]
  cases r.effect with
  | reads =>
      have hcourse := fetch_fetched r.identity c
      generalize (fetch r.identity c).answer = answer, (fetch r.identity c).state = left at hcourse
      cases hcourse with
      | refused | absent | found => exact Store.capacity_get
      | dropped => exact Store.capacity_remove.trans Store.capacity_get
  | writes p => exact Store.capacity_add
  | evicts => exact Store.capacity_remove

lemma capacity_heed (requests : List Request) :
    (c.heed requests).store.capacity = c.store.capacity := by
  induction requests generalizing c with
  | nil => rfl
  | cons r rest ih => exact ih.trans (capacity_serve r c)

lemma Alike.heed (h : c.Alike c') (hc : c.store.clock.Accurate) (requests : List Request) :
    (c.heed requests).Alike (c'.heed requests) := by
  induction requests generalizing c c' with
  | nil => exact h
  | cons r rest ih => exact ih (h.serve hc r) ((limits_clock_serve hc r).2 ▸ hc)

/-- What was looked at and is in sight stays in sight. -/
lemma sight_glance_of_some (h : c.sight i = some e) : (c.glance i).sight i = some e := by
  obtain ⟨hfind, hlive, hkind⟩ := sight_eq_some_iff.mp h
  obtain ⟨-, hkey, hshown⟩ := Store.find?_some hfind
  refine sight_eq_some_iff.mpr ⟨?_, ?_, hkind⟩
  · rw [Store.find?, entries_glance hfind, h]
    simp [hkey, hshown]
  · rw [clock_glance]
    exact hlive

/-- What was looked at and is not in sight is not found any more. -/
lemma find?_glance_of_sight_eq_none (h : c.sight i = none) :
    (c.glance i).store.find? i.key = none := by
  cases hfind : c.store.find? i.key with
  | none => rwa [glance_of_find?_eq_none hfind]
  | some e =>
      rw [Store.find?_eq_none_iff, entries_glance hfind, h]
      exact fun e' he' hkey => absurd hkey (Store.mem_others.mp he').2

/-- What is found among the entries of the other keys, under one of those. -/
lemma find?_others (s : Store Key Payload) {key key' : Key} (h : key' ≠ key) :
    (s.others key).find? (fun e => e.key = key' ∧ e.Shown) = s.find? key' := by
  rw [Store.others, List.find?_filter, Store.find?]
  congr 1
  funext e
  by_cases hkey : e.key = key'
  · simp [hkey, h]
  · simp [hkey]

/-- A look for one identity leaves what is found under the key of another. -/
lemma find?_glance_of_ne (h : i ≠ j) :
    (c.glance i).store.find? j.key = c.store.find? j.key := by
  have hkeys : j.key ≠ i.key := fun heq => h (Identity.key_injective heq.symm)
  cases hfind : c.store.find? i.key with
  | none => rw [glance_of_find?_eq_none hfind]
  | some e =>
      rw [Store.find?, entries_glance hfind, List.find?_append, find?_others _ hkeys]
      cases hsight : c.sight i with
      | none => simp
      | some e' =>
          obtain ⟨-, hkey, -⟩ := Store.find?_some (sight_eq_some_iff.mp hsight).1
          simp [hkey, hkeys.symm]

/-- Nor does it change what is in sight for that other one. -/
lemma sight_glance_of_ne (h : i ≠ j) : (c.glance i).sight j = c.sight j := by
  rw [sight, sight, find?_glance_of_ne h, clock_glance]

/-- A look leaves the entries of the other keys. -/
lemma mem_entries_glance_iff (hkey : e.key ≠ i.key) :
    e ∈ (c.glance i).store.entries ↔ e ∈ c.store.entries := by
  cases hfind : c.store.find? i.key with
  | none => rw [glance_of_find?_eq_none hfind]
  | some e' =>
      rw [entries_glance hfind, List.mem_append, Store.mem_others, Option.mem_toList]
      constructor
      · rintro (hsight | he)
        · exact absurd (Store.find?_some (sight_eq_some_iff.mp hsight).1).2.1 hkey
        · exact he.1
      · exact fun he => .inr ⟨he, hkey⟩

/-- A look leaves the keys distinct. -/
lemma nodup_glance (hs : c.store.keys.Nodup) : (c.glance i).store.keys.Nodup := by
  cases hfind : c.store.find? i.key with
  | none => rwa [glance_of_find?_eq_none hfind]
  | some e =>
      rw [Store.keys, entries_glance hfind]
      cases hsight : c.sight i with
      | none =>
          rw [Option.toList_none, List.nil_append, Store.map_key_others]
          exact hs.filter _
      | some e' =>
          have hkey : e'.key = i.key := (Store.find?_some (sight_eq_some_iff.mp hsight).1).2.1
          rw [Option.toList_some, List.singleton_append, Store.map_key_cons_others hkey]
          exact Store.nodup_toFront hs _

/-- Among distinct keys, what is held under the key of an identity and is not in sight is
gone after a look just when it is shown. -/
lemma notMem_entries_glance_iff (hs : c.store.keys.Nodup) (he : e ∈ c.store.entries)
    (hkey : e.key = i.key) (hsight : c.sight i ≠ some e) :
    e ∉ (c.glance i).store.entries ↔ e.Shown := by
  by_cases hshown : e.Shown
  · have hfind : c.store.find? i.key = some e :=
      (Store.find?_eq_some_iff hs).mpr ⟨he, hkey, hshown⟩
    have hnone : c.sight i = none := by
      rw [Option.eq_none_iff_forall_ne_some]
      intro e' he'
      obtain rfl := Option.some_inj.mp (hfind.symm.trans (sight_eq_some_iff.mp he').1)
      exact hsight he'
    refine iff_of_true (fun hstays => ?_) hshown
    rw [entries_glance hfind, hnone, Option.toList_none, List.nil_append] at hstays
    exact (Store.mem_others.mp hstays).2 hkey
  · rw [glance_of_find?_eq_none (hkey ▸ Store.find?_eq_none_of_nodup hs he hshown)]
    exact iff_of_false (not_not_intro he) hshown

/-- Looks along a way leave what is held under keys that are not on it. -/
lemma mem_entries_looks_iff (hway : ∀ i ∈ way, e.key ≠ i.key) :
    e ∈ (c.looks way).store.entries ↔ e ∈ c.store.entries := by
  induction way generalizing c with
  | nil => exact Iff.rfl
  | cons i way ih =>
      obtain ⟨hi, hway⟩ := List.forall_mem_cons.mp hway
      rw [looks]
      split
      · exact mem_entries_glance_iff hi
      · exact (ih hway).trans (mem_entries_glance_iff hi)

/-- Looks go down a way as long as nothing is in sight. What is held under the key of an
identity that they come to, and is not in sight, is gone afterwards just when it is
shown. -/
lemma notMem_entries_looks_iff {before after : List Identity}
    (hway : (before ++ i :: after).Nodup) (hbefore : ∀ j ∈ before, c.sight j = none)
    (hs : c.store.keys.Nodup) (he : e ∈ c.store.entries) (hkey : e.key = i.key)
    (hsight : c.sight i ≠ some e) :
    e ∉ (c.looks (before ++ i :: after)).store.entries ↔ e.Shown := by
  induction before generalizing c with
  | nil =>
      have hafter : ∀ j ∈ after, e.key ≠ j.key := fun j hj heq =>
        (List.nodup_cons.mp hway).1 (Identity.key_injective (hkey.symm.trans heq) ▸ hj)
      rw [List.nil_append, looks]
      split
      · exact notMem_entries_glance_iff hs he hkey hsight
      · rw [mem_entries_looks_iff hafter]
        exact notMem_entries_glance_iff hs he hkey hsight
  | cons j before ih =>
      obtain ⟨hj, hway⟩ := List.nodup_cons.mp hway
      obtain ⟨hnone, hbefore⟩ := List.forall_mem_cons.mp hbefore
      have hne : j ≠ i := by
        rintro rfl
        exact hj (by simp)
      have hother : e.key ≠ j.key := fun heq => hne (Identity.key_injective (heq.symm.trans hkey))
      rw [List.cons_append, looks, hnone, Option.isSome_none, if_neg Bool.false_ne_true]
      refine ih hway (fun k hk => ?_) (nodup_glance hs) ((mem_entries_glance_iff hother).mpr he) ?_
      · have hjk : j ≠ k := by
          rintro rfl
          exact hj (List.mem_append_left _ hk)
        rw [sight_glance_of_ne hjk]
        exact hbefore k hk
      · rwa [sight_glance_of_ne hne]

/-- If nothing is found on a way, looking changes nothing. -/
lemma looks_of_find?_eq_none (h : ∀ i ∈ way, c.store.find? i.key = none) : c.looks way = c := by
  induction way with
  | nil => rfl
  | cons i way ih =>
      obtain ⟨hi, hway⟩ := List.forall_mem_cons.mp h
      have hsight : c.sight i = none := by rw [sight, hi, Option.filter_none]
      rw [looks, hsight, glance_of_find?_eq_none hi]
      exact ih hway

/-! ### Writing -/

/-- The entries after a write, the one that was written first. -/
lemma entries_put (hc : c.store.clock.Accurate) (key : Key) (p : Payload) :
    (put key p c).state.store.entries =
      (Store.entry key p (c.limits.ttl p.kind) c.store.clock.now :: c.store.others key).take
        c.store.capacity := by
  rw [state_put]
  dsimp only
  rw [Store.add_of_accurate hc, Store.entries_settle]

/-- A time to live that has an end has its deadline there, or at that of the longest one. -/
lemma toNanos_deadline {now : Instant} {d : Duration}
    (hend : (now.add? (d.shorter Store.maxTtl)).isSome) :
    (Store.deadline now d).toNanos = now.toNanos + min d.toNanos Store.maxTtl.toNanos := by
  obtain ⟨t, ht⟩ := Option.isSome_iff_exists.mp hend
  rw [Store.deadline, ht, Option.getD_some, Instant.add?_eq_some_iff.mp ht,
    Duration.toNanos_shorter]

/-- The deadline of some time to live that has an end is later. -/
lemma lt_deadline {now : Instant} {d : Duration} (hd : d ≠ .zero)
    (hend : (now.add? (d.shorter Store.maxTtl)).isSome) : now < Store.deadline now d := by
  have hpos : 0 < min d.toNanos Store.maxTtl.toNanos :=
    lt_min (Duration.toNanos_pos_iff.mpr hd) (by decide)
  rw [Instant.lt_iff_toNanos_lt, toNanos_deadline hend]
  omega

/-- What is written at an instant, with the time to live of its kind, has a deadline
that is later. -/
def Lasting (limits : Limits) (now : Instant) : Prop :=
  ∀ kind, limits.ttl kind ≠ .zero ∧ (now.add? ((limits.ttl kind).shorter Store.maxTtl)).isSome

/-- The deadline of what is written then. -/
lemma Lasting.toNanos_deadline {limits : Limits} {now : Instant} (h : Lasting limits now)
    (kind : Kind) :
    (Store.deadline now (limits.ttl kind)).toNanos =
      now.toNanos + min (limits.ttl kind).toNanos Store.maxTtl.toNanos :=
  Cache.toNanos_deadline (h kind).2

lemma Lasting.lt_deadline {limits : Limits} {now : Instant} (h : Lasting limits now)
    (kind : Kind) : now < Store.deadline now (limits.ttl kind) :=
  Cache.lt_deadline (h kind).1 (h kind).2

/-- What was just written is found, if there is room for it and it was given time to
live. -/
lemma find?_put_self {now : Instant} {clock : Clock}
    (hread : c.store.clock.read = (.ok now, clock)) (hroom : 0 < c.store.capacity)
    (httl : c.limits.ttl p.kind ≠ .zero) :
    (put key p c).state.store.find? key =
      some (Store.entry key p (c.limits.ttl p.kind) now) := by
  obtain ⟨n, hn⟩ := Nat.exists_eq_succ_of_ne_zero hroom.ne'
  have hshown : (Store.entry key p (c.limits.ttl p.kind) now).Shown :=
    Store.shown_entry_iff.mpr httl
  rw [state_put]
  dsimp only
  rw [Store.add_of_read hread, Store.find?, Store.entries_settle, hn, List.take_succ_cons,
    List.find?_cons_of_pos]
  exact decide_eq_true ⟨rfl, hshown⟩

/-- What was just written is in sight, if there is room for it and the time to live of its
kind has an end that is later. -/
lemma sight_put_of_ttl (hc : c.store.clock.Accurate) (hroom : 0 < c.store.capacity)
    (httl : c.limits.ttl i.kind ≠ .zero)
    (hend : (c.store.clock.now.add? ((c.limits.ttl i.kind).shorter Store.maxTtl)).isSome)
    (hkind : p.kind = i.kind) :
    (put i.key p c).state.sight i =
      some (Store.entry i.key p (c.limits.ttl i.kind) c.store.clock.now) := by
  have hclock : (put i.key p c).state.store.clock = c.store.clock := by
    rw [state_put]
    exact Store.clock_add_of_accurate hc
  refine sight_eq_some_iff.mpr ⟨?_, ?_, hkind⟩
  · rw [← hkind] at httl ⊢
    exact find?_put_self (Clock.read_of_accurate hc) hroom httl
  · rw [hclock]
    exact lt_deadline httl hend

/-- What was just written is in sight, if there is room for it and it has a later
deadline. -/
lemma sight_put (hc : c.store.clock.Accurate) (hroom : 0 < c.store.capacity)
    (hlasting : Lasting c.limits c.store.clock.now) (hkind : p.kind = i.kind) :
    (put i.key p c).state.sight i =
      some (Store.entry i.key p (c.limits.ttl i.kind) c.store.clock.now) :=
  sight_put_of_ttl hc hroom (hlasting i.kind).1 (hlasting i.kind).2 hkind

/-- A write leaves nothing to be found for another identity for which nothing is
found. -/
lemma find?_put_of_eq_none (hc : c.store.clock.Accurate) (hne : i ≠ j)
    (h : c.store.find? j.key = none) :
    (put i.key p c).state.store.find? j.key = none := by
  rw [Store.find?_eq_none_iff] at h ⊢
  rw [entries_put hc]
  intro e he hkey
  rcases List.mem_cons.mp (List.mem_of_mem_take he) with rfl | he
  · exact absurd (Identity.key_injective hkey) hne
  · exact h e (Store.mem_others.mp he).1 hkey

/-- Where nothing was found for an identity, what is in sight after a write is what was
written, if it was written for that identity. -/
lemma sight_put_eq_some_iff {j : Identity} {p : Payload} (hc : c.store.clock.Accurate)
    (hroom : 0 < c.store.capacity) (httl : c.limits.ttl j.kind ≠ .zero)
    (hend : (c.store.clock.now.add? ((c.limits.ttl j.kind).shorter Store.maxTtl)).isSome)
    (hkind : p.kind = j.kind) (hfind : c.store.find? i.key = none) :
    (put j.key p c).state.sight i = some e ↔
      j = i ∧ e = Store.entry j.key p (c.limits.ttl j.kind) c.store.clock.now := by
  constructor
  · intro hsight
    obtain rfl : j = i := by
      by_contra hne
      have hnone := find?_put_of_eq_none (p := p) hc hne hfind
      rw [(sight_eq_some_iff.mp hsight).1] at hnone
      cases hnone
    rw [sight_put_of_ttl hc hroom httl hend hkind] at hsight
    exact ⟨rfl, (Option.some.inj hsight).symm⟩
  · rintro ⟨rfl, rfl⟩
    exact sight_put_of_ttl hc hroom httl hend hkind

end Discovery.Cache
