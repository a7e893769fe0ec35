import Discovery.Proofs.Store.Departure
/-!
When an entry expires, counted in nanoseconds, and what can be refused until then.

* `Store.Exact`, `Store.exact_deadline`: a deadline is the sum of the instant of writing
  and the time to live, or the instant of writing itself if there is no such instant;
* `Store.refused_iff`, `Store.act_of_refused`: while the clock reads true, only moving it
  past the last instant is refused, which changes nothing;
* `Store.Undisturbed`, `Store.get_of_undisturbed`: an entry that is not written over, not
  removed and not pushed out is a hit just as long as its deadline is to come;
* `Store.get_of_endless`: what is written with no deadline to come is missed until its key
  is written again;
* `Store.exact_deadlines`: all of this together.
-/

namespace Discovery.Store

variable {κ ν : Type} [DecidableEq κ] {s : Store κ ν} {op : Op κ ν} {ops : List (Op κ ν)}
  {key : κ} {value : ν} {ttl : Duration} {e : Entry κ ν} {now : Instant} {c : Clock}

/-! ### Deadlines -/

/-- A deadline of what is written at an instant, as exact counts: the sum, with the time
to live cut off at the longest one, if its seconds are in range, and the instant of
writing if they are not. Whole seconds are carried over, and less than a second is left. -/
structure Exact (now : Instant) (ttl : Duration) (d : Instant) : Prop where
  toNanos_eq : d.toNanos =
    if (now.toNanos + min ttl.toNanos maxTtl.toNanos) / nanosPerSec < secondsLimit then
      now.toNanos + min ttl.toNanos maxTtl.toNanos
    else now.toNanos
  le : now.toNanos ≤ d.toNanos
  le_add : d.toNanos ≤ now.toNanos + maxTtl.toNanos
  secs_eq : d.secs.val = d.toNanos / nanosPerSec
  nanos_eq : d.nanos.val = d.toNanos % nanosPerSec

lemma exact_deadline (now : Instant) (ttl : Duration) : Exact now ttl (deadline now ttl) := by
  have hsum := toNanos_deadline now ttl
  have hnanos := (deadline now ttl).nanos.isLt
  refine ⟨hsum, ?_, ?_, ?_, ?_⟩
  · rw [hsum]
    split
    · exact Nat.le_add_right _ _
    · exact le_rfl
  · exact (toNanos_deadline_le now ttl).trans (Nat.add_le_add_left (min_le_right _ _) _)
  · simp only [Instant.toNanos, nanosPerSec] at hnanos ⊢
    omega
  · simp only [Instant.toNanos, nanosPerSec] at hnanos ⊢
    omega

/-- What is given no time to live expires when it is written. -/
lemma deadline_zero (now : Instant) : deadline now .zero = now := by
  have hnone : Duration.zero.toNanos = 0 := by decide
  refine Instant.toNanos_inj ?_
  rw [toNanos_deadline, hnone, Nat.zero_min, Nat.add_zero, ite_self]

/-- A sum past the last instant leaves the deadline at the instant of writing. -/
lemma deadline_of_endless
    (hend : secondsLimit * nanosPerSec ≤ now.toNanos + min ttl.toNanos maxTtl.toNanos) :
    deadline now ttl = now := by
  refine Instant.toNanos_inj ?_
  rw [toNanos_deadline, if_neg]
  simp only [secondsLimit, nanosPerSec] at hend ⊢
  omega

/-! ### Refusals -/

/-- A clock is moved unless that leads past the last instant. -/
lemma exists_advance_eq_error_iff {d : Duration} :
    (∃ fault, c.advance d = .error fault) ↔
      secondsLimit * nanosPerSec ≤ c.now.toNanos + d.toNanos := by
  rw [← Instant.add?_eq_none_iff, Clock.advance]
  cases c.now.add? d with
  | none => exact iff_of_true ⟨_, rfl⟩ rfl
  | some t => simp

/-- While the clock reads true, nothing is refused but moving it past the last
instant. -/
lemma refused_iff (hs : s.clock.Accurate) (hop : op.Truthful) :
    (∃ fault, (act op s).answer = .error fault) ↔
      ∃ d, op = .advance d ∧ secondsLimit * nanosPerSec ≤ s.clock.now.toNanos + d.toNanos := by
  cases op with
  | add key value ttl => simp [act, add_of_accurate hs, Except.map]
  | get key =>
      refine iff_of_false ?_ (by simp)
      rintro ⟨fault, hfault⟩
      obtain ⟨c, fault', rfl, hread⟩ :=
        exists_of_get_eq_error (P := fun c => c = s.clock)
          (fun c hc => by rw [hc, Clock.read_of_accurate hs]) rfl hfault
      rw [Clock.read_of_accurate hs] at hread
      cases hread
  | remove key => simp [act]
  | advance d =>
      simp only [Op.advance.injEq, exists_eq_left', ← exists_advance_eq_error_iff]
      cases hmoved : s.clock.advance d with
      | error fault => simp [act, Store.advance, hmoved, Except.map]
      | ok clock => simp [act, Store.advance, hmoved, Except.map]
  | misread skews => exact absurd hop id

/-- What is refused changes nothing. -/
lemma act_of_refused (hs : s.clock.Accurate) (hop : op.Truthful) {fault : ClockFault}
    (hfault : (act op s).answer = .error fault) : (act op s).state = s := by
  obtain ⟨d, rfl, hpast⟩ := (refused_iff hs hop).mp ⟨fault, hfault⟩
  obtain ⟨fault', hstuck⟩ := exists_advance_eq_error_iff.mpr hpast
  simp [act, Store.advance, hstuck, Except.map]

/-! ### Hits -/

/-- No operation of a run makes an entry leave but asking for it when it has expired. -/
def Undisturbed (e : Entry κ ν) (ops : List (Op κ ν)) (s : Store κ ν) : Prop :=
  ∀ turn ∈ Action.turns act ops s, Leaves turn.2 e turn.1 → turn.1 = .get e.key

/-- After an operation that does not disturb it, an entry that was held still is, or its
deadline is over. -/
lemma mem_or_dead_act (hs : s.Tidy) (hclock : s.clock.Accurate)
    (hundisturbed : Leaves s e op → op = .get e.key)
    (he : e ∈ s.entries ∨ e.deadline.toNanos ≤ s.clock.now.toNanos) :
    e ∈ (act op s).state.entries ∨
      e.deadline.toNanos ≤ (act op s).state.clock.now.toNanos := by
  rcases he with he | hdead
  · by_cases hgone : e ∈ (act op s).state.entries
    · exact .inl hgone
    · have hleaves := leaves_of_notMem hs he hgone
      obtain rfl := hundisturbed hleaves
      cases hleaves with
      | expired hread hdead =>
          rw [Clock.read_of_accurate hclock] at hread
          cases hread
          exact .inr (((Instant.le_iff_toNanos_le _ _).mp hdead).trans now_le_act)
  · exact .inr (hdead.trans now_le_act)

/-- The same after a run of such operations. -/
lemma mem_or_dead_run (hs : s.Tidy) (hclock : s.clock.Accurate)
    (hops : ∀ op ∈ ops, op.Truthful) (hundisturbed : Undisturbed e ops s)
    (he : e ∈ s.entries ∨ e.deadline.toNanos ≤ s.clock.now.toNanos) :
    e ∈ (run ops s).entries ∨ e.deadline.toNanos ≤ (run ops s).clock.now.toNanos := by
  induction ops generalizing s with
  | nil => exact he
  | cons op rest ih =>
      rw [Undisturbed, Action.turns_cons, List.forall_mem_cons] at hundisturbed
      obtain ⟨hfirst, hrest⟩ := hundisturbed
      obtain ⟨hop, hops⟩ := List.forall_mem_cons.mp hops
      exact ih (tidy_act hs op) (accurate_act hclock hop) hops hrest
        (mem_or_dead_act hs hclock hfirst he)

/-- A run of operations that are no misreadings leaves a clock that reads true. -/
lemma accurate_run (hclock : s.clock.Accurate) (hops : ∀ op ∈ ops, op.Truthful) :
    (∀ turn ∈ Action.turns act ops s, turn.2.clock.Accurate) ∧ (run ops s).clock.Accurate :=
  Action.keeps_each (I := fun t : Store κ ν => t.clock.Accurate)
    (fun op hop _ ht => accurate_act ht (hops op hop)) hclock

/-- A key whose only entry has expired is missed. -/
lemma get_of_expired (hclock : s.clock.Accurate)
    (honly : ∀ e' ∈ s.entries, e'.key = key → e'.deadline ≤ s.clock.now) :
    (s.get key).1 = .ok none := by
  cases hfind : s.find? key with
  | none => rw [get_of_find?_eq_none hfind]
  | some e' =>
      obtain ⟨he', hkey, -⟩ := find?_some hfind
      have hdead : ¬ s.clock.now < e'.deadline := honly e' he' hkey
      rw [get_of_accurate hclock hfind]
      simp [hdead]

/-- A run that does not disturb an entry does not write its key. -/
lemma Undisturbed.add_notMem (h : Undisturbed e ops s) (value : ν) (ttl : Duration) :
    .add e.key value ttl ∉ ops := by
  intro hmem
  obtain ⟨t, hturn⟩ := Action.exists_mem_turns hmem act s
  cases h _ hturn .replaced

/-- An entry that was written, whatever the clock read then, is a hit after a run that
does not disturb it just as long as its deadline is to come. An entry without time to live
must not have been written at a reading that is still to come. -/
lemma get_of_undisturbed (hs : s.Tidy) (hroom : 0 < s.capacity)
    (hread : s.clock.read = (.ok now, c)) (hclock : c.Accurate)
    (hops : ∀ op ∈ ops, op.Truthful)
    (hundisturbed : Undisturbed (entry key value ttl now) ops (s.add key value ttl).2)
    (hlater : ttl = .zero → now ≤ (run ops (s.add key value ttl).2).clock.now) :
    ((run ops (s.add key value ttl).2).get key).1 =
      .ok (if (run ops (s.add key value ttl).2).clock.now.toNanos < (deadline now ttl).toNanos
        then some value else none) := by
  have htidy : (s.add key value ttl).2.Tidy := hs.add key value ttl
  have hwritten : (s.add key value ttl).2.clock.Accurate := by
    rw [clock_add, hread]
    exact hclock
  have hheld : entry key value ttl now ∈ (s.add key value ttl).2.entries := by
    obtain ⟨n, hn⟩ := Nat.exists_eq_succ_of_ne_zero hroom.ne'
    rw [add_of_read hread, entries_settle, hn, List.take_succ_cons]
    exact List.mem_cons_self ..
  have honly : ∀ e' ∈ (run ops (s.add key value ttl).2).entries, e'.key = key →
      e' = entry key value ttl now := fun e' he' hkey =>
    eq_entry_run _ hread hundisturbed.add_notMem he' hkey
  have hend := (accurate_run hwritten hops).2
  split
  · next hlive =>
      have hlasting : ttl ≠ .zero := by
        rintro rfl
        have hle := (Instant.le_iff_toNanos_le _ _).mp (hlater rfl)
        rw [deadline_zero] at hlive
        omega
      have hstill : entry key value ttl now ∈ (run ops (s.add key value ttl).2).entries := by
        refine (mem_or_dead_run htidy hwritten hops hundisturbed (.inl hheld)).resolve_right ?_
        exact not_le.mpr hlive
      have hfind := (find?_eq_some_iff (tidy_run htidy ops).2.nodup).mpr
        ⟨hstill, rfl, shown_entry_iff.mpr hlasting⟩
      exact get_of_live hfind (Clock.read_of_accurate hend)
        ((Instant.lt_iff_toNanos_lt _ _).mpr hlive)
  · next hdead =>
      refine get_of_expired hend fun e' he' hkey => ?_
      rw [honly e' he' hkey, Instant.le_iff_toNanos_le]
      exact not_lt.mp hdead

/-- What is written at a true reading with no deadline to come takes the place of what its
key held, and the key is missed until it is written again. -/
lemma get_of_endless (hclock : s.clock.Accurate) (hops : ∀ op ∈ ops, op.Truthful)
    (hlatest : ∀ value ttl, .add key value ttl ∉ ops)
    (hend : secondsLimit * nanosPerSec ≤
      s.clock.now.toNanos + min ttl.toNanos maxTtl.toNanos) :
    ((run ops (s.add key value ttl).2).get key).1 = .ok none := by
  have hread := Clock.read_of_accurate hclock
  have hwritten : (s.add key value ttl).2.clock = s.clock := clock_add_of_accurate hclock
  refine get_of_expired (accurate_run (hwritten.symm ▸ hclock) hops).2 fun e he hkey => ?_
  have hdeadline : e.deadline = s.clock.now := by
    rw [eq_entry_run _ hread hlatest he hkey]
    exact deadline_of_endless hend
  rw [hdeadline, Instant.le_iff_toNanos_le, ← hwritten]
  exact now_le_run ops

/-! ### Every write and every run -/

/-- What is written at any reading of the clock is never refused. Its entry comes first, in
the place of what its key held, and its deadline is exact; after a run that does not disturb
it, a later true reading finds it just when that is before the deadline, both counted in
nanoseconds.

In a run under true readings nothing is refused but moving the clock past the last instant,
and that changes nothing. A write whose deadline would lie past the last instant replaces
what its key held all the same, and the key is missed until it is written again. -/
theorem exact_deadlines :
    (∀ (s : Store κ ν) (key : κ) (value : ν) (ttl : Duration) (now : Instant) (c : Clock),
      s.clock.read = (.ok now, c) →
        (s.add key value ttl).1 = .ok () ∧
        (s.add key value ttl).2.entries =
          (entry key value ttl now :: s.others key).take s.capacity ∧
        Exact now ttl (entry key value ttl now).deadline ∧
        (s.Tidy → 0 < s.capacity → c.Accurate →
          ∀ ops : List (Op κ ν), (∀ op ∈ ops, op.Truthful) →
          Undisturbed (entry key value ttl now) ops (s.add key value ttl).2 →
          let later := run ops (s.add key value ttl).2
          (ttl = .zero → now ≤ later.clock.now) →
            (later.get key).1 =
              .ok (if later.clock.now.toNanos < (entry key value ttl now).deadline.toNanos
                then some value else none))) ∧
    (∀ (s : Store κ ν) (ops : List (Op κ ν)), s.clock.Accurate → (∀ op ∈ ops, op.Truthful) →
      ∀ turn ∈ Action.turns act ops s,
        ((∃ fault, (act turn.1 turn.2).answer = .error fault) ↔
          ∃ d, turn.1 = .advance d ∧
            secondsLimit * nanosPerSec ≤ turn.2.clock.now.toNanos + d.toNanos) ∧
        ∀ fault, (act turn.1 turn.2).answer = .error fault →
          (act turn.1 turn.2).state = turn.2) ∧
    ∀ (s : Store κ ν) (key : κ) (value : ν) (ttl : Duration), s.clock.Accurate →
      secondsLimit * nanosPerSec ≤ s.clock.now.toNanos + min ttl.toNanos maxTtl.toNanos →
        (∀ e ∈ (s.add key value ttl).2.entries, e.key = key →
          e = entry key value ttl s.clock.now) ∧
        ∀ ops : List (Op κ ν), (∀ op ∈ ops, op.Truthful) →
          (∀ value ttl, .add key value ttl ∉ ops) →
          ((run ops (s.add key value ttl).2).get key).1 = .ok none := by
  refine ⟨fun s key value ttl now c hread => ?_, fun s ops hclock hops turn hturn => ?_,
    fun s key value ttl hclock hend => ?_⟩
  · refine ⟨?_, ?_, exact_deadline now ttl, fun hs hroom hclock ops hops hundisturbed hlater =>
      get_of_undisturbed hs hroom hread hclock hops hundisturbed hlater⟩
    · rw [add_of_read hread]
    · rw [add_of_read hread, entries_settle]
  · have hthen : turn.2.clock.Accurate := (accurate_run hclock hops).1 turn hturn
    have hop : turn.1.Truthful := hops _ (Action.mem_of_mem_turns hturn)
    exact ⟨refused_iff hthen hop, fun fault hfault => act_of_refused hthen hop hfault⟩
  · exact ⟨fun e he hkey => eq_entry_run [] (Clock.read_of_accurate hclock) nofun he hkey,
      fun ops hops hlatest => get_of_endless hclock hops hlatest hend⟩

/-- The longest time to live is a year: what is written with it is a hit until a nanosecond
before, and not after. No clock moves by the longest duration. Ten seconds before the last
instant, what is written for a minute takes the place of what was there and is a miss. -/
theorem exact_deadlines_year :
    let s : Store ℕ ℕ := run [.add 1 5 (.ofSecs 60)] (empty "pair" 2 Clock.start)
    let written := (s.add 1 10 .longest).2
    let almost : Duration := ⟨31535999, .ofNat 999999999⟩
    let near := run [.advance (.ofSecs 9223372036854689398)] s
    ((run [.get 1, .advance almost] written).get 1).1 = .ok (some 10) ∧
      ((run [.get 1, .advance maxTtl] written).get 1).1 = .ok none ∧
      (act (.advance .longest) s).state = s ∧
      ((∀ e ∈ (near.add 1 20 (.ofSecs 60)).2.entries, e.key = 1 →
          e = entry 1 20 (.ofSecs 60) near.clock.now) ∧
        ((run [.get 1] (near.add 1 20 (.ofSecs 60)).2).get 1).1 = .ok none) := by
  intro s written almost near
  obtain ⟨hwrite, hrefused, hendless⟩ := @exact_deadlines ℕ ℕ _
  have hs : s.Tidy := (tidy_run (tidy_empty "pair" 2 Clock.start) _).2
  have htimely : s.clock.Accurate :=
    (accurate_run Clock.accurate_start (by simp [Op.Truthful])).2
  have hnear : near.clock.Accurate := (accurate_run htimely (by simp [Op.Truthful])).2
  have hread : s.clock.read = (.ok Clock.origin, Clock.start) := by decide
  obtain ⟨-, -, -, hhit⟩ := hwrite s 1 10 .longest Clock.origin Clock.start hread
  have hundisturbed (d : Duration) :
      Undisturbed (entry 1 10 .longest Clock.origin) [.get 1, .advance d] written := by
    intro turn hturn hleaves
    rcases List.mem_cons.mp hturn with rfl | hturn
    · rfl
    · obtain rfl := List.mem_singleton.mp hturn
      cases hleaves
  have htrue (d : Duration) : ∀ op ∈ [Op.get 1, .advance d], (op : Op ℕ ℕ).Truthful := by
    simp [Op.Truthful]
  have hlonger : Duration.longest ≠ .zero := by decide
  refine ⟨?_, ?_, ?_, ?_⟩
  · exact (hhit hs (by decide) Clock.accurate_start _ (htrue almost) (hundisturbed almost)
      (absurd · hlonger)).trans (by decide)
  · exact (hhit hs (by decide) Clock.accurate_start _ (htrue maxTtl) (hundisturbed maxTtl)
      (absurd · hlonger)).trans (by decide)
  · exact (hrefused s [.advance .longest] htimely (by simp [Op.Truthful]) _
      (List.mem_singleton_self _)).2 .pastLastInstant (by decide)
  · obtain ⟨hreplaced, hmissed⟩ := hendless near 1 20 (.ofSecs 60) hnear (by decide)
    exact ⟨hreplaced, hmissed [.get 1] (by simp [Op.Truthful]) (by simp)⟩

end Discovery.Store
