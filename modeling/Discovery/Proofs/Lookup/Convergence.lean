import Discovery.Proofs.Lookup.Transparency
/-!
Lookups catch up with a registry that has changed.

* `Limits.lifetime`, `Limits.lag`: how long an entry of a kind lives, and how
  long what is answered by way of such entries can be outdated;
* `Lookup.OnTime`: a clock that reads true, at an instant;
* `Criteria.Timed`: criteria that only depend on the time, and get weaker;
* `Lookup.kept_of_ordinary`: an ordinary operation keeps timed criteria as the
  time goes on;
* `Lookup.bearsOut_of_lag_le`: once a registry is settled on a directory,
  answers are borne out by it as soon as the lag is over.
-/

namespace Discovery

/-- How long an entry of a kind lives, in nanoseconds. -/
def Limits.lifetime (l : Limits) (kind : Kind) : ℕ :=
  min (l.ttl kind).toNanos Store.maxTtl.toNanos

/-- How long an answer of a kind can be outdated after a change: what it is
learned by way of can be outdated, and it is kept from then on. -/
def Limits.lag (l : Limits) : Kind → ℕ
  | .namespaceRecord => l.lifetime .namespaceRecord
  | .serviceId => l.lifetime .namespaceRecord + l.lifetime .serviceId
  | .endpointSet =>
      l.lifetime .namespaceRecord + l.lifetime .serviceId + l.lifetime .endpointSet

/-- An entry does not live longer than the lag of its kind. -/
lemma Limits.lifetime_le_lag (l : Limits) (kind : Kind) : l.lifetime kind ≤ l.lag kind := by
  cases kind with
  | namespaceRecord => exact le_rfl
  | serviceId => exact Nat.le_add_left ..
  | endpointSet => exact Nat.le_add_left ..

variable {ρ ε : Type} {R : Registry ρ ε} {d : Directory} {s : Session ρ} {limits : Limits}

namespace Lookup

/-! ### Ordinary operations -/

/-- A clock that reads true, at an instant. -/
def OnTime (now : Instant) (c : Clock) : Prop := c.Accurate ∧ c.now = now

lemma onTime_read {now : Instant} {c : Clock} (h : OnTime now c) : OnTime now c.read.2 :=
  ⟨Clock.accurate_read h.1, (Clock.read_now c).trans h.2⟩

/-- All that a clock on time shows is the time. -/
lemma eq_of_onTime {now t : Instant} {c : Clock} (h : OnTime now c) (ht : c.read.1 = .ok t) :
    t = now := by
  rw [Clock.read_of_accurate h.1] at ht
  cases ht
  exact h.2

/-- What a client does, and the passing of time. -/
def Op.Ordinary : Op → Prop
  | .cache (.direct (.advance _)) => True
  | .cache _ => False
  | _ => True

/-- The time of a session. -/
def now (s : Session ρ) : Instant := s.cache.store.clock.now

/-- Criteria for each instant, on clocks that are on time, that get weaker as
the time goes on. -/
structure Timed (C : Instant → Criteria ρ) : Prop where
  clocks_iff : ∀ t c, (C t).clocks c ↔ OnTime t c
  settled_mono : ∀ {t later r}, t.toNanos ≤ later.toNanos → (C t).settled r → (C later).settled r
  stores_mono : ∀ {t later i p deadline}, t.toNanos ≤ later.toNanos →
    (C t).stores i p deadline → (C later).stores i p deadline

/-- An ordinary operation keeps timed criteria, at the time that it then is. -/
lemma holds_of_ordinary {C : Instant → Criteria ρ} (hC : Timed C)
    (hmet : ∀ t, (C t).Met R limits) {op : Op} (hop : op.Ordinary)
    (hs : (C (now s)).Holds limits s) :
    (C (now (act R op s).state)).Holds limits (act R op s).state := by
  have hclient (hclient : op.OfClient) :
      (C (now (act R op s).state)).Holds limits (act R op s).state := by
    have hholds := (Criteria.kept_of_client (hmet (now s)) hs hclient).holds
    have hnow : now (act R op s).state = now s := ((hC.clocks_iff _ _).mp hholds.clock).2
    rw [hnow]
    exact hholds
  cases op with
  | namespaceRecord | serviceId | endpoints | endpointsChanged => exact hclient trivial
  | cache op =>
      rcases op with r | (_ | _ | _ | span | _)
      case direct.advance =>
        obtain ⟨clock, hmoved, hlater, hskews⟩ := Store.act_advance span s.cache.store
        have hstate : (act R (.cache (.direct (.advance span))) s).state = { s with
            cache := { s.cache with store := { s.cache.store with clock := clock } } } := by
          rw [← hmoved]
          rfl
        rw [hstate]
        refine ⟨hs.limits_eq, ?_, hC.settled_mono hlater hs.settled,
          fun e he i hi => hC.stores_mono hlater (hs.stored e he i hi)⟩
        have hontime := (hC.clocks_iff _ _).mp hs.clock
        exact (hC.clocks_iff _ _).mpr ⟨hskews.trans hontime.1, rfl⟩
      all_goals exact absurd hop id

/-! ### Before the change -/

/-- Whatever the registry answers: what is stored has a deadline within the
lifetime of its kind. -/
def stamped (limits : Limits) (t : Instant) : Criteria ρ where
  clocks := OnTime t
  clocks_read _ := onTime_read
  settled _ := True
  stores i _ deadline := deadline.toNanos ≤ t.toNanos + limits.lifetime i.kind
  namespaceRecord _ _ := True
  serviceId _ _ _ := True
  endpoints _ _ _ := True

lemma timed_stamped (limits : Limits) : Timed (stamped limits : Instant → Criteria ρ) where
  clocks_iff _ _ := Iff.rfl
  settled_mono _ _ := trivial
  stores_mono hlater h := h.trans (Nat.add_le_add_right hlater _)

/-- What is written at a time lives as long as its kind. -/
lemma toNanos_deadline_le_of_shows {t shown : Instant} {c : Clock} (hc : OnTime t c)
    (hshown : c.read.1 = .ok shown) (limits : Limits) (kind : Kind) :
    (Store.deadline shown (limits.ttl kind)).toNanos ≤ t.toNanos + limits.lifetime kind := by
  rw [eq_of_onTime hc hshown]
  exact Store.toNanos_deadline_le ..

/-- What is written for an identity has a deadline within the lifetime of its
kind. -/
lemma writes_stamped (limits : Limits) (t : Instant) {i : Identity} {p : Payload}
    (h : p.kind = i.kind) : (stamped limits t : Criteria ρ).Writes limits i p := by
  rintro shown ⟨c, hc, hshown⟩
  rw [h]
  exact toNanos_deadline_le_of_shows hc hshown limits i.kind

/-- Every registry meets that. -/
lemma met_stamped (R : Registry ρ ε) (limits : Limits) (t : Instant) :
    (stamped limits t).Met R limits where
  settled_findNamespace _ _ _ := trivial
  settled_findServiceId _ _ _ _ := trivial
  settled_listEndpoints _ _ _ _ := trivial
  namespace_of_hit _ _ _ := trivial
  namespace_some _ _ _ _ _ := ⟨trivial, writes_stamped limits t rfl⟩
  namespace_none _ _ _ _ := ⟨trivial, writes_stamped limits t rfl⟩
  serviceId_of_hit _ _ _ _ := trivial
  serviceId_of_none _ _ _ := trivial
  serviceId_some _ _ _ _ _ _ _ _ := ⟨trivial, writes_stamped limits t rfl⟩
  serviceId_none _ _ _ _ _ _ _ := trivial
  endpoints_of_hit _ _ _ _ := trivial
  endpoints_of_none _ _ _ := trivial
  endpoints_listed _ _ _ _ _ _ _ _ := ⟨trivial, writes_stamped limits t rfl⟩

/-! ### After the change -/

/-- What may be stored besides what agrees: what has a deadline within the lag of
its kind after the change. -/
def catchingUp (limits : Limits) (changed t : Instant) : Directory.Leeway where
  clocks := OnTime t
  clocks_read _ := onTime_read
  excused i deadline := deadline.toNanos ≤ changed.toNanos + limits.lag i.kind

/-- What was outdated may be live only until the lag is over. -/
lemma lt_of_stale {changed t : Instant} {i : Identity} (h : (catchingUp limits changed t).Stale i) :
    t.toNanos < changed.toNanos + limits.lag i.kind := by
  obtain ⟨shown, deadline, ⟨c, hc, hshown⟩, hlive, hexcused⟩ := h
  rw [eq_of_onTime hc hshown, Instant.lt_iff_toNanos_lt] at hlive
  exact hlive.trans_le hexcused

/-- What is learned by way of an outdated answer is kept for its own lifetime at
most, which the lag of the next level allows for. -/
lemma covers_catchingUp (limits : Limits) (changed t : Instant) :
    (catchingUp limits changed t).Covers limits where
  serviceId ns svc shown hstale := by
    rintro ⟨c, hc, hshown⟩
    have hearly := lt_of_stale hstale
    have hdeadline := toNanos_deadline_le_of_shows hc hshown limits .serviceId
    simp only [catchingUp, Identity.kind, Limits.lag, Limits.ttl] at hearly hdeadline ⊢
    omega
  endpointSet ns svc shown hstale := by
    rintro ⟨c, hc, hshown⟩
    have hdeadline := toNanos_deadline_le_of_shows hc hshown limits .endpointSet
    rcases hstale with hstale | hstale
    · have hearly := lt_of_stale hstale
      simp only [catchingUp, Identity.kind, Limits.lag, Limits.ttl] at hearly hdeadline ⊢
      omega
    · have hearly := lt_of_stale hstale
      simp only [catchingUp, Identity.kind, Limits.lag, Limits.ttl] at hearly hdeadline ⊢
      omega

lemma timed_catchingUp (d : Directory) (settled : ρ → Prop) (limits : Limits) (changed : Instant) :
    Timed fun t => d.criteria settled (catchingUp limits changed t) where
  clocks_iff _ _ := Iff.rfl
  settled_mono _ h := h
  stores_mono _ h := h

/-- How long after a change the answer of an operation can be outdated. -/
def Op.lag (limits : Limits) : Op → ℕ
  | .namespaceRecord _ => limits.lag .namespaceRecord
  | .serviceId _ _ => limits.lag .serviceId
  | .endpoints _ _ => limits.lag .endpointSet
  | _ => 0

/-- The answer of an operation can be outdated for as long as all that it is
learned by way of. -/
lemma lag_le_of_mem_way (limits : Limits) {op : Op} {i : Identity} (h : i ∈ op.way) :
    limits.lag i.kind ≤ op.lag limits := by
  cases op with
  | namespaceRecord ns =>
      rw [Op.way, List.mem_singleton] at h
      rw [h]
      exact le_rfl
  | serviceId ns svc =>
      simp only [Op.way, List.mem_cons, List.not_mem_nil, or_false] at h
      rcases h with rfl | rfl <;> simp only [Op.lag, Limits.lag, Identity.kind] <;> omega
  | endpoints ns svc =>
      simp only [Op.way, List.mem_cons, List.not_mem_nil, or_false] at h
      rcases h with rfl | rfl | rfl <;> simp only [Op.lag, Limits.lag, Identity.kind] <;> omega
  | endpointsChanged | cache => cases h

/-- Take a run of ordinary operations from an empty cache on a clock that reads
true, on a registry that answers at will at first, and is settled on a
well-named directory after the operations of `before`, though single calls can
fail. From then on a lookup hands on a failure of the registry just when a call
of it failed, nothing else takes the place of an answer, and once the lag of its
kind is over, an answer is what comes of asking the directory anew. -/
theorem bearsOut_of_lag_le {settled : ρ → Prop} (hR : R.SettlesOn d settled) (hd : d.WellNamed)
    (limits : Limits) {clock : Clock} (hclock : clock.Accurate) (r : ρ) {before after : List Op}
    (hbefore : ∀ op ∈ before, op.Ordinary) (hafter : ∀ op ∈ after, op.Ordinary)
    (hsettled : settled (run R before ⟨Cache.empty limits clock, r⟩).state.registry) :
    let changed := (run R before ⟨Cache.empty limits clock, r⟩).state
    ∀ t ∈ Action.turns (act R) after changed,
      failures (act R t.1 t.2).trail = (act R t.1 t.2).answer.handedOn ∧
      ¬ (act R t.1 t.2).answer.Refused ∧
      ((now changed).toNanos + t.1.lag limits ≤ (now t.2).toNanos →
        d.BearsOut t.1 (act R t.1 t.2).answer) := by
  intro changed
  let C (t : Instant) : Criteria ρ := d.criteria settled (catchingUp limits (now changed) t)
  have hC : Timed C := timed_catchingUp d settled limits (now changed)
  have hmet (t : Instant) : (C t).Met R limits :=
    Directory.met_criteria hR hd (covers_catchingUp limits (now changed) t)
  -- Until the change, nothing but the deadlines of what is stored is known.
  have hstart : (stamped limits (now (⟨Cache.empty limits clock, r⟩ : Session ρ))).Holds limits
      ⟨Cache.empty limits clock, r⟩ := ⟨rfl, ⟨hclock, rfl⟩, trivial, nofun⟩
  have hstamped : (stamped limits (now changed)).Holds limits changed :=
    (Action.keeps_each (I := fun s => (stamped limits (now s)).Holds limits s)
      (fun op hop _ hs => holds_of_ordinary (timed_stamped limits) (met_stamped R limits)
        (hbefore op hop) hs) hstart).2
  have hchanged : (C (now changed)).Holds limits changed :=
    ⟨hstamped.limits_eq, hstamped.clock, hsettled, fun e he i hi =>
      .inr ((hstamped.stored e he i hi).trans
        (Nat.add_le_add_left (limits.lifetime_le_lag i.kind) _))⟩
  obtain ⟨hturns, -⟩ := Action.keeps_each (I := fun s => (C (now s)).Holds limits s)
    (fun op hop _ hs => holds_of_ordinary hC hmet (hafter op hop) hs) hchanged
  rintro ⟨op, s⟩ ht
  have hof_client (hclient : op.OfClient) :
      failures (act R op s).trail = (act R op s).answer.handedOn ∧
      ¬ (act R op s).answer.Refused ∧
      ((now changed).toNanos + op.lag limits ≤ (now s).toNanos →
        d.BearsOut op (act R op s).answer) := by
    have hkept := Criteria.kept_of_client (hmet (now s)) (hturns _ ht) hclient
    have hsteady (c : Clock) (hc : (C (now s)).clocks c) : c.Steady :=
      ((hC.clocks_iff _ c).mp hc).1.steady
    refine ⟨hkept.failures_eq, Criteria.not_refused_of_accepts hkept.accepts
      (Criteria.not_refuses_of_steady hsteady), fun hlate => ?_⟩
    refine bearsOut_of_accepts hkept.accepts fun i hi hstale => ?_
    have hearly := lt_of_stale hstale
    have hlag := lag_le_of_mem_way limits hi
    omega
  cases op with
  | cache op => exact ⟨Criteria.failures_act_cache R op s, id, fun _ => trivial⟩
  | namespaceRecord | serviceId | endpoints | endpointsChanged => exact hof_client trivial

/-- A registry that first answers with a namespace of another name, and then that
there is none: two minutes later, the other name is looked up anew. -/
theorem bearsOut_of_lag_le_misnamed :
    let d : Directory := ⟨fun _ => none, fun _ _ => none, fun _ _ => []⟩
    let R : Registry Bool String :=
      { findNamespace := fun _ changed =>
          (.ok (if changed then none else some ⟨"ns-1", "b", .http⟩), true)
        findServiceId := fun _ _ changed => (.ok none, changed)
        listEndpoints := fun _ _ changed => (.ok [], changed) }
    let changed := (run R [.namespaceRecord "a"] ⟨Cache.empty .standard .start, false⟩).state
    let s := (act R (.cache (.direct (.advance (.ofSecs 120)))) changed).state
    d.BearsOut (.namespaceRecord "b") (act R (.namespaceRecord "b") s).answer := by
  intro d R changed s
  have hR : R.SettlesOn d (· = true) := by
    refine ⟨fun ns r hr => ⟨rfl, fun a ha => ?_⟩, fun _ _ r hr => ⟨hr, fun a ha => ?_⟩,
      fun _ _ r hr => ⟨hr, fun a ha => ?_⟩⟩
    · subst hr
      exact (Except.ok.inj ha).symm
    · exact (Except.ok.inj ha).symm
    · exact (Except.ok.inj ha).symm
  have hbefore : ∀ op ∈ [Op.namespaceRecord "a"], op.Ordinary := by simp [Op.Ordinary]
  have hafter : ∀ op ∈ [Op.cache (.direct (.advance (.ofSecs 120))), .namespaceRecord "b"],
      op.Ordinary := by simp [Op.Ordinary]
  have hturn := bearsOut_of_lag_le hR nofun .standard Clock.accurate_start false
    hbefore hafter rfl (.namespaceRecord "b", s) (by simp [s, changed])
  exact hturn.2.2 (by decide)

end Lookup

end Discovery
