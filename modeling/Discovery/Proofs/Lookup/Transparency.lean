import Discovery.Lookup.Direct
import Discovery.Proofs.Lookup.Criteria
/-!
Lookups answer as if there were no cache.

* `Directory.Agrees`: a payload is what a directory tells of an identity;
* `Directory.criteria`, `Directory.met_criteria`: storing what agrees, and what
  is excused until a deadline, and answering what agrees unless something that
  is excused may still be live;
* `Directory.BearsOut`: an answer is what comes of asking the directory anew;
* `Lookup.bearsOut_of_accepts`: answers that meet the criteria are borne out
  where nothing that is excused can be live;
* `Lookup.Coherent`, `Lookup.Op.Truthful`: what is stored agrees with the
  directory, and an operation writes nothing else;
* `Lookup.sound_of_coherent`, `Lookup.sound_of_follows`: from a coherent session,
  every answer of a run is borne out, and every failure is that of a call.
-/

namespace Discovery

variable {ρ ε : Type} {R : Registry ρ ε} {d : Directory} {s : Session ρ} {limits : Limits}

namespace Directory

/-! ### What may be stored -/

/-- A payload is what a directory tells of an identity. One of another kind says
nothing of it. -/
def Agrees (d : Directory) : Identity → Payload → Prop
  | .namespaceRecord ns, .namespaceRecord record => record = d.namespaceRecord ns
  | .serviceId ns svc, .serviceId id => d.serviceId ns svc = some id
  | .endpointSet ns svc, .endpointSet listed => listed = d.endpointSet ns svc
  | _, _ => True

/-- A payload of another kind than the identity agrees with any directory. -/
lemma agrees_of_kind_ne {i : Identity} {p : Payload} (h : p.kind ≠ i.kind) : d.Agrees i p := by
  cases i <;> cases p <;> first | exact absurd rfl h | trivial

/-- What may be stored besides what agrees, by identity and deadline, and the
clocks that there may be meanwhile. -/
structure Leeway where
  clocks : Clock → Prop
  clocks_read : ∀ c, clocks c → clocks c.read.2
  excused : Identity → Instant → Prop

namespace Leeway

/-- An instant that the clock may show. -/
def Shows (l : Leeway) (t : Instant) : Prop := ∃ c, l.clocks c ∧ c.read.1 = .ok t

/-- Something that is excused may be live. -/
def Stale (l : Leeway) (i : Identity) : Prop :=
  ∃ t deadline, l.Shows t ∧ t < deadline ∧ l.excused i deadline

/-- What is learned by way of an answer that may be stale is excused too. -/
structure Covers (l : Leeway) (limits : Limits) : Prop where
  serviceId : ∀ ns svc t, l.Stale (.namespaceRecord ns) → l.Shows t →
    l.excused (.serviceId ns svc) (Store.deadline t limits.serviceTtl)
  endpointSet : ∀ ns svc t, l.Stale (.serviceId ns svc) ∨ l.Stale (.namespaceRecord ns) →
    l.Shows t → l.excused (.endpointSet ns svc) (Store.deadline t limits.endpointTtl)

end Leeway

/-- What agrees with a directory, and what is excused; and the answers of the
directory, unless something that is excused may be live on the way to them. -/
def criteria (d : Directory) (settled : ρ → Prop) (l : Leeway) : Criteria ρ where
  clocks := l.clocks
  clocks_read := l.clocks_read
  settled := settled
  stores i p deadline := d.Agrees i p ∨ l.excused i deadline
  namespaceRecord ns known := known = d.namespaceRecord ns ∨ l.Stale (.namespaceRecord ns)
  serviceId ns svc known := known = d.serviceId ns svc ∨
    l.Stale (.serviceId ns svc) ∨ l.Stale (.namespaceRecord ns)
  endpoints ns svc listed := listed = d.endpointSet ns svc ∨
    l.Stale (.endpointSet ns svc) ∨ l.Stale (.serviceId ns svc) ∨ l.Stale (.namespaceRecord ns)

variable {settled : ρ → Prop} {l : Leeway}

/-- What a hit shows agrees, or something excused may be live. -/
lemma agrees_or_stale {i : Identity} {p : Payload} (h : (d.criteria settled l).Hits i p) :
    d.Agrees i p ∨ l.Stale i := by
  obtain ⟨t, deadline, hshows, hlive, hagrees | hexcused⟩ := h
  · exact .inl hagrees
  · exact .inr ⟨t, deadline, hshows, hlive, hexcused⟩

/-- A registry that settles on a well-named directory meets these criteria. -/
lemma met_criteria (hR : R.SettlesOn d settled) (hd : d.WellNamed) (hl : l.Covers limits) :
    (d.criteria settled l).Met R limits where
  settled_findNamespace ns r hr := (hR.findNamespace ns r hr).1
  settled_findServiceId record svc r hr := (hR.findServiceId record svc r hr).1
  settled_listEndpoints ns id r hr := (hR.listEndpoints ns id r hr).1
  namespace_of_hit ns known h := agrees_or_stale h
  namespace_some ns r record hr h := by
    have hrecord := (hR.findNamespace ns r hr).2 _ h
    obtain rfl : record.name = ns := hd ns record hrecord.symm
    exact ⟨.inl hrecord, fun t _ => .inl hrecord⟩
  namespace_none ns r hr h := by
    have hnone := (hR.findNamespace ns r hr).2 _ h
    exact ⟨.inl hnone, fun t _ => .inl hnone⟩
  serviceId_of_hit ns svc id h := by
    rcases agrees_or_stale h with hagrees | hstale
    · exact .inl hagrees.symm
    · exact .inr (.inl hstale)
  serviceId_of_none ns svc h := by
    rcases h with hnone | hstale
    · exact .inl (serviceId_of_none hnone.symm).symm
    · exact .inr (.inr hstale)
  serviceId_some ns svc r record id h hr hid := by
    have hid := (hR.findServiceId record svc r hr).2 _ hid
    rcases h with hrecord | hstale
    · have hagrees : d.serviceId ns svc = some id := (serviceId_of_some hrecord.symm).trans hid.symm
      exact ⟨.inl hagrees.symm, fun t _ => .inl hagrees⟩
    · exact ⟨.inr (.inr hstale), fun t ht => .inr (hl.serviceId ns svc t hstale ht)⟩
  serviceId_none ns svc r record h hr hid := by
    have hid := (hR.findServiceId record svc r hr).2 _ hid
    rcases h with hrecord | hstale
    · exact .inl (hid.trans (serviceId_of_some hrecord.symm).symm)
    · exact .inr (.inr hstale)
  endpoints_of_hit ns svc listed h := by
    rcases agrees_or_stale h with hagrees | hstale
    · exact .inl hagrees
    · exact .inr (.inl hstale)
  endpoints_of_none ns svc h := by
    rcases h with hnone | hstale
    · exact .inl (endpointSet_of_none hnone.symm).symm
    · exact .inr (.inr hstale)
  endpoints_listed ns svc r id listed h hr hlisted := by
    have hlisted := (hR.listEndpoints ns id r hr).2 _ hlisted
    rcases h with hid | hstale
    · have hagrees := hlisted.trans (endpointSet_of_some hid.symm).symm
      exact ⟨.inl hagrees, fun t _ => .inl hagrees⟩
    · exact ⟨.inr (.inr hstale), fun t ht => .inr (hl.endpointSet ns svc t hstale ht)⟩

/-! ### What is answered -/

/-- An answer that a directory bears out: if a lookup has one, it is what comes of
asking anew. -/
def BearsOut (d : Directory) : Lookup.Op → Lookup.Answer ε → Prop
  | .namespaceRecord ns, .namespaceRecord a => ∀ known, a = .ok known → known = d.namespaceRecord ns
  | .serviceId ns svc, .serviceId a => ∀ known, a = .ok known → known = d.serviceId ns svc
  | .endpoints ns svc, .endpoints a => ∀ listed, a = .ok listed → listed = d.endpointSet ns svc
  | .endpointsChanged _ _, .done => True
  | .cache _, .cache _ => True
  | _, _ => False

end Directory

namespace Lookup

/-- The identities that the answer of an operation is learned by way of. -/
def Op.way : Op → List Identity
  | .namespaceRecord ns => [.namespaceRecord ns]
  | .serviceId ns svc => [.serviceId ns svc, .namespaceRecord ns]
  | .endpoints ns svc => [.endpointSet ns svc, .serviceId ns svc, .namespaceRecord ns]
  | _ => []

/-- An answer that meets the criteria is borne out if nothing that is excused can
be live on the way to it. -/
lemma bearsOut_of_accepts {settled : ρ → Prop} {l : Directory.Leeway} {op : Op} {a : Answer ε}
    (h : (d.criteria settled l).Accepts op a) (hfresh : ∀ i ∈ op.way, ¬ l.Stale i) :
    d.BearsOut op a := by
  cases op with
  | namespaceRecord ns =>
      cases a with
      | namespaceRecord a =>
          rintro known rfl
          exact h.resolve_right (hfresh _ (by simp [Op.way]))
      | serviceId | endpoints | done | cache => exact h
  | serviceId ns svc =>
      cases a with
      | serviceId a =>
          rintro known rfl
          simp only [Op.way, List.forall_mem_cons] at hfresh
          obtain ⟨hid, hrecord, -⟩ := hfresh
          exact h.resolve_right (not_or.mpr ⟨hid, hrecord⟩)
      | namespaceRecord | endpoints | done | cache => exact h
  | endpoints ns svc =>
      cases a with
      | endpoints a =>
          rintro listed rfl
          simp only [Op.way, List.forall_mem_cons] at hfresh
          obtain ⟨hlisted, hid, hrecord, -⟩ := hfresh
          exact h.resolve_right (not_or.mpr ⟨hlisted, not_or.mpr ⟨hid, hrecord⟩⟩)
      | namespaceRecord | serviceId | done | cache => exact h
  | endpointsChanged | cache => cases a <;> exact h

/-! ### A cache that agrees with the directory -/

/-- An operation that writes to the cache nothing that a lookup could take for
another answer than that of the directory. -/
def Op.Truthful (d : Directory) : Op → Prop
  | .cache (.request r) => ∀ p, r.effect = .writes p → d.Agrees r.identity p
  | .cache (.direct (.add key p _)) => ∀ i : Identity, key = i.key → d.Agrees i p
  | _ => True

/-- Something of another kind than its key can be written at will. -/
lemma truthful_of_kind_ne {key : Key} {p : Payload} (h : p.kind ≠ key.kind) (ttl : Duration) :
    (Op.cache (.direct (.add key p ttl))).Truthful d := by
  rintro i rfl
  exact Directory.agrees_of_kind_ne h

/-- A truthful operation on the cache writes nothing but what may be stored. -/
lemma allows_of_truthful {settled : ρ → Prop} {l : Directory.Leeway} {op : Cache.Op}
    (h : (Op.cache op).Truthful d) : (d.criteria settled l).Allows limits op := by
  rcases op with r | (_ | _ | _ | _ | _)
  · exact fun p hp t _ => .inl (h p hp)
  · exact fun i hi t _ => .inl (h i hi)
  all_goals trivial

/-- All that is stored for an identity, and is of its kind, agrees with the
directory. -/
def Coherent (d : Directory) (s : Session ρ) : Prop :=
  ∀ e ∈ s.cache.store.entries, ∀ i : Identity, e.key = i.key → d.Agrees i e.value

/-- No leeway at all, on any clock, or, if `P` holds, on those that refuse
nothing. -/
def noLeeway (P : Prop) : Directory.Leeway where
  clocks c := P → c.Steady
  clocks_read _ hc hP := (hc hP).read.2
  excused _ _ := False

lemma not_stale_noLeeway (P : Prop) (i : Identity) : ¬ (noLeeway P).Stale i := by
  rintro ⟨t, deadline, -, -, hexcused⟩
  exact hexcused

lemma covers_noLeeway (P : Prop) (limits : Limits) : (noLeeway P).Covers limits where
  serviceId _ _ _ hstale := absurd hstale (not_stale_noLeeway P _)
  endpointSet _ _ _ hstale := (hstale.elim (not_stale_noLeeway P _) (not_stale_noLeeway P _)).elim

/-- What an operation comes to from a coherent session. -/
structure Sound (d : Directory) (R : Registry ρ ε) (op : Op) (s : Session ρ) : Prop where
  coherent : Coherent d (act R op s).state
  bearsOut : d.BearsOut op (act R op s).answer
  failures_eq : failures (act R op s).trail = (act R op s).answer.handedOn
  not_refused : s.cache.store.clock.Steady → ¬ (act R op s).answer.Refused

/-- Kept without leeway, a coherent session stays coherent and the answer is borne
out. -/
lemma coherent_of_kept {P : Prop} {op : Op}
    (h : (d.criteria (fun _ => True) (noLeeway P)).Kept limits R op s) :
    Coherent d (act R op s).state ∧ d.BearsOut op (act R op s).answer :=
  ⟨fun e he i hi => (h.holds.stored e he i hi).resolve_right id,
    bearsOut_of_accepts h.accepts fun i _ => not_stale_noLeeway P i⟩

/-- A coherent session meets the criteria without leeway. -/
lemma Coherent.holds (hs : Coherent d s) {P : Prop} (hP : P → s.cache.store.clock.Steady) :
    (d.criteria (fun _ => True) (noLeeway P)).Holds s.cache.limits s :=
  ⟨rfl, hP, trivial, fun e he i hi => .inl (hs e he i hi)⟩

/-- A truthful operation is sound from a coherent session. -/
lemma sound_of_coherent (hR : R.Follows d) (hd : d.WellNamed) (hs : Coherent d s) {op : Op}
    (hop : op.Truthful d) : Sound d R op s := by
  have hclient (hclient : op.OfClient) : Sound d R op s := by
    have hkept := Criteria.kept_of_client
      (Directory.met_criteria hR.settlesOn hd (covers_noLeeway s.cache.store.clock.Steady _))
      (hs.holds id) hclient
    obtain ⟨hcoherent, hbears⟩ := coherent_of_kept hkept
    refine ⟨hcoherent, hbears, hkept.failures_eq, fun hsteady => ?_⟩
    exact Criteria.not_refused_of_accepts hkept.accepts
      (Criteria.not_refuses_of_steady fun c hc => hc hsteady)
  cases op with
  | cache op =>
      have hkept := Criteria.kept_of_cache (R := R) (fun _ hfalse => hfalse.elim)
        (hs.holds False.elim) (allows_of_truthful hop)
      obtain ⟨hcoherent, hbears⟩ := coherent_of_kept hkept
      exact ⟨hcoherent, hbears, hkept.failures_eq, fun _ => id⟩
  | namespaceRecord | serviceId | endpoints | endpointsChanged => exact hclient trivial

/-- Take a registry that follows a well-named directory, though any call of it
may fail, and a session in which all that is stored for an identity, and is of
its kind, agrees with the directory. In every run of lookups, and of operations
on the cache that write nothing else, whatever the clock is made to show:

* an answer is what comes of asking the directory anew;
* a lookup hands on a failure of the registry just when a call of it failed, and
  then that very failure;
* nothing else takes the place of an answer unless the clock refuses a
  reading. -/
theorem sound_of_follows (hR : R.Follows d) (hd : d.WellNamed) (hs : Coherent d s) {ops : List Op}
    (hops : ∀ op ∈ ops, op.Truthful d) :
    ∀ t ∈ Action.turns (act R) ops s, d.BearsOut t.1 (act R t.1 t.2).answer ∧
      failures (act R t.1 t.2).trail = (act R t.1 t.2).answer.handedOn ∧
      (t.2.cache.store.clock.Steady → ¬ (act R t.1 t.2).answer.Refused) := by
  have hkeeps : ∀ op ∈ ops, ∀ s' : Session ρ, Coherent d s' → Coherent d (act R op s').state :=
    fun op hop _ hs' => (sound_of_coherent hR hd hs' (hops op hop)).coherent
  obtain ⟨hturns, -⟩ := Action.keeps_each hkeeps hs
  intro t ht
  have hsound := sound_of_coherent hR hd (hturns t ht) (hops t.1 (Action.mem_of_mem_turns ht))
  exact ⟨hsound.bearsOut, hsound.failures_eq, hsound.not_refused⟩

/-- A single namespace with a service that has an id and no endpoints: the lookups
see through an entry of the wrong kind and a reading that is off. -/
theorem sound_of_follows_single :
    let d : Directory := ⟨fun ns => if ns = "a" then some ⟨"ns-1", "a", .http⟩ else none,
      fun _ _ => some "srv-1", fun _ _ => []⟩
    let ops : List Op := [.cache (.direct (.add (Identity.serviceId "a" "b").key
        (.endpointSet []) (.ofSecs 60))), .cache (.direct (.misread [-1])),
      .endpoints "a" "b", .serviceId "a" "b"]
    ∀ t ∈ Action.turns (act (d.registry String)) ops ⟨Cache.empty .standard .start, ()⟩,
      d.BearsOut t.1 (act (d.registry String) t.1 t.2).answer ∧
        failures (act (d.registry String) t.1 t.2).trail =
          (act (d.registry String) t.1 t.2).answer.handedOn ∧
        (t.2.cache.store.clock.Steady →
          ¬ (act (d.registry String) t.1 t.2).answer.Refused) := by
  intro d ops
  have hd : d.WellNamed := by
    intro ns record h
    obtain ⟨rfl, rfl⟩ : ns = "a" ∧ record = ⟨"ns-1", "a", .http⟩ := by simpa [d, eq_comm] using h
    rfl
  have hcoherent : Coherent d ⟨Cache.empty .standard .start, ()⟩ := nofun
  have hops : ∀ op ∈ ops, op.Truthful d := by
    have hwrong : (Op.cache (.direct (.add (Identity.serviceId "a" "b").key (.endpointSet [])
        (.ofSecs 60)))).Truthful d := truthful_of_kind_ne (by decide) _
    simpa [ops, Op.Truthful] using hwrong
  exact sound_of_follows (d.follows_registry String) hd hcoherent hops

end Lookup

end Discovery
