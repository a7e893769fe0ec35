import Discovery.Proofs.Cache.Glance
import Discovery.Proofs.Lookup.Transparency
/-!
Endpoints that are known to have changed are not answered any more as they were.

* `Directory.Relists`: two directories that differ at most in the endpoints that
  they list;
* `Lookup.untold`: endpoint sets that may be outdated, for as long as it is not told
  that they have changed;
* `Lookup.holds_run`, `Lookup.holds_of_relists`, `Lookup.holds_evicted`: no
  operation stores anything that is outdated, a change of the listings makes
  endpoint sets outdated at most, and one that is told of is outdated no more;
* `Lookup.alike_endpointsChanged`: to tell of an endpoint set drops its entry and no
  other one;
* `Lookup.bearsOut_of_endpointsChanged`: from then on its endpoints are answered as
  the directory lists them now.
-/

namespace Discovery

variable {ρ σ ε : Type} {R : Registry ρ ε} {d d' : Directory} {s : Session ρ} {limits : Limits}
  {i : Identity} {p : Payload} {ns svc : String}

namespace Directory

/-! ### Changes of the listings -/

/-- The second directory differs from the first one at most in the endpoints that it
lists. -/
structure Relists (d d' : Directory) : Prop where
  namespaceRecord_eq : d'.namespaceRecord = d.namespaceRecord
  idWithin_eq : d'.idWithin = d.idWithin

lemma Relists.wellNamed (h : d.Relists d') (hd : d.WellNamed) : d'.WellNamed := by
  intro ns record hrecord
  rw [h.namespaceRecord_eq] at hrecord
  exact hd ns record hrecord

/-- Of all but endpoint sets both tell the same. -/
lemma Relists.agrees (h : d.Relists d') (hi : i.kind ≠ .endpointSet) (hp : d.Agrees i p) :
    d'.Agrees i p := by
  have hserviceId (ns svc : String) : d'.serviceId ns svc = d.serviceId ns svc := by
    rw [serviceId, serviceId, h.namespaceRecord_eq, h.idWithin_eq]
  cases i with
  | namespaceRecord ns =>
      cases p with
      | namespaceRecord record => exact hp.trans (congrFun h.namespaceRecord_eq.symm ns)
      | serviceId | endpointSet => trivial
  | serviceId ns svc =>
      cases p with
      | serviceId id => exact (hserviceId ns svc).trans hp
      | namespaceRecord | endpointSet => trivial
  | endpointSet ns svc => exact absurd rfl hi

end Directory

namespace Lookup

/-! ### What may be outdated -/

/-- On any clock, the endpoint sets may be outdated that it is not told of that they
have changed. -/
def untold (told : Set Identity) : Directory.Leeway where
  clocks _ := True
  clocks_read _ _ := trivial
  excused i _ := i.kind = .endpointSet ∧ i ∉ told

variable {told : Set Identity}

/-- What may be live though it is outdated is an endpoint set that was not told of. -/
lemma kind_of_stale (h : (untold told).Stale i) : i.kind = .endpointSet ∧ i ∉ told := by
  obtain ⟨_, _, _, _, hexcused⟩ := h
  exact hexcused

/-- No identity is learned by way of endpoints, so nothing outdated is learned from. -/
lemma covers_untold (told : Set Identity) (limits : Limits) : (untold told).Covers limits where
  serviceId _ _ _ hstale := absurd (kind_of_stale hstale).1 nofun
  endpointSet _ _ _ hstale :=
    (hstale.elim (fun h => absurd (kind_of_stale h).1 nofun)
      fun h => absurd (kind_of_stale h).1 nofun)

/-- A truthful operation stores nothing that is outdated. -/
lemma kept_of_truthful (hR : R.Follows d) (hd : d.WellNamed)
    (hs : (d.criteria (fun _ => True) (untold told)).Holds limits s) {op : Op}
    (hop : op.Truthful d) : (d.criteria (fun _ => True) (untold told)).Kept limits R op s := by
  have hmet := Directory.met_criteria hR.settlesOn hd (covers_untold told limits)
  cases op with
  | cache op => exact Criteria.kept_of_cache (fun _ => trivial) hs (allows_of_truthful hop)
  | namespaceRecord | serviceId | endpoints | endpointsChanged =>
      exact Criteria.kept_of_client hmet hs trivial

/-- Neither does a run of them, at any turn. -/
lemma holds_run (hR : R.Follows d) (hd : d.WellNamed) {ops : List Op}
    (hops : ∀ op ∈ ops, op.Truthful d)
    (hs : (d.criteria (fun _ => True) (untold told)).Holds limits s) :
    (∀ t ∈ Action.turns (act R) ops s,
      (d.criteria (fun _ => True) (untold told)).Holds limits t.2) ∧
    (d.criteria (fun _ => True) (untold told)).Holds limits (run R ops s).state :=
  Action.keeps_each (I := fun s => (d.criteria (fun _ => True) (untold told)).Holds limits s)
    (fun op hop _ hs => (kept_of_truthful hR hd hs (hops op hop)).holds) hs

/-- A change of the listings makes nothing outdated but endpoint sets, whatever the
state of the registry is then. -/
lemma holds_of_relists (hs : Coherent d s) (h : d.Relists d') (r : σ) :
    (d'.criteria (fun _ => True) (untold ∅)).Holds s.cache.limits ⟨s.cache, r⟩ := by
  refine ⟨rfl, trivial, trivial, fun e he i hi => ?_⟩
  by_cases hkind : i.kind = .endpointSet
  · exact .inr ⟨hkind, Set.notMem_empty i⟩
  · exact .inl (h.agrees hkind (hs e he i hi))

/-! ### Telling of a change -/

/-- All that telling of an endpoint set does to a session. -/
lemma state_endpointsChanged (R : Registry ρ ε) (ns svc : String) (s : Session ρ) :
    (act R (.endpointsChanged ns svc) s).state = { s with cache :=
      { s.cache with store := s.cache.store.remove (Identity.endpointSet ns svc).key } } := rfl

/-- To tell of an endpoint set drops its entry, and does nothing else but for the
tally. -/
lemma alike_endpointsChanged (R : Registry ρ ε) (ns svc : String) (s : Session ρ) :
    Cache.Alike { s.cache with store := { s.cache.store with
        entries := s.cache.store.others (Identity.endpointSet ns svc).key } }
      (act R (.endpointsChanged ns svc) s).state.cache := by
  rw [state_endpointsChanged]
  simp only [Cache.Alike, Cache.takeCount, Store.takeCount, Store.settle, Store.count,
    Store.entries_remove, Store.clock_remove, Store.capacity_remove]
  rw [Store.remove]
  split <;> rfl

/-- An endpoint set that is told of is outdated no more. -/
lemma holds_evicted (hs : (d.criteria (fun _ => True) (untold told)).Holds limits s) :
    (d.criteria (fun _ => True) (untold (insert (.endpointSet ns svc) told))).Holds limits
      (act R (.endpointsChanged ns svc) s).state := by
  rw [state_endpointsChanged]
  refine ⟨hs.limits_eq, trivial, trivial, fun e he i hi => ?_⟩
  obtain ⟨hmem, hkey⟩ := Store.mem_entries_remove he
  rcases hs.stored e hmem i hi with hagrees | ⟨hkind, htold⟩
  · exact .inl hagrees
  · refine .inr ⟨hkind, ?_⟩
    rintro (rfl | h)
    · exact hkey hi
    · exact htold h

/-- Everything else is found as before. -/
lemma find?_endpointsChanged (R : Registry ρ ε) (s : Session ρ) (hi : i ≠ .endpointSet ns svc) :
    (act R (.endpointsChanged ns svc) s).state.cache.store.find? i.key =
      s.cache.store.find? i.key := by
  rw [Store.find?, (alike_endpointsChanged R ns svc s).entries_eq]
  exact Cache.find?_others s.cache.store fun h => hi (Identity.key_injective h)

/-! ### Answers after the change -/

/-- Take a run of lookups from an empty cache on a registry that follows a well-named
directory, and go on with it on a registry that follows a directory with other
listings of endpoints; any call may fail, and the clock can be made to show anything.
Once it is told that the endpoints of a service have changed, every answer for them is
what comes of asking the new directory anew, however the run goes on. To tell of them
drops what is stored for them and nothing else: all other entries are left as they are
and in the order in which they were, and everything else is found as before. -/
theorem bearsOut_of_endpointsChanged {R₀ : Registry ρ ε} {R₁ : Registry σ ε}
    (hR₀ : R₀.Follows d) (hR₁ : R₁.Follows d') (hd : d.WellNamed) (h : d.Relists d')
    (limits : Limits) (clock : Clock) (r₀ : ρ) (r₁ : σ) {before between after : List Op}
    (hbefore : ∀ op ∈ before, op.Truthful d) (hbetween : ∀ op ∈ between, op.Truthful d')
    (hafter : ∀ op ∈ after, op.Truthful d') (ns svc : String) :
    let changed := (run R₀ before ⟨Cache.empty limits clock, r₀⟩).state
    let informed := (run R₁ between ⟨changed.cache, r₁⟩).state
    let evicted := (act R₁ (.endpointsChanged ns svc) informed).state
    (∀ t ∈ Action.turns (act R₁) after evicted, t.1 = .endpoints ns svc →
      d'.BearsOut t.1 (act R₁ t.1 t.2).answer) ∧
    Cache.Alike { informed.cache with store := { informed.cache.store with
      entries := informed.cache.store.others (Identity.endpointSet ns svc).key } } evicted.cache ∧
    ∀ i : Identity, i ≠ .endpointSet ns svc →
      evicted.cache.store.find? i.key = informed.cache.store.find? i.key := by
  intro changed informed evicted
  have hempty : Coherent d ⟨Cache.empty limits clock, r₀⟩ := nofun
  have hcoherent : Coherent d changed :=
    (Action.keeps_each (I := Coherent d)
      (fun op hop _ hs => (sound_of_coherent hR₀ hd hs (hbefore op hop)).coherent) hempty).2
  have hd' : d'.WellNamed := h.wellNamed hd
  have hinformed : (d'.criteria (fun _ => True) (untold ∅)).Holds changed.cache.limits informed :=
    (holds_run hR₁ hd' hbetween (holds_of_relists hcoherent h r₁)).2
  have hevicted : (d'.criteria (fun _ => True) (untold (insert (.endpointSet ns svc) ∅))).Holds
      changed.cache.limits evicted := holds_evicted hinformed
  have hturns := (holds_run hR₁ hd' hafter hevicted).1
  refine ⟨?_, alike_endpointsChanged R₁ ns svc informed,
    fun i hi => find?_endpointsChanged R₁ informed hi⟩
  rintro ⟨op, s⟩ ht rfl
  have hkept := kept_of_truthful hR₁ hd' (hturns _ ht) (hafter _ (Action.mem_of_mem_turns ht))
  refine bearsOut_of_accepts hkept.accepts fun i hi hstale => ?_
  obtain ⟨hkind, htold⟩ := kind_of_stale hstale
  simp only [Op.way, List.mem_cons, List.not_mem_nil, or_false] at hi
  rcases hi with rfl | rfl | rfl
  · exact htold (Set.mem_insert _ _)
  · cases hkind
  · cases hkind

/-- The endpoints of a service were learned when there were none. They are answered so
even though one is listed now, until it is told that they have changed. -/
theorem bearsOut_of_endpointsChanged_listed :
    let listing (listed : List Endpoint) : Directory :=
      ⟨fun ns => if ns = "a" then some ⟨"ns-1", "a", .http⟩ else none, fun _ _ => some "srv-1",
        fun _ _ => listed⟩
    let d := listing []
    let d' := listing [.new "one" "10.0.0.1" 80]
    let changed := (run (d.registry String) [.endpoints "a" "b:c"]
      ⟨Cache.empty .standard .start, ()⟩).state
    let evicted := (act (d'.registry String) (.endpointsChanged "a" "b:c") changed).state
    (endpoints (d'.registry String) "a" "b:c" changed).answer = .ok [] ∧
    ∀ t ∈ Action.turns (act (d'.registry String)) [.endpoints "a" "b:c"] evicted,
      t.1 = .endpoints "a" "b:c" → d'.BearsOut t.1 (act (d'.registry String) t.1 t.2).answer := by
  intro listing d d' changed evicted
  have hd : d.WellNamed := by
    intro ns record h
    obtain ⟨rfl, rfl⟩ : ns = "a" ∧ record = ⟨"ns-1", "a", .http⟩ := by
      simpa [d, listing, eq_comm] using h
    rfl
  have hlookup (d : Directory) : ∀ op ∈ [Op.endpoints "a" "b:c"], op.Truthful d := by
    simp [Op.Truthful]
  have hnone : ∀ op ∈ ([] : List Op), op.Truthful d' := by simp
  have hrelists : d.Relists d' := ⟨rfl, rfl⟩
  have hrun := bearsOut_of_endpointsChanged (d.follows_registry String)
    (d'.follows_registry String) hd hrelists .standard .start () () (hlookup d) hnone (hlookup d')
    "a" "b:c"
  exact ⟨by decide, hrun.1⟩

end Lookup

end Discovery
