import Discovery.Proofs.Lookup.Course
/-!
Lookups that fail, and are made again.

* `Lookup.Course.exists_sight`: what a lookup answers is in sight afterwards;
* `Lookup.Course.eq_append_of_error`: a lookup fails with its last call, and with
  no other;
* `Lookup.Course.resumes`: made again on the cache that it left, it begins with the
  very question that failed;
* `Lookup.resumes_of_error`: the same of the operations of a session, with all that
  a failed one changes.
-/

namespace Discovery.Lookup

variable {ρ ε : Type} {R R' : Registry ρ ε} {c c' c₂ : Cache} {r r' r₂ r₂' : ρ} {i j : Identity}
  {way : List Identity} {calls calls₂ answered : List (Identity × Exchange ε)}
  {a a₂ : Result ε (Option Payload)} {x : Exchange ε} {below p : Option Payload} {q : Query}
  {t : Trouble ε}

/-! ### Asking again -/

/-- A key under which nothing is found, and which is not looked up, stays so. -/
lemma Course.find?_eq_none (h : Course R way c r calls c' r' a) (hR : R.WellNamed)
    (hc : c.store.clock.Accurate) (hj : j ∉ way) (hnone : c.store.find? j.key = none) :
    c'.store.find? j.key = none := by
  induction h with
  | top => exact hnone
  | hit =>
      rw [List.mem_cons, not_or] at hj
      rwa [Cache.find?_glance_of_ne (Ne.symm hj.1)]
  | stuck hsight hbelow ih | idle hsight hbelow hquery ih
  | failed hsight hbelow hquery hpose hanswer ih =>
      rw [List.mem_cons, not_or] at hj
      exact ih (by simpa using hc) hj.2 (by rwa [Cache.find?_glance_of_ne (Ne.symm hj.1)])
  | learned hsight hbelow hquery hpose hanswer ih =>
      rw [List.mem_cons, not_or] at hj
      have hbefore := ih (by simpa using hc) hj.2 (by rwa [Cache.find?_glance_of_ne (Ne.symm hj.1)])
      have hclock := (hbelow.limits_clock (by simpa using hc)).2
      rw [Cache.clock_glance] at hclock
      obtain ⟨-, hheed⟩ | ⟨v, -, -, hheed⟩ := heed_lesson? hR hquery hpose hanswer _
      · rwa [hheed]
      · rw [hheed]
        exact Cache.find?_put_of_eq_none (hclock ▸ hc) (Ne.symm hj.1) hbefore

/-- What a lookup answers is in sight afterwards, if there is room for it and it is
more than that there is nothing to ask for. -/
lemma Course.exists_sight (h : Course R (i :: way) c r calls c' r' (.ok p)) (hR : R.WellNamed)
    (hc : c.store.clock.Accurate) (hroom : 0 < c'.store.capacity)
    (hlasting : Cache.Lasting c.limits c.store.clock.now) {v : Payload} (hp : p = some v)
    (hmore : i.fallback? ≠ some v) : ∃ e, c'.sight i = some e ∧ e.value = v := by
  generalize ha : (Except.ok p : Result ε (Option Payload)) = a at h
  cases h with
  | stuck | failed => cases ha
  | @hit i way c r e hsight =>
      cases ha
      exact ⟨e, Cache.sight_glance_of_some hsight, Option.some_inj.mp hp⟩
  | idle =>
      cases ha
      exact absurd hp hmore
  | learned hsight hbelow hquery hpose hanswer =>
      cases ha
      obtain ⟨hlimits, hclock⟩ := hbelow.limits_clock (by simpa using hc)
      rw [Cache.limits_glance] at hlimits
      rw [Cache.clock_glance] at hclock
      obtain ⟨hnone, -⟩ | ⟨v', hv', hkind, hheed⟩ := heed_lesson? hR hquery hpose hanswer _
      · cases hnone.symm.trans hp
      · obtain rfl : v' = v := Option.some_inj.mp (hv'.symm.trans hp)
        rw [hheed] at hroom ⊢
        rw [Cache.state_put, Store.capacity_add] at hroom
        refine ⟨_, Cache.sight_put (hclock ▸ hc) hroom ?_ hkind, rfl⟩
        rw [hlimits, hclock]
        exact hlasting

/-- Where nothing is found for an identity, a lookup takes a course from the same
cache by way of the others, and asks for it at most after that. -/
lemma Course.exists_below (h : Course R (i :: way) c r calls c' r' a)
    (hnone : c.store.find? i.key = none) :
    ∃ calls₁ c₁ r₁ a₁, Course R way c r calls₁ c₁ r₁ a₁ ∧
      ((calls = calls₁ ∧ ∀ below, a₁ = .ok below → i.query? below = none) ∨
        ∃ below x, a₁ = .ok below ∧ i.query? below = some x.query ∧ calls = calls₁ ++ [(i, x)]) := by
  have hglance : c.glance i = c := Cache.glance_of_find?_eq_none hnone
  cases h with
  | hit hsight =>
      rw [(Cache.sight_eq_some_iff.mp hsight).1] at hnone
      cases hnone
  | stuck hsight hbelow =>
      rw [hglance] at hbelow
      exact ⟨_, _, _, _, hbelow, .inl ⟨rfl, nofun⟩⟩
  | idle hsight hbelow hquery =>
      rw [hglance] at hbelow
      refine ⟨_, _, _, _, hbelow, .inl ⟨rfl, ?_⟩⟩
      rintro _ ⟨⟩
      exact hquery
  | @failed i way c r calls c' r' below q x r'' e hsight hbelow hquery hpose
  | @learned i way c r calls c' r' below q x r'' p hsight hbelow hquery hpose =>
      rw [hglance] at hbelow
      exact ⟨_, _, _, _, hbelow,
        .inr ⟨below, x, rfl, Registry.query_eq_of_pose hpose ▸ hquery, rfl⟩⟩

/-- What was answered below an identity, so that there is something to ask for, is
answered again without a call. -/
lemma Course.eq_of_query? (h : Course R way c r calls c' r' (.ok below))
    (hquery : i.query? below = some q) (hway : Descending (i :: way)) (hR : R.WellNamed)
    (hc : c.store.clock.Accurate) (hroom : 0 < c'.store.capacity)
    (hlasting : Cache.Lasting c.limits c.store.clock.now)
    (h₂ : Course R' way c' r₂ calls₂ c₂ r₂' a₂) : calls₂ = [] ∧ a₂ = .ok below := by
  cases way with
  | nil =>
      cases h
      cases h₂
      exact ⟨rfl, rfl⟩
  | cons j rest =>
      have hlevel : level j.kind < level i.kind := (List.pairwise_cons.mp hway).1 j (by simp)
      obtain ⟨v, rfl, hmore⟩ : ∃ v, below = some v ∧ j.fallback? ≠ some v := by
        cases Identity.asks_of_query? hquery with
        | namespaceRecord => exact absurd hlevel (Nat.not_lt_zero _)
        | serviceId | endpointSet => exact ⟨_, rfl, by cases j <;> nofun⟩
      obtain ⟨e, hsight, rfl⟩ := h.exists_sight hR hc hroom hlasting rfl hmore
      cases h₂ with
      | hit hsight₂ =>
          rw [hsight] at hsight₂
          cases hsight₂
          exact ⟨rfl, rfl⟩
      | stuck hsight₂ | idle hsight₂ | failed hsight₂ | learned hsight₂ =>
          rw [hsight] at hsight₂
          cases hsight₂

/-! ### Lookups that fail -/

/-- A lookup fails with its last call, and with no other. -/
lemma Course.eq_append_of_error (h : Course R way c r calls c' r' (.error t)) :
    ∃ answered i x e, calls = answered ++ [(i, x)] ∧ x.failure? = some e ∧ t = .registry e ∧
      ∀ call ∈ answered, call.2.failure? = none := by
  generalize ha : (Except.error t : Result ε (Option Payload)) = a at h
  induction h with
  | top | hit | idle | learned => cases ha
  | stuck hsight hbelow ih => exact ih ha
  | failed hsight hbelow hquery hpose hanswer =>
      cases ha
      exact ⟨_, _, _, _, rfl, Exchange.answer_eq_error_iff.mp hanswer, rfl, hbelow.failure?_of_ok⟩

/-- A lookup that failed, made again on the cache that it left, begins with the
question that failed, and asks nothing again that was answered. -/
lemma Course.resumes (h : Course R way c r calls c' r' (.error t))
    (hcalls : calls = answered ++ [(i, x)]) (hway : Descending way) (hR : R.WellNamed)
    (hc : c.store.clock.Accurate) (hroom : 0 < c'.store.capacity)
    (hlasting : Cache.Lasting c.limits c.store.clock.now)
    (h₂ : Course R' way c' r₂ calls₂ c₂ r₂' a₂) :
    (∃ y rest, calls₂ = (i, y) :: rest ∧ y.query = x.query) ∧
      ∀ call ∈ calls₂, ∀ earlier ∈ answered, call.1 ≠ earlier.1 := by
  generalize ha : (Except.error t : Result ε (Option Payload)) = a at h
  induction h generalizing calls₂ c₂ r₂' a₂ with
  | top | hit | idle | learned => cases ha
  | @stuck i₁ way c r calls c' r' t hsight hbelow ih =>
      have hnone := hbelow.find?_eq_none hR (by simpa using hc) hway.notMem
        (Cache.find?_glance_of_sight_eq_none hsight)
      obtain ⟨calls₁, c₁, r₁, a₁, h₁, hthen⟩ := h₂.exists_below hnone
      obtain ⟨⟨y, rest, rfl, hy⟩, hother⟩ := ih hcalls (List.pairwise_cons.mp hway).2
        (by simpa using hc) hroom (by simpa using hlasting) h₁ ha
      rcases hthen with ⟨rfl, -⟩ | ⟨below, z, -, -, rfl⟩
      · exact ⟨⟨y, rest, rfl, hy⟩, hother⟩
      · refine ⟨⟨y, rest ++ [(i₁, z)], rfl, hy⟩, fun call hcall earlier hearlier => ?_⟩
        rcases List.mem_append.mp hcall with hcall | hcall
        · exact hother call hcall earlier hearlier
        · rw [List.mem_singleton.mp hcall]
          have hmem : (earlier.1, earlier.2) ∈ calls := by simp [hcalls, hearlier]
          have hbelow := (hbelow.mem_way hmem).1
          exact fun heq : i₁ = earlier.1 => hway.notMem (heq ▸ hbelow)
  | @failed i₁ way c r calls c' r' below q x₁ r'' e hsight hbelow hquery hpose hanswer =>
      obtain ⟨rfl, heq⟩ := List.append_inj' hcalls rfl
      cases heq
      have hnone := hbelow.find?_eq_none hR (by simpa using hc) hway.notMem
        (Cache.find?_glance_of_sight_eq_none hsight)
      obtain ⟨calls₁, c₁, r₁, a₁, h₁, hthen⟩ := h₂.exists_below hnone
      obtain ⟨rfl, rfl⟩ := hbelow.eq_of_query? hquery hway hR (by simpa using hc) hroom
        (by simpa using hlasting) h₁
      rcases hthen with ⟨-, hidle⟩ | ⟨below', y, hbelow', hquery', rfl⟩
      · rw [hidle below rfl] at hquery
        cases hquery
      · cases hbelow'
        rw [hquery', ← Registry.query_eq_of_pose hpose] at hquery
        refine ⟨⟨y, [], rfl, Option.some_inj.mp hquery⟩, fun call hcall earlier hearlier => ?_⟩
        rw [List.mem_singleton.mp hcall]
        have hbelow := (hbelow.mem_way hearlier).1
        exact fun heq : i = earlier.1 => hway.notMem (heq ▸ hbelow)

/-! ### Every lookup that fails -/

variable {s : Session ρ} {op : Op}

/-- Take a lookup under a clock that reads true, on any cache and any registry, that
comes to an error:

* the error is the failure of the last call of the lookup, as it is, and no call
  failed before;
* all that changes in the store, its tally aside, is what looking along the way of
  the lookup changes, and then what writing the answers that came before the
  failure does;
* so if the first call failed, and nothing was found on the way, nothing changes;
* among distinct keys, what is held under a key that is looked up and is not in sight,
  since it has expired or is of another kind, is gone after looking just when it is
  shown: what the backing cache hides is not found, and stays;
* if there is room for an entry, what is written has a later deadline, and the
  registry is well named, then the same lookup, made again at the same time and
  whatever has become of the registry, begins with the question that failed, and
  asks nothing again that was answered. -/
theorem resumes_of_error (hclock : s.cache.store.clock.Accurate)
    (herror : (act R op s).answer.result = .error t) :
    ∃ answered failed e,
      Happening.calls (act R op s).trail = answered ++ [failed] ∧
      (failed.failure? = some e ∧ t = .registry e ∧ ∀ x ∈ answered, x.failure? = none) ∧
      ((s.cache.looks op.way).heed (answered.filterMap op.lesson?)).Alike
        (act R op s).state.cache ∧
      (answered = [] → (∀ i ∈ op.way, s.cache.store.find? i.key = none) →
        s.cache.Alike (act R op s).state.cache) ∧
      (s.cache.store.keys.Nodup → ∀ before i after, op.way = before ++ i :: after →
        (∀ j ∈ before, s.cache.sight j = none) →
        ∀ held ∈ s.cache.store.entries, held.key = i.key → s.cache.sight i ≠ some held →
          (held ∉ (s.cache.looks op.way).store.entries ↔ held.Shown)) ∧
      (0 < s.cache.store.capacity → Cache.Lasting s.cache.limits s.cache.store.clock.now →
        R.WellNamed → ∀ (R' : Registry ρ ε) (r : ρ), ∃ again rest,
          Happening.calls (act R' op ⟨(act R op s).state.cache, r⟩).trail = again :: rest ∧
          again.query = failed.query ∧
          ∀ x ∈ again :: rest, ∀ earlier ∈ answered, op.subject? x ≠ op.subject? earlier) := by
  have hop : op.way ≠ [] := by
    cases op with
    | namespaceRecord | serviceId | endpoints => nofun
    | endpointsChanged | cache => cases herror
  obtain ⟨calls, c', hcalls, halike, hcourse⟩ := came_act R hop hclock (.refl s.cache)
  rw [herror] at hcourse
  obtain ⟨answered, i, x, e, rfl, hx, rfl, hanswered⟩ := hcourse.eq_append_of_error
  have hcache : (s.cache.looks op.way).heed ((answered.map Prod.snd).filterMap op.lesson?) = c' := by
    rw [← hcourse.lessons_eq (List.subset_append_left ..), hcourse.cache_eq, lessons_append,
      lessons_singleton, Identity.lesson?_of_failure? hx, Option.toList_none, List.append_nil]
  refine ⟨answered.map Prod.snd, x, e, by simp [hcalls], ⟨hx, rfl, ?_⟩, hcache ▸ halike, ?_,
    fun hs before i after hway hbefore held hheld hkey hsight => ?_, ?_⟩
  · simpa using fun x i hmem => hanswered (i, x) hmem
  · intro hnil hnone
    rw [hnil, Cache.looks_of_find?_eq_none hnone, List.filterMap_nil, Cache.heed_nil] at hcache
    exact hcache ▸ halike
  · have hnodup := (descending_way op).nodup
    rw [hway] at hnodup ⊢
    exact Cache.notMem_entries_looks_iff hnodup hbefore hs hheld hkey hsight
  · intro hroom hlasting hR R' r
    have hclock' : c'.store.clock.Accurate := (hcourse.limits_clock hclock).2 ▸ hclock
    obtain ⟨calls₂, c₂, hcalls₂, -, hcourse₂⟩ :=
      came_act (s := ⟨(act R op s).state.cache, r⟩) R' hop hclock' halike
    obtain ⟨⟨y, rest, rfl, hy⟩, hother⟩ := hcourse.resumes rfl (descending_way op) hR hclock
      (hcourse.capacity_eq ▸ hroom) hlasting hcourse₂
    refine ⟨y, rest.map Prod.snd, hcalls₂, hy, fun z hz earlier hearlier => ?_⟩
    have hz' : z ∈ ((i, y) :: rest).map Prod.snd := hz
    obtain ⟨call, hcall, rfl⟩ := List.mem_map.mp hz'
    obtain ⟨call', hcall', rfl⟩ := List.mem_map.mp hearlier
    rw [hcourse₂.subject?_of_mem hcall, hcourse.subject?_of_mem (List.mem_append_left _ hcall')]
    exact fun heq => hother call hcall call' hcall' (Option.some_inj.mp heq)

/-- A registry that refuses to list endpoints, behind a cache with room for a single
entry: the lookup made again does not ask for the namespace or for the id of the
service. -/
theorem resumes_of_error_listEndpoints :
    let R : Registry Unit String :=
      { findNamespace := fun ns r => (.ok (some ⟨"ns-1", ns, .http⟩), r)
        findServiceId := fun _ _ r => (.ok (some "srv-1"), r)
        listEndpoints := fun _ _ r => (.error "throttled", r) }
    let s : Session Unit := ⟨Cache.empty (.ofCapacity 1) .start, ()⟩
    let o := act R (.endpoints "a" "b") s
    (Happening.calls o.trail).map Exchange.query =
        [.findNamespace "a", .findServiceId ⟨"ns-1", "a", .http⟩ "b", .listEndpoints "a" "srv-1"] ∧
      ∃ again rest, Happening.calls (act R (.endpoints "a" "b") ⟨o.state.cache, ()⟩).trail =
        again :: rest ∧ again.query = .listEndpoints "a" "srv-1" := by
  intro R s o
  have hqueries : (Happening.calls o.trail).map Exchange.query =
      [.findNamespace "a", .findServiceId ⟨"ns-1", "a", .http⟩ "b", .listEndpoints "a" "srv-1"] := by
    decide
  have hR : R.WellNamed := by
    rintro ns r record ⟨⟩
    rfl
  have hlasting : Cache.Lasting s.cache.limits s.cache.store.clock.now := by
    intro kind
    cases kind <;> decide
  have herror : o.answer.result = .error (.registry "throttled") := by decide
  have hclock : s.cache.store.clock.Accurate := rfl
  obtain ⟨answered, failed, e, hcalls, -, -, -, -, hresumes⟩ := resumes_of_error hclock herror
  obtain ⟨again, rest, hagain, hquery, -⟩ := hresumes (by decide) hlasting hR R ()
  have hfailed := congrArg List.getLast? hqueries
  rw [hcalls, List.map_append, List.map_singleton, List.getLast?_concat] at hfailed
  exact ⟨hqueries, again, rest, hagain, hquery.trans (Option.some_inj.mp hfailed)⟩

/-- A cache that gives the knowledge of namespaces no time to live, before a registry that
is down. The lookup of a namespace that was known to be absent fails, and leaves the entry
where it was, at its deadline; the room that it takes is missed by the entry of another
key. -/
theorem timeless_outlasts_error :
    let R : Registry Unit String :=
      { findNamespace := fun _ r => (.error "down", r)
        findServiceId := fun _ _ r => (.error "down", r)
        listEndpoints := fun _ _ r => (.error "down", r) }
    let z : Identity := .namespaceRecord "z"
    let c := Cache.run [.request (.putServiceId "a" "x" "one"), .request (.putAbsence "z")]
      (Cache.empty ⟨2, .zero, .ofSecs 120, .ofSecs 5⟩ .start)
    let o := act R (.namespaceRecord "z") ⟨c, ()⟩
    c.store.clock.Accurate ∧ o.answer.result = .error (.registry "down") ∧
      (∃ e ∈ o.state.cache.store.entries, e.key = z.key ∧ e.deadline ≤ c.store.clock.now) ∧
      (Cache.serve (.getServiceId "a" "x")
        (Cache.serve (.putServiceId "a" "y" "two") o.state.cache).state).answer =
          .ok (.serviceId none) :=
  ⟨rfl, by decide⟩

end Discovery.Lookup
