import Discovery.Proofs.Cache.Glance
import Discovery.Proofs.Settings.Bounds
/-!
Caches with limits that were accepted, which only requests and the passing of time
have changed.

* `Identity.lookup`, `Payload.reply`: the lookup that matches what is written, and its
  hit;
* `Cache.Disciplined`: the capacity is that of the limits, and every entry is of the
  kind of its key and has the time to live of that kind;
* `Cache.disciplined_act`: requests and the passing of time keep to that, whatever the
  clock reads;
* `Cache.level_of_mem_trail`: and then they log nothing worse than a debug event;
* `Cache.answer_lookup_of_effect`: what was just written is found;
* `Cache.guarantees_of_load`: all of this holds in every run under settings that were
  accepted.
-/

namespace Discovery

/-- The lookup of what is known of an identity. -/
def Identity.lookup : Identity → Cache.Request
  | .namespaceRecord ns => .getNamespace ns
  | .serviceId ns svc => .getServiceId ns svc
  | .endpointSet ns svc => .getEndpoints ns svc

/-- The reply that is a hit with a payload. -/
def Payload.reply : Payload → Cache.Reply
  | .namespaceRecord record => .namespaceRecord (some record)
  | .serviceId id => .serviceId (some id)
  | .endpointSet listed => .endpointSet (some listed)

namespace Cache

variable {α : Type} {limits : Limits} {c : Cache} {r : Request} {op : Op} {ops : List Op}
  {i : Identity} {p : Payload} {now : Instant}

/-- A cache with given limits, and with entries as they are written under them. -/
structure Disciplined (limits : Limits) (c : Cache) : Prop where
  limits_eq : c.limits = limits
  capacity_eq : c.store.capacity = limits.capacity.toNat
  written : ∀ e ∈ c.store.entries, e.value.kind = e.key.kind ∧ e.ttl = limits.ttl e.key.kind

/-! ### Keeping to the limits -/

lemma disciplined_empty (limits : Limits) (clock : Clock) :
    Disciplined limits (empty limits clock) :=
  ⟨rfl, rfl, nofun⟩

/-- A request keeps to the limits: it writes for an identity what is of its kind, with
the time to live of that kind. -/
lemma disciplined_serve (hlimits : limits.Bounded) (h : Disciplined limits c) (r : Request) :
    Disciplined limits (serve r c).state := by
  refine ⟨(limits_serve r c).trans h.limits_eq, (capacity_serve r c).trans h.capacity_eq,
    fun e he => ?_⟩
  rw [state_serve] at he
  cases heffect : r.effect with
  | reads =>
      rw [heffect] at he
      exact h.written e (mem_entries_fetch he)
  | writes p =>
      rw [heffect] at he
      rcases Store.mem_entries_add he with he | ⟨now, -, rfl⟩
      · exact h.written e he
      · have hkind : p.kind = r.identity.kind := kind_of_effect_eq heffect
        refine ⟨hkind, ?_⟩
        show (c.limits.ttl p.kind).shorter Store.maxTtl = limits.ttl r.identity.kind
        rw [h.limits_eq, hkind, Duration.shorter_eq_left (hlimits.ttl _).2]
  | evicts =>
      rw [heffect] at he
      exact h.written e (Store.mem_entries_remove he).1

/-- A proper operation keeps to the limits. -/
lemma disciplined_act (hlimits : limits.Bounded) (hop : op.Proper) (h : Disciplined limits c) :
    Disciplined limits (act op c).state := by
  cases op with
  | request r => exact disciplined_serve hlimits h r
  | direct op =>
      cases op with
      | advance d =>
          obtain ⟨clock, hstate, -⟩ := act_advance d c
          rw [hstate]
          exact ⟨h.limits_eq, h.capacity_eq, h.written⟩
      | add | get | remove | misread => exact absurd hop id

/-! ### Events -/

/-- A checked read that refuses only payloads of other kinds meets none of them, and
reports nothing. -/
lemma trail_checkedGet (h : Disciplined limits c) {extract : Payload → Except Mismatch α}
    (hextract : ∀ p m, extract p = .error m → p.kind ≠ i.kind) :
    (checkedGet i.key extract c).trail = [] := by
  simp only [checkedGet, Action.bind_apply, onStore, Action.within_apply,
    Action.modifyGet_apply]
  rcases hget : (c.store.get i.key).1 with fault | _ | p
  · rfl
  · rfl
  · obtain ⟨e, now, he, hkey, rfl, -⟩ := Store.exists_of_get_eq_some hget
    have hkind : e.value.kind = i.kind := by
      rw [(h.written e he).1, hkey, Identity.key_kind]
    cases ha : extract e.value with
    | error m => exact absurd hkind (hextract e.value m ha)
    | ok a => simp [ha]

/-- A lookup whose reports are debug events logs no others. -/
lemma level_of_mem_lookup (h : Disciplined limits c) {extract : Payload → Except Mismatch α}
    (hextract : ∀ p m, extract p = .error m → p.kind ≠ i.kind)
    {report : Result (Option α) → Action Event Cache (Result (Option α))}
    (hreport : ∀ known c, ∀ event ∈ (report known c).trail, event.level = .debug)
    {make : Option α → Reply} {event : Event}
    (hevent : event ∈ (replying make (checkedGet i.key extract >>= report) c).trail) :
    event.level = .debug := by
  rw [replying, Action.map_apply, Action.bind_apply] at hevent
  dsimp only at hevent
  rw [trail_checkedGet h hextract, List.nil_append] at hevent
  exact hreport _ _ event hevent

/-- A write with admissible times to live logs that it is made, and nothing else. -/
lemma trail_put (hlimits : c.limits.Bounded) (key : Key) (p : Payload) :
    (put key p c).trail = [.caching p.kind key (c.limits.ttl p.kind)] := by
  have hclamped : c.store.addEvents (c.limits.ttl p.kind) = [] := if_neg (hlimits.ttl p.kind).2
  simp [put, onStore, hclamped]

/-- A request that is served within the limits logs debug events only: what it reads is
of the kind that is asked for, and no time to live is cut off. -/
lemma level_of_mem_serve (hlimits : limits.Bounded) (h : Disciplined limits c) {event : Event}
    (hevent : event ∈ (serve r c).trail) : event.level = .debug := by
  have hput {key : Key} {p : Payload}
      (hevent : event ∈ (replying (fun () => .done) (put key p) c).trail) :
      event.level = .debug := by
    rw [replying, Action.map_apply] at hevent
    dsimp only at hevent
    rw [trail_put (h.limits_eq.symm ▸ hlimits), List.mem_singleton] at hevent
    rw [hevent]
    rfl
  cases r with
  | getNamespace ns =>
      refine level_of_mem_lookup (i := .namespaceRecord ns) h
        (fun p m hp => ?_) (fun known c => ?_) hevent
      · cases p <;> cases hp <;> simp [Payload.kind, Identity.kind]
      · rcases known with fault | _ | _ | record <;> simp [Event.level]
  | getServiceId ns svc =>
      refine level_of_mem_lookup (i := .serviceId ns svc) h
        (fun p m hp => ?_) (fun known c => ?_) hevent
      · cases p <;> cases hp <;> simp [Payload.kind, Identity.kind]
      · rcases known with fault | _ | id <;> simp [Event.level]
  | getEndpoints ns svc =>
      refine level_of_mem_lookup (i := .endpointSet ns svc) h
        (fun p m hp => ?_) (fun known c => ?_) hevent
      · cases p <;> cases hp <;> simp [Payload.kind, Identity.kind]
      · rcases known with fault | _ | listed <;> simp [Event.level]
  | putNamespace | putAbsence | putServiceId | putEndpoints => exact hput hevent
  | evictEndpoints ns svc =>
      obtain rfl : event = .evictingEndpoints ns svc := List.mem_singleton.mp hevent
      rfl

/-- A proper operation within the limits logs debug events only. -/
lemma level_of_mem_act (hlimits : limits.Bounded) (hop : op.Proper) (h : Disciplined limits c)
    {event : Event} (hevent : event ∈ (act op c).trail) : event.level = .debug := by
  cases op with
  | request r =>
      rw [act, Action.map_apply] at hevent
      exact level_of_mem_serve hlimits h hevent
  | direct op =>
      cases op with
      | advance d => simp [act, onStore, Store.act] at hevent
      | add | get | remove | misread => exact absurd hop id

/-! ### Reading what was written -/

/-- A lookup that does what a fetch does is a hit with what that finds. -/
lemma reply_of_fetch {x : Action Event Cache (Result (Option α))} {wrap : α → Payload}
    {make : Option α → Reply} (hx : Fetches x i wrap)
    (hmake : ∀ a, make (some a) = (wrap a).reply) (h : (fetch i c).answer = .ok (some p)) :
    (replying make x c).answer = .ok p.reply := by
  rw [← (hx c).2] at h
  rw [replying, Action.map_apply]
  rcases hanswer : (x c).answer with fault | _ | a
  · rw [hanswer] at h
    cases h
  · rw [hanswer] at h
    cases h
  · rw [hanswer] at h
    cases h
    exact congrArg Except.ok (hmake a)

/-- The lookup of an identity is a hit with what a fetch finds. -/
lemma answer_lookup (h : (fetch i c).answer = .ok (some p)) :
    (serve i.lookup c).answer = .ok p.reply := by
  cases i with
  | namespaceRecord ns => exact reply_of_fetch (fetches_getNamespace ns) (fun _ => rfl) h
  | serviceId ns svc => exact reply_of_fetch (fetches_getServiceId ns svc) (fun _ => rfl) h
  | endpointSet ns svc => exact reply_of_fetch (fetches_getEndpoints ns svc) (fun _ => rfl) h

/-- A fetch finds what the store answers with, if it is of the kind of the identity. -/
lemma answer_fetch (hget : (c.store.get i.key).1 = .ok (some p)) (hkind : p.kind = i.kind) :
    (fetch i c).answer = .ok (some p) := by
  simp [fetch, checkedGet, onStore, hget, Payload.expect, hkind]

/-- A request that writes is done, if the clock gives a reading. -/
lemma answer_of_effect (heffect : r.effect = .writes p) (hread : c.store.clock.read.1 = .ok now) :
    (serve r c).answer = .ok .done := by
  have hdone (key : Key) (p : Payload) :
      (replying (fun () => .done) (put key p) c).answer = .ok .done := by
    have hadd := Store.add_of_read (s := c.store) (Prod.ext hread rfl) key p (c.limits.ttl p.kind)
    simp [replying, put, onStore, hadd, Except.map]
  cases r with
  | putNamespace | putAbsence | putServiceId | putEndpoints => exact hdone _ _
  | getNamespace | getServiceId | getEndpoints | evictEndpoints => cases heffect

/-- Where the longest time to live has an end, every admissible one has. -/
lemma lasting_of_bounded (hlimits : limits.Bounded) (hnow : (now.add? Store.maxTtl).isSome) :
    Lasting limits now := by
  intro kind
  obtain ⟨hpos, hle⟩ := hlimits.ttl kind
  refine ⟨?_, ?_⟩
  · rintro hzero
    rw [hzero] at hpos
    exact absurd hpos (by decide)
  · rw [Duration.shorter_eq_left hle]
    rw [Duration.le_iff_toNanos_le] at hle
    rw [Option.isSome_iff_ne_none, ne_eq, Instant.add?_eq_none_iff] at hnow ⊢
    omega

/-- What was just written is found at the same reading of the clock, if the longest time
to live has an end then. -/
lemma answer_lookup_of_effect (hlimits : limits.Bounded) (h : Disciplined limits c)
    (heffect : r.effect = .writes p) (hread : c.store.clock.read.1 = .ok now)
    (hnow : (now.add? Store.maxTtl).isSome)
    (hsame : (serve r c).state.store.clock.read.1 = .ok now) :
    (serve r.identity.lookup (serve r c).state).answer = .ok p.reply := by
  have hlasting : Lasting c.limits now := h.limits_eq.symm ▸ lasting_of_bounded hlimits hnow
  have hroom : 0 < c.store.capacity := h.capacity_eq.symm ▸ hlimits.capacity_pos
  have hstate : (serve r c).state = (put r.identity.key p c).state := by
    rw [state_serve, heffect]
  have hfind : (serve r c).state.store.find? r.identity.key =
      some (Store.entry r.identity.key p (c.limits.ttl p.kind) now) := by
    rw [hstate]
    exact find?_put_self (Prod.ext hread rfl) hroom (hlasting p.kind).1
  have hget : ((serve r c).state.store.get r.identity.key).1 = .ok (some p) :=
    Store.get_of_live hfind (Prod.ext hsame rfl) (hlasting.lt_deadline p.kind)
  exact answer_lookup (answer_fetch hget (kind_of_effect_eq heffect))

/-! ### Every run -/

/-- Under settings that were accepted, no run of requests and of the passing of time
meets an answer of the wrong kind or cuts off a time to live: the events that report
those are never logged, every entry is of the kind of its key, and it has the time to
live of that kind, which is admissible. Whatever is held, a write is done, and its
lookup at the same reading of the clock is a hit with what was written, as long as the
longest time to live has an end then. -/
theorem guarantees_of_load {lookup : String → Option String} {settings : Settings}
    (hload : (Settings.load lookup).2 = .ok settings) (clock : Clock)
    (hops : ∀ op ∈ ops, op.Proper) :
    let start := empty settings.cache clock
    let c := run ops start
    (∀ event ∈ (Action.each act ops start).trail, event.level ≠ .error ∧ event.level ≠ .warn) ∧
    (∀ e ∈ c.store.entries, e.value.kind = e.key.kind ∧
      e.ttl = settings.cache.ttl e.key.kind ∧ .zero < e.ttl ∧ e.ttl ≤ Store.maxTtl) ∧
    ∀ w p now, w.effect = .writes p → c.store.clock.read.1 = .ok now →
      (now.add? Store.maxTtl).isSome →
      (serve w c).answer = .ok .done ∧
        ((serve w c).state.store.clock.read.1 = .ok now →
          (serve w.identity.lookup (serve w c).state).answer = .ok p.reply) := by
  intro start c
  have hlimits : settings.cache.Bounded := (Settings.bounded_load hload).cache
  obtain ⟨hturns, hend⟩ := Action.keeps_each
    (fun op hop _ h => disciplined_act hlimits (hops op hop) h)
    (disciplined_empty settings.cache clock)
  refine ⟨fun event hevent => ?_, fun e he => ?_, fun w p now heffect hread hnow => ?_⟩
  · rw [Action.each_trail, List.mem_flatMap] at hevent
    obtain ⟨t, ht, hevent⟩ := hevent
    have hop : t.1.Proper := hops t.1 (Action.mem_of_mem_turns ht)
    rw [level_of_mem_act hlimits hop (hturns t ht) hevent]
    exact ⟨nofun, nofun⟩
  · obtain ⟨hkind, httl⟩ := hend.written e he
    have hadmissible := hlimits.ttl e.key.kind
    rw [← httl] at hadmissible
    exact ⟨hkind, httl, hadmissible⟩
  · exact ⟨answer_of_effect heffect hread,
      answer_lookup_of_effect hlimits hend heffect hread hnow⟩

/-- With room for one entry, an empty list of endpoints is found right after it was
written, where the id of the service was held before. -/
theorem guarantees_of_load_single :
    let settings : Settings := ⟨⟨1, .ofSecs 120, .ofSecs 120, .ofMillis 31536000000⟩, .standard⟩
    let c := run [.request (.putServiceId "a" "b" "one"), .direct (.advance (.ofSecs 1))]
      (empty settings.cache .start)
    (serve (.getEndpoints "a" "b") (serve (.putEndpoints "a" "b" []) c).state).answer =
      .ok (.endpointSet (some [])) := by
  intro settings c
  have hload : (Settings.load fun name =>
      if name = Variable.cacheCapacity.name then some " 1 "
      else if name = Variable.endpointTtl.name then some "31536000000"
      else none).2 = .ok settings := by decide
  have hops : ∀ op ∈ [Op.request (.putServiceId "a" "b" "one"), .direct (.advance (.ofSecs 1))],
      op.Proper := by simp [Op.Proper]
  obtain ⟨-, -, hreads⟩ := guarantees_of_load hload .start hops
  obtain ⟨-, hfound⟩ := hreads (.putEndpoints "a" "b" []) (.endpointSet []) c.store.clock.now
    rfl (by decide) (by decide)
  exact hfound (by decide)

end Cache

end Discovery
