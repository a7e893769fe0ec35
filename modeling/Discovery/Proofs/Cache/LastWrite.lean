import Discovery.Cache.Run
import Discovery.Proofs.Cache.Fetch
import Discovery.Proofs.Key.RoundTrip
/-!
A hit shows what was written last for the very thing that is asked for, and
within its time to live.

* `Cache.Request.identity`, `Cache.Request.effect`: what a request is about, and
  what it does to the stored answer;
* `Cache.mem_entries_serve`: a request changes the entry of its own identity
  only, and a read changes none;
* `Cache.LastWritten`: the most recent write or eviction of an identity in a
  list of operations wrote a payload;
* `Cache.Recorded`, `Cache.recorded_run`: every entry after a run from the empty
  cache is the last write of its identity, and expires in time;
* `Cache.lastWritten_of_hit`: so is every hit.
-/

namespace Discovery.Cache

variable {c : Cache} {r : Request} {op : Op} {ops before : List Op} {i : Identity} {p : Payload}
  {e : Entry Key Payload}

/-! ### Requests by what they do -/

/-- What a request does to the stored answer of its identity. -/
inductive Effect
  | reads
  | writes (p : Payload)
  | evicts
  deriving DecidableEq, Repr

/-- What a request is about. The record of a namespace is written under its own
name. -/
def Request.identity : Request → Identity
  | .getNamespace ns | .putAbsence ns => .namespaceRecord ns
  | .putNamespace record => .namespaceRecord record.name
  | .getServiceId ns svc | .putServiceId ns svc _ => .serviceId ns svc
  | .getEndpoints ns svc | .putEndpoints ns svc _ | .evictEndpoints ns svc => .endpointSet ns svc

/-- What a request does to the stored answer. -/
def Request.effect : Request → Effect
  | .getNamespace _ | .getServiceId _ _ | .getEndpoints _ _ => .reads
  | .putNamespace record => .writes (.namespaceRecord (some record))
  | .putAbsence _ => .writes (.namespaceRecord none)
  | .putServiceId _ _ id => .writes (.serviceId id)
  | .putEndpoints _ _ listed => .writes (.endpointSet listed)
  | .evictEndpoints _ _ => .evicts

/-- The payload that a reply is a hit with. -/
def Reply.payload? : Reply → Option Payload
  | .done => none
  | .namespaceRecord known => known.map .namespaceRecord
  | .serviceId known => known.map .serviceId
  | .endpointSet known => known.map .endpointSet

/-- What is written for an identity is of its kind. -/
lemma kind_of_effect_eq (h : r.effect = .writes p) : p.kind = r.identity.kind := by
  cases r <;> cases h <;> rfl

/-- What a request makes of the cache, by its effect. -/
lemma state_serve (r : Request) (c : Cache) :
    (serve r c).state =
      match r.effect with
      | .reads => (fetch r.identity c).state
      | .writes p => (put r.identity.key p c).state
      | .evicts => { c with store := c.store.remove r.identity.key } := by
  cases r with
  | getNamespace ns => exact (fetches_getNamespace ns c).1
  | getServiceId ns svc => exact (fetches_getServiceId ns svc c).1
  | getEndpoints ns svc => exact (fetches_getEndpoints ns svc c).1
  | putNamespace | putAbsence | putServiceId | putEndpoints | evictEndpoints => rfl

/-- A reply made of what a lookup answers is a hit with what the fetch finds. -/
lemma fetch_of_replying {α : Type} {x : Action Event Cache (Result (Option α))}
    {wrap : α → Payload} {make : Option α → Reply} {reply : Reply} (hx : Fetches x i wrap)
    (hmake : ∀ known, (make known).payload? = known.map wrap)
    (h : (replying make x c).answer = .ok reply) (hp : reply.payload? = some p) :
    (fetch i c).answer = .ok (some p) := by
  rw [replying, Action.map_apply] at h
  rw [← (hx c).2]
  cases hanswer : (x c).answer with
  | error fault =>
      rw [hanswer] at h
      cases h
  | ok known =>
      rw [hanswer] at h
      cases h
      rw [Except.map, ← hmake, hp]

/-- Only a read is a hit, and it is one with what the fetch finds. -/
lemma fetch_of_payload? {reply : Reply} (h : (serve r c).answer = .ok reply)
    (hp : reply.payload? = some p) : (fetch r.identity c).answer = .ok (some p) := by
  have hdone {x : Action Event Cache (Result Unit)}
      (h : (replying (fun () => .done) x c).answer = .ok reply) : False := by
    rw [replying, Action.map_apply] at h
    cases hanswer : (x c).answer with
    | error fault =>
        rw [hanswer] at h
        cases h
    | ok u =>
        rw [hanswer] at h
        cases h
        cases hp
  cases r with
  | getNamespace ns => exact fetch_of_replying (fetches_getNamespace ns) (fun _ => rfl) h hp
  | getServiceId ns svc => exact fetch_of_replying (fetches_getServiceId ns svc) (fun _ => rfl) h hp
  | getEndpoints ns svc => exact fetch_of_replying (fetches_getEndpoints ns svc) (fun _ => rfl) h hp
  | putNamespace | putAbsence | putServiceId | putEndpoints => exact (hdone h).elim
  | evictEndpoints ns svc =>
      cases h
      cases hp

/-! ### One request -/

/-- A request leaves the limits. -/
lemma limits_serve (r : Request) (c : Cache) : (serve r c).state.limits = c.limits := by
  rw [state_serve]
  cases r.effect with
  | reads => exact (limits_clock_fetch _ c).1
  | writes | evicts => rfl

/-- A request leaves the limits, and a clock that reads true as it was. -/
lemma limits_clock_serve (hc : c.store.clock.Accurate) (r : Request) :
    (serve r c).state.limits = c.limits ∧ (serve r c).state.store.clock = c.store.clock := by
  refine ⟨limits_serve r c, ?_⟩
  rw [state_serve]
  cases r.effect with
  | reads => exact clock_fetch_of_accurate hc
  | writes p => exact Store.clock_add_of_accurate hc
  | evicts => exact Store.clock_remove ..

/-- After a request, what is stored for its identity is what it wrote, or what
was there before if it is a read; other identities keep what they had. -/
lemma mem_entries_serve (hc : c.store.clock.Accurate) (h : e ∈ (serve r c).state.store.entries) :
    (e ∈ c.store.entries ∧ (e.key = r.identity.key → r.effect = .reads)) ∨
      ∃ p, r.effect = .writes p ∧
        e = Store.entry r.identity.key p (c.limits.ttl p.kind) c.store.clock.now := by
  rw [state_serve] at h
  cases heffect : r.effect with
  | reads =>
      rw [heffect] at h
      exact .inl ⟨mem_entries_fetch h, fun _ => rfl⟩
  | writes p =>
      rw [heffect] at h
      dsimp only [state_put] at h
      rw [Store.add_of_accurate hc] at h
      rcases List.mem_cons.mp (List.mem_of_mem_take h) with rfl | h
      · exact .inr ⟨p, rfl, rfl⟩
      · obtain ⟨h, hkey⟩ := Store.mem_others.mp h
        exact .inl ⟨h, fun heq => absurd heq hkey⟩
  | evicts =>
      rw [heffect] at h
      obtain ⟨h, hkey⟩ := Store.mem_entries_remove h
      exact .inl ⟨h, fun heq => absurd heq hkey⟩

/-- The passing of time moves the clock forward or leaves it, and changes nothing
else. -/
lemma act_advance (d : Duration) (c : Cache) :
    ∃ clock, (act (.direct (.advance d)) c).state =
        { c with store := { c.store with clock := clock } } ∧
      c.store.clock.now.toNanos ≤ clock.now.toNanos ∧ clock.skews = c.store.clock.skews := by
  obtain ⟨clock, hstate, hnow, hskews⟩ := Store.act_advance d c.store
  refine ⟨clock, ?_, hnow, hskews⟩
  rw [← hstate]
  rfl

/-! ### The last write of an identity -/

/-- An operation that is no tampering: a request, or a movement of the clock. -/
def Op.Proper : Op → Prop
  | .request _ => True
  | .direct (.advance _) => True
  | .direct _ => False

/-- The most recent write or eviction of an identity wrote a payload, after the
operations of `before`. -/
def LastWritten (i : Identity) (p : Payload) (ops before : List Op) : Prop :=
  ∃ w after, ops = before ++ .request w :: after ∧ w.identity = i ∧ w.effect = .writes p ∧
    ∀ r, .request r ∈ after → r.identity = i → r.effect = .reads

/-- An operation that does not change what is stored for an identity leaves its
last write the last. -/
lemma LastWritten.concat (h : LastWritten i p ops before)
    (hop : ∀ r, op = .request r → r.identity = i → r.effect = .reads) :
    LastWritten i p (ops ++ [op]) before := by
  obtain ⟨w, after, rfl, hw, heffect, hreads⟩ := h
  refine ⟨w, after ++ [op], by simp, hw, heffect, fun r hr hri => ?_⟩
  rcases List.mem_append.mp hr with hr | hr
  · exact hreads r hr hri
  · exact hop r (List.mem_singleton.mp hr).symm hri

/-- A write is the last write of its identity. -/
lemma lastWritten_concat_self (ops : List Op) (h : r.effect = .writes p) :
    LastWritten r.identity p (ops ++ [.request r]) ops :=
  ⟨r, [], rfl, rfl, h, nofun⟩

section Run

variable {limits : Limits} {clock : Clock}

/-- What holds after operations on an empty cache: the limits are what they
were, the clock reads true, and every entry is the last write of its identity,
with a deadline that is counted from that write. -/
structure Recorded (limits : Limits) (clock : Clock) (ops : List Op) : Prop where
  limits_eq : (run ops (empty limits clock)).limits = limits
  accurate : (run ops (empty limits clock)).store.clock.Accurate
  written : ∀ e ∈ (run ops (empty limits clock)).store.entries, ∃ i before, e.key = i.key ∧
    LastWritten i e.value ops before ∧
      e.deadline.toNanos ≤ (run before (empty limits clock)).store.clock.now.toNanos +
        min (limits.ttl i.kind).toNanos Store.maxTtl.toNanos

lemma recorded_nil (h : clock.Accurate) : Recorded limits clock [] :=
  ⟨rfl, h, nofun⟩

/-- A proper operation keeps every entry the last write of its identity. -/
lemma Recorded.concat (h : Recorded limits clock ops) (hop : op.Proper) :
    Recorded limits clock (ops ++ [op]) := by
  have hrun : run (ops ++ [op]) (empty limits clock) =
      (act op (run ops (empty limits clock))).state := run_append ops [op] _
  cases op with
  | request r =>
      obtain ⟨hlimits, hclock⟩ := limits_clock_serve h.accurate r
      have hstate : run (ops ++ [.request r]) (empty limits clock) =
          (serve r (run ops (empty limits clock))).state := hrun
      refine ⟨by rw [hstate, hlimits, h.limits_eq], by rw [hstate, hclock]; exact h.accurate,
        fun e he => ?_⟩
      rw [hstate] at he
      rcases mem_entries_serve h.accurate he with ⟨he, hother⟩ | ⟨p, heffect, rfl⟩
      · obtain ⟨i, before, hkey, hlast, hdeadline⟩ := h.written e he
        refine ⟨i, before, hkey, hlast.concat fun r' hr' hri => ?_, hdeadline⟩
        cases hr'
        exact hother (by rw [hkey, hri])
      · refine ⟨r.identity, ops, rfl, lastWritten_concat_self ops heffect, ?_⟩
        rw [← kind_of_effect_eq heffect, h.limits_eq]
        exact Store.toNanos_deadline_le ..
  | direct op =>
      cases op with
      | advance d =>
          obtain ⟨moved, hmoved, -, hskews⟩ := act_advance d (run ops (empty limits clock))
          have hstate := hrun.trans hmoved
          refine ⟨by rw [hstate]; exact h.limits_eq, by rw [hstate]; exact hskews.trans h.accurate,
            fun e he => ?_⟩
          rw [hstate] at he
          obtain ⟨i, before, hkey, hlast, hdeadline⟩ := h.written e he
          exact ⟨i, before, hkey, hlast.concat nofun, hdeadline⟩
      | add | get | remove | misread => exact absurd hop id

lemma recorded_run (hclock : clock.Accurate) (hops : ∀ op ∈ ops, op.Proper) :
    Recorded limits clock ops := by
  induction ops using List.reverseRecOn with
  | nil => exact recorded_nil hclock
  | append_singleton rest op ih =>
      obtain ⟨hrest, hop⟩ := List.forall_mem_append.mp hops
      exact (ih hrest).concat (hop op (List.mem_singleton_self op))

/-- After proper operations on an empty cache, a hit is with the payload of the
most recent write of the identity that is asked for, which no eviction followed,
and the time since that write is less than the time to live of its kind, and
less than the longest one. -/
theorem lastWritten_of_hit (hclock : clock.Accurate) (hops : ∀ op ∈ ops, op.Proper)
    {reply : Reply} (hreply : (serve r (run ops (empty limits clock))).answer = .ok reply)
    (hp : reply.payload? = some p) :
    ∃ before, LastWritten r.identity p ops before ∧
      (run ops (empty limits clock)).store.clock.now.toNanos <
        (run before (empty limits clock)).store.clock.now.toNanos +
          min (limits.ttl r.identity.kind).toNanos Store.maxTtl.toNanos := by
  have hrecorded : Recorded limits clock ops := recorded_run hclock hops
  obtain ⟨e, now, he, hkey, rfl, hread, hlive⟩ :=
    exists_of_fetch_eq_some (fetch_of_payload? hreply hp)
  obtain ⟨i, before, hkeyi, hlast, hdeadline⟩ := hrecorded.written e he
  obtain rfl : r.identity = i := Identity.key_injective (hkey.symm.trans hkeyi)
  rw [Clock.read_of_accurate hrecorded.accurate] at hread
  cases hread
  refine ⟨before, hlast, ?_⟩
  calc (run ops (empty limits clock)).store.clock.now.toNanos
      < e.deadline.toNanos := (Instant.lt_iff_toNanos_lt _ _).mp hlive
    _ ≤ (run before (empty limits clock)).store.clock.now.toNanos +
          min (limits.ttl r.identity.kind).toNanos Store.maxTtl.toNanos := hdeadline

end Run

/-- The id of a service is found a second after it was written, after the id of
another service whose names have the same characters in a row. -/
theorem lastWritten_of_hit_serviceId :
    let ops : List Op := [.request (.putServiceId "a" "b:c" "one"),
      .request (.putServiceId "a:b" "c" "two"), .direct (.advance (.ofSecs 1))]
    ∃ before, LastWritten (.serviceId "a" "b:c") (.serviceId "one") ops before ∧
      (run ops (empty .standard .start)).store.clock.now.toNanos <
        (run before (empty .standard .start)).store.clock.now.toNanos +
          min (Limits.standard.ttl .serviceId).toNanos Store.maxTtl.toNanos := by
  intro ops
  have hops : ∀ op ∈ ops, op.Proper := by simp [ops, Op.Proper]
  have hreply : (serve (.getServiceId "a" "b:c") (run ops (empty .standard .start))).answer =
      .ok (.serviceId (some "one")) := by decide
  exact lastWritten_of_hit Clock.accurate_start hops hreply rfl

end Discovery.Cache
