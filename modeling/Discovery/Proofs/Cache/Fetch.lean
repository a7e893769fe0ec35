import Discovery.Cache.Basic
import Discovery.Proofs.Store.Step
/-!
Reading and writing the cache, in the same words for every kind of answer.

* `Cache.fetch`: the stored answer of an identity, if it is of the identity's
  kind;
* `Cache.Fetches`: a lookup of one kind is a fetch with its answer taken out of
  the payload; the three lookups are;
* `Cache.Fetched`, `Cache.fetch_fetched`: the courses that a fetch can take;
* `Cache.exists_of_fetch_eq_some`: what a fetch finds is held under the key of
  the identity, and live at a reading of the clock;
* `Cache.mem_entries_fetch`: a fetch brings in no entry;
* `Cache.state_put`: writing adds an entry with the time to live of its kind.
-/

namespace Discovery

/-- A stored answer, if it is of the expected kind. -/
def Payload.expect (kind : Kind) (p : Payload) : Except Mismatch Payload :=
  if p.kind = kind then .ok p else .error ⟨kind, p.kind⟩

namespace Cache

variable {α : Type} {c : Cache} {i : Identity} {key : Key} {p : Payload}
  {e : Entry Key Payload}

/-! ### Fetching -/

/-- The answer of an identity, if it is there, is live and is of the identity's
kind. -/
def fetch (i : Identity) : Action Event Cache (Result (Option Payload)) :=
  checkedGet i.key (Payload.expect i.kind)

/-- A lookup that does what a fetch does, up to its events, and takes its answer
out of the payload. -/
def Fetches (x : Action Event Cache (Result (Option α))) (i : Identity) (wrap : α → Payload) :
    Prop :=
  ∀ c, (x c).state = (fetch i c).state ∧
    (x c).answer.map (Option.map wrap) = (fetch i c).answer

/-- A checked read whose answers are the payloads of the expected kind does what
a fetch does. -/
lemma fetches_checkedGet {extract : Payload → Except Mismatch α} {wrap : α → Payload}
    (h : ∀ p, (extract p).map wrap = p.expect i.kind) :
    Fetches (checkedGet i.key extract) i wrap := by
  intro c
  simp only [checkedGet, fetch, Action.bind_apply, onStore, Action.within_apply,
    Action.modifyGet_apply]
  rcases (c.store.get i.key).1 with fault | _ | p
  · exact ⟨rfl, rfl⟩
  · exact ⟨rfl, rfl⟩
  · have hp := h p
    cases hextract : extract p with
    | error m =>
        rw [hextract] at hp
        simp [hextract, ← hp, Except.map]
    | ok a =>
        rw [hextract] at hp
        simp [hextract, ← hp, Except.map]

/-- What follows a fetch and only reports its outcome changes nothing else. -/
lemma Fetches.bind {x : Action Event Cache (Result (Option α))} {wrap : α → Payload}
    (h : Fetches x i wrap)
    {report : Result (Option α) → Action Event Cache (Result (Option α))}
    (hreport : ∀ known c, (report known c).state = c ∧ (report known c).answer = known) :
    Fetches (x >>= report) i wrap := by
  intro c
  obtain ⟨hstate, hanswer⟩ := hreport (x c).answer (x c).state
  rw [Action.bind_apply, hstate, hanswer]
  exact h c

lemma fetches_getNamespace (ns : String) :
    Fetches (getNamespace ns) (.namespaceRecord ns) .namespaceRecord := by
  refine (fetches_checkedGet fun p => ?_).bind fun known c => ?_
  · cases p <;> rfl
  · rcases known with fault | _ | _ | record <;> exact ⟨rfl, rfl⟩

lemma fetches_getServiceId (ns svc : String) :
    Fetches (getServiceId ns svc) (.serviceId ns svc) .serviceId := by
  refine (fetches_checkedGet fun p => ?_).bind fun known c => ?_
  · cases p <;> rfl
  · rcases known with fault | _ | id <;> exact ⟨rfl, rfl⟩

lemma fetches_getEndpoints (ns svc : String) :
    Fetches (getEndpoints ns svc) (.endpointSet ns svc) .endpointSet := by
  refine (fetches_checkedGet fun p => ?_).bind fun known c => ?_
  · cases p <;> rfl
  · rcases known with fault | _ | listed <;> exact ⟨rfl, rfl⟩

/-! ### What a fetch does -/

/-- The courses of a fetch: its answer, and the cache that it leaves. What the store
answers with is dropped if it is of another kind. -/
inductive Fetched (i : Identity) (c : Cache) : Result (Option Payload) → Cache → Prop
  | refused {fault : ClockFault} (hget : (c.store.get i.key).1 = .error fault) :
      Fetched i c (.error fault) { c with store := (c.store.get i.key).2 }
  | absent (hget : (c.store.get i.key).1 = .ok none) :
      Fetched i c (.ok none) { c with store := (c.store.get i.key).2 }
  | found {p : Payload} (hget : (c.store.get i.key).1 = .ok (some p)) (hkind : p.kind = i.kind) :
      Fetched i c (.ok (some p)) { c with store := (c.store.get i.key).2 }
  | dropped {p : Payload} (hget : (c.store.get i.key).1 = .ok (some p)) (hkind : p.kind ≠ i.kind) :
      Fetched i c (.ok none) { c with store := (c.store.get i.key).2.remove i.key }

/-- A fetch takes one of these courses. -/
lemma fetch_fetched (i : Identity) (c : Cache) :
    Fetched i c (fetch i c).answer (fetch i c).state := by
  simp only [fetch, checkedGet, Action.bind_apply, onStore, Action.within_apply,
    Action.modifyGet_apply]
  rcases hget : (c.store.get i.key).1 with fault | _ | p
  · exact .refused hget
  · exact .absent hget
  · by_cases hkind : p.kind = i.kind
    · simpa [Payload.expect, hkind] using Fetched.found hget hkind
    · simpa [Payload.expect, hkind] using Fetched.dropped hget hkind

/-- What a fetch finds is held under the key of the identity, and live at a
reading of the clock. -/
lemma exists_of_fetch_eq_some (h : (fetch i c).answer = .ok (some p)) :
    ∃ e now, e ∈ c.store.entries ∧ e.key = i.key ∧ e.value = p ∧
      c.store.clock.read.1 = .ok now ∧ now < e.deadline := by
  have hcourse := fetch_fetched i c
  rw [h] at hcourse
  generalize (fetch i c).state = left at hcourse
  cases hcourse with
  | found hget => exact Store.exists_of_get_eq_some hget

/-- A fetch is refused only where asking the store is. -/
lemma exists_of_fetch_eq_error {fault : ClockFault} (h : (fetch i c).answer = .error fault) :
    ∃ fault, (c.store.get i.key).1 = .error fault := by
  have hcourse := fetch_fetched i c
  rw [h] at hcourse
  generalize (fetch i c).state = left at hcourse
  cases hcourse with
  | refused hget => exact ⟨fault, hget⟩

/-- A fetch brings in no entry. -/
lemma mem_entries_fetch (h : e ∈ (fetch i c).state.store.entries) : e ∈ c.store.entries := by
  have hcourse := fetch_fetched i c
  generalize (fetch i c).answer = answer, (fetch i c).state = left at h hcourse
  cases hcourse with
  | refused | absent | found => exact Store.mem_entries_get h
  | dropped => exact Store.mem_entries_get (Store.mem_entries_remove h).1

/-- A fetch leaves the limits, and the clock as asking for the key does. -/
lemma limits_clock_fetch (i : Identity) (c : Cache) :
    (fetch i c).state.limits = c.limits ∧
      (fetch i c).state.store.clock = (c.store.get i.key).2.clock := by
  have hcourse := fetch_fetched i c
  generalize (fetch i c).answer = answer, (fetch i c).state = left at hcourse ⊢
  cases hcourse with
  | refused | absent | found => exact ⟨rfl, rfl⟩
  | dropped => exact ⟨rfl, Store.clock_remove ..⟩

/-- A fetch leaves a clock that reads true as it was. -/
lemma clock_fetch_of_accurate (hc : c.store.clock.Accurate) :
    (fetch i c).state.store.clock = c.store.clock :=
  (limits_clock_fetch i c).2.trans (Store.clock_get_of_accurate hc)

/-! ### Writing -/

/-- Writing adds to the store, with the time to live of the payload's kind. -/
@[simp] lemma state_put (key : Key) (p : Payload) (c : Cache) :
    (put key p c).state = { c with store := (c.store.add key p (c.limits.ttl p.kind)).2 } := rfl

end Cache

end Discovery
