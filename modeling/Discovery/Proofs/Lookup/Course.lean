import Discovery.Proofs.Cache.Glance
import Discovery.Proofs.Lookup.Transparency
/-!
What lookups ask of the registry, one level after the other.

* `Query`, `Registry.pose`: a question to the registry, and what is exchanged when
  it is put;
* `Registry.WellNamed`: a registry that gives namespaces by the names under which
  they are asked for;
* `Identity.query?`: what is asked for an identity, once what is below it on the
  way has been answered;
* `Identity.lesson?`: what is written to the cache of an exchange;
* `Lookup.Course`: the courses of a lookup by way of some identities, with the
  exchanges that they take and the cache that they leave;
* `Lookup.came_act`: the lookups of a session take such courses;
* `Lookup.Descending`: the way of a lookup, from the endpoints of a service down to
  its namespace;
* `Lookup.Course.cache_eq`: what a course leaves is what comes of looking along
  the way and of writing what was learned;
* `Lookup.heed_lesson?`: what is learned from a well-named registry for an identity
  is written under its own key.
-/

namespace Discovery

/-! ### Questions -/

/-- A question to the registry. -/
inductive Query
  | findNamespace (ns : String)
  | findServiceId (record : Namespace) (svc : String)
  | listEndpoints (ns id : String)
  deriving DecidableEq, Repr

variable {ρ ε α β : Type}

/-- What is exchanged when a question is put to a registry, and the registry after
it. -/
def Registry.pose (R : Registry ρ ε) : Query → ρ → Exchange ε × ρ
  | .findNamespace ns, r => (.findNamespace ns (R.findNamespace ns r).1, (R.findNamespace ns r).2)
  | .findServiceId record svc, r =>
      (.findServiceId record svc (R.findServiceId record svc r).1, (R.findServiceId record svc r).2)
  | .listEndpoints ns id, r =>
      (.listEndpoints ns id (R.listEndpoints ns id r).1, (R.listEndpoints ns id r).2)

/-- A registry that gives namespaces by the names under which they are asked for. -/
def Registry.WellNamed (R : Registry ρ ε) : Prop :=
  ∀ ns r record, (R.findNamespace ns r).1 = .ok (some record) → record.name = ns

/-- The question of an exchange. -/
def Exchange.query : Exchange ε → Query
  | .findNamespace ns _ => .findNamespace ns
  | .findServiceId record svc _ => .findServiceId record svc
  | .listEndpoints ns id _ => .listEndpoints ns id

/-- The answer of an exchange, in the words of the cache; a service that does not
exist has none. -/
def Exchange.answer : Exchange ε → Except ε (Option Payload)
  | .findNamespace _ a => a.map fun record => some (.namespaceRecord record)
  | .findServiceId _ _ a => a.map (Option.map .serviceId)
  | .listEndpoints _ _ a => a.map fun listed => some (.endpointSet listed)

/-- What is asked for an identity, once what is below it on the way has been
answered. -/
def Identity.query? : Identity → Option Payload → Option Query
  | .namespaceRecord ns, _ => some (.findNamespace ns)
  | .serviceId _ svc, some (.namespaceRecord (some record)) => some (.findServiceId record svc)
  | .endpointSet ns _, some (.serviceId id) => some (.listEndpoints ns id)
  | _, _ => none

/-- What is answered for an identity where there is nothing to ask for. -/
def Identity.fallback? : Identity → Option Payload
  | .endpointSet _ _ => some (.endpointSet [])
  | _ => none

/-- What is written to the cache of an exchange for an identity. The record of a
namespace is written under its own name, and a service that does not exist is not
remembered. -/
def Identity.lesson? : Identity → Exchange ε → Option Cache.Request
  | .namespaceRecord _, .findNamespace _ (.ok (some record)) => some (.putNamespace record)
  | .namespaceRecord ns, .findNamespace _ (.ok none) => some (.putAbsence ns)
  | .serviceId ns svc, .findServiceId _ _ (.ok (some id)) => some (.putServiceId ns svc id)
  | .endpointSet ns svc, .listEndpoints _ _ (.ok listed) => some (.putEndpoints ns svc listed)
  | _, _ => none

/-- The questions that there are for identities, with what has to be below them. -/
inductive Identity.Asks : Identity → Option Payload → Query → Prop
  | namespaceRecord {ns below} : Asks (.namespaceRecord ns) below (.findNamespace ns)
  | serviceId {ns svc record} :
      Asks (.serviceId ns svc) (some (.namespaceRecord (some record))) (.findServiceId record svc)
  | endpointSet {ns svc id} :
      Asks (.endpointSet ns svc) (some (.serviceId id)) (.listEndpoints ns id)

lemma Identity.asks_of_query? {i : Identity} {below : Option Payload} {q : Query}
    (h : i.query? below = some q) : i.Asks below q := by
  cases i with
  | namespaceRecord ns =>
      cases h
      exact .namespaceRecord
  | serviceId ns svc =>
      rcases below with _ | (_ | record) | id | listed <;> cases h
      exact .serviceId
  | endpointSet ns svc =>
      rcases below with _ | record | id | listed <;> cases h
      exact .endpointSet

/-- A question that is put is the question of the exchange. -/
lemma Registry.query_eq_of_pose {R : Registry ρ ε} {q : Query} {r r' : ρ} {x : Exchange ε}
    (h : R.pose q r = (x, r')) : x.query = q := by
  cases q <;> cases h <;> rfl

lemma Exchange.answer_eq_error_iff {x : Exchange ε} {e : ε} :
    x.answer = .error e ↔ x.failure? = some e := by
  rcases x with ⟨_, a⟩ | ⟨_, _, a⟩ | ⟨_, _, a⟩ <;>
    cases a <;> simp [Exchange.answer, Exchange.failure?, Except.map]

/-- A failure teaches nothing. -/
lemma Identity.lesson?_of_failure? {i : Identity} {x : Exchange ε} {e : ε}
    (h : x.failure? = some e) : i.lesson? x = none := by
  rcases x with ⟨_, a⟩ | ⟨_, _, a⟩ | ⟨_, _, a⟩ <;> cases a <;> cases i <;>
    simp_all [Exchange.failure?, Identity.lesson?]

namespace Lookup

/-! ### Courses -/

/-- The courses of a lookup by way of some identities: the exchanges that it takes,
each with the identity that it is about, the cache and the registry that it
leaves, and what it comes to. -/
inductive Course (R : Registry ρ ε) : List Identity → Cache → ρ →
    List (Identity × Exchange ε) → Cache → ρ → Result ε (Option Payload) → Prop
  | top {c r} : Course R [] c r [] c r (.ok none)
  | hit {i way c r e} (hsight : c.sight i = some e) :
      Course R (i :: way) c r [] (c.glance i) r (.ok (some e.value))
  | stuck {i way c r calls c' r' t} (hsight : c.sight i = none)
      (hbelow : Course R way (c.glance i) r calls c' r' (.error t)) :
      Course R (i :: way) c r calls c' r' (.error t)
  | idle {i way c r calls c' r' below} (hsight : c.sight i = none)
      (hbelow : Course R way (c.glance i) r calls c' r' (.ok below))
      (hquery : i.query? below = none) :
      Course R (i :: way) c r calls c' r' (.ok i.fallback?)
  | failed {i way c r calls c' r' below q x r'' e} (hsight : c.sight i = none)
      (hbelow : Course R way (c.glance i) r calls c' r' (.ok below))
      (hquery : i.query? below = some q) (hpose : R.pose q r' = (x, r''))
      (hanswer : x.answer = .error e) :
      Course R (i :: way) c r (calls ++ [(i, x)]) c' r'' (.error (.registry e))
  | learned {i way c r calls c' r' below q x r'' p} (hsight : c.sight i = none)
      (hbelow : Course R way (c.glance i) r calls c' r' (.ok below))
      (hquery : i.query? below = some q) (hpose : R.pose q r' = (x, r''))
      (hanswer : x.answer = .ok p) :
      Course R (i :: way) c r (calls ++ [(i, x)])
        (c'.heed (i.lesson? x).toList) r'' (.ok p)

variable {R : Registry ρ ε} {c c' : Cache} {r r' : ρ} {i : Identity} {way : List Identity}
  {calls : List (Identity × Exchange ε)} {a : Result ε (Option Payload)} {s : Session ρ}
  {w : List (Happening (Exchange ε))}

/-- A course leaves the limits, and a clock that reads true as it was. -/
lemma Course.limits_clock (h : Course R way c r calls c' r' a) (hc : c.store.clock.Accurate) :
    c'.limits = c.limits ∧ c'.store.clock = c.store.clock := by
  induction h with
  | top => exact ⟨rfl, rfl⟩
  | hit => exact ⟨Cache.limits_glance, Cache.clock_glance⟩
  | stuck hsight hbelow ih | idle hsight hbelow hquery ih
  | failed hsight hbelow hquery hpose hanswer ih =>
      simpa using ih (by simpa using hc)
  | learned hsight hbelow hquery hpose hanswer ih =>
      obtain ⟨hlimits, hclock⟩ := ih (by simpa using hc)
      rw [Cache.limits_glance] at hlimits
      rw [Cache.clock_glance] at hclock
      obtain ⟨hlimits', hclock'⟩ := Cache.limits_clock_heed (hclock ▸ hc) (Option.toList _)
      exact ⟨hlimits'.trans hlimits, hclock'.trans hclock⟩

/-- A course leaves the capacity. -/
lemma Course.capacity_eq (h : Course R way c r calls c' r' a) :
    c'.store.capacity = c.store.capacity := by
  induction h with
  | top => rfl
  | hit => exact Cache.capacity_glance
  | stuck hsight hbelow ih | idle hsight hbelow hquery ih
  | failed hsight hbelow hquery hpose hanswer ih => exact ih.trans Cache.capacity_glance
  | learned hsight hbelow hquery hpose hanswer ih =>
      exact (Cache.capacity_heed _).trans (ih.trans Cache.capacity_glance)

/-! ### Lookups take these courses -/

/-- A session that is like a cache and a registry, and has called nothing. -/
def At (c : Cache) (r : ρ) (s : Session ρ) (w : List (Happening (Exchange ε))) : Prop :=
  c.Alike s.cache ∧ s.registry = r ∧ Happening.calls w = []

/-- A session that a course from a cache and a registry leads to. -/
def Came (R : Registry ρ ε) (way : List Identity) (c : Cache) (r : ρ)
    (a : Result ε (Option Payload)) (s : Session ρ) (w : List (Happening (Exchange ε))) : Prop :=
  ∃ calls c', Happening.calls w = calls.map Prod.snd ∧ c'.Alike s.cache ∧
    Course R way c r calls c' s.registry a

/-- A lookup takes the courses by way of some identities. -/
def Runs (R : Registry ρ ε) (way : List Identity) (x : Lookup ρ ε (Result ε α))
    (wrap : α → Option Payload) : Prop :=
  ∀ c r, c.store.clock.Accurate →
    Action.Takes (At c r) x fun a s w => Came R way c r (a.map wrap) s w

/-- A step that gives an answer, writes what it teaches, and calls nothing. -/
def Closes (y : Lookup ρ ε (Result ε α)) (lesson : Option Cache.Request) (a : α) : Prop :=
  ∀ s, s.cache.store.clock.Accurate → (y s).answer = .ok a ∧
    (y s).state = { s with cache := s.cache.heed lesson.toList } ∧
    Happening.calls (y s).trail = []

/-- An attempt to find something in the cache finds what is in sight. -/
lemma takes_attempt {x : Action Event Cache (Cache.Result (Option α))} {wrap : α → Payload}
    (hx : Cache.Fetches x i wrap) (hc : c.store.clock.Accurate) :
    Action.Takes (At c r) (attempt x : Lookup ρ ε _) fun known s w =>
      known.map (Option.map wrap) = .ok ((c.sight i).map Entry.value) ∧
        At (c.glance i) r s w := by
  rintro s w ⟨halike, hr, hw⟩
  obtain ⟨hstate, hanswer⟩ := hx s.cache
  obtain ⟨hfound, hleft⟩ := Cache.fetch_of_accurate (halike.clock_eq.symm ▸ hc) i
  rw [hfound, halike.sight_eq] at hanswer
  rw [← hstate] at hleft
  have hknown : ((attempt x : Lookup ρ ε _) s).answer = (x s.cache).answer.mapError .clock := by
    simp [attempt, onCache]
  refine ⟨?_, ?_, ?_, ?_⟩
  · rw [hknown]
    cases hx : (x s.cache).answer with
    | error fault =>
        rw [hx] at hanswer
        cases hanswer
    | ok known =>
        rw [hx] at hanswer
        exact congrArg Except.ok (Except.ok.inj hanswer)
  · simpa [attempt, onCache] using (halike.glance i).trans hleft.symm
  · simpa [attempt, onCache] using hr
  · simp [attempt, onCache, hw]

/-- A level of a lookup: it is a hit, or goes on where nothing is in sight. -/
lemma Runs.level {x : Action Event Cache (Cache.Result (Option α))} {wrap : α → Payload}
    {f : Result ε (Option α) → Lookup ρ ε (Result ε β)} {give : α → β} {wrap' : β → Option Payload}
    (hx : Cache.Fetches x i wrap) (hhit : ∀ a, f (.ok (some a)) = pure (.ok (give a)))
    (hgive : ∀ a, wrap' (give a) = some (wrap a))
    (hmiss : ∀ c r, c.store.clock.Accurate → c.sight i = none →
      Action.Takes (At (c.glance i) r) (f (.ok none)) fun a s w =>
        Came R (i :: way) c r (a.map wrap') s w) :
    Runs R (i :: way) (attempt x >>= f) wrap' := by
  intro c r hc
  refine Action.Takes.bind (takes_attempt hx hc) fun known => ?_
  rcases known with fault | _ | a
  · rintro s w ⟨hknown, -⟩
    cases hknown
  · rintro s w ⟨hknown, hat⟩
    have hsight : c.sight i = none := Option.map_eq_none_iff.mp (Except.ok.inj hknown).symm
    exact hmiss c r hc hsight s w hat
  · rw [hhit]
    refine Action.Takes.pure fun s w ⟨hknown, halike, hr, hw⟩ => ?_
    obtain ⟨e, hsight, hvalue⟩ := Option.map_eq_some_iff.mp (Except.ok.inj hknown).symm
    subst hr
    refine ⟨[], _, hw, halike, ?_⟩
    have hhit : Course R (i :: way) c s.registry _ _ _ _ := .hit hsight
    simpa [Except.map, hgive, hvalue] using hhit

/-- Where nothing is in sight, what is below on the way is looked up first. -/
lemma Runs.below {y : Lookup ρ ε (Result ε α)} {wrap : α → Option Payload}
    {g : Result ε α → Lookup ρ ε (Result ε β)} {wrap' : β → Option Payload}
    (hy : Runs R way y wrap) (hc : c.store.clock.Accurate) (hsight : c.sight i = none)
    (herror : ∀ t, g (.error t) = pure (.error t))
    (hok : ∀ a, Action.Takes (Came R way (c.glance i) r (.ok (wrap a))) (g (.ok a)) fun b s w =>
      Came R (i :: way) c r (b.map wrap') s w) :
    Action.Takes (At (c.glance i) r) (y >>= g) fun b s w =>
      Came R (i :: way) c r (b.map wrap') s w := by
  refine Action.Takes.bind (hy (c.glance i) r (by rwa [Cache.clock_glance])) fun a => ?_
  cases a with
  | error t =>
      rw [herror]
      exact Action.Takes.pure fun s w ⟨calls, c', hcalls, halike, hcourse⟩ =>
        ⟨calls, c', hcalls, halike, .stuck hsight hcourse⟩
  | ok a => exact hok a

/-- Nothing is asked if what is below leaves nothing to ask for. -/
lemma takes_idle {below : Option Payload} {wrap : α → Option Payload} {a : α}
    (hsight : c.sight i = none) (hquery : i.query? below = none) (ha : wrap a = i.fallback?) :
    Action.Takes (Came R way (c.glance i) r (.ok below))
      (pure (.ok a) : Lookup ρ ε (Result ε α)) fun b s w =>
        Came R (i :: way) c r (b.map wrap) s w := by
  refine Action.Takes.pure fun s w ⟨calls, c', hcalls, halike, hcourse⟩ =>
    ⟨calls, c', hcalls, halike, ?_⟩
  simpa only [Except.map, ha] using Course.idle hsight hcourse hquery

/-- A question to the registry ends the lookup if it fails; what is learned otherwise
is written to the cache. -/
lemma takes_ask {below : Option Payload} {q : Query} {wrap : α → Option Payload}
    {question : ρ → Except ε α × ρ} {exchange : Except ε α → Exchange ε}
    {h : Result ε α → Lookup ρ ε (Result ε α)} (hc : c.store.clock.Accurate)
    (hsight : c.sight i = none) (hquery : i.query? below = some q)
    (hpose : ∀ r, R.pose q r = (exchange (question r).1, (question r).2))
    (hanswer : ∀ a, (exchange a).answer = a.map wrap)
    (herror : ∀ t, h (.error t) = pure (.error t))
    (hok : ∀ a, Closes (h (.ok a)) (i.lesson? (exchange (.ok a))) a) :
    Action.Takes (Came R way (c.glance i) r (.ok below)) (ask question exchange >>= h) fun a s w =>
      Came R (i :: way) c r (a.map wrap) s w := by
  rintro s w ⟨calls, c', hcalls, halike, hcourse⟩
  have hasked : ask question exchange s =
      ⟨(question s.registry).1.mapError .registry, { s with registry := (question s.registry).2 },
        [.call (exchange (question s.registry).1)]⟩ := rfl
  have hcalled (x : Exchange ε) :
      Happening.calls (w ++ [.call x]) = (calls ++ [(i, x)]).map Prod.snd := by
    rw [Happening.calls_append, hcalls, List.map_append]
    rfl
  have hclock : s.cache.store.clock.Accurate := by
    rw [halike.clock_eq, (hcourse.limits_clock (by simpa using hc)).2, Cache.clock_glance]
    exact hc
  have hposed := hpose s.registry
  rw [Action.bind_apply, hasked]
  cases hx : (question s.registry).1 with
  | error e =>
      rw [hx] at hposed
      simp only [Except.mapError, herror, Action.pure_apply, List.append_nil]
      exact ⟨_, c', hcalled _, halike, .failed hsight hcourse hquery hposed (hanswer _)⟩
  | ok v =>
      rw [hx] at hposed
      obtain ⟨hans, hstate, htrail⟩ := hok v { s with registry := (question s.registry).2 } hclock
      simp only [Except.mapError, hans, hstate]
      refine ⟨_, c'.heed (i.lesson? (exchange (.ok v))).toList, ?_, ?_,
        .learned hsight hcourse hquery hposed (hanswer _)⟩
      · rw [← List.append_assoc, Happening.calls_append, htrail, List.append_nil]
        exact hcalled _
      · refine halike.heed ?_ _
        rw [(hcourse.limits_clock (by simpa using hc)).2, Cache.clock_glance]
        exact hc

/-- An answer that is not remembered. -/
lemma closes_pure (v : α) : Closes (pure (.ok v) : Lookup ρ ε (Result ε α)) none v :=
  fun _ _ => ⟨rfl, rfl, rfl⟩

/-- An answer that is remembered, by a request that writes. -/
lemma closes_remember {i : Identity} {p : Payload} {request : Cache.Request}
    (hrequest : ∀ c, (Cache.serve request c).state = (Cache.put i.key p c).state) (v : α) :
    Closes (remember (Cache.put i.key p) v : Lookup ρ ε _) (some request) v := by
  intro s hs
  have hput : (Cache.put i.key p s.cache).answer = .ok () := by
    simp [Cache.put, Cache.onStore, Store.add_of_accurate hs]
  refine ⟨?_, ?_, ?_⟩
  · simp [remember, attempt, onCache, hput, Except.mapError, Except.map]
  · simp [remember, attempt, onCache, hrequest]
  · simp [remember, attempt, onCache]

/-- An event is no call. -/
lemma Closes.leave {y : Lookup ρ ε (Result ε α)} {lesson : Option Cache.Request} {v : α}
    (hy : Closes y lesson v) (event : Event) :
    Closes (do .leave [.event event]; y) lesson v := by
  intro s hs
  obtain ⟨hanswer, hstate, hcalls⟩ := hy s hs
  refine ⟨hanswer, hstate, ?_⟩
  rw [Action.bind_apply, Happening.calls_append]
  exact hcalls

/-! ### Every lookup -/

/-- Where there is nothing below on the way, nothing has to be looked up first. -/
lemma takes_top {x : Lookup ρ ε α} {Q : α → Session ρ → List (Happening (Exchange ε)) → Prop}
    (hx : Action.Takes (Came R [] c r (.ok none)) x Q) : Action.Takes (At c r) x Q :=
  fun s w ⟨halike, hr, hw⟩ => hx s w ⟨[], c, hw, halike, hr ▸ .top⟩

/-- The lookup of a namespace. -/
lemma runs_namespaceRecord (ns : String) :
    Runs R [.namespaceRecord ns] (namespaceRecord R ns)
      fun record => some (.namespaceRecord record) := by
  refine Runs.level (Cache.fetches_getNamespace ns) (fun _ => rfl) (fun _ => rfl)
    fun c r hc hsight => ?_
  refine takes_top (takes_ask hc hsight rfl (fun _ => rfl) (fun _ => rfl) (fun _ => rfl)
    fun answer => ?_)
  cases answer with
  | none => exact (closes_remember (fun _ => rfl) none).leave _
  | some record => exact closes_remember (fun _ => rfl) (some record)

/-- The lookup of the id of a service. -/
lemma runs_serviceId (ns svc : String) :
    Runs R [.serviceId ns svc, .namespaceRecord ns] (serviceId R ns svc)
      (Option.map .serviceId) := by
  refine Runs.level (Cache.fetches_getServiceId ns svc) (fun _ => rfl) (fun _ => rfl)
    fun c r hc hsight => (runs_namespaceRecord ns).below hc hsight (fun _ => rfl) fun found => ?_
  cases found with
  | none => exact takes_idle hsight rfl rfl
  | some record =>
      refine takes_ask hc hsight rfl (fun _ => rfl) (fun _ => rfl) (fun _ => rfl) fun answer => ?_
      cases answer with
      | none => exact closes_pure none
      | some id => exact closes_remember (fun _ => rfl) (some id)

/-- The lookup of the endpoints of a service. -/
lemma runs_endpoints (ns svc : String) :
    Runs R [.endpointSet ns svc, .serviceId ns svc, .namespaceRecord ns] (endpoints R ns svc)
      fun listed => some (.endpointSet listed) := by
  refine Runs.level (Cache.fetches_getEndpoints ns svc) (fun _ => rfl) (fun _ => rfl)
    fun c r hc hsight => (runs_serviceId ns svc).below hc hsight (fun _ => rfl) fun found => ?_
  cases found with
  | none => exact takes_idle hsight rfl rfl
  | some id =>
      exact takes_ask hc hsight rfl (fun _ => rfl) (fun _ => rfl) (fun _ => rfl)
        fun listed => (closes_remember (fun _ => rfl) listed).leave _

/-- What an answer tells, in the words of the cache. -/
def Answer.result : Answer ε → Result ε (Option Payload)
  | .namespaceRecord a => a.map fun record => some (.namespaceRecord record)
  | .serviceId a => a.map (Option.map .serviceId)
  | .endpoints a => a.map fun listed => some (.endpointSet listed)
  | .done | .cache _ => .ok none

/-- A lookup in a session takes a course by way of its identities. -/
lemma came_act (R : Registry ρ ε) {op : Op} (hop : op.way ≠ []) (hc : c.store.clock.Accurate)
    (halike : c.Alike s.cache) :
    Came R op.way c s.registry (act R op s).answer.result (act R op s).state
      (act R op s).trail := by
  have hat : At c s.registry s ([] : List (Happening (Exchange ε))) := ⟨halike, rfl, rfl⟩
  cases op with
  | namespaceRecord ns =>
      rw [act, Action.map_apply]
      exact runs_namespaceRecord ns c s.registry hc s [] hat
  | serviceId ns svc =>
      rw [act, Action.map_apply]
      exact runs_serviceId ns svc c s.registry hc s [] hat
  | endpoints ns svc =>
      rw [act, Action.map_apply]
      exact runs_endpoints ns svc c s.registry hc s [] hat
  | endpointsChanged | cache => exact absurd rfl hop

/-! ### The way of a lookup -/

/-- How many levels of a lookup are below a kind. -/
def level : Kind → ℕ
  | .namespaceRecord => 0
  | .serviceId => 1
  | .endpointSet => 2

/-- Every identity is of a kind above those of the identities after it. -/
def Descending (way : List Identity) : Prop := way.Pairwise fun i j => level j.kind < level i.kind

lemma descending_way (op : Op) : Descending op.way := by
  cases op <;> simp [Descending, Op.way, level, Identity.kind]

lemma Descending.notMem (h : Descending (i :: way)) : i ∉ way :=
  fun hi => lt_irrefl _ ((List.pairwise_cons.mp h).1 i hi)

lemma Descending.nodup (h : Descending way) : way.Nodup :=
  h.imp fun hlt heq => hlt.ne' (congrArg (fun i => level i.kind) heq)

/-! ### What a course leaves -/

/-- What is asked for an identity on the way is asked once what is below it has been
answered. -/
lemma Course.mem_way (h : Course R way c r calls c' r' a) {x : Exchange ε} (hx : (i, x) ∈ calls) :
    i ∈ way ∧ ∃ below, i.query? below = some x.query := by
  induction h with
  | top | hit => cases hx
  | stuck hsight hbelow ih | idle hsight hbelow hquery ih =>
      exact (ih hx).imp_left (List.mem_cons_of_mem _)
  | failed hsight hbelow hquery hpose hanswer ih | learned hsight hbelow hquery hpose hanswer ih =>
      rcases List.mem_append.mp hx with hx | hx
      · exact (ih hx).imp_left (List.mem_cons_of_mem _)
      · obtain ⟨rfl, rfl⟩ := Prod.mk.inj (List.mem_singleton.mp hx)
        exact ⟨List.mem_cons_self .., _, Registry.query_eq_of_pose hpose ▸ hquery⟩

/-- What an exchange of a lookup is about. -/
def Op.subject? : Op → Exchange ε → Option Identity
  | _, .findNamespace ns _ => some (.namespaceRecord ns)
  | .serviceId ns _, .findServiceId _ svc _ | .endpoints ns _, .findServiceId _ svc _ =>
      some (.serviceId ns svc)
  | .endpoints _ svc, .listEndpoints ns _ _ => some (.endpointSet ns svc)
  | _, _ => none

/-- What an exchange of a lookup teaches. -/
def Op.lesson? (op : Op) (x : Exchange ε) : Option Cache.Request :=
  (op.subject? x).bind (·.lesson? x)

/-- The identity of an exchange is what it is about. -/
lemma Course.subject?_of_mem {op : Op} (h : Course R op.way c r calls c' r' a) {x : Exchange ε}
    (hx : (i, x) ∈ calls) : op.subject? x = some i := by
  obtain ⟨hi, below, hquery⟩ := h.mem_way hx
  have hasks := Identity.asks_of_query? hquery
  generalize hq : x.query = q at hasks
  cases hasks with
  | namespaceRecord | serviceId | endpointSet =>
      cases x <;> cases hq
      cases op <;> simp_all [Op.way, Op.subject?]

/-- The requests that write what some exchanges teach. -/
def lessons (calls : List (Identity × Exchange ε)) : List Cache.Request :=
  calls.filterMap fun call => call.1.lesson? call.2

@[simp] lemma lessons_nil : lessons ([] : List (Identity × Exchange ε)) = [] := rfl

@[simp] lemma lessons_append (l l' : List (Identity × Exchange ε)) :
    lessons (l ++ l') = lessons l ++ lessons l' := List.filterMap_append

lemma lessons_singleton (i : Identity) (x : Exchange ε) :
    lessons [(i, x)] = (i.lesson? x).toList := by
  cases h : i.lesson? x <;> simp [lessons, h]

/-- The lessons of a lookup can be told from its exchanges. -/
lemma Course.lessons_eq {op : Op} (h : Course R op.way c r calls c' r' a)
    {l : List (Identity × Exchange ε)} (hl : l ⊆ calls) :
    lessons l = (l.map Prod.snd).filterMap op.lesson? := by
  rw [lessons, List.filterMap_map]
  refine List.filterMap_congr fun call hcall => ?_
  rw [Function.comp_apply, Op.lesson?, h.subject?_of_mem (hl hcall), Option.bind_some]

/-- What a course leaves is what comes of looking along the way and of writing what
was learned. -/
lemma Course.cache_eq (h : Course R way c r calls c' r' a) :
    c' = (c.looks way).heed (lessons calls) := by
  induction h with
  | top => rfl
  | hit hsight =>
      rw [Cache.looks, hsight]
      rfl
  | stuck hsight hbelow ih | idle hsight hbelow hquery ih =>
      rw [Cache.looks, hsight]
      exact ih
  | failed hsight hbelow hquery hpose hanswer ih =>
      rw [Cache.looks, hsight, lessons_append, lessons_singleton,
        Identity.lesson?_of_failure? (Exchange.answer_eq_error_iff.mp hanswer), Option.toList_none,
        List.append_nil]
      exact ih
  | learned hsight hbelow hquery hpose hanswer ih =>
      rw [Cache.looks, hsight, lessons_append, lessons_singleton, Cache.heed_append]
      exact congrArg (Cache.heed · _) ih

/-- What a well-named registry answers for an identity is written under the key of
that identity, and only an absent answer is not written. -/
lemma heed_lesson? (hR : R.WellNamed) (hquery : i.query? below = some q)
    (hpose : R.pose q r = (x, r')) (hanswer : x.answer = .ok p) (c : Cache) :
    (p = none ∧ c.heed (i.lesson? x).toList = c) ∨
      ∃ v, p = some v ∧ v.kind = i.kind ∧
        c.heed (i.lesson? x).toList = (Cache.put i.key v c).state := by
  have hasks := Identity.asks_of_query? hquery
  cases hasks with
  | @namespaceRecord ns below =>
      cases hpose
      have hname := hR ns r
      generalize (R.findNamespace ns r).1 = answer at hanswer hname
      rcases answer with e | _ | record <;> cases hanswer
      · exact .inr ⟨_, rfl, rfl, rfl⟩
      · obtain rfl := hname record rfl
        exact .inr ⟨_, rfl, rfl, rfl⟩
  | @serviceId ns svc record =>
      cases hpose
      generalize (R.findServiceId record svc r).1 = answer at hanswer
      rcases answer with e | _ | id <;> cases hanswer
      · exact .inl ⟨rfl, rfl⟩
      · exact .inr ⟨_, rfl, rfl, rfl⟩
  | @endpointSet ns svc id =>
      cases hpose
      generalize (R.listEndpoints ns id r).1 = answer at hanswer
      rcases answer with e | listed <;> cases hanswer
      exact .inr ⟨_, rfl, rfl, rfl⟩

/-- The calls of a lookup that has an answer all got theirs. -/
lemma Course.failure?_of_ok {p : Option Payload} (h : Course R way c r calls c' r' (.ok p)) :
    ∀ call ∈ calls, call.2.failure? = none := by
  generalize ha : (Except.ok p : Result ε (Option Payload)) = a at h
  induction h generalizing p with
  | top | hit => nofun
  | stuck | failed => cases ha
  | idle hsight hbelow hquery ih => exact ih rfl
  | @learned i way c r calls c' r' below q x r'' p hsight hbelow hquery hpose hanswer ih =>
      have hx : x.failure? = none := by
        rw [Option.eq_none_iff_forall_ne_some]
        intro e he
        rw [Exchange.answer_eq_error_iff.mpr he] at hanswer
        cases hanswer
      rintro call hcall
      rcases List.mem_append.mp hcall with hcall | hcall
      · exact ih rfl call hcall
      · rw [List.mem_singleton.mp hcall]
        exact hx

end Lookup

end Discovery
