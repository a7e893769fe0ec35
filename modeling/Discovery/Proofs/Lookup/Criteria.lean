import Discovery.Lookup.Run
import Discovery.Proofs.Cache.LastWrite
/-!
What lookups keep, told by what may be stored and what may be answered.

* `Exchange.failure?`, `Lookup.failures`: the failures that the registry met
  the calls of a trail with;
* `Criteria`: what may be stored for an identity and what may be answered;
* `Criteria.Met`: a registry and the limits of a cache make the criteria carry
  over from one level of a lookup to the next;
* `Criteria.Holds`: all that a session stores meets them;
* `Criteria.Leads`, `Criteria.leads_namespaceRecord`, `Criteria.leads_serviceId`,
  `Criteria.leads_endpoints`: then a lookup keeps it so, its answer meets them,
  and a failure of the registry is handed on;
* `Criteria.Kept`, `Criteria.kept_of_client`, `Criteria.kept_of_cache`: the same
  of an operation in a run.
-/

namespace Discovery

variable {ρ ε α β : Type}

/-! ### Failures -/

/-- The failure that a question was met with. -/
def Exchange.failure? : Exchange ε → Option ε
  | .findNamespace _ (.error e) | .findServiceId _ _ (.error e) | .listEndpoints _ _ (.error e) =>
      some e
  | _ => none

namespace Lookup

/-- The failures that the calls of a trail were met with, in order. -/
def failures (trail : List (Happening (Exchange ε))) : List ε :=
  (Happening.calls trail).filterMap Exchange.failure?

/-- The failure of the registry that a result hands on. -/
def handedOn : Result ε α → List ε
  | .error (.registry e) => [e]
  | _ => []

/-- The failure of the registry that an answer hands on. -/
def Answer.handedOn : Answer ε → List ε
  | .namespaceRecord a => Lookup.handedOn a
  | .serviceId a => Lookup.handedOn a
  | .endpoints a => Lookup.handedOn a
  | .done | .cache _ => []

/-- A refusal of the clock took the place of the answer. -/
def Answer.Refused : Answer ε → Prop
  | .namespaceRecord (.error (.clock _)) | .serviceId (.error (.clock _))
  | .endpoints (.error (.clock _)) => True
  | _ => False

/-- An operation of the clients of a session, and none on the cache behind it. -/
def Op.OfClient : Op → Prop
  | .cache _ => False
  | _ => True

@[simp] lemma failures_append (l r : List (Happening (Exchange ε))) :
    failures (l ++ r) = failures l ++ failures r := by
  rw [failures, Happening.calls_append, List.filterMap_append]
  rfl

@[simp] lemma failures_map_event (l : List Event) :
    failures (l.map (Happening.event : Event → Happening (Exchange ε))) = [] := by
  rw [failures, Happening.calls_map_event]
  rfl

@[simp] lemma failures_call (c : Exchange ε) : failures [.call c] = c.failure?.toList := by
  cases h : c.failure? <;> simp [failures, Happening.calls, Happening.call?, h]

end Lookup

/-! ### Criteria -/

/-- What a session may store, and what its lookups may answer. -/
structure Criteria (ρ : Type) where
  /-- The clocks that there may be; reading one leaves one. -/
  clocks : Clock → Prop
  clocks_read : ∀ c, clocks c → clocks c.read.2
  /-- The states that the registry may be in. -/
  settled : ρ → Prop
  /-- What may be stored for an identity, until a deadline. -/
  stores : Identity → Payload → Instant → Prop
  /-- What may be answered for the namespace of a name. -/
  namespaceRecord : String → Option Namespace → Prop
  /-- What may be answered for the id of a service. -/
  serviceId : String → String → Option String → Prop
  /-- What may be answered for the endpoints of a service. -/
  endpoints : String → String → List Endpoint → Prop

namespace Criteria

variable {C : Criteria ρ} {R : Registry ρ ε} {limits : Limits} {s : Session ρ} {i : Identity}
  {p : Payload} {ns svc : String}

/-- An instant that the clock may show. -/
def Shows (C : Criteria ρ) (t : Instant) : Prop := ∃ c, C.clocks c ∧ c.read.1 = .ok t

/-- Something may be stored for an identity at all instants that the clock may
show, with the time to live of its kind. -/
def Writes (C : Criteria ρ) (limits : Limits) (i : Identity) (p : Payload) : Prop :=
  ∀ t, C.Shows t → C.stores i p (Store.deadline t (limits.ttl p.kind))

/-- Something may be stored for an identity until after an instant that the
clock may show. -/
def Hits (C : Criteria ρ) (i : Identity) (p : Payload) : Prop :=
  ∃ t deadline, C.Shows t ∧ t < deadline ∧ C.stores i p deadline

/-- A registry and limits under which criteria carry over from what is stored to
what is answered, from one level of a lookup to the next, and from what is
answered to what is stored. -/
structure Met (C : Criteria ρ) (R : Registry ρ ε) (limits : Limits) : Prop where
  settled_findNamespace : ∀ ns r, C.settled r → C.settled (R.findNamespace ns r).2
  settled_findServiceId : ∀ record svc r, C.settled r → C.settled (R.findServiceId record svc r).2
  settled_listEndpoints : ∀ ns id r, C.settled r → C.settled (R.listEndpoints ns id r).2
  namespace_of_hit : ∀ ns known, C.Hits (.namespaceRecord ns) (.namespaceRecord known) →
    C.namespaceRecord ns known
  namespace_some : ∀ ns r record, C.settled r → (R.findNamespace ns r).1 = .ok (some record) →
    C.namespaceRecord ns (some record) ∧
      C.Writes limits (.namespaceRecord record.name) (.namespaceRecord (some record))
  namespace_none : ∀ ns r, C.settled r → (R.findNamespace ns r).1 = .ok none →
    C.namespaceRecord ns none ∧ C.Writes limits (.namespaceRecord ns) (.namespaceRecord none)
  serviceId_of_hit : ∀ ns svc id, C.Hits (.serviceId ns svc) (.serviceId id) →
    C.serviceId ns svc (some id)
  serviceId_of_none : ∀ ns svc, C.namespaceRecord ns none → C.serviceId ns svc none
  serviceId_some : ∀ ns svc r record id, C.namespaceRecord ns (some record) → C.settled r →
    (R.findServiceId record svc r).1 = .ok (some id) →
    C.serviceId ns svc (some id) ∧ C.Writes limits (.serviceId ns svc) (.serviceId id)
  serviceId_none : ∀ ns svc r record, C.namespaceRecord ns (some record) → C.settled r →
    (R.findServiceId record svc r).1 = .ok none → C.serviceId ns svc none
  endpoints_of_hit : ∀ ns svc listed, C.Hits (.endpointSet ns svc) (.endpointSet listed) →
    C.endpoints ns svc listed
  endpoints_of_none : ∀ ns svc, C.serviceId ns svc none → C.endpoints ns svc []
  endpoints_listed : ∀ ns svc r id listed, C.serviceId ns svc (some id) → C.settled r →
    (R.listEndpoints ns id r).1 = .ok listed →
    C.endpoints ns svc listed ∧ C.Writes limits (.endpointSet ns svc) (.endpointSet listed)

/-- All that a session stores meets the criteria. -/
structure Holds (C : Criteria ρ) (limits : Limits) (s : Session ρ) : Prop where
  limits_eq : s.cache.limits = limits
  clock : C.clocks s.cache.store.clock
  settled : C.settled s.registry
  stored : ∀ e ∈ s.cache.store.entries, ∀ i : Identity, e.key = i.key →
    C.stores i e.value e.deadline

/-- The clock may refuse a reading. -/
def Refuses (C : Criteria ρ) : Prop := ∃ c fault, C.clocks c ∧ c.read.1 = .error fault

/-- A result that has a good answer, hands on a failure of the registry, or is
refused by a clock that may refuse. -/
def Settles (C : Criteria ρ) (good : α → Prop) : Lookup.Result ε α → Prop
  | .ok a => good a
  | .error (.registry _) => True
  | .error (.clock _) => C.Refuses

/-- From a session that meets the criteria, a lookup leads to one that does; it
hands on the only failure of the registry, and any answer of it is a good one. -/
def Leads (C : Criteria ρ) (limits : Limits) (x : Lookup ρ ε (Lookup.Result ε α))
    (good : α → Prop) : Prop :=
  Action.Takes (fun s w => C.Holds limits s ∧ Lookup.failures w = []) x fun a s w =>
    C.Holds limits s ∧ Lookup.failures w = Lookup.handedOn a ∧ C.Settles good a

namespace Leads

variable {x : Lookup ρ ε (Lookup.Result ε α)} {good : α → Prop} {good' : β → Prop}

/-- A good answer given at once. -/
lemma pure {v : α} (h : good v) : C.Leads limits (pure (.ok v) : Lookup ρ ε _) good :=
  Action.Takes.pure fun _ _ ⟨hs, hw⟩ => ⟨hs, hw, h⟩

/-- A lookup that hands on the failures of a first one goes on from its good
answers only. -/
lemma bind {f : Lookup.Result ε α → Lookup ρ ε (Lookup.Result ε β)}
    (hx : C.Leads limits x good) (herror : ∀ e, f (.error e) = Pure.pure (.error e))
    (hok : ∀ v, good v → C.Leads limits (f (.ok v)) good') : C.Leads limits (x >>= f) good' := by
  refine Action.Takes.bind hx fun a => ?_
  cases a with
  | error e =>
      rw [herror e]
      refine Action.Takes.pure fun _ _ ⟨hs, hw, he⟩ => ?_
      cases e with
      | registry e => exact ⟨hs, hw, trivial⟩
      | clock fault => exact ⟨hs, hw, he⟩
  | ok v => exact fun s w ⟨hs, hw, hv⟩ => hok v hv s w ⟨hs, hw⟩

/-- An event on the trail changes nothing. -/
lemma leave (event : Event) (hx : C.Leads limits x good) :
    C.Leads limits (do .leave [.event event]; x) good :=
  Action.Takes.bind (M := fun _ s w => C.Holds limits s ∧ Lookup.failures w = [])
    (Action.Takes.leave fun s w ⟨hs, hw⟩ => ⟨hs, by
      rw [Lookup.failures_append, hw]
      rfl⟩)
    fun _ => hx

end Leads

/-! ### The steps of a lookup -/

/-- A fetch stores nothing, and what it finds may be stored until after what
the clock shows; it is refused only by a reading of the clock. -/
lemma Holds.fetch (hs : C.Holds limits s) (i : Identity) :
    C.Holds limits { s with cache := (Cache.fetch i s.cache).state } ∧
      match (Cache.fetch i s.cache).answer with
      | .ok (some p) => C.Hits i p
      | .ok none => True
      | .error _ => C.Refuses := by
  obtain ⟨hlimits, hclock⟩ := Cache.limits_clock_fetch i s.cache
  refine ⟨⟨hlimits.trans hs.limits_eq, ?_, hs.settled,
    fun e he => hs.stored e (Cache.mem_entries_fetch he)⟩, ?_⟩
  · rw [hclock]
    exact Store.clock_get C.clocks_read hs.clock
  · cases hanswer : (Cache.fetch i s.cache).answer with
    | error fault =>
        obtain ⟨fault, hget⟩ := Cache.exists_of_fetch_eq_error hanswer
        exact Store.exists_of_get_eq_error C.clocks_read hs.clock hget
    | ok known =>
        cases known with
        | none => trivial
        | some p =>
            obtain ⟨e, now, he, hkey, rfl, hread, hlive⟩ := Cache.exists_of_fetch_eq_some hanswer
            exact ⟨now, e.deadline, ⟨_, hs.clock, hread⟩, hlive, hs.stored e he i hkey⟩

/-- Adding what may be stored under a key stores nothing else. -/
lemma Holds.add (hs : C.Holds limits s) {key : Key} {ttl : Duration}
    (hp : ∀ i : Identity, key = i.key → ∀ t, C.Shows t → C.stores i p (Store.deadline t ttl)) :
    C.Holds limits
      { s with cache := { s.cache with store := (s.cache.store.add key p ttl).2 } } := by
  refine ⟨hs.limits_eq, ?_, hs.settled, fun e he i hi => ?_⟩
  · rw [Store.clock_add]
    exact C.clocks_read _ hs.clock
  · rcases Store.mem_entries_add he with he | ⟨now, hread, rfl⟩
    · exact hs.stored e he i hi
    · exact hp i hi now ⟨_, hs.clock, hread⟩

/-- Writing what may be stored for an identity stores nothing else. -/
lemma Holds.put (hs : C.Holds limits s) (hp : C.Writes limits i p) :
    C.Holds limits { s with cache := (Cache.put i.key p s.cache).state } := by
  rw [Cache.state_put]
  refine hs.add fun j hj t ht => ?_
  obtain rfl : i = j := Identity.key_injective hj
  rw [hs.limits_eq]
  exact hp t ht

/-- Evicting stores nothing. -/
lemma Holds.remove (hs : C.Holds limits s) (key : Key) :
    C.Holds limits { s with cache := { s.cache with store := s.cache.store.remove key } } := by
  refine ⟨hs.limits_eq, ?_, hs.settled, fun e he => hs.stored e (Store.mem_entries_remove he).1⟩
  rw [Store.clock_remove]
  exact hs.clock

/-- An attempt to find something in the cache. -/
lemma leads_attempt {x : Action Event Cache (Cache.Result (Option α))} {wrap : α → Payload}
    (hx : Cache.Fetches x i wrap) :
    C.Leads limits (Lookup.attempt x : Lookup ρ ε _)
      fun known => ∀ a, known = some a → C.Hits i (wrap a) := by
  intro s w ⟨hs, hw⟩
  obtain ⟨hstate, hanswer⟩ := hx s.cache
  obtain ⟨hholds, hfound⟩ := hs.fetch i
  rw [← hstate] at hholds
  rw [← hanswer] at hfound
  have htrail : Lookup.failures (w ++ (Lookup.attempt x s :
      Outcome (Happening (Exchange ε)) _ _).trail) = [] := by
    simp [Lookup.attempt, Lookup.onCache, hw]
  simp only [Lookup.attempt, Lookup.onCache, Action.map_apply, Action.within_apply] at htrail ⊢
  cases hx : (x s.cache).answer with
  | error fault =>
      rw [hx] at hfound
      exact ⟨hholds, htrail, hfound⟩
  | ok known =>
      rw [hx] at hfound
      refine ⟨hholds, htrail, ?_⟩
      rintro a rfl
      exact hfound

/-- An answer that is written to the cache and given. -/
lemma leads_remember {a : α} {good : α → Prop} (ha : good a) (hp : C.Writes limits i p) :
    C.Leads limits (Lookup.remember (Cache.put i.key p) a : Lookup ρ ε _) good := by
  intro s w ⟨hs, hw⟩
  have hholds := hs.put hp
  have htrail : Lookup.failures (w ++ (Lookup.remember (Cache.put i.key p) a s :
      Outcome (Happening (Exchange ε)) _ _).trail) = [] := by
    simp [Lookup.remember, Lookup.attempt, Lookup.onCache, hw]
  simp only [Lookup.remember, Lookup.attempt, Lookup.onCache, Action.map_apply,
    Action.within_apply] at htrail ⊢
  cases hput : (Cache.put i.key p s.cache).answer with
  | error fault =>
      obtain ⟨fault, hread⟩ := Store.exists_of_add_eq_error hput
      exact ⟨hholds, htrail, _, fault, hs.clock, hread⟩
  | ok u => exact ⟨hholds, htrail, ha⟩

/-- A question to the registry: its answer is one of a settled state, and its
failure is handed on. -/
lemma leads_ask {question : ρ → Except ε α × ρ} {exchange : Except ε α → Exchange ε}
    (hsettled : ∀ r, C.settled r → C.settled (question r).2)
    (herror : ∀ e, (exchange (.error e)).failure? = some e)
    (hok : ∀ a, (exchange (.ok a)).failure? = none) :
    C.Leads limits (Lookup.ask question exchange)
      fun a => ∃ r, C.settled r ∧ (question r).1 = .ok a := by
  intro s w ⟨hs, hw⟩
  have hstate : C.Holds limits { s with registry := (question s.registry).2 } :=
    ⟨hs.limits_eq, hs.clock, hsettled _ hs.settled, hs.stored⟩
  have htrail : Lookup.failures (w ++ (Lookup.ask question exchange s).trail) =
      (exchange (question s.registry).1).failure?.toList := by
    rw [Lookup.failures_append, hw]
    exact Lookup.failures_call _
  cases hanswer : (question s.registry).1 with
  | error e =>
      rw [hanswer, herror] at htrail
      refine ⟨hstate, ?_, ?_⟩
      · simpa [Lookup.ask, hanswer, Except.mapError, Lookup.handedOn] using htrail
      · simp [Lookup.ask, hanswer, Except.mapError, Settles]
  | ok a =>
      rw [hanswer, hok] at htrail
      refine ⟨hstate, ?_, ?_⟩
      · simpa [Lookup.ask, hanswer, Except.mapError, Lookup.handedOn] using htrail
      · simp only [Lookup.ask, Action.bind_apply, Action.modifyGet_apply, Action.leave_apply,
          Action.pure_apply, hanswer, Except.mapError]
        exact ⟨s.registry, hs.settled, hanswer⟩

/-! ### Lookups -/

variable (hC : C.Met R limits)
include hC

/-- The lookup of a namespace. -/
lemma leads_namespaceRecord (ns : String) :
    C.Leads limits (Lookup.namespaceRecord R ns) (C.namespaceRecord ns) := by
  refine (leads_attempt (Cache.fetches_getNamespace ns)).bind (fun _ => rfl) fun known hknown => ?_
  cases known with
  | some known => exact .pure (hC.namespace_of_hit ns known (hknown _ rfl))
  | none =>
      refine (leads_ask (hC.settled_findNamespace ns) (fun _ => rfl) fun _ => rfl).bind
        (fun _ => rfl) fun a ⟨r, hr, ha⟩ => ?_
      cases a with
      | some record =>
          obtain ⟨hgood, hwrites⟩ := hC.namespace_some ns r record hr ha
          exact leads_remember hgood hwrites
      | none =>
          obtain ⟨hgood, hwrites⟩ := hC.namespace_none ns r hr ha
          exact (leads_remember hgood hwrites).leave _

/-- The lookup of the id of a service. -/
lemma leads_serviceId (ns svc : String) :
    C.Leads limits (Lookup.serviceId R ns svc) (C.serviceId ns svc) := by
  refine (leads_attempt (Cache.fetches_getServiceId ns svc)).bind (fun _ => rfl)
    fun known hknown => ?_
  cases known with
  | some id => exact .pure (hC.serviceId_of_hit ns svc id (hknown _ rfl))
  | none =>
      refine (leads_namespaceRecord hC ns).bind (fun _ => rfl) fun found hfound => ?_
      cases found with
      | none => exact .pure (hC.serviceId_of_none ns svc hfound)
      | some record =>
          refine (leads_ask (hC.settled_findServiceId record svc) (fun _ => rfl) fun _ => rfl).bind
            (fun _ => rfl) fun a ⟨r, hr, ha⟩ => ?_
          cases a with
          | none => exact .pure (hC.serviceId_none ns svc r record hfound hr ha)
          | some id =>
              obtain ⟨hgood, hwrites⟩ := hC.serviceId_some ns svc r record id hfound hr ha
              exact leads_remember hgood hwrites

/-- The lookup of the endpoints of a service. -/
lemma leads_endpoints (ns svc : String) :
    C.Leads limits (Lookup.endpoints R ns svc) (C.endpoints ns svc) := by
  refine (leads_attempt (Cache.fetches_getEndpoints ns svc)).bind (fun _ => rfl)
    fun known hknown => ?_
  cases known with
  | some listed => exact .pure (hC.endpoints_of_hit ns svc listed (hknown _ rfl))
  | none =>
      refine (leads_serviceId hC ns svc).bind (fun _ => rfl) fun found hfound => ?_
      cases found with
      | none => exact .pure (hC.endpoints_of_none ns svc hfound)
      | some id =>
          refine (leads_ask (hC.settled_listEndpoints ns id) (fun _ => rfl) fun _ => rfl).bind
            (fun _ => rfl) fun listed ⟨r, hr, hlisted⟩ => ?_
          obtain ⟨hgood, hwrites⟩ := hC.endpoints_listed ns svc r id listed hfound hr hlisted
          exact (leads_remember hgood hwrites).leave _

omit hC

/-! ### Operations -/

/-- An answer that may be given, if it is one. A refusal may be given if the
clock may refuse. -/
def Accepts (C : Criteria ρ) : Lookup.Op → Lookup.Answer ε → Prop
  | .namespaceRecord ns, .namespaceRecord a => C.Settles (C.namespaceRecord ns) a
  | .serviceId ns svc, .serviceId a => C.Settles (C.serviceId ns svc) a
  | .endpoints ns svc, .endpoints a => C.Settles (C.endpoints ns svc) a
  | .endpointsChanged _ _, .done => True
  | .cache _, .cache _ => True
  | _, _ => False

/-- Steady clocks never refuse. -/
lemma not_refuses_of_steady (h : ∀ c, C.clocks c → c.Steady) : ¬ C.Refuses := by
  rintro ⟨c, fault, hc, hrefused⟩
  obtain ⟨t, ht⟩ := (h c hc).read.1
  rw [ht] at hrefused
  cases hrefused

/-- Where the clock never refuses, no answer is lost to a refusal. -/
lemma not_refused_of_accepts {op : Lookup.Op} {a : Lookup.Answer ε} (h : C.Accepts op a)
    (hclock : ¬ C.Refuses) : ¬ a.Refused := by
  intro ha
  simp only [Lookup.Answer.Refused] at ha
  split at ha
  · cases op <;> first | exact hclock h | exact h
  · cases op <;> first | exact hclock h | exact h
  · cases op <;> first | exact hclock h | exact h
  · exact ha

/-- What an operation comes to when all is well: the session meets the criteria,
the answer does, and it hands on the only failure of the registry. -/
structure Kept (C : Criteria ρ) (limits : Limits) (R : Registry ρ ε) (op : Lookup.Op)
    (s : Session ρ) : Prop where
  holds : C.Holds limits (Lookup.act R op s).state
  accepts : C.Accepts op (Lookup.act R op s).answer
  failures_eq : Lookup.failures (Lookup.act R op s).trail = (Lookup.act R op s).answer.handedOn

/-- A lookup whose result is made an answer keeps all well. -/
lemma Leads.kept {x : Lookup ρ ε (Lookup.Result ε α)} {good : α → Prop}
    {wrap : Lookup.Result ε α → Lookup.Answer ε} {op : Lookup.Op} (hx : C.Leads limits x good)
    (hact : Lookup.act R op = wrap <$> x) (hs : C.Holds limits s)
    (haccepts : ∀ a, C.Settles good a → C.Accepts op (wrap a))
    (hwrap : ∀ a, (wrap a).handedOn = Lookup.handedOn a) : C.Kept limits R op s := by
  obtain ⟨hstate, hfailures, hgood⟩ := hx s [] ⟨hs, rfl⟩
  constructor
  · rw [hact, Action.map_apply]
    exact hstate
  · rw [hact, Action.map_apply]
    exact haccepts _ hgood
  · rw [hact, Action.map_apply, hwrap]
    exact hfailures

/-- An operation of a client keeps all well. -/
lemma kept_of_client (hC : C.Met R limits) (hs : C.Holds limits s) {op : Lookup.Op}
    (hop : op.OfClient) : C.Kept limits R op s := by
  cases op with
  | namespaceRecord ns =>
      exact (leads_namespaceRecord hC ns).kept rfl hs (fun _ ha => ha) fun _ => rfl
  | serviceId ns svc =>
      exact (leads_serviceId hC ns svc).kept rfl hs (fun _ ha => ha) fun _ => rfl
  | endpoints ns svc =>
      exact (leads_endpoints hC ns svc).kept rfl hs (fun _ ha => ha) fun _ => rfl
  | endpointsChanged ns svc => exact ⟨hs.remove _, trivial, rfl⟩
  | cache op => exact absurd hop id

/-- An operation on the cache that writes nothing but what may be stored. -/
def Allows (C : Criteria ρ) (limits : Limits) : Cache.Op → Prop
  | .request r => ∀ p, r.effect = .writes p → C.Writes limits r.identity p
  | .direct (.add key p ttl) =>
      ∀ i : Identity, key = i.key → ∀ t, C.Shows t → C.stores i p (Store.deadline t ttl)
  | .direct _ => True

/-- A request that writes nothing but what may be stored stores nothing else. -/
lemma Holds.serve (hs : C.Holds limits s) {r : Cache.Request}
    (hr : ∀ p, r.effect = .writes p → C.Writes limits r.identity p) :
    C.Holds limits { s with cache := (Cache.serve r s.cache).state } := by
  rw [Cache.state_serve]
  cases heffect : r.effect with
  | reads => exact (hs.fetch r.identity).1
  | writes p => exact hs.put (hr p heffect)
  | evicts => exact hs.remove _

/-- An operation on the cache calls nothing. -/
lemma failures_act_cache (R : Registry ρ ε) (op : Cache.Op) (s : Session ρ) :
    Lookup.failures (Lookup.act R (.cache op) s).trail = [] := by
  rw [Lookup.act, Action.map_apply]
  exact Lookup.failures_map_event _

/-- Whatever the clock is made to show, an operation on the cache that writes
nothing but what may be stored keeps all well. -/
lemma kept_of_cache (hclocks : ∀ c, C.clocks c) (hs : C.Holds limits s) {op : Cache.Op}
    (hop : C.Allows limits op) : C.Kept limits R (.cache op) s := by
  refine ⟨?_, trivial, failures_act_cache R op s⟩
  cases op with
  | request r => exact hs.serve hop
  | direct op =>
      cases op with
      | add key p ttl => exact hs.add hop
      | get key =>
          exact ⟨hs.limits_eq, hclocks _, hs.settled,
            fun e he => hs.stored e (Store.mem_entries_get he)⟩
      | remove key => exact hs.remove key
      | advance d =>
          obtain ⟨clock, hmoved, -⟩ := Store.act_advance d s.cache.store
          refine ⟨hs.limits_eq, hclocks _, hs.settled, fun e he => hs.stored e ?_⟩
          have hentries : (Store.act (.advance d) s.cache.store).state.entries =
              s.cache.store.entries := by rw [hmoved]
          exact hentries ▸ he
      | misread skews => exact ⟨hs.limits_eq, hclocks _, hs.settled, hs.stored⟩

end Criteria

end Discovery
