import Discovery.Proofs.Lookup.Course
import Discovery.Registry.Script
/-!
Which calls a lookup of endpoints makes, and what it writes.

* `Lookup.Leg`, `Lookup.leg`: the calls that are made by way of some identities, with
  the registry and the answer that they lead to, as a function of what is in sight;
* `Lookup.Course.leg_eq`: every course makes these calls;
* `Lookup.Inquiry`: what is asked of the registry and written to the cache, from the id
  of a service on, from the record of a namespace on, or from its name on;
* `Lookup.Leads`, `Lookup.leads_byName`: the legs of a way come to such an inquiry;
* `Lookup.Announces`: every write is announced right after the call that it comes from;
* `Lookup.Makes`, `Lookup.makes_inquiry`: by what is in sight, a lookup of endpoints
  makes one of these inquiries.
-/

namespace Discovery.Lookup

variable {ρ ε α β : Type} {R : Registry ρ ε} {c c' : Cache} {r r' : ρ} {i : Identity}
  {way : List Identity} {calls : List (Identity × Exchange ε)} {a : Result ε (Option Payload)}
  {s : Session ρ} {op : Op} {ns svc id : String} {record : Namespace}

/-! ### Legs of a way -/

/-- The calls of a lookup so far, each with what it is about, the registry after them,
and what they come to. -/
structure Leg (ρ ε : Type) where
  calls : List (Identity × Exchange ε)
  registry : ρ
  answer : Result ε (Option Payload)

/-- One level more, that is not in sight: it is asked for, if the level below leaves
something to ask for. -/
def Leg.next (R : Registry ρ ε) (i : Identity) (l : Leg ρ ε) : Leg ρ ε :=
  match l.answer with
  | .error _ => l
  | .ok below =>
      match i.query? below with
      | none => { l with answer := .ok i.fallback? }
      | some q =>
          { calls := l.calls ++ [(i, (R.pose q l.registry).1)]
            registry := (R.pose q l.registry).2
            answer := (R.pose q l.registry).1.answer.mapError .registry }

lemma Leg.next_of_error {l : Leg ρ ε} {t : Trouble ε} (h : l.answer = .error t) :
    l.next R i = l := by
  rw [Leg.next, h]

lemma Leg.next_of_idle {l : Leg ρ ε} {below : Option Payload} (h : l.answer = .ok below)
    (hquery : i.query? below = none) : l.next R i = { l with answer := .ok i.fallback? } := by
  rw [Leg.next, h]
  dsimp only
  rw [hquery]

lemma Leg.next_of_pose {l : Leg ρ ε} {below : Option Payload} {q : Query} {x : Exchange ε}
    (h : l.answer = .ok below) (hquery : i.query? below = some q)
    (hpose : R.pose q l.registry = (x, r')) :
    l.next R i = ⟨l.calls ++ [(i, x)], r', x.answer.mapError .registry⟩ := by
  rw [Leg.next, h]
  dsimp only
  rw [hquery]
  dsimp only
  rw [hpose]

/-- The calls that are made by way of some identities: those below the first one that is
in sight are not gone into. -/
def leg (R : Registry ρ ε) (c : Cache) (r : ρ) : List Identity → Leg ρ ε
  | [] => ⟨[], r, .ok none⟩
  | i :: way =>
      match c.sight i with
      | some e => ⟨[], r, .ok (some e.value)⟩
      | none => (leg R c r way).next R i

/-- A look for what is not on a way does not matter there. -/
lemma leg_glance (h : i ∉ way) : leg R (c.glance i) r way = leg R c r way := by
  induction way with
  | nil => rfl
  | cons j way ih =>
      rw [List.mem_cons, not_or] at h
      rw [leg, leg, Cache.sight_glance_of_ne h.1, ih h.2]

/-- Every course makes the calls that what is in sight leaves to be made. -/
lemma Course.leg_eq (h : Course R way c r calls c' r' a) (hway : way.Nodup) :
    leg R c r way = ⟨calls, r', a⟩ := by
  induction h with
  | top => rfl
  | hit hsight => rw [leg, hsight]
  | stuck hsight hbelow ih =>
      obtain ⟨hi, hrest⟩ := List.nodup_cons.mp hway
      rw [leg, hsight, ← leg_glance hi, ih hrest]
      rfl
  | idle hsight hbelow hquery ih =>
      obtain ⟨hi, hrest⟩ := List.nodup_cons.mp hway
      rw [leg, hsight, ← leg_glance hi, ih hrest, Leg.next_of_idle rfl hquery]
  | failed hsight hbelow hquery hpose hanswer ih
  | learned hsight hbelow hquery hpose hanswer ih =>
      obtain ⟨hi, hrest⟩ := List.nodup_cons.mp hway
      rw [leg, hsight, ← leg_glance hi, ih hrest, Leg.next_of_pose rfl hquery hpose, hanswer]
      rfl

/-! ### Inquiries -/

/-- What a lookup of endpoints asks of the registry, what of it is written to the cache,
what comes of it, and the registry after it. -/
structure Inquiry (ρ ε : Type) where
  calls : List (Exchange ε)
  writes : List Cache.Request
  answer : Except ε (List Endpoint)
  registry : ρ

namespace Inquiry

/-- An inquiry that does not come to a question. -/
def idle (listed : List Endpoint) (r : ρ) : Inquiry ρ ε := ⟨[], [], .ok listed, r⟩

/-- An inquiry that goes on after a call, and what is written of that. -/
def after (x : Exchange ε) (write : Cache.Request) (q : Inquiry ρ ε) : Inquiry ρ ε :=
  { q with calls := x :: q.calls, writes := write :: q.writes }

/-- The inquiry for the endpoints of a service, when its id is known. They are written
even if there are none. -/
def byId (R : Registry ρ ε) (ns svc id : String) (r : ρ) : Inquiry ρ ε :=
  match R.listEndpoints ns id r with
  | (.error e, r') => ⟨[.listEndpoints ns id (.error e)], [], .error e, r'⟩
  | (.ok listed, r') =>
      ⟨[.listEndpoints ns id (.ok listed)], [.putEndpoints ns svc listed], .ok listed, r'⟩

/-- The same, when the record of its namespace is known. That there is no such service
is not written. -/
def byRecord (R : Registry ρ ε) (ns svc : String) (record : Namespace) (r : ρ) : Inquiry ρ ε :=
  match R.findServiceId record svc r with
  | (.error e, r') => ⟨[.findServiceId record svc (.error e)], [], .error e, r'⟩
  | (.ok none, r') => ⟨[.findServiceId record svc (.ok none)], [], .ok [], r'⟩
  | (.ok (some id), r') =>
      (byId R ns svc id r').after (.findServiceId record svc (.ok (some id)))
        (.putServiceId ns svc id)

/-- The same, when nothing is known. The record of the namespace is written under its own
name, and its absence under the name that was asked for. -/
def byName (R : Registry ρ ε) (ns svc : String) (r : ρ) : Inquiry ρ ε :=
  match R.findNamespace ns r with
  | (.error e, r') => ⟨[.findNamespace ns (.error e)], [], .error e, r'⟩
  | (.ok none, r') => ⟨[.findNamespace ns (.ok none)], [.putAbsence ns], .ok [], r'⟩
  | (.ok (some record), r') =>
      (byRecord R ns svc record r').after (.findNamespace ns (.ok (some record)))
        (.putNamespace record)

end Inquiry

/-- A leg comes, after some calls, to what an inquiry comes to. -/
structure Leads (before : List (Identity × Exchange ε)) (l : Leg ρ ε) (q : Inquiry ρ ε) : Prop where
  calls_eq : l.calls.map Prod.snd = before.map Prod.snd ++ q.calls
  lessons_eq : lessons l.calls = lessons before ++ q.writes
  answer_eq : l.answer = (q.answer.mapError .registry).map fun listed => some (.endpointSet listed)
  registry_eq : l.registry = q.registry

/-- An inquiry without a call. -/
lemma leads_idle {listed : List Endpoint} :
    Leads calls (⟨calls, r, .ok (some (.endpointSet listed))⟩ : Leg ρ ε) (.idle listed r) :=
  ⟨(List.append_nil _).symm, (List.append_nil _).symm, rfl, rfl⟩

/-- A call with which an inquiry ends. -/
lemma leads_call {x : Exchange ε} {q : Inquiry ρ ε} (hcalls : q.calls = [x])
    (hwrites : q.writes = (i.lesson? x).toList)
    (ha : a = (q.answer.mapError .registry).map fun listed => some (.endpointSet listed)) :
    Leads calls ⟨calls ++ [(i, x)], q.registry, a⟩ q := by
  refine ⟨?_, ?_, ha, rfl⟩
  · rw [List.map_append, hcalls]
    rfl
  · rw [lessons_append, lessons_singleton, hwrites]

/-- A call after which an inquiry goes on. -/
lemma Leads.after {l : Leg ρ ε} {x : Exchange ε} {write : Cache.Request} {q : Inquiry ρ ε}
    (h : Leads (calls ++ [(i, x)]) l q) (hwrite : i.lesson? x = some write) :
    Leads calls l (q.after x write) := by
  refine ⟨?_, ?_, h.answer_eq, h.registry_eq⟩
  · rw [h.calls_eq, List.map_append, List.append_assoc]
    rfl
  · rw [h.lessons_eq, lessons_append, lessons_singleton, hwrite, List.append_assoc]
    rfl

/-- From the id of a service on. -/
lemma leads_byId (R : Registry ρ ε) (ns svc id : String) (r : ρ) :
    Leads calls ((⟨calls, r, .ok (some (.serviceId id))⟩ : Leg ρ ε).next R (.endpointSet ns svc))
      (.byId R ns svc id r) := by
  have hpose : R.pose (.listEndpoints ns id) r = (.listEndpoints ns id _, _) := rfl
  rw [Leg.next_of_pose rfl rfl hpose, Inquiry.byId]
  rcases R.listEndpoints ns id r with ⟨e | listed, r'⟩
  · exact leads_call (q := ⟨_, _, .error e, _⟩) rfl rfl rfl
  · exact leads_call (q := ⟨_, _, .ok listed, _⟩) rfl rfl rfl

/-- From the record of a namespace on. -/
lemma leads_byRecord (R : Registry ρ ε) (ns svc : String) (record : Namespace) (r : ρ) :
    Leads calls (((⟨calls, r, .ok (some (.namespaceRecord (some record)))⟩ : Leg ρ ε).next R
      (.serviceId ns svc)).next R (.endpointSet ns svc)) (.byRecord R ns svc record r) := by
  have hpose : R.pose (.findServiceId record svc) r = (.findServiceId record svc _, _) := rfl
  rw [Leg.next_of_pose (i := .serviceId ns svc) rfl rfl hpose, Inquiry.byRecord]
  rcases R.findServiceId record svc r with ⟨e | _ | id, r'⟩
  · rw [Leg.next_of_error rfl]
    exact leads_call (q := ⟨_, _, .error e, _⟩) rfl rfl rfl
  · rw [Leg.next_of_idle rfl rfl]
    exact leads_call (q := ⟨_, _, .ok [], _⟩) rfl rfl rfl
  · exact (leads_byId R ns svc id r').after rfl

/-- From the name of a namespace on. -/
lemma leads_byName (R : Registry ρ ε) (ns svc : String) (r : ρ) :
    Leads calls ((((⟨calls, r, .ok none⟩ : Leg ρ ε).next R (.namespaceRecord ns)).next R
      (.serviceId ns svc)).next R (.endpointSet ns svc)) (.byName R ns svc r) := by
  have hpose : R.pose (.findNamespace ns) r = (.findNamespace ns _, _) := rfl
  rw [Leg.next_of_pose (i := .namespaceRecord ns) rfl rfl hpose, Inquiry.byName]
  rcases R.findNamespace ns r with ⟨e | _ | record, r'⟩
  · rw [Leg.next_of_error (t := .registry e) rfl, Leg.next_of_error rfl]
    exact leads_call (q := ⟨_, _, .error e, _⟩) rfl rfl rfl
  · rw [Leg.next_of_idle rfl rfl, Leg.next_of_idle rfl rfl]
    exact leads_call (q := ⟨_, _, .ok [], _⟩) rfl rfl rfl
  · exact (leads_byRecord R ns svc record r').after rfl

/-! ### Announcements -/

/-- The key under which an event tells that something is written. -/
def announces? : Event → Option Key
  | .caching _ key _ => some key
  | _ => none

/-- The keys under which a trail tells that something is written, in order. -/
def announced (trail : List (Happening (Exchange ε))) : List Key :=
  (Happening.events trail).filterMap announces?

@[simp] lemma announced_append (l l' : List (Happening (Exchange ε))) :
    announced (l ++ l') = announced l ++ announced l' := by
  rw [announced, Happening.events_append, List.filterMap_append]
  rfl

/-- A computation over the cache that announces no write. -/
def Quiet (x : Action Event Cache α) : Prop := ∀ c, (x c).trail.filterMap announces? = []

/-- A computation that announces one write, or none, and calls nothing. -/
def Notes (y : Lookup ρ ε α) (write : Option Cache.Request) : Prop :=
  ∀ s, announced (y s).trail = write.toList.map (·.identity.key) ∧
    Happening.calls (y s).trail = []

/-- A part of a lookup that announces what its calls teach, and no other writes. -/
def Announces (op : Op) (x : Lookup ρ ε α) : Prop :=
  ∀ s, announced (x s).trail =
    ((Happening.calls (x s).trail).filterMap op.lesson?).map (·.identity.key)

lemma quiet_checkedGet {key : Key} {extract : Payload → Except Mismatch α}
    {report : Cache.Result (Option α) → Action Event Cache β}
    (hreport : ∀ known, Quiet (report known)) :
    Quiet (Cache.checkedGet key extract >>= report) := by
  intro c
  have hcheck : (Cache.checkedGet key extract c).trail.filterMap announces? = [] := by
    simp only [Cache.checkedGet, Action.bind_apply, Cache.onStore, Action.within_apply,
      Action.modifyGet_apply]
    rcases (c.store.get key).1 with fault | _ | p
    · rfl
    · rfl
    · cases ha : extract p <;> simp [ha, announces?]
  rw [Action.bind_apply, List.filterMap_append, hcheck, hreport]
  rfl

lemma quiet_getNamespace (ns : String) : Quiet (Cache.getNamespace ns) := by
  refine quiet_checkedGet fun known c => ?_
  rcases known with fault | _ | _ | record <;> rfl

lemma quiet_getServiceId (ns svc : String) : Quiet (Cache.getServiceId ns svc) := by
  refine quiet_checkedGet fun known c => ?_
  rcases known with fault | _ | id <;> rfl

lemma quiet_getEndpoints (ns svc : String) : Quiet (Cache.getEndpoints ns svc) := by
  refine quiet_checkedGet fun known c => ?_
  rcases known with fault | _ | listed <;> rfl

lemma notes_pure (v : α) : Notes (pure v : Lookup ρ ε α) none := fun _ => ⟨rfl, rfl⟩

/-- An answer that is remembered is announced. -/
lemma notes_remember (write : Cache.Request) {key : Key} {p : Payload} (v : α)
    (hkey : write.identity.key = key) :
    Notes (remember (Cache.put key p) v : Lookup ρ ε _) (some write) := by
  intro s
  have htrail : ((remember (Cache.put key p) v : Lookup ρ ε _) s).trail =
      (.caching p.kind key (s.cache.limits.ttl p.kind) ::
        s.cache.store.addEvents (s.cache.limits.ttl p.kind)).map .event := by
    simp [remember, attempt, onCache, Cache.put, Cache.onStore]
  have hclamped (ttl : Duration) : (s.cache.store.addEvents ttl).filterMap announces? = [] := by
    rw [Store.addEvents]
    split <;> rfl
  rw [htrail, announced, Happening.events_map_event, Happening.calls_map_event]
  simp [announces?, hclamped, hkey]

/-- Another event does not matter. -/
lemma Notes.leave {y : Lookup ρ ε α} {write : Option Cache.Request} (hy : Notes y write)
    {event : Event} (hevent : announces? event = none) :
    Notes (do .leave [.event event]; y) write := by
  intro s
  obtain ⟨hannounced, hcalls⟩ := hy s
  constructor
  · rw [Action.bind_apply, announced_append, Action.leave_apply, hannounced]
    simp [announced, Happening.events, Happening.event?, hevent]
  · rw [Action.bind_apply, Happening.calls_append, Action.leave_apply, hcalls]
    rfl

lemma announces_pure (v : α) : Announces op (pure v : Lookup ρ ε α) := fun _ => rfl

lemma Announces.bind {x : Lookup ρ ε α} {f : α → Lookup ρ ε β} (hx : Announces op x)
    (hf : ∀ v, Announces op (f v)) : Announces op (x >>= f) := by
  intro s
  rw [Action.bind_apply, announced_append, Happening.calls_append, List.filterMap_append,
    List.map_append, hx, hf]

lemma announces_attempt {x : Action Event Cache (Cache.Result α)} (hx : Quiet x) :
    Announces op (attempt x : Lookup ρ ε _) := by
  intro s
  simp [attempt, onCache, announced, hx s.cache]

/-- What a call teaches is announced after it. -/
lemma announces_ask {question : ρ → Except ε α × ρ} {exchange : Except ε α → Exchange ε}
    {h : Result ε α → Lookup ρ ε (Result ε α)}
    (hfailure : ∀ e, (exchange (.error e)).failure? = some e)
    (herror : ∀ t, h (.error t) = pure (.error t))
    (hok : ∀ v, Notes (h (.ok v)) (op.lesson? (exchange (.ok v)))) :
    Announces op (ask question exchange >>= h) := by
  intro s
  have hasked : ask question exchange s =
      ⟨(question s.registry).1.mapError .registry, { s with registry := (question s.registry).2 },
        [.call (exchange (question s.registry).1)]⟩ := rfl
  have hcall (x : Exchange ε) (w : List (Happening (Exchange ε))) :
      announced ([.call x] ++ w) = announced w ∧
        Happening.calls ([.call x] ++ w) = x :: Happening.calls w := ⟨rfl, rfl⟩
  -- A call alone announces nothing, so it is taken together with what follows it.
  rw [Action.bind_apply, hasked]
  dsimp only
  rw [(hcall _ _).1, (hcall _ _).2]
  cases (question s.registry).1 with
  | error e =>
      have hnone : op.lesson? (exchange (.error e)) = none := by
        cases hi : op.subject? (exchange (.error e)) with
        | none => rw [Op.lesson?, hi, Option.bind_none]
        | some i => rw [Op.lesson?, hi, Option.bind_some, Identity.lesson?_of_failure? (hfailure e)]
      rw [Except.mapError, herror, List.filterMap_cons_none hnone]
      rfl
  | ok v =>
      obtain ⟨hannounced, hcalls⟩ := hok v { s with registry := (question s.registry).2 }
      rw [Except.mapError, hannounced, hcalls]
      cases hlesson : op.lesson? (exchange (.ok v)) with
      | none => rw [List.filterMap_cons_none hlesson]; rfl
      | some write => rw [List.filterMap_cons_some hlesson]; rfl

lemma announces_namespaceRecord (R : Registry ρ ε) (ns svc : String) :
    Announces (.endpoints ns svc) (namespaceRecord R ns) := by
  refine (announces_attempt (quiet_getNamespace ns)).bind fun known => ?_
  rcases known with t | _ | known
  · exact announces_pure _
  · refine announces_ask (fun _ => rfl) (fun _ => rfl) fun answer => ?_
    cases answer with
    | none => exact (notes_remember (.putAbsence ns) none rfl).leave rfl
    | some record => exact notes_remember (.putNamespace record) (some record) rfl
  · exact announces_pure _

lemma announces_serviceId (R : Registry ρ ε) (ns svc : String) :
    Announces (.endpoints ns svc) (serviceId R ns svc) := by
  refine (announces_attempt (quiet_getServiceId ns svc)).bind fun known => ?_
  rcases known with t | _ | known
  · exact announces_pure _
  · refine (announces_namespaceRecord R ns svc).bind fun found => ?_
    rcases found with t | _ | record
    · exact announces_pure _
    · exact announces_pure _
    · refine announces_ask (fun _ => rfl) (fun _ => rfl) fun answer => ?_
      cases answer with
      | none => exact notes_pure _
      | some id => exact notes_remember (.putServiceId ns svc id) (some id) rfl
  · exact announces_pure _

/-- Every write of a lookup of endpoints is announced. -/
lemma announces_endpoints (R : Registry ρ ε) (ns svc : String) :
    Announces (.endpoints ns svc) (endpoints R ns svc) := by
  refine (announces_attempt (quiet_getEndpoints ns svc)).bind fun known => ?_
  rcases known with t | _ | known
  · exact announces_pure _
  · refine (announces_serviceId R ns svc).bind fun found => ?_
    rcases found with t | _ | id
    · exact announces_pure _
    · exact announces_pure _
    · exact announces_ask (fun _ => rfl) (fun _ => rfl)
        fun listed => (notes_remember (.putEndpoints ns svc listed) listed rfl).leave rfl
  · exact announces_pure _

/-! ### Lookups of endpoints -/

/-- A lookup of endpoints makes an inquiry: its calls are those, so is its answer, and
what it leaves is what comes of looking along its way and of the writes, which are
announced. -/
structure Makes (R : Registry ρ ε) (ns svc : String) (s : Session ρ) (q : Inquiry ρ ε) : Prop where
  answer : (endpoints R ns svc s).answer = q.answer.mapError .registry
  calls : Happening.calls (endpoints R ns svc s).trail = q.calls
  announced : announced (endpoints R ns svc s).trail = q.writes.map (·.identity.key)
  cache : ((s.cache.looks (Op.endpoints ns svc).way).heed q.writes).Alike
    (endpoints R ns svc s).state.cache
  registry : (endpoints R ns svc s).state.registry = q.registry

/-- An answer can be told from its words in the cache. -/
lemma eq_of_map_endpointSet {x y : Result ε (List Endpoint)}
    (h : x.map (fun listed => some (Payload.endpointSet listed)) =
      y.map fun listed => some (.endpointSet listed)) : x = y := by
  rcases x with t | listed <;> rcases y with t' | listed' <;> cases h <;> rfl

/-- A lookup makes the inquiry that leads to the end of its way. -/
lemma makes_of_leads {q : Inquiry ρ ε} (hc : s.cache.store.clock.Accurate)
    (h : Leads []
      (leg R s.cache s.registry [.endpointSet ns svc, .serviceId ns svc, .namespaceRecord ns]) q) :
    Makes R ns svc s q := by
  obtain ⟨calls, c', hcalls, halike, hcourse⟩ :=
    runs_endpoints (R := R) ns svc s.cache s.registry hc s [] ⟨.refl s.cache, rfl, rfl⟩
  rw [List.nil_append] at hcalls
  rw [hcourse.leg_eq (by simp)] at h
  have hcalled : calls.map Prod.snd = q.calls := h.calls_eq
  have hlessons : lessons calls = q.writes := h.lessons_eq
  have htold : lessons calls = (calls.map Prod.snd).filterMap (Op.endpoints ns svc).lesson? :=
    Course.lessons_eq hcourse (List.Subset.refl calls)
  refine ⟨eq_of_map_endpointSet h.answer_eq, hcalls.trans hcalled, ?_, ?_, h.registry_eq⟩
  · rw [announces_endpoints, hcalls, ← htold, hlessons]
  · rw [← hlessons]
    exact hcourse.cache_eq ▸ halike

/-- The level of a call. -/
def rank : Exchange ε → ℕ
  | .findNamespace _ _ => level .namespaceRecord
  | .findServiceId _ _ _ => level .serviceId
  | .listEndpoints _ _ _ => level .endpointSet

/-- Calls of which every one is of a level above those before it. -/
def Ordered (calls : List (Exchange ε)) : Prop := calls.Pairwise fun x y => rank x < rank y

lemma ordered_byId (R : Registry ρ ε) (ns svc id : String) (r : ρ) :
    Ordered (Inquiry.byId R ns svc id r).calls ∧
      ∀ x ∈ (Inquiry.byId R ns svc id r).calls, 1 < rank x := by
  rw [Inquiry.byId]
  rcases R.listEndpoints ns id r with ⟨e | listed, r'⟩ <;> simp [Ordered, rank, level]

lemma ordered_byRecord (R : Registry ρ ε) (ns svc : String) (record : Namespace) (r : ρ) :
    Ordered (Inquiry.byRecord R ns svc record r).calls ∧
      ∀ x ∈ (Inquiry.byRecord R ns svc record r).calls, 0 < rank x := by
  rw [Inquiry.byRecord]
  rcases R.findServiceId record svc r with ⟨e | _ | id, r'⟩
  · simp [Ordered, rank, level]
  · simp [Ordered, rank, level]
  · obtain ⟨hordered, hlate⟩ := ordered_byId R ns svc id r'
    refine ⟨List.pairwise_cons.mpr ⟨hlate, hordered⟩, List.forall_mem_cons.mpr ⟨?_, ?_⟩⟩
    · exact Nat.one_pos
    · exact fun x hx => Nat.zero_lt_of_lt (hlate x hx)

lemma ordered_byName (R : Registry ρ ε) (ns svc : String) (r : ρ) :
    Ordered (Inquiry.byName R ns svc r).calls := by
  rw [Inquiry.byName]
  rcases R.findNamespace ns r with ⟨e | _ | record, r'⟩
  · simp [Ordered]
  · simp [Ordered]
  · obtain ⟨hordered, hlate⟩ := ordered_byRecord R ns svc record r'
    exact List.pairwise_cons.mpr ⟨hlate, hordered⟩

/-- The answer that is in sight for an identity. -/
def known (s : Session ρ) (i : Identity) : Option Payload := (s.cache.sight i).map Entry.value

lemma kind_of_known {p : Payload} (h : known s i = some p) : p.kind = i.kind := by
  obtain ⟨e, hsight, rfl⟩ := Option.map_eq_some_iff.mp h
  exact (Cache.sight_eq_some_iff.mp hsight).2.2

/-- Below an answer that is in sight nothing is called. -/
lemma leg_of_known {p : Payload} (h : known s i = some p) :
    leg R s.cache r (i :: way) = ⟨[], r, .ok (some p)⟩ := by
  obtain ⟨e, hsight, rfl⟩ := Option.map_eq_some_iff.mp h
  rw [leg, hsight]

lemma leg_of_unknown (h : known s i = none) :
    leg R s.cache r (i :: way) = (leg R s.cache r way).next R i := by
  rw [leg, Option.map_eq_none_iff.mp h]

/-- The cases of a lookup of endpoints, by what is in sight. -/
inductive Begins (R : Registry ρ ε) (ns svc : String) (s : Session ρ) : Inquiry ρ ε → Prop
  | listed {listed : List Endpoint}
      (hlisted : known s (.endpointSet ns svc) = some (.endpointSet listed)) :
      Begins R ns svc s (.idle listed s.registry)
  | id {id : String} (hlisted : known s (.endpointSet ns svc) = none)
      (hid : known s (.serviceId ns svc) = some (.serviceId id)) :
      Begins R ns svc s (.byId R ns svc id s.registry)
  | absent (hlisted : known s (.endpointSet ns svc) = none)
      (hid : known s (.serviceId ns svc) = none)
      (hrecord : known s (.namespaceRecord ns) = some (.namespaceRecord none)) :
      Begins R ns svc s (.idle [] s.registry)
  | record {record : Namespace} (hlisted : known s (.endpointSet ns svc) = none)
      (hid : known s (.serviceId ns svc) = none)
      (hrecord : known s (.namespaceRecord ns) = some (.namespaceRecord (some record))) :
      Begins R ns svc s (.byRecord R ns svc record s.registry)
  | name (hlisted : known s (.endpointSet ns svc) = none)
      (hid : known s (.serviceId ns svc) = none)
      (hrecord : known s (.namespaceRecord ns) = none) :
      Begins R ns svc s (.byName R ns svc s.registry)

/-- One of the cases applies. -/
lemma exists_begins (R : Registry ρ ε) (ns svc : String) (s : Session ρ) :
    ∃ q, Begins R ns svc s q := by
  cases hlisted : known s (.endpointSet ns svc) with
  | some p =>
      have hkind := kind_of_known hlisted
      cases p with
      | endpointSet listed => exact ⟨_, .listed hlisted⟩
      | namespaceRecord | serviceId => cases hkind
  | none =>
      cases hid : known s (.serviceId ns svc) with
      | some p =>
          have hkind := kind_of_known hid
          cases p with
          | serviceId id => exact ⟨_, .id hlisted hid⟩
          | namespaceRecord | endpointSet => cases hkind
      | none =>
          cases hrecord : known s (.namespaceRecord ns) with
          | some p =>
              have hkind := kind_of_known hrecord
              cases p with
              | namespaceRecord record =>
                  cases record with
                  | none => exact ⟨_, .absent hlisted hid hrecord⟩
                  | some record => exact ⟨_, .record hlisted hid hrecord⟩
              | serviceId | endpointSet => cases hkind
          | none => exact ⟨_, .name hlisted hid hrecord⟩

/-- In each of them the lookup makes that inquiry. -/
lemma Begins.makes {q : Inquiry ρ ε} (h : Begins R ns svc s q)
    (hc : s.cache.store.clock.Accurate) : Makes R ns svc s q := by
  cases h with
  | listed hlisted =>
      refine makes_of_leads hc ?_
      rw [leg_of_known hlisted]
      exact leads_idle
  | id hlisted hid =>
      refine makes_of_leads hc ?_
      rw [leg_of_unknown hlisted, leg_of_known hid]
      exact leads_byId ..
  | absent hlisted hid hrecord =>
      refine makes_of_leads hc ?_
      rw [leg_of_unknown hlisted, leg_of_unknown hid, leg_of_known hrecord,
        Leg.next_of_idle (i := .serviceId ns svc) rfl rfl, Leg.next_of_idle rfl rfl]
      exact leads_idle
  | record hlisted hid hrecord =>
      refine makes_of_leads hc ?_
      rw [leg_of_unknown hlisted, leg_of_unknown hid, leg_of_known hrecord]
      exact leads_byRecord ..
  | name hlisted hid hrecord =>
      refine makes_of_leads hc ?_
      rw [leg_of_unknown hlisted, leg_of_unknown hid, leg_of_unknown hrecord, leg]
      exact leads_byName ..

/-- Its calls come in order. -/
lemma Begins.ordered {q : Inquiry ρ ε} (h : Begins R ns svc s q) : Ordered q.calls := by
  cases h with
  | listed | absent => exact List.Pairwise.nil
  | id => exact (ordered_byId ..).1
  | record => exact (ordered_byRecord ..).1
  | name => exact ordered_byName ..

/-- A lookup of endpoints under true readings, whatever the cache holds and whatever the
registry answers. Endpoints that are in sight are the answer, without a call. An id that
is in sight is asked about, whatever is known of the namespace. Then the absence of the
namespace is an empty answer without a call, and its record is asked about; without
either, its name is. From there on it goes from level to level until a call fails or
nothing is found, which is an empty answer, and just what was found is written. No level
is called twice, or after one above it. -/
theorem makes_inquiry (hc : s.cache.store.clock.Accurate) (R : Registry ρ ε) (ns svc : String) :
    (∀ listed, known s (.endpointSet ns svc) = some (.endpointSet listed) →
      Makes R ns svc s (.idle listed s.registry)) ∧
    (known s (.endpointSet ns svc) = none →
      (∀ id, known s (.serviceId ns svc) = some (.serviceId id) →
        Makes R ns svc s (.byId R ns svc id s.registry)) ∧
      (known s (.serviceId ns svc) = none →
        (known s (.namespaceRecord ns) = some (.namespaceRecord none) →
          Makes R ns svc s (.idle [] s.registry)) ∧
        (∀ record, known s (.namespaceRecord ns) = some (.namespaceRecord (some record)) →
          Makes R ns svc s (.byRecord R ns svc record s.registry)) ∧
        (known s (.namespaceRecord ns) = none →
          Makes R ns svc s (.byName R ns svc s.registry)))) ∧
    Ordered (Happening.calls (endpoints R ns svc s).trail) := by
  refine ⟨fun listed hlisted => (Begins.listed hlisted).makes hc, fun hlisted =>
    ⟨fun id hid => (Begins.id hlisted hid).makes hc, fun hid =>
      ⟨fun hrecord => (Begins.absent hlisted hid hrecord).makes hc,
        fun record hrecord => (Begins.record hlisted hid hrecord).makes hc,
        fun hrecord => (Begins.name hlisted hid hrecord).makes hc⟩⟩, ?_⟩
  obtain ⟨q, hbegins⟩ := exists_begins R ns svc s
  rw [(hbegins.makes hc).calls]
  exact hbegins.ordered

/-- The id of a service is in sight, and so is the absence of its namespace: the endpoints
are asked for all the same, and an empty list of them is written. -/
theorem makes_inquiry_absent :
    let R : Registry Script Failure := Script.registry
    let s : Session Script :=
      ⟨Cache.run [.request (.putServiceId "a" "b" "one"), .request (.putAbsence "a")]
        (.empty .standard .start), .empty⟩
    (endpoints R "a" "b" s).answer = .ok [] ∧
      Happening.calls (endpoints R "a" "b" s).trail = [.listEndpoints "a" "one" (.ok [])] ∧
      announced (endpoints R "a" "b" s).trail = [(Identity.endpointSet "a" "b").key] := by
  intro R s
  obtain ⟨-, hunlisted, -⟩ := makes_inquiry (s := s) rfl R "a" "b"
  have hmakes := (hunlisted (by decide)).1 "one" (by decide)
  exact ⟨hmakes.answer, hmakes.calls, hmakes.announced⟩

end Discovery.Lookup
