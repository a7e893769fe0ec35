import Discovery.Proofs.Cache.Keeping
import Discovery.Proofs.Lookup.Convergence
import Discovery.Proofs.Lookup.Course
/-!
The registry is not asked again for what it has told.

* `Exchange.told?`: what an exchange told, if it told anything;
* `Lookup.Gains`, `Lookup.Course.gains`: a lookup on a cache that keeps what it
  learns asks for nothing that is held, and what it is told is held afterwards;
* `Lookup.askedAt`, `Lookup.asked`: the exchanges of an operation, and of a run,
  that are about an identity;
* `Lookup.Thrifty`, `Lookup.Sparing.thrifty`: the same of an operation;
* `Lookup.Sparing.asked_of_never_evicted`, `Lookup.Sparing.length_told_le`: so in a
  run nothing is asked for once it was told, unless it was evicted since;
* `Lookup.asked_of_room`: in a short run with room for all that is looked up.
-/

namespace Discovery

variable {ρ ε : Type}

/-- What an exchange told, if it told anything. That there is no such namespace is
something that was told, and so is an empty list of endpoints; that there is no such
service is not. -/
def Exchange.told? : Exchange ε → Option Payload
  | .findNamespace _ (.ok record) => some (.namespaceRecord record)
  | .findServiceId _ _ (.ok (some id)) => some (.serviceId id)
  | .listEndpoints _ _ (.ok listed) => some (.endpointSet listed)
  | _ => none

lemma Exchange.told?_of_ok {x : Exchange ε} {p : Option Payload} (h : x.answer = .ok p) :
    x.told? = p := by
  rcases x with ⟨_, _ | record⟩ | ⟨_, _, _ | _ | id⟩ | ⟨_, _, _ | listed⟩ <;> cases h <;> rfl

lemma Exchange.told?_of_error {x : Exchange ε} {e : ε} (h : x.answer = .error e) :
    x.told? = none := by
  rcases x with ⟨_, _ | record⟩ | ⟨_, _, _ | _ | id⟩ | ⟨_, _, _ | listed⟩ <;> cases h <;> rfl

namespace Lookup

variable {R : Registry ρ ε} {W : Finset Identity} {stop : ℕ} {c c' : Cache} {r r' : ρ}
  {i : Identity} {way : List Identity} {calls : List (Identity × Exchange ε)}
  {a : Result ε (Option Payload)} {s : Session ρ} {op : Op} {ops : List Op}

/-! ### One lookup -/

/-- What calls do to a cache that keeps what it learns: it still does, and holds what
it held; nothing that it held was asked for, and it holds what was told. -/
structure Gains (W : Finset Identity) (stop : ℕ) (c : Cache)
    (calls : List (Identity × Exchange ε)) (c' : Cache) : Prop where
  keeps : Cache.Keeps W stop c'
  mono : ∀ i, c.Holds i → c'.Holds i
  unasked : ∀ i x, (i, x) ∈ calls → ¬ c.Holds i
  told : ∀ i x, (i, x) ∈ calls → x.told?.isSome → c'.Holds i

/-- A look first does not matter. -/
lemma Gains.of_glance (h : Gains W stop (c.glance i) calls c') (hc : Cache.Ready W stop c) :
    Gains W stop c calls c' := by
  have hholds := (hc.toKeeps.glance hc.now_le i).2
  exact ⟨h.keeps, fun j hj => h.mono j ((hholds j).mpr hj),
    fun j x hx hj => h.unasked j x hx ((hholds j).mpr hj), h.told⟩

/-- One more call, that is not about anything that is held, and what becomes of its
answer. -/
lemma Gains.concat (h : Gains W stop c calls c') {c'' : Cache} {x : Exchange ε}
    (hkeeps : Cache.Keeps W stop c'') (hmono : ∀ j, c'.Holds j → c''.Holds j) (hi : ¬ c.Holds i)
    (htold : x.told?.isSome → c''.Holds i) : Gains W stop c (calls ++ [(i, x)]) c'' := by
  refine ⟨hkeeps, fun j hj => hmono j (h.mono j hj), fun j y hy => ?_, fun j y hy hsome => ?_⟩
  · rcases List.mem_append.mp hy with hy | hy
    · exact h.unasked j y hy
    · cases List.mem_singleton.mp hy
      exact hi
  · rcases List.mem_append.mp hy with hy | hy
    · exact hmono j (h.told j y hy hsome)
    · cases List.mem_singleton.mp hy
      exact htold hsome

/-- A call that teaches nothing. -/
lemma Gains.concat_of_untold (h : Gains W stop c calls c') {x : Exchange ε} (hi : ¬ c.Holds i)
    (hx : x.told? = none) : Gains W stop c (calls ++ [(i, x)]) c' := by
  refine h.concat h.keeps (fun _ => id) hi fun hsome => ?_
  rw [hx] at hsome
  cases hsome

/-- A call whose answer is written. -/
lemma Gains.concat_put (h : Gains W stop c calls c') (hc' : Cache.Ready W stop c') (x : Exchange ε)
    (hi : ¬ c.Holds i) (hW : i ∈ W) {p : Payload} (hkind : p.kind = i.kind) :
    Gains W stop c (calls ++ [(i, x)]) (Cache.put i.key p c').state := by
  obtain ⟨hkeeps, hholds⟩ := hc'.toKeeps.put hW hkind (hc'.lasting p.kind).1 (hc'.late p.kind)
  exact h.concat hkeeps (fun j hj => (hholds j).mpr (.inr hj)) hi fun _ => (hholds i).mpr (.inl rfl)

/-- A lookup on a cache that keeps what it learns. -/
lemma Course.gains (h : Course R way c r calls c' r' a) (hR : R.WellNamed)
    (hway : ∀ i ∈ way, i ∈ W) (hc : Cache.Ready W stop c) : Gains W stop c calls c' := by
  induction h with
  | top => exact ⟨hc.toKeeps, fun _ => id, nofun, nofun⟩
  | @hit i way c r e hsight =>
      obtain ⟨hkeeps, hholds⟩ := hc.toKeeps.glance hc.now_le i
      exact ⟨hkeeps, fun j => (hholds j).mpr, nofun, nofun⟩
  | @stuck i way c r calls c' r' t hsight hbelow ih
  | @idle i way c r calls c' r' below hsight hbelow hquery ih =>
      exact (ih (List.forall_mem_cons.mp hway).2 (hc.glance i)).of_glance hc
  | @failed i way c r calls c' r' below q x r'' e hsight hbelow hquery hpose hanswer ih =>
      have hbefore := (ih (List.forall_mem_cons.mp hway).2 (hc.glance i)).of_glance hc
      exact hbefore.concat_of_untold ((hc.sight_eq_none_iff hc.now_le).mp hsight)
        (Exchange.told?_of_error hanswer)
  | @learned i way c r calls c' r' below q x r'' p hsight hbelow hquery hpose hanswer ih =>
      obtain ⟨hi, hrest⟩ := List.forall_mem_cons.mp hway
      have hbefore := (ih hrest (hc.glance i)).of_glance hc
      have hheld : ¬ c.Holds i := (hc.sight_eq_none_iff hc.now_le).mp hsight
      obtain ⟨hlimits, hclock⟩ := hbelow.limits_clock (hc.glance i).orderly.accurate
      obtain ⟨hnone, hheed⟩ | ⟨v, -, hkind, hheed⟩ := heed_lesson? hR hquery hpose hanswer c'
      · rw [hheed]
        exact hbefore.concat_of_untold hheld ((Exchange.told?_of_ok hanswer).trans hnone)
      · rw [hheed]
        exact hbefore.concat_put ((hc.glance i).of_keeps hbefore.keeps hlimits hclock) x hheld hi
          hkind

/-- A lookup asks once at most for each identity on its way. -/
lemma Course.nodup (h : Course R way c r calls c' r' a) (hway : Descending way) :
    (calls.map Prod.fst).Nodup := by
  induction h with
  | top | hit => exact List.nodup_nil
  | stuck hsight hbelow ih | idle hsight hbelow hquery ih => exact ih (List.pairwise_cons.mp hway).2
  | failed hsight hbelow hquery hpose hanswer ih | learned hsight hbelow hquery hpose hanswer ih =>
      rw [List.map_append, List.nodup_append_comm]
      refine List.nodup_cons.mpr ⟨fun hi => ?_, ih (List.pairwise_cons.mp hway).2⟩
      obtain ⟨⟨j, x⟩, hx, rfl⟩ := List.mem_map.mp hi
      exact hway.notMem (hbelow.mem_way hx).1

/-! ### One operation -/

/-- What an operation evicts. -/
def Op.evicts? : Op → Option Identity
  | .endpointsChanged ns svc => some (.endpointSet ns svc)
  | _ => none

/-- The exchanges of an operation that are about an identity. -/
def askedAt (R : Registry ρ ε) (i : Identity) (op : Op) (s : Session ρ) : List (Exchange ε) :=
  (Happening.calls (act R op s).trail).filter fun x => op.subject? x = some i

/-- What an operation does in a session that keeps what it learns. It does not ask
for what is held, and asks once at most; what it is told is held afterwards, and
what was held is, unless that is evicted. -/
structure Thrifty (R : Registry ρ ε) (W : Finset Identity) (stop : ℕ) (op : Op) (s : Session ρ) :
    Prop where
  keeps : Cache.Keeps W stop (act R op s).state.cache
  unasked : ∀ i, s.cache.Holds i → askedAt R i op s = []
  length_le : ∀ i, (askedAt R i op s).length ≤ 1
  told : ∀ i, ∀ x ∈ askedAt R i op s, x.told?.isSome → (act R op s).state.cache.Holds i
  kept : ∀ i, op.evicts? ≠ some i → s.cache.Holds i → (act R op s).state.cache.Holds i

/-- It asks for an identity not at all, or once. -/
lemma Thrifty.nil_or_singleton (h : Thrifty R W stop op s) (i : Identity) :
    askedAt R i op s = [] ∨ ∃ x, askedAt R i op s = [x] := by
  rcases Nat.le_one_iff_eq_zero_or_eq_one.mp (h.length_le i) with hzero | hone
  · exact .inl (List.length_eq_zero_iff.mp hzero)
  · exact .inr (List.length_eq_one_iff.mp hone)

/-- A lookup in a session that is ready for it. -/
lemma thrifty_of_lookup (hR : R.WellNamed) (hop : op.way ≠ []) (hway : ∀ i ∈ op.way, i ∈ W)
    (hs : Cache.Ready W stop s.cache) : Thrifty R W stop op s := by
  obtain ⟨calls, c', hcalls, halike, hcourse⟩ := came_act R hop hs.orderly.accurate (.refl s.cache)
  have hgains := hcourse.gains hR hway hs
  have hasked (i : Identity) : askedAt R i op s = (calls.filter (·.1 = i)).map Prod.snd := by
    rw [askedAt, hcalls, List.filter_map]
    congr 1
    refine List.filter_congr fun call hcall => ?_
    rw [Function.comp_apply, hcourse.subject?_of_mem hcall]
    simp
  have hmem {i : Identity} {x : Exchange ε} (hx : x ∈ askedAt R i op s) : (i, x) ∈ calls := by
    rw [hasked] at hx
    obtain ⟨⟨j, y⟩, hy, rfl⟩ := List.mem_map.mp hx
    obtain ⟨hy, hj⟩ := List.mem_filter.mp hy
    exact of_decide_eq_true hj ▸ hy
  refine ⟨hgains.keeps.of_alike halike, fun i hi => ?_, fun i => ?_, fun i x hx hsome => ?_,
    fun i _ hi => ?_⟩
  · exact List.eq_nil_iff_forall_not_mem.mpr fun x hx => hgains.unasked i x (hmem hx) hi
  · calc (askedAt R i op s).length
        = (calls.map Prod.fst).count i := by
          rw [hasked, List.length_map, List.count, List.countP_map, List.countP_eq_length_filter]
          rfl
      _ ≤ 1 := List.nodup_iff_count_le_one.mp (hcourse.nodup (descending_way op)) i
  · exact halike.holds_iff.mpr (hgains.told i x (hmem hx) hsome)
  · exact halike.holds_iff.mpr (hgains.mono i hi)

/-- An ordinary operation is a lookup, an eviction, or the passing of time. -/
lemma Op.Ordinary.cases (h : op.Ordinary) :
    op.way ≠ [] ∨ (∃ ns svc, op = .endpointsChanged ns svc) ∨
      ∃ d, op = .cache (.direct (.advance d)) := by
  cases op with
  | namespaceRecord | serviceId | endpoints => exact .inl nofun
  | endpointsChanged ns svc => exact .inr (.inl ⟨ns, svc, rfl⟩)
  | cache op =>
      rcases op with r | (_ | _ | _ | d | _)
      case direct.advance => exact .inr (.inr ⟨d, rfl⟩)
      all_goals exact absurd h id

/-- An ordinary operation leaves the limits, and a clock that reads true, on which no
time is taken back. -/
lemma limits_clock_act (R : Registry ρ ε) (hop : op.Ordinary)
    (hs : s.cache.store.clock.Accurate) :
    (act R op s).state.cache.limits = s.cache.limits ∧
      (act R op s).state.cache.store.clock.Accurate ∧
      (now s).toNanos ≤ (now (act R op s).state).toNanos := by
  rcases hop.cases with hway | ⟨ns, svc, rfl⟩ | ⟨d, rfl⟩
  · obtain ⟨calls, c', -, halike, hcourse⟩ := came_act R hway hs (.refl s.cache)
    obtain ⟨hlimits, hclock⟩ := hcourse.limits_clock hs
    have hleft : (act R op s).state.cache.store.clock = s.cache.store.clock :=
      halike.clock_eq.trans hclock
    refine ⟨halike.limits_eq.trans hlimits, hleft ▸ hs, ?_⟩
    rw [now, now, hleft]
  · have hleft : (act R (.endpointsChanged ns svc) s).state.cache.store.clock =
        s.cache.store.clock := Store.clock_remove ..
    refine ⟨rfl, hleft ▸ hs, ?_⟩
    rw [now, now, hleft]
  · obtain ⟨clock, hstate, hnow, hskews⟩ := Store.act_advance d s.cache.store
    have hleft : (act R (.cache (.direct (.advance d))) s).state.cache.store =
        { s.cache.store with clock := clock } := hstate
    refine ⟨rfl, ?_, ?_⟩
    · rw [hleft]
      exact hskews.trans hs
    · rw [now, now, hleft]
      exact hnow

/-- No time is taken back in a run. -/
lemma now_le_run (hops : ∀ op ∈ ops, op.Ordinary) (hs : s.cache.store.clock.Accurate) :
    (now s).toNanos ≤ (now (run R ops s).state).toNanos := by
  induction ops generalizing s with
  | nil => exact le_rfl
  | cons op rest ih =>
      obtain ⟨hop, hrest⟩ := List.forall_mem_cons.mp hops
      obtain ⟨-, hclock, hnow⟩ := limits_clock_act R hop hs
      exact hnow.trans (ih hrest hclock)

/-! ### A run -/

/-- The exchanges of a run that are about an identity. -/
def asked (R : Registry ρ ε) (ops : List Op) (s : Session ρ) (i : Identity) : List (Exchange ε) :=
  (Action.turns (act R) ops s).flatMap fun t => askedAt R i t.1 t.2

lemma asked_cons (R : Registry ρ ε) (op : Op) (ops : List Op) (s : Session ρ) (i : Identity) :
    asked R (op :: ops) s i = askedAt R i op s ++ asked R ops (act R op s).state i := rfl

/-- A run of ordinary operations from a session that keeps what it learns: they look
up nothing but what there is room for, the run ends by the instant, and what is
written meanwhile lives on until after it. -/
structure Sparing (R : Registry ρ ε) (W : Finset Identity) (stop : ℕ) (ops : List Op)
    (s : Session ρ) : Prop where
  keeps : Cache.Keeps W stop s.cache
  ordinary : ∀ op ∈ ops, op.Ordinary
  within : ∀ op ∈ ops, ∀ i ∈ op.way, i ∈ W
  late : ∀ kind, stop < (now s).toNanos + s.cache.limits.lifetime kind
  early : (now (run R ops s).state).toNanos ≤ stop
  lasting : ∀ t ∈ Action.turns (act R) ops s, t.1.way ≠ [] →
    Cache.Lasting s.cache.limits (now t.2)

namespace Sparing

/-- The first operation of such a run. -/
lemma thrifty (h : Sparing R W stop (op :: ops) s) (hR : R.WellNamed) : Thrifty R W stop op s := by
  rcases (h.ordinary op (List.mem_cons_self ..)).cases with hway | ⟨ns, svc, rfl⟩ | ⟨d, rfl⟩
  · have hlasting : Cache.Lasting s.cache.limits s.cache.store.clock.now :=
      h.lasting (op, s) (List.mem_cons_self ..) hway
    refine thrifty_of_lookup hR hway (h.within op (List.mem_cons_self ..)) ⟨h.keeps, ?_, hlasting,
      fun kind => ?_⟩
    · exact (now_le_run h.ordinary h.keeps.orderly.accurate).trans h.early
    · rw [hlasting.toNanos_deadline]
      exact h.late kind
  · obtain ⟨hkeeps, hholds⟩ := h.keeps.remove (.endpointSet ns svc)
    refine ⟨hkeeps, fun _ _ => rfl, fun _ => Nat.zero_le _, nofun, fun i hne hi =>
      (hholds i).mpr ⟨?_, hi⟩⟩
    rintro rfl
    exact hne rfl
  · obtain ⟨hkeeps, hholds⟩ := h.keeps.advance d
    exact ⟨hkeeps, fun _ _ => rfl, fun _ => Nat.zero_le _, nofun, fun i _ => (hholds i).mpr⟩

/-- The rest of such a run. -/
lemma tail (h : Sparing R W stop (op :: ops) s) (hR : R.WellNamed) :
    Sparing R W stop ops (act R op s).state := by
  obtain ⟨hop, hrest⟩ := List.forall_mem_cons.mp h.ordinary
  obtain ⟨hlimits, -, hnow⟩ := limits_clock_act R hop h.keeps.orderly.accurate
  refine ⟨(h.thrifty hR).keeps, hrest, (List.forall_mem_cons.mp h.within).2, fun kind => ?_,
    h.early, ?_⟩
  · rw [hlimits]
    exact lt_of_lt_of_le (h.late kind) (Nat.add_le_add_right hnow _)
  · rw [hlimits]
    exact fun t ht => h.lasting t (List.mem_cons_of_mem _ ht)

/-- What is never evicted is asked for until it is told, and never again. -/
lemma asked_of_never_evicted (h : Sparing R W stop ops s) (hR : R.WellNamed) (i : Identity)
    (hops : ∀ op ∈ ops, op.evicts? ≠ some i) :
    (asked R ops s i).Pairwise (fun x _ => x.told? = none) ∧
      (s.cache.Holds i → asked R ops s i = []) := by
  induction ops generalizing s with
  | nil => exact ⟨List.Pairwise.nil, fun _ => rfl⟩
  | cons op rest ih =>
      obtain ⟨hop, hrest⟩ := List.forall_mem_cons.mp hops
      have hfirst := h.thrifty hR
      obtain ⟨hpairwise, hnil⟩ := ih (h.tail hR) hrest
      rw [asked_cons]
      constructor
      · rcases hfirst.nil_or_singleton i with hnone | ⟨x, hx⟩
        · rwa [hnone]
        · rw [hx]
          refine List.pairwise_cons.mpr ⟨fun y hy => ?_, hpairwise⟩
          by_contra hsome
          have hheld := hfirst.told i x (by simp [hx]) (Option.isSome_iff_ne_none.mpr hsome)
          rw [hnil hheld] at hy
          cases hy
      · intro hi
        rw [hfirst.unasked i hi, hnil (hfirst.kept i hop hi), List.append_nil]

/-- What can be evicted is told once at most, and once more for each time that it
is. -/
lemma length_told_le (h : Sparing R W stop ops s) (hR : R.WellNamed) (i : Identity) :
    ((asked R ops s i).filter (·.told?.isSome)).length ≤ 1 + ops.countP (·.evicts? = some i) ∧
      (s.cache.Holds i → ((asked R ops s i).filter (·.told?.isSome)).length ≤
        ops.countP (·.evicts? = some i)) := by
  induction ops generalizing s with
  | nil => exact ⟨Nat.zero_le _, fun _ => Nat.zero_le _⟩
  | cons op rest ih =>
      have hfirst := h.thrifty hR
      obtain ⟨hle, hle_of_holds⟩ := ih (h.tail hR)
      have hone : ((askedAt R i op s).filter (·.told?.isSome)).length ≤ 1 :=
        (List.length_filter_le ..).trans (hfirst.length_le i)
      rw [asked_cons, List.filter_append, List.length_append, List.countP_cons]
      constructor
      · cases htold : (askedAt R i op s).filter (·.told?.isSome) with
        | nil =>
            rw [List.length_nil]
            omega
        | cons x l =>
            obtain ⟨hx, hsome⟩ := List.mem_filter.mp (htold ▸ List.mem_cons_self : x ∈ _)
            have hheld := hle_of_holds (hfirst.told i x hx hsome)
            rw [htold] at hone
            omega
      · intro hi
        rw [hfirst.unasked i hi, List.filter_nil, List.length_nil]
        by_cases hop : op.evicts? = some i
        · rw [if_pos (by simpa using hop)]
          omega
        · have hheld := hle_of_holds (hfirst.kept i hop hi)
          omega

end Sparing

/-- The endpoints of a service are evicted when they are known to have changed. -/
lemma countP_evicts? (ops : List Op) (ns svc : String) :
    ops.countP (·.evicts? = some (.endpointSet ns svc)) = ops.count (.endpointsChanged ns svc) := by
  rw [List.count]
  refine List.countP_congr fun op _ => ?_
  cases op <;> simp [Op.evicts?]

/-- Take a run of ordinary operations from an empty cache, on a clock that reads true,
and on a well-named registry, such that there is room for all that is looked up, that
what is written has a later deadline, and that the run is over before an entry of
any kind could have expired. Then:

* the registry is asked for a namespace until it has told the record or that there is
  none, and never again;
* it is asked for the id of a service until it has told one, and never again;
* it tells the endpoints of a service once at most, and once more for each time that
  they are known to have changed. -/
theorem asked_of_room (hR : R.WellNamed) (limits : Limits) {clock : Clock}
    (hclock : clock.Accurate) (r : ρ) (hops : ∀ op ∈ ops, op.Ordinary)
    (hroom : (ops.flatMap Op.way).toFinset.card ≤ limits.capacity.toNat)
    (hlasting : ∀ t ∈ Action.turns (act R) ops ⟨Cache.empty limits clock, r⟩, t.1.way ≠ [] →
      Cache.Lasting limits (now t.2))
    (hshort : ∀ kind, (now (run R ops ⟨Cache.empty limits clock, r⟩).state).toNanos <
      clock.now.toNanos + limits.lifetime kind) :
    let exchanges := asked R ops ⟨Cache.empty limits clock, r⟩
    (∀ ns, (exchanges (.namespaceRecord ns)).Pairwise fun x _ => x.told? = none) ∧
      (∀ ns svc, (exchanges (.serviceId ns svc)).Pairwise fun x _ => x.told? = none) ∧
      ∀ ns svc, ((exchanges (.endpointSet ns svc)).filter (·.told?.isSome)).length ≤
        1 + ops.count (.endpointsChanged ns svc) := by
  have hsparing : Sparing R (ops.flatMap Op.way).toFinset
      (now (run R ops ⟨Cache.empty limits clock, r⟩).state).toNanos ops
      ⟨Cache.empty limits clock, r⟩ := by
    refine ⟨⟨Store.orderly_empty hclock, hroom, nofun⟩, hops, fun op hop i hi => ?_, hshort, le_rfl,
      hlasting⟩
    rw [List.mem_toFinset, List.mem_flatMap]
    exact ⟨op, hop, hi⟩
  have hnever (i : Identity) (hi : i.kind ≠ .endpointSet) : ∀ op ∈ ops, op.evicts? ≠ some i := by
    rintro op - hevicts
    cases op <;> cases hevicts
    exact hi rfl
  refine ⟨fun ns => ?_, fun ns svc => ?_, fun ns svc => ?_⟩
  · exact (hsparing.asked_of_never_evicted hR _ (hnever (.namespaceRecord ns) nofun)).1
  · exact (hsparing.asked_of_never_evicted hR _ (hnever (.serviceId ns svc) nofun)).1
  · rw [← countP_evicts?]
    exact (hsparing.length_told_le hR (.endpointSet ns svc)).1

/-- A service whose endpoints are looked up three times, with room for just its three
entries: its namespace and its id are asked for once, and its endpoints twice, as
they are known to have changed in between. -/
theorem asked_of_room_single :
    let R := (⟨fun ns => some ⟨"ns-1", ns, .http⟩, fun _ _ => some "srv-1", fun _ _ => []⟩ :
      Directory).registry String
    let ops : List Op := [.endpoints "a" "b", .cache (.direct (.advance (.ofSecs 4))),
      .endpoints "a" "b", .endpointsChanged "a" "b", .endpoints "a" "b"]
    let exchanges := asked R ops ⟨Cache.empty (.ofCapacity 3) .start, ()⟩
    (exchanges (.namespaceRecord "a")).Pairwise (fun x _ => x.told? = none) ∧
      (exchanges (.serviceId "a" "b")).Pairwise (fun x _ => x.told? = none) ∧
      (exchanges (.endpointSet "a" "b")).length = 2 ∧
      ((exchanges (.endpointSet "a" "b")).filter (·.told?.isSome)).length ≤ 2 := by
  intro R ops exchanges
  have hR : R.WellNamed := by
    rintro ns r record ⟨⟩
    rfl
  have hops : ∀ op ∈ ops, op.Ordinary := by simp [ops, Op.Ordinary]
  have hlasting : ∀ t ∈ Action.turns (act R) ops ⟨Cache.empty (.ofCapacity 3) .start, ()⟩,
      t.1.way ≠ [] → Cache.Lasting (.ofCapacity 3) (now t.2) := by
    simp only [ops, Action.turns_cons, Action.turns_nil, List.forall_mem_cons]
    refine ⟨fun _ kind => ?_, fun hnone => absurd rfl hnone, fun _ kind => ?_,
      fun hnone => absurd rfl hnone, fun _ kind => ?_, List.forall_mem_nil _⟩ <;>
      cases kind <;> decide
  have hshort : ∀ kind, (now (run R ops ⟨Cache.empty (.ofCapacity 3) .start, ()⟩).state).toNanos <
      Clock.start.now.toNanos + (Limits.ofCapacity 3).lifetime kind := by
    intro kind
    cases kind <;> decide
  obtain ⟨hrecord, hid, hlisted⟩ :=
    asked_of_room hR (.ofCapacity 3) Clock.accurate_start () hops (by decide) hlasting hshort
  exact ⟨hrecord "a", hid "a" "b", by decide, hlisted "a" "b"⟩

end Lookup

end Discovery
