import Discovery.Proofs.Cache.Guard
import Discovery.Proofs.Lookup.Frugality
import Discovery.Registry.Script
/-!
Registries that give a namespace by another name than the one it was asked for.

* `Cache.Neat`: the keys of a cache are distinct, and every entry was filed under the key
  that it is written under;
* `Lookup.neat_run`: so it is after any run of clients on any registry;
* `Lookup.Resolved`, `Lookup.resolved_namespaceRecord`: the courses of the lookup of a
  namespace, with what they write and under which name;
* `Lookup.Resolved.entries_of_ne`: it changes the entries of another name only if that is
  the name of the record that it was told;
* `Lookup.calls_again`: when it is made again, it makes a call if the record has another
  name;
* `Lookup.files_by_name`: what is known of a name is a record of that name, and a record
  that was told under another name is asked for again.
-/

namespace Discovery

namespace Cache

variable {limits : Limits} {c c' : Cache} {e : Entry Key Payload} {record : Namespace}

/-! ### Neat caches -/

/-- A cache with given limits, on a clock that reads true, that has distinct keys, and
in which every entry is under the key under which some request writes it. -/
structure Neat (limits : Limits) (c : Cache) : Prop where
  limits_eq : c.limits = limits
  capacity_eq : c.store.capacity = limits.capacity.toNat
  accurate : c.store.clock.Accurate
  tidy : c.store.Tidy
  filed : ∀ e ∈ c.store.entries, ∃ w : Request, e.key = w.identity.key ∧ w.effect = .writes e.value

namespace Neat

lemma empty {clock : Clock} (h : clock.Accurate) : Neat limits (empty limits clock) :=
  ⟨rfl, rfl, h, Store.tidy_empty .., nofun⟩

lemma of_alike (h : Neat limits c) (halike : c.Alike c') : Neat limits c' := by
  refine ⟨halike.limits_eq.trans h.limits_eq, halike.capacity_eq.trans h.capacity_eq,
    halike.clock_eq.symm ▸ h.accurate, ⟨?_, ?_⟩, halike.entries_eq.symm ▸ h.filed⟩
  · rw [Store.keys, halike.entries_eq]
    exact h.tidy.nodup
  · rw [Store.keys, halike.entries_eq, halike.capacity_eq]
    exact h.tidy.length_le

/-- A request keeps a cache neat. -/
lemma serve (h : Neat limits c) (r : Request) : Neat limits (serve r c).state := by
  obtain ⟨hlimits, hclock⟩ := limits_clock_serve h.accurate r
  refine ⟨hlimits.trans h.limits_eq, (capacity_serve r c).trans h.capacity_eq,
    hclock.symm ▸ h.accurate, tidy_serve h.tidy r, fun e he => ?_⟩
  rcases mem_entries_serve h.accurate he with ⟨he, -⟩ | ⟨p, heffect, rfl⟩
  · exact h.filed e he
  · exact ⟨r, rfl, heffect⟩

/-- And so does a look. -/
lemma glance (h : Neat limits c) (i : Identity) : Neat limits (c.glance i) := by
  refine (h.serve i.lookup).of_alike ?_
  rw [state_lookup]
  exact (fetch_of_accurate h.accurate i).2

lemma looks (h : Neat limits c) (way : List Identity) : Neat limits (c.looks way) := by
  induction way generalizing c with
  | nil => exact h
  | cons i way ih =>
      rw [Cache.looks]
      split
      · exact h.glance i
      · exact ih (h.glance i)

lemma heed (h : Neat limits c) (requests : List Request) : Neat limits (c.heed requests) := by
  induction requests generalizing c with
  | nil => exact h
  | cons r rest ih => exact ih (h.serve r)

/-- The record of a namespace is held under its own name. -/
lemma key_eq (h : Neat limits c) (he : e ∈ c.store.entries)
    (hvalue : e.value = .namespaceRecord (some record)) :
    e.key = (Identity.namespaceRecord record.name).key := by
  obtain ⟨w, hkey, heffect⟩ := h.filed e he
  rw [hvalue] at heffect
  cases w <;> cases heffect
  exact hkey

/-- A hit for the name of a namespace is not the record of another one. -/
lemma name_eq (h : Neat limits c) {ns : String}
    (hhit : (getNamespace ns c).answer = .ok (some (some record))) : record.name = ns := by
  have hfetch : (fetch (.namespaceRecord ns) c).answer =
      .ok (some (.namespaceRecord (some record))) := by
    rw [← (fetches_getNamespace ns c).2, hhit]
    rfl
  obtain ⟨e, now, he, hkey, hvalue, -⟩ := exists_of_fetch_eq_some hfetch
  have hkeys := (h.key_eq he hvalue).symm.trans hkey
  exact Identity.namespaceRecord.inj (Identity.key_injective hkeys)

end Neat

end Cache

namespace Lookup

variable {ρ ε : Type} {R : Registry ρ ε} {limits : Limits} {s : Session ρ} {op : Op}
  {ops : List Op}

/-- An ordinary operation keeps the cache neat. -/
lemma neat_act (R : Registry ρ ε) (hop : op.Ordinary) (h : Cache.Neat limits s.cache) :
    Cache.Neat limits (act R op s).state.cache := by
  rcases hop.cases with hway | ⟨ns, svc, rfl⟩ | ⟨d, rfl⟩
  · obtain ⟨calls, c', -, halike, hcourse⟩ := came_act R hway h.accurate (.refl s.cache)
    exact (hcourse.cache_eq ▸ (h.looks _).heed _).of_alike halike
  · exact h.serve (.evictEndpoints ns svc)
  · obtain ⟨clock, hstate, -, hskews⟩ := Cache.act_advance d s.cache
    have hleft : (act R (.cache (.direct (.advance d))) s).state.cache =
        { s.cache with store := { s.cache.store with clock := clock } } := hstate
    rw [hleft]
    exact ⟨h.limits_eq, h.capacity_eq, hskews.trans h.accurate, ⟨h.tidy.nodup, h.tidy.length_le⟩,
      h.filed⟩

/-- And so does a run. -/
lemma neat_run (R : Registry ρ ε) (hops : ∀ op ∈ ops, op.Ordinary)
    (h : Cache.Neat limits s.cache) : Cache.Neat limits (run R ops s).state.cache :=
  (Action.keeps_each (I := fun s : Session ρ => Cache.Neat limits s.cache)
    (fun op hop _ hs => neat_act R (hops op hop) hs) h).2

/-! ### The lookup of a namespace -/

/-- Under which name an answer is written to the question for a name. -/
def filedUnder (ns : String) : Option Namespace → Identity
  | some record => .namespaceRecord record.name
  | none => .namespaceRecord ns

/-- The courses of the lookup of a namespace: the calls that it makes, the cache that it
leaves and what it comes to. -/
inductive Resolved (ns : String) (c : Cache) :
    List (Exchange ε) → Cache → Result ε (Option Namespace) → Prop
  | hit {e known} (hsight : c.sight (.namespaceRecord ns) = some e)
      (hvalue : e.value = .namespaceRecord known) :
      Resolved ns c [] (c.glance (.namespaceRecord ns)) (.ok known)
  | failed {e} (hsight : c.sight (.namespaceRecord ns) = none) :
      Resolved ns c [.findNamespace ns (.error e)] (c.glance (.namespaceRecord ns))
        (.error (.registry e))
  | learned {known} (hsight : c.sight (.namespaceRecord ns) = none) :
      Resolved ns c [.findNamespace ns (.ok known)]
        (Cache.put (filedUnder ns known).key (.namespaceRecord known)
          (c.glance (.namespaceRecord ns))).state (.ok known)

/-- The lookup of a namespace takes one of these courses. -/
lemma resolved_namespaceRecord (R : Registry ρ ε) (ns : String)
    (hc : s.cache.store.clock.Accurate) :
    ∃ c', Resolved ns s.cache (Happening.calls (namespaceRecord R ns s).trail) c'
      (namespaceRecord R ns s).answer ∧ c'.Alike (namespaceRecord R ns s).state.cache := by
  obtain ⟨calls, c', hcalls, halike, hcourse⟩ :=
    runs_namespaceRecord (R := R) ns s.cache s.registry hc s [] ⟨.refl s.cache, rfl, rfl⟩
  rw [List.nil_append] at hcalls
  refine ⟨c', ?_, halike⟩
  rw [hcalls]
  generalize (namespaceRecord R ns s).answer = answer,
    (namespaceRecord R ns s).state.registry = left at hcourse ⊢
  generalize ha : answer.map (fun record => some (Payload.namespaceRecord record)) = a at hcourse
  cases hcourse with
  | hit hsight =>
      rcases answer with t | known
      · cases ha
      · exact .hit hsight (Option.some.inj (Except.ok.inj ha)).symm
  | stuck hsight hbelow => cases hbelow
  | idle hsight hbelow hquery => cases hquery
  | failed hsight hbelow hquery hpose hanswer =>
      cases hbelow
      cases hquery
      cases hpose
      rcases answer with t | known
      · cases ha
        generalize (R.findNamespace ns s.registry).1 = told at hanswer
        rcases told with e | known <;> cases hanswer
        exact .failed hsight
      · cases ha
  | learned hsight hbelow hquery hpose hanswer =>
      cases hbelow
      cases hquery
      cases hpose
      rcases answer with t | known
      · cases ha
      · generalize (R.findNamespace ns s.registry).1 = told at hanswer
        rcases told with e | told <;> cases hanswer
        cases ha
        cases known <;> exact .learned hsight

namespace Resolved

variable {ns other : String} {c c' : Cache} {calls : List (Exchange ε)}
  {a : Result ε (Option Namespace)} {e : Entry Key Payload}

/-- What is in sight is the answer, without a call. -/
lemma of_sight (h : Resolved ns c calls c' a) (hsight : c.sight (.namespaceRecord ns) = some e)
    {known : Option Namespace} (hvalue : e.value = .namespaceRecord known) :
    calls = [] ∧ a = .ok known := by
  cases h with
  | hit hsight' hvalue' =>
      rw [hsight] at hsight'
      obtain rfl := Option.some.inj hsight'
      rw [hvalue] at hvalue'
      exact ⟨rfl, congrArg Except.ok (Payload.namespaceRecord.inj hvalue').symm⟩
  | failed hnone | learned hnone =>
      rw [hsight] at hnone
      cases hnone

/-- Without anything in sight there is a call. -/
lemma calls_ne_nil (h : Resolved ns c calls c' a) (hnone : c.sight (.namespaceRecord ns) = none) :
    calls ≠ [] := by
  cases h with
  | hit hsight =>
      rw [hnone] at hsight
      cases hsight
  | failed | learned => exact List.cons_ne_nil _ _

/-- The entries of another name are left alone, unless that is the name of the record
that was told; one of them can only be pushed out of a full cache. -/
lemma entries_of_ne (h : Resolved ns c calls c' a) (hc : Cache.Neat limits c) (hne : other ≠ ns)
    (htold : ∀ record, .findNamespace ns (.ok (some record)) ∈ calls → record.name ≠ other)
    (hkey : e.key = (Identity.namespaceRecord other).key) :
    (e ∈ c'.store.entries → e ∈ c.store.entries) ∧
      (e ∈ c.store.entries → e ∈ c'.store.entries ∨
        (c.store.count = c.store.capacity ∧ c.store.entries.getLast? = some e)) := by
  have hbeside : e.key ≠ (Identity.namespaceRecord ns).key := fun heq =>
    hne (Identity.namespaceRecord.inj (Identity.key_injective (hkey.symm.trans heq)))
  have hglance := Cache.mem_entries_glance_iff (c := c) hbeside
  cases h with
  | hit | failed => exact ⟨hglance.mp, fun he => .inl (hglance.mpr he)⟩
  | @learned known hsight =>
      have hlooked : Cache.Neat limits (c.glance (.namespaceRecord ns)) := hc.glance _
      have hwritten : e.key ≠ (filedUnder ns known).key := by
        rw [hkey]
        intro heq
        have hname := Identity.key_injective heq
        cases known with
        | none => exact hne (Identity.namespaceRecord.inj hname)
        | some record =>
            exact htold record (List.mem_singleton_self _) (Identity.namespaceRecord.inj hname).symm
      constructor
      · intro he
        rw [Cache.entries_put hlooked.accurate] at he
        rcases List.mem_cons.mp (List.mem_of_mem_take he) with rfl | he
        · exact absurd rfl hwritten
        · exact hglance.mp (Store.mem_others.mp he).1
      · intro he
        refine or_iff_not_imp_left.mpr fun hgone => ?_
        obtain ⟨-, hfull, hlast⟩ :=
          Store.full_of_notMem_add hlooked.tidy (hglance.mpr he) hwritten hgone
        rw [Cache.capacity_glance] at hfull
        -- Had the look dropped an entry, there would have been room for the write.
        have hsame := Cache.glance_eq_of_full hc.tidy hsight hfull
        rw [hsame] at hfull hlast
        exact ⟨hfull, hlast⟩

/-- After an answer that was asked for, what is in sight is that answer, if it was written
under the name that was asked for. -/
lemma sight_eq_some_iff {x : Option Namespace} (h : Resolved (ε := ε) ns c calls c' (.ok x))
    (hc : Cache.Neat limits c) (hmiss : c.sight (.namespaceRecord ns) = none)
    (hroom : 0 < limits.capacity.toNat) (httl : limits.namespaceTtl ≠ .zero)
    (hend : (c.store.clock.now.add? (limits.namespaceTtl.shorter Store.maxTtl)).isSome) :
    c'.sight (.namespaceRecord ns) = some e ↔ filedUnder ns x = .namespaceRecord ns ∧
      e = Store.entry (Identity.namespaceRecord ns).key (.namespaceRecord x) limits.namespaceTtl
        c.store.clock.now := by
  cases h with
  | hit hsight =>
      rw [hmiss] at hsight
      cases hsight
  | learned hsight =>
      have hlooked : Cache.Neat limits (c.glance (.namespaceRecord ns)) := hc.glance _
      have hkind : (filedUnder ns x).kind = .namespaceRecord := by cases x <;> rfl
      have hpayload : (Payload.namespaceRecord x).kind = (filedUnder ns x).kind := hkind.symm
      have httls : (c.glance (.namespaceRecord ns)).limits.ttl (filedUnder ns x).kind =
          limits.namespaceTtl := by
        rw [hlooked.limits_eq, hkind]
        rfl
      rw [Cache.sight_put_eq_some_iff hlooked.accurate (hlooked.capacity_eq ▸ hroom)
        (httls ▸ httl) (by rw [httls, Cache.clock_glance]; exact hend) hpayload
        (Cache.find?_glance_of_sight_eq_none hsight), httls, Cache.clock_glance]
      refine and_congr_right fun hname => ?_
      rw [hname]

end Resolved

/-- An answer is written under the name that was asked for just if it is that there is no
such namespace, or a record of that name. -/
lemma filedUnder_eq_iff {ns : String} {x : Option Namespace} :
    filedUnder ns x = .namespaceRecord ns ↔
      x = none ∨ ∃ record, x = some record ∧ record.name = ns := by
  cases x <;> simp [filedUnder]

/-- Nothing is in sight for a name after a miss of its lookup in the cache. -/
lemma sight_of_miss {ns : String} {c : Cache} (hc : c.store.clock.Accurate)
    (hmiss : (Cache.getNamespace ns c).answer = .ok none) :
    c.sight (.namespaceRecord ns) = none := by
  have hfetch := (Cache.fetches_getNamespace ns c).2
  rw [hmiss, (Cache.fetch_of_accurate hc _).1] at hfetch
  exact Option.map_eq_none_iff.mp (Except.ok.inj hfetch).symm

/-- The lookup of a name that the cache misses, made again at once, even of another
registry: it makes no call just if the first answer was written under that name, and then
it is answered the same. -/
lemma calls_again {ns : String} (hs : Cache.Neat limits s.cache)
    (hroom : 0 < limits.capacity.toNat) (httl : limits.namespaceTtl ≠ .zero)
    (hend : (s.cache.store.clock.now.add? (limits.namespaceTtl.shorter Store.maxTtl)).isSome)
    (hmiss : (Cache.getNamespace ns s.cache).answer = .ok none) {x : Option Namespace}
    (hx : (namespaceRecord R ns s).answer = .ok x) (R' : Registry ρ ε) (r' : ρ) :
    let again := namespaceRecord R' ns ⟨(namespaceRecord R ns s).state.cache, r'⟩
    (Happening.calls again.trail = [] ↔ filedUnder ns x = .namespaceRecord ns) ∧
      (filedUnder ns x = .namespaceRecord ns → again.answer = .ok x) := by
  intro again
  obtain ⟨c', hfirst, halike⟩ := resolved_namespaceRecord R ns hs.accurate
  rw [hx] at hfirst
  have hordinary : (Op.namespaceRecord ns).Ordinary := trivial
  have hleft : Cache.Neat limits (namespaceRecord R ns s).state.cache := neat_act R hordinary hs
  obtain ⟨c'', hsecond, -⟩ := resolved_namespaceRecord R' ns
    (s := ⟨(namespaceRecord R ns s).state.cache, r'⟩) hleft.accurate
  have hsight (e : Entry Key Payload) := halike.sight_eq (.namespaceRecord ns) ▸
    hfirst.sight_eq_some_iff (e := e) hs (sight_of_miss hs.accurate hmiss) hroom httl hend
  by_cases hname : filedUnder ns x = .namespaceRecord ns
  · obtain ⟨hcalls, hanswer⟩ := hsecond.of_sight ((hsight _).mpr ⟨hname, rfl⟩) rfl
    exact ⟨iff_of_true hcalls hname, fun _ => hanswer⟩
  · have hnone : (namespaceRecord R ns s).state.cache.sight (.namespaceRecord ns) = none := by
      rw [Option.eq_none_iff_forall_ne_some]
      exact fun e he => hname ((hsight e).mp he).1
    exact ⟨iff_of_false (hsecond.calls_ne_nil hnone) hname, fun h => absurd h hname⟩

/-! ### Runs on any registry -/

/-- Take a run of ordinary operations from an empty cache, on a clock that reads true, and
on any registry, also one that gives a namespace by another name than the one it was asked
for. Then every record of a namespace is held under its own name, so that a hit for a name
is the absence of that namespace, or its record. And for a lookup of a namespace after the
run:

* the entries of another name stay as they are, unless the registry told the record of that
  very name; one of them can only be pushed out of a full cache;
* if the cache missed the name and the lookup has an answer, then the lookup is answered
  again without a call just if that answer is the absence of the namespace or a record of
  the name that was asked for, as long as there is room, and the time to live of namespaces
  has an end. -/
theorem files_by_name (R : Registry ρ ε) (limits : Limits) {clock : Clock}
    (hclock : clock.Accurate) (r : ρ) (hops : ∀ op ∈ ops, op.Ordinary) :
    let s := (run R ops ⟨Cache.empty limits clock, r⟩).state
    (∀ e ∈ s.cache.store.entries, ∀ record, e.value = .namespaceRecord (some record) →
      e.key = (Identity.namespaceRecord record.name).key) ∧
    (∀ ns record, (Cache.getNamespace ns s.cache).answer = .ok (some (some record)) →
      record.name = ns) ∧
    ∀ ns,
      (∀ other, other ≠ ns →
        (∀ record, .findNamespace ns (.ok (some record)) ∈
          Happening.calls (namespaceRecord R ns s).trail → record.name ≠ other) →
        ∀ e, e.key = (Identity.namespaceRecord other).key →
          (e ∈ (namespaceRecord R ns s).state.cache.store.entries → e ∈ s.cache.store.entries) ∧
          (e ∈ s.cache.store.entries →
            e ∈ (namespaceRecord R ns s).state.cache.store.entries ∨
              (s.cache.store.count = s.cache.store.capacity ∧
                s.cache.store.entries.getLast? = some e))) ∧
      (0 < limits.capacity.toNat → limits.namespaceTtl ≠ .zero →
        (s.cache.store.clock.now.add? (limits.namespaceTtl.shorter Store.maxTtl)).isSome →
        (Cache.getNamespace ns s.cache).answer = .ok none →
        ∀ x, (namespaceRecord R ns s).answer = .ok x → ∀ (R' : Registry ρ ε) (r' : ρ),
          let again := namespaceRecord R' ns ⟨(namespaceRecord R ns s).state.cache, r'⟩
          (Happening.calls again.trail = [] ↔
            x = none ∨ ∃ record, x = some record ∧ record.name = ns) ∧
          (Happening.calls again.trail = [] → again.answer = .ok x)) := by
  intro s
  have hs : Cache.Neat limits s.cache := neat_run R hops (.empty hclock)
  refine ⟨fun e he record hvalue => hs.key_eq he hvalue, fun ns record hhit => hs.name_eq hhit,
    fun ns => ⟨fun other hne htold e hkey => ?_, fun hroom httl hend hmiss x hx R' r' => ?_⟩⟩
  · obtain ⟨c', hcourse, halike⟩ := resolved_namespaceRecord R ns hs.accurate
    rw [halike.entries_eq]
    exact hcourse.entries_of_ne hs hne htold hkey
  · obtain ⟨hcalls, hanswer⟩ := calls_again hs hroom httl hend hmiss hx R' r'
    exact ⟨hcalls.trans filedUnder_eq_iff, fun hnil => hanswer (hcalls.mp hnil)⟩

/-- A registry that tells the record of another namespace: a second lookup asks again, and
what is known of a third name stays. -/
theorem files_by_name_foreign :
    let R : Registry Script Failure := Script.registry
    let r : Script := { Script.empty with namespaces := [("a", ⟨"ns-1", "b", .http⟩)] }
    let o := namespaceRecord R "a" (run R [.namespaceRecord "b", .namespaceRecord "c"]
      ⟨Cache.empty .standard .start, r⟩).state
    Store.entry (Identity.namespaceRecord "c").key (.namespaceRecord none) (.ofSecs 120)
        Clock.origin ∈ o.state.cache.store.entries ∧
      ∀ r', Happening.calls (namespaceRecord R "a" ⟨o.state.cache, r'⟩).trail ≠ [] := by
  intro R r
  dsimp only
  have hops : ∀ op ∈ [Op.namespaceRecord "b", .namespaceRecord "c"], op.Ordinary := by
    simp [Op.Ordinary]
  have htold : (Happening.calls (namespaceRecord R "a"
      (run R [.namespaceRecord "b", .namespaceRecord "c"]
        ⟨Cache.empty .standard .start, r⟩).state).trail).map Exchange.told? =
      [some (.namespaceRecord (some ⟨"ns-1", "b", .http⟩))] := by decide
  have hforeign : ¬ (some (⟨"ns-1", "b", .http⟩ : Namespace) = none ∨
      ∃ record, some (⟨"ns-1", "b", .http⟩ : Namespace) = some record ∧ record.name = "a") := by
    simp
  obtain ⟨-, -, hlookup⟩ := files_by_name R .standard Clock.accurate_start r hops
  obtain ⟨hbeside, hagain⟩ := hlookup "a"
  constructor
  · have hother := hbeside "c" (by decide) fun record hcall => by
      have hrecord := List.mem_map_of_mem (f := Exchange.told?) hcall
      rw [htold] at hrecord
      obtain rfl : record = ⟨"ns-1", "b", .http⟩ := by simpa [Exchange.told?] using hrecord
      decide
    have hheld := hother (Store.entry (Identity.namespaceRecord "c").key (.namespaceRecord none)
      (.ofSecs 120) Clock.origin) rfl
    rcases hheld.2 (by decide) with hkept | ⟨hfull, -⟩
    · exact hkept
    · exact absurd hfull (by decide)
  · intro r' hnil
    obtain ⟨hcalls, -⟩ := hagain (by decide) (by decide) (by decide) (by decide)
      (some ⟨"ns-1", "b", .http⟩) (by decide) R r'
    exact hforeign (hcalls.mp hnil)

end Lookup

end Discovery
