import Discovery.Proofs.Cache.Discipline
import Discovery.Proofs.Cache.Glance
import Discovery.Proofs.Store.Departure
/-!
Lookups of a cache that holds anything under any key.

* `Cache.tidy_run`: the keys of a cache are distinct after any run;
* `Cache.Live`: what is held under the key of an identity, is shown and has not expired;
* `Cache.sight_eq_some_iff_live`, `Cache.stray_eq_some_iff_live`: it is in sight if it is
  of the identity's kind, and has strayed there if it is not;
* `Cache.answer_trail_lookup`: what a lookup is answered with, and what it logs;
* `Cache.Guarded`, `Cache.guarded_lookup`: a lookup finds what is live and of the right
  kind, and otherwise clears its key of all that is shown.
-/

namespace Discovery

/-- The reply to the lookup of an identity of which an answer is known, or none. -/
def Identity.reply : Identity → Option Payload → Cache.Reply
  | _, some p => p.reply
  | .namespaceRecord _, none => .namespaceRecord none
  | .serviceId _ _, none => .serviceId none
  | .endpointSet _ _, none => .endpointSet none

/-- The event that reports such a reply. -/
def Identity.report : Identity → Option Payload → Event
  | .namespaceRecord ns, some (.namespaceRecord none) => .namespaceHitAbsent ns
  | .namespaceRecord ns, some _ => .namespaceHit ns
  | .namespaceRecord ns, none => .namespaceMiss ns
  | .serviceId ns svc, some _ => .serviceIdHit ns svc
  | .serviceId ns svc, none => .serviceIdMiss ns svc
  | .endpointSet ns svc, some _ => .endpointsHit ns svc
  | .endpointSet ns svc, none => .endpointsMiss ns svc

namespace Cache

variable {α : Type} {c : Cache} {i : Identity} {e : Entry Key Payload}

/-! ### Distinct keys -/

/-- Every request leaves the keys distinct. -/
lemma tidy_serve (hs : c.store.Tidy) (r : Request) : (serve r c).state.store.Tidy := by
  rw [state_serve]
  cases r.effect with
  | reads =>
      have hcourse := fetch_fetched r.identity c
      generalize (fetch r.identity c).answer = answer, (fetch r.identity c).state = left at hcourse
      cases hcourse with
      | refused | absent | found => exact hs.get _
      | dropped => exact (hs.get _).remove _
  | writes p => exact hs.add _ p _
  | evicts => exact hs.remove _

/-- So does every operation. -/
lemma tidy_act (hs : c.store.Tidy) (op : Op) : (act op c).state.store.Tidy := by
  cases op with
  | request r => exact tidy_serve hs r
  | direct op => exact Store.tidy_act hs op

/-- And every run of them, from a cache without entries. -/
lemma tidy_run (limits : Limits) (clock : Clock) (ops : List Op) :
    (run ops (empty limits clock)).store.Tidy :=
  (Action.keeps_each (I := fun c : Cache => c.store.Tidy) (fun op _ _ h => tidy_act h op)
    (Store.tidy_empty ..)).2

/-! ### What is held under a key -/

/-- An entry that is held under the key of an identity, and is live: the backing cache shows
it, and its deadline is to come. -/
def Live (c : Cache) (i : Identity) (e : Entry Key Payload) : Prop :=
  e ∈ c.store.entries ∧ e.key = i.key ∧ e.Shown ∧ c.store.clock.now < e.deadline

/-- The live entry under the key of an identity, if it is of another kind. -/
def stray (c : Cache) (i : Identity) : Option (Entry Key Payload) :=
  (c.store.find? i.key).filter fun e => c.store.clock.now < e.deadline ∧ e.value.kind ≠ i.kind

/-- Among distinct keys, the live entry of a key is the one that is found. -/
lemma live_iff (hs : c.store.keys.Nodup) :
    c.Live i e ↔ c.store.find? i.key = some e ∧ c.store.clock.now < e.deadline := by
  constructor
  · rintro ⟨he, hkey, hshown, hlive⟩
    exact ⟨(Store.find?_eq_some_iff hs).mpr ⟨he, hkey, hshown⟩, hlive⟩
  · rintro ⟨hfind, hlive⟩
    obtain ⟨he, hkey, hshown⟩ := Store.find?_some hfind
    exact ⟨he, hkey, hshown, hlive⟩

/-- Unless the timer of the backing cache is ahead, an entry is live as long as its deadline
is to come. -/
lemma live_iff_of_timerLags (h : c.store.TimerLags) :
    c.Live i e ↔ e ∈ c.store.entries ∧ e.key = i.key ∧ c.store.clock.now < e.deadline := by
  constructor
  · rintro ⟨he, hkey, -, hlive⟩
    exact ⟨he, hkey, hlive⟩
  · rintro ⟨he, hkey, hlive⟩
    have hshown : e.Shown := by
      by_contra hhidden
      exact h.deadline_le he hhidden hlive
    exact ⟨he, hkey, hshown, hlive⟩

lemma sight_eq_some_iff_live (hs : c.store.keys.Nodup) :
    c.sight i = some e ↔ c.Live i e ∧ e.value.kind = i.kind := by
  rw [sight_eq_some_iff, live_iff hs, and_assoc]

lemma stray_eq_some_iff :
    c.stray i = some e ↔
      c.store.find? i.key = some e ∧ c.store.clock.now < e.deadline ∧ e.value.kind ≠ i.kind := by
  rw [stray, Option.filter_eq_some_iff, decide_eq_true_iff]

lemma stray_eq_some_iff_live (hs : c.store.keys.Nodup) :
    c.stray i = some e ↔ c.Live i e ∧ e.value.kind ≠ i.kind := by
  rw [stray_eq_some_iff, live_iff hs, and_assoc]

/-- Where something has strayed, nothing is in sight. -/
lemma sight_of_stray (h : c.stray i = some e) : c.sight i = none := by
  obtain ⟨hfind, -, hkind⟩ := stray_eq_some_iff.mp h
  simp [sight, hfind, hkind]

/-- Where nothing is found, nothing has strayed. -/
lemma stray_of_find?_eq_none (h : c.store.find? i.key = none) : c.stray i = none := by
  rw [stray, h, Option.filter_none]

/-! ### A lookup -/

lemma identity_lookup (i : Identity) : i.lookup.identity = i := by
  cases i <;> rfl

lemma effect_lookup (i : Identity) : i.lookup.effect = .reads := by
  cases i <;> rfl

/-- What a lookup makes of the cache is what a fetch does. -/
lemma state_lookup (i : Identity) (c : Cache) : (serve i.lookup c).state = (fetch i c).state := by
  rw [state_serve, effect_lookup, identity_lookup]

/-- A checked read whose answers are the payloads of the expected kind reports what has
strayed under its key. -/
lemma trail_checkedGet_of_accurate (hc : c.store.clock.Accurate)
    {extract : Payload → Except Mismatch α} {wrap : α → Payload}
    (hextract : ∀ p, (extract p).map wrap = p.expect i.kind) :
    (checkedGet i.key extract c).trail =
      (c.stray i).toList.map fun e => .mismatch i.key i.kind e.value.kind := by
  simp only [checkedGet, Action.bind_apply, onStore, Action.within_apply,
    Action.modifyGet_apply]
  cases hfind : c.store.find? i.key with
  | none =>
      rw [Store.get_of_find?_eq_none hfind, stray_of_find?_eq_none hfind]
      rfl
  | some e =>
      rw [Store.get_of_accurate hc hfind]
      by_cases hlive : c.store.clock.now < e.deadline
      · have hp := hextract e.value
        by_cases hkind : e.value.kind = i.kind
        · have hstray : c.stray i = none := by simp [stray, hfind, hkind]
          rw [Payload.expect, if_pos hkind] at hp
          cases ha : extract e.value with
          | error m =>
              rw [ha] at hp
              cases hp
          | ok a => simp [hstray, hlive, ha]
        · have hstray : c.stray i = some e := stray_eq_some_iff.mpr ⟨hfind, hlive, hkind⟩
          rw [Payload.expect, if_neg hkind] at hp
          cases ha : extract e.value with
          | error m =>
              rw [ha] at hp
              cases hp
              simp [hstray, hlive, ha]
          | ok a =>
              rw [ha] at hp
              cases hp
      · have hstray : c.stray i = none := by simp [stray, hfind, hlive]
        simp [hstray, hlive]

/-- A lookup that takes its answer out of the payload and then reports it. -/
lemma answer_trail_of_report (wrap : α → Payload) (hc : c.store.clock.Accurate)
    {extract : Payload → Except Mismatch α}
    (hextract : ∀ p, (extract p).map wrap = p.expect i.kind)
    {report : Result (Option α) → Action Event Cache (Result (Option α))}
    (hreport : ∀ known c, report (.ok known) c = ⟨.ok known, c, [i.report (known.map wrap)]⟩)
    {make : Option α → Reply} (hmake : ∀ known, make known = i.reply (known.map wrap)) :
    let o := replying make (checkedGet i.key extract >>= report) c
    let known := (c.sight i).map Entry.value
    o.answer = .ok (i.reply known) ∧
      o.trail = ((c.stray i).toList.map fun e => .mismatch i.key i.kind e.value.kind) ++
        [i.report known] := by
  intro o known
  have hknown : ((checkedGet i.key extract c).answer).map (Option.map wrap) = .ok known :=
    (fetches_checkedGet hextract c).2.trans (fetch_of_accurate hc i).1
  simp only [o, replying, Action.map_apply, Action.bind_apply,
    trail_checkedGet_of_accurate hc hextract]
  cases ha : (checkedGet i.key extract c).answer with
  | error fault =>
      rw [ha] at hknown
      cases hknown
  | ok found =>
      rw [ha] at hknown
      have hfound : found.map wrap = known := Except.ok.inj hknown
      rw [hreport, ← hfound]
      exact ⟨congrArg Except.ok (hmake found), rfl⟩

/-- A lookup is answered with what is in sight. It logs what has strayed under its key,
and then reports its answer. -/
lemma answer_trail_lookup (hc : c.store.clock.Accurate) (i : Identity) :
    let known := (c.sight i).map Entry.value
    (serve i.lookup c).answer = .ok (i.reply known) ∧
      (serve i.lookup c).trail =
        ((c.stray i).toList.map fun e => .mismatch i.key i.kind e.value.kind) ++
          [i.report known] := by
  cases i with
  | namespaceRecord ns =>
      refine answer_trail_of_report (i := .namespaceRecord ns) .namespaceRecord hc
        (fun p => ?_) (fun known c => ?_) (fun known => ?_)
      · cases p <;> rfl
      · rcases known with _ | _ | record <;> rfl
      · cases known <;> rfl
  | serviceId ns svc =>
      refine answer_trail_of_report (i := .serviceId ns svc) .serviceId hc
        (fun p => ?_) (fun known c => ?_) (fun known => ?_)
      · cases p <;> rfl
      · cases known <;> rfl
      · cases known <;> rfl
  | endpointSet ns svc =>
      refine answer_trail_of_report (i := .endpointSet ns svc) .endpointSet hc
        (fun p => ?_) (fun known c => ?_) (fun known => ?_)
      · cases p <;> rfl
      · cases known <;> rfl
      · cases known <;> rfl

/-- What is in sight is left at the front. -/
lemma entries_lookup_of_sight (hc : c.store.clock.Accurate) (h : c.sight i = some e) :
    (serve i.lookup c).state.store.entries = e :: c.store.others i.key := by
  have hfind := (sight_eq_some_iff.mp h).1
  rw [state_lookup, ← (fetch_of_accurate hc i).2.entries_eq, entries_glance hfind, h]
  rfl

/-- Where nothing is in sight, nothing stays under the key but what the backing cache
hides. -/
lemma entries_lookup_of_sight_eq_none (hc : c.store.clock.Accurate) (hs : c.store.keys.Nodup)
    (h : c.sight i = none) :
    (serve i.lookup c).state.store.entries =
      c.store.entries.filter fun e => e.key = i.key → ¬ e.Shown := by
  rw [state_lookup, ← (fetch_of_accurate hc i).2.entries_eq]
  cases hfind : c.store.find? i.key with
  | none =>
      rw [glance_of_find?_eq_none hfind, eq_comm, List.filter_eq_self]
      intro e he
      exact decide_eq_true (Store.find?_eq_none_iff.mp hfind e he)
  | some e =>
      obtain ⟨he, hkey, hshown⟩ := Store.find?_some hfind
      rw [entries_glance hfind, h, Option.toList_none, List.nil_append, Store.others]
      refine List.filter_congr fun e' he' => ?_
      rw [decide_eq_decide]
      constructor
      · exact fun hne heq => absurd heq hne
      · rintro hhidden heq
        obtain rfl : e' = e := List.inj_on_of_nodup_map hs he' he (heq.trans hkey.symm)
        exact hhidden heq hshown

/-- The entries of the other keys stay as they are, in their order. -/
lemma others_lookup (hc : c.store.clock.Accurate) (hs : c.store.keys.Nodup) :
    (serve i.lookup c).state.store.others i.key = c.store.others i.key := by
  rw [Store.others]
  cases hsight : c.sight i with
  | none =>
      rw [entries_lookup_of_sight_eq_none hc hs hsight, List.filter_filter, Store.others]
      refine List.filter_congr fun e _ => ?_
      by_cases hkey : e.key = i.key <;> simp [hkey]
  | some e =>
      have hkey : e.key = i.key := (Store.find?_some (sight_eq_some_iff.mp hsight).1).2.1
      rw [entries_lookup_of_sight hc hsight]
      simp [Store.others, hkey]

/-- Where nothing is in sight, a lookup leaves nothing to be found. -/
lemma find?_lookup_of_sight_eq_none (hc : c.store.clock.Accurate) (h : c.sight i = none) :
    (serve i.lookup c).state.store.find? i.key = none := by
  rw [state_lookup, Store.find?, ← (fetch_of_accurate hc i).2.entries_eq]
  exact find?_glance_of_sight_eq_none h

/-- A look that leaves a cache full where nothing is in sight has changed nothing. -/
lemma glance_eq_of_full (hs : c.store.Tidy) (h : c.sight i = none)
    (hfull : (c.glance i).store.count = c.store.capacity) : c.glance i = c := by
  cases hfind : c.store.find? i.key with
  | none => exact glance_of_find?_eq_none hfind
  | some e =>
      obtain ⟨he, hkey, -⟩ := Store.find?_some hfind
      have hfewer : (c.store.others i.key).length < c.store.entries.length :=
        List.length_filter_lt_length_iff_exists.mpr ⟨e, he, by simp [hkey]⟩
      rw [Store.count, entries_glance hfind, h, Option.toList_none, List.nil_append] at hfull
      exact absurd hs.count_le (Nat.not_le_of_lt (hfull ▸ hfewer))

/-! ### Every store -/

/-- What the lookup of an identity does of which an answer is known, or none. The answer
is that of a live entry of the right kind, which is left at the front. Without one, only
what the backing cache hides stays under the key; the lookup is a miss, and so is the
next one, which has nothing to complain of. The other keys keep their entries in their
order. The answer is reported, and a live entry of another kind before it. -/
structure Guarded (c : Cache) (i : Identity) (known : Option Payload) : Prop where
  known_iff : ∀ p, known = some p ↔ ∃ e, c.Live i e ∧ e.value = p ∧ p.kind = i.kind
  answer : (serve i.lookup c).answer = .ok (i.reply known)
  hit : ∀ e, c.Live i e → e.value.kind = i.kind →
    (serve i.lookup c).state.store.entries = e :: c.store.others i.key
  miss : known = none → (serve i.lookup c).state.store.entries =
    c.store.entries.filter fun e => e.key = i.key → ¬ e.Shown
  gone_iff : known = none → ∀ e ∈ c.store.entries, e.key = i.key →
    (e ∉ (serve i.lookup c).state.store.entries ↔ e.Shown)
  others : (serve i.lookup c).state.store.others i.key = c.store.others i.key
  plain : (∀ e, c.Live i e → e.value.kind = i.kind) →
    (serve i.lookup c).trail = [i.report known]
  corrupt : ∀ e, c.Live i e → e.value.kind ≠ i.kind →
    (serve i.lookup c).trail = [.mismatch i.key i.kind e.value.kind, i.report none]
  again : known = none →
    (serve i.lookup (serve i.lookup c).state).answer = .ok (i.reply none) ∧
      (serve i.lookup (serve i.lookup c).state).trail = [i.report none]

/-- Among distinct keys, which those of a cache are after any run, whatever the cache holds,
of any kind, live or not, shown or hidden, a lookup under true readings finds just what is
live and of the right kind. If it finds nothing, it clears its key just of what is shown.
Unless the timer of the backing cache is ahead, to be live is to have a deadline that is to
come. The report of a lookup is a debug event, and what it says of a live entry of another
kind is an error event. -/
theorem guarded_lookup (hc : c.store.clock.Accurate) (hs : c.store.keys.Nodup) (i : Identity) :
    (∃ known, Guarded c i known) ∧
      (c.store.TimerLags → ∀ e, c.Live i e ↔
        e ∈ c.store.entries ∧ e.key = i.key ∧ c.store.clock.now < e.deadline) ∧
      (∀ known, (i.report known).level = .debug) ∧
      ∀ found, (Event.mismatch i.key i.kind found).level = .error := by
  obtain ⟨hanswer, htrail⟩ := answer_trail_lookup hc i
  have hmiss (hnone : c.sight i = none) := entries_lookup_of_sight_eq_none hc hs hnone
  refine ⟨⟨(c.sight i).map Entry.value, fun p => ?_, hanswer,
    fun e he hkind => entries_lookup_of_sight hc ((sight_eq_some_iff_live hs).mpr ⟨he, hkind⟩),
    fun hnone => hmiss (Option.map_eq_none_iff.mp hnone), fun hnone e he hkey => ?_,
    others_lookup hc hs, fun hright => ?_, fun e he hkind => ?_, fun hnone => ?_⟩,
    fun hlags e => live_iff_of_timerLags hlags, fun known => ?_, fun found => rfl⟩
  · rw [Option.map_eq_some_iff]
    constructor
    · rintro ⟨e, hsight, rfl⟩
      obtain ⟨hlive, hkind⟩ := (sight_eq_some_iff_live hs).mp hsight
      exact ⟨e, hlive, rfl, hkind⟩
    · rintro ⟨e, hlive, rfl, hkind⟩
      exact ⟨e, (sight_eq_some_iff_live hs).mpr ⟨hlive, hkind⟩, rfl⟩
  · rw [hmiss (Option.map_eq_none_iff.mp hnone), List.mem_filter]
    simp [he, hkey]
  · have hstray : c.stray i = none := by
      rw [Option.eq_none_iff_forall_ne_some]
      intro e he
      obtain ⟨hlive, hkind⟩ := (stray_eq_some_iff_live hs).mp he
      exact hkind (hright e hlive)
    rw [htrail, hstray]
    rfl
  · have hstray : c.stray i = some e := (stray_eq_some_iff_live hs).mpr ⟨he, hkind⟩
    rw [htrail, hstray, sight_of_stray hstray]
    rfl
  · have hfind := find?_lookup_of_sight_eq_none hc (Option.map_eq_none_iff.mp hnone)
    have hc' : (serve i.lookup c).state.store.clock.Accurate :=
      (limits_clock_serve hc i.lookup).2.symm ▸ hc
    obtain ⟨hanswer', htrail'⟩ := answer_trail_lookup hc' i
    rw [sight, hfind, Option.filter_none] at hanswer' htrail'
    rw [stray_of_find?_eq_none hfind] at htrail'
    exact ⟨hanswer', htrail'⟩
  · rcases i with ns | _ | _ <;> rcases known with _ | ((_ | _) | _ | _) <;> rfl

/-- A list of endpoints under the key of an id is reported and dropped. The record that
was read before it stays in front of the entry that is older. -/
theorem guarded_lookup_stray :
    let i : Identity := .serviceId "a" "b"
    let c := run [.request (.putAbsence "x"), .request (.putAbsence "y"),
      .direct (.add i.key (.endpointSet []) (.ofSecs 60)), .request (.getNamespace "x")]
      (empty .standard .start)
    (serve i.lookup c).trail =
        [.mismatch i.key .serviceId .endpointSet, .serviceIdMiss "a" "b"] ∧
      (serve i.lookup c).state.store.others i.key = c.store.others i.key := by
  intro i c
  let e : Entry Key Payload := Store.entry i.key (.endpointSet []) (.ofSecs 60) Clock.origin
  have hs : c.store.keys.Nodup := (tidy_run .standard .start _).nodup
  have hc : c.store.clock.Accurate := rfl
  obtain ⟨⟨known, h⟩, -⟩ := guarded_lookup hc hs i
  have hlive : c.Live i e := ⟨by decide, rfl, by decide, by decide⟩
  exact ⟨h.corrupt e hlive (by decide), h.others⟩

/-- A cache that gives the knowledge of namespaces no time to live. A miss leaves the entry
where it was, at its deadline, and the room that it takes is missed by the entry of another
key. -/
theorem timeless_outlasts_miss :
    let i : Identity := .namespaceRecord "z"
    let c := run [.request (.putServiceId "a" "x" "one"), .request (.putAbsence "z")]
      (empty ⟨2, .zero, .ofSecs 120, .ofSecs 5⟩ .start)
    let o := serve i.lookup c
    c.store.clock.Accurate ∧ c.store.keys.Nodup ∧ o.answer = .ok (.namespaceRecord none) ∧
      (∃ e ∈ o.state.store.entries, e.key = i.key ∧ e.deadline ≤ c.store.clock.now) ∧
      (serve (.getServiceId "a" "x") (serve (.putServiceId "a" "y" "two") o.state).state).answer =
        .ok (.serviceId none) :=
  ⟨rfl, by decide⟩

end Cache

end Discovery
