import Discovery.Proofs.Cleanup.Inventory
import Discovery.Proofs.Cleanup.Outcome
/-!
One cleanup after another, each of which may fail anywhere.

* `Cleanup.Careful`: every call that deletes is for a service that the namespace still
  has, or for the namespace once it has none left;
* `Cleanup.Course.careful`, `Cleanup.careful_each`: a cleanup is careful, and so are any
  number of them in a row;
* `Cleanup.Careful.pairwise`, `Cleanup.Careful.mem_ids`: careful calls delete a service
  once at most, and none but those of the namespace;
* `Cleanup.Careful.perm_deletedIds`: they have deleted all of these once the namespace is
  asked to be deleted;
* `Cleanup.credit`: the number of services that an attempt reports, or that it had deleted
  when it failed;
* `Cleanup.deletes_once_of_honours`: so it is of the attempts to clean up a namespace.
-/

namespace Discovery

/-- A name is that of the namespace of an id only, whose services have ids of their
own. -/
structure Inventory.Bears (v : Inventory) (ns id : String) : Prop where
  id_eq : ∀ record ∈ v.namespaces, record.name = ns → record.id = id
  nodup : ((v.services id).map Summary.id).Nodup

namespace Cleanup

variable {ρ ε α : Type} {P : ControlPlane ρ ε} {view : ρ → Inventory} {cs cs' : List (Call ε)}
  {c : Call ε} {r r' : ρ} {ns id : String} {services : List Summary} {attempts : ℕ}

/-! ### Careful calls -/

/-- A call that deletes is due: the service is one of the namespace, or the namespace is
the one that is meant and has no services. -/
def Call.Due (id : String) (v : Inventory) : Call ε → Prop
  | .deleteService service _ => service ∈ (v.services id).map Summary.id
  | .deleteNamespace id' _ => id' = id ∧ v.services id = []
  | _ => True

/-- Every call is due when it is made. -/
def Careful (P : ControlPlane ρ ε) (view : ρ → Inventory) (id : String) : List (Call ε) → ρ → Prop
  | [], _ => True
  | c :: cs, r => c.Due id (view r) ∧ Careful P view id cs (P.pose c r).2

/-- Careful calls that follow one another. -/
lemma Careful.append (h : Careful P view id cs r) (hgives : P.Gives cs r r')
    (h' : Careful P view id cs' r') : Careful P view id (cs ++ cs') r := by
  induction cs generalizing r with
  | nil => exact hgives ▸ h'
  | cons c rest ih => exact ⟨h.1, ih h.2 hgives.2⟩

/-- A careful call in the midst of others is due after those before it. -/
lemma Careful.due (h : Careful P view id (cs ++ c :: cs') r) (hgives : P.Gives cs r r') :
    c.Due id (view r') := by
  induction cs generalizing r with
  | nil => exact hgives ▸ h.1
  | cons c' rest ih => exact ih h.2 hgives.2

/-- Calls that delete nothing are careful. -/
lemma careful_of_task (h : ∀ c ∈ cs, c.task ≠ .deleteService ∧ c.task ≠ .deleteNamespace) :
    Careful P view id cs r := by
  induction cs generalizing r with
  | nil => trivial
  | cons c rest ih =>
      obtain ⟨hc, hrest⟩ := List.forall_mem_cons.mp h
      refine ⟨?_, ih hrest⟩
      cases c with
      | deleteService => exact absurd rfl hc.1
      | deleteNamespace => exact absurd rfl hc.2
      | listNamespaces | listServices | getOperation => trivial

/-- Services with ids of their own that are all there are deleted with care. -/
lemma careful_deletions (hP : P.Honours view) (hnodup : (services.map Summary.id).Nodup)
    (hmem : ∀ service ∈ services, service.id ∈ ((view r).services id).map Summary.id)
    (hgives : P.Gives (deletions services) r r') :
    Careful P view id (deletions services) r := by
  induction services generalizing r with
  | nil => trivial
  | cons service rest ih =>
      obtain ⟨hnotMem, hnodup⟩ := List.nodup_cons.mp hnodup
      obtain ⟨hservice, hmem⟩ := List.forall_mem_cons.mp hmem
      refine ⟨hservice, ih hnodup (fun other hother => ?_) hgives.2⟩
      -- The other services are still there, because their ids are others.
      obtain ⟨held, hheld, hid⟩ := List.mem_map.mp (hmem other hother)
      have hne : service.id ≠ held.id := by
        rintro heq
        rw [heq, hid] at hnotMem
        exact hnotMem (List.mem_map_of_mem hother)
      rw [services_pose hP hgives.1]
      exact List.mem_map.mpr ⟨held, List.mem_filter.mpr ⟨hheld, by simp [Call.deleted?, hne]⟩, hid⟩

/-! ### Cleanups -/

lemma Deleting.careful {a : Result ε Unit} (hP : P.Honours view) (h : Deleting services cs a)
    (hperm : services.Perm ((view r).services id))
    (hnodup : (((view r).services id).map Summary.id).Nodup) (hgives : P.Gives cs r r') :
    Careful P view id cs r := by
  have hids : (services.map Summary.id).Nodup := (hperm.map _).nodup_iff.mpr hnodup
  have hmem : ∀ service ∈ services, service.id ∈ ((view r).services id).map Summary.id :=
    fun service hservice => List.mem_map_of_mem (hperm.mem_iff.mp hservice)
  cases h with
  | all => exact careful_deletions hP hids hmem hgives
  | failed done stuck rest e =>
      obtain ⟨hdone, hrest⟩ := List.forall_mem_append.mp hmem
      rw [List.map_append, List.map_cons, List.nodup_append] at hids
      obtain ⟨hids, -, hothers⟩ := hids
      obtain ⟨s, hdeleted, hstuck⟩ := hgives.split
      refine (careful_deletions hP hids hdone hdeleted).append hdeleted ⟨?_, trivial⟩
      -- The service that is not deleted is still there, because its id is another one.
      obtain ⟨held, hheld, hid⟩ := List.mem_map.mp (hrest stuck (List.mem_cons_self ..))
      have hne : held.id ∉ done.map Summary.id := fun h =>
        hothers _ h _ (List.mem_cons_self ..) hid
      show stuck.id ∈ ((view s).services id).map Summary.id
      rw [services_of_gives hP hdeleted, deletedIds_deletions]
      exact List.mem_map.mpr ⟨held, List.mem_filter.mpr ⟨hheld, by simpa using hne⟩, hid⟩

lemma Removing.careful {a : Result ε Report} (hP : P.Honours view) (h : Removing id attempts cs a)
    (hnodup : (((view r).services id).map Summary.id).Nodup) (hgives : P.Gives cs r r') :
    Careful P view id cs r := by
  obtain ⟨hview, hlisted⟩ := hP.listServices id r
  cases h with
  | unlisted e => exact ⟨trivial, trivial⟩
  | @stopped services cs e h =>
      have hanswer : (P.listServices id r).1 = .ok services := by injection hgives.1
      rw [← hview] at hlisted hnodup
      exact ⟨trivial, h.careful hP (hlisted _ hanswer) hnodup hgives.2⟩
  | @asked services answer cs a h =>
      have hanswer : (P.listServices id r).1 = .ok services := by injection hgives.1
      rw [← hview] at hlisted hnodup
      have hperm := hlisted services hanswer
      obtain ⟨s, hdeleted, hasked⟩ := hgives.2.split
      have hdeletions : Careful P view id (deletions services) (P.listServices id r).2 :=
        (Deleting.all services).careful hP hperm hnodup hdeleted
      have hempty : (view s).services id = [] := by
        rw [services_of_gives hP hdeleted, deletedIds_deletions, List.filter_eq_nil_iff]
        intro service hservice
        simpa using ⟨service, hperm.mem_iff.mpr hservice, rfl⟩
      refine ⟨trivial, hdeletions.append hdeleted ⟨⟨rfl, hempty⟩, careful_of_task fun c hc => ?_⟩⟩
      rw [h.task_eq hc]
      exact ⟨nofun, nofun⟩

/-- A cleanup of the namespace of a name is careful. -/
lemma Course.careful {a : Result ε Report} (hP : P.Honours view) (hbears : (view r).Bears ns id)
    (h : Course ns attempts cs a) (hgives : P.Gives cs r r') : Careful P view id cs r := by
  obtain ⟨hview, hlisted⟩ := hP.listNamespaces r
  cases h with
  | unlisted e => exact ⟨trivial, trivial⟩
  | absent records hname => exact ⟨trivial, trivial⟩
  | @found records record cs a hfind h =>
      have hanswer : (P.listNamespaces r).1 = .ok records := by injection hgives.1
      have hmem : record ∈ (view r).namespaces :=
        (hlisted _ hanswer).mem_iff.mp (List.mem_of_find?_eq_some hfind)
      have hname : record.name = ns := by simpa using List.find?_some hfind
      obtain rfl := hbears.id_eq record hmem hname
      have hnodup := hbears.nodup
      rw [← hview] at hnodup
      exact ⟨trivial, h.careful hP hnodup hgives.2⟩

/-- Calls leave the name with its namespace. -/
lemma bears_of_gives (hP : P.Honours view) (hbears : (view r).Bears ns id)
    (hgives : P.Gives cs r r') : (view r').Bears ns id := by
  refine ⟨fun record hrecord => ?_, ?_⟩
  · exact hbears.id_eq record ((namespaces_of_gives hP hgives).subset hrecord)
  · rw [services_of_gives hP hgives]
    exact (List.filter_sublist.map _).nodup hbears.nodup

/-- Cleanups in a row get the answers of the control plane, and are careful. -/
lemma careful_each (hP : P.Honours view) (hbears : (view r).Bears ns id)
    (policies : List Policy) :
    let o := Action.each (fun policy => run P policy ns) policies r
    P.Gives (Happening.calls o.trail) r o.state ∧
      Careful P view id (Happening.calls o.trail) r := by
  intro o
  induction policies generalizing r with
  | nil => exact ⟨rfl, trivial⟩
  | cons policy rest ih =>
      obtain ⟨hgives, hcourse⟩ := comes_run P policy ns r
      obtain ⟨hrest, hcareful⟩ := ih (bears_of_gives hP hbears hgives)
      have ho : o = _ := Action.each_cons_apply _ policy rest r
      rw [ho, Happening.calls_append]
      exact ⟨hgives.append hrest, (hcourse.careful hP hbears hgives).append hgives hcareful⟩

/-! ### What careful calls delete -/

namespace Careful

/-- No service that was deleted is asked to be deleted again. -/
lemma pairwise (hP : P.Honours view) (h : Careful P view id cs r) (hgives : P.Gives cs r r') :
    cs.Pairwise fun c c' => ∀ service answer,
      c = .deleteService service (.ok ()) → c' ≠ .deleteService service answer := by
  induction cs generalizing r with
  | nil => exact .nil
  | cons c rest ih =>
      refine List.pairwise_cons.mpr ⟨fun c' hc' service answer hc heq => ?_, ih h.2 hgives.2⟩
      rw [heq] at hc'
      obtain ⟨before, after, rfl⟩ := List.append_of_mem hc'
      obtain ⟨s, hbefore, -⟩ := hgives.2.split
      obtain ⟨held, hheld, rfl⟩ := List.mem_map.mp (h.2.due hbefore)
      have hgone : held.id ∈ deletedIds (c :: before) :=
        mem_deletedIds.mpr (hc ▸ List.mem_cons_self ..)
      have hstep : P.Gives (c :: before) r s := ⟨hgives.1, hbefore⟩
      rw [services_of_gives hP hstep, List.mem_filter] at hheld
      exact of_decide_eq_true hheld.2 hgone

/-- Only services that the namespace had at first are asked to be deleted. -/
lemma mem_ids (hP : P.Honours view) (h : Careful P view id cs r) (hgives : P.Gives cs r r')
    {service : String} {answer : Except ε Unit} (hc : .deleteService service answer ∈ cs) :
    service ∈ ((view r).services id).map Summary.id := by
  obtain ⟨before, after, rfl⟩ := List.append_of_mem hc
  obtain ⟨s, hbefore, -⟩ := hgives.split
  have hdue : service ∈ ((view s).services id).map Summary.id := h.due hbefore
  rw [services_of_gives hP hbefore] at hdue
  exact (List.filter_sublist.map _).subset hdue

/-- Services of other namespaces stay. -/
lemma services_eq (hP : P.Honours view) (h : Careful P view id cs r) (hgives : P.Gives cs r r')
    (hdistinct : (view r).Distinct) {other : String} (hother : other ≠ id) :
    (view r').services other = (view r).services other := by
  rw [services_of_gives hP hgives, List.filter_eq_self]
  intro service hservice
  rw [decide_eq_true_iff]
  intro hgone
  exact hdistinct.disjoint other id hother (List.mem_map_of_mem hservice)
    (h.mem_ids hP hgives (mem_deletedIds.mp hgone))

/-- Once the namespace was asked to be deleted, each of its services was deleted exactly
once. -/
lemma perm_deletedIds (hP : P.Honours view) (h : Careful P view id cs r)
    (hgives : P.Gives cs r r') (hnodup : (((view r).services id).map Summary.id).Nodup)
    {id' : String} {answer : Except ε (Option String)} (hc : .deleteNamespace id' answer ∈ cs) :
    (deletedIds cs).Perm (((view r).services id).map Summary.id) := by
  have hids : (deletedIds cs).Nodup := by
    rw [deletedIds, List.Nodup, List.pairwise_filterMap]
    refine (h.pairwise hP hgives).imp fun {c c'} hcc' service hdeleted service' hdeleted' heq => ?_
    rw [← heq] at hdeleted'
    exact hcc' service _ (deleted?_eq_some_iff.mp hdeleted) (deleted?_eq_some_iff.mp hdeleted')
  refine (List.perm_ext_iff_of_nodup hids hnodup).mpr fun service =>
    ⟨fun hservice => ?_, fun hservice => ?_⟩
  · exact h.mem_ids hP hgives (mem_deletedIds.mp hservice)
  · obtain ⟨before, after, rfl⟩ := List.append_of_mem hc
    obtain ⟨s, hbefore, -⟩ := hgives.split
    obtain ⟨-, hempty⟩ := h.due hbefore
    obtain ⟨held, hheld, rfl⟩ := List.mem_map.mp hservice
    rw [services_of_gives hP hbefore, List.filter_eq_nil_iff] at hempty
    rw [deletedIds_append]
    exact List.mem_append_left _ (by simpa using hempty held hheld)

end Careful

/-! ### Attempts -/

/-- The number of services that an attempt did away with: as many as it reports, or as
it had deleted when it failed. -/
def credit (o : Outcome (Happening (Call ε)) ρ (Result ε Report)) : ℕ :=
  match o.answer with
  | .ok .nothingToDo => 0
  | .ok (.deleted _ n _) => n
  | .error _ => (deletedIds (Happening.calls o.trail)).length

/-- A removal that comes to a report has deleted as many services as it reports. -/
lemma Removing.length_deletedIds {id' op : String} {n : ℕ}
    (h : Removing id attempts cs (.ok (.deleted id' n op))) : (deletedIds cs).length = n := by
  generalize ha : (Except.ok (.deleted id' n op) : Result ε Report) = a at h
  cases h with
  | unlisted | stopped => cases ha
  | @asked services answer cs a h =>
      have hpolls : deletedIds (.deleteNamespace id answer :: cs) = [] := by
        refine deletedIds_eq_nil fun c hc => ?_
        rcases List.mem_cons.mp hc with rfl | hc
        · nofun
        · rw [h.task_eq hc]
          nofun
      obtain ⟨-, rfl, -⟩ := (h.eq_deleted_iff id' n op).mp ha.symm
      show (deletedIds (deletions services ++ .deleteNamespace id answer :: cs)).length = _
      rw [deletedIds_append, deletedIds_deletions, hpolls, List.append_nil, List.length_map]

/-- An attempt is credited with the services that it has deleted. -/
lemma credit_run (P : ControlPlane ρ ε) (policy : Policy) (ns : String) (r : ρ) :
    credit (run P policy ns r) =
      (deletedIds (Happening.calls (run P policy ns r).trail)).length := by
  obtain ⟨-, hcourse⟩ := comes_run P policy ns r
  rw [credit]
  generalize (run P policy ns r).answer = a, Happening.calls (run P policy ns r).trail = cs
    at hcourse ⊢
  cases hcourse with
  | unlisted | absent => rfl
  | @found records record cs a hfind h =>
      rcases a with err | _ | ⟨id, n, op⟩
      · rfl
      · exact absurd rfl h.ne_nothingToDo
      · exact h.length_deletedIds.symm

/-- Attempts in a row are credited with all services that they have deleted. -/
lemma sum_credit (P : ControlPlane ρ ε) (policies : List Policy) (ns : String) (r : ρ) :
    let attempt := fun policy => run P policy ns
    ((Action.turns attempt policies r).map fun t => credit (attempt t.1 t.2)).sum =
      (deletedIds (Happening.calls (Action.each attempt policies r).trail)).length := by
  intro attempt
  induction policies generalizing r with
  | nil => rfl
  | cons policy rest ih =>
      rw [Action.turns_cons, List.map_cons, List.sum_cons, ih, credit_run, Action.each_cons_apply,
        Happening.calls_append, deletedIds_append, List.length_append]

/-- Attempts to clean up a namespace pick up where those before them stopped, on a
registry that honours the calls and that nobody else changes, whichever of the calls
fail, and whatever becomes of the operations. No service that was deleted is asked to be
deleted again, and the namespace is asked to be deleted only where it has no service
left. No service is asked to be deleted but those that the namespace had at first, and
the services of other namespaces stay. Once an attempt reports the deletion, each service
of the namespace was deleted exactly once, and what is reported together with what the
failed attempts have deleted is the number of these services. -/
theorem deletes_once_of_honours {P : ControlPlane ρ ε} {view : ρ → Inventory}
    (hP : P.Honours view) {r : ρ} (hdistinct : (view r).Distinct) {ns id : String}
    (hone : ∀ record ∈ (view r).namespaces, record.name = ns → record.id = id)
    (policies : List Policy) :
    let attempt := fun policy => run P policy ns
    let o := Action.each attempt policies r
    let cs := Happening.calls o.trail
    let ids := ((view r).services id).map Summary.id
    (cs.Pairwise fun c c' => ∀ service answer,
      c = .deleteService service (.ok ()) → c' ≠ .deleteService service answer) ∧
    (∀ before id' answer after, cs = before ++ .deleteNamespace id' answer :: after →
      id' = id ∧ ∃ r', P.Gives before r r' ∧ (view r').services id = []) ∧
    (∀ service answer, .deleteService service answer ∈ cs → service ∈ ids) ∧
    (∀ other, other ≠ id → (view o.state).services other = (view r).services other) ∧
    ∀ id' n op, .ok (.deleted id' n op) ∈ o.answer →
      id' = id ∧ (deletedIds cs).Perm ids ∧
        ((Action.turns attempt policies r).map fun t => credit (attempt t.1 t.2)).sum =
          ids.length := by
  intro attempt o cs ids
  obtain ⟨hgives, hcareful⟩ : P.Gives cs r o.state ∧ Careful P view id cs r :=
    careful_each hP ⟨hone, hdistinct.nodup id⟩ policies
  have hasked : ∀ before id' answer after, cs = before ++ .deleteNamespace id' answer :: after →
      id' = id ∧ ∃ r', P.Gives before r r' ∧ (view r').services id = [] := by
    intro before id' answer after hcs
    rw [hcs] at hgives hcareful
    obtain ⟨r', hbefore, -⟩ := hgives.split
    obtain ⟨hid, hempty⟩ := hcareful.due hbefore
    exact ⟨hid, r', hbefore, hempty⟩
  refine ⟨hcareful.pairwise hP hgives, hasked, fun service answer => hcareful.mem_ids hP hgives,
    fun other => hcareful.services_eq hP hgives hdistinct, fun id' n op hreported => ?_⟩
  rw [Action.each_answer, List.mem_map] at hreported
  obtain ⟨t, ht, hreport⟩ := hreported
  have hcall : .deleteNamespace id' (.ok (some op)) ∈ Happening.calls (attempt t.1 t.2).trail := by
    obtain ⟨-, hcourse⟩ := comes_run P t.1 ns t.2
    exact ((hcourse.eq_deleted_iff id' n op).mp hreport).2.2.1
  have hmem : .deleteNamespace id' (.ok (some op)) ∈ cs := by
    obtain ⟨item, hitem, hcall⟩ := List.mem_filterMap.mp hcall
    refine List.mem_filterMap.mpr ⟨item, ?_, hcall⟩
    rw [Action.each_trail]
    exact List.mem_flatMap.mpr ⟨t, ht, hitem⟩
  obtain ⟨before, after, hcs⟩ := List.append_of_mem hmem
  have hperm : (deletedIds cs).Perm ids :=
    hcareful.perm_deletedIds hP hgives (hdistinct.nodup id) hmem
  exact ⟨(hasked _ _ _ _ hcs).1, hperm, (sum_credit P policies ns r).trans hperm.length_eq⟩

/-- After an attempt that fails at the second of two services, a second attempt reports
one, and both were deleted once; a service of another namespace stays. -/
theorem deletes_once_of_honours_second :
    let shelf : Shelf :=
      { namespaces := [⟨"ns-1", "shop", .http⟩, ⟨"ns-2", "bank", .http⟩]
        services := [("ns-1", ⟨"srv-1", "cart"⟩), ("ns-2", ⟨"srv-2", "cart"⟩),
          ("ns-1", ⟨"srv-3", "search"⟩)]
        failures := [false, false, false, true] }
    let o := Action.each (fun policy => run Shelf.plane policy "shop")
      [.standard, .standard] shelf
    .ok (.deleted "ns-1" 1 "ns-1") ∈ o.answer ∧
      (deletedIds (Happening.calls o.trail)).Perm ["srv-1", "srv-3"] ∧
      o.state.view.services "ns-2" = [⟨"srv-2", "cart"⟩] := by
  intro shelf o
  have hdistinct : shelf.view.Distinct := Shelf.distinct_view (by decide)
  have hone : ∀ record ∈ shelf.view.namespaces, record.name = "shop" → record.id = "ns-1" := by
    decide
  have hreport : .ok (.deleted "ns-1" 1 "ns-1") ∈ o.answer := by decide
  obtain ⟨-, -, -, hothers, hdeleted⟩ :=
    deletes_once_of_honours Shelf.honours_plane hdistinct hone [.standard, .standard]
  obtain ⟨-, hperm, -⟩ := hdeleted "ns-1" 1 "ns-1" hreport
  exact ⟨hreport, hperm, hothers "ns-2" (by decide)⟩

end Cleanup

end Discovery
