import Discovery.Proofs.Cleanup.Course
/-!
What a registry holds for cleanups, and what their calls take away from it.

* `Inventory`: the namespaces, and the services of each;
* `ControlPlane.Honours`: a control plane that lists what there is, and that deletes a
  service just when it says so;
* `Cleanup.deletedIds`: the services that calls have deleted;
* `Cleanup.services_of_gives`: of all services, those are gone after the calls;
* `Cleanup.namespaces_of_gives`: no namespaces come about;
* `Shelf.plane`, `Shelf.honours_plane`: a registry that honours its calls, whichever of
  them fail.
-/

namespace Discovery

variable {ρ ε : Type}

/-- The namespaces of a registry, and the services of the namespace of an id. -/
structure Inventory where
  namespaces : List Namespace
  services : String → List Summary

namespace Inventory

/-- The services of all namespaces have ids of their own. -/
structure Distinct (v : Inventory) : Prop where
  nodup : ∀ id, ((v.services id).map Summary.id).Nodup
  disjoint : ∀ id id', id ≠ id' →
    ((v.services id).map Summary.id).Disjoint ((v.services id').map Summary.id)

/-- An inventory without the service of an id. -/
def without (v : Inventory) (id : String) : Inventory :=
  { v with services := fun ns => (v.services ns).filter (·.id ≠ id) }

/-- What is gone from an inventory is namespaces at most. -/
structure Sheds (v v' : Inventory) : Prop where
  services_eq : v'.services = v.services
  sublist : v'.namespaces.Sublist v.namespaces

end Inventory

/-- A control plane for a registry that only its calls change. It lists what there is,
in any order, and a service is deleted just when the call to delete it succeeds. A
namespace that is asked to be deleted goes at once, or while the operation that does it
is polled, or not at all. -/
structure ControlPlane.Honours (P : ControlPlane ρ ε) (view : ρ → Inventory) : Prop where
  listNamespaces : ∀ r, view (P.listNamespaces r).2 = view r ∧
    ∀ records, (P.listNamespaces r).1 = .ok records → records.Perm (view r).namespaces
  listServices : ∀ id r, view (P.listServices id r).2 = view r ∧
    ∀ services, (P.listServices id r).1 = .ok services → services.Perm ((view r).services id)
  deleteService : ∀ id r, view (P.deleteService id r).2 =
    match (P.deleteService id r).1 with
    | .ok () => (view r).without id
    | .error _ => view r
  deleteNamespace : ∀ id r, (view r).Sheds (view (P.deleteNamespace id r).2)
  getOperation : ∀ id r, (view r).Sheds (view (P.getOperation id r).2)

/-- Calls in two parts. -/
lemma ControlPlane.Gives.split {P : ControlPlane ρ ε} {cs cs' : List (Cleanup.Call ε)} {r r'' : ρ}
    (h : P.Gives (cs ++ cs') r r'') : ∃ r', P.Gives cs r r' ∧ P.Gives cs' r' r'' := by
  induction cs generalizing r with
  | nil => exact ⟨r, rfl, h⟩
  | cons c rest ih =>
      obtain ⟨r', hrest, h'⟩ := ih h.2
      exact ⟨r', ⟨h.1, hrest⟩, h'⟩

namespace Cleanup

variable {P : ControlPlane ρ ε} {view : ρ → Inventory} {cs cs' : List (Call ε)} {c : Call ε}
  {r r' : ρ} {id : String}

/-! ### What calls take away -/

/-- The service that a call has deleted. -/
def Call.deleted? : Call ε → Option String
  | .deleteService id (.ok ()) => some id
  | _ => none

/-- The services that calls have deleted, in order. -/
def deletedIds (cs : List (Call ε)) : List String := cs.filterMap Call.deleted?

lemma deleted?_eq_some_iff : c.deleted? = some id ↔ c = .deleteService id (.ok ()) := by
  constructor
  · intro h
    cases c with
    | deleteService id' answer =>
        cases answer with
        | error e => cases h
        | ok u =>
            cases h
            rfl
    | listNamespaces | listServices | deleteNamespace | getOperation => cases h
  · rintro rfl
    rfl

lemma mem_deletedIds : id ∈ deletedIds cs ↔ .deleteService id (.ok ()) ∈ cs := by
  simp [deletedIds, deleted?_eq_some_iff]

lemma mem_deletedIds_cons :
    id ∈ deletedIds (c :: cs) ↔ c.deleted? = some id ∨ id ∈ deletedIds cs := by
  cases hc : c.deleted? with
  | none => simp [deletedIds, hc]
  | some id' => simp [deletedIds, hc, eq_comm]

lemma deletedIds_append (cs cs' : List (Call ε)) :
    deletedIds (cs ++ cs') = deletedIds cs ++ deletedIds cs' :=
  List.filterMap_append

lemma deletedIds_deletions (services : List Summary) :
    deletedIds (deletions services : List (Call ε)) = services.map Summary.id := by
  induction services with
  | nil => rfl
  | cons service rest ih => simpa [deletions, deletedIds, Call.deleted?] using ih

/-- Calls that delete no services have not deleted any. -/
lemma deletedIds_eq_nil (h : ∀ c ∈ cs, c.task ≠ .deleteService) : deletedIds cs = [] := by
  rw [List.eq_nil_iff_forall_not_mem]
  exact fun id hid => h _ (mem_deletedIds.mp hid) rfl

/-- A call takes away the service that it has deleted. -/
lemma services_pose (hP : P.Honours view) (h : (P.pose c r).1 = c) (id : String) :
    (view (P.pose c r).2).services id =
      ((view r).services id).filter fun service => c.deleted? ≠ some service.id := by
  have hall {l : List Summary} (hc : c.deleted? = none) :
      l.filter (fun service => c.deleted? ≠ some service.id) = l :=
    List.filter_eq_self.mpr fun service _ => by simp [hc]
  cases c with
  | listNamespaces answer =>
      rw [hall rfl]
      exact congrFun (congrArg Inventory.services (hP.listNamespaces r).1) id
  | listServices id' answer =>
      rw [hall rfl]
      exact congrFun (congrArg Inventory.services (hP.listServices id' r).1) id
  | deleteNamespace id' answer =>
      rw [hall rfl]
      exact congrFun (hP.deleteNamespace id' r).services_eq id
  | getOperation id' answer =>
      rw [hall rfl]
      exact congrFun (hP.getOperation id' r).services_eq id
  | deleteService id' answer =>
      have hanswer : (P.deleteService id' r).1 = answer := by injection h
      have hview := hP.deleteService id' r
      rw [hanswer] at hview
      show (view (P.deleteService id' r).2).services id = _
      rw [hview]
      cases answer with
      | error e => rw [hall rfl]
      | ok u =>
          refine List.filter_congr fun service _ => ?_
          simp [Call.deleted?, eq_comm]

/-- A call brings no namespace. -/
lemma namespaces_pose (hP : P.Honours view) (c : Call ε) (r : ρ) :
    (view (P.pose c r).2).namespaces.Sublist (view r).namespaces := by
  cases c with
  | listNamespaces answer => exact (hP.listNamespaces r).1 ▸ List.Sublist.refl _
  | listServices id answer => exact (hP.listServices id r).1 ▸ List.Sublist.refl _
  | deleteNamespace id answer => exact (hP.deleteNamespace id r).sublist
  | getOperation id answer => exact (hP.getOperation id r).sublist
  | deleteService id answer =>
      show (view (P.deleteService id r).2).namespaces.Sublist _
      rw [hP.deleteService]
      split <;> exact List.Sublist.refl _

/-- What calls have deleted is gone after them, and nothing else is. -/
lemma services_of_gives (hP : P.Honours view) (h : P.Gives cs r r') (id : String) :
    (view r').services id =
      ((view r).services id).filter fun service => service.id ∉ deletedIds cs := by
  induction cs generalizing r with
  | nil =>
      rw [h]
      exact (List.filter_eq_self.mpr fun _ _ => by simp [deletedIds]).symm
  | cons c rest ih =>
      rw [ih h.2, services_pose hP h.1, List.filter_filter]
      refine List.filter_congr fun service _ => ?_
      simp [mem_deletedIds_cons, Bool.and_comm]

/-- No call brings a namespace. -/
lemma namespaces_of_gives (hP : P.Honours view) (h : P.Gives cs r r') :
    (view r').namespaces.Sublist (view r).namespaces := by
  induction cs generalizing r with
  | nil =>
      rw [h]
  | cons c rest ih => exact (ih h.2).trans (namespaces_pose hP c r)

end Cleanup

/-! ### A registry that honours its calls -/

/-- A registry that keeps its services with the ids of their namespaces, and that is told
which of the next calls fail. -/
structure Shelf where
  namespaces : List Namespace
  services : List (String × Summary)
  failures : List Bool

namespace Shelf

/-- What is on a shelf. -/
def view (s : Shelf) : Inventory where
  namespaces := s.namespaces
  services id := (s.services.filter (·.1 = id)).map Prod.snd

/-- A call that comes to an answer and to another shelf, unless it fails. -/
def call {α : Type} (s : Shelf) (answer : α) (done : Shelf) : Except Unit α × Shelf :=
  if s.failures.headD false then (.error (), { s with failures := s.failures.tail })
  else (.ok answer, { done with failures := s.failures.tail })

/-- The control plane of a shelf. -/
def plane : ControlPlane Shelf Unit where
  listNamespaces s := s.call s.namespaces s
  listServices id s := s.call (s.view.services id) s
  deleteNamespace id s :=
    s.call (some id) { s with namespaces := s.namespaces.filter (·.id ≠ id) }
  deleteService id s := s.call () { s with services := s.services.filter (·.2.id ≠ id) }
  getOperation _ s := s.call .success s

/-- A call fails and changes nothing, or it succeeds and does what it is to do. -/
lemma call_cases {α : Type} (s : Shelf) (answer : α) (done : Shelf) :
    ((s.call answer done).1 = .error () ∧ (s.call answer done).2.view = s.view) ∨
      ((s.call answer done).1 = .ok answer ∧ (s.call answer done).2.view = done.view) := by
  rw [call]
  split
  · exact .inl ⟨rfl, rfl⟩
  · exact .inr ⟨rfl, rfl⟩

/-- Whichever calls fail, a shelf honours them all. -/
lemma honours_plane : plane.Honours view where
  listNamespaces s := by
    rcases s.call_cases s.namespaces s with ⟨hanswer, hview⟩ | ⟨hanswer, hview⟩
    · refine ⟨hview, fun records h => ?_⟩
      cases hanswer.symm.trans h
    · refine ⟨hview, fun records h => ?_⟩
      cases hanswer.symm.trans h
      exact .refl _
  listServices id s := by
    rcases s.call_cases (s.view.services id) s with ⟨hanswer, hview⟩ | ⟨hanswer, hview⟩
    · refine ⟨hview, fun services h => ?_⟩
      cases hanswer.symm.trans h
    · refine ⟨hview, fun services h => ?_⟩
      cases hanswer.symm.trans h
      exact .refl _
  deleteService id s := by
    have hwithout : view { s with services := s.services.filter (·.2.id ≠ id) } =
        s.view.without id := by
      rw [view, view, Inventory.without, Inventory.mk.injEq]
      refine ⟨rfl, funext fun ns => ?_⟩
      rw [List.filter_map, List.filter_filter, List.filter_filter]
      refine congrArg (List.map Prod.snd) (List.filter_congr fun entry _ => ?_)
      exact Bool.and_comm ..
    rcases s.call_cases () { s with services := s.services.filter (·.2.id ≠ id) } with
      ⟨hanswer, hview⟩ | ⟨hanswer, hview⟩
    · dsimp only [plane]
      rw [hanswer, hview]
    · dsimp only [plane]
      rw [hanswer, hview, hwithout]
  deleteNamespace id s := by
    rcases s.call_cases (some id) { s with namespaces := s.namespaces.filter (·.id ≠ id) } with
      ⟨-, hview⟩ | ⟨-, hview⟩
    · exact ⟨congrArg Inventory.services hview, hview ▸ .refl _⟩
    · dsimp only [plane]
      rw [hview]
      exact ⟨rfl, List.filter_sublist⟩
  getOperation id s := by
    rcases s.call_cases OperationStatus.success s with ⟨-, hview⟩ | ⟨-, hview⟩
    · exact ⟨congrArg Inventory.services hview, hview ▸ .refl _⟩
    · exact ⟨congrArg Inventory.services hview, hview ▸ .refl _⟩

/-- Services with ids of their own have them in all namespaces. -/
lemma distinct_view {s : Shelf} (h : (s.services.map (·.2.id)).Nodup) : s.view.Distinct := by
  refine ⟨fun ns => ?_, fun ns ns' hne id hid hid' => ?_⟩
  · rw [view, List.map_map]
    exact (List.filter_sublist.map _).nodup h
  · simp only [view, List.map_map, List.mem_map, List.mem_filter, decide_eq_true_eq] at hid hid'
    obtain ⟨entry, ⟨hentry, rfl⟩, rfl⟩ := hid
    obtain ⟨entry', ⟨hentry', rfl⟩, heq⟩ := hid'
    exact hne (congrArg Prod.fst (List.inj_on_of_nodup_map h hentry hentry' heq.symm))

end Shelf

end Discovery
