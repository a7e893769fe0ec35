import Discovery.Cleanup.Rehearsal
import Discovery.Proofs.Cleanup.Inventory
/-!
What a cleanup logs of its deletions.

* `Cleanup.Announced`: what the log says was deleted, or asked to be deleted, is what the
  calls have brought about, in order;
* `Cleanup.Warned`: after every deletion that fails there is a warning;
* `Cleanup.Clear`, `Cleanup.Closed`: a trail on which no deletion has failed, and one that
  ends with the deletion that did;
* `Cleanup.Settles`, `Cleanup.settles_run`: a cleanup leaves a trail of one of these kinds;
* `Cleanup.run_warned_iff`: so everything that is deleted is logged, and what fails is warned of
  unless it is the deletion of the namespace itself.
-/

namespace Discovery

/-! ### The log -/

/-- An event of a level is logged with a text. -/
def Event.reads (e : Event) (level : Level) (message : String) : Bool :=
  e.level == level && e.message == message

/-- Only the deletion of a service is logged as one. -/
lemma Event.reads_serviceDeleted_iff {e : Event} :
    e.reads .info "Service deleted" ↔ ∃ id, e = .serviceDeleted id := by
  constructor
  · intro h
    cases e with
    | serviceDeleted id => exact ⟨id, rfl⟩
    | _ => cases h
  · rintro ⟨id, rfl⟩
    rfl

/-- Only a namespace that was asked to be deleted is logged as one. -/
lemma Event.reads_deletionRequested_iff {e : Event} :
    e.reads .info "Namespace deletion requested" ↔ ∃ id op, e = .deletionRequested id op := by
  constructor
  · intro h
    cases e with
    | deletionRequested id op => exact ⟨id, op, rfl⟩
    | _ => cases h
  · rintro ⟨id, op, rfl⟩
    rfl

namespace Cleanup

variable {ρ ε α β : Type} {P : ControlPlane ρ ε} {policy : Policy} {ns : String}
  {trail trail' : List (Happening (Call ε))} {c : Call ε}

/-- What is to be logged of a call that asked for a namespace to be deleted: the operation
that does it, if the registry gave one. -/
def Call.request? : Call ε → Option Event
  | .deleteNamespace id (.ok (some op)) => some (.deletionRequested id op)
  | _ => none

/-- The log says which services were deleted and which deletions of namespaces were
accepted, each in the order of the calls. -/
structure Announced (trail : List (Happening (Call ε))) : Prop where
  deleted : (Happening.events trail).filter (·.reads .info "Service deleted") =
    (deletedIds (Happening.calls trail)).map .serviceDeleted
  requested : (Happening.events trail).filter (·.reads .info "Namespace deletion requested") =
    (Happening.calls trail).filterMap Call.request?

/-- A task that is to delete something. -/
def Task.Deletes : Task → Prop
  | .deleteService | .deleteNamespace => True
  | _ => False

/-- A call that was to delete something and did not bring that about. -/
def Call.FailsToDelete : Call ε → Prop
  | .deleteService _ (.error _) | .deleteNamespace _ (.error _) | .deleteNamespace _ (.ok none) =>
      True
  | _ => False

/-- Every deletion that fails is followed by a warning. -/
def Warned (trail : List (Happening (Call ε))) : Prop :=
  ∀ before c after, trail = before ++ .call c :: after → c.FailsToDelete →
    ∃ e, .event e ∈ after ∧ e.level = .warn

/-! ### Trails -/

/-- A trail on which no deletion has failed, and that has been logged as it should be. -/
structure Clear (trail : List (Happening (Call ε))) : Prop where
  announced : Announced trail
  smooth : ∀ c, .call c ∈ trail → ¬ c.FailsToDelete
  quiet : ∀ e, .event e ∈ trail → e.level ≠ .warn

/-- A trail of a cleanup that has failed. If it was a deletion that failed, that comes last,
with a warning if it was that of a service. -/
inductive Closed (ns : String) : List (Happening (Call ε)) → Prop
  | clear {done : List (Happening (Call ε))} (h : Clear done) : Closed ns done
  | warned {done : List (Happening (Call ε))} (h : Clear done) (id : String) (e : ε)
      (name : String) :
      Closed ns (done ++ [.call (.deleteService id (.error e)),
        .event (.serviceNotDeleted ns name "failed to delete service")])
  | silent {done : List (Happening (Call ε))} (h : Clear done) (id : String)
      (answer : Except ε (Option String)) (hanswer : ∀ op, answer ≠ .ok (some op)) :
      Closed ns (done ++ [.call (.deleteNamespace id answer)])

lemma Announced.append (h : Announced trail) (h' : Announced trail') :
    Announced (trail ++ trail') := by
  refine ⟨?_, ?_⟩
  · rw [Happening.events_append, Happening.calls_append, List.filter_append, deletedIds_append,
      List.map_append, h.deleted, h'.deleted]
  · rw [Happening.events_append, Happening.calls_append, List.filter_append,
      List.filterMap_append, h.requested, h'.requested]

lemma Clear.append (h : Clear trail) (h' : Clear trail') : Clear (trail ++ trail') :=
  ⟨h.announced.append h'.announced,
    fun c hc => (List.mem_append.mp hc).elim (h.smooth c) (h'.smooth c),
    fun e he => (List.mem_append.mp he).elim (h.quiet e) (h'.quiet e)⟩

/-- What went well comes before what did not. -/
lemma Closed.append (h : Clear trail) (h' : Closed ns trail') : Closed ns (trail ++ trail') := by
  cases h' with
  | clear h' => exact .clear (h.append h')
  | warned h' id e name =>
      rw [← List.append_assoc]
      exact .warned (h.append h') id e name
  | silent h' id answer hanswer =>
      rw [← List.append_assoc]
      exact .silent (h.append h') id answer hanswer

lemma clear_nil : Clear ([] : List (Happening (Call ε))) := ⟨⟨rfl, rfl⟩, nofun, nofun⟩

/-- A wait is no event and no call. -/
lemma clear_wait (d : Duration) : Clear [(.wait d : Happening (Call ε))] :=
  ⟨⟨rfl, rfl⟩, by simp, by simp⟩

/-- An event that is no warning and tells of no deletion. -/
lemma clear_event {e : Event} (hwarn : e.level ≠ .warn) (hdeleted : ∀ id, e ≠ .serviceDeleted id)
    (hrequested : ∀ id op, e ≠ .deletionRequested id op) :
    Clear [(.event e : Happening (Call ε))] := by
  have hdeleted' : e.reads .info "Service deleted" = false :=
    Bool.eq_false_iff.mpr fun h =>
      (Event.reads_serviceDeleted_iff.mp h).elim fun id heq => hdeleted id heq
  have hrequested' : e.reads .info "Namespace deletion requested" = false :=
    Bool.eq_false_iff.mpr fun h =>
      (Event.reads_deletionRequested_iff.mp h).elim fun id ⟨op, heq⟩ => hrequested id op heq
  refine ⟨⟨?_, ?_⟩, by simp, by simp [hwarn]⟩
  · simp [Happening.events, Happening.calls, Happening.event?, Happening.call?, hdeleted',
      deletedIds]
  · simp [Happening.events, Happening.calls, Happening.event?, Happening.call?, hrequested']

/-- A call that is to delete nothing. -/
lemma clear_call (h : ¬ c.task.Deletes) : Clear [.call c] := by
  cases c with
  | listNamespaces | listServices | getOperation =>
      refine ⟨⟨rfl, rfl⟩, fun c hc => ?_, by simp⟩
      cases List.mem_singleton.mp hc
      exact id
  | deleteService | deleteNamespace => exact absurd trivial h

/-- A service deleted, and said to be. -/
lemma clear_deletion (id : String) :
    Clear [(.call (.deleteService id (.ok ())) : Happening (Call ε)),
      .event (.serviceDeleted id)] :=
  ⟨⟨rfl, rfl⟩, by simp [Call.FailsToDelete], by simp [Event.level]⟩

/-- A namespace that is to be deleted by an operation, and said to be. -/
lemma clear_request (id op : String) :
    Clear [(.call (.deleteNamespace id (.ok (some op))) : Happening (Call ε)),
      .event (.deletionRequested id op)] :=
  ⟨⟨rfl, rfl⟩, by simp [Call.FailsToDelete], by simp [Event.level]⟩

/-! ### Steps of a cleanup -/

/-- A step that succeeds leaves nothing that has failed behind, and one that fails ends
there. -/
def Settles (ns : String) (x : Cleanup ρ ε (Result ε α)) : Prop :=
  ∀ r, match (x r).answer with
    | .ok _ => Clear (x r).trail
    | .error _ => Closed ns (x r).trail

namespace Settles

variable {x : Cleanup ρ ε (Result ε α)} {f : Result ε α → Cleanup ρ ε (Result ε β)}

/-- An answer given without a call. -/
lemma pure (a : Result ε α) : Settles ns (pure a : Cleanup ρ ε (Result ε α)) := by
  intro r
  cases a with
  | ok v => exact clear_nil
  | error e => exact .clear clear_nil

/-- A step that follows what went well. -/
lemma leave {items : List (Happening (Call ε))} (h : Clear items) (hx : Settles ns x) :
    Settles ns (do .leave items; x) := by
  intro r
  have hx := hx r
  rw [Action.bind_apply, Action.leave_apply]
  dsimp only
  cases hanswer : (x r).answer with
  | ok v =>
      rw [hanswer] at hx
      exact h.append hx
  | error e =>
      rw [hanswer] at hx
      exact .append h hx

/-- A second step that is only taken if the first one succeeds. -/
lemma bind (hx : Settles ns x) (hok : ∀ v, Settles ns (f (.ok v)))
    (herror : ∀ e, f (.error e) = Pure.pure (.error e)) : Settles ns (x >>= f) := by
  intro r
  have hx := hx r
  rw [Action.bind_apply]
  cases hanswer : (x r).answer with
  | error e =>
      rw [hanswer] at hx
      simpa [herror] using hx
  | ok v =>
      rw [hanswer] at hx
      exact (Settles.leave hx (hok v)) (x r).state

/-- A call that is to delete nothing. -/
lemma perform {task : Task} {question : ρ → Except ε α × ρ} {call : Except ε α → Call ε}
    (h : ∀ a, ¬ (call a).task.Deletes) : Settles ns (perform task question call) := by
  intro r
  have hclear := clear_call (h (question r).1)
  simp only [Cleanup.perform, Action.bind_apply, Action.modifyGet_apply, Action.leave_apply,
    Action.pure_apply, List.nil_append, List.append_nil]
  split
  · exact hclear
  · exact .clear hclear

end Settles

/-- A failed deletion of a service is warned of at once. -/
lemma settles_deleteServices (services : List Summary) :
    Settles ns (deleteServices P ns services) := by
  induction services with
  | nil => exact .pure (.ok ())
  | cons service rest ih =>
      intro r
      cases hanswer : (P.deleteService service.id r).1 with
      | error e =>
          have hmessage : (CleanupError.failed .deleteService e).message =
            "failed to delete service" := rfl
          simpa [deleteServices, deleteService, perform, hanswer, Except.mapError, hmessage]
            using Closed.warned clear_nil service.id e service.name
      | ok u =>
          simpa [deleteServices, deleteService, perform, hanswer, Except.mapError] using
            Settles.leave (clear_deletion service.id) ih (P.deleteService service.id r).2

/-- A failed deletion of a namespace is not warned of. -/
lemma settles_deleteNamespace (id : String) : Settles ns (deleteNamespace P id) := by
  intro r
  rcases hanswer : (P.deleteNamespace id r).1 with e | _ | op
  · simpa [deleteNamespace, perform, hanswer, Except.mapError] using
      Closed.silent clear_nil id (.error e) nofun
  · simpa [deleteNamespace, perform, hanswer, Except.mapError] using
      Closed.silent clear_nil id (.ok none) nofun
  · simpa [deleteNamespace, perform, hanswer, Except.mapError] using clear_request id op

lemma settles_pollFrom (op : String) (attempt remaining : ℕ) :
    Settles ns (pollFrom P policy op attempt remaining) := by
  induction remaining generalizing attempt with
  | zero => exact .pure _
  | succ n ih =>
      have hwaits (status : OperationStatus) :
          Clear [(.event (.waiting op attempt status) : Happening (Call ε)),
            .wait policy.interval] :=
        (clear_event (by simp [Event.level]) (by simp) (by simp)).append (clear_wait _)
      refine (Settles.perform fun _ => id).bind (fun status => ?_)
        fun e => rfl
      cases status with
      | success | fail => exact .pure _
      | submitted | pending => exact .leave (hwaits _) (ih (attempt + 1))

lemma settles_delete (record : Namespace) : Settles ns (delete P policy ns record) := by
  refine (Settles.perform fun _ => id).bind (fun services => ?_) fun e => rfl
  refine (settles_deleteServices services).bind (fun _ => ?_) fun e => rfl
  refine (settles_deleteNamespace record.id).bind (fun op => ?_) fun e => rfl
  refine (settles_pollFrom op 1 _).bind (fun _ => ?_) fun e => rfl
  exact .leave (clear_event (by simp [Event.level]) nofun nofun) (.pure _)

/-- A cleanup succeeds with nothing that has failed behind it, or ends with what has. -/
lemma settles_run (P : ControlPlane ρ ε) (policy : Policy) (ns : String) :
    Settles ns (run P policy ns) := by
  refine (Settles.perform fun _ => id).bind (fun records => ?_) fun e => rfl
  dsimp only
  split
  · exact .leave (clear_event (by simp [Event.level]) nofun nofun) (.pure _)
  · exact settles_delete _

/-- A cleanup ends with a deletion that has failed, if there is one. -/
lemma closed_run (P : ControlPlane ρ ε) (policy : Policy) (ns : String) (r : ρ) :
    Closed ns (run P policy ns r).trail := by
  have h := settles_run P policy ns r
  split at h
  · exact .clear h
  · exact h

/-! ### What is warned of -/

/-- What is deleted is logged, also if the cleanup fails. -/
lemma Closed.announced (h : Closed ns trail) : Announced trail := by
  cases h with
  | clear h => exact h.announced
  | warned h id e name => exact h.announced.append ⟨rfl, rfl⟩
  | silent h id answer hanswer =>
      refine h.announced.append ⟨rfl, ?_⟩
      rcases answer with e | _ | op
      · rfl
      · rfl
      · exact absurd rfl (hanswer op)

/-- A call that has failed to delete something comes after what went well. -/
lemma Clear.exists_append (h : Clear trail) {before after : List (Happening (Call ε))}
    (heq : trail ++ trail' = before ++ .call c :: after) (hc : c.FailsToDelete) :
    ∃ more, trail' = more ++ .call c :: after := by
  obtain ⟨more, -, hmore⟩ | ⟨more, htrail, hmore⟩ := List.append_eq_append_iff.mp heq
  · exact ⟨more, hmore⟩
  · cases more with
    | nil => exact ⟨[], hmore.symm⟩
    | cons item rest =>
        obtain ⟨rfl, -⟩ := List.cons.inj hmore
        exact absurd hc (h.smooth c (by simp [htrail]))

/-- A namespace is accepted for deletion just with the operation that does it. -/
lemma not_failsToDelete_deleteNamespace_iff {id : String} {answer : Except ε (Option String)} :
    ¬ (Call.deleteNamespace id answer).FailsToDelete ↔ ∃ op, answer = .ok (some op) := by
  rcases answer with e | _ | op <;> simp [Call.FailsToDelete]

/-- What has failed is warned of, unless it is the deletion of a namespace. -/
lemma Closed.warned_iff (h : Closed ns trail) :
    Warned trail ↔ ∀ id answer, .call (.deleteNamespace id answer) ∈ trail →
      ∃ op, answer = .ok (some op) := by
  cases h with
  | clear h =>
      refine iff_of_true ?_ fun id answer hcall =>
        not_failsToDelete_deleteNamespace_iff.mp (h.smooth _ hcall)
      rintro before c after rfl hc
      exact absurd hc (h.smooth c (by simp))
  | warned h id e name =>
      refine iff_of_true ?_ fun id answer hcall =>
        not_failsToDelete_deleteNamespace_iff.mp (h.smooth _ (by simpa using hcall))
      intro before c after heq hc
      refine ⟨.serviceNotDeleted ns name "failed to delete service", ?_, rfl⟩
      -- The failed call is the one before the warning, and nothing else is left.
      obtain ⟨_ | ⟨item, _ | ⟨item', more⟩⟩, hmore⟩ := h.exists_append heq hc
      · obtain ⟨-, rfl⟩ := List.cons.inj hmore
        exact List.mem_singleton_self _
      · simp at hmore
      · simp at hmore
  | silent h id answer hanswer =>
      refine iff_of_false (fun hwarned => ?_) fun hok => ?_
      · have hfails : (Call.deleteNamespace id answer).FailsToDelete := by
          by_contra h
          obtain ⟨op, rfl⟩ := not_failsToDelete_deleteNamespace_iff.mp h
          exact hanswer op rfl
        obtain ⟨e, he, -⟩ := hwarned _ _ [] rfl hfails
        cases he
      · obtain ⟨op, rfl⟩ := hok id answer (by simp)
        exact hanswer op rfl

/-- Only the failed deletion of a service is warned of. -/
lemma Closed.exists_warn_iff (h : Closed ns trail) :
    (∃ e, .event e ∈ trail ∧ e.level = .warn) ↔
      ∃ id e, .call (.deleteService id (.error e)) ∈ trail := by
  have hsmooth {done : List (Happening (Call ε))} (h : Clear done) (id : String) (e : ε) :
      .call (.deleteService id (.error e)) ∉ done := fun hcall => h.smooth _ hcall trivial
  cases h with
  | clear h =>
      exact iff_of_false (fun ⟨e, he, hwarn⟩ => h.quiet e he hwarn)
        fun ⟨id, e, hcall⟩ => hsmooth h id e hcall
  | warned h id e name =>
      exact iff_of_true ⟨.serviceNotDeleted ns name "failed to delete service", by simp, rfl⟩
        ⟨id, e, by simp⟩
  | silent h id answer hanswer =>
      exact iff_of_false (fun ⟨e, he, hwarn⟩ => h.quiet e (by simpa using he) hwarn)
        fun ⟨id, e, hcall⟩ => hsmooth h id e (by simpa using hcall)

/-- A service that could not be deleted is warned of at once, and nothing comes after that. -/
lemma Closed.warns (h : Closed ns trail) {id : String} {e : ε}
    (hcall : .call (.deleteService id (.error e)) ∈ trail) :
    ∃ before name, trail = before ++ [.call (.deleteService id (.error e)),
      .event (.serviceNotDeleted ns name "failed to delete service")] := by
  cases h with
  | clear h => exact absurd trivial (h.smooth _ hcall)
  | @warned done h id' e' name =>
      have hlast : id = id' ∧ e = e' := by
        simpa [show .call (.deleteService id (.error e)) ∉ done from
          fun hdone => h.smooth _ hdone trivial] using hcall
      obtain ⟨rfl, rfl⟩ := hlast
      exact ⟨done, name, rfl⟩
  | silent h id' answer hanswer =>
      exact absurd trivial (h.smooth (.deleteService id (.error e)) (by simpa using hcall))

/-- The log tells which services were deleted and which deletions of the namespace were
accepted, and a service that could not be deleted is warned of. Every deletion that fails is
warned of just when the deletion of the namespace has not failed: for that one, refused or
left without an operation, there is no warning. -/
theorem run_warned_iff (P : ControlPlane ρ ε) (policy : Policy) (ns : String) (r : ρ) :
    let o := run P policy ns r
    Announced o.trail ∧
    (∀ id e, .call (.deleteService id (.error e)) ∈ o.trail →
      ∃ before name, o.trail = before ++ [.call (.deleteService id (.error e)),
        .event (.serviceNotDeleted ns name "failed to delete service")]) ∧
    ((∃ e, .event e ∈ o.trail ∧ e.level = .warn) ↔
      ∃ id e, .call (.deleteService id (.error e)) ∈ o.trail) ∧
    (Warned o.trail ↔ ∀ id answer, .call (.deleteNamespace id answer) ∈ o.trail →
      ∃ op, answer = .ok (some op)) := by
  intro o
  have h := closed_run P policy ns r
  exact ⟨h.announced, fun id e hcall => h.warns hcall, h.exists_warn_iff, h.warned_iff⟩

/-- A refused deletion of a namespace, and one that no operation does, are not warned of. -/
theorem not_warned_demo :
    let demo : Rehearsal := { Rehearsal.empty with namespaces := [⟨"ns-demo", "demo", .http⟩] }
    let refused : Rehearsal :=
      { demo with failures := [(.deleteNamespace, none, ⟨"delete_namespace rejected", []⟩)] }
    let untold : Rehearsal := { demo with operationIds := [("ns-demo", none)] }
    ¬ Warned (run Rehearsal.plane .standard "demo" refused).trail ∧
      ¬ Warned (run Rehearsal.plane .standard "demo" untold).trail := by
  intro demo refused untold
  let found : List (Happening (Call Failure)) :=
    [.call (.listNamespaces (.ok demo.namespaces)), .call (.listServices "ns-demo" (.ok []))]
  refine ⟨fun h => ?_, fun h => ?_⟩
  · obtain ⟨e, he, -⟩ := h found
      (.deleteNamespace "ns-demo" (.error ⟨"delete_namespace rejected", []⟩)) [] rfl trivial
    cases he
  · obtain ⟨e, he, -⟩ := h found (.deleteNamespace "ns-demo" (.ok none)) [] rfl trivial
    cases he

end Cleanup

end Discovery
