import Discovery.Proofs.Cleanup.Course
/-!
How a cleanup ends.

* `Cleanup.Halts`: nothing follows a call that ends a cleanup, whose error is what
  the cleanup comes to; any other error is that of an operation which the polls did
  not see end;
* `Cleanup.Course.exists_deleteNamespace_iff`: a namespace is asked to be deleted
  just when it is the first one of the name and all of its services were deleted;
* `Cleanup.Course.eq_nothingToDo_iff`, `Cleanup.Course.eq_deleted_iff`: when there
  was nothing to do, and when a deletion is reported;
* `Cleanup.course_run`: so it is of every cleanup.
-/

namespace Discovery.Cleanup

variable {ρ ε α β : Type} {policy : Policy} {ns id op : String} {attempts remaining : ℕ}
  {services : List Summary} {cs : List (Call ε)} {c : Call ε} {e : ε}

/-! ### What the courses have in common -/

/-- The error that a call ends a cleanup with: it failed, it brought no operation
to wait for, or it brought word that the operation failed. -/
def Call.fault? : Call ε → Option (CleanupError ε)
  | .deleteNamespace id (.ok none) => some (.missingOperationId id)
  | .getOperation op (.ok (.fail reason)) => some (.operationFailed op reason)
  | c => c.failure?.map (.failed c.task)

/-- A call that fails ends a cleanup with its own error. -/
lemma fault?_of_failure? (h : c.failure? = some e) : c.fault? = some (.failed c.task e) := by
  cases c with
  | listNamespaces a | listServices _ a | deleteService _ a =>
      rcases a with e | a <;> simp_all [Call.fault?, Call.failure?]
  | deleteNamespace _ a => rcases a with e | _ | op <;> simp_all [Call.fault?, Call.failure?]
  | getOperation _ a => rcases a with e | _ | _ | _ | r <;> simp_all [Call.fault?, Call.failure?]

lemma fault?_of_mem_deletions (h : c ∈ deletions services) : c.fault? = none := by
  obtain ⟨service, -, rfl⟩ := List.mem_map.mp h
  rfl

lemma fault?_of_mem_polls {waits : List OperationStatus}
    (hwaits : ∀ status ∈ waits, ¬ status.isTerminal) (h : c ∈ polls op waits) :
    c.fault? = none := by
  obtain ⟨status, hstatus, rfl⟩ := List.mem_map.mp h
  cases status with
  | submitted | pending => rfl
  | success => rfl
  | fail reason => exact absurd rfl (hwaits _ hstatus)

/-- An error is that of the last call, or there were as many polls as allowed, all
of which found the operation on its way. -/
def Blamed (attempts : ℕ) (cs : List (Call ε)) (err : CleanupError ε) : Prop :=
  (∃ init c, cs = init ++ [c] ∧ c.fault? = some err) ∨
    ∃ init op waits, cs = init ++ polls op waits ∧ waits.length = attempts ∧
      (∀ status ∈ waits, ¬ status.isTerminal) ∧ err = .operationTimedOut op attempts

lemma Blamed.append {err : CleanupError ε} (h : Blamed attempts cs err) (init : List (Call ε)) :
    Blamed attempts (init ++ cs) err := by
  rcases h with ⟨init', c, rfl, hc⟩ | ⟨init', op, waits, rfl, hwaits⟩
  · exact .inl ⟨init ++ init', c, (List.append_assoc ..).symm, hc⟩
  · exact .inr ⟨init ++ init', op, waits, (List.append_assoc ..).symm, hwaits⟩

/-- Nothing follows a call that ends a cleanup, whose error is what the calls come to,
and there is no other error but that of an operation which the polls did not see
end. -/
structure Halts (attempts : ℕ) (cs : List (Call ε)) (a : Result ε α) : Prop where
  pairwise : cs.Pairwise fun c _ => c.fault? = none
  eq_error : ∀ c ∈ cs, ∀ err, c.fault? = some err → a = .error err
  blamed : ∀ err, a = .error err → Blamed attempts cs err

namespace Halts

variable {a : Result ε α}

lemma nil (v : α) : Halts attempts ([] : List (Call ε)) (.ok v : Result ε α) :=
  ⟨.nil, nofun, nofun⟩

/-- A call that ends it all. -/
lemma singleton {err : CleanupError ε} (h : c.fault? = some err) :
    Halts attempts [c] (.error err : Result ε α) := by
  refine ⟨List.pairwise_singleton _ _, fun c' hc' err' herr' => ?_, fun err' herr' => ?_⟩
  · obtain rfl := List.mem_singleton.mp hc'
    rw [h] at herr'
    cases herr'
    rfl
  · cases herr'
    exact .inl ⟨[], c, rfl, h⟩

/-- Polls that do not see the operation end, and no other call. -/
lemma polls {waits : List OperationStatus} (hwaits : ∀ status ∈ waits, ¬ status.isTerminal)
    (hroom : waits.length = attempts) :
    Halts attempts (polls op waits : List (Call ε))
      (.error (.operationTimedOut op attempts) : Result ε α) := by
  have hnone : ∀ c ∈ (Cleanup.polls op waits : List (Call ε)), c.fault? = none :=
    fun c hc => fault?_of_mem_polls hwaits hc
  refine ⟨List.pairwise_of_forall_mem_list fun c hc _ _ => hnone c hc, fun c hc err herr => ?_,
    fun err herr => ?_⟩
  · rw [hnone c hc] at herr
    cases herr
  · cases herr
    exact .inr ⟨[], op, waits, rfl, hroom, hwaits, rfl⟩

/-- Calls that end nothing come before the others. -/
lemma append {init : List (Call ε)} (h : Halts attempts cs a)
    (hinit : ∀ c ∈ init, c.fault? = none) : Halts attempts (init ++ cs) a := by
  refine ⟨List.pairwise_append.mpr ⟨List.pairwise_of_forall_mem_list fun c hc _ _ => hinit c hc,
    h.pairwise, fun c hc _ _ => hinit c hc⟩, fun c hc err herr => ?_,
    fun err herr => (h.blamed err herr).append init⟩
  rcases List.mem_append.mp hc with hc | hc
  · rw [hinit c hc] at herr
    cases herr
  · exact h.eq_error c hc err herr

lemma cons (h : Halts attempts cs a) (hc : c.fault? = none) : Halts attempts (c :: cs) a :=
  h.append fun c' (hc' : c' ∈ [c]) => List.mem_singleton.mp hc' ▸ hc

/-- What a step comes to in place of its own answer, if that is no error. -/
lemma map (h : Halts attempts cs a) (f : α → β) : Halts attempts cs (a.map f) := by
  refine ⟨h.pairwise, fun c hc err herr => ?_, fun err herr => ?_⟩
  · rw [h.eq_error c hc err herr]
    rfl
  · cases a with
    | error err' =>
        cases herr
        exact h.blamed err rfl
    | ok v => cases herr

end Halts

lemma Deleting.halts {a : Result ε Unit} (h : Deleting services cs a) : Halts attempts cs a := by
  cases h with
  | all => simpa using (Halts.nil ()).append fun c hc => fault?_of_mem_deletions hc
  | failed done stuck rest e =>
      exact (Halts.singleton rfl).append fun c hc => fault?_of_mem_deletions hc

lemma Polling.halts {a : Result ε Unit} (h : Polling op attempts attempts cs a) :
    Halts attempts cs a := by
  cases h with
  | success waits hwaits hroom =>
      exact ((Halts.nil ()).cons rfl).append fun c hc => fault?_of_mem_polls hwaits hc
  | fail waits reason hwaits hroom =>
      exact (Halts.singleton rfl).append fun c hc => fault?_of_mem_polls hwaits hc
  | failed waits e hwaits hroom =>
      exact (Halts.singleton rfl).append fun c hc => fault?_of_mem_polls hwaits hc
  | timedOut waits hwaits hroom => exact .polls hwaits hroom

lemma Awaiting.halts {n : ℕ} {answer : Except ε (Option String)} {a : Result ε Report}
    (h : Awaiting id n attempts answer cs a) :
    Halts attempts (.deleteNamespace id answer :: cs) a := by
  cases h with
  | refused e => exact .singleton rfl
  | untold => exact .singleton rfl
  | polled h => exact (h.halts.map _).cons rfl

lemma Removing.halts {a : Result ε Report} (h : Removing id attempts cs a) :
    Halts attempts cs a := by
  cases h with
  | unlisted e => exact .singleton rfl
  | stopped h => exact (h.halts.map fun () => Report.nothingToDo).cons rfl
  | asked services h => exact (h.halts.append fun c hc => fault?_of_mem_deletions hc).cons rfl

lemma Course.halts {a : Result ε Report} (h : Course ns attempts cs a) : Halts attempts cs a := by
  cases h with
  | unlisted e => exact .singleton rfl
  | absent records hname => exact (Halts.nil _).cons rfl
  | found hfind h => exact h.halts.cons rfl

/-! ### Which calls are made -/

/-- The calls that delete services are all of one kind. -/
lemma task_of_mem_deletions (h : c ∈ deletions services) : c.task = .deleteService := by
  obtain ⟨service, -, rfl⟩ := List.mem_map.mp h
  rfl

lemma Deleting.task_eq {a : Result ε Unit} (h : Deleting services cs a) (hc : c ∈ cs) :
    c.task = .deleteService := by
  cases h with
  | all => exact task_of_mem_deletions hc
  | failed done stuck rest e =>
      rcases List.mem_append.mp hc with hc | hc
      · exact task_of_mem_deletions hc
      · rw [List.mem_singleton.mp hc]
        rfl

/-- Waiting for an operation asks for nothing else. -/
lemma Polling.task_eq {a : Result ε Unit} (h : Polling op attempts remaining cs a) (hc : c ∈ cs) :
    c.task = .getOperation := by
  have hpolls {waits : List OperationStatus} (hc : c ∈ polls op waits) :
      c.task = .getOperation := by
    obtain ⟨status, -, rfl⟩ := List.mem_map.mp hc
    rfl
  cases h with
  | timedOut => exact hpolls hc
  | success | fail | failed =>
      rcases List.mem_append.mp hc with hc | hc
      · exact hpolls hc
      · rw [List.mem_singleton.mp hc]
        rfl

lemma Awaiting.task_eq {n : ℕ} {answer : Except ε (Option String)} {a : Result ε Report}
    (h : Awaiting id n attempts answer cs a) (hc : c ∈ cs) : c.task = .getOperation := by
  cases h with
  | refused | untold => cases hc
  | polled h => exact h.task_eq hc

/-- A removal does not list the namespaces again. -/
lemma Removing.task_ne {a : Result ε Report} (h : Removing id attempts cs a) (hc : c ∈ cs) :
    c.task ≠ .listNamespaces := by
  cases h with
  | unlisted e =>
      rw [List.mem_singleton.mp hc]
      nofun
  | stopped h =>
      rcases List.mem_cons.mp hc with rfl | hc
      · nofun
      · rw [h.task_eq hc]
        nofun
  | asked services h =>
      simp only [List.mem_cons, List.mem_append] at hc
      rcases hc with rfl | hc | rfl | hc
      · nofun
      · rw [task_of_mem_deletions hc]
        nofun
      · nofun
      · rw [h.task_eq hc]
        nofun

/-- Of deletions with other calls after them, the calls that delete services are
those deletions. -/
lemma filter_deletions_append {services : List Summary} {cs : List (Call ε)}
    (h : ∀ c ∈ cs, c.task ≠ .deleteService) :
    (deletions services ++ cs).filter (·.task = Task.deleteService) = deletions services := by
  rw [List.filter_append, List.filter_eq_self.mpr, List.filter_eq_nil_iff.mpr, List.append_nil]
  · exact fun c hc => by simpa using h c hc
  · exact fun c hc => by simpa using task_of_mem_deletions hc

/-- Deletions one of which failed are not those of any services that were all
deleted. -/
lemma Deleting.ne_deletions {err : CleanupError ε} (h : Deleting services cs (.error err))
    (services' : List Summary) : cs ≠ deletions services' := by
  intro heq
  generalize ha : (Except.error err : Result ε Unit) = a at h
  cases h with
  | all => cases ha
  | failed done stuck rest e =>
      have hmem : .deleteService stuck.id (.error e) ∈ deletions services' :=
        heq ▸ List.mem_append_right _ (List.mem_singleton_self _)
      exact absurd (fault?_of_mem_deletions hmem) nofun

/-- A removal asks for its own namespace to be deleted, and that just when all the
services that were listed were deleted. -/
lemma Removing.exists_deleteNamespace_iff {a : Result ε Report} (h : Removing id attempts cs a)
    (id' : String) :
    (∃ answer, .deleteNamespace id' answer ∈ cs) ↔ id' = id ∧
      ∃ services, .listServices id (.ok services) ∈ cs ∧
        cs.filter (·.task = Task.deleteService) = deletions services := by
  cases h with
  | unlisted e => simp
  | @stopped services cs e h =>
      have hother (c : Call ε) (hc : c.task ≠ Task.deleteService) : c ∉ cs :=
        fun hmem => hc (h.task_eq hmem)
      have hall : cs.filter (·.task = Task.deleteService) = cs :=
        List.filter_eq_self.mpr fun c hc => by simpa using h.task_eq hc
      have hfilter : (Call.listServices id (.ok services) :: cs).filter
          (·.task = Task.deleteService) = cs := hall
      rw [hfilter]
      constructor
      · rintro ⟨answer, hmem⟩
        rcases List.mem_cons.mp hmem with heq | hmem
        · cases heq
        · exact absurd hmem (hother _ nofun)
      · rintro ⟨-, services', -, heq⟩
        exact absurd heq (h.ne_deletions services')
  | @asked services answer cs a h =>
      have hother : ∀ c ∈ .deleteNamespace id answer :: cs, c.task ≠ Task.deleteService := by
        intro c hc
        rcases List.mem_cons.mp hc with rfl | hc
        · nofun
        · rw [h.task_eq hc]
          nofun
      constructor
      · rintro ⟨answer', hmem⟩
        simp only [List.mem_cons, List.mem_append] at hmem
        rcases hmem with heq | hmem | heq | hmem
        · cases heq
        · exact absurd (task_of_mem_deletions hmem) nofun
        · cases heq
          exact ⟨rfl, services, List.mem_cons_self .., filter_deletions_append hother⟩
        · exact absurd (h.task_eq hmem) nofun
      · rintro ⟨rfl, -⟩
        exact ⟨answer, by simp⟩

/-- Waiting for an operation succeeds just when it is found to have succeeded. -/
lemma Polling.eq_ok_iff {a : Result ε Unit} (h : Polling op attempts remaining cs a) :
    a = .ok () ↔ .getOperation op (.ok .success) ∈ cs := by
  have hpolls {waits : List OperationStatus} (hwaits : ∀ status ∈ waits, ¬ status.isTerminal) :
      .getOperation op (.ok .success) ∉ (polls op waits : List (Call ε)) := by
    intro hmem
    obtain ⟨status, hstatus, heq⟩ := List.mem_map.mp hmem
    cases heq
    exact hwaits _ hstatus rfl
  cases h with
  | success waits => simp
  | fail waits reason hwaits => simpa using hpolls hwaits
  | failed waits e hwaits => simpa using hpolls hwaits
  | timedOut waits hwaits => simpa using hpolls hwaits

/-- What comes of asking for a namespace to be deleted is a report just when the
operation is found to have succeeded. -/
lemma Awaiting.eq_deleted_iff {services : ℕ} {answer : Except ε (Option String)}
    {a : Result ε Report} (h : Awaiting id services attempts answer cs a) (id' : String) (n : ℕ)
    (op : String) :
    a = .ok (.deleted id' n op) ↔ id' = id ∧ services = n ∧ answer = .ok (some op) ∧
      .getOperation op (.ok .success) ∈ cs := by
  cases h with
  | refused e => simp
  | untold => simp
  | @polled op' cs a h =>
      constructor
      · intro heq
        rcases a with err | u
        · cases heq
        · cases heq
          exact ⟨rfl, rfl, rfl, h.eq_ok_iff.mp rfl⟩
      · rintro ⟨rfl, rfl, heq, hmem⟩
        cases heq
        rw [h.eq_ok_iff.mpr hmem]
        rfl

/-- A removal comes to a report just when an operation that does it is found to have
succeeded, and it reports that operation and the number of the services. -/
lemma Removing.eq_deleted_iff {a : Result ε Report} (h : Removing id attempts cs a) (id' : String)
    (n : ℕ) (op : String) :
    a = .ok (.deleted id' n op) ↔ id' = id ∧
      (∃ services, .listServices id (.ok services) ∈ cs ∧ services.length = n) ∧
      .deleteNamespace id (.ok (some op)) ∈ cs ∧ .getOperation op (.ok .success) ∈ cs := by
  cases h with
  | unlisted e => simp
  | stopped h =>
      refine ⟨nofun, fun ⟨_, _, _, hmem⟩ => ?_⟩
      rcases List.mem_cons.mp hmem with heq | hmem
      · cases heq
      · exact absurd (h.task_eq hmem) nofun
  | @asked services answer cs a h =>
      have hmem {c : Call ε} (hc : c.task ≠ .deleteService) :
          c ∈ Call.listServices id (.ok services) ::
            (deletions services ++ .deleteNamespace id answer :: cs) ↔
          c = .listServices id (.ok services) ∨ c = .deleteNamespace id answer ∨ c ∈ cs := by
        have hdeletion : c ∉ deletions services := fun h => hc (task_of_mem_deletions h)
        simp [hdeletion]
      have hpoll {c : Call ε} (hc : c.task ≠ .getOperation) : c ∉ cs :=
        fun hcs => hc (h.task_eq hcs)
      have hlisted (services' : List Summary) :
          .listServices id (.ok services') ∈ Call.listServices id (.ok services) ::
            (deletions services ++ .deleteNamespace id answer :: cs) ↔ services' = services := by
        have hother : .listServices id (.ok services') ∉ cs := hpoll nofun
        rw [hmem (by nofun)]
        simp [hother]
      have hasked : .deleteNamespace id (.ok (some op)) ∈ Call.listServices id (.ok services) ::
          (deletions services ++ .deleteNamespace id answer :: cs) ↔ answer = .ok (some op) := by
        have hother : .deleteNamespace id (.ok (some op)) ∉ cs := hpoll nofun
        rw [hmem (by nofun)]
        simp [hother, eq_comm]
      have hpolled : .getOperation op (.ok .success) ∈ Call.listServices id (.ok services) ::
          (deletions services ++ .deleteNamespace id answer :: cs) ↔
          .getOperation op (.ok .success) ∈ cs := by
        rw [hmem (by nofun)]
        simp
      simp only [h.eq_deleted_iff, hlisted, hasked, hpolled, exists_eq_left]

/-- A removal does not come to nothing to do. -/
lemma Removing.ne_nothingToDo {a : Result ε Report} (h : Removing id attempts cs a) :
    a ≠ .ok .nothingToDo := by
  cases h with
  | unlisted | stopped => nofun
  | asked services h =>
      cases h with
      | refused | untold => nofun
      | @polled op cs a h => cases a <;> nofun

/-- The first call of a course lists the namespaces, and it is the only one that
does. -/
lemma Course.mem_listNamespaces_iff {a : Result ε Report} (h : Course ns attempts cs a)
    (answer : Except ε (List Namespace)) :
    .listNamespaces answer ∈ cs ↔ cs.head? = some (.listNamespaces answer) := by
  cases h with
  | unlisted e => simp [eq_comm]
  | absent records => simp [eq_comm]
  | @found records record cs a hfind h =>
      have hother : .listNamespaces answer ∉ cs := fun hmem => h.task_ne hmem rfl
      simp [hother, eq_comm]

/-- A cleanup comes to nothing to do just when no namespace that was listed has the
name. -/
lemma Course.eq_nothingToDo_iff {a : Result ε Report} (h : Course ns attempts cs a) :
    a = .ok .nothingToDo ↔
      ∃ records, .listNamespaces (.ok records) ∈ cs ∧ ∀ record ∈ records, record.name ≠ ns := by
  simp only [h.mem_listNamespaces_iff]
  cases h with
  | unlisted e => simp
  | absent records hname => simpa using hname
  | @found records record cs a hfind h =>
      refine iff_of_false h.ne_nothingToDo ?_
      rintro ⟨records', heq, hname⟩
      cases heq
      have hmem := List.mem_of_find?_eq_some hfind
      exact hname record hmem (by simpa using List.find?_some hfind)

/-- The first namespace of the name is the one that was found, whatever is said of
the listing. -/
lemma exists_listNamespaces_iff {records : List Namespace} {record : Namespace}
    (hfind : records.find? (·.name = ns) = some record) (hcs : ∀ c ∈ cs, c.task ≠ .listNamespaces)
    (id : String) :
    (∃ records' record', .listNamespaces (.ok records') ∈ Call.listNamespaces (.ok records) :: cs ∧
      records'.find? (·.name = ns) = some record' ∧ record'.id = id) ↔ id = record.id := by
  constructor
  · rintro ⟨records', record', hmem, hfind', rfl⟩
    rcases List.mem_cons.mp hmem with heq | hmem
    · cases heq
      rw [hfind, Option.some_inj] at hfind'
      rw [hfind']
    · exact absurd rfl (hcs _ hmem)
  · rintro rfl
    exact ⟨records, record, List.mem_cons_self .., hfind, rfl⟩

/-- A namespace is asked to be deleted just when it is the first one of the name, and
all of its services were deleted. -/
lemma Course.exists_deleteNamespace_iff {a : Result ε Report} (h : Course ns attempts cs a)
    (id : String) :
    (∃ answer, .deleteNamespace id answer ∈ cs) ↔
      (∃ records record, .listNamespaces (.ok records) ∈ cs ∧
        records.find? (·.name = ns) = some record ∧ record.id = id) ∧
      ∃ services, .listServices id (.ok services) ∈ cs ∧
        cs.filter (·.task = Task.deleteService) = deletions services := by
  cases h with
  | unlisted e => simp
  | absent records hname => simp
  | @found records record cs a hfind h =>
      rw [exists_listNamespaces_iff hfind fun c hc => h.task_ne hc]
      have hfilter : (Call.listNamespaces (.ok records) :: cs).filter
          (·.task = Task.deleteService) = cs.filter (·.task = Task.deleteService) := rfl
      simp only [hfilter, List.mem_cons, reduceCtorEq, false_or]
      rw [h.exists_deleteNamespace_iff]
      exact and_congr_right fun hid => by rw [hid]

/-- A cleanup reports a deletion just when an operation that removes the first
namespace of the name is found to have succeeded. -/
lemma Course.eq_deleted_iff {a : Result ε Report} (h : Course ns attempts cs a) (id : String)
    (n : ℕ) (op : String) :
    a = .ok (.deleted id n op) ↔
      (∃ records record, .listNamespaces (.ok records) ∈ cs ∧
        records.find? (·.name = ns) = some record ∧ record.id = id) ∧
      (∃ services, .listServices id (.ok services) ∈ cs ∧ services.length = n) ∧
      .deleteNamespace id (.ok (some op)) ∈ cs ∧ .getOperation op (.ok .success) ∈ cs := by
  cases h with
  | unlisted e => simp
  | absent records hname => simp
  | @found records record cs a hfind h =>
      rw [exists_listNamespaces_iff hfind fun c hc => h.task_ne hc]
      simp only [List.mem_cons, reduceCtorEq, false_or]
      rw [h.eq_deleted_iff]
      exact and_congr_right fun hid => by rw [hid]

/-! ### Every cleanup -/

/-- A cleanup asks the control plane for what one of its courses says, in the order
that it says: the namespaces are listed, the services of the first one of the name
are listed and deleted in their order, the namespace is asked to be deleted just when
all of them were, and then only the operation that does it is asked for. No call
follows a failed one, whose error the cleanup ends with. There was nothing to do just
when no namespace that was listed has the name, and a deletion is reported just when
every step succeeded and the operation was found to have. Any other end is an error,
that of the last call or that of an operation which the polls did not see end. -/
theorem course_run (P : ControlPlane ρ ε) (policy : Policy) (ns : String) (r : ρ) :
    let o := run P policy ns r
    let cs := Happening.calls o.trail
    (P.Gives cs r o.state ∧ Course ns policy.attempts.toNat cs o.answer) ∧
    (cs.Pairwise (fun c _ => c.failure? = none) ∧
      ∀ c ∈ cs, ∀ e, c.failure? = some e → o.answer = .error (.failed c.task e)) ∧
    (∀ id, (∃ answer, .deleteNamespace id answer ∈ cs) ↔
      (∃ records record, .listNamespaces (.ok records) ∈ cs ∧
        records.find? (·.name = ns) = some record ∧ record.id = id) ∧
      ∃ services, .listServices id (.ok services) ∈ cs ∧
        cs.filter (·.task = Task.deleteService) = deletions services) ∧
    (o.answer = .ok .nothingToDo ↔
      ∃ records, .listNamespaces (.ok records) ∈ cs ∧ ∀ record ∈ records, record.name ≠ ns) ∧
    (∀ id n op, o.answer = .ok (.deleted id n op) ↔
      (∃ records record, .listNamespaces (.ok records) ∈ cs ∧
        records.find? (·.name = ns) = some record ∧ record.id = id) ∧
      (∃ services, .listServices id (.ok services) ∈ cs ∧ services.length = n) ∧
      .deleteNamespace id (.ok (some op)) ∈ cs ∧ .getOperation op (.ok .success) ∈ cs) ∧
    ∀ err, o.answer = .error err → Blamed policy.attempts.toNat cs err := by
  intro o cs
  obtain ⟨hgives, hcourse⟩ := comes_run P policy ns r
  have hhalts : Halts policy.attempts.toNat cs o.answer := hcourse.halts
  refine ⟨⟨hgives, hcourse⟩, ⟨?_, fun c hc e he => ?_⟩, hcourse.exists_deleteNamespace_iff,
    hcourse.eq_nothingToDo_iff, hcourse.eq_deleted_iff, hhalts.blamed⟩
  · refine hhalts.pairwise.imp fun {c _} hc => ?_
    rw [Option.eq_none_iff_forall_ne_some]
    intro e he
    rw [fault?_of_failure? he] at hc
    cases hc
  · exact hhalts.eq_error c hc _ (fault?_of_failure? he)

end Discovery.Cleanup
