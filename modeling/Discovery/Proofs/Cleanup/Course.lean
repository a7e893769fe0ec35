import Discovery.Cleanup.Basic
import Mathlib.Tactic
/-!
What a cleanup asks of the registry, call by call.

* `ControlPlane.Gives`: the answers of calls are those that a control plane
  gives to them, one after the other;
* `Cleanup.Comes`: what a step calls, on a control plane that gives it the
  answers, and what it comes to;
* `Cleanup.Deleting`, `Cleanup.Polling`, `Cleanup.Awaiting`, `Cleanup.Removing`,
  `Cleanup.Course`: the courses of the parts of a cleanup, by the calls that are
  made and the result;
* `Cleanup.comes_run`: a cleanup takes one of these courses.
-/

namespace Discovery

variable {ρ ε α β : Type}

/-! ### Calls and their answers -/

/-- A call made anew on a control plane, with the answer that it then gets, and
the registry after it. -/
def ControlPlane.pose (P : ControlPlane ρ ε) : Cleanup.Call ε → ρ → Cleanup.Call ε × ρ
  | .listNamespaces _, r => (.listNamespaces (P.listNamespaces r).1, (P.listNamespaces r).2)
  | .listServices id _, r => (.listServices id (P.listServices id r).1, (P.listServices id r).2)
  | .deleteNamespace id _, r =>
      (.deleteNamespace id (P.deleteNamespace id r).1, (P.deleteNamespace id r).2)
  | .deleteService id _, r => (.deleteService id (P.deleteService id r).1, (P.deleteService id r).2)
  | .getOperation id _, r => (.getOperation id (P.getOperation id r).1, (P.getOperation id r).2)

/-- The answers of calls are those of a control plane, each in the state that the
calls before it left, and the last one leaves a given state. -/
def ControlPlane.Gives (P : ControlPlane ρ ε) : List (Cleanup.Call ε) → ρ → ρ → Prop
  | [], r, r' => r' = r
  | c :: cs, r, r' => (P.pose c r).1 = c ∧ P.Gives cs (P.pose c r).2 r'

/-- Calls that follow one another. -/
lemma ControlPlane.Gives.append {P : ControlPlane ρ ε} {cs cs' : List (Cleanup.Call ε)}
    {r r' r'' : ρ} (h : P.Gives cs r r') (h' : P.Gives cs' r' r'') :
    P.Gives (cs ++ cs') r r'' := by
  induction cs generalizing r with
  | nil => exact h ▸ h'
  | cons c rest ih => exact ⟨h.1, ih h.2⟩

namespace Cleanup

/-- The failure that a call was met with. -/
def Call.failure? : Call ε → Option ε
  | .listNamespaces (.error e) | .listServices _ (.error e) | .deleteNamespace _ (.error e)
  | .deleteService _ (.error e) | .getOperation _ (.error e) => some e
  | _ => none

variable {P : ControlPlane ρ ε}

/-- What a step comes to by the calls that it makes, which get their answers from
a control plane. -/
def Comes (P : ControlPlane ρ ε) (x : Cleanup ρ ε α) (K : List (Call ε) → α → Prop) : Prop :=
  ∀ r, P.Gives (Happening.calls (x r).trail) r (x r).state ∧
    K (Happening.calls (x r).trail) (x r).answer

namespace Comes

variable {x : Cleanup ρ ε α} {f : α → Cleanup ρ ε β} {K K' : List (Call ε) → α → Prop}
  {L : List (Call ε) → β → Prop}

/-- An answer given without a call. -/
lemma pure {a : α} (h : K [] a) : Comes P (pure a) K := fun _ => ⟨rfl, h⟩

/-- The calls of a second step come after those of the first. -/
lemma bind (hx : Comes P x K) (hf : ∀ cs a, K cs a → Comes P (f a) fun cs' b => L (cs ++ cs') b) :
    Comes P (x >>= f) L := by
  intro r
  obtain ⟨hgives, hK⟩ := hx r
  obtain ⟨hgives', hL⟩ := hf _ _ hK (x r).state
  rw [Action.bind_apply, Happening.calls_append]
  exact ⟨hgives.append hgives', hL⟩

lemma mono (hx : Comes P x K) (h : ∀ cs a, K cs a → K' cs a) : Comes P x K' :=
  fun r => ⟨(hx r).1, h _ _ (hx r).2⟩

/-- Events and waits are no calls. -/
lemma leave {items : List (Happening (Call ε))} (h : Happening.calls items = [])
    (hx : Comes P x K) : Comes P (do .leave items; x) K := by
  refine bind (K := fun cs _ => cs = []) (fun r => ?_) fun cs _ hcs => ?_
  · rw [Action.leave_apply, h]
    exact ⟨rfl, rfl⟩
  · rw [hcs]
    exact hx

/-- A single call, with the answer that the control plane gives. -/
lemma perform {task : Task} {question : ρ → Except ε α × ρ} {call : Except ε α → Call ε}
    (h : ∀ a r, P.pose (call a) r = (call (question r).1, (question r).2)) :
    Comes P (perform task question call) fun cs a =>
      ∃ answer, cs = [call answer] ∧ a = answer.mapError (.failed task) := by
  intro r
  refine ⟨⟨?_, ?_⟩, (question r).1, rfl, rfl⟩
  · show (P.pose (call (question r).1) r).1 = call (question r).1
    rw [h]
  · show _ = (P.pose (call (question r).1) r).2
    rw [h]
    rfl

end Comes

/-! ### The courses of a cleanup -/

/-- The calls that delete services, all of which succeed. -/
def deletions (services : List Summary) : List (Call ε) :=
  services.map fun service => .deleteService service.id (.ok ())

/-- Services are deleted in their order, up to the first failure. -/
inductive Deleting : List Summary → List (Call ε) → Result ε Unit → Prop
  | all (services : List Summary) : Deleting services (deletions services) (.ok ())
  | failed (done : List Summary) (service : Summary) (rest : List Summary) (e : ε) :
      Deleting (done ++ service :: rest) (deletions done ++ [.deleteService service.id (.error e)])
        (.error (.failed .deleteService e))

/-- The calls that find an operation in some states. -/
def polls (op : String) (statuses : List OperationStatus) : List (Call ε) :=
  statuses.map fun status => .getOperation op (.ok status)

/-- An operation is asked for until it has come to its end, or a request fails, or
none of the remaining attempts is left. -/
inductive Polling (op : String) (attempts remaining : ℕ) : List (Call ε) → Result ε Unit → Prop
  | success (waits : List OperationStatus) (hwaits : ∀ status ∈ waits, ¬ status.isTerminal)
      (hroom : waits.length < remaining) :
      Polling op attempts remaining (polls op waits ++ [.getOperation op (.ok .success)]) (.ok ())
  | fail (waits : List OperationStatus) (reason : String)
      (hwaits : ∀ status ∈ waits, ¬ status.isTerminal) (hroom : waits.length < remaining) :
      Polling op attempts remaining (polls op waits ++ [.getOperation op (.ok (.fail reason))])
        (.error (.operationFailed op reason))
  | failed (waits : List OperationStatus) (e : ε) (hwaits : ∀ status ∈ waits, ¬ status.isTerminal)
      (hroom : waits.length < remaining) :
      Polling op attempts remaining (polls op waits ++ [.getOperation op (.error e)])
        (.error (.failed .getOperation e))
  | timedOut (waits : List OperationStatus) (hwaits : ∀ status ∈ waits, ¬ status.isTerminal)
      (hroom : waits.length = remaining) :
      Polling op attempts remaining (polls op waits) (.error (.operationTimedOut op attempts))

/-- A namespace was asked to be deleted, with an answer: the operation that does it
is waited for, if there is one. -/
inductive Awaiting (id : String) (services attempts : ℕ) :
    Except ε (Option String) → List (Call ε) → Result ε Report → Prop
  | refused (e : ε) :
      Awaiting id services attempts (.error e) [] (.error (.failed .deleteNamespace e))
  | untold : Awaiting id services attempts (.ok none) [] (.error (.missingOperationId id))
  | polled {op cs a} (h : Polling op attempts attempts cs a) :
      Awaiting id services attempts (.ok (some op)) cs (a.map fun () => .deleted id services op)

/-- A namespace is removed: its services are listed and deleted, and if all of them
were, it is asked to be deleted itself. -/
inductive Removing (id : String) (attempts : ℕ) : List (Call ε) → Result ε Report → Prop
  | unlisted (e : ε) :
      Removing id attempts [.listServices id (.error e)] (.error (.failed .listServices e))
  | stopped {services cs e} (h : Deleting services cs (.error e)) :
      Removing id attempts (.listServices id (.ok services) :: cs) (.error e)
  | asked (services : List Summary) {answer cs a}
      (h : Awaiting id services.length attempts answer cs a) :
      Removing id attempts
        (.listServices id (.ok services) ::
          (deletions services ++ .deleteNamespace id answer :: cs)) a

/-- The namespaces are listed, and the first one of the name is removed. -/
inductive Course (ns : String) (attempts : ℕ) : List (Call ε) → Result ε Report → Prop
  | unlisted (e : ε) :
      Course ns attempts [.listNamespaces (.error e)] (.error (.failed .listNamespaces e))
  | absent (records : List Namespace) (hname : ∀ record ∈ records, record.name ≠ ns) :
      Course ns attempts [.listNamespaces (.ok records)] (.ok .nothingToDo)
  | found {records record cs a} (hfind : records.find? (·.name = ns) = some record)
      (h : Removing record.id attempts cs a) :
      Course ns attempts (.listNamespaces (.ok records) :: cs) a

/-! ### Cleanups take these courses -/

variable {policy : Policy} {ns id op : String} {attempts remaining : ℕ} {services : List Summary}
  {cs : List (Call ε)} {c : Call ε} {e : ε}

lemma comes_deleteService (id : String) :
    Comes P (deleteService P id) fun cs a =>
      ∃ answer, cs = [.deleteService id answer] ∧ a = answer.mapError (.failed .deleteService) := by
  refine (Comes.perform fun _ _ => rfl).bind ?_
  rintro _ _ ⟨answer, rfl, rfl⟩
  cases answer with
  | error e => exact .pure ⟨_, rfl, rfl⟩
  | ok u => exact .leave rfl (.pure ⟨_, rfl, rfl⟩)

/-- A service deleted before the others. -/
lemma Deleting.cons {a : Result ε Unit} (h : Deleting services cs a) (service : Summary) :
    Deleting (service :: services) (.deleteService service.id (.ok ()) :: cs) a := by
  cases h with
  | all services => exact .all (service :: services)
  | failed done stuck rest e => exact .failed (service :: done) stuck rest e

lemma comes_deleteServices (services : List Summary) :
    Comes P (deleteServices P ns services) (Deleting services) := by
  induction services with
  | nil => exact .pure (.all [])
  | cons service rest ih =>
      refine (comes_deleteService service.id).bind ?_
      rintro _ _ ⟨answer, rfl, rfl⟩
      cases answer with
      | error e => exact .leave rfl (.pure (.failed [] service rest e))
      | ok u => exact ih.mono fun cs a h => h.cons service

lemma comes_deleteNamespace (id : String) :
    Comes P (deleteNamespace P id) fun cs a =>
      ∃ answer, cs = [.deleteNamespace id answer] ∧ a =
        match answer with
        | .error e => .error (.failed .deleteNamespace e)
        | .ok none => .error (.missingOperationId id)
        | .ok (some op) => .ok op := by
  refine (Comes.perform fun _ _ => rfl).bind ?_
  rintro _ _ ⟨answer, rfl, rfl⟩
  rcases answer with e | _ | op
  · exact .pure ⟨_, rfl, rfl⟩
  · exact .pure ⟨_, rfl, rfl⟩
  · exact .leave rfl (.pure ⟨_, rfl, rfl⟩)

/-- A poll that finds an operation on its way, before the others. -/
lemma Polling.cons {a : Result ε Unit} (h : Polling op attempts remaining cs a)
    {status : OperationStatus} (hstatus : ¬ status.isTerminal) :
    Polling op attempts (remaining + 1) (.getOperation op (.ok status) :: cs) a := by
  have hcons {waits : List OperationStatus} (hwaits : ∀ status ∈ waits, ¬ status.isTerminal) :
      ∀ status' ∈ status :: waits, ¬ status'.isTerminal :=
    List.forall_mem_cons.mpr ⟨hstatus, hwaits⟩
  cases h with
  | success waits hwaits hroom =>
      exact .success (status :: waits) (hcons hwaits) (Nat.succ_lt_succ hroom)
  | fail waits reason hwaits hroom =>
      exact .fail (status :: waits) reason (hcons hwaits) (Nat.succ_lt_succ hroom)
  | failed waits e hwaits hroom =>
      exact .failed (status :: waits) e (hcons hwaits) (Nat.succ_lt_succ hroom)
  | timedOut waits hwaits hroom =>
      exact .timedOut (status :: waits) (hcons hwaits) (congrArg (· + 1) hroom)

lemma comes_pollFrom (op : String) (attempt remaining : ℕ) :
    Comes P (pollFrom P policy op attempt remaining)
      (Polling op policy.attempts.toNat remaining) := by
  induction remaining generalizing attempt with
  | zero => exact .pure (.timedOut [] nofun rfl)
  | succ n ih =>
      have hnext {status : OperationStatus} (hstatus : ¬ status.isTerminal) :
          Comes P (pollFrom P policy op (attempt + 1) n) fun cs a =>
            Polling op policy.attempts.toNat (n + 1) ([.getOperation op (.ok status)] ++ cs) a :=
        (ih (attempt + 1)).mono fun cs a h => h.cons hstatus
      refine (Comes.perform fun _ _ => rfl).bind ?_
      rintro _ _ ⟨answer, rfl, rfl⟩
      rcases answer with e | _ | _ | _ | reason
      · exact .pure (.failed [] e nofun n.succ_pos)
      · exact .leave rfl (hnext nofun)
      · exact .leave rfl (hnext nofun)
      · exact .pure (.success [] nofun n.succ_pos)
      · exact .pure (.fail [] reason nofun n.succ_pos)

lemma comes_delete (record : Namespace) :
    Comes P (delete P policy ns record) (Removing record.id policy.attempts.toNat) := by
  refine (Comes.perform fun _ _ => rfl).bind ?_
  rintro _ _ ⟨answer, rfl, rfl⟩
  cases answer with
  | error e => exact .pure (.unlisted e)
  | ok services =>
      refine (comes_deleteServices services).bind fun cs a hdeleting => ?_
      cases hdeleting with
      | failed done stuck rest e => exact .pure (by simpa using .stopped (.failed done stuck rest e))
      | all =>
          refine (comes_deleteNamespace record.id).bind ?_
          rintro _ _ ⟨answer, rfl, rfl⟩
          rcases answer with e | _ | op
          · exact .pure (by simpa using .asked services (.refused e))
          · exact .pure (by simpa using .asked services .untold)
          · refine (comes_pollFrom op 1 _).bind fun cs a hpolling => ?_
            have hasked : Removing record.id _ _ _ := .asked services (.polled hpolling)
            cases a with
            | error e => exact .pure (by simpa [Except.map] using hasked)
            | ok u => exact .leave rfl (.pure (by simpa [Except.map] using hasked))

/-- A cleanup takes one of the courses of its namespace. -/
lemma comes_run (P : ControlPlane ρ ε) (policy : Policy) (ns : String) :
    Comes P (run P policy ns) (Course ns policy.attempts.toNat) := by
  refine (Comes.perform fun _ _ => rfl).bind ?_
  rintro _ _ ⟨answer, rfl, rfl⟩
  cases answer with
  | error e => exact .pure (.unlisted e)
  | ok records =>
      simp only [Except.mapError]
      split
      · next hfind => exact .leave rfl (.pure (.absent records (by simpa using hfind)))
      · next record hfind => exact (comes_delete record).mono fun cs a h => .found hfind h

end Cleanup

end Discovery
