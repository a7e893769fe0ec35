import Discovery.Action
import Discovery.Cleanup.Plane
import Discovery.Log.Happening
/-!
Removing a namespace with every service in it.

* `Cleanup.run`: deletes the services one by one, then the namespace, and
  waits for that to be done; the first failure ends it;
* `Cleanup.poll`: asks for the state of an operation until it has come to its
  end, a given number of times at most.
-/

namespace Discovery

/-- A step of a cleanup, on a registry with states in `ρ` and failures in
`ε`. -/
abbrev Cleanup (ρ ε α : Type) : Type := Action (Happening (Cleanup.Call ε)) ρ α

namespace Cleanup

/-- How long to wait between two polls, and how often to poll. -/
structure Policy where
  interval : Duration
  attempts : UInt32
  deriving DecidableEq, Repr

/-- The policy that holds unless another is given. -/
def Policy.standard : Policy := ⟨.ofSecs 2, 30⟩

/-- How a cleanup ended. -/
inductive Report
  | nothingToDo
  | deleted (namespaceId : String) (services : Nat) (operationId : String)
  deriving DecidableEq, Repr

/-- The answer of a step, or why the cleanup failed there. -/
abbrev Result (ε α : Type) : Type := Except (CleanupError ε) α

variable {ρ ε α : Type}

/-! ### Single calls -/

/-- A call, kept with its answer; a failure becomes an error of the
cleanup. -/
def perform (task : Task) (question : ρ → Except ε α × ρ)
    (call : Except ε α → Call ε) : Cleanup ρ ε (Result ε α) := do
  let answer ← .modifyGet question
  .leave [.call (call answer)]
  pure (answer.mapError (.failed task))

/-- All namespaces. -/
def listNamespaces (P : ControlPlane ρ ε) : Cleanup ρ ε (Result ε (List Namespace)) :=
  perform .listNamespaces P.listNamespaces .listNamespaces

/-- The services of a namespace. -/
def listServices (P : ControlPlane ρ ε) (namespaceId : String) :
    Cleanup ρ ε (Result ε (List Summary)) :=
  perform .listServices (P.listServices namespaceId) (.listServices namespaceId)

/-- A namespace asked to be deleted, and the id of the operation that does
it. -/
def deleteNamespace (P : ControlPlane ρ ε) (namespaceId : String) :
    Cleanup ρ ε (Result ε String) := do
  match ← perform .deleteNamespace (P.deleteNamespace namespaceId)
      (.deleteNamespace namespaceId) with
  | .error e => pure (.error e)
  | .ok none => pure (.error (.missingOperationId namespaceId))
  | .ok (some operationId) =>
      .leave [.event (.deletionRequested namespaceId operationId)]
      pure (.ok operationId)

/-- A service deleted. -/
def deleteService (P : ControlPlane ρ ε) (serviceId : String) : Cleanup ρ ε (Result ε Unit) := do
  match ← perform .deleteService (P.deleteService serviceId)
      (.deleteService serviceId) with
  | .error e => pure (.error e)
  | .ok () =>
      .leave [.event (.serviceDeleted serviceId)]
      pure (.ok ())

/-- The state of an operation. -/
def getOperation (P : ControlPlane ρ ε) (operationId : String) :
    Cleanup ρ ε (Result ε OperationStatus) :=
  perform .getOperation (P.getOperation operationId) (.getOperation operationId)

/-! ### The whole cleanup -/

/-- All services of a list deleted in order, up to the first failure. -/
def deleteServices (P : ControlPlane ρ ε) (ns : String) : List Summary → Cleanup ρ ε (Result ε Unit)
  | [] => pure (.ok ())
  | service :: rest => do
      match ← deleteService P service.id with
      | .error e =>
          .leave [.event (.serviceNotDeleted ns service.name e.message)]
          pure (.error e)
      | .ok () => deleteServices P ns rest

/-- The state of an operation asked for up to `remaining` times more, with a
wait after each state that is not its last; `attempt` counts the polls. -/
def pollFrom (P : ControlPlane ρ ε) (policy : Policy) (operationId : String)
    (attempt : Nat) : Nat → Cleanup ρ ε (Result ε Unit)
  | 0 => pure (.error (.operationTimedOut operationId policy.attempts.toNat))
  | remaining + 1 => do
      match ← getOperation P operationId with
      | .error e => pure (.error e)
      | .ok .success => pure (.ok ())
      | .ok (.fail reason) => pure (.error (.operationFailed operationId reason))
      | .ok status =>
          .leave [.event (.waiting operationId attempt status), .wait policy.interval]
          pollFrom P policy operationId (attempt + 1) remaining

/-- An operation waited for. -/
def poll (P : ControlPlane ρ ε) (policy : Policy) (operationId : String) :
    Cleanup ρ ε (Result ε Unit) :=
  pollFrom P policy operationId 1 policy.attempts.toNat

/-- A namespace deleted with its services, once it has been found. -/
def delete (P : ControlPlane ρ ε) (policy : Policy) (ns : String) (record : Namespace) :
    Cleanup ρ ε (Result ε Report) := do
  match ← listServices P record.id with
  | .error e => pure (.error e)
  | .ok services =>
      match ← deleteServices P ns services with
      | .error e => pure (.error e)
      | .ok () =>
          match ← deleteNamespace P record.id with
          | .error e => pure (.error e)
          | .ok operationId =>
              match ← poll P policy operationId with
              | .error e => pure (.error e)
              | .ok () =>
                  .leave [.event (.cleanupComplete ns services.length)]
                  pure (.ok (.deleted record.id services.length operationId))

/-- The first namespace of a name deleted with its services, if there is
one. -/
def run (P : ControlPlane ρ ε) (policy : Policy) (ns : String) : Cleanup ρ ε (Result ε Report) := do
  match ← listNamespaces P with
  | .error e => pure (.error e)
  | .ok records =>
      match records.find? fun record => record.name = ns with
      | none =>
          .leave [.event (.nothingToCleanUp ns)]
          pure (.ok .nothingToDo)
      | some record => delete P policy ns record

/-- The description of a control plane. -/
def describe : String := "ServiceDiscoveryJanitorApi \x7b .. \x7d"

end Cleanup

end Discovery
