import Discovery.Record.Namespace
import Discovery.Record.Operation
/-!
The registry as a cleanup sees it: five calls, each of which can fail.

* `ControlPlane`: the calls, made on a registry whose state may change with
  every one;
* `Cleanup.Call`: a call with the answer that it got;
* `CleanupError`: why a cleanup failed.
-/

namespace Discovery

/-- A service as the registry lists it. -/
structure Summary where
  id : String
  name : String
  deriving DecidableEq, Repr

/-- The calls of a cleanup, on a registry with states in `ρ` and failures in
`ε`. -/
structure ControlPlane (ρ ε : Type) where
  /-- Lists all namespaces. -/
  listNamespaces : ρ → Except ε (List Namespace) × ρ
  /-- Lists the services of the namespace of an id. -/
  listServices : String → ρ → Except ε (List Summary) × ρ
  /-- Asks for a namespace to be deleted; answers with the id of the operation
  that does it, if the registry gives one. -/
  deleteNamespace : String → ρ → Except ε (Option String) × ρ
  /-- Deletes a service. -/
  deleteService : String → ρ → Except ε Unit × ρ
  /-- Asks for the state of an operation. -/
  getOperation : String → ρ → Except ε OperationStatus × ρ

namespace Cleanup

/-- The five calls. -/
inductive Task
  | listNamespaces
  | listServices
  | deleteNamespace
  | deleteService
  | getOperation
  deriving DecidableEq, Repr

/-- What a call does, in words. -/
def Task.label : Task → String
  | listNamespaces => "list namespaces"
  | listServices => "list services"
  | deleteNamespace => "delete namespace"
  | deleteService => "delete service"
  | getOperation => "get operation"

/-- A call with its answer. -/
inductive Call (ε : Type)
  | listNamespaces (answer : Except ε (List Namespace))
  | listServices (namespaceId : String) (answer : Except ε (List Summary))
  | deleteNamespace (namespaceId : String) (answer : Except ε (Option String))
  | deleteService (serviceId : String) (answer : Except ε Unit)
  | getOperation (operationId : String) (answer : Except ε OperationStatus)

/-- Which of the five a call is. -/
def Call.task {ε : Type} : Call ε → Task
  | listNamespaces _ => .listNamespaces
  | listServices _ _ => .listServices
  | deleteNamespace _ _ => .deleteNamespace
  | deleteService _ _ => .deleteService
  | getOperation _ _ => .getOperation

/-- The id that a call is made with, if it is made with one. -/
def Call.argument? {ε : Type} : Call ε → Option String
  | listNamespaces _ => none
  | listServices id _ | deleteNamespace id _ | deleteService id _ | getOperation id _ =>
      some id

end Cleanup

/-- Why a cleanup failed: a call failed, the registry gave no operation to
wait for, or the operation failed or did not end in time. -/
inductive CleanupError (ε : Type)
  | failed (task : Cleanup.Task) (cause : ε)
  | missingOperationId (namespaceId : String)
  | operationFailed (operationId reason : String)
  | operationTimedOut (operationId : String) (attempts : Nat)
  deriving DecidableEq, Repr

/-- The text of an error. -/
def CleanupError.message {ε : Type} : CleanupError ε → String
  | failed task _ => "failed to " ++ task.label
  | missingOperationId namespaceId =>
      "no operation id returned for deletion of namespace " ++ namespaceId
  | operationFailed operationId reason =>
      "operation " ++ operationId ++ " failed: " ++ reason
  | operationTimedOut operationId attempts =>
      "operation " ++ operationId ++ " did not complete after " ++
        toString attempts ++ " polls"

end Discovery
