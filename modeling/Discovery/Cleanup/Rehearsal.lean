import Discovery.Cleanup.Plane
import Discovery.Registry.Basic
/-!
A control plane that answers from tables, for rehearsals.

* `Rehearsal`: the tables, the states that operations will report, and the
  calls that are to fail;
* `Rehearsal.plane`: the control plane that answers from them. Deletions do
  not change the tables; only the reports are used up.
-/

namespace Discovery

/-- The tables. `reports` is what the next requests for the state of an
operation are answered with; a failure with an id applies to calls with that id
only. -/
structure Rehearsal where
  namespaces : List Namespace
  services : List (String × List Summary)
  operationIds : List (String × Option String)
  reports : List (Except Failure OperationStatus)
  failures : List (Cleanup.Task × Option String × Failure)

namespace Rehearsal

/-- No tables at all. -/
def empty : Rehearsal := ⟨[], [], [], [], []⟩

/-- The first failure that a call with an id is to meet. -/
def failure? (r : Rehearsal) (task : Cleanup.Task) (id : Option String) : Option Failure :=
  (r.failures.find? fun (t, only, _) =>
    t = task && (only.isNone || only == id)).map fun (_, _, f) => f

/-- An answer, unless the call is to fail. -/
def answer {α : Type} (r : Rehearsal) (task : Cleanup.Task) (id : Option String) (a : α) :
    Except Failure α × Rehearsal :=
  match r.failure? task id with
  | some f => (.error f, r)
  | none => (.ok a, r)

/-- The id of the operation that deletes a namespace. -/
def operationId (r : Rehearsal) (namespaceId : String) : Option String :=
  (r.operationIds.lookup namespaceId).getD (some ("op-" ++ namespaceId))

/-- The next report; operations are submitted when all reports are used up. -/
def report (r : Rehearsal) (id : String) : Except Failure OperationStatus × Rehearsal :=
  match r.failure? .getOperation (some id), r.reports with
  | some f, _ => (.error f, r)
  | none, [] => (.ok .submitted, r)
  | none, next :: rest => (next, { r with reports := rest })

/-- The control plane that answers from tables. -/
def plane : ControlPlane Rehearsal Failure where
  listNamespaces r := r.answer .listNamespaces none r.namespaces
  listServices id r := r.answer .listServices (some id) ((r.services.lookup id).getD [])
  deleteNamespace id r := r.answer .deleteNamespace (some id) (r.operationId id)
  deleteService id r := r.answer .deleteService (some id) ()
  getOperation id r := r.report id

end Rehearsal

end Discovery
