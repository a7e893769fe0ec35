import Discovery.Registry.Basic
/-!
A registry that answers from tables, for rehearsals.

* `Script`: the tables, and the calls that are to fail;
* `Script.registry`: the registry that answers from them and never changes
  them.
-/

namespace Discovery

/-- The three questions to a registry. -/
inductive Question
  | namespaceRecord
  | serviceId
  | endpointSet
  deriving DecidableEq, Repr

/-- A list of bindings with one key bound anew, or bound no more. -/
def rebind {α β : Type} [DecidableEq α] (key : α) (value : Option β)
    (rows : List (α × β)) : List (α × β) :=
  let others := rows.filter fun row => row.1 ≠ key
  match value with
  | some v => (key, v) :: others
  | none => others

/-- The tables: namespaces by the name that is looked up, service ids by the
id of a namespace and the name of a service, endpoints by the id of a service,
and failures by the question that is to fail. -/
structure Script where
  namespaces : List (String × Namespace)
  services : List ((String × String) × String)
  endpoints : List (String × List Endpoint)
  failures : List (Question × Failure)
  deriving DecidableEq, Repr

namespace Script

/-- No tables at all. -/
def empty : Script := ⟨[], [], [], []⟩

/-- An answer, unless the question is to fail. -/
def answer {α : Type} (s : Script) (q : Question) (a : α) : Except Failure α × Script :=
  match s.failures.lookup q with
  | some f => (.error f, s)
  | none => (.ok a, s)

/-- The registry that answers from tables. Endpoints that are not listed are
none. -/
def registry : Registry Script Failure where
  findNamespace ns s := s.answer .namespaceRecord (s.namespaces.lookup ns)
  findServiceId record svc s := s.answer .serviceId (s.services.lookup (record.id, svc))
  listEndpoints _ id s := s.answer .endpointSet ((s.endpoints.lookup id).getD [])

/-! ### Changing the tables -/

/-- A name bound to a namespace, or to none. -/
def setNamespace (s : Script) (ns : String) (record : Option Namespace) : Script :=
  { s with namespaces := rebind ns record s.namespaces }

/-- A service of a namespace bound to an id, or to none. -/
def setService (s : Script) (namespaceId svc : String) (id : Option String) : Script :=
  { s with services := rebind (namespaceId, svc) id s.services }

/-- A service bound to its endpoints, or to none. -/
def setEndpoints (s : Script) (id : String) (endpoints : Option (List Endpoint)) : Script :=
  { s with endpoints := rebind id endpoints s.endpoints }

/-- A question made to fail, or not to. -/
def setFailure (s : Script) (q : Question) (f : Option Failure) : Script :=
  { s with failures := rebind q f s.failures }

end Script

end Discovery
