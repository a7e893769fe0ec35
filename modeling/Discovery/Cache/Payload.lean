import Discovery.Key.Basic
import Discovery.Record.Endpoint
import Discovery.Record.Namespace
/-!
What the shared store holds: answers of every kind.

* `Payload.kind`: the kind of an answer;
* `Payload.namespaceRecord?` and its two companions: the answer itself, if it
  is of the kind that is expected, and the mismatch otherwise.
-/

namespace Discovery

/-- A stored answer. A namespace can be known not to exist. -/
inductive Payload
  | namespaceRecord (record : Option Namespace)
  | serviceId (id : String)
  | endpointSet (endpoints : List Endpoint)
  deriving DecidableEq, Repr

/-- A stored answer of another kind than the one that was expected. -/
structure Mismatch where
  expected : Kind
  found : Kind
  deriving DecidableEq, Repr

/-- The text of a mismatch. -/
def Mismatch.message (m : Mismatch) : String :=
  "expected " ++ m.expected.label ++ " payload, found " ++ m.found.label

namespace Payload

/-- The kind of an answer. -/
def kind : Payload → Kind
  | namespaceRecord _ => .namespaceRecord
  | serviceId _ => .serviceId
  | endpointSet _ => .endpointSet

/-- What is known of a namespace. -/
def namespaceRecord? : Payload → Except Mismatch (Option Namespace)
  | namespaceRecord record => .ok record
  | other => .error ⟨.namespaceRecord, other.kind⟩

/-- The id of a service. -/
def serviceId? : Payload → Except Mismatch String
  | serviceId id => .ok id
  | other => .error ⟨.serviceId, other.kind⟩

/-- The endpoints of a service. -/
def endpointSet? : Payload → Except Mismatch (List Endpoint)
  | endpointSet endpoints => .ok endpoints
  | other => .error ⟨.endpointSet, other.kind⟩

end Payload

end Discovery
