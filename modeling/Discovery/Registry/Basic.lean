import Discovery.Record.Endpoint
import Discovery.Record.Namespace
/-!
The registry as a lookup sees it: three questions, each of which can fail.

* `Registry`: the questions, asked of a registry whose state may change with
  every one;
* `Exchange`: a question with the answer that it got;
* `Failure`: why a call failed, from the outermost reason to the root.
-/

namespace Discovery

/-- Why a call failed: what failed, and the causes behind it, the root cause
last. -/
structure Failure where
  message : String
  causes : List String
  deriving DecidableEq, Repr

/-- All reasons of a failure, the outermost first. -/
def Failure.chain (f : Failure) : List String := f.message :: f.causes

/-- A registry with states in `ρ` and failures in `ε`. -/
structure Registry (ρ ε : Type) where
  /-- Looks for the namespace of a name. -/
  findNamespace : String → ρ → Except ε (Option Namespace) × ρ
  /-- Looks for the id of a service in a namespace. -/
  findServiceId : Namespace → String → ρ → Except ε (Option String) × ρ
  /-- Lists the endpoints of a service, by the name of its namespace and its
  id. -/
  listEndpoints : String → String → ρ → Except ε (List Endpoint) × ρ

/-- A question to the registry with its answer. -/
inductive Exchange (ε : Type)
  | findNamespace (ns : String) (answer : Except ε (Option Namespace))
  | findServiceId (record : Namespace) (svc : String) (answer : Except ε (Option String))
  | listEndpoints (ns id : String) (answer : Except ε (List Endpoint))

end Discovery
