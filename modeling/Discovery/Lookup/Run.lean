import Discovery.Cache.Run
import Discovery.Lookup.Basic
/-!
Runs of lookups.

* `Lookup.Op`: a lookup, or an operation on the cache, the movements of the
  clock included;
* `Lookup.act`: its answer, its effect and its trail;
* `Lookup.run`: what a list of operations comes to.
-/

namespace Discovery.Lookup

/-- A lookup, or an operation on the cache behind it. -/
inductive Op
  | namespaceRecord (ns : String)
  | serviceId (ns svc : String)
  | endpoints (ns svc : String)
  | endpointsChanged (ns svc : String)
  | cache (op : Cache.Op)
  deriving DecidableEq, Repr

/-- What an operation is answered with. -/
inductive Answer (ε : Type)
  | namespaceRecord (a : Result ε (Option Namespace))
  | serviceId (a : Result ε (Option String))
  | endpoints (a : Result ε (List Endpoint))
  | done
  | cache (a : Cache.Answer)

variable {ρ ε : Type}

/-- The answer, the effect and the trail of an operation. -/
def act (R : Registry ρ ε) : Op → Lookup ρ ε (Answer ε)
  | .namespaceRecord ns => .namespaceRecord <$> namespaceRecord R ns
  | .serviceId ns svc => .serviceId <$> serviceId R ns svc
  | .endpoints ns svc => .endpoints <$> endpoints R ns svc
  | .endpointsChanged ns svc => do
      endpointsChanged ns svc
      pure .done
  | .cache op => .cache <$> onCache (Cache.act op)

/-- The answers, the effect and the trail of a list of operations. -/
def run (R : Registry ρ ε) (ops : List Op) : Lookup ρ ε (List (Answer ε)) :=
  .each (act R) ops

end Discovery.Lookup
