import Discovery.Cache.Limits
import Discovery.Cache.Payload
import Discovery.Store.Run
/-!
The cache of registry answers, over one store that all kinds share.

* `Cache.checkedGet`: reads a key, and treats an answer of the wrong kind as
  corruption: it is reported, dropped, and counts as a miss;
* `Cache.getNamespace`, `Cache.getServiceId`, `Cache.getEndpoints`: lookups;
* `Cache.putNamespace` and its companions: writes, each with the time to live
  of its kind.
-/

namespace Discovery

/-- A cache: its store and its limits. -/
structure Cache where
  store : Store Key Payload
  limits : Limits
  deriving Repr

namespace Cache

/-- A cache without entries. -/
def empty (limits : Limits) (clock : Clock) : Cache :=
  ⟨.empty "cloudmap" limits.capacity.toNat clock, limits⟩

/-- The description of a cache. -/
def describe (c : Cache) : String :=
  "SdCache \x7b store: " ++ c.store.describe ++
    ", config: " ++ c.limits.describe ++ " \x7d"

/-- The number of answers, and the cache once they were counted. -/
def takeCount (c : Cache) : Nat × Cache :=
  (c.store.takeCount.1, { c with store := c.store.takeCount.2 })

/-- What a computation over the store does to the cache. -/
def onStore {α : Type} (x : Action Event (Store Key Payload) α) : Action Event Cache α :=
  .within (·.store) (fun c s => { c with store := s }) id x

/-! ### Reading -/

/-- The answer of a computation over a cache, which a refusal of the clock
ends. -/
abbrev Result (α : Type) : Type := Except ClockFault α

/-- The answer under a key, if it is there, is live and is of the expected
kind. An answer of another kind is reported and dropped. -/
def checkedGet {α : Type} (key : Key) (extract : Payload → Except Mismatch α) :
    Action Event Cache (Result (Option α)) := do
  match ← onStore (.modifyGet (·.get key)) with
  | .error fault => pure (.error fault)
  | .ok none => pure (.ok none)
  | .ok (some payload) =>
      match extract payload with
      | .ok answer => pure (.ok (some answer))
      | .error m =>
          .leave [.mismatch key m.expected m.found]
          onStore (.modify (·.remove key))
          pure (.ok none)

/-- What is known of a namespace: nothing, that there is none, or its
record. -/
def getNamespace (ns : String) : Action Event Cache (Result (Option (Option Namespace))) := do
  let known ← checkedGet (Identity.namespaceRecord ns).key Payload.namespaceRecord?
  match known with
  | .ok (some (some _)) => .leave [.namespaceHit ns]
  | .ok (some none) => .leave [.namespaceHitAbsent ns]
  | .ok none => .leave [.namespaceMiss ns]
  | .error _ => pure ()
  pure known

/-- The id of a service, if it is known. -/
def getServiceId (ns svc : String) : Action Event Cache (Result (Option String)) := do
  let known ← checkedGet (Identity.serviceId ns svc).key Payload.serviceId?
  match known with
  | .ok (some _) => .leave [.serviceIdHit ns svc]
  | .ok none => .leave [.serviceIdMiss ns svc]
  | .error _ => pure ()
  pure known

/-- The endpoints of a service, if they are known. -/
def getEndpoints (ns svc : String) : Action Event Cache (Result (Option (List Endpoint))) := do
  let known ← checkedGet (Identity.endpointSet ns svc).key Payload.endpointSet?
  match known with
  | .ok (some _) => .leave [.endpointsHit ns svc]
  | .ok none => .leave [.endpointsMiss ns svc]
  | .error _ => pure ()
  pure known

/-! ### Writing -/

/-- An answer written under a key, with the time to live of its kind. -/
def put (key : Key) (payload : Payload) : Action Event Cache (Result Unit) := do
  let ttl ← .read (·.limits.ttl payload.kind)
  .leave [.caching payload.kind key ttl]
  .leave (← .read (·.store.addEvents ttl))
  onStore (.modifyGet (·.add key payload ttl))

/-- The record of a namespace, written under its own name. -/
def putNamespace (record : Namespace) : Action Event Cache (Result Unit) :=
  put (Identity.namespaceRecord record.name).key (.namespaceRecord (some record))

/-- The knowledge that there is no namespace of a name. -/
def putAbsence (ns : String) : Action Event Cache (Result Unit) :=
  put (Identity.namespaceRecord ns).key (.namespaceRecord none)

/-- The id of a service. -/
def putServiceId (ns svc id : String) : Action Event Cache (Result Unit) :=
  put (Identity.serviceId ns svc).key (.serviceId id)

/-- The endpoints of a service, in their order. -/
def putEndpoints (ns svc : String) (endpoints : List Endpoint) : Action Event Cache (Result Unit) :=
  put (Identity.endpointSet ns svc).key (.endpointSet endpoints)

/-- The endpoints of a service dropped before they expire. -/
def evictEndpoints (ns svc : String) : Action Event Cache Unit := do
  .leave [.evictingEndpoints ns svc]
  onStore (.modify (·.remove (Identity.endpointSet ns svc).key))

end Cache

end Discovery
