import Discovery.Key.Basic
import Discovery.Record.Operation
import Discovery.Time.Duration
/-!
The events that the library logs.

* `Event`: what happened, with what is worth knowing about it;
* `Event.level`, `Event.message`, `Event.fields`: how it is logged.
-/

namespace Discovery

/-- How much an event matters. -/
inductive Level
  | error
  | warn
  | info
  | debug
  deriving DecidableEq, Repr

/-- The name of a level. -/
def Level.label : Level → String
  | error => "ERROR"
  | warn => "WARN"
  | info => "INFO"
  | debug => "DEBUG"

/-- The filter of log events that holds unless another is given. -/
def defaultFilter : String := "cloudmap_sync=info"

/-- The value of a field of an event. -/
inductive FieldValue
  | text (value : String)
  | number (value : Nat)
  deriving DecidableEq, Repr

/-- Something that happened. -/
inductive Event
  | ttlClamped (store : String) (ttl : Duration)
  | caching (kind : Kind) (key : Key) (ttl : Duration)
  | mismatch (key : Key) (expected found : Kind)
  | namespaceHit (ns : String)
  | namespaceHitAbsent (ns : String)
  | namespaceMiss (ns : String)
  | serviceIdHit (ns svc : String)
  | serviceIdMiss (ns svc : String)
  | endpointsHit (ns svc : String)
  | endpointsMiss (ns svc : String)
  | evictingEndpoints (ns svc : String)
  | namespaceUnknown (ns : String)
  | endpointsResolved (ns svc : String) (count : Nat)
  | nothingToCleanUp (ns : String)
  | serviceDeleted (id : String)
  | serviceNotDeleted (ns svc reason : String)
  | deletionRequested (namespaceId operationId : String)
  | waiting (operationId : String) (attempt : Nat) (status : OperationStatus)
  | cleanupComplete (ns : String) (services : Nat)
  deriving DecidableEq, Repr

namespace Event

/-- How much an event matters. -/
def level : Event → Level
  | mismatch .. => .error
  | ttlClamped .. | serviceNotDeleted .. => .warn
  | nothingToCleanUp .. | serviceDeleted .. | deletionRequested .. | waiting ..
  | cleanupComplete .. => .info
  | caching .. | namespaceHit .. | namespaceHitAbsent .. | namespaceMiss ..
  | serviceIdHit .. | serviceIdMiss .. | endpointsHit .. | endpointsMiss ..
  | evictingEndpoints .. | namespaceUnknown .. | endpointsResolved .. => .debug

/-- The text of an event. -/
def message : Event → String
  | ttlClamped .. => "TTL too large, clamping"
  | caching kind .. => "Caching " ++ kind.label
  | mismatch _ expected _ =>
      "Failed to retrieve " ++ expected.label ++ " from cache, evicting entry"
  | namespaceHit .. => "Namespace cache hit"
  | namespaceHitAbsent .. => "Namespace cache hit (not found)"
  | namespaceMiss .. => "Namespace cache miss"
  | serviceIdHit .. => "Service id cache hit"
  | serviceIdMiss .. => "Service id cache miss"
  | endpointsHit .. => "Endpoints cache hit"
  | endpointsMiss .. => "Endpoints cache miss"
  | evictingEndpoints .. => "Evicting endpoints"
  | namespaceUnknown .. => "Namespace not found in registry"
  | endpointsResolved .. => "Resolved endpoints"
  | nothingToCleanUp .. => "Namespace not found, nothing to clean up"
  | serviceDeleted .. => "Service deleted"
  | serviceNotDeleted _ _ reason => "Failed to delete service: " ++ reason
  | deletionRequested .. => "Namespace deletion requested"
  | waiting .. => "Waiting for operation"
  | cleanupComplete .. => "Namespace cleanup complete"

/-- The fields of an event. Milliseconds are logged in a 64-bit word. -/
def fields : Event → List (String × FieldValue)
  | ttlClamped store ttl =>
      [("store", .text store), ("ttl_secs", .number ttl.secs.toNat)]
  | caching _ key ttl =>
      [("key", .text key.text), ("ttl_ms", .number (ttl.toMillis % UInt64.size))]
  | mismatch key expected found =>
      [("key", .text key.text), ("expected", .text expected.label),
       ("found", .text found.label)]
  | namespaceHit ns | namespaceHitAbsent ns | namespaceMiss ns
  | namespaceUnknown ns | nothingToCleanUp ns => [("ns", .text ns)]
  | serviceIdHit ns svc | serviceIdMiss ns svc | endpointsHit ns svc
  | endpointsMiss ns svc | evictingEndpoints ns svc
  | serviceNotDeleted ns svc _ => [("ns", .text ns), ("svc", .text svc)]
  | endpointsResolved ns svc count =>
      [("ns", .text ns), ("svc", .text svc), ("count", .number count)]
  | serviceDeleted id => [("service_id", .text id)]
  | deletionRequested namespaceId operationId =>
      [("namespace_id", .text namespaceId), ("operation_id", .text operationId)]
  | waiting operationId attempt status =>
      [("operation_id", .text operationId), ("attempt", .number attempt),
       ("status", .text status.label)]
  | cleanupComplete ns services =>
      [("ns", .text ns), ("services", .number services)]

end Event

end Discovery
