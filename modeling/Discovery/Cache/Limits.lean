import Discovery.Key.Basic
import Discovery.Time.Duration
/-!
What bounds a cache: how many entries it holds, and how long each kind of
entry lives.

* `Limits.standard`: the limits that hold unless others are given;
* `Limits.ttl`: the time to live of a kind.
-/

namespace Discovery

/-- The bounds of a cache. All kinds of entries share one capacity. -/
structure Limits where
  capacity : UInt64
  namespaceTtl : Duration
  serviceTtl : Duration
  endpointTtl : Duration
  deriving DecidableEq, Repr

namespace Limits

/-- The limits that hold unless others are given. Endpoints live shortly,
because stale ones misroute traffic. -/
def standard : Limits where
  capacity := 1024
  namespaceTtl := .ofSecs 120
  serviceTtl := .ofSecs 120
  endpointTtl := .ofSecs 5

instance : Inhabited Limits := ⟨standard⟩

/-- The standard limits with another capacity. -/
def ofCapacity (capacity : UInt64) : Limits := { standard with capacity := capacity }

/-- The time to live of entries of a kind. -/
def ttl (l : Limits) : Kind → Duration
  | .namespaceRecord => l.namespaceTtl
  | .serviceId => l.serviceTtl
  | .endpointSet => l.endpointTtl

/-- The description of limits. -/
def describe (l : Limits) : String :=
  "CacheConfig \x7b max_capacity: " ++ toString l.capacity.toNat ++
    ", namespace_ttl: " ++ l.namespaceTtl.render ++
    ", service_ttl: " ++ l.serviceTtl.render ++
    ", endpoint_ttl: " ++ l.endpointTtl.render ++ " \x7d"

end Limits

end Discovery
