import Discovery.Cache.Basic
import Discovery.Log.Happening
import Discovery.Registry.Basic
/-!
Lookups that ask the cache first, and the registry for what the cache does not
know.

* `Lookup.namespaceRecord`: an absent namespace is remembered too;
* `Lookup.serviceId`: goes through the namespace; an absent service is not
  remembered, as it is expected to appear soon;
* `Lookup.endpoints`: goes through the service id;
* `Lookup.endpointsChanged`: forgets the endpoints of a service.

A failure of the registry is handed on as it is, and nothing is written for
the question that failed. A refusal of the clock ends a lookup as well.
-/

namespace Discovery

/-- What lookups work on: a cache, and the state of the registry. -/
structure Session (ρ : Type) where
  cache : Cache
  registry : ρ

/-- A lookup over a registry with states in `ρ` and failures in `ε`. -/
abbrev Lookup (ρ ε α : Type) : Type := Action (Happening (Exchange ε)) (Session ρ) α

namespace Lookup

/-- Why a lookup has no answer. -/
inductive Trouble (ε : Type)
  | registry (e : ε)
  | clock (fault : ClockFault)
  deriving DecidableEq, Repr

/-- The answer of a lookup, or why it has none. -/
abbrev Result (ε α : Type) : Type := Except (Trouble ε) α

variable {ρ ε α : Type}

/-! ### The two sides of a session -/

/-- What a computation over the cache does to the session. -/
def onCache (x : Action Event Cache α) : Lookup ρ ε α :=
  .within (·.cache) (fun s c => { s with cache := c }) .event x

/-- What an attempt on the cache comes to in the session. -/
def attempt (x : Action Event Cache (Cache.Result α)) : Lookup ρ ε (Result ε α) :=
  Except.mapError .clock <$> onCache x

/-- An answer, once it has been written to the cache. -/
def remember (write : Action Event Cache (Cache.Result Unit)) (a : α) :
    Lookup ρ ε (Result ε α) :=
  Except.map (fun () => a) <$> attempt write

/-- A question to the registry, kept with its answer. -/
def ask (question : ρ → Except ε α × ρ) (exchange : Except ε α → Exchange ε) :
    Lookup ρ ε (Result ε α) := do
  let a ← .modifyGet fun s =>
    ((question s.registry).1, { s with registry := (question s.registry).2 })
  .leave [.call (exchange a)]
  pure (a.mapError .registry)

/-! ### Lookups -/

/-- The namespace of a name, if there is one. -/
def namespaceRecord (R : Registry ρ ε) (ns : String) :
    Lookup ρ ε (Result ε (Option Namespace)) := do
  match ← attempt (Cache.getNamespace ns) with
  | .error e => pure (.error e)
  | .ok (some known) => pure (.ok known)
  | .ok none =>
      match ← ask (R.findNamespace ns) (.findNamespace ns) with
      | .error e => pure (.error e)
      | .ok (some record) => remember (Cache.putNamespace record) (some record)
      | .ok none =>
          .leave [.event (.namespaceUnknown ns)]
          remember (Cache.putAbsence ns) none

/-- The id of a service, if its namespace and the service exist. -/
def serviceId (R : Registry ρ ε) (ns svc : String) :
    Lookup ρ ε (Result ε (Option String)) := do
  match ← attempt (Cache.getServiceId ns svc) with
  | .error e => pure (.error e)
  | .ok (some id) => pure (.ok (some id))
  | .ok none =>
      match ← namespaceRecord R ns with
      | .error e => pure (.error e)
      | .ok none => pure (.ok none)
      | .ok (some record) =>
          match ← ask (R.findServiceId record svc) (.findServiceId record svc) with
          | .error e => pure (.error e)
          | .ok none => pure (.ok none)
          | .ok (some id) => remember (Cache.putServiceId ns svc id) (some id)

/-- The endpoints of a service; a service that does not exist has none. -/
def endpoints (R : Registry ρ ε) (ns svc : String) :
    Lookup ρ ε (Result ε (List Endpoint)) := do
  match ← attempt (Cache.getEndpoints ns svc) with
  | .error e => pure (.error e)
  | .ok (some known) => pure (.ok known)
  | .ok none =>
      match ← serviceId R ns svc with
      | .error e => pure (.error e)
      | .ok none => pure (.ok [])
      | .ok (some id) =>
          match ← ask (R.listEndpoints ns id) (.listEndpoints ns id) with
          | .error e => pure (.error e)
          | .ok listed =>
              .leave [.event (.endpointsResolved ns svc listed.length)]
              remember (Cache.putEndpoints ns svc listed) listed

/-- The endpoints of a service forgotten, because they are known to have
changed. -/
def endpointsChanged (ns svc : String) : Lookup ρ ε Unit :=
  onCache (Cache.evictEndpoints ns svc)

end Lookup

end Discovery
