import Discovery.Cache.Basic
/-!
Runs of operations on a cache.

* `Cache.Request` and `Cache.Reply`: the lookups and writes of the cache;
* `Cache.Op`: a request, or an operation on the store behind the cache, which
  is how the clock moves and how entries of the wrong kind come about;
* `Cache.run`: the cache after a list of operations.
-/

namespace Discovery.Cache

/-- A lookup or a write. -/
inductive Request
  | getNamespace (ns : String)
  | putNamespace (record : Namespace)
  | putAbsence (ns : String)
  | getServiceId (ns svc : String)
  | putServiceId (ns svc id : String)
  | getEndpoints (ns svc : String)
  | putEndpoints (ns svc : String) (endpoints : List Endpoint)
  | evictEndpoints (ns svc : String)
  deriving DecidableEq, Repr

/-- What a request is answered with. -/
inductive Reply
  | done
  | namespaceRecord (known : Option (Option Namespace))
  | serviceId (known : Option String)
  | endpointSet (known : Option (List Endpoint))
  deriving DecidableEq, Repr

/-- A computation with its answer made a reply. -/
def replying {α : Type} (reply : α → Reply) (x : Action Event Cache (Result α)) :
    Action Event Cache (Result Reply) :=
  Except.map reply <$> x

/-- The reply, the effect and the events of a request. -/
def serve : Request → Action Event Cache (Result Reply)
  | .getNamespace ns => replying .namespaceRecord (getNamespace ns)
  | .putNamespace record => replying (fun () => .done) (putNamespace record)
  | .putAbsence ns => replying (fun () => .done) (putAbsence ns)
  | .getServiceId ns svc => replying .serviceId (getServiceId ns svc)
  | .putServiceId ns svc id => replying (fun () => .done) (putServiceId ns svc id)
  | .getEndpoints ns svc => replying .endpointSet (getEndpoints ns svc)
  | .putEndpoints ns svc endpoints => replying (fun () => .done) (putEndpoints ns svc endpoints)
  | .evictEndpoints ns svc => do evictEndpoints ns svc; pure (.ok .done)

/-- A request, or an operation on the store behind the cache. -/
inductive Op
  | request (r : Request)
  | direct (op : Store.Op Key Payload)
  deriving DecidableEq, Repr

/-- What an operation is answered with. -/
inductive Answer
  | reply (r : Result Reply)
  | direct (a : Except ClockFault (Option Payload))

/-- The answer, the effect and the events of an operation. -/
def act : Op → Action Event Cache Answer
  | .request r => .reply <$> serve r
  | .direct op => .direct <$> onStore (Store.act op)

/-- The cache after a list of operations. -/
def run (ops : List Op) (c : Cache) : Cache := (Action.each act ops c).state

@[simp] theorem run_nil (c : Cache) : run [] c = c := rfl

@[simp] theorem run_cons (op : Op) (ops : List Op) (c : Cache) :
    run (op :: ops) c = run ops (act op c).state := rfl

theorem run_append (l r : List Op) (c : Cache) : run (l ++ r) c = run r (run l c) :=
  Action.each_append_state act l r c

end Discovery.Cache
