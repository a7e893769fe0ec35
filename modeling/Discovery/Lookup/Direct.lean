import Discovery.Registry.Basic
/-!
Lookups without a cache, in a directory that does not change.

* `Directory`: what a registry holds, as functions of the questions;
* `Directory.serviceId`, `Directory.endpointSet`: the answers that come of
  asking every question anew;
* `Registry.Follows`: a registry whose answers, if it answers at all, are
  those of a directory;
* `Registry.SettlesOn`: a registry that does so from some states on;
* `Directory.registry`: the registry that answers as a directory does.
-/

namespace Discovery

/-- What a registry holds. -/
structure Directory where
  /-- The namespace of a name. -/
  namespaceRecord : String → Option Namespace
  /-- The id of a service in a namespace. -/
  idWithin : Namespace → String → Option String
  /-- The endpoints listed for the id of a service. -/
  listed : String → String → List Endpoint

namespace Directory

/-- Every namespace goes by the name under which it is found. -/
def WellNamed (d : Directory) : Prop :=
  ∀ ns record, d.namespaceRecord ns = some record → record.name = ns

/-- The id of a service, by way of its namespace. -/
def serviceId (d : Directory) (ns svc : String) : Option String :=
  (d.namespaceRecord ns).bind fun record => d.idWithin record svc

/-- The endpoints of a service, by way of its id; none if it has no id. -/
def endpointSet (d : Directory) (ns svc : String) : List Endpoint :=
  match d.serviceId ns svc with
  | none => []
  | some id => d.listed ns id

variable {d : Directory} {ns svc id : String} {record : Namespace}

theorem serviceId_of_some (h : d.namespaceRecord ns = some record) :
    d.serviceId ns svc = d.idWithin record svc := by
  rw [serviceId, h, Option.bind_some]

theorem serviceId_of_none (h : d.namespaceRecord ns = none) : d.serviceId ns svc = none := by
  rw [serviceId, h, Option.bind_none]

theorem endpointSet_of_some (h : d.serviceId ns svc = some id) :
    d.endpointSet ns svc = d.listed ns id := by
  rw [endpointSet, h]

theorem endpointSet_of_none (h : d.serviceId ns svc = none) : d.endpointSet ns svc = [] := by
  rw [endpointSet, h]

end Directory

/-- A registry whose answers are those of a directory, in whatever state it is
asked. Each single call may fail instead. -/
structure Registry.Follows {ρ ε : Type} (R : Registry ρ ε) (d : Directory) : Prop where
  findNamespace : ∀ ns s a, (R.findNamespace ns s).1 = .ok a → a = d.namespaceRecord ns
  findServiceId : ∀ record svc s a,
    (R.findServiceId record svc s).1 = .ok a → a = d.idWithin record svc
  listEndpoints : ∀ ns id s a, (R.listEndpoints ns id s).1 = .ok a → a = d.listed ns id

/-- A registry that, once it is in a settled state, stays in such states and
answers as a directory does. Each single call may fail instead, and before that
its answers can be any. -/
structure Registry.SettlesOn {ρ ε : Type} (R : Registry ρ ε) (d : Directory)
    (settled : ρ → Prop) : Prop where
  findNamespace : ∀ ns s, settled s → settled (R.findNamespace ns s).2 ∧
    ∀ a, (R.findNamespace ns s).1 = .ok a → a = d.namespaceRecord ns
  findServiceId : ∀ record svc s, settled s → settled (R.findServiceId record svc s).2 ∧
    ∀ a, (R.findServiceId record svc s).1 = .ok a → a = d.idWithin record svc
  listEndpoints : ∀ ns id s, settled s → settled (R.listEndpoints ns id s).2 ∧
    ∀ a, (R.listEndpoints ns id s).1 = .ok a → a = d.listed ns id

/-- A registry that follows a directory is settled on it in every state. -/
theorem Registry.Follows.settlesOn {ρ ε : Type} {R : Registry ρ ε} {d : Directory}
    (h : R.Follows d) : R.SettlesOn d fun _ => True where
  findNamespace ns s _ := ⟨trivial, h.findNamespace ns s⟩
  findServiceId record svc s _ := ⟨trivial, h.findServiceId record svc s⟩
  listEndpoints ns id s _ := ⟨trivial, h.listEndpoints ns id s⟩

/-- The registry that answers as a directory does, and never fails. -/
def Directory.registry (d : Directory) (ε : Type) : Registry Unit ε where
  findNamespace ns s := (.ok (d.namespaceRecord ns), s)
  findServiceId record svc s := (.ok (d.idWithin record svc), s)
  listEndpoints ns id s := (.ok (d.listed ns id), s)

theorem Directory.follows_registry (d : Directory) (ε : Type) : (d.registry ε).Follows d where
  findNamespace _ _ _ h := (Except.ok.inj h).symm
  findServiceId _ _ _ _ h := (Except.ok.inj h).symm
  listEndpoints _ _ _ _ h := (Except.ok.inj h).symm

end Discovery
