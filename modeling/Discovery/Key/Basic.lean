/-!
The keys of the shared store, one for each thing that can be looked up.

* `Identity`: what is looked up, by kind and by the names that single it out;
* `Identity.key`: its key, a tag of the kind followed by the names, each
  after a colon, with the colons and percent signs inside names escaped;
* `Key.escape_eq_escapeEach`: a name is written character by character, also
  where it can be taken as it stands.
-/

namespace Discovery

/-- The kinds of answers that the store holds. -/
inductive Kind
  | namespaceRecord
  | serviceId
  | endpointSet
  deriving DecidableEq, Repr

namespace Kind

/-- The word that the keys of a kind start with. -/
def tag : Kind → String
  | namespaceRecord => "ns"
  | serviceId => "svc"
  | endpointSet => "endpt"

/-- The name of a kind in log events and error texts. -/
def label : Kind → String
  | namespaceRecord => "namespace"
  | serviceId => "service id"
  | endpointSet => "endpoints"

end Kind

/-- What is looked up: a namespace by its name, or the id or the endpoints of
a service by the names of its namespace and of the service. -/
inductive Identity
  | namespaceRecord (ns : String)
  | serviceId (ns svc : String)
  | endpointSet (ns svc : String)
  deriving DecidableEq, Repr

/-- A key of the store: its text, and the kind that it was built for. -/
structure Key where
  kind : Kind
  text : String
  deriving DecidableEq, Repr

namespace Key

/-- The sign that separates the parts of a key. -/
def delimiter : Char := ':'

/-- A character of a name as it is written in a key. -/
def escapeChar (c : Char) : List Char :=
  if c = '%' then ['%', '2', '5'] else if c = delimiter then ['%', '3', 'A'] else [c]

/-- A name with the escape of each of its characters in place of it. -/
def escapeEach (name : List Char) : List Char := name.flatMap escapeChar

/-- A name as it is written in a key. One with neither a delimiter nor a percent
sign is not gone through. -/
def escape (name : List Char) : List Char :=
  if '%' ∈ name ∨ delimiter ∈ name then escapeEach name else name

/-- Characters that are written as they stand make a name that is. -/
theorem escapeEach_eq_self {name : List Char} (hp : '%' ∉ name)
    (hd : delimiter ∉ name) : escapeEach name = name := by
  induction name with
  | nil => rfl
  | cons c cs ih =>
      simp only [List.mem_cons, not_or] at hp hd
      have hc : escapeChar c = [c] := by
        rw [escapeChar]
        rw [if_neg (fun h => hp.1 h.symm), if_neg (fun h => hd.1 h.symm)]
      show escapeChar c ++ escapeEach cs = c :: cs
      rw [hc, ih hp.2 hd.2]
      rfl

/-- Whether a name is gone through or not, each of its characters is written as
its escape. -/
theorem escape_eq_escapeEach (name : List Char) : escape name = escapeEach name := by
  rw [escape]
  split
  · rfl
  · next h =>
      rw [not_or] at h
      exact (escapeEach_eq_self h.1 h.2).symm

/-- The key of a kind for the names that single out one thing of it. -/
def build (kind : Kind) (names : List String) : Key where
  kind := kind
  text := String.ofList
    (kind.tag.toList ++ names.flatMap fun name => delimiter :: escape name.toList)

end Key

namespace Identity

/-- The kind of the thing that is looked up. -/
def kind : Identity → Kind
  | namespaceRecord _ => .namespaceRecord
  | serviceId _ _ => .serviceId
  | endpointSet _ _ => .endpointSet

/-- The names that single it out among things of its kind. -/
def names : Identity → List String
  | namespaceRecord ns => [ns]
  | serviceId ns svc => [ns, svc]
  | endpointSet ns svc => [ns, svc]

/-- The key under which it is stored. -/
def key (i : Identity) : Key := .build i.kind i.names

@[simp] theorem key_kind (i : Identity) : i.key.kind = i.kind := rfl

end Identity

end Discovery
