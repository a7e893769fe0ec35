/-!
Namespaces as the registry records them.

* `NamespaceType.ofRegistry`: the type that a word of the registry stands for;
* `NamespaceType.label`: the word that stands for a type, with one word for
  all types that are not supported.
-/

namespace Discovery

/-- The types of namespaces. Services can be registered in the first two. -/
inductive NamespaceType
  | http
  | dnsPrivate
  | unsupported
  deriving DecidableEq, Repr

namespace NamespaceType

/-- The type that a word of the registry stands for. -/
def ofRegistry (word : String) : NamespaceType :=
  if word = "HTTP" then http
  else if word = "DNS_PRIVATE" then dnsPrivate
  else unsupported

/-- The word that stands for a type. -/
def label : NamespaceType → String
  | http => "HTTP"
  | dnsPrivate => "DNS_PRIVATE"
  | unsupported => "Unsupported"

/-- Whether services can be registered in namespaces of a type. -/
def isSupported (t : NamespaceType) : Bool := t != unsupported

end NamespaceType

/-- A namespace: the id that the registry gave it, its name and its type. -/
structure Namespace where
  id : String
  name : String
  type : NamespaceType
  deriving DecidableEq, Repr

/-- Whether services can be registered in a namespace. -/
def Namespace.isSupported (ns : Namespace) : Bool := ns.type.isSupported

end Discovery
