import Discovery.Record.Codec.Value
import Discovery.Record.Namespace
/-!
Namespaces in JSON.

* `Namespace.encode` and `Namespace.decode`: writing and reading a namespace;
* `NamespaceType.encode` and `NamespaceType.decode`: its type, where every
  name that is not known stands for a type that is not supported.
-/

namespace Discovery

namespace NamespaceType

/-- A type in JSON. -/
def encode (t : NamespaceType) : Json := .str t.label

/-- The type that goes by a name. -/
def named (name : String) : NamespaceType :=
  ([http, dnsPrivate].find? fun t => t.label = name).getD unsupported

/-- The type that a value stands for. -/
def decode (v : Json) : Decoded NamespaceType := do
  let (name, content) ← Decode.variant v
  Decode.unit content
  .ok (named name)

end NamespaceType

namespace Namespace

/-- A namespace in JSON. -/
def encode (ns : Namespace) : Json :=
  .obj [("id", .str ns.id), ("name", .str ns.name), ("namespace_type", ns.type.encode)]

/-- A namespace in object form. -/
def ofMembers (m : Dictionary Json) : Decoded Namespace := do
  let id ← Decode.field? m "id" Decode.text
  let name ← Decode.field? m "name" Decode.text
  let type ← Decode.field? m "namespace_type" NamespaceType.decode
  let id ← Decode.required "id" id
  let name ← Decode.required "name" name
  let type ← Decode.required "namespace_type" type
  .ok ⟨id, name, type⟩

/-- A namespace in array form. -/
def ofItems (items : List Json) : Decoded Namespace := do
  let id ← Decode.element .namespaceRecord items 0 Decode.text
  let name ← Decode.element .namespaceRecord items 1 Decode.text
  let type ← Decode.element .namespaceRecord items 2 NamespaceType.decode
  Decode.noMore .namespaceRecord items
  .ok ⟨id, name, type⟩

/-- The namespace that a value stands for. -/
def decode : Json → Decoded Namespace :=
  Decode.record .namespaceRecord ofMembers ofItems

end Namespace

end Discovery
