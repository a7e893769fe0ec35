import Discovery.Record.Codec.Value
import Discovery.Record.Endpoint
/-!
Endpoints in JSON.

* `Endpoint.encode` and `Endpoint.decode`: writing and reading an endpoint;
* `Port.encode`, `Port.decode`, `ServiceType.encode`, `ServiceType.decode`:
  its parts.

In object form the members are read in ascending order of their names, and
then the missing ones are looked for in the order of the fields; in array form
the items stand in the order of the fields.
-/

namespace Discovery

namespace ServiceType

/-- A way of exposing a service in JSON. -/
def encode (t : ServiceType) : Json := .str t.label

/-- The way of exposing a service that goes by a name. -/
def named? (name : String) : Option ServiceType :=
  [clusterSetIp, headless].find? fun t => t.label = name

/-- The way of exposing a service that a value stands for. -/
def decode (v : Json) : Decoded ServiceType := do
  let (name, content) ← Decode.variant v
  match named? name with
  | none => .error (.unknownServiceType name)
  | some t => do
      Decode.unit content
      .ok t

end ServiceType

namespace Port

/-- A port in JSON. -/
def encode (p : Port) : Json :=
  .obj [("name", .str p.name), ("port", .int p.number.toNat),
    ("target_port", .str p.target), ("protocol", .str p.protocol)]

/-- A port in object form. -/
def ofMembers (m : Dictionary Json) : Decoded Port := do
  let name ← Decode.field? m "name" Decode.text
  let number ← Decode.field? m "port" Decode.word16
  let protocol ← Decode.field? m "protocol" Decode.text
  let target ← Decode.field? m "target_port" Decode.text
  let name ← Decode.required "name" name
  let number ← Decode.required "port" number
  let target ← Decode.required "target_port" target
  let protocol ← Decode.required "protocol" protocol
  .ok ⟨name, number, target, protocol⟩

/-- A port in array form. -/
def ofItems (items : List Json) : Decoded Port := do
  let name ← Decode.element .port items 0 Decode.text
  let number ← Decode.element .port items 1 Decode.word16
  let target ← Decode.element .port items 2 Decode.text
  let protocol ← Decode.element .port items 3 Decode.text
  Decode.noMore .port items
  .ok ⟨name, number, target, protocol⟩

/-- The port that a value stands for. -/
def decode : Json → Decoded Port := Decode.record .port ofMembers ofItems

end Port

namespace Endpoint

/-- The attributes of an endpoint in JSON. -/
def encodeAttributes (d : Dictionary String) : Json :=
  .obj (d.entries.map fun e => (e.1, .str e.2))

/-- An endpoint in JSON. -/
def encode (e : Endpoint) : Json :=
  .obj [("id", .str e.id), ("ip", .str e.ip),
    ("endpoint_port", e.endpointPort.encode), ("service_port", e.servicePort.encode),
    ("cluster_id", .str e.clusterId), ("cluster_set_id", .str e.clusterSetId),
    ("service_type", e.serviceType.encode),
    ("service_export_creation_timestamp", .int e.exportedAt.toInt),
    ("ready", .bool e.ready), ("hostname", .ofOption e.hostname),
    ("nodename", .ofOption e.nodename), ("attributes", encodeAttributes e.attributes)]

/-- An endpoint in object form. -/
def ofMembers (m : Dictionary Json) : Decoded Endpoint := do
  let attributes ← Decode.field? m "attributes" Decode.textMap
  let clusterId ← Decode.field? m "cluster_id" Decode.text
  let clusterSetId ← Decode.field? m "cluster_set_id" Decode.text
  let endpointPort ← Decode.field? m "endpoint_port" Port.decode
  let hostname ← Decode.field? m "hostname" Decode.optionalText
  let id ← Decode.field? m "id" Decode.text
  let ip ← Decode.field? m "ip" Decode.text
  let nodename ← Decode.field? m "nodename" Decode.optionalText
  let ready ← Decode.field? m "ready" Decode.flag
  let exportedAt ← Decode.field? m "service_export_creation_timestamp" Decode.int64
  let servicePort ← Decode.field? m "service_port" Port.decode
  let serviceType ← Decode.field? m "service_type" ServiceType.decode
  let id ← Decode.required "id" id
  let ip ← Decode.required "ip" ip
  let endpointPort ← Decode.required "endpoint_port" endpointPort
  let servicePort ← Decode.required "service_port" servicePort
  let clusterId ← Decode.required "cluster_id" clusterId
  let clusterSetId ← Decode.required "cluster_set_id" clusterSetId
  let serviceType ← Decode.required "service_type" serviceType
  let exportedAt ← Decode.required "service_export_creation_timestamp" exportedAt
  let ready ← Decode.required "ready" ready
  .ok ⟨id, ip, endpointPort, servicePort, clusterId, clusterSetId, serviceType, exportedAt,
    ready, hostname.getD none, nodename.getD none, attributes.getD .empty⟩

/-- The attributes of an endpoint in array form, which may be left out. -/
def attributesItem (items : List Json) : Decoded (Dictionary String) :=
  match items[11]? with
  | none => .ok .empty
  | some value => Decode.textMap value

/-- An endpoint in array form. -/
def ofItems (items : List Json) : Decoded Endpoint := do
  let id ← Decode.element .endpoint items 0 Decode.text
  let ip ← Decode.element .endpoint items 1 Decode.text
  let endpointPort ← Decode.element .endpoint items 2 Port.decode
  let servicePort ← Decode.element .endpoint items 3 Port.decode
  let clusterId ← Decode.element .endpoint items 4 Decode.text
  let clusterSetId ← Decode.element .endpoint items 5 Decode.text
  let serviceType ← Decode.element .endpoint items 6 ServiceType.decode
  let exportedAt ← Decode.element .endpoint items 7 Decode.int64
  let ready ← Decode.element .endpoint items 8 Decode.flag
  let hostname ← Decode.element .endpoint items 9 Decode.optionalText
  let nodename ← Decode.element .endpoint items 10 Decode.optionalText
  let attributes ← attributesItem items
  Decode.noMore .endpoint items
  .ok ⟨id, ip, endpointPort, servicePort, clusterId, clusterSetId, serviceType, exportedAt,
    ready, hostname, nodename, attributes⟩

/-- The endpoint that a value stands for. -/
def decode : Json → Decoded Endpoint := Decode.record .endpoint ofMembers ofItems

end Endpoint

end Discovery
