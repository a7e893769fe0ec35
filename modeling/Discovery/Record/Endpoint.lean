import Discovery.Record.Dictionary
/-!
The endpoints registered for a service.

* `Endpoint.new`: a ready endpoint with only an id, an address and a port;
* `Endpoint.inCluster`: the same endpoint owned by a cluster;
* `Endpoint.address`: where it is reached.
-/

namespace Discovery

/-- How a service is exposed across the cluster set. -/
inductive ServiceType
  | clusterSetIp
  | headless
  deriving DecidableEq, Repr

/-- The name of a way of exposing a service. -/
def ServiceType.label : ServiceType → String
  | clusterSetIp => "ClusterSetIp"
  | headless => "Headless"

/-- A port with its name, its target and its protocol. -/
structure Port where
  name : String
  number : UInt16
  target : String
  protocol : String
  deriving DecidableEq, Repr

/-- A port known by its number only. -/
def Port.bare (number : UInt16) : Port := ⟨"", number, "", ""⟩

/-- A network endpoint registered for a service. The time of the service's
export is in milliseconds since 1970; `attributes` holds what the registry
keeps beyond the other fields. -/
structure Endpoint where
  id : String
  ip : String
  endpointPort : Port
  servicePort : Port
  clusterId : String
  clusterSetId : String
  serviceType : ServiceType
  exportedAt : Int64
  ready : Bool
  hostname : Option String
  nodename : Option String
  attributes : Dictionary String
  deriving DecidableEq, Repr

namespace Endpoint

/-- A ready endpoint whose two ports have the same number. -/
def new (id ip : String) (port : UInt16) : Endpoint where
  id := id
  ip := ip
  endpointPort := .bare port
  servicePort := .bare port
  clusterId := ""
  clusterSetId := ""
  serviceType := .clusterSetIp
  exportedAt := 0
  ready := true
  hostname := none
  nodename := none
  attributes := .empty

/-- The endpoint owned by a cluster of a cluster set. -/
def inCluster (e : Endpoint) (clusterId clusterSetId : String) : Endpoint :=
  { e with clusterId := clusterId, clusterSetId := clusterSetId }

/-- The address and the port at which the endpoint is reached. -/
def address (e : Endpoint) : String :=
  e.ip ++ ":" ++ toString e.endpointPort.number.toNat

end Endpoint

end Discovery
