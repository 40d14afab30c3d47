import ClusterTransport.DiscoveryService.Message
import ClusterTransport.Error

/-!
# Discovery results

What a discovery round hands on: the location of the server that answered, and the endpoints it
listed. A response is unwrapped into a result by checking its operation and reading what it packs.
-/

namespace ClusterTransport

structure DiscoveryResult where
  selfLocation : String := ""
  endpoints : List Endpoint := []
deriving DecidableEq, Repr

namespace DiscoveryService

/-- The endpoint that the server lists, unless its port is no port. -/
def EndpointInfo.endpoint? (m : EndpointInfo) : Option Endpoint :=
  if m.port.toNat ≤ 65535 then
    some {
      host := m.address
      port := UInt16.ofNat m.port.toNat
      nodeId := m.nodeId
      location := m.location
      loadFactor := m.loadFactor }
  else none

def ListEndpointsResult.usable (m : ListEndpointsResult) : DiscoveryResult :=
  { selfLocation := m.selfLocation, endpoints := m.endpoints.filterMap EndpointInfo.endpoint? }

def ListEndpointsResponse.result (m : ListEndpointsResponse) :
    Except DiscoveryFault DiscoveryResult :=
  match m.operation with
  | none => .error .noOperation
  | some o =>
    if o.ready then
      let status := StatusCode.ofNumber o.status.toInt
      if status = .success then
        match o.result with
        | none => .error .noResult
        | some p =>
          match ListEndpointsResult.decode p.value with
          | .error fault => .error (.unreadableResult fault)
          | .ok r => .ok r.usable
      else .error (.operationFailed status (o.issues.map IssueMessage.message))
    else .error (.operationPending o.id)

end DiscoveryService

end ClusterTransport
