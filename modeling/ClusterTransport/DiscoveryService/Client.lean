import ClusterTransport.Call.Exchange
import ClusterTransport.DiscoveryService.Result

/-!
# Asking for endpoints

The discovery round over a channel to the bootstrap endpoint.
-/

namespace ClusterTransport.DiscoveryService

structure Client where
  channel : Channel
  database : String
  timeout : Span
deriving DecidableEq, Repr

namespace Client

def ofConfig (read : String → Config.PathContent) (c : Config) : Except Error Client := do
  let bootstrap ← c.bootstrap
  let factory ← ChannelFactory.ofConfig read c
  let channel ← factory.create bootstrap
  pure ⟨channel, c.database, Span.seconds c.discovery.timeout.toNat⟩

def result (r : Except Status ListEndpointsResponse) : Except Error DiscoveryResult :=
  match r with
  | .error s => .error (.discovery (.callFailed s))
  | .ok response =>
    match response.result with
    | .ok found => .ok found
    | .error fault => .error (.discovery fault)

/-- Lists the endpoints. There is no outcome if the deadline lies beyond the end of time or cannot
be written. -/
def listEndpoints (c : Client) (server : Server) (now : Instant) :
    Option (Except Error DiscoveryResult × Option SentRequest) := do
  let settings ← ({} : CallSettings).withTimeout? now c.timeout
  let request : ListEndpointsRequest := { database := c.database }
  let outcome ← Call.run c.channel server settings listEndpointsPath request.encode
    (ServerReply.unary ListEndpointsResponse.decode) now 0
  pure (result outcome.result, outcome.sent)

end Client

end ClusterTransport.DiscoveryService
