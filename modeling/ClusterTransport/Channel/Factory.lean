import ClusterTransport.Call.Header
import ClusterTransport.Channel.ServerName
import ClusterTransport.Channel.Uri
import ClusterTransport.Config.Basic

/-!
# Channels to services

What makes a channel to an endpoint. Channels connect when they are first used, so making one only
checks that the endpoint can be addressed.
-/

namespace ClusterTransport

structure Channel where
  headers : ChannelHeaders
  maxInboundSize : Nat
deriving DecidableEq, Repr

/-- What is common to all channels of a transport. -/
structure ChannelFactory where
  useTls : Bool
  headers : ChannelHeaders
  maxInboundSize : Nat
deriving DecidableEq, Repr

namespace ChannelFactory

/-- Whether a service can be addressed by a URI; a local socket is addressed by its path. -/
def isTarget (uri : String) : Bool :=
  "unix:".toList.isPrefixOf uri.toList || Uri.isValid uri

def ofConfig (read : String → Config.PathContent) (c : Config) : Except Error ChannelFactory :=
  match c.trustedCertificate read with
  | .error e => .error e
  | .ok _ =>
    match ChannelHeaders.ofNames c.database c.buildInfo with
    | .error fault => .error (.configuration fault)
    | .ok headers => .ok ⟨c.useTls, headers, c.maxInboundSize.toNat⟩

def uri (f : ChannelFactory) (e : Endpoint) : String :=
  (if f.useTls then "https://" else "http://") ++ e.address

def create (f : ChannelFactory) (e : Endpoint) : Except Error Channel :=
  if !isTarget (f.uri e) then .error (.configuration (.endpointUri e.address))
  else if f.useTls && !ServerName.isValid e.host then .error (.configuration .secureName)
  else .ok ⟨f.headers, f.maxInboundSize⟩

end ChannelFactory

end ClusterTransport
