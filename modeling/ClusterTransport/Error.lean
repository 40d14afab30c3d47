import ClusterTransport.Address
import ClusterTransport.DiscoveryService.StatusCode
import ClusterTransport.Status
import ClusterTransport.Url.Basic
import ClusterTransport.Wire.Field

/-!
# Errors

What a transport answers instead of a result: causes as data, and one wording for each.
-/

namespace ClusterTransport

inductive ConfigurationFault where
  | address (fault : Address.Fault)
  | url (fault : Url.Fault)
  | unsupportedScheme (scheme : String)
  | missingHost
  | databaseHeader
  | buildHeader
  | traceId (id : String)
  /-- No connection can be addressed to an endpoint with this address. -/
  | endpointUri (target : String)
  | uri
  /-- The host of a secure connection is no name that a certificate could bear. -/
  | secureName
  /-- Discovery was started where no task can be run. -/
  | noExecutor
  | described (text : String)
deriving DecidableEq, Repr

def ConfigurationFault.message : ConfigurationFault → String
  | .address fault => fault.message
  | .url fault => "invalid connection string: " ++ fault.message
  | .unsupportedScheme scheme =>
    "unsupported scheme " ++ scheme ++ ", expected grpc or grpcs"
  | .missingHost => "connection string has no host"
  | .databaseHeader => "database name is not a valid header: failed to parse metadata value"
  | .buildHeader => "build info is not a valid header: failed to parse metadata value"
  | .traceId id => "trace id " ++ Text.quote id ++ " is not a valid header value"
  | .endpointUri target => "Invalid endpoint URI for " ++ target ++ ": invalid URI"
  | .uri => "invalid URI"
  | .secureName => "transport error"
  | .noExecutor =>
    "discovery requires a tokio runtime: there is no reactor running, " ++
      "must be called from the context of a Tokio 1.x runtime"
  | .described text => text

inductive DiscoveryFault where
  | noOperation
  | operationPending (id : String)
  | operationFailed (status : DiscoveryService.StatusCode) (issues : List String)
  | noResult
  | unreadableResult (fault : Wire.Fault)
  | callFailed (status : Status)
  | noEndpoints
  | described (text : String)
deriving DecidableEq, Repr

def DiscoveryFault.message : DiscoveryFault → String
  | .noOperation => "response has no operation"
  | .operationPending id => "operation " ++ id ++ " is not ready"
  | .operationFailed status issues =>
    "operation failed with " ++ status.name ++ ": " ++ "; ".intercalate issues
  | .noResult => "operation has no result"
  | .unreadableResult fault => "cannot decode ListEndpointsResult: " ++ fault.message
  | .callFailed status => "ListEndpoints RPC failed: " ++ status.describe
  | .noEndpoints => "empty endpoint list"
  | .described text => text

inductive TimeoutFault where
  /-- The deadline had passed before the call was sent. -/
  | deadline
  /-- A discovery round was not answered within this number of seconds. -/
  | round (seconds : UInt64)
  | described (text : String)
deriving DecidableEq, Repr

def TimeoutFault.message : TimeoutFault → String
  | .deadline => "deadline expired before the call was sent"
  | .round seconds => "discovery did not answer in " ++ toString seconds.toNat ++ "s"
  | .described text => text

inductive IoFault where
  | noSuchFile
  | isDirectory
  /-- The path goes on behind something that is no directory. -/
  | notDirectory
  | nameTooLong
  /-- The name of the file holds a NUL character, which ends names. -/
  | nulInName
  | unexpectedEnd
  | described (text : String)
deriving DecidableEq, Repr

def IoFault.message : IoFault → String
  | .noSuchFile => "No such file or directory (os error 2)"
  | .isDirectory => "Is a directory (os error 21)"
  | .notDirectory => "Not a directory (os error 20)"
  | .nameTooLong => "File name too long (os error 36)"
  | .nulInName => "file name contained an unexpected NUL byte"
  | .unexpectedEnd => "unexpected end of file"
  | .described text => text

inductive Error where
  | shuttingDown
  | notReady
  | noEndpoints
  | discovery (fault : DiscoveryFault)
  | rpc (status : Status)
  | configuration (fault : ConfigurationFault)
  | timeout (fault : TimeoutFault)
  | io (fault : IoFault)
deriving DecidableEq, Repr

namespace Error

def message : Error → String
  | shuttingDown => "Request was not sent: transport is shutting down"
  | notReady => "Request was not sent: transport is not ready"
  | noEndpoints => "No endpoints available"
  | discovery fault => "Discovery failed: " ++ fault.message
  | rpc status => "RPC error: " ++ status.describe
  | configuration fault => "Configuration error: " ++ fault.message
  | timeout fault => "Timeout: " ++ fault.message
  | io fault => "IO error: " ++ fault.message

def code : Error → Code
  | shuttingDown => .cancelled
  | notReady => .deadlineExceeded
  | timeout _ => .deadlineExceeded
  | noEndpoints => .unavailable
  | discovery _ => .unavailable
  | rpc status => status.code
  | configuration _ => .invalidArgument
  | io _ => .internal

/-- Whether the same request may be sent again with a fresh deadline. -/
def isRetryable : Error → Bool
  | notReady => true
  | noEndpoints => true
  | timeout _ => true
  | rpc status =>
    status.code = .unavailable || status.code = .deadlineExceeded ||
      status.code = .resourceExhausted
  | _ => false

/-- The status that a caller is given for an error: that of the call, or a new one. -/
def toStatus : Error → Status
  | rpc status => status
  | e => { code := e.code, message := e.message }

end Error

end ClusterTransport
