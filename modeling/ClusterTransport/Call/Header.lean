import ClusterTransport.Error
import ClusterTransport.Text.Utf8

/-!
# Headers

The headers of a request, and those that every request of a channel carries.
-/

namespace ClusterTransport

abbrev Headers := List (String × String)

namespace Headers

def databaseName : String := "x-ydb-database"

def buildInfoName : String := "x-ydb-sdk-build-info"

def traceIdName : String := "x-ydb-trace-id"

def timeoutName : String := "grpc-timeout"

/-- Whether a byte may stand in a value: tabs and all but controls. -/
def isValueByte (b : UInt8) : Bool :=
  (32 ≤ b && b != 127) || b == 9

def isValue (s : String) : Bool :=
  (Text.Utf8.encode s).all isValueByte

/-- Sets a header; other values of that name are dropped. -/
def set (name value : String) (h : Headers) : Headers :=
  h.filter (fun r => r.1 ≠ name) ++ [(name, value)]

def sorted (h : Headers) : Headers :=
  h.mergeSort fun a b => a.1 ≤ b.1

end Headers

/-- The values that every request of a channel carries. -/
structure ChannelHeaders where
  database : Option String
  buildInfo : String
deriving DecidableEq, Repr

namespace ChannelHeaders

/-- The headers of a database and a client. An empty database path is not sent. -/
def ofNames (database buildInfo : String) : Except ConfigurationFault ChannelHeaders :=
  if !database.isEmpty && !Headers.isValue database then .error .databaseHeader
  else if !Headers.isValue buildInfo then .error .buildHeader
  else .ok ⟨if database.isEmpty then none else some database, buildInfo⟩

def apply (c : ChannelHeaders) (h : Headers) : Headers :=
  let named := match c.database with
    | some database => h.set Headers.databaseName database
    | none => h
  named.set Headers.buildInfoName c.buildInfo

end ChannelHeaders

end ClusterTransport
